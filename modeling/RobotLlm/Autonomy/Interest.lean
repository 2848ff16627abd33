import RobotLlm.Navigation.State

/-!
# Interest selection

What a selector is shown and what it may answer. The context is the host's:
one observation, a menu of opaque candidates, and the versions both were made
of. A selection is accepted only if it repeats those bindings in time; the
waypoint of a candidate stays with the host.
-/

namespace RobotLlm.Autonomy

open RobotLlm.Navigation

def maxInterestObservations : Nat := 16
def maxExplorationCandidates : Nat := 8
def maxLinkedObservations : Nat := 8

def robotBaseFrame : String := "ROBOT_BASE"

/-- An observation, as far as a context checks it. -/
structure InterestObservation where
  observationId : String
  subjectRobotId : String
  controllerInstanceId : String
  frameId : String
  receivedAtHostMs : Int
  validUntilHostMs : Int
  stateVersion : Int
  worldModelVersion : Int
  observationIdOk : identifierOk observationId := by decide
  subjectRobotIdOk : identifierOk subjectRobotId := by decide
  controllerOk : identifierOk controllerInstanceId := by decide
  frameIdOk : identifierOk frameId 96 := by decide
  receivedAtOk : Between receivedAtHostMs 0 (2 ^ 63 - 2) := by decide
  validUntilOk : Between validUntilHostMs (receivedAtHostMs + 1) counterMax := by decide
  stateVersionOk : Between stateVersion 1 counterMax := by decide
  worldModelVersionOk : Between worldModelVersion 1 counterMax := by decide

/-- What the selector sees of one waypoint opportunity. -/
structure ExplorationCandidate where
  candidateId : String
  linkedObservationIds : List String := []
  candidateIdOk : identifierOk candidateId := by decide
  linkedOk : linkedObservationIds.length ≤ maxLinkedObservations ∧
    (∀ id ∈ linkedObservationIds, identifierOk id) ∧ linkedObservationIds.Nodup := by decide

/-- A candidate with the waypoint the host keeps to itself. -/
structure ResolvedExplorationCandidate where
  view : ExplorationCandidate
  targetXMm : Int
  targetYMm : Int
  toleranceMm : Int
  memoryKey : Int × Int
  targetXOk : Between targetXMm (-1000000) 1000000 := by decide
  targetYOk : Between targetYMm (-1000000) 1000000 := by decide
  toleranceOk : Between toleranceMm 1 10000 := by decide

inductive InterestDecision where
  | select (candidateId : String)
  | hold
  | abort
deriving DecidableEq

structure InterestSelectionProposal where
  proposalId : String
  robotId : String
  controllerInstanceId : String
  autonomySessionId : String
  leaseGeneration : Int
  candidateSetId : String
  basedOnStateVersion : Int
  basedOnWorldModelVersion : Int
  decision : InterestDecision
deriving DecidableEq

structure InterestSelectionContext where
  proposalId : String
  robotId : String
  controllerInstanceId : String
  autonomySessionId : String
  leaseGeneration : Int
  candidateSetId : String
  frameId : String
  stateVersion : Int
  worldModelVersion : Int
  capturedAtMs : Int
  validUntilMs : Int
  remainingTasks : Int
  observations : List InterestObservation
  candidates : List ExplorationCandidate

namespace InterestSelectionContext

/-- The observation was made of this context's snapshot and is valid for all
of its time. -/
def Matches (c : InterestSelectionContext) (o : InterestObservation) : Prop :=
  o.subjectRobotId = c.robotId ∧ o.controllerInstanceId = c.controllerInstanceId ∧ o.frameId = c.frameId ∧
    o.stateVersion = c.stateVersion ∧ o.worldModelVersion = c.worldModelVersion ∧
    o.receivedAtHostMs ≤ c.capturedAtMs ∧ c.capturedAtMs < o.validUntilHostMs ∧
    c.validUntilMs ≤ o.validUntilHostMs

instance : Decidable (Matches c o) := inferInstanceAs (Decidable (_ ∧ _ ∧ _ ∧ _ ∧ _ ∧ _ ∧ _ ∧ _))

def checkObservations (c : InterestSelectionContext) : Except NavigationContractError Unit :=
  if c.observations.length > maxInterestObservations then
    throw ⟨"invalid_interest_observations", "Interest observations are invalid"⟩
  else if ¬ (c.observations.map (·.observationId)).Nodup then
    throw ⟨"duplicate_interest_observation", "Interest observation IDs must be unique"⟩
  else if ∃ o ∈ c.observations, ¬ c.Matches o then
    throw ⟨"stale_interest_observation", "Interest observation does not match its host context"⟩
  else return ()

def checkCandidates (c : InterestSelectionContext) : Except NavigationContractError Unit :=
  if c.candidates.length < 1 ∨ c.candidates.length > maxExplorationCandidates then
    throw ⟨"invalid_exploration_candidates", "Exploration candidates are invalid"⟩
  else if ¬ (c.candidates.map (·.candidateId)).Nodup then
    throw ⟨"duplicate_exploration_candidate", "Exploration candidate IDs must be unique"⟩
  else if ∃ k ∈ c.candidates, ¬ k.linkedObservationIds ⊆ c.observations.map (·.observationId) then
    throw ⟨"unknown_linked_observation", "Candidate links an observation outside this context"⟩
  else return ()

def postInit (c : InterestSelectionContext) : Except NavigationContractError Unit := do
  let _ ← identifier "proposal_id" c.proposalId
  let _ ← identifier "robot_id" c.robotId
  let _ ← identifier "controller_instance_id" c.controllerInstanceId
  let _ ← identifier "autonomy_session_id" c.autonomySessionId
  let _ ← integer "lease_generation" c.leaseGeneration 1 counterMax
  let _ ← identifier "candidate_set_id" c.candidateSetId
  let _ ← identifier "frame_id" c.frameId 96
  let _ ← integer "state_version" c.stateVersion 1 counterMax
  let _ ← integer "world_model_version" c.worldModelVersion 1 counterMax
  let _ ← integer "captured_at_ms" c.capturedAtMs 0 counterMax
  let _ ← integer "valid_until_ms" c.validUntilMs 0 counterMax
  if c.validUntilMs ≤ c.capturedAtMs then
    throw ⟨"invalid_selection_deadline", "Selection deadline must be after capture"⟩
  else
    let _ ← integer "remaining_tasks" c.remainingTasks 1 100000
    c.checkObservations
    c.checkCandidates

/-- `InterestSelectionContext(...)`. -/
def new (c : InterestSelectionContext) : Except NavigationContractError InterestSelectionContext := do
  c.postInit
  return c

def Binds (c : InterestSelectionContext) (p : InterestSelectionProposal) : Prop :=
  p.proposalId = c.proposalId ∧ p.robotId = c.robotId ∧ p.controllerInstanceId = c.controllerInstanceId ∧
    p.autonomySessionId = c.autonomySessionId ∧ p.leaseGeneration = c.leaseGeneration ∧
    p.candidateSetId = c.candidateSetId ∧ p.basedOnStateVersion = c.stateVersion ∧
    p.basedOnWorldModelVersion = c.worldModelVersion

instance : Decidable (Binds c p) := inferInstanceAs (Decidable (_ ∧ _ ∧ _ ∧ _ ∧ _ ∧ _ ∧ _ ∧ _))

def assertAccepts (c : InterestSelectionContext) (p : InterestSelectionProposal) (nowMs : Int) :
    Except NavigationContractError Unit := do
  let _ ← integer "now_ms" nowMs 0 counterMax
  if nowMs < c.capturedAtMs ∨ nowMs ≥ c.validUntilMs then
    throw ⟨"expired_interest_selection", "Interest selection is outside its validity window"⟩
  else if ¬ c.Binds p then
    throw ⟨"stale_interest_selection", "Interest selection does not match its host context"⟩
  else
    match p.decision with
    | .select candidateId =>
      if candidateId ∉ c.candidates.map (·.candidateId) then
        throw ⟨"unknown_selected_candidate", "Model selected a candidate outside the host menu"⟩
      else return ()
    | _ => return ()

end InterestSelectionContext

-- What a bounded selector call answers

/-- `SelectorCallOutcome`; only a completed call carries bytes. -/
inductive SelectorCallOutcome where
  | completed (payload : List UInt8)
  | cancelled
  | deadlineExpired
  | failed
  | busy
deriving DecidableEq

end RobotLlm.Autonomy
