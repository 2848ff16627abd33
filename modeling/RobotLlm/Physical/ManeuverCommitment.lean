import RobotLlm.Lib.Check
import RobotLlm.Lib.Machine
import RobotLlm.Lib.PyValue
import RobotLlm.Navigation.Contract
import RobotLlm.Odometry.VerifiedMotion

/-!
# The maneuver that the model has committed to

At every turn the model says what becomes of its maneuver around an obstacle. The host
chooses no route; it checks the lifecycle, and a route changes only where nothing moves.
-/

namespace RobotLlm.Physical

open RobotLlm.Lib
open RobotLlm.Lib.PyValue (field hasKeys equals)
open RobotLlm.Odometry (Action)

inductive CommitmentError where
  | refused (code : String)
  /-- A value without a hash, and an attribute that a value lacks. -/
  | typeError
  | attributeError
deriving DecidableEq

inductive Transition where
  | none
  | start
  | continues
  | revise
  | complete
  | abandon
deriving DecidableEq

inductive DetourSide where
  | leftOfGoal
  | rightOfGoal
deriving DecidableEq

inductive FactKey where
  | goalCorridorClear
  | goalHeadingAligned
  | targetBehind
deriving DecidableEq

def transitions : List (String × Transition) :=
  [("NONE", .none), ("START", .start), ("CONTINUE", .continues), ("REVISE", .revise), ("COMPLETE", .complete), ("ABANDON", .abandon)]

def detourSides : List (String × DetourSide) := [("LEFT_OF_GOAL", .leftOfGoal), ("RIGHT_OF_GOAL", .rightOfGoal)]

def factKeys : List (String × FactKey) :=
  [("GOAL_CORRIDOR_CLEAR", .goalCorridorClear), ("GOAL_HEADING_ALIGNED", .goalHeadingAligned),
    ("TARGET_ENVELOPE_BEHIND_GOAL_ORIGIN", .targetBehind)]

def commitmentFields : List String :=
  ["id", "revision", "transition", "objective", "target_hypothesis_id", "detour_side", "success_fact_keys",
    "current_focus_fact_key", "revision_reason"]

/-- A proposal other than `NONE`, in its shape. -/
structure Proposal where
  transition : Transition
  id : String
  revision : Int
  objective : String
  targetHypothesisId : String
  detourSide : DetourSide
  successFactKeys : List FactKey
  currentFocusFactKey : Option FactKey
  revisionReason : Option String

structure ActiveManeuver where
  commitmentId : String
  revision : Int
  objective : String
  targetHypothesisId : String
  detourSide : DetourSide
  successFactKeys : List FactKey
  currentFocusFactKey : Option FactKey
  startedTurn : Int
  lastConfirmedTurn : Int

structure LastTerminal where
  transition : Transition
  id : String
  turn : Int
  successClaimed : Bool
  reason : Option String := none

/-- The commitment, and what `state` shows of it. -/
structure ManeuverCommitment where
  active : Option ActiveManeuver := none
  lastTerminal : Option LastTerminal := none

section
variable {R : Type} [Ring R] [DecidableEq R]

structure ManeuverCall (R : Type) where
  action : Action
  turn : Int
  /-- `hazard_map.hazard_ids`, and `ready or best_effort_ready` of `route_evidence` at the pose. -/
  published : List String
  scanReady : String → Bool
  factValues : PyDict R
  perceptionTargetHypothesisId : Option String := none

-- The shape of a proposal

def emptyCommitment : PyDict R :=
  [("id", .none), ("revision", .int 0), ("transition", .str "NONE"), ("objective", .none), ("target_hypothesis_id", .none),
    ("detour_side", .none), ("success_fact_keys", .list []), ("current_focus_fact_key", .none), ("revision_reason", .none)]

/-- `value in names`, for a set of texts. -/
def member (names : List (String × α)) : PyValue R → Except CommitmentError (Option α)
  | .list _ | .dict _ => .error .typeError
  | value => .ok (value.str?.bind (List.lookup · names))

/-- A field that `_text` lets through. -/
def textField (fields : PyDict R) (key : String) (maximum : Nat) : Option String :=
  (field fields key).str?.filter (Navigation.identifierOk · maximum)

def positiveInt : PyValue R → Option Int
  | .int value => if 0 < value then some value else none
  | _ => none

def shapeKeys : PyValue R → Except CommitmentError (List FactKey)
  | .list values => do
    require (1 ≤ values.length ∧ values.length ≤ factKeys.length) (.refused "invalid_active_commitment")
    let named ← values.mapM (member factKeys)
    match named.mapM id with
    | some keys => do
      require keys.Nodup (.refused "invalid_active_commitment")
      .ok keys
    | none => .error (.refused "invalid_active_commitment")
  | _ => .error (.refused "invalid_active_commitment")

/-- The rest of `_shape`, for a proposal that is not `NONE`. -/
def shapeRoute (fields : PyDict R) (transition : Transition) : Except CommitmentError Proposal :=
  match textField fields "id" 64, positiveInt (field fields "revision"), textField fields "objective" 160,
      textField fields "target_hypothesis_id" 128 with
  | some id, some revision, some objective, some targetHypothesisId => do
    match ← member detourSides (field fields "detour_side") with
    | none => .error (.refused "invalid_active_commitment")
    | some detourSide => do
      let successFactKeys ← shapeKeys (field fields "success_fact_keys")
      let focus := field fields "current_focus_fact_key"
      let currentFocusFactKey := (focus.str?.bind (List.lookup · factKeys)).filter (· ∈ successFactKeys)
      if transition = .complete ∨ transition = .abandon then
        require (focus.isSome = false) (.refused "terminal_commitment_has_focus")
      else require (currentFocusFactKey.isSome = true) (.refused "invalid_commitment_focus")
      let revisionReason := textField fields "revision_reason" 160
      if transition = .revise ∨ transition = .abandon then
        require (revisionReason.isSome = true) (.refused "missing_revision_reason")
      else require ((field fields "revision_reason").isSome = false) (.refused "unexpected_revision_reason")
      .ok { transition, id, revision, objective, targetHypothesisId, detourSide, successFactKeys, currentFocusFactKey, revisionReason }
  | _, _, _, _ => .error (.refused "invalid_active_commitment")

/-- `_shape`; nothing for `NONE`. -/
def shape : PyValue R → Except CommitmentError (Option Proposal)
  | .dict fields => do
    require (hasKeys fields commitmentFields) (.refused "invalid_commitment_fields")
    match ← member transitions (field fields "transition") with
    | none => .error (.refused "invalid_commitment_transition")
    | some .none => do
      require (equals (.dict fields) (.dict emptyCommitment)) (.refused "invalid_none_sentinel")
      .ok none
    | some transition => do
      let proposal ← shapeRoute fields transition
      .ok (some proposal)
  | _ => .error (.refused "invalid_commitment_fields")

-- The lifecycle

def SameRevision (p : Proposal) (m : ActiveManeuver) : Prop :=
  p.id = m.commitmentId ∧ p.revision = m.revision ∧ p.objective = m.objective ∧ p.targetHypothesisId = m.targetHypothesisId ∧
    p.detourSide = m.detourSide ∧ p.successFactKeys = m.successFactKeys

instance (p : Proposal) (m : ActiveManeuver) : Decidable (SameRevision p m) := inferInstanceAs (Decidable (_ ∧ _ ∧ _ ∧ _ ∧ _ ∧ _))

def RouteChanged (p : Proposal) (m : ActiveManeuver) : Prop :=
  p.targetHypothesisId ≠ m.targetHypothesisId ∨ p.detourSide ≠ m.detourSide

instance (p : Proposal) (m : ActiveManeuver) : Decidable (RouteChanged p m) := inferInstanceAs (Decidable (_ ∨ _))

/-- `is True` of a success fact. -/
def factHolds (factValues : PyDict R) (targetHypothesisId : String) : FactKey → Except CommitmentError Bool
  | .goalCorridorClear => .ok ((field factValues "GOAL_CORRIDOR_CLEAR").bool? = some true)
  | .goalHeadingAligned => .ok ((field factValues "GOAL_HEADING_ALIGNED").bool? = some true)
  | .targetBehind =>
    match factValues.lookup "TARGET_ENVELOPE_BEHIND_GOAL_ORIGIN" with
    | none => .ok false
    | some (.dict behind) => .ok ((field behind targetHypothesisId).bool? = some true)
    | some _ => .error .attributeError

def Proposal.authored (p : Proposal) (startedTurn turn : Int) : ActiveManeuver :=
  ⟨p.id, p.revision, p.objective, p.targetHypothesisId, p.detourSide, p.successFactKeys, p.currentFocusFactKey, startedTurn, turn⟩

def begin (c : ManeuverCommitment) (p : Proposal) (call : ManeuverCall R) : Except CommitmentError ManeuverCommitment := do
  require (p.transition = .start) (.refused "transition_without_active_commitment")
  require (p.revision = 1) (.refused "invalid_start_revision")
  require (p.targetHypothesisId ∈ call.published) (.refused "unknown_maneuver_target")
  require (call.scanReady p.targetHypothesisId) (.refused "route_evidence_required")
  require (call.action = .observe) (.refused "route_authorization_requires_observe")
  .ok { c with active := some (p.authored call.turn call.turn) }

def advance (c : ManeuverCommitment) (m : ActiveManeuver) (p : Proposal) (call : ManeuverCall R) :
    Except CommitmentError ManeuverCommitment :=
  match p.transition with
  | .continues => do
    require (SameRevision p m) (.refused "continue_changed_revision")
    .ok { c with active := some { m with currentFocusFactKey := p.currentFocusFactKey, lastConfirmedTurn := call.turn } }
  | .revise => do
    require (p.revision = m.revision + 1) (.refused "invalid_revision_increment")
    require (p.targetHypothesisId ∈ call.published) (.refused "unknown_revised_target")
    require (RouteChanged p m → call.action = .observe) (.refused "route_revision_requires_observe")
    require (RouteChanged p m → call.scanReady p.targetHypothesisId) (.refused "route_evidence_required")
    .ok { c with active := some { p.authored m.startedTurn call.turn with commitmentId := m.commitmentId } }
  | .complete => do
    require (SameRevision p m) (.refused "complete_changed_revision")
    require (call.action = .observe ∨ call.action = .finish) (.refused "complete_requires_observe_or_finish")
    let held ← m.successFactKeys.mapM (factHolds call.factValues m.targetHypothesisId)
    require (held.all id) (.refused "maneuver_facts_not_complete")
    .ok { active := none, lastTerminal := some { transition := .complete, id := m.commitmentId, turn := call.turn, successClaimed := true } }
  | .abandon => do
    require (SameRevision p m) (.refused "abandon_changed_revision")
    require (call.action = .observe) (.refused "route_abandon_requires_observe")
    .ok {
      active := none
      lastTerminal := some {
        transition := .abandon, id := m.commitmentId, turn := call.turn, successClaimed := false, reason := p.revisionReason } }
  | .none | .start => .error (.refused "invalid_active_transition")

def apply (c : ManeuverCommitment) (value : PyValue R) (call : ManeuverCall R) : Except CommitmentError ManeuverCommitment := do
  let proposal ← shape value
  match c.active with
  | none => do
    require (call.action = .scanFrontArc → proposal.isNone) (.refused "route_choice_before_scan")
    match proposal with
    | none => .ok c
    | some p => begin c p call
  | some m => do
    require (call.action = .scanFrontArc → (∀ p ∈ proposal, p.transition = .continues ∧ SameRevision p m) ∧
      call.perceptionTargetHypothesisId = some m.targetHypothesisId) (.refused "route_changed_during_scan")
    require (m.targetHypothesisId ∈ call.published ∨ ∃ p ∈ proposal, p.transition = .abandon) (.refused "evicted_target_requires_abandon")
    match proposal with
    | none => .ok c
    | some p => do
      require (p.id = m.commitmentId) (.refused "active_commitment_lost")
      advance c m p call

/-- The calls in turn; one that raises leaves the commitment as it is. -/
def commitmentMachine (R : Type) [Ring R] [DecidableEq R] :
    Machine ManeuverCommitment (PyValue R × ManeuverCall R) (Except CommitmentError ManeuverCommitment) where
  step c input := (apply c input.1 input.2, (apply c input.1 input.2).toOption.getD c)

end

end RobotLlm.Physical
