import RobotLlm.Autonomy.GoalLease
import RobotLlm.Autonomy.Interest
import RobotLlm.Navigation.Mission

/-!
# One idle task

One acquired lease from observation through selection and mission to its
return. The plant, the selector, the menu, the memory, the clock and the other
threads are programs over a shared world that holds the goal authority; each
may raise. What a `try` of the source catches is an `attempt` here, and a call
that stands outside of every `try` is named by its `Site`.
-/

namespace RobotLlm.Autonomy

open RobotLlm.Lib RobotLlm.Navigation

-- Results

inductive IdleTermination where
  | taskCompleted
  | held
  | modelAborted
  | preempted
  | unavailable
  | noFeasibleCandidates
  | selectionFailed
  | selectionStale
  | missionStale
  | missionFailed
  | safetyStop
  | stopUnverified
  | sessionBudgetExhausted
deriving DecidableEq

structure IdleTaskResult where
  termination : IdleTermination
  leaseGeneration : Option Nat := none
  plannerCalls : Nat := 0
  staleReplans : Nat := 0
  selectedCandidateId : Option String := none
  observation : Option InterestObservation := none
  candidates : List ExplorationCandidate := []
  mission : Option MissionResult := none
  finalSnapshot : Option NavigationSnapshot := none
  terminalStopVerified : Bool := false
  trace : List String

def IdleTaskResult.completed (r : IdleTaskResult) : Bool :=
  r.termination = .taskCompleted && (match r.mission with
    | some mission => mission.completed
    | none => false) && r.terminalStopVerified

/-- The actions and the motion of a task's mission, if it returned one. -/
def IdleTaskResult.missionActions (r : IdleTaskResult) : Nat := (r.mission.map (·.totals.actions)).getD 0

def IdleTaskResult.missionMotionMs (r : IdleTaskResult) : Int := (r.mission.map (·.totals.totalMotionMs)).getD 0

-- The world of a task

/-- The world an idle task shares: the goal authority, and all it does not
look into. -/
structure IdleWorld (σ : Type) where
  outside : σ
  authority : GoalLeaseCoordinator

abbrev IdleShared (σ : Type) := Shared (IdleWorld σ)

/-- The calls a task makes outside of every `try` while it holds its lease. -/
inductive Site where
  | selectionClock
  | contextId
  | context
  | selectorGate
  | freshClock
  | resolve
  | budgetClock
  | recordAttempt
  | dispatchClock
  | planId
  | plan
deriving DecidableEq

/-- One answered `release`. -/
structure LeaseReturn where
  lease : GoalLease
  final : NavigationSnapshot
  stopVerified : Bool
  safe : Bool

/-- `_TaskState`, with what it works on. The last five fields are not in the
code: the lease that was acquired, what was returned of it, the sites whose
call raised, whether the plant ever showed the task a snapshot, and how many
of its missions raised. -/
structure TaskState (σ : Type) where
  episode : EpisodeState (IdleWorld σ)
  /-- The next number of `_id_counter`. -/
  nextId : Nat
  plannerCalls : Nat := 0
  staleReplans : Nat := 0
  trace : List String := ["LEASE_ACQUIRED", "OBSERVING"]
  observation : Option InterestObservation := none
  candidates : List ResolvedExplorationCandidate := []
  selectedCandidateId : Option String := none
  snapshot : Option NavigationSnapshot := none
  acquired : Option GoalLease := none
  returned : List LeaseReturn := []
  escaped : List Site := []
  shown : Bool := false
  missionsRaised : Nat := 0

structure TaskBudget where
  remainingTasks : Nat
  remainingPlannerCalls : Nat
  remainingStaleReplans : Nat
  remainingActions : Nat
  remainingMotionMs : Int
  sessionDeadlineMs : Int

/-- A host-resolved candidate with the context that authorized it. -/
structure SelectedTask where
  candidate : ResolvedExplorationCandidate
  context : InterestSelectionContext

inductive Turn (α : Type) where
  | go (value : α)
  | retry
  | done (result : IdleTaskResult)

structure IdleExplorationService (σ : Type) where
  /-- The plant, the supervisor, the inbox and the local behaviors under the
  limits of one leg; its sink is the service's. -/
  navigation : NavigationEpisode (IdleWorld σ)
  sessionId : String
  missionLimits : MissionLimits := .oneLeg
  selectionTtlMs : Int := 8000
  maxStaleReplansPerTask : Nat := 2
  clockMs : Prog (IdleShared σ) Raised Int
  /-- `id_factory`, if there is one. -/
  idFactory : Option (Prog (IdleShared σ) Raised String) := none
  /-- The range tracker. -/
  capture : NavigationSnapshot → String → Int → Int → Prog (IdleShared σ) Raised (Option InterestObservation)
  seed : NavigationSnapshot → Prog (IdleShared σ) Raised Unit
  /-- The candidate generator. -/
  generate : NavigationSnapshot → String → Option InterestObservation →
    Prog (IdleShared σ) Raised (List ResolvedExplorationCandidate)
  resolve : List ResolvedExplorationCandidate → String → Prog (IdleShared σ) Raised ResolvedExplorationCandidate
  /-- The selector gate, given the lease whose cancel event it watches. -/
  selectorCall : InterestSelectionContext → GoalLease → Int → Prog (IdleShared σ) Raised SelectorCallOutcome
  decodeInterestSelection : List UInt8 → Except Raised InterestSelectionProposal
  /-- The exploration memory. -/
  recordAttempt : Int × Int → Prog (IdleShared σ) Raised Unit
  recordCompleted : Int × Int → Prog (IdleShared σ) Raised Unit
  /-- What other threads do before a call of the authority gets its lock. -/
  meanwhile : IdleShared σ → IdleShared σ := id

namespace IdleExplorationService

variable {σ : Type} (e : IdleExplorationService σ)

abbrev Task (σ : Type) := Prog (TaskState σ) Raised

def onEpisode (x : NavigationEpisode.Run (IdleWorld σ) α) : Task σ α :=
  Prog.onPart TaskState.episode (fun episode s => { s with episode := episode }) x

def ask (x : Prog (IdleShared σ) Raised α) : Task σ α := onEpisode (NavigationEpisode.onShared x)

/-- A call that no `try` surrounds. -/
def exposed (site : Site) (x : Task σ α) : Task σ α :=
  tryCatch x fun error => do
    modify fun s => { s with escaped := site :: s.escaped }
    throw error

def log (entry : String) : Task σ Unit := modify fun s => { s with trace := s.trace ++ [entry] }

def checked (x : Except NavigationContractError α) : Task σ α := Prog.ofExcept (x.mapError .contract)

/-- `_now_ms`. -/
def nowShared : Prog (IdleShared σ) Raised Int := do
  let now ← e.clockMs
  Prog.ofExcept ((integer "idle_clock_ms" now 0 counterMax).mapError .contract)

def nowMs : Task σ Int := ask e.nowShared

def idSuffix (sequence : Nat) : Task σ String :=
  match e.idFactory with
  | none => return toString sequence
  | some factory => do
    let external ← ask factory
    let _ ← checked (identifier "idle_id_suffix" external 48)
    return toString sequence ++ "-" ++ external

def newId (kind : String) : Task σ String := do
  let sequence := (← get).nextId
  modify fun s => { s with nextId := sequence + 1 }
  let suffix ← e.idSuffix sequence
  checked (identifier "idle_generated_id" (kind ++ "-" ++ suffix) 96)

def offerObservation (snapshot : NavigationSnapshot) : Task σ Unit :=
  ask (tryCatch (e.navigation.observationSink snapshot) fun _ => return ())

def onAuthority (f : GoalLeaseCoordinator → α × GoalLeaseCoordinator) : Task σ α := do
  modify fun s => { s with episode := { s.episode with shared := e.meanwhile s.episode.shared } }
  let r := f (← get).episode.shared.world.authority
  modify fun s => { s with episode := { s.episode with shared := { s.episode.shared with
    world := { s.episode.shared.world with authority := r.2 } } } }
  return r.1

def isCurrentIdle (lease : GoalLease) : Task σ Bool := e.onAuthority fun c => (c.isCurrentIdle lease, c)

/-- `authority.release`, an error of which counts as an unsafe release. -/
def release (lease : GoalLease) (final : NavigationSnapshot) (stopVerified : Bool) : Task σ Bool := do
  match ← e.onAuthority fun c => c.release lease final stopVerified with
  | .ok safe =>
    modify fun s => { s with returned := ⟨lease, final, stopVerified, safe⟩ :: s.returned }
    return safe
  | .error _ => return false

-- The end of a task without a mission

/-- Stop the plant: its snapshot, and whether it shows that the motors
stopped. -/
def stopPlant (goal : WaypointGoal) : NavigationEpisode.Run (IdleWorld σ) (NavigationSnapshot × Bool) := do
  let current ← NavigationEpisode.onShared (e.navigation.observe goal)
  let stop ← e.navigation.forceStop current "idle_terminal_stop"
  let after ← e.navigation.applyPulse current stop goal
  return (after, after.stateVersion > current.stateVersion && !after.motorsRunning)

def verifiedStop (goal : WaypointGoal) : Task σ (Option NavigationSnapshot × Bool) := do
  match ← Prog.attempt (onEpisode (e.stopPlant goal)) with
  | .ok (after, stopped) =>
    modify fun s => { s with shown := true }
    e.offerObservation after
    return (some after, stopped)
  | .error (_ : Raised) => return ((← get).snapshot, false)

def seedIf (safe : Bool) (final : NavigationSnapshot) : Task σ Unit := if safe then ask (e.seed final) else pure ()

/-- Return the lease, if there is a snapshot to return it with. -/
def returnLease (lease : GoalLease) : Option NavigationSnapshot × Bool → Task σ Bool
  | (some final, stopped) => do
    let safe ← e.release lease final stopped
    e.seedIf safe final
    return safe
  | (none, _) => return false

/-- `_finish_without_mission`. -/
def finishState (lease : GoalLease) (goal : WaypointGoal) (termination : IdleTermination) : Task σ IdleTaskResult := do
  let stop ← e.verifiedStop goal
  let safe ← e.returnLease lease stop
  log (if safe then "VERIFIED_STOP" else "STOP_UNVERIFIED")
  let s ← get
  return {
    termination := if safe then termination else .stopUnverified
    leaseGeneration := some lease.generation
    plannerCalls := s.plannerCalls
    staleReplans := s.staleReplans
    selectedCandidateId := s.selectedCandidateId
    observation := s.observation
    candidates := s.candidates.map (·.view)
    finalSnapshot := stop.1
    terminalStopVerified := safe
    trace := s.trace }

def finishBecause (lease : GoalLease) (goal : WaypointGoal) (entry : String) (termination : IdleTermination) :
    Task σ (Turn α) := do
  log entry
  return .done (← e.finishState lease goal termination)

/-- Log why, and retry if `_retry_stale_selection` allows it. -/
def retryBecause (b : TaskBudget) (lease : GoalLease) (goal : WaypointGoal) (entry : String) : Task σ (Turn α) := do
  log entry
  if (← get).staleReplans ≥ min e.maxStaleReplansPerTask b.remainingStaleReplans then
    return .done (← e.finishState lease goal .selectionStale)
  else
    modify fun s => { s with staleReplans := s.staleReplans + 1 }
    return .retry

-- Selection

/-- What the `try` of `_build_selection_context` leaves to the rest of it. -/
structure Menu where
  snapshot : NavigationSnapshot
  candidateSetId : String
  capturedAtMs : Int
  validUntilMs : Int

def unsafeIdleActivation : NavigationContractError :=
  ⟨"unsafe_idle_activation", "Idle activation snapshot is unsafe"⟩

/-- Ask for the observation of a snapshot and the candidates it leads to. -/
def generateMenu (snapshot : NavigationSnapshot) (capturedAtMs validUntilMs : Int) : Task σ Menu := do
  let observationId ← e.newId "idle-observation"
  let observation ← ask (e.capture snapshot observationId capturedAtMs validUntilMs)
  modify fun s => { s with observation := observation }
  let candidateSetId ← e.newId "candidate-set"
  let candidates ← ask (e.generate snapshot candidateSetId observation)
  modify fun s => { s with candidates := candidates }
  return ⟨snapshot, candidateSetId, capturedAtMs, validUntilMs⟩

/-- The `try` of `_build_selection_context`. -/
def observeMenu (b : TaskBudget) (lease : GoalLease) (goal : WaypointGoal) : Task σ (Turn Menu) := do
  let snapshot ← ask (e.navigation.observe goal)
  modify fun s => { s with snapshot := some snapshot, shown := true }
  e.offerObservation snapshot
  Prog.failIf snapshot.Hazard (.contract unsafeIdleActivation)
  let capturedAtMs ← e.nowMs
  let validUntilMs := min (capturedAtMs + e.selectionTtlMs) b.sessionDeadlineMs
  if validUntilMs ≤ capturedAtMs then e.finishBecause lease goal "SELECTION_DEADLINE_EXHAUSTED" .selectionStale
  else .go <$> e.generateMenu snapshot capturedAtMs validUntilMs

def contextOf (b : TaskBudget) (lease : GoalLease) (menu : Menu) (s : TaskState σ) (proposalId : String) :
    InterestSelectionContext where
  proposalId := proposalId
  robotId := menu.snapshot.robotId
  controllerInstanceId := menu.snapshot.controllerInstanceId
  autonomySessionId := e.sessionId
  leaseGeneration := lease.generation
  candidateSetId := menu.candidateSetId
  frameId := robotBaseFrame
  stateVersion := menu.snapshot.stateVersion
  worldModelVersion := menu.snapshot.worldModelVersion
  capturedAtMs := menu.capturedAtMs
  validUntilMs := menu.validUntilMs
  remainingTasks := b.remainingTasks
  observations := s.observation.toList
  candidates := s.candidates.map (·.view)

/-- What `_build_selection_context` builds from a menu that is not empty. -/
def contextFrom (b : TaskBudget) (lease : GoalLease) (goal : WaypointGoal) (menu : Menu) :
    Task σ (Turn InterestSelectionContext) := do
  if (← get).candidates = [] then
    e.finishBecause lease goal "NO_FEASIBLE_CANDIDATES" .noFeasibleCandidates
  else
    let proposalId ← exposed .contextId (e.newId "interest-proposal")
    let s ← get
    .go <$> exposed .context (checked (e.contextOf b lease menu s proposalId).new)

def buildSelectionContext (b : TaskBudget) (lease : GoalLease) (goal : WaypointGoal) :
    Task σ (Turn InterestSelectionContext) := do
  match ← Prog.attempt (e.observeMenu b lease goal) with
  | .ok (.go menu) => e.contextFrom b lease goal menu
  | .ok .retry => return .retry -- the `try` never asks to retry
  | .ok (.done result) => return .done result
  | .error (_ : Raised) => e.finishBecause lease goal "OBSERVATION_FAILED" .safetyStop

/-- Decode the selector's bytes and check them against the context. -/
def acceptSelection (context : InterestSelectionContext) (payload : List UInt8) : Task σ InterestSelectionProposal := do
  let selection ← Prog.ofExcept (e.decodeInterestSelection payload)
  let now ← e.nowMs
  checked (context.assertAccepts selection now)
  return selection

/-- What `_request_selection` makes of an answer that was completed. -/
def completedSelection (b : TaskBudget) (lease : GoalLease) (goal : WaypointGoal) (context : InterestSelectionContext)
    (payload : List UInt8) : Task σ (Turn InterestSelectionProposal) := do
  match ← Prog.attempt (e.acceptSelection context payload) with
  | .ok selection => return .go selection
  | .error (.contract error) =>
    if error.code = "expired_interest_selection" then
      e.retryBecause b lease goal "SELECTION_DEADLINE_EXPIRED"
    else e.finishBecause lease goal "SELECTION_FAILED" .selectionFailed
  | .error .other => e.finishBecause lease goal "SELECTION_FAILED" .selectionFailed

def requestSelection (b : TaskBudget) (lease : GoalLease) (goal : WaypointGoal) (context : InterestSelectionContext) :
    Task σ (Turn InterestSelectionProposal) := do
  log "SELECTING"
  modify fun s => { s with plannerCalls := s.plannerCalls + 1 }
  match ← exposed .selectorGate (ask (e.selectorCall context lease context.validUntilMs)) with
  | .cancelled => e.finishBecause lease goal "SELECTION_PREEMPTED" .preempted
  | .deadlineExpired => e.retryBecause b lease goal "SELECTION_DEADLINE_EXPIRED"
  | .busy => e.finishBecause lease goal "SELECTOR_BUSY" .unavailable
  | .failed => e.finishBecause lease goal "SELECTION_FAILED" .selectionFailed
  | .completed payload => e.completedSelection b lease goal context payload

/-- A snapshot that shows another state than the context was made of, or one
in which nothing may move. -/
def Stale (context : InterestSelectionContext) (snapshot : NavigationSnapshot) : Prop :=
  snapshot.stateVersion ≠ context.stateVersion ∨ snapshot.worldModelVersion ≠ context.worldModelVersion ∨
    snapshot.robotId ≠ context.robotId ∨ snapshot.controllerInstanceId ≠ context.controllerInstanceId ∨
    snapshot.Hazard

instance : Decidable (Stale context snapshot) := inferInstanceAs (Decidable (_ ∨ _ ∨ _ ∨ _ ∨ _))

def freshSelectionSnapshot (goal : WaypointGoal) (context : InterestSelectionContext) :
    Task σ (Option NavigationSnapshot) := do
  let now ← exposed .freshClock e.nowMs
  if now ≥ context.validUntilMs then return none
  else
    match ← Prog.attempt (ask (e.navigation.observe goal)) with
    | .error (_ : Raised) => return none
    | .ok snapshot =>
      e.offerObservation snapshot
      return if Stale context snapshot then none else some snapshot

/-- The lease must still be current and the state the one the context was
made of; then `next` goes on. -/
def ifFresh (b : TaskBudget) (lease : GoalLease) (goal : WaypointGoal) (context : InterestSelectionContext)
    (preempted stale : String) (next : Task σ (Turn α)) : Task σ (Turn α) := do
  if (← e.isCurrentIdle lease) then
    match ← e.freshSelectionSnapshot goal context with
    | none => e.retryBecause b lease goal stale
    | some fresh =>
      modify fun s => { s with snapshot := some fresh }
      next
  else e.finishBecause lease goal preempted .preempted

def budgetSpent (b : TaskBudget) : Task σ Bool := do
  if b.remainingActions = 0 ∨ b.remainingMotionMs ≤ 0 then return true
  else return (← exposed .budgetClock e.nowMs) ≥ b.sessionDeadlineMs

/-- The last steps of the selection, for a candidate that was resolved. -/
def attemptCandidate (b : TaskBudget) (lease : GoalLease) (goal : WaypointGoal) (context : InterestSelectionContext)
    (selected : ResolvedExplorationCandidate) : Task σ (Turn SelectedTask) := do
  if (← e.budgetSpent b) then e.finishBecause lease goal "MISSION_BUDGET_EXHAUSTED" .selectionStale
  else
    exposed .recordAttempt (ask (e.recordAttempt selected.memoryKey))
    e.ifFresh b lease goal context "PREEMPTED_BEFORE_MISSION" "STALE_BEFORE_MISSION_DROPPED" do
      return .go ⟨selected, context⟩

/-- Find the selected candidate in the host's menu. -/
def resolveSelected (b : TaskBudget) (lease : GoalLease) (goal : WaypointGoal) (context : InterestSelectionContext)
    (candidateId : String) : Task σ (Turn SelectedTask) := do
  modify fun s => { s with selectedCandidateId := some candidateId }
  match ← Prog.attempt (ask (e.resolve (← get).candidates candidateId)) with
  | .ok selected => e.attemptCandidate b lease goal context selected
  | .error (.contract _) => e.finishBecause lease goal "CANDIDATE_RESOLUTION_FAILED" .selectionFailed
  | .error .other => exposed .resolve (throw .other)

def follow (b : TaskBudget) (lease : GoalLease) (goal : WaypointGoal) (context : InterestSelectionContext) :
    InterestDecision → Task σ (Turn SelectedTask)
  | .hold => e.finishBecause lease goal "MODEL_HOLD" .held
  | .abort => e.finishBecause lease goal "MODEL_ABORT" .modelAborted
  | .select candidateId => e.resolveSelected b lease goal context candidateId

def selectFrom (b : TaskBudget) (lease : GoalLease) (goal : WaypointGoal) (context : InterestSelectionContext) :
    Task σ (Turn SelectedTask) := do
  match ← e.requestSelection b lease goal context with
  | .retry => return .retry
  | .done result => return .done result
  | .go selection =>
    e.ifFresh b lease goal context "LATE_SELECTION_DROPPED" "STALE_SELECTION_DROPPED"
      (e.follow b lease goal context selection.decision)

def selectionSpent (b : TaskBudget) : Task σ Bool := do
  let now ← exposed .selectionClock e.nowMs
  return now ≥ b.sessionDeadlineMs || (← get).plannerCalls ≥ b.remainingPlannerCalls

/-- One turn of the loop of `_select_task`. -/
def selectTurn (b : TaskBudget) (lease : GoalLease) (goal : WaypointGoal) : Task σ (Turn SelectedTask) := do
  if (← e.isCurrentIdle lease) then
    if (← e.selectionSpent b) then e.finishBecause lease goal "SELECTION_BUDGET_EXHAUSTED" .selectionStale
    else
      match ← e.buildSelectionContext b lease goal with
      | .go context => e.selectFrom b lease goal context
      | .retry => return .retry
      | .done result => return .done result
  else e.finishBecause lease goal "PREEMPTED_BEFORE_SELECTION" .preempted

/-- `_select_task`, for as many turns as there are stale replans left and one
more. -/
def selectTask (e : IdleExplorationService σ) (b : TaskBudget) (lease : GoalLease) (goal : WaypointGoal) :
    Nat → Task σ (SelectedTask ⊕ IdleTaskResult)
  | 0 => throw .other
  | turns + 1 => do
    match ← e.selectTurn b lease goal with
    | .go selected => return .inl selected
    | .retry => e.selectTask b lease goal turns
    | .done result => return .inr result

-- Mission

structure MissionExecution where
  plan : MissionPlan
  mission : MissionResult
  deadlineMs : Int

/-- `_remaining_mission_limits`, for budgets that are not spent. -/
def remainingMissionLimits (actions : Nat) (motionMs elapsedMs : Int) (ha : 0 < actions) (hm : 0 < motionMs) :
    MissionLimits :=
  let limits := e.missionLimits
  { maxLegs := 1
    maxTicks := limits.maxTicks
    maxElapsedMs := min limits.maxElapsedMs (max 1 elapsedMs)
    maxProposals := limits.maxProposals
    maxReplans := limits.maxReplans
    maxActions := min limits.maxActions actions
    maxTotalMotionMs := min limits.maxTotalMotionMs motionMs
    legsOk := oneLeg_ok
    ticksOk := limits.ticksOk
    elapsedOk := by have := limits.elapsedOk; omega
    proposalsOk := limits.proposalsOk
    replansOk := limits.replansOk
    actionsOk := by have := limits.actionsOk; omega
    motionOk := by have := limits.motionOk; omega }

/-- `_DeadlineCancelEvent.is_set`. -/
def deadlineCancelled (lease : GoalLease) (deadlineMs : Int) : Prog (IdleShared σ) Raised Bool := do
  if lease.generation ∈ (← get).world.authority.cancelEvents then return true
  else return (← e.nowShared) ≥ deadlineMs

/-- `MissionRunner(...)`; only the goal epoch can be refused. -/
def missionRunner (lease : GoalLease) (limits : MissionLimits) (deadlineMs : Int) :
    Except NavigationContractError (MissionRunner (IdleWorld σ)) :=
  if h : Between lease.goalEpoch 1 (2 ^ 63 - maxMissionLegs) then
    .ok {
      navigation := { e.navigation with
        cancelled := e.deadlineCancelled lease deadlineMs
        observationSink := fun snapshot => tryCatch (e.navigation.observationSink snapshot) fun _ => return () }
      startingGoalEpoch := lease.goalEpoch
      missionLimits := limits
      startingGoalEpochOk := h }
  else .error ⟨"invalid_integer", "starting_goal_epoch is invalid"⟩

/-- The plan of one leg to the candidate; a leg takes a shorter id than a
candidate. -/
def planOf (lease : GoalLease) (planId : String) (snapshot : NavigationSnapshot)
    (candidate : ResolvedExplorationCandidate) : Except NavigationContractError MissionPlan :=
  if hleg : identifierOk candidate.view.candidateId 96 then
    if hplan : identifierOk planId then
      if hrevision : Between lease.planRevision 1 counterMax then
        .ok {
          planId := planId
          robotId := snapshot.robotId
          controllerInstanceId := snapshot.controllerInstanceId
          basedOnStateVersion := snapshot.stateVersion
          basedOnWorldModelVersion := snapshot.worldModelVersion
          planRevision := lease.planRevision
          legs := [{
            legId := candidate.view.candidateId
            targetXMm := candidate.targetXMm
            targetYMm := candidate.targetYMm
            toleranceMm := candidate.toleranceMm
            legIdOk := hleg
            targetXOk := candidate.targetXOk
            targetYOk := candidate.targetYOk
            toleranceOk := candidate.toleranceOk }]
          planIdOk := hplan
          robotIdOk := snapshot.robotIdOk
          controllerOk := snapshot.controllerOk
          stateVersionOk := snapshot.stateVersionOk
          worldModelVersionOk := snapshot.worldModelVersionOk
          planRevisionOk := hrevision
          legsOk := ⟨Nat.le_refl 1, by simp only [List.length_singleton]; decide⟩
          legIdsOk := by simp }
      else .error ⟨"invalid_integer", "plan_revision is invalid"⟩
    else .error ⟨"invalid_identifier", "plan_id is invalid"⟩
  else .error ⟨"invalid_identifier", "leg_id is invalid"⟩

/-- The `try` of `_dispatch_mission`. -/
def runMission (b : TaskBudget) (lease : GoalLease) (plan : MissionPlan) (deadlineMs : Int)
    (ha : 0 < b.remainingActions) (hm : 0 < b.remainingMotionMs) : Task σ MissionResult := do
  let _ ← onEpisode (NavigationEpisode.reading e.navigation.drain)
  let now ← e.nowMs
  let limits := e.remainingMissionLimits b.remainingActions b.remainingMotionMs (max 1 (deadlineMs - now)) ha hm
  let runner ← checked (e.missionRunner lease limits deadlineMs)
  log "MISSION_STARTED"
  let mission ← onEpisode (runner.run plan)
  log "MISSION_FINISHED"
  return mission

/-- The clock readings at the head of `_dispatch_mission`. -/
def dispatchLate (b : TaskBudget) (context : InterestSelectionContext) : Task σ Bool := do
  let now ← exposed .dispatchClock e.nowMs
  if now ≥ b.sessionDeadlineMs then return true
  else return (← exposed .dispatchClock e.nowMs) ≥ context.validUntilMs

def executePlan (b : TaskBudget) (lease : GoalLease) (goal : WaypointGoal) (selected : SelectedTask)
    (snapshot : NavigationSnapshot) (ha : 0 < b.remainingActions) (hm : 0 < b.remainingMotionMs) :
    Task σ (Turn MissionExecution) := do
  let planId ← exposed .planId (e.newId "idle-plan")
  let plan ← exposed .plan (checked (planOf lease planId snapshot selected.candidate))
  let deadlineMs := min b.sessionDeadlineMs selected.context.validUntilMs
  match ← Prog.attempt (e.runMission b lease plan deadlineMs ha hm) with
  | .ok mission => return .go ⟨plan, mission, deadlineMs⟩
  | .error (_ : Raised) =>
    modify fun s => { s with missionsRaised := s.missionsRaised + 1 }
    e.finishBecause lease goal "MISSION_EXCEPTION" .missionFailed

def dispatchMission (b : TaskBudget) (lease : GoalLease) (goal : WaypointGoal) (selected : SelectedTask) :
    Task σ (Turn MissionExecution) := do
  if h : 0 < b.remainingActions ∧ 0 < b.remainingMotionMs then
    if (← e.dispatchLate b selected.context) then
      e.finishBecause lease goal "MISSION_BUDGET_EXHAUSTED" .selectionStale
    else
      match (← get).snapshot with
      | some snapshot => e.executePlan b lease goal selected snapshot h.1 h.2
      | none => throw .other -- a selected task has its snapshot
  else e.finishBecause lease goal "MISSION_BUDGET_EXHAUSTED" .selectionStale

/-- A plan that was refused though its final snapshot shows the same robot,
safe, at other versions. -/
def RejectedAsStale (plan : MissionPlan) (mission : MissionResult) : Prop :=
  mission.termination = .planRejected ∧ mission.terminalStopVerified = true ∧
    mission.finalSnapshot.robotId = plan.robotId ∧
    mission.finalSnapshot.controllerInstanceId = plan.controllerInstanceId ∧ ¬ mission.finalSnapshot.Hazard ∧
    (mission.finalSnapshot.stateVersion ≠ plan.basedOnStateVersion ∨
      mission.finalSnapshot.worldModelVersion ≠ plan.basedOnWorldModelVersion)

instance : Decidable (RejectedAsStale plan mission) := inferInstanceAs (Decidable (_ ∧ _ ∧ _ ∧ _ ∧ _ ∧ _))

/-- What an aborted mission that was not cancelled and not late counts as. -/
def terminationOf (plan : MissionPlan) (mission : MissionResult) : IdleTermination × String :=
  if mission.termination = .planStale ∨ RejectedAsStale plan mission then (.missionStale, "MISSION_STALE")
  else
    match mission.termination with
    | .safetyStop => (.safetyStop, "SAFETY_STOP")
    | .budgetExhausted => (.sessionBudgetExhausted, "MISSION_BUDGET_EXHAUSTED")
    | _ => (.missionFailed, "MISSION_FAILED")

/-- What a mission counts as whose lease was returned safely. -/
def classify (lease : GoalLease) (selected : SelectedTask) (execution : MissionExecution) :
    Task σ (IdleTermination × String) := do
  let mission := execution.mission
  if mission.completed = true ∧ mission.termination = .completed then
    ask (e.recordCompleted selected.candidate.memoryKey)
    ask (e.seed mission.finalSnapshot)
    return (.taskCompleted, "TASK_COMPLETED")
  else if mission.termination = .aborted then
    if lease.generation ∈ (← get).episode.shared.world.authority.cancelEvents then
      return (.preempted, "TASK_PREEMPTED")
    else if (← e.nowMs) ≥ execution.deadlineMs then return (.missionStale, "MISSION_SELECTION_DEADLINE")
    else return terminationOf execution.plan mission
  else return terminationOf execution.plan mission

def verdictOf (safe : Bool) (lease : GoalLease) (selected : SelectedTask) (execution : MissionExecution) :
    Task σ (IdleTermination × String) :=
  if safe then e.classify lease selected execution else pure (.stopUnverified, "STOP_UNVERIFIED")

def classifyMission (lease : GoalLease) (selected : SelectedTask) (execution : MissionExecution) :
    Task σ IdleTaskResult := do
  let mission := execution.mission
  let safe ← e.release lease mission.finalSnapshot mission.terminalStopVerified
  let verdict ← e.verdictOf safe lease selected execution
  log verdict.2
  let s ← get
  return {
    termination := verdict.1
    leaseGeneration := some lease.generation
    plannerCalls := s.plannerCalls
    staleReplans := s.staleReplans
    selectedCandidateId := s.selectedCandidateId
    observation := s.observation
    candidates := s.candidates.map (·.view)
    mission := some mission
    finalSnapshot := some mission.finalSnapshot
    terminalStopVerified := safe
    trace := s.trace }

-- The task

/-- `_boundary_goal`; the counters of a lease are those of a goal. -/
def boundaryGoal (lease : GoalLease) : Except NavigationContractError WaypointGoal :=
  let goalId := "idle-boundary-" ++ toString lease.generation
  if hid : identifierOk goalId then
    if hepoch : Between lease.goalEpoch 1 counterMax then
      if hrevision : Between lease.planRevision 1 counterMax then
        .ok { goalId := goalId, goalEpoch := lease.goalEpoch, planRevision := lease.planRevision,
              targetXMm := 0, targetYMm := 0, toleranceMm := 1,
              goalIdOk := hid, goalEpochOk := hepoch, planRevisionOk := hrevision,
              targetXOk := between_origin, targetYOk := between_origin }
      else .error ⟨"invalid_integer", "plan_revision is invalid"⟩
    else .error ⟨"invalid_integer", "goal_epoch is invalid"⟩
  else .error ⟨"invalid_identifier", "goal_id is invalid"⟩

/-- The turns `_select_task` can take. -/
def selectionTurns (b : TaskBudget) : Nat := min e.maxStaleReplansPerTask b.remainingStaleReplans + 1

def withLease (b : TaskBudget) (lease : GoalLease) : Task σ IdleTaskResult := do
  let goal ← checked (boundaryGoal lease)
  match ← e.selectTask b lease goal (e.selectionTurns b) with
  | .inr result => return result
  | .inl selected =>
    match ← e.dispatchMission b lease goal selected with
    | .done result => return result
    | .go execution => e.classifyMission lease selected execution
    | .retry => throw .other -- a dispatch never asks to retry

def runTask (b : TaskBudget) : Task σ IdleTaskResult := do
  let acquired ← e.onAuthority (·.tryAcquireIdle)
  match ← checked acquired with
  | none => return { termination := .unavailable, trace := ["IDLE_UNAVAILABLE"] }
  | some lease =>
    modify fun s => { s with acquired := some lease }
    e.withLease b lease

end IdleExplorationService

end RobotLlm.Autonomy
