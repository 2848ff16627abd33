import Mathlib.Data.List.Sort
import Mathlib.Data.Nat.Sqrt
import RobotLlm.Navigation.Supervisor

/-!
# Navigation episodes

One bounded run toward a waypoint: observe, publish, arbitrate, execute,
verify, replan. The plant, the local behaviors, the hooks, the cancel event
and the other threads are an environment of programs over a shared state. A
tick leaves the loop by raising its `Exit`, the arguments of `_finish`.
-/

namespace RobotLlm.Navigation

open RobotLlm.Lib

-- Limits, results and the environment

structure NavigationLimits where
  maxTicks : Nat := 300
  maxElapsedMs : Int := 45000
  maxProposals : Nat := 700
  maxReplans : Nat := 300
  maxActions : Nat := 280
  maxTotalMotionMs : Int := 35000
  maxNoProgressTicks : Nat := 80
  minimumProgressMm : Int := 2
  ticksOk : Between maxTicks 1 100000 := by decide
  elapsedOk : Between maxElapsedMs 1 3600000 := by decide
  proposalsOk : Between maxProposals 1 100000 := by decide
  replansOk : Between maxReplans 0 100000 := by decide
  actionsOk : Between maxActions 1 100000 := by decide
  motionOk : Between maxTotalMotionMs 1 3600000 := by decide
  noProgressOk : Between maxNoProgressTicks 1 100000 := by decide
  progressOk : Between minimumProgressMm 1 1000 := by decide

/-- `NavigationLimits()`. -/
def NavigationLimits.standard : NavigationLimits := {}

inductive Termination where
  | goalReached
  | aborted
  | safetyStop
  | progressFailed
  | budgetExhausted
  | executionFailed
  | planStale
deriving DecidableEq

def normalizeHeadingMdeg (value : Int) : Int :=
  let value := value % 360000
  if value ≥ 180000 then value - 360000 else value

/-- The distance rounded to the nearest millimetre. The square root of an
integer is never halfway between two integers. -/
def distanceToGoalMm (snapshot : NavigationSnapshot) (goal : WaypointGoal) : Int :=
  let dx := goal.targetXMm - snapshot.pose.xMm
  let dy := goal.targetYMm - snapshot.pose.yMm
  (Nat.sqrt (4 * (dx * dx + dy * dy)).toNat + 1) / 2

structure Counters where
  ticks : Nat := 0
  proposals : Nat := 0
  replans : Nat := 0
  actions : Nat := 0
  totalMotionMs : Int := 0
deriving DecidableEq

structure NavigationStep where
  tick : Nat
  stateBefore : Int
  stateAfter : Int
  proposalIds : List String
  decisionId : String
  decisionKind : PulseKind
  decisionReason : String
  durationMs : Int
  distanceBeforeMm : Int
  distanceAfterMm : Int
  progressVerified : Bool
deriving DecidableEq

structure NavigationResult where
  goalId : String
  completed : Bool
  termination : Termination
  counters : Counters
  finalSnapshot : NavigationSnapshot
  terminalStopVerified : Bool
  trace : List String
  steps : List NavigationStep

/-- What the episode shares with everything around it: the supervisor's state
and a world it does not look into. -/
structure Shared (σ : Type) where
  world : σ
  supervisor : MotionSupervisor.State

/-- An exception: one of the contract, or any other. -/
inductive Raised where
  | contract (error : NavigationContractError)
  | other
deriving DecidableEq

/-- One successful `apply`: the pulse, the snapshot the reducer held, and the
one the plant returned. -/
structure Applied where
  pulse : DrivePulse
  before : NavigationSnapshot
  after : NavigationSnapshot

/-- The run's state. `applied` is not in the code: it records what the plant
has applied, the newest first. -/
structure EpisodeState (σ : Type) where
  shared : Shared σ
  applied : List Applied := []

structure NavigationEpisode (σ : Type) where
  supervisor : MotionSupervisor
  limits : NavigationLimits := .standard
  requiredWorldModelVersion : Option Int := none
  /-- The plant's calibration and the time its STOP takes. -/
  plantProfile : DriveCalibrationProfile
  idleTickMs : Int
  clockMs : σ → Int
  observe : WaypointGoal → Prog (Shared σ) Raised NavigationSnapshot
  apply : DrivePulse → WaypointGoal → Prog (Shared σ) Raised NavigationSnapshot
  /-- The local behaviors and the inbox they publish to. -/
  publishLocal : WaypointGoal → NavigationSnapshot → Prog (Shared σ) Raised Unit
  drain : Shared σ → List StampedProposal × Shared σ
  beforeArbitration : NavigationSnapshot → Prog (Shared σ) Raised (Option String)
  observationSink : NavigationSnapshot → Prog (Shared σ) Raised Unit
  cancelled : Prog (Shared σ) Raised Bool
  /-- The supervisor's clock reading and its next identifier. -/
  supervisorClock : Shared σ → Except NavigationContractError Int × Shared σ
  freshId : Shared σ → Except NavigationContractError String × Shared σ
  idleTickOk : Between idleTickMs 1 1000 := by decide

/-- The arguments of `_finish`. -/
structure Exit where
  termination : Termination
  counters : Counters
  trace : List String
  steps : List NavigationStep
  snapshot : NavigationSnapshot
  alreadyStopped : Bool := false

structure LoopState where
  /-- The snapshot in the reducer. -/
  reducer : NavigationSnapshot
  trace : List String
  steps : List NavigationStep := []
  counters : Counters := {}
  bestDistance : Int
  noProgressTicks : Nat := 0
  staleDispatchReplans : Nat := 0
  staleRetryGranted : Bool := false

/-- The exit of a tick that has nothing more to say than why. -/
def LoopState.exit (l : LoopState) (termination : Termination) : Exit :=
  ⟨termination, l.counters, l.trace, l.steps, l.reducer, false⟩

def LoopState.log (l : LoopState) (entry : String) : LoopState := { l with trace := l.trace ++ [entry] }

namespace NavigationEpisode

variable {σ : Type}

abbrev Run (σ : Type) := Prog (EpisodeState σ) Raised

abbrev Tick (σ : Type) := Prog (EpisodeState σ) (Exit ⊕ Raised)

def onShared (x : Prog (Shared σ) Raised α) : Run σ α :=
  Prog.onPart EpisodeState.shared (fun shared s => { s with shared := shared }) x

/-- A read of the environment, which may move meanwhile. -/
def reading (f : Shared σ → α × Shared σ) : Run σ α :=
  onShared fun s => (.ok (f s).1, (f s).2)

def onSupervisor (x : MotionSupervisor.Call α) : Run σ α :=
  onShared (Prog.onPart Shared.supervisor (fun state s => { s with supervisor := state })
    (Prog.mapError .contract x))

def uncaught (x : Run σ α) : Tick σ α := Prog.mapError .inr x

def clock (e : NavigationEpisode σ) : Run σ Int := do return e.clockMs (← get).shared.world

/-- `plant.apply`, recorded. -/
def applyPulse (e : NavigationEpisode σ) (before : NavigationSnapshot) (pulse : DrivePulse)
    (goal : WaypointGoal) : Run σ NavigationSnapshot := do
  let after ← onShared (e.apply pulse goal)
  modify fun s => { s with applied := ⟨pulse, before, after⟩ :: s.applied }
  return after

def forceStop (e : NavigationEpisode σ) (snapshot : NavigationSnapshot) (reasonCode : String) :
    Run σ DrivePulse := do
  let fresh ← reading e.freshId
  onSupervisor (e.supervisor.forceStop fresh snapshot reasonCode)

def decide (e : NavigationEpisode σ) (snapshot : NavigationSnapshot) (goal : WaypointGoal)
    (proposals : List StampedProposal) : Run σ DrivePulse := do
  let now ← reading e.supervisorClock
  let fresh ← reading e.freshId
  onSupervisor (e.supervisor.decide now fresh snapshot goal proposals)

def verifyProgress (e : NavigationEpisode σ) (before after : NavigationSnapshot) (pulse : DrivePulse) : Bool :=
  match pulse.kind with
  | .stop => after.stateVersion > before.stateVersion && !after.motorsRunning
  | .drive =>
    let leftDelta := after.leftEncoderMdeg - before.leftEncoderMdeg
    let rightDelta := after.rightEncoderMdeg - before.rightEncoderMdeg
    let expectedLeft := pulse.leftSpeedDps * e.plantProfile.leftMotorSign
    let expectedRight := pulse.rightSpeedDps * e.plantProfile.rightMotorSign
    if after.stateVersion ≤ before.stateVersion ∨ after.worldModelVersion < before.worldModelVersion ∨
        after.motorsRunning = true then false
    else if leftDelta = 0 ∨ rightDelta = 0 ∨ leftDelta * expectedLeft ≤ 0 ∨ rightDelta * expectedRight ≤ 0 then
      false
    else if pulse.reasonCode = "authorized_advance" then
      let larger := max leftDelta.natAbs rightDelta.natAbs
      let smaller := min leftDelta.natAbs rightDelta.natAbs
      let dx := after.pose.xMm - before.pose.xMm
      let dy := after.pose.yMm - before.pose.yMm
      leftDelta * rightDelta > 0 && smaller * 100 ≥ larger * 70 &&
        dx * dx + dy * dy ≥ e.limits.minimumProgressMm * e.limits.minimumProgressMm
    else if pulse.reasonCode = "authorized_turn" then
      let headingDelta := normalizeHeadingMdeg (after.pose.headingMdeg - before.pose.headingMdeg)
      leftDelta * rightDelta < 0 && headingDelta != 0 &&
        (if expectedRight > expectedLeft then headingDelta > 0 else headingDelta < 0)
    else false

def stopped (x : Exit) : Bool := x.alreadyStopped && !x.snapshot.motorsRunning

/-- Stop the plant: its snapshot, and whether it shows that the motors
stopped. -/
def stopPlant (e : NavigationEpisode σ) (snapshot : NavigationSnapshot) (goal : WaypointGoal) :
    Run σ (NavigationSnapshot × Bool) := do
  let stop ← e.forceStop snapshot "terminal_stop"
  let after ← e.applyPulse snapshot stop goal
  return (after, !after.motorsRunning && after.stateVersion > stop.basedOnStateVersion)

def terminalStop (e : NavigationEpisode σ) (goal : WaypointGoal) (x : Exit) :
    Run σ (NavigationSnapshot × Bool) :=
  if stopped x then return (x.snapshot, true)
  else tryCatch (e.stopPlant x.snapshot goal) fun _ => return (x.snapshot, false)

/-- The result of a run that ended in the given snapshot. -/
def resultOf (goal : WaypointGoal) (x : Exit) (snapshot : NavigationSnapshot) (verified : Bool) :
    NavigationResult :=
  let hurt := !snapshot.activeFaults.isEmpty || snapshot.touchPressed
  let termination := if hurt then .safetyStop else x.termination
  let completed := termination = .goalReached && verified &&
    distanceToGoalMm snapshot goal ≤ goal.toleranceMm && !hurt
  { goalId := goal.goalId
    completed := completed
    termination := if verified then termination else .executionFailed
    counters := x.counters
    finalSnapshot := snapshot
    terminalStopVerified := verified
    trace := (if stopped x then x.trace else x.trace ++ ["TERMINAL_STOP"]) ++
      [if completed then "SUCCEEDED" else "FAILED"]
    steps := x.steps }

def finish (e : NavigationEpisode σ) (goal : WaypointGoal) (x : Exit) : Run σ NavigationResult := do
  let _ ← onSupervisor (e.supervisor.observeEmergency x.snapshot)
  let r ← e.terminalStop goal x
  let _ ← onSupervisor (e.supervisor.observeEmergency r.1)
  return resultOf goal x r.1 r.2

-- One tick

/-- Leave the loop where a `try` caught an exception. -/
def orExit (r : Except ε α) (x : Exit) : Tick σ α :=
  match r with
  | .ok a => pure a
  | .error _ => throw (.inl x)

def exitIfCancelled (e : NavigationEpisode σ) (x : Exit) : Tick σ Unit := do
  let cancelled ← uncaught (onShared e.cancelled)
  Prog.failIf (cancelled = true) (.inl { x with trace := x.trace ++ ["CANCELLED"] })

/-- The budgets as the loop checks them before it publishes. -/
def BudgetsSpent (e : NavigationEpisode σ) (c : Counters) (retrying : Bool) (started now : Int) : Prop :=
  c.ticks ≥ e.limits.maxTicks ∨ now < started ∨ now - started ≥ e.limits.maxElapsedMs ∨
    c.proposals ≥ e.limits.maxProposals ∨ (c.replans ≥ e.limits.maxReplans ∧ retrying = false) ∨
    c.actions ≥ e.limits.maxActions ∨ c.totalMotionMs ≥ e.limits.maxTotalMotionMs

instance : Decidable (BudgetsSpent e c retrying started now) :=
  inferInstanceAs (Decidable (_ ∨ _ ∨ _ ∨ _ ∨ _ ∨ _ ∨ _))

def precheck (e : NavigationEpisode σ) (goal : WaypointGoal) (started : Int) (retrying : Bool) (l : LoopState) :
    Tick σ Unit := do
  e.exitIfCancelled (l.exit .aborted)
  let latched := (← get).shared.supervisor.emergencyLatched
  Prog.failIf (l.reducer.touchPressed = true ∨ l.reducer.activeFaults ≠ [] ∨ latched = true)
    (.inl (l.exit .safetyStop))
  Prog.failIf (∃ v ∈ e.requiredWorldModelVersion, l.reducer.worldModelVersion ≠ v) (.inl (l.exit .planStale))
  let now ← uncaught e.clock
  Prog.failIf (BudgetsSpent e l.counters retrying started now) (.inl (l.exit .budgetExhausted))
  let elapsed := now - started
  Prog.failIf (distanceToGoalMm l.reducer goal ≤ goal.toleranceMm)
    (.inl (l.exit (if elapsed + e.idleTickMs > e.limits.maxElapsedMs then .budgetExhausted else .goalReached)))

/-- Local behaviors and the hook of the tick; any exception there aborts. -/
def publish (e : NavigationEpisode σ) (goal : WaypointGoal) (l : LoopState) : Tick σ (Option String) := do
  let directive ← Prog.attempt do
    onShared (e.publishLocal goal l.reducer)
    onShared (e.beforeArbitration l.reducer)
  orExit directive (l.exit .aborted)

/-- A STOP if the hook asked for a fresh observation, else the decision. -/
def arbitrate (e : NavigationEpisode σ) (directive : Option String) (snapshot : NavigationSnapshot)
    (goal : WaypointGoal) (proposals : List StampedProposal) : Run σ DrivePulse :=
  if directive = some "NAVIGATION_REFRESH_REQUIRED" then
    e.forceStop snapshot "post_pause_observation_refresh"
  else e.decide snapshot goal proposals

/-- Leave the loop without dispatching the pulse: its authority is revoked
first. -/
def exitRevoking (pulse : DrivePulse) (x : Exit) : Tick σ Unit := do
  let revoked ← Prog.attempt (onSupervisor (MotionSupervisor.cancel pulse))
  match revoked with
  | .ok _ => throw (.inl x)
  | .error (_ : Raised) => throw (.inl { x with termination := .executionFailed })

def revokeIf (c : Prop) [Decidable c] (pulse : DrivePulse) (x : Exit) : Tick σ Unit :=
  if c then exitRevoking pulse x else pure ()

def dispatchCost (e : NavigationEpisode σ) (pulse : DrivePulse) : Int :=
  match pulse.kind with
  | .drive => pulse.durationMs
  | .stop => e.idleTickMs

def beforeDispatch (e : NavigationEpisode σ) (started : Int) (pulse : DrivePulse) (l : LoopState) : Tick σ Unit := do
  let cancelled ← uncaught (onShared e.cancelled)
  revokeIf (cancelled = true) pulse ((l.log "CANCELLED_BEFORE_DISPATCH").exit .aborted)
  revokeIf (pulse.kind = .drive ∧ (l.counters.actions + 1 > e.limits.maxActions ∨
    l.counters.totalMotionMs + pulse.durationMs > e.limits.maxTotalMotionMs)) pulse (l.exit .budgetExhausted)
  let now ← uncaught e.clock
  let reserve := if pulse.kind = .drive then e.idleTickMs else 0
  revokeIf (now - started + e.dispatchCost pulse + reserve > e.limits.maxElapsedMs) pulse
    (l.exit .budgetExhausted)

/-- `replans` counts every tick after the first and every stale dispatch. -/
def replansOf (staleDispatchReplans ticks : Nat) : Nat := staleDispatchReplans + (ticks - 1)

/-- What a stale dispatch leads to: observe again and retry without a tick,
within the replan budget. -/
def reobserve (e : NavigationEpisode σ) (goal : WaypointGoal) (l : LoopState) : Tick σ LoopState := do
  let l := l.log "STALE_DISPATCH"
  let observed ← Prog.attempt (onShared (e.observe goal))
  let fresh ← orExit observed (l.exit .aborted)
  let aborted : Exit := { l.exit .aborted with snapshot := fresh }
  let fresh ← orExit (StateReducer.commit l.reducer fresh) aborted
  Prog.failIf (∃ v ∈ e.requiredWorldModelVersion, fresh.worldModelVersion ≠ v)
    (.inl { aborted with termination := .planStale })
  let delivered ← Prog.attempt (onShared (e.observationSink fresh))
  orExit delivered aborted
  let l := { l with reducer := fresh }.log "STALE_DISPATCH_REOBSERVED"
  Prog.failIf (l.counters.replans ≥ e.limits.maxReplans) (.inl (l.exit .budgetExhausted))
  let stale := l.staleDispatchReplans + 1
  return { l with
    staleDispatchReplans := stale
    counters := { l.counters with replans := replansOf stale l.counters.ticks }
    staleRetryGranted := true }.log "REPLANNING"

def account (l : LoopState) (pulse : DrivePulse) : Counters :=
  let ticks := l.counters.ticks + 1
  { l.counters with
    ticks := ticks
    replans := replansOf l.staleDispatchReplans ticks
    actions := if pulse.kind = .drive then l.counters.actions + 1 else l.counters.actions
    totalMotionMs :=
      if pulse.kind = .drive then l.counters.totalMotionMs + pulse.durationMs else l.counters.totalMotionMs }

def stepOf (l : LoopState) (goal : WaypointGoal) (after : NavigationSnapshot) (proposals : List StampedProposal)
    (pulse : DrivePulse) (progressVerified : Bool) : NavigationStep where
  tick := l.counters.ticks + 1
  stateBefore := l.reducer.stateVersion
  stateAfter := after.stateVersion
  proposalIds := (proposals.map (·.proposal.proposalId)).insertionSort (· ≤ ·)
  decisionId := pulse.decisionId
  decisionKind := pulse.kind
  decisionReason := pulse.reasonCode
  durationMs := pulse.durationMs
  distanceBeforeMm := distanceToGoalMm l.reducer goal
  distanceAfterMm := distanceToGoalMm after goal
  progressVerified := progressVerified

/-- Whether a reason code starts with `abort_`. -/
def isAbort (reasonCode : String) : Bool := "abort_".toList.isPrefixOf reasonCode.toList

/-- The best distance and the ticks without progress after a dispatched
pulse. -/
def progressOf (e : NavigationEpisode σ) (l : LoopState) (pulse : DrivePulse) (afterDistance : Int) :
    Int × Nat :=
  match pulse.kind with
  | .stop =>
    if pulse.reasonCode = "post_pause_observation_refresh" then (l.bestDistance, l.noProgressTicks)
    else (l.bestDistance, l.noProgressTicks + 1)
  | .drive =>
    if afterDistance ≤ l.bestDistance - e.limits.minimumProgressMm then (afterDistance, 0)
    else (l.bestDistance, l.noProgressTicks + 1)

/-- What follows a committed dispatch: count it, verify it, deliver the
observation, and decide whether to go on. -/
def verify (e : NavigationEpisode σ) (goal : WaypointGoal) (l : LoopState) (proposals : List StampedProposal)
    (pulse : DrivePulse) (after : NavigationSnapshot) : Tick σ LoopState := do
  let progressVerified := e.verifyProgress l.reducer after pulse
  let l' := { l with
    counters := account l pulse
    steps := l.steps ++ [stepOf l goal after proposals pulse progressVerified]
    reducer := after }.log "VERIFYING"
  let delivered ← Prog.attempt (onShared (e.observationSink after))
  orExit delivered ((l'.log "OBSERVATION_SINK_FAILED").exit .aborted)
  let stopped := pulse.kind = .stop && progressVerified && !after.motorsRunning
  Prog.failIf (after.touchPressed = true ∨ after.activeFaults ≠ [])
    (.inl { l'.exit .safetyStop with alreadyStopped := stopped })
  Prog.failIf (progressVerified = false) (.inl (l'.exit .progressFailed))
  Prog.failIf (pulse.kind = .stop ∧ isAbort pulse.reasonCode = true)
    (.inl { l'.exit .aborted with alreadyStopped := true })
  let progress := e.progressOf l pulse (distanceToGoalMm after goal)
  Prog.failIf (progress.2 ≥ e.limits.maxNoProgressTicks)
    (.inl { l'.exit .progressFailed with alreadyStopped := stopped })
  return { l' with bestDistance := progress.1, noProgressTicks := progress.2 }.log "REPLANNING"

def dispatch (e : NavigationEpisode σ) (goal : WaypointGoal) (proposals : List StampedProposal)
    (pulse : DrivePulse) (l : LoopState) : Tick σ LoopState := do
  let l := l.log "EXECUTING"
  let applied ← Prog.attempt (e.applyPulse l.reducer pulse goal)
  match applied with
  | .ok after =>
    -- no refusal of the reducer carries the code `stale_drive_pulse`
    let after ← orExit (StateReducer.commit l.reducer after) (l.exit .executionFailed)
    e.verify goal l proposals pulse after
  | .error (.contract error) =>
    if error.code = "stale_drive_pulse" then e.reobserve goal l
    else throw (.inl (l.exit .executionFailed))
  | .error .other => throw (.inl (l.exit .executionFailed))

def tick (e : NavigationEpisode σ) (goal : WaypointGoal) (started : Int) (l : LoopState) : Tick σ LoopState := do
  let retrying := l.staleRetryGranted
  let l := { l with staleRetryGranted := false }
  e.precheck goal started retrying l
  let l := l.log "PUBLISHING"
  let directive ← e.publish goal l
  e.exitIfCancelled (l.exit .aborted)
  let proposals ← uncaught (reading e.drain)
  let l := { l with counters := { l.counters with proposals := l.counters.proposals + proposals.length } }
  Prog.failIf (l.counters.proposals > e.limits.maxProposals) (.inl (l.exit .budgetExhausted))
  let l := l.log "ARBITRATING"
  let pulse ← uncaught (e.arbitrate directive l.reducer goal proposals)
  e.beforeDispatch started pulse l
  e.dispatch goal proposals pulse l

-- The run

/-- The loop, for at most `fuel` ticks; `none` when they did not suffice. -/
def loop (e : NavigationEpisode σ) (goal : WaypointGoal) (started : Int) :
    Nat → LoopState → Run σ (Option NavigationResult)
  | 0, _ => return none
  | fuel + 1, l => fun s =>
    match e.tick goal started l s with
    | (.ok l, s) => e.loop goal started fuel l s
    | (.error (.inl x), s) => (do return some (← e.finish goal x) : Run σ _) s
    | (.error (.inr error), s) => (.error error, s)

def run (e : NavigationEpisode σ) (fuel : Nat) (goal : WaypointGoal) : Run σ (Option NavigationResult) := do
  let started ← e.clock
  let snapshot ← onShared (e.observe goal)
  let l : LoopState :=
    { reducer := snapshot, trace := ["CREATED", "OBSERVING"], bestDistance := distanceToGoalMm snapshot goal }
  match ← Prog.attempt (onShared (e.observationSink snapshot)) with
  | .ok _ => e.loop goal started fuel l
  | .error (_ : Raised) => return some (← e.finish goal (l.exit .aborted))

end NavigationEpisode

end RobotLlm.Navigation
