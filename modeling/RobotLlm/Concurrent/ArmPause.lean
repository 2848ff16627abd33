import RobotLlm.Lib.Machine
import RobotLlm.Navigation.Contract

/-!
# The arm's pause of navigation

Three event flags let the arm worker stop navigation, move the arm, and let
navigation go on. Each thread is a program counter, one atomic access to a flag
at a time; what a thread finds out by itself (the clock, the queue, its budgets,
what the supervisor decides) is read from outside at the step that needs it.
-/

namespace RobotLlm.Concurrent

open RobotLlm.Lib RobotLlm.Navigation

-- Jobs and budgets

structure RuntimePolicy where
  maxGestures : Nat
  maxArmTimeMs : Int
  gestureCooldownMs : Int
  armSpeedDps : Int
  armSegmentDurationMs : Int
  maxEvidenceAgeMs : Int

inductive GestureKind where
  | none
  | propellerWave
deriving DecidableEq

structure ArmJob where
  obstructionEpoch : Int
  gestureKind : GestureKind
  repetitions : Nat
  validUntilMs : Int
deriving DecidableEq

inductive DrivePhase where
  | stopped
  | moving
  | blocked
deriving DecidableEq

/-- The current interaction snapshot, and whether the job's proposal is bound
to it. -/
structure InteractionView where
  drivePhase : DrivePhase
  capturedAtMs : Int
  evidenceObservedAtMs : Option Int
  matchesProposal : Bool

structure ArmLedger where
  usedMs : Int := 0
  lastCompletedAtMs : Option Int := none
  executedEpochs : List Int := []
  gesturesStarted : Nat := 0
deriving DecidableEq

namespace ArmLedger

/-- Whether a job is dropped for its epoch, a budget or the cooldown. -/
def Drops (l : ArmLedger) (p : RuntimePolicy) (job : ArmJob) (nowMs : Int) : Prop :=
  job.obstructionEpoch ∈ l.executedEpochs ∨ l.gesturesStarted ≥ p.maxGestures ∨
    l.usedMs + job.repetitions * 2 * p.armSegmentDurationMs > p.maxArmTimeMs ∨
    ∃ last ∈ l.lastCompletedAtMs, nowMs - last < p.gestureCooldownMs

instance : Decidable (Drops l p job nowMs) := inferInstanceAs (Decidable (_ ∨ _ ∨ _ ∨ _))

def start (l : ArmLedger) (job : ArmJob) : ArmLedger :=
  { l with
    executedEpochs := job.obstructionEpoch :: l.executedEpochs
    gesturesStarted := l.gesturesStarted + 1 }

end ArmLedger

def armRevalidation (p : RuntimePolicy) (job : ArmJob) (nowMs : Int) (current : Option InteractionView) : Bool :=
  if nowMs > job.validUntilMs then false
  else
    match current with
    | none => false
    | some view =>
      match view.evidenceObservedAtMs with
      | none => false
      | some observedAtMs =>
        view.drivePhase = .blocked && view.capturedAtMs - observedAtMs ≤ p.maxEvidenceAgeMs && view.matchesProposal

-- The threads

/-- What the worker does after it released navigation. -/
inductive Next where
  | again
  | stop
deriving DecidableEq

/-- Where the arm worker stands: before the access named. -/
inductive ArmPc where
  | take
  | taken (job : ArmJob)
  | screen (job : ArmJob)
  | clearAcknowledged (job : ArmJob)
  | clearReleased (job : ArmJob)
  | setRequested (job : ArmJob)
  | awaitAcknowledged (job : ArmJob)
  /-- Blocked in `pause_acknowledged.wait()`. -/
  | blocked (job : ArmJob)
  | acknowledged (job : ArmJob)
  | revalidate (job : ArmJob)
  /-- Before the cancel check at the head of a segment; `left` are to do. -/
  | segment (left : Nat)
  | startSegment (left : Nat)
  | moving (left : Nat)
  | segmentDone (left : Nat)
  /-- In the `finally` of a gesture. -/
  | complete (next : Next)
  | setReleased (next : Next)
  | clearRequested (next : Next)
  /-- The thread has ended; `held` if an exception ended it before it could
  release navigation. -/
  | ended (held : Bool)
deriving DecidableEq

inductive NavigationPc where
  | loopHead
  | hook
  | readRequested
  | setAcknowledged
  | awaitReleased
  /-- Blocked in `pause_released.wait(timeout)`. -/
  | blocked
  /-- The three sets of `cancel` after a timeout. -/
  | timedOut
  | timedOutAcknowledge
  | timedOutRelease
  /-- Back in the tick; `refresh` if the hook asked for a new observation. -/
  | hooked (refresh : Bool)
  | arbitrate (refresh : Bool)
  | beforeDispatch (kind : PulseKind)
  | dispatch (kind : PulseKind)
  | applying (kind : PulseKind)
  | finish
  /-- The three sets in the `finally` of the runtime's `run`. -/
  | close
  | closeAcknowledge
  | closeRelease
  | ended
deriving DecidableEq

structure PauseState where
  requested : Bool := false
  acknowledged : Bool := false
  released : Bool := false
  cancelled : Bool := false
  arm : ArmPc := .take
  ledger : ArmLedger := {}
  navigation : NavigationPc := .loopHead
deriving DecidableEq

/-- What happens to the plant and to the pause at a step. -/
inductive PauseEvent where
  | quiet
  | segmentStarted (speedDps : Int)
  | pauseReleased
  | driveBegun
  | driveEnded
deriving DecidableEq

namespace PauseState

/-- `pause_acknowledged.set()`: the worker blocked on it is notified. -/
def acknowledge (s : PauseState) : PauseState :=
  { s with
    acknowledged := true
    arm := match s.arm with
      | .blocked job => .acknowledged job
      | pc => pc }

/-- `pause_released.set()`: the navigation thread blocked on it is notified. -/
def release (s : PauseState) : PauseState :=
  { s with
    released := true
    navigation := match s.navigation with
      | .blocked => .hooked true
      | pc => pc }

def armAt (s : PauseState) (pc : ArmPc) : PauseState := { s with arm := pc }

def navigationAt (s : PauseState) (pc : NavigationPc) : PauseState := { s with navigation := pc }

end PauseState

-- The arm worker

inductive SegmentOutcome where
  | returned
  | exception
  | baseException
deriving DecidableEq

/-- What the arm worker reads from outside at a step. -/
structure ArmReading where
  /-- The head of the queue; `none` is the stop mark. -/
  item : Option ArmJob := none
  /-- `none` when the host clock is invalid and `_now_ms` raises. -/
  nowMs : Option Int := some 0
  current : Option InteractionView := none
  segment : SegmentOutcome := .returned
  /-- Whether the callback's own cancel event is set. -/
  callbackCancelled : Bool := false

def armStep (p : RuntimePolicy) (r : ArmReading) (s : PauseState) : PauseEvent × PauseState :=
  match s.arm with
  | .take =>
    match r.item with
    | none => (.quiet, s.armAt (.ended false))
    | some job => (.quiet, s.armAt (.taken job))
  | .taken job => (.quiet, s.armAt (if s.cancelled then .ended false else .screen job))
  | .screen job =>
    if job.gestureKind ≠ .propellerWave then (.quiet, s.armAt .take)
    else
      match r.nowMs with
      | none => (.quiet, s.armAt (.ended false))
      | some nowMs => (.quiet, s.armAt (if s.ledger.Drops p job nowMs then .take else .clearAcknowledged job))
  | .clearAcknowledged job => (.quiet, { s with acknowledged := false }.armAt (.clearReleased job))
  | .clearReleased job => (.quiet, { s with released := false }.armAt (.setRequested job))
  | .setRequested job => (.quiet, { s with requested := true }.armAt (.awaitAcknowledged job))
  | .awaitAcknowledged job => (.quiet, s.armAt (if s.acknowledged then .acknowledged job else .blocked job))
  | .blocked _ => (.quiet, s)
  | .acknowledged job => (.quiet, s.armAt (if s.cancelled then .setReleased .stop else .revalidate job))
  | .revalidate job =>
    match r.nowMs with
    | none => (.quiet, s.armAt (.ended true))
    | some nowMs =>
      if armRevalidation p job nowMs r.current then
        (.quiet, { s with ledger := s.ledger.start job }.armAt (.segment (2 * job.repetitions)))
      else (.quiet, s.armAt (.setReleased .again))
  | .segment 0 => (.quiet, s.armAt (.complete .again))
  | .segment (left + 1) =>
    (.quiet, s.armAt (if s.cancelled || r.callbackCancelled then .complete .again else .startSegment (left + 1)))
  | .startSegment left =>
    -- the directions of a repetition are 1 and then -1
    (.segmentStarted (if left % 2 = 0 then p.armSpeedDps else -p.armSpeedDps),
      { s with ledger := { s.ledger with usedMs := s.ledger.usedMs + p.armSegmentDurationMs } }.armAt (.moving left))
  | .moving left =>
    match r.segment with
    | .returned => (.quiet, s.armAt (.segmentDone left))
    | .exception => (.quiet, s.armAt (.complete .again))
    | .baseException => (.quiet, s.armAt (.complete .stop))
  | .segmentDone left =>
    (.quiet, s.armAt (if s.cancelled || r.callbackCancelled then .complete .again else .segment (left - 1)))
  | .complete next =>
    match r.nowMs with
    | none => (.quiet, s.armAt (.ended true))
    | some nowMs =>
      (.quiet, { s with ledger := { s.ledger with lastCompletedAtMs := some nowMs } }.armAt (.setReleased next))
  | .setReleased next => (.pauseReleased, s.release.armAt (.clearRequested next))
  | .clearRequested next =>
    (.quiet, { s with requested := false }.armAt (match next with
      | .again => .take
      | .stop => .ended false))
  | .ended _ => (.quiet, s)

-- The navigation thread

/-- What the navigation thread reads from outside at a step. -/
structure NavigationReading where
  /-- Whether the tick's own checks, sources and hooks let it go on. -/
  goesOn : Bool := true
  motorsRunning : Bool := false
  timesOut : Bool := false
  /-- The kind the supervisor decides; `none` when it raises. -/
  decided : Option PulseKind := some .stop

def navigationStep (r : NavigationReading) (s : PauseState) : PauseEvent × PauseState :=
  match s.navigation with
  | .loopHead => (.quiet, s.navigationAt (if s.cancelled || !r.goesOn then .finish else .hook))
  | .hook =>
    (.quiet, s.navigationAt (if !r.goesOn then .finish else if s.cancelled then .hooked false else .readRequested))
  | .readRequested =>
    (.quiet, s.navigationAt (if !s.requested || r.motorsRunning then .hooked false else .setAcknowledged))
  | .setAcknowledged => (.quiet, s.acknowledge.navigationAt .awaitReleased)
  | .awaitReleased => (.quiet, s.navigationAt (if s.released then .hooked true else .blocked))
  | .blocked => (.quiet, if r.timesOut then s.navigationAt .timedOut else s)
  | .timedOut => (.quiet, { s with cancelled := true }.navigationAt .timedOutAcknowledge)
  | .timedOutAcknowledge => (.quiet, s.acknowledge.navigationAt .timedOutRelease)
  | .timedOutRelease => (.quiet, s.release.navigationAt (.hooked false))
  | .hooked refresh => (.quiet, s.navigationAt (if s.cancelled || !r.goesOn then .finish else .arbitrate refresh))
  | .arbitrate true => (.quiet, s.navigationAt (.beforeDispatch .stop))
  | .arbitrate false =>
    match r.decided with
    | none => (.quiet, s.navigationAt .close)
    | some kind => (.quiet, s.navigationAt (.beforeDispatch kind))
  | .beforeDispatch kind => (.quiet, s.navigationAt (if s.cancelled then .finish else .dispatch kind))
  | .dispatch kind =>
    if r.goesOn then
      (match kind with
        | .drive => .driveBegun
        | .stop => .quiet, s.navigationAt (.applying kind))
    else (.quiet, s.navigationAt .finish)
  | .applying kind =>
    (match kind with
      | .drive => .driveEnded
      | .stop => .quiet, s.navigationAt (if r.goesOn then .loopHead else .finish))
  | .finish => (.quiet, s.navigationAt .close)
  | .close => (.quiet, { s with cancelled := true }.navigationAt .closeAcknowledge)
  | .closeAcknowledge => (.quiet, s.acknowledge.navigationAt .closeRelease)
  | .closeRelease => (.quiet, s.release.navigationAt .ended)
  | .ended => (.quiet, s)

-- Every interleaving

/-- One atomic step of one thread. Any number of threads may call `cancel`;
each sets the cancel event before it sets the flags. -/
inductive PauseStep where
  | arm (r : ArmReading)
  | navigation (r : NavigationReading)
  | cancelEvent
  | cancelAcknowledge
  | cancelRelease

def armPause (p : RuntimePolicy) : Machine PauseState PauseStep PauseEvent where
  step s
    | .arm r => armStep p r s
    | .navigation r => navigationStep r s
    | .cancelEvent => (.quiet, { s with cancelled := true })
    | .cancelAcknowledge => (.quiet, if s.cancelled then s.acknowledge else s)
    | .cancelRelease => (.quiet, if s.cancelled then s.release else s)

end RobotLlm.Concurrent
