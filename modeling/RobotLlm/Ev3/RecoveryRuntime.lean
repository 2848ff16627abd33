import Mathlib.Data.Rat.Defs
import RobotLlm.Ev3.EncoderRecoveryLaws
import RobotLlm.Lib.Prog

/-!
# Recovery of one slice

The runtime executes what the recovery policy decides, through the callbacks
of the navigation worker, and returns the slice with one segment for each
motion: where the wheels stood before and after it, and from the first to the
last.
-/

namespace RobotLlm.Ev3

open RobotLlm.Lib

-- Data

structure ObservedMotor where
  role : String
  position : Int
  state : String
deriving DecidableEq

abbrev WorkerObservation := List ObservedMotor

structure DriveReceipt where
  side : Side
  role : String
  positionBefore : Int
  positionAfter : Int
  positionDelta : Int
  state : String
deriving DecidableEq

inductive SliceStatus where
  | completed
  | verificationFailed
  | interrupted
deriving DecidableEq

structure SliceCheck where
  role : String
  side : Option Side
  positionDelta : Int
  completionPercent : Option Nat := none
  passed : Bool
deriving DecidableEq

structure EncoderVerification where
  passed : Bool
  error : Option String
  checks : List SliceCheck
deriving DecidableEq

inductive SegmentKind where
  | paired
  | leftCatchUp
  | rightCatchUp
  | pairedRetry
  | partialStart
deriving DecidableEq

structure RecoverySegment where
  segmentIndex : Nat
  kind : SegmentKind
  commandedSides : List Side
  durationMs : Nat
  status : SliceStatus
  reason : String
  startedMonotonicMs : Option Int
  completedMonotonicMs : Int
  motors : Sides DriveReceipt
  encoderVerification : EncoderVerification
  stop : StopResult
deriving DecidableEq

/-- What `finish_active(True)` reports, the motors apart. -/
structure FinishReport where
  stop : StopResult
  verificationError : Option String := none
  checks : List SliceCheck := []

structure EvidenceMotor where
  side : Side
  role : String
  physicalSpeedDps : Int
  positionBefore : Int
  positionAfter : Int
  positionDelta : Int
deriving DecidableEq

/-- `supervisor_start_evidence`. -/
structure StartEvidence where
  complete : Bool
  durationMs : Nat
  startedSides : List Side
  startWriteWindows : List MotorOwner.StartWindow
  motors : List EvidenceMotor
  startedAtMs : Option Int
  completedAtMs : Int
  stop : StopResult
deriving DecidableEq

/-- An exception, `WorkerError` or other, with its attributes. -/
structure WorkerFailure where
  isWorkerError : Bool
  code : Option String := none
  message : String
  fatal : Bool := false
  evidence : Option StartEvidence := none
deriving DecidableEq

def workerError (code message : String) (fatal : Bool) : WorkerFailure :=
  { isWorkerError := true, code := some code, message := message, fatal := fatal }

def incompleteEvidence (message : String) : WorkerFailure := workerError "start_evidence_incomplete" message true

/-- The end of a slice that an interruption came to. -/
structure Terminal where
  reason : String
  stop : StopResult

inductive Execution where
  | denied (terminal : Terminal)
  | ran (segment : RecoverySegment) (after : WorkerObservation) (terminal : Option Terminal)

structure SliceResult where
  status : SliceStatus
  reason : String
  completedMonotonicMs : Int
  motors : Sides DriveReceipt
  segments : List RecoverySegment
  encoderVerification : EncoderVerification
  stop : StopResult

-- The constants of the profile that the checks of a slice use.

def ENCODER_RECOVERY_ACCEPTABLE_COMPLETION_PERCENT : Nat := 75

def ENCODER_RECOVERY_MAXIMUM_PROGRESS_SKEW_PERCENT : Nat := 15

def MAX_PULSES : Nat := 40

def MAX_PULSE_DURATION_MS : Nat := 32000

-- The worker's callbacks

structure StartedDrive where
  startedAtMs : Int

/-- The callbacks of a worker whose state is `ω`. The start guard is asked
within the starts. -/
structure EncoderRecoveryRuntime (ω : Type) where
  policy : EncoderRecoveryPolicy
  observe : Prog ω WorkerFailure WorkerObservation
  startDriveSide : Side → Int → Nat → Prog ω WorkerFailure StartedDrive
  startDrive : Int → Int → Nat → Prog ω WorkerFailure StartedDrive
  waitForActive : StartedDrive → Prog ω WorkerFailure (SliceStatus × String)
  requireVerifiedFinish : Prog ω WorkerFailure FinishReport
  nowMs : Prog ω WorkerFailure Int
  monotonic : Prog ω WorkerFailure Rat
  deadline : Prog ω WorkerFailure Rat
  motionBudget : Prog ω WorkerFailure (Nat × Nat)
  consumeMotionBudget : Nat → Prog ω WorkerFailure Unit
  latchMotionFault : Prog ω WorkerFailure Unit
  driveRolesBySide : Sides String
  stopIsVerified : StopResult → Bool

/-- The worker, and the observations the runtime made of it, oldest first. These
are kept for the laws and read by nothing in the code. -/
structure SliceState (ω : Type) where
  worker : ω
  observed : List WorkerObservation := []

-- Evidence of a failed start

/-- The write windows follow one another, each of its side's motor. -/
def windowsOk (roles : Sides String) (previousEnd : Option Int) : List MotorOwner.StartWindow → Bool
  | [] => true
  | window :: windows =>
    window.role = roles.get window.side && window.beginMs ≤ window.endMs &&
      (previousEnd.all fun e => e ≤ window.beginMs) && windowsOk roles (some window.endMs) windows

/-- Each motor is one of those commanded, with receipts that add up. -/
def evidenceMotorsOk (roles : Sides String) (sides : List Side) (seen : List Side) : List EvidenceMotor → Bool
  | [] => sides.all seen.contains
  | motor :: motors =>
    sides.contains motor.side && !seen.contains motor.side && motor.role = roles.get motor.side &&
      motor.physicalSpeedDps ≠ 0 && motor.positionAfter - motor.positionBefore = motor.positionDelta &&
      evidenceMotorsOk roles sides (motor.side :: seen) motors

def validatedStartFailureEvidence (e : WorkerFailure) (durationMs : Nat) (sides : List Side) (roles : Sides String)
    (stopIsVerified : StopResult → Bool) : Except WorkerFailure StartEvidence :=
  match e.evidence with
  | none => .error (incompleteEvidence "A failed motor start lacked complete encoder evidence")
  | some evidence =>
    if evidence.complete = false then
      .error (incompleteEvidence "A failed motor start lacked complete encoder evidence")
    else if evidence.durationMs ≠ durationMs ∨ ¬ evidence.startedSides.Nodup ∨
        (∃ side ∈ evidence.startedSides, side ∉ sides) ∨
        evidence.startWriteWindows.length ≠ evidence.startedSides.length ∨
        evidence.motors.length ≠ sides.length ∨ stopIsVerified evidence.stop = false then
      .error (incompleteEvidence "Failed motor-start evidence was inconsistent")
    else if evidence.startedSides ≠ [] ∧ (evidence.startedAtMs.all fun at_ => evidence.completedAtMs < at_) = true then
      .error (incompleteEvidence "Failed motor-start timestamps were inconsistent")
    else if evidence.startedSides = [] ∧ evidence.startedAtMs ≠ none then
      .error (incompleteEvidence "A denied start reported an impossible start timestamp")
    else if evidence.startWriteWindows.map MotorOwner.StartWindow.side ≠ evidence.startedSides then
      .error (incompleteEvidence "Failed motor-start windows did not match started sides")
    else if windowsOk roles none evidence.startWriteWindows = false then
      .error (incompleteEvidence "Failed motor-start write windows were inconsistent")
    else if evidenceMotorsOk roles sides [] evidence.motors = false then
      .error (incompleteEvidence "Failed motor-start encoder receipts were inconsistent")
    else .ok evidence

def partialStartDirectionMismatch (evidence : StartEvidence) : Bool :=
  evidence.motors.any fun motor =>
    evidence.startedSides.contains motor.side && motor.positionDelta ≠ 0 &&
      motor.positionDelta * motor.physicalSpeedDps < 0

def partialStartVerification (motors : Sides DriveReceipt) (startedSides : List Side) : EncoderVerification where
  passed := false
  error := some "paired motor start was incomplete"
  checks :=
    [motors.left, motors.right].map (fun motor =>
      ⟨motor.role, some motor.side, motor.positionDelta, none, startedSides.contains motor.side⟩) ++
      [⟨"paired_start_completion", none, 0, none, false⟩]

def partialStartSegment (evidence : StartEvidence) (motors : Sides DriveReceipt) (durationMs segmentIndex : Nat)
    (reason : String) : RecoverySegment where
  segmentIndex := segmentIndex
  kind := .partialStart
  commandedSides := evidence.startedSides
  durationMs := durationMs
  status := .interrupted
  reason := reason
  startedMonotonicMs := evidence.startedAtMs
  completedMonotonicMs := evidence.completedAtMs
  motors := motors
  encoderVerification := partialStartVerification motors evidence.startedSides
  stop := evidence.stop

-- Receipts

/-- `by_role[role]`; the last motor of a role counts. -/
def motorByRole (motors : WorkerObservation) (role : String) : Except WorkerFailure ObservedMotor :=
  match motors.reverse.find? (·.role = role) with
  | some motor => .ok motor
  | none => .error { isWorkerError := false, message := role }

def receiptBetween (roles : Sides String) (before after : WorkerObservation) (side : Side) : Except WorkerFailure DriveReceipt := do
  let role := roles.get side
  let beforeMotor ← motorByRole before role
  let afterMotor ← motorByRole after role
  return ⟨side, role, beforeMotor.position, afterMotor.position, afterMotor.position - beforeMotor.position,
    afterMotor.state⟩

def driveReceiptsBetween (roles : Sides String) (before after : WorkerObservation) : Except WorkerFailure (Sides DriveReceipt) := do
  return ⟨← receiptBetween roles before after .left, ← receiptBetween roles before after .right⟩

def receiptUntil (initial : DriveReceipt) (final : WorkerObservation) : Except WorkerFailure DriveReceipt := do
  let motor ← motorByRole final initial.role
  return { initial with
    positionAfter := motor.position
    positionDelta := motor.position - initial.positionBefore
    state := motor.state }

def aggregateReceipts (initial : Sides DriveReceipt) (final : WorkerObservation) : Except WorkerFailure (Sides DriveReceipt) := do
  return ⟨← receiptUntil initial.left final, ← receiptUntil initial.right final⟩

/-- `_checks`. -/
def sliceChecks (decision : RecoveryDecision) (motors : Sides DriveReceipt) : List SliceCheck :=
  [motors.left, motors.right].map (fun motor =>
    ⟨motor.role, some motor.side, motor.positionDelta, some (decision.completion.get motor.side),
      decision.completion.get motor.side ≥ ENCODER_RECOVERY_ACCEPTABLE_COMPLETION_PERCENT⟩) ++
    [⟨"paired_drive_balance", none, 0, some (min decision.completion.left decision.completion.right),
      ((decision.completion.left : Int) - decision.completion.right).natAbs ≤ ENCODER_RECOVERY_MAXIMUM_PROGRESS_SKEW_PERCENT⟩]

namespace EncoderRecoveryRuntime

variable {ω : Type} (rt : EncoderRecoveryRuntime ω)

abbrev Run (ω : Type) := Prog (SliceState ω) WorkerFailure

def call (x : Prog ω WorkerFailure α) : Run ω α := Prog.onPart SliceState.worker (fun w s => { s with worker := w }) x

/-- `self.observe()`, kept in the log. -/
def observeNow : Run ω WorkerObservation := do
  let observation ← call rt.observe
  modify fun s => { s with observed := s.observed ++ [observation] }
  return observation

/-- An error of the policy is no `WorkerError`. -/
def policyFailure (e : PyError) : WorkerFailure := { isWorkerError := false, code := e.code, message := e.message }

def decision (physicalSpeedDps : Sides Int) (durationMs : Nat) (motors : Sides DriveReceipt) (budget : EncoderRecoveryBudget) :
    Except WorkerFailure RecoveryDecision :=
  (rt.policy.decide (.of fun side => roundDiv (physicalSpeedDps.get side * durationMs) 1000)
    (.of fun side => (motors.get side).positionDelta) durationMs budget).mapError policyFailure

def budgetAllows (durationMs : Nat) : Run ω Bool := do
  let used ← call rt.motionBudget
  if used.1 + 1 ≤ MAX_PULSES ∧ used.2 + durationMs ≤ MAX_PULSE_DURATION_MS then do
    let now ← call rt.monotonic
    let deadline ← call rt.deadline
    return now + durationMs / 1000 + 1 / 4 < deadline
  else return false

-- One instruction

def startInstruction (speeds : Sides Int) (instruction : RecoveryInstruction) : Prog ω WorkerFailure StartedDrive :=
  match instruction.mode with
  | .singleWheel side => rt.startDriveSide side (speeds.get side) instruction.durationMs
  | .paired => rt.startDrive speeds.left speeds.right instruction.durationMs

def instructionKind : RecoveryMode → SegmentKind
  | .singleWheel .left => .leftCatchUp
  | .singleWheel .right => .rightCatchUp
  | .paired => .pairedRetry

/-- A start that was denied before any motor ran: an interruption, unless the
worker cannot go on. -/
def startDenied (e : WorkerFailure) (evidence : StartEvidence) : Except WorkerFailure Execution :=
  if e.isWorkerError = true ∧ e.fatal = true then .error e
  else if e.isWorkerError = false then
    .error (workerError "motion_start_failed" "Motor start failed before execution" true)
  else .ok (.denied ⟨e.code.getD "motion_start_failed", evidence.stop⟩)

/-- The encoders of a started wheel are still where its cleanup left them. -/
def evidenceStands (evidence : StartEvidence) (motors : Sides DriveReceipt) : Bool :=
  evidence.motors.all fun motor =>
    !evidence.startedSides.contains motor.side ||
      ((motors.get motor.side).positionBefore = motor.positionBefore &&
        (motors.get motor.side).positionAfter = motor.positionAfter)

/-- `if condition: self.latch_motion_fault()`. -/
def latchIf (condition : Bool) : Run ω Unit := if condition then call rt.latchMotionFault else pure ()

def startInterrupted (before : WorkerObservation) (e : WorkerFailure) (evidence : StartEvidence) (durationMs segmentIndex : Nat) :
    Run ω Execution := do
  call (rt.consumeMotionBudget durationMs)
  let mismatch := partialStartDirectionMismatch evidence
  let reason := if mismatch then "encoder_direction_mismatch" else e.code.getD "motion_start_failed"
  rt.latchIf mismatch
  rt.latchIf (!e.isWorkerError)
  let after ← rt.observeNow
  let motors ← Prog.ofExcept (driveReceiptsBetween rt.driveRolesBySide before after)
  Prog.failIf (evidenceStands evidence motors = false) (incompleteEvidence "Cleanup encoders changed after partial start")
  return .ran (partialStartSegment evidence motors durationMs segmentIndex reason) after (some ⟨reason, evidence.stop⟩)

def startFailed (before : WorkerObservation) (instruction : RecoveryInstruction) (segmentIndex : Nat) (e : WorkerFailure) :
    Run ω Execution := do
  let evidence ← Prog.ofExcept (validatedStartFailureEvidence e instruction.durationMs
    (EncoderRecoveryPolicy.commandedSides instruction.mode) rt.driveRolesBySide rt.stopIsVerified)
  if evidence.startedSides = [] then Prog.ofExcept (startDenied e evidence)
  else rt.startInterrupted before e evidence instruction.durationMs segmentIndex

/-- An undertravel found after the full time is a failed verification. -/
def segmentOutcome (waited : SliceStatus × String) (finish : FinishReport) : SliceStatus × String :=
  if waited.1 = .completed ∧ finish.verificationError ≠ none then (.verificationFailed, "encoder_undertravel_observed")
  else waited

def runStarted (before : WorkerObservation) (instruction : RecoveryInstruction) (segmentIndex : Nat) (active : StartedDrive) :
    Run ω Execution := do
  call (rt.consumeMotionBudget instruction.durationMs)
  let waited ← call (rt.waitForActive active)
  let finish ← call rt.requireVerifiedFinish
  let outcome := segmentOutcome waited finish
  let after ← rt.observeNow
  let completedMs ← call rt.nowMs
  let motors ← Prog.ofExcept (driveReceiptsBetween rt.driveRolesBySide before after)
  let segment : RecoverySegment := {
    segmentIndex := segmentIndex
    kind := instructionKind instruction.mode
    commandedSides := EncoderRecoveryPolicy.commandedSides instruction.mode
    durationMs := instruction.durationMs
    status := outcome.1
    reason := outcome.2
    startedMonotonicMs := some active.startedAtMs
    completedMonotonicMs := completedMs
    motors := motors
    encoderVerification := ⟨finish.verificationError.isNone, finish.verificationError, finish.checks⟩
    stop := finish.stop }
  return .ran segment after (if outcome.1 = .interrupted then some ⟨outcome.2, finish.stop⟩ else none)

def executeInstruction (speeds : Sides Int) (instruction : RecoveryInstruction) (segmentIndex : Nat) : Run ω Execution := do
  let before ← rt.observeNow
  match ← Prog.attempt (call (rt.startInstruction speeds instruction)) with
  | .ok active => rt.runStarted before instruction segmentIndex active
  | .error e => rt.startFailed before instruction segmentIndex e

-- The slice

/-- The arguments of `recover_slice` that its loop uses. -/
structure SliceCommand where
  /-- `spec`: the logical speeds. -/
  speeds : Sides Int
  /-- Of the motors of the primary drive. -/
  physicalSpeedDps : Sides Int
  durationMs : Nat
  initialMotors : Sides DriveReceipt

structure SliceLoop where
  segments : List RecoverySegment
  aggregate : Sides DriveReceipt
  budget : EncoderRecoveryBudget := {}
  stop : StopResult
  recovered : Bool := false

/-- The loop's variables when it ended, and with what. -/
structure SliceEnd extends SliceLoop where
  status : SliceStatus
  reason : String

/-- The slice is aborted; a wheel that went the wrong way latches the fault. -/
def sliceAborted (d : RecoveryDecision) (l : SliceLoop) : Run ω SliceEnd :=
  if d.reason = .encoderDirectionMismatch then do
    call rt.latchMotionFault
    return { l with status := .verificationFailed, reason := "encoder_verification_failed" }
  else return { l with status := .verificationFailed, reason := "encoder_recovery_exhausted" }

def SliceLoop.ran (l : SliceLoop) (d : RecoveryDecision) (segment : RecoverySegment) (aggregate : Sides DriveReceipt) : SliceLoop where
  segments := l.segments ++ [segment]
  aggregate := aggregate
  budget := d.budgetAfterIfExecuted
  stop := segment.stop
  recovered := true

def SliceLoop.terminated (l : SliceLoop) (terminal : Terminal) : SliceEnd :=
  { l with stop := terminal.stop, status := .interrupted, reason := terminal.reason }

theorem attempt_taken {c : SliceCommand} {l : SliceLoop} {d : RecoveryDecision} {i : RecoveryInstruction}
    (h : rt.decision c.physicalSpeedDps c.durationMs l.aggregate l.budget = .ok d) (hi : d.instruction = some i) :
    rt.policy.maximumTotalAttempts - d.budgetAfterIfExecuted.totalAttempts <
      rt.policy.maximumTotalAttempts - l.budget.totalAttempts := by
  unfold decision at h
  cases hd : rt.policy.decide (.of fun side => roundDiv (c.physicalSpeedDps.get side * c.durationMs) 1000)
      (.of fun side => (l.aggregate.get side).positionDelta) c.durationMs l.budget with
  | error e =>
    rw [hd] at h
    cases h
  | ok r =>
    rw [hd] at h
    cases h
    obtain ⟨hbefore, hidle | ⟨i', hissued⟩⟩ := EncoderRecoveryPolicy.decide_outcome hd
    · simp [hidle.instruction] at hi
    · have htotal := (EncoderRecoveryPolicy.exhausted_eq_none hissued.room).1
      have hconsumed := hissued.consumed
      rw [hbefore] at htotal hconsumed
      rcases hissued.executable with hc | hc <;> rw [hc] at hconsumed <;>
        simp only [EncoderRecoveryBudget.consume] at hconsumed <;> rw [← Except.ok.inj hconsumed] <;>
        simp only [EncoderRecoveryBudget.totalAttempts] at htotal ⊢ <;> omega

/-- The `while` loop. -/
def recoverLoop (c : SliceCommand) (l : SliceLoop) : Run ω SliceEnd :=
  match _h : rt.decision c.physicalSpeedDps c.durationMs l.aggregate l.budget with
  | .error e => throw e
  | .ok d =>
    if d.decision = .noRecovery then
      return { l with status := .completed, reason := if l.recovered then "encoder_recovered" else "duration_elapsed" }
    else if d.decision = .abort then rt.sliceAborted d l
    else
      match _hi : d.instruction with
      | none => throw { isWorkerError := false, message := "'NoneType' object is not subscriptable" }
      | some instruction => do
        if (← rt.budgetAllows instruction.durationMs) = false then
          return { l with status := .verificationFailed, reason := "encoder_recovery_worker_budget_exhausted" }
        else
          match ← rt.executeInstruction c.speeds instruction (l.segments.length + 1) with
          | .denied terminal => return l.terminated terminal
          | .ran segment after terminal =>
            let aggregate ← Prog.ofExcept (aggregateReceipts c.initialMotors after)
            match terminal with
            | some terminal => return (l.ran d segment aggregate).terminated terminal
            | none => recoverLoop c (l.ran d segment aggregate)
termination_by rt.policy.maximumTotalAttempts - l.budget.totalAttempts
decreasing_by exact rt.attempt_taken _h _hi

def recoverSlice (c : SliceCommand) (primaryFinish : FinishReport) (primaryStatus : SliceStatus) (primaryReason : String)
    (startedMs : Int) : Run ω SliceResult := do
  let completedMs ← call rt.nowMs
  let final ← rt.observeNow
  let aggregate ← Prog.ofExcept (aggregateReceipts c.initialMotors final)
  let primary : RecoverySegment := {
    segmentIndex := 1
    kind := .paired
    commandedSides := [.left, .right]
    durationMs := c.durationMs
    status := primaryStatus
    reason := primaryReason
    startedMonotonicMs := some startedMs
    completedMonotonicMs := completedMs
    motors := aggregate
    encoderVerification := ⟨primaryFinish.verificationError.isNone, primaryFinish.verificationError, primaryFinish.checks⟩
    stop := primaryFinish.stop }
  let ended ← rt.recoverLoop c { segments := [primary], aggregate := aggregate, stop := primaryFinish.stop }
  let d ← Prog.ofExcept (rt.decision c.physicalSpeedDps c.durationMs ended.aggregate ended.budget)
  rt.latchIf (d.decision = .abort && d.reason = .encoderDirectionMismatch)
  let checks := sliceChecks d ended.aggregate
  let passed := ended.status = .completed && checks.all SliceCheck.passed
  return {
    status := ended.status
    reason := ended.reason
    completedMonotonicMs := (ended.segments.getLast?.map RecoverySegment.completedMonotonicMs).getD 0
    motors := ended.aggregate
    segments := ended.segments
    encoderVerification :=
      ⟨passed, if passed then none else some "encoder recovery did not satisfy paired motion", checks⟩
    stop := ended.stop }

end EncoderRecoveryRuntime

end RobotLlm.Ev3
