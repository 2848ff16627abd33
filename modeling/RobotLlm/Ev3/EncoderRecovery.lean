import RobotLlm.Ev3.MotorOwner
import RobotLlm.Lib.Bisect

/-!
# The policy of encoder recovery

After a paired drive the encoders tell how far each wheel came. The policy
decides whether that is enough, whether one wheel has to catch up with the
other or the pair has to go on, and for how long, within the budgets of a
slice. It reads nothing and starts nothing.
-/

namespace RobotLlm.Ev3

open RobotLlm.Lib

-- Data

def Side.other : Side → Side
  | .left => .right
  | .right => .left

structure Sides (α : Type) where
  left : α
  right : α
deriving DecidableEq

namespace Sides

def get (s : Sides α) : Side → α
  | .left => s.left
  | .right => s.right

/-- `{name: f(name) for name in ("left", "right")}`. -/
def of (f : Side → α) : Sides α := ⟨f .left, f .right⟩

@[simp] theorem get_of (f : Side → α) (side : Side) : (of f).get side = f side := by cases side <;> rfl

end Sides

/-- `DECISION_*`. -/
inductive RecoveryChoice where
  | noRecovery
  | catchUpLaggingSide
  | retryPair
  | abort
deriving DecidableEq

/-- `REASON_*`. -/
inductive RecoveryReason where
  | commandSatisfied
  | leftLagging
  | rightLagging
  | pairedUndertravel
  | encoderDirectionMismatch
  | totalAttemptBudget
  | catchUpAttemptBudget
  | pairRetryAttemptBudget
  | durationBudget
  | encoderBudget
deriving DecidableEq

structure EncoderRecoveryBudget where
  catchUpAttempts : Nat := 0
  pairRetryAttempts : Nat := 0
  durationMs : Nat := 0
  encoderDegrees : Nat := 0
deriving DecidableEq

def valueError (message : String) : PyError := { kind := .value, message := message }

namespace EncoderRecoveryBudget

def totalAttempts (b : EncoderRecoveryBudget) : Nat := b.catchUpAttempts + b.pairRetryAttempts

def consume (b : EncoderRecoveryBudget) (decision : RecoveryChoice) (durationMs encoderDegrees : Nat) :
    Except PyError EncoderRecoveryBudget :=
  match decision with
  | .catchUpLaggingSide =>
    .ok ⟨b.catchUpAttempts + 1, b.pairRetryAttempts, b.durationMs + durationMs, b.encoderDegrees + encoderDegrees⟩
  | .retryPair =>
    .ok ⟨b.catchUpAttempts, b.pairRetryAttempts + 1, b.durationMs + durationMs, b.encoderDegrees + encoderDegrees⟩
  | .noRecovery | .abort => .error (valueError "Only executable recovery decisions consume budget")

end EncoderRecoveryBudget

structure EncoderRecoveryPolicy where
  minimumProgressDegrees : Nat
  catchUpLeaderMinimumDegrees : Nat
  acceptableCompletionPercent : Nat
  maximumProgressSkewPercent : Nat
  maximumCatchUpAttempts : Nat
  maximumPairRetryAttempts : Nat
  maximumTotalAttempts : Nat
  maximumStepDurationMs : Nat
  maximumTotalRecoveryDurationMs : Nat
  maximumTotalRecoveryEncoderDegrees : Nat
  progressOk : 1 ≤ minimumProgressDegrees := by decide
  leaderOk : minimumProgressDegrees ≤ catchUpLeaderMinimumDegrees := by decide
  completionOk : 1 ≤ acceptableCompletionPercent ∧ acceptableCompletionPercent ≤ 100 := by decide
  skewOk : maximumProgressSkewPercent ≤ 100 := by decide
  attemptsOk : maximumTotalAttempts ≤ maximumCatchUpAttempts + maximumPairRetryAttempts := by decide
  stepOk : 1 ≤ maximumStepDurationMs := by decide
  durationOk : 1 ≤ maximumTotalRecoveryDurationMs := by decide
  encoderOk : 1 ≤ maximumTotalRecoveryEncoderDegrees := by decide

structure RecoveryEvidence where
  expected : Sides Nat
  observed : Sides Nat
  completion : Sides Nat
deriving DecidableEq

inductive RecoveryMode where
  | singleWheel (side : Side)
  | paired
deriving DecidableEq

structure RecoveryInstruction where
  mode : RecoveryMode
  durationMs : Nat
  target : Sides Nat
  bounded : Bool
  reuseOriginalSpeed : Bool := true
deriving DecidableEq

structure RecoveryDecision extends RecoveryEvidence where
  decision : RecoveryChoice
  reason : RecoveryReason
  instruction : Option RecoveryInstruction
  budgetBefore : EncoderRecoveryBudget
  budgetAfterIfExecuted : EncoderRecoveryBudget
deriving DecidableEq

-- Durations and costs

def ceilDiv (numerator denominator : Nat) : Nat := (numerator + denominator - 1) / denominator

def expectedForDuration (expectedDegrees commandDurationMs recoveryDurationMs : Nat) : Nat :=
  ceilDiv (expectedDegrees * recoveryDurationMs) commandDurationMs

namespace EncoderRecoveryPolicy

def encoderCost (mode : RecoveryMode) (expected : Sides Nat) (commandDurationMs recoveryDurationMs : Nat) : Nat :=
  if recoveryDurationMs = 0 then 0
  else
    match mode with
    | .singleWheel side => expectedForDuration (expected.get side) commandDurationMs recoveryDurationMs
    | .paired =>
      expectedForDuration expected.left commandDurationMs recoveryDurationMs +
        expectedForDuration expected.right commandDurationMs recoveryDurationMs

def durationWithinEncoderBudget (mode : RecoveryMode) (expected : Sides Nat)
    (commandDurationMs desiredDurationMs availableEncoderDegrees : Nat) : Nat :=
  bisect (fun middle => encoderCost mode expected commandDurationMs middle ≤ availableEncoderDegrees) 0 desiredDurationMs

def baseResult (decision : RecoveryChoice) (reason : RecoveryReason) (e : RecoveryEvidence)
    (budget : EncoderRecoveryBudget) : RecoveryDecision :=
  { e with
    decision := decision
    reason := reason
    instruction := none
    budgetBefore := budget
    budgetAfterIfExecuted := budget }

def abort (reason : RecoveryReason) (e : RecoveryEvidence) (budget : EncoderRecoveryBudget) : RecoveryDecision :=
  baseResult .abort reason e budget

variable (p : EncoderRecoveryPolicy)

/-- The shortest step whose progress can be verified on every wheel it moves. -/
def minimumVerifiableDurationMs (mode : RecoveryMode) (expected : Sides Nat) (commandDurationMs : Nat) : Nat :=
  match mode with
  | .singleWheel side => ceilDiv (p.minimumProgressDegrees * commandDurationMs) (expected.get side)
  | .paired =>
    max (ceilDiv (p.minimumProgressDegrees * commandDurationMs) expected.left)
      (ceilDiv (p.minimumProgressDegrees * commandDurationMs) expected.right)

def targetFor (mode : RecoveryMode) (expected : Sides Nat) (commandDurationMs durationMs : Nat) : Sides Nat :=
  match mode with
  | .singleWheel .left => ⟨expectedForDuration expected.left commandDurationMs durationMs, 0⟩
  | .singleWheel .right => ⟨0, expectedForDuration expected.right commandDurationMs durationMs⟩
  | .paired => Sides.of fun side => expectedForDuration (expected.get side) commandDurationMs durationMs

def exhausted (decision : RecoveryChoice) (budget : EncoderRecoveryBudget) : Option RecoveryReason :=
  if budget.totalAttempts ≥ p.maximumTotalAttempts then some .totalAttemptBudget
  else if decision = .catchUpLaggingSide ∧ budget.catchUpAttempts ≥ p.maximumCatchUpAttempts then
    some .catchUpAttemptBudget
  else if decision = .retryPair ∧ budget.pairRetryAttempts ≥ p.maximumPairRetryAttempts then
    some .pairRetryAttemptBudget
  else if p.maximumTotalRecoveryDurationMs - budget.durationMs = 0 then some .durationBudget
  else if p.maximumTotalRecoveryEncoderDegrees - budget.encoderDegrees = 0 then some .encoderBudget
  else none

/-- The longest step that what is desired, the step limit and the remaining
time allow; what is desired is at least what can be verified. -/
def durationBound (mode : RecoveryMode) (desiredDurationMs : Nat) (expected : Sides Nat) (commandDurationMs : Nat)
    (budget : EncoderRecoveryBudget) : Nat :=
  min (max desiredDurationMs (p.minimumVerifiableDurationMs mode expected commandDurationMs))
    (min p.maximumStepDurationMs (p.maximumTotalRecoveryDurationMs - budget.durationMs))

def instruction (decision : RecoveryChoice) (reason : RecoveryReason) (mode : RecoveryMode) (desiredDurationMs : Nat)
    (e : RecoveryEvidence) (commandDurationMs : Nat) (budget : EncoderRecoveryBudget) : Except PyError RecoveryDecision :=
  match p.exhausted decision budget with
  | some reason => .ok (abort reason e budget)
  | none =>
    let durationMs := durationWithinEncoderBudget mode e.expected commandDurationMs
      (p.durationBound mode desiredDurationMs e.expected commandDurationMs budget)
      (p.maximumTotalRecoveryEncoderDegrees - budget.encoderDegrees)
    if durationMs < p.minimumVerifiableDurationMs mode e.expected commandDurationMs then
      .ok (abort .encoderBudget e budget)
    else do
      let target := targetFor mode e.expected commandDurationMs durationMs
      let after ← budget.consume decision durationMs (target.left + target.right)
      return { baseResult decision reason e budget with
        instruction := some {
          mode := mode
          durationMs := durationMs
          target := target
          bounded := durationMs ≠ desiredDurationMs }
        budgetAfterIfExecuted := after }

-- The decision

/-- `_integer` with a minimum. -/
def requireMinimum (name : String) (value minimum : Int) : Except PyError Unit :=
  if value < minimum then .error (valueError s!"{name} must be an integer greater than or equal to {minimum}") else .ok ()

def evidenceOf (expected observed : Sides Int) : RecoveryEvidence where
  expected := .of fun side => (expected.get side).natAbs
  observed := .of fun side => (observed.get side).natAbs
  completion := .of fun side => (observed.get side).natAbs * 100 / (expected.get side).natAbs

def directionMismatch (expected observed : Int) : Bool :=
  observed ≠ 0 && observed * (if expected > 0 then 1 else -1) < 0

/-- `abs(completion["left"] - completion["right"])`. -/
def progressSkew (e : RecoveryEvidence) : Nat := ((e.completion.left : Int) - e.completion.right).natAbs

def completed (e : RecoveryEvidence) : Bool :=
  e.completion.left ≥ p.acceptableCompletionPercent && e.completion.right ≥ p.acceptableCompletionPercent

def started (e : RecoveryEvidence) (side : Side) : Bool := e.observed.get side ≥ p.minimumProgressDegrees

/-- The wheel that has to catch up with the other, if one has. -/
def laggingSide (e : RecoveryEvidence) : Option Side :=
  if p.started e .left ≠ p.started e .right then
    let leader := if p.started e .left then Side.left else .right
    if e.observed.get leader ≥ p.catchUpLeaderMinimumDegrees then some leader.other else none
  else if p.started e .left = true ∧ p.started e .right = true ∧ progressSkew e > p.maximumProgressSkewPercent then
    some (if e.completion.left < e.completion.right then .left else .right)
  else none

/-- What a lagging wheel needs to come as far as the other. -/
def catchUpDurationMs (e : RecoveryEvidence) (lagging : Side) (commandDurationMs : Nat) : Nat :=
  let desired := ceilDiv (e.observed.get lagging.other * e.expected.get lagging) (e.expected.get lagging.other)
  ceilDiv (max 1 (desired - e.observed.get lagging) * commandDurationMs) (e.expected.get lagging)

/-- What a wheel needs to an acceptable completion. -/
def remainingDurationMs (e : RecoveryEvidence) (commandDurationMs : Nat) (side : Side) : Nat :=
  let desired := ceilDiv (e.expected.get side * p.acceptableCompletionPercent) 100
  ceilDiv ((desired - e.observed.get side) * commandDurationMs) (e.expected.get side)

/-- What the pair needs to an acceptable completion. -/
def retryDurationMs (e : RecoveryEvidence) (commandDurationMs : Nat) : Nat :=
  max (p.remainingDurationMs e commandDurationMs .left) (p.remainingDurationMs e commandDurationMs .right)

def laggingReason : Side → RecoveryReason
  | .left => .leftLagging
  | .right => .rightLagging

def recover (e : RecoveryEvidence) (commandDurationMs : Nat) (budget : EncoderRecoveryBudget) :
    Except PyError RecoveryDecision :=
  match p.laggingSide e with
  | some lagging =>
    p.instruction .catchUpLaggingSide (laggingReason lagging) (.singleWheel lagging)
      (catchUpDurationMs e lagging commandDurationMs) e commandDurationMs budget
  | none =>
    if p.retryDurationMs e commandDurationMs = 0 then .ok (baseResult .noRecovery .commandSatisfied e budget)
    else
      p.instruction .retryPair .pairedUndertravel .paired (p.retryDurationMs e commandDurationMs) e commandDurationMs budget

/-- `decide`, once its arguments are in range. -/
def decideValid (expected observed : Sides Int) (commandDurationMs : Nat) (budget : EncoderRecoveryBudget) :
    Except PyError RecoveryDecision :=
  let e := evidenceOf expected observed
  if directionMismatch expected.left observed.left ∨ directionMismatch expected.right observed.right then
    .ok (abort .encoderDirectionMismatch e budget)
  else if p.completed e = true ∧ progressSkew e ≤ p.maximumProgressSkewPercent then
    .ok (baseResult .noRecovery .commandSatisfied e budget)
  else p.recover e commandDurationMs budget

def decide (expected observed : Sides Int) (commandDurationMs : Int) (budget : EncoderRecoveryBudget) :
    Except PyError RecoveryDecision := do
  requireMinimum "expected_left_delta_degrees magnitude" expected.left.natAbs p.minimumProgressDegrees
  requireMinimum "expected_right_delta_degrees magnitude" expected.right.natAbs p.minimumProgressDegrees
  requireMinimum "command_duration_ms" commandDurationMs 1
  p.decideValid expected observed commandDurationMs.toNat budget

end EncoderRecoveryPolicy

end RobotLlm.Ev3
