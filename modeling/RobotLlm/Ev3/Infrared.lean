import Mathlib.Data.List.Sort
import RobotLlm.Ev3.Hal

/-!
# The infrared obstacle gate

Fast entry, conservative release: the gate starts blocked, and a reading it
cannot use blocks it again.
-/

namespace RobotLlm.Ev3

inductive GateReason where
  | unverifiedStartup
  | invalidSample
  | warmingUp
  | immediateEntry
  | stableEntry
  | stableExit
  | entryPending
  | exitPending
  | blockedHold
  | clearHold
deriving DecidableEq

structure InfraredGatePolicy where
  immediateEnterMax : Int
  enterMax : Int
  exitMin : Int
  medianWindow : Nat
  enterConsecutive : Nat
  exitConsecutive : Nat
  thresholdsOk : 0 ≤ immediateEnterMax ∧ immediateEnterMax ≤ enterMax ∧ enterMax < exitMin ∧ exitMin ≤ 100 := by
    decide
  windowOk : 0 < medianWindow ∧ medianWindow ≤ 31 ∧ medianWindow % 2 = 1 := by decide
  consecutiveOk : (0 < enterConsecutive ∧ enterConsecutive ≤ 20) ∧ 0 < exitConsecutive ∧ exitConsecutive ≤ 20 := by
    decide
deriving DecidableEq

structure InfraredObstacleGate where
  /-- Oldest first, at most `medianWindow` of them. -/
  samples : List Int := []
  raw : Option Int := none
  filtered : Option Int := none
  blocked : Bool := true
  reason : GateReason := .unverifiedStartup
  sampleCount : Nat := 0
  candidateBlocked : Option Bool := none
  candidateCount : Nat := 0
deriving DecidableEq

/-- `int(round(median(samples)))`: the mean of the two middle values when the
number of samples is even. -/
def median (samples : List Int) : Int :=
  let sorted := samples.insertionSort (· ≤ ·)
  let n := sorted.length
  if n % 2 = 1 then sorted.getD (n / 2) 0 else roundDiv (sorted.getD (n / 2 - 1) 0 + sorted.getD (n / 2) 0) 2

namespace InfraredObstacleGate

def resetCandidate (g : InfraredObstacleGate) : InfraredObstacleGate :=
  { g with candidateBlocked := none, candidateCount := 0 }

def setCandidate (g : InfraredObstacleGate) (desired : Bool) : InfraredObstacleGate :=
  if g.candidateBlocked = some desired then { g with candidateCount := g.candidateCount + 1 }
  else { g with candidateBlocked := some desired, candidateCount := 1 }

def failClosed (g : InfraredObstacleGate) : InfraredObstacleGate :=
  { g with samples := [], raw := none, filtered := none, blocked := true, reason := .invalidSample }.resetCandidate

def hold (g : InfraredObstacleGate) : InfraredObstacleGate :=
  { g with reason := if g.blocked then .blockedHold else .clearHold }.resetCandidate

def decideSide (g : InfraredObstacleGate) (desired : Bool) (required : Nat) : InfraredObstacleGate :=
  if desired = g.blocked then g.hold
  else
    let g := g.setCandidate desired
    if g.candidateCount < required then { g with reason := if desired then .entryPending else .exitPending }
    else { g with blocked := desired, reason := if desired then .stableEntry else .stableExit }.resetCandidate

/-- `observe`, given that the sample is in range. -/
def accept (p : InfraredGatePolicy) (g : InfraredObstacleGate) (raw : Int) : InfraredObstacleGate :=
  let samples := g.samples ++ [raw]
  let samples := samples.drop (samples.length - p.medianWindow)
  let filtered := median samples
  let g := { g with raw := some raw, sampleCount := g.sampleCount + 1, samples := samples, filtered := some filtered }
  if raw ≤ p.immediateEnterMax then { g with blocked := true, reason := .immediateEntry }.resetCandidate
  else if samples.length < p.medianWindow then { g with reason := .warmingUp }.resetCandidate
  else if filtered ≤ p.enterMax then g.decideSide true p.enterConsecutive
  else if filtered ≥ p.exitMin then g.decideSide false p.exitConsecutive
  else g.hold

/-- A sample outside 0..100 fails closed and raises. -/
def observe (p : InfraredGatePolicy) (g : InfraredObstacleGate) (raw : Int) :
    Except PyError Unit × InfraredObstacleGate :=
  if raw < 0 ∨ raw > 100 then (.error (safetyError "IR sample must be an integer in 0..100"), g.failClosed)
  else (.ok (), g.accept p raw)

end InfraredObstacleGate

end RobotLlm.Ev3
