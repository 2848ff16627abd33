import Mathlib.Algebra.Order.Floor.Div
import Mathlib.Algebra.Order.Ring.Int
import RobotLlm.Ev3.EncoderRecovery
import RobotLlm.Lib.Machine

/-!
# What the recovery policy decides

It asks for no recovery exactly when the command is satisfied, but for a pair
that came far enough, unevenly, before any wheel counts as lagging. Whatever
the encoders show, the steps of a slice stay within the budgets, and each is
the longest one these allow.
-/

namespace RobotLlm.Ev3

open RobotLlm.Lib

-- Rounding up

variable {n d m : Nat}

theorem ceilDiv_le_iff (hd : 0 < d) : ceilDiv n d ≤ m ↔ n ≤ d * m := ceilDiv_le_iff_le_mul hd

theorem le_mul_ceilDiv (hd : 0 < d) : n ≤ d * ceilDiv n d := (ceilDiv_le_iff hd).mp le_rfl

theorem ceilDiv_mono (hd : 0 < d) (hnm : n ≤ m) : ceilDiv n d ≤ ceilDiv m d :=
  (ceilDiv_le_iff hd).mpr (hnm.trans (le_mul_ceilDiv hd))

theorem ceilDiv_eq_zero_iff (hd : 0 < d) : ceilDiv n d = 0 ↔ n = 0 := by
  rw [← Nat.le_zero, ceilDiv_le_iff hd, Nat.mul_zero, Nat.le_zero]

theorem le_ceilDiv (hd : 0 < d) (h : m * d ≤ n) : m ≤ ceilDiv n d := by
  have hmul : d * m ≤ d * ceilDiv n d := by
    rw [Nat.mul_comm]
    exact h.trans (le_mul_ceilDiv hd)
  exact Nat.le_of_mul_le_mul_left hmul hd

namespace EncoderRecoveryPolicy

variable {p : EncoderRecoveryPolicy} {expected observed : Sides Int} {e : RecoveryEvidence} {budget : EncoderRecoveryBudget}
  {commandDurationMs : Nat}

-- Arguments

theorem requireMinimum_ok {name : String} {value minimum : Int} (h : minimum ≤ value) :
    requireMinimum name value minimum = .ok () := if_neg (by omega)

theorem decide_of_valid {duration : Int} (hl : p.minimumProgressDegrees ≤ expected.left.natAbs)
    (hr : p.minimumProgressDegrees ≤ expected.right.natAbs) (hd : 1 ≤ duration) (budget : EncoderRecoveryBudget) :
    p.decide expected observed duration budget = p.decideValid expected observed duration.toNat budget := by
  unfold decide
  rw [requireMinimum_ok (by omega), requireMinimum_ok (by omega), requireMinimum_ok hd]
  rfl

theorem valid_of_decide {duration : Int} {r : RecoveryDecision} (h : p.decide expected observed duration budget = .ok r) :
    (∀ side, p.minimumProgressDegrees ≤ (expected.get side).natAbs) ∧ 1 ≤ duration ∧
      p.decideValid expected observed duration.toNat budget = .ok r := by
  have hcheck {name : String} {value minimum : Int} {rest : Except PyError RecoveryDecision}
      (h : (do requireMinimum name value minimum; rest) = .ok r) : minimum ≤ value ∧ rest = .ok r := by
    unfold requireMinimum at h
    split at h
    next => cases h
    next hge => exact ⟨by omega, h⟩
  obtain ⟨hl, h⟩ := hcheck h
  obtain ⟨hr, h⟩ := hcheck h
  obtain ⟨hd, h⟩ := hcheck h
  refine ⟨fun side => ?_, hd, h⟩
  cases side
  · exact Int.ofNat_le.mp hl
  · exact Int.ofNat_le.mp hr

-- Instructions

def Executable (choice : RecoveryChoice) : Prop := choice = .catchUpLaggingSide ∨ choice = .retryPair

theorem consume_of_executable {choice : RecoveryChoice} (h : Executable choice) (budget : EncoderRecoveryBudget)
    (durationMs encoderDegrees : Nat) :
    ∃ after, budget.consume choice durationMs encoderDegrees = .ok after := by
  rcases h with rfl | rfl <;> exact ⟨_, rfl⟩

theorem instruction_decides {choice : RecoveryChoice} (h : Executable choice) (reason : RecoveryReason) (mode : RecoveryMode)
    (desired : Nat) (e : RecoveryEvidence) (commandDurationMs : Nat) (budget : EncoderRecoveryBudget) :
    ∃ r, p.instruction choice reason mode desired e commandDurationMs budget = .ok r ∧ r.decision ≠ .noRecovery := by
  have hne : choice ≠ .noRecovery := by rcases h with rfl | rfl <;> simp
  unfold instruction
  split
  next => exact ⟨_, rfl, by simp [abort, baseResult]⟩
  next =>
    dsimp only
    split
    next => exact ⟨_, rfl, by simp [abort, baseResult]⟩
    next =>
      obtain ⟨after, hafter⟩ := consume_of_executable h budget
        (durationWithinEncoderBudget mode e.expected commandDurationMs
          (p.durationBound mode desired e.expected commandDurationMs budget)
          (p.maximumTotalRecoveryEncoderDegrees - budget.encoderDegrees)) _
      exact ⟨_, by rw [hafter]; rfl, hne⟩

-- When no recovery is needed

/-- How much of its way a wheel has come, in percent. -/
def completionPercent (expected observed : Int) : Nat := observed.natAbs * 100 / expected.natAbs

def skewPercent (expected observed : Sides Int) : Nat :=
  ((completionPercent expected.left observed.left : Int) - completionPercent expected.right observed.right).natAbs

/-- No wheel went against its command, both came far enough, and evenly. -/
structure Satisfied (p : EncoderRecoveryPolicy) (expected observed : Sides Int) : Prop where
  direction : ∀ side, 0 ≤ expected.get side * observed.get side
  completed : ∀ side, p.acceptableCompletionPercent ≤ completionPercent (expected.get side) (observed.get side)
  even : skewPercent expected observed ≤ p.maximumProgressSkewPercent

/-- Both wheels came far enough, but unevenly, while one is below the minimum
progress and neither has come as far as a leader must. -/
structure Overlooked (p : EncoderRecoveryPolicy) (expected observed : Sides Int) : Prop where
  direction : ∀ side, 0 ≤ expected.get side * observed.get side
  completed : ∀ side, p.acceptableCompletionPercent ≤ completionPercent (expected.get side) (observed.get side)
  uneven : p.maximumProgressSkewPercent < skewPercent expected observed
  unstarted : ∃ side, (observed.get side).natAbs < p.minimumProgressDegrees
  noLeader : ∀ side, (observed.get side).natAbs < p.catchUpLeaderMinimumDegrees

theorem directionMismatch_iff {expected observed : Int} (he : expected ≠ 0) :
    directionMismatch expected observed = true ↔ expected * observed < 0 := by
  rw [mul_neg_iff]
  unfold directionMismatch
  split <;> simp <;> omega

theorem forall_side {P : Side → Prop} : (∀ side, P side) ↔ P .left ∧ P .right :=
  ⟨fun h => ⟨h _, h _⟩, fun h side => by cases side; exacts [h.1, h.2]⟩

theorem completed_iff : p.completed e = true ↔ ∀ side, p.acceptableCompletionPercent ≤ e.completion.get side := by
  simp [completed, forall_side, Sides.get]

theorem remainingDurationMs_eq_zero_iff {expected observed : Sides Int} (side : Side) (he : 0 < (expected.get side).natAbs)
    (hd : 0 < commandDurationMs) :
    p.remainingDurationMs (evidenceOf expected observed) commandDurationMs side = 0 ↔
      p.acceptableCompletionPercent ≤ completionPercent (expected.get side) (observed.get side) := by
  simp only [remainingDurationMs, evidenceOf, Sides.get_of]
  rw [ceilDiv_eq_zero_iff he, Nat.mul_eq_zero, or_iff_left hd.ne', Nat.sub_eq_zero_iff_le, ceilDiv_le_iff (by omega),
    completionPercent, Nat.le_div_iff_mul_le he]
  rw [Nat.mul_comm (expected.get side).natAbs, Nat.mul_comm 100]

theorem laggingSide_eq_none_iff (hskew : p.maximumProgressSkewPercent < progressSkew e) :
    p.laggingSide e = none ↔
      (∃ side, e.observed.get side < p.minimumProgressDegrees) ∧ ∀ side, e.observed.get side < p.catchUpLeaderMinimumDegrees := by
  have hleader := p.leaderOk
  have hexists : (∃ side, e.observed.get side < p.minimumProgressDegrees) ↔
      e.observed.left < p.minimumProgressDegrees ∨ e.observed.right < p.minimumProgressDegrees :=
    ⟨fun ⟨side, h⟩ => by cases side; exacts [.inl h, .inr h], fun h => h.elim (⟨.left, ·⟩) (⟨.right, ·⟩)⟩
  rw [hexists, forall_side]
  unfold laggingSide
  by_cases hl : p.minimumProgressDegrees ≤ e.observed.left <;> by_cases hr : p.minimumProgressDegrees ≤ e.observed.right <;>
    simp [started, Sides.get, hl, hr, hskew] <;> omega

theorem completed_evidence :
    p.completed (evidenceOf expected observed) = true ↔
      ∀ side, p.acceptableCompletionPercent ≤ completionPercent (expected.get side) (observed.get side) := by
  simp only [completed_iff, evidenceOf, Sides.get_of, completionPercent]

theorem progressSkew_evidence : progressSkew (evidenceOf expected observed) = skewPercent expected observed := rfl

theorem retryDurationMs_eq_zero_iff (he : ∀ side, 0 < (expected.get side).natAbs) (hd : 0 < commandDurationMs) :
    p.retryDurationMs (evidenceOf expected observed) commandDurationMs = 0 ↔
      p.completed (evidenceOf expected observed) = true := by
  rw [retryDurationMs, Nat.max_eq_zero_iff, remainingDurationMs_eq_zero_iff _ (he _) hd,
    remainingDurationMs_eq_zero_iff _ (he _) hd, completed_evidence, forall_side]

theorem decideValid_noRecovery (he : ∀ side, 0 < (expected.get side).natAbs) (hd : 0 < commandDurationMs)
    (budget : EncoderRecoveryBudget) (hdir : ∀ side, 0 ≤ expected.get side * observed.get side) :
    ∃ r, p.decideValid expected observed commandDurationMs budget = .ok r ∧
      (r.decision = .noRecovery ↔ p.completed (evidenceOf expected observed) = true ∧
        (skewPercent expected observed ≤ p.maximumProgressSkewPercent ∨ p.laggingSide (evidenceOf expected observed) = none)) := by
  have hmatch (side : Side) : directionMismatch (expected.get side) (observed.get side) = false := by
    rw [← Bool.not_eq_true, directionMismatch_iff (Int.natAbs_pos.mp (he side))]
    exact not_lt.mpr (hdir side)
  have hl := hmatch .left
  have hr := hmatch .right
  simp only [Sides.get] at hl hr
  simp only [decideValid, hl, hr, Bool.false_eq_true, or_self, if_false]
  split
  next h => exact ⟨_, rfl, by simp only [baseResult, true_iff]; exact ⟨h.1, .inl h.2⟩⟩
  next h =>
    unfold recover
    split
    next lagging hlagging =>
      obtain ⟨r, hr, hne⟩ := p.instruction_decides (.inl rfl) (laggingReason lagging) (.singleWheel lagging)
        (catchUpDurationMs (evidenceOf expected observed) lagging commandDurationMs) (evidenceOf expected observed)
        commandDurationMs budget
      refine ⟨r, hr, iff_of_false hne fun hno => ?_⟩
      rcases hno with ⟨hc, hskew | hnone⟩
      · exact h ⟨hc, hskew⟩
      · simp [hlagging] at hnone
    next hnone =>
      split
      next hzero => exact ⟨_, rfl, by simpa [baseResult, hnone] using (retryDurationMs_eq_zero_iff he hd).mp hzero⟩
      next hrest =>
        obtain ⟨r, hr, hne⟩ := p.instruction_decides (.inr rfl) .pairedUndertravel .paired
          (p.retryDurationMs (evidenceOf expected observed) commandDurationMs) (evidenceOf expected observed)
          commandDurationMs budget
        exact ⟨r, hr, iff_of_false hne fun hno => hrest ((retryDurationMs_eq_zero_iff he hd).mpr hno.1)⟩

theorem decideValid_mismatch (he : ∀ side, 0 < (expected.get side).natAbs) (commandDurationMs : Nat) (budget : EncoderRecoveryBudget) {side : Side}
    (hdir : expected.get side * observed.get side < 0) :
    ∃ r, p.decideValid expected observed commandDurationMs budget = .ok r ∧ r.decision ≠ .noRecovery := by
  have hmismatch := (directionMismatch_iff (Int.natAbs_pos.mp (he side))).mpr hdir
  have hany : directionMismatch expected.left observed.left = true ∨ directionMismatch expected.right observed.right = true := by
    cases side
    · exact .inl hmismatch
    · exact .inr hmismatch
  exact ⟨_, if_pos hany, by simp [abort, baseResult]⟩

/-- No recovery is what a satisfied command gets and no other, unless the pair
is overlooked. -/
theorem noRecovery_iff_satisfied {duration : Int} (hl : p.minimumProgressDegrees ≤ expected.left.natAbs)
    (hr : p.minimumProgressDegrees ≤ expected.right.natAbs) (hd : 1 ≤ duration) (budget : EncoderRecoveryBudget) :
    ∃ r, p.decide expected observed duration budget = .ok r ∧
      ((r.decision = .noRecovery ↔ p.Satisfied expected observed) ↔ ¬ p.Overlooked expected observed) := by
  have he : ∀ side, 0 < (expected.get side).natAbs := forall_side.mpr ⟨p.progressOk.trans hl, p.progressOk.trans hr⟩
  rw [decide_of_valid hl hr hd]
  by_cases hdir : ∀ side, 0 ≤ expected.get side * observed.get side
  · obtain ⟨r, hr, hiff⟩ := p.decideValid_noRecovery he (show 0 < duration.toNat by omega) budget hdir
    refine ⟨r, hr, ?_⟩
    rw [completed_evidence] at hiff
    by_cases hskew : skewPercent expected observed ≤ p.maximumProgressSkewPercent
    · refine iff_of_true ?_ fun ho => absurd ho.uneven (by omega)
      exact hiff.trans ⟨fun h => ⟨hdir, h.1, hskew⟩, fun h => ⟨h.completed, .inl hskew⟩⟩
    · have hnone := laggingSide_eq_none_iff (p := p) (e := evidenceOf expected observed)
        (by rw [progressSkew_evidence]; omega)
      simp only [evidenceOf, Sides.get_of] at hnone hiff
      have hunsatisfied : ¬ p.Satisfied expected observed := fun h => hskew h.even
      simp only [hunsatisfied, iff_false, hiff, hskew, false_or, hnone]
      refine not_congr ⟨fun h => ⟨hdir, h.1, by omega, h.2.1, h.2.2⟩, fun h => ⟨h.completed, h.unstarted, h.noLeader⟩⟩
  · obtain ⟨side, hside⟩ := not_forall.mp hdir
    obtain ⟨r, hr, hne⟩ := p.decideValid_mismatch he duration.toNat budget (not_le.mp hside)
    exact ⟨r, hr, iff_of_true (iff_of_false hne fun h => hdir h.direction) fun h => hdir h.direction⟩

/-- A policy whose minimum progress is most of a short command. -/
def coarse : EncoderRecoveryPolicy where
  minimumProgressDegrees := 10
  catchUpLeaderMinimumDegrees := 40
  acceptableCompletionPercent := 75
  maximumProgressSkewPercent := 15
  maximumCatchUpAttempts := 2
  maximumPairRetryAttempts := 1
  maximumTotalAttempts := 3
  maximumStepDurationMs := 200
  maximumTotalRecoveryDurationMs := 400
  maximumTotalRecoveryEncoderDegrees := 120

/-- A wheel that still has to catch up. -/
theorem noRecovery_iff_satisfied_sample :
    ∃ r, coarse.decide ⟨100, 100⟩ ⟨90, 20⟩ 500 {} = .ok r ∧
      ((r.decision = .noRecovery ↔ coarse.Satisfied ⟨100, 100⟩ ⟨90, 20⟩) ↔ ¬ coarse.Overlooked ⟨100, 100⟩ ⟨90, 20⟩) :=
  noRecovery_iff_satisfied (by decide) (by decide) (by decide) {}

/-- The left wheel came 12 of 12 degrees and the right one 9: enough for each,
uneven, and neither is far enough to lead. -/
theorem uneven_pair_satisfied :
    ¬ ∀ (p : EncoderRecoveryPolicy) (expected observed : Sides Int) (duration : Int) (budget : EncoderRecoveryBudget),
      p.minimumProgressDegrees ≤ expected.left.natAbs → p.minimumProgressDegrees ≤ expected.right.natAbs → 1 ≤ duration →
      ∀ r, p.decide expected observed duration budget = .ok r → (r.decision = .noRecovery ↔ p.Satisfied expected observed) := by
  intro hall
  have h := hall coarse ⟨12, 12⟩ ⟨12, 9⟩ 100 {} (by decide) (by decide) (by decide) _ rfl
  have hskew := (h.mp rfl).even
  exact absurd hskew (by decide)

-- Steps

def commandedSides : RecoveryMode → List Side
  | .singleWheel side => [side]
  | .paired => [.left, .right]

def desiredDurationMs (p : EncoderRecoveryPolicy) (mode : RecoveryMode) (e : RecoveryEvidence) (commandDurationMs : Nat) : Nat :=
  match mode with
  | .singleWheel lagging => catchUpDurationMs e lagging commandDurationMs
  | .paired => p.retryDurationMs e commandDurationMs

/-- A step that can be verified on every wheel it moves, and the longest that
its limits and the remaining encoder degrees allow. -/
structure StepOk (p : EncoderRecoveryPolicy) (commandDurationMs : Nat) (r : RecoveryDecision) (i : RecoveryInstruction) : Prop where
  positive : 1 ≤ i.durationMs
  short : i.durationMs ≤ p.maximumStepDurationMs
  verifiable : ∀ side ∈ commandedSides i.mode, p.minimumProgressDegrees ≤ i.target.get side
  longest : IsGreatest
    {n | n ≤ p.durationBound i.mode (p.desiredDurationMs i.mode r.toRecoveryEvidence commandDurationMs) r.expected
        commandDurationMs r.budgetBefore ∧
      encoderCost i.mode r.expected commandDurationMs n ≤ p.maximumTotalRecoveryEncoderDegrees - r.budgetBefore.encoderDegrees}
    i.durationMs

/-- A decision to be executed: its budgets had room for the step, which it takes
from them. -/
structure Issued (p : EncoderRecoveryPolicy) (commandDurationMs : Nat) (r : RecoveryDecision) (i : RecoveryInstruction) : Prop where
  executable : Executable r.decision
  instruction : r.instruction = some i
  room : p.exhausted r.decision r.budgetBefore = none
  fits : i.target.left + i.target.right ≤ p.maximumTotalRecoveryEncoderDegrees - r.budgetBefore.encoderDegrees
  inTime : i.durationMs ≤ p.maximumTotalRecoveryDurationMs - r.budgetBefore.durationMs
  consumed : r.budgetBefore.consume r.decision i.durationMs (i.target.left + i.target.right) = .ok r.budgetAfterIfExecuted
  step : p.StepOk commandDurationMs r i

structure Idle (r : RecoveryDecision) : Prop where
  executable : ¬ Executable r.decision
  instruction : r.instruction = none
  kept : r.budgetAfterIfExecuted = r.budgetBefore

theorem abort_idle (reason : RecoveryReason) : Idle (abort reason e budget) := ⟨by simp [abort, baseResult, Executable], rfl, rfl⟩

theorem expectedForDuration_mono (hd : 0 < commandDurationMs) (h : m ≤ n) (degrees : Nat) :
    expectedForDuration degrees commandDurationMs m ≤ expectedForDuration degrees commandDurationMs n :=
  ceilDiv_mono hd (Nat.mul_le_mul_left degrees h)

theorem encoderCost_mono (hd : 0 < commandDurationMs) (h : m ≤ n) (mode : RecoveryMode) (expected : Sides Nat) :
    encoderCost mode expected commandDurationMs m ≤ encoderCost mode expected commandDurationMs n := by
  unfold encoderCost
  split
  next => exact Nat.zero_le _
  next hm =>
    rw [if_neg (by omega)]
    cases mode with
    | singleWheel side => exact expectedForDuration_mono hd h _
    | paired => exact Nat.add_le_add (expectedForDuration_mono hd h _) (expectedForDuration_mono hd h _)

theorem targetFor_cost (hn : 0 < n) (mode : RecoveryMode) (expected : Sides Nat) :
    (targetFor mode expected commandDurationMs n).left + (targetFor mode expected commandDurationMs n).right =
      encoderCost mode expected commandDurationMs n := by
  unfold encoderCost
  rw [if_neg hn.ne']
  cases mode with
  | singleWheel side => cases side <;> simp [targetFor, Sides.get]
  | paired => rfl

theorem durationWithinEncoderBudget_isGreatest (hd : 0 < commandDurationMs) (mode : RecoveryMode) (expected : Sides Nat)
    (bound available : Nat) :
    IsGreatest {n | n ≤ bound ∧ encoderCost mode expected commandDurationMs n ≤ available}
      (durationWithinEncoderBudget mode expected commandDurationMs bound available) := by
  have hless (k l : Nat) (hkl : k ≤ l) (hl : (encoderCost mode expected commandDurationMs l ≤ available : Bool) = true) :
      (encoderCost mode expected commandDurationMs k ≤ available : Bool) = true := by
    have hcost := encoderCost_mono hd hkl mode expected
    simp only [decide_eq_true_eq] at hl ⊢
    omega
  have h := bisect_isGreatest hless (Nat.zero_le bound) (by simp [encoderCost])
  simp only [decide_eq_true_eq] at h
  exact h

theorem verifiable_of_long {expected : Sides Nat} {mode : RecoveryMode} (he : ∀ side, 0 < expected.get side)
    (hd : 0 < commandDurationMs) (hn : p.minimumVerifiableDurationMs mode expected commandDurationMs ≤ n) :
    ∀ side ∈ commandedSides mode, p.minimumProgressDegrees ≤ (targetFor mode expected commandDurationMs n).get side := by
  have hside (side : Side) (h : ceilDiv (p.minimumProgressDegrees * commandDurationMs) (expected.get side) ≤ n) :
      p.minimumProgressDegrees ≤ expectedForDuration (expected.get side) commandDurationMs n :=
    le_ceilDiv hd ((ceilDiv_le_iff (he side)).mp h)
  intro side hmem
  cases mode with
  | singleWheel lagging =>
    obtain rfl : side = lagging := by simpa [commandedSides] using hmem
    have h := hside side hn
    cases side <;> exact h
  | paired =>
    have hboth := max_le_iff.mp hn
    rw [targetFor, Sides.get_of]
    refine hside side ?_
    cases side
    · exact hboth.1
    · exact hboth.2

theorem minimumVerifiableDurationMs_pos {expected : Sides Nat} (he : ∀ side, 0 < expected.get side) (hd : 0 < commandDurationMs)
    (mode : RecoveryMode) : 1 ≤ p.minimumVerifiableDurationMs mode expected commandDurationMs := by
  have hside (side : Side) : 1 ≤ ceilDiv (p.minimumProgressDegrees * commandDurationMs) (expected.get side) := by
    rw [Nat.one_le_iff_ne_zero, Ne, ceilDiv_eq_zero_iff (he side), Nat.mul_eq_zero]
    have := p.progressOk
    omega
  cases mode with
  | singleWheel side => exact hside side
  | paired => exact le_max_of_le_left (hside .left)

theorem instruction_outcome {choice : RecoveryChoice} {mode : RecoveryMode} {reason : RecoveryReason} {r : RecoveryDecision}
    (hc : Executable choice) (he : ∀ side, 0 < e.expected.get side) (hd : 0 < commandDurationMs)
    (h : p.instruction choice reason mode (p.desiredDurationMs mode e commandDurationMs) e commandDurationMs budget = .ok r) :
    r.budgetBefore = budget ∧ (Idle r ∨ ∃ i, p.Issued commandDurationMs r i) := by
  unfold instruction at h
  split at h
  next reason _ =>
    cases h
    exact ⟨rfl, .inl (abort_idle reason)⟩
  next hroom =>
    dsimp only at h
    have hlongest := durationWithinEncoderBudget_isGreatest hd mode e.expected
      (p.durationBound mode (p.desiredDurationMs mode e commandDurationMs) e.expected commandDurationMs budget)
      (p.maximumTotalRecoveryEncoderDegrees - budget.encoderDegrees)
    generalize durationWithinEncoderBudget mode e.expected commandDurationMs
      (p.durationBound mode (p.desiredDurationMs mode e commandDurationMs) e.expected commandDurationMs budget)
      (p.maximumTotalRecoveryEncoderDegrees - budget.encoderDegrees) = durationMs at h hlongest
    split at h
    next =>
      cases h
      exact ⟨rfl, .inl (abort_idle _)⟩
    next hlong =>
      have hpos : 1 ≤ durationMs := (p.minimumVerifiableDurationMs_pos he hd mode).trans (not_lt.mp hlong)
      obtain ⟨after, hafter⟩ := consume_of_executable hc budget durationMs
        ((targetFor mode e.expected commandDurationMs durationMs).left + (targetFor mode e.expected commandDurationMs durationMs).right)
      rw [hafter] at h
      cases h
      have hbound := hlongest.1.1
      simp only [durationBound, le_min_iff] at hbound
      refine ⟨rfl, .inr ⟨_, hc, rfl, hroom, ?_, hbound.2.2, hafter, hpos, hbound.2.1, ?_, hlongest⟩⟩
      · rw [targetFor_cost hpos]
        exact hlongest.1.2
      · exact verifiable_of_long he hd (not_lt.mp hlong)

theorem decide_outcome {duration : Int} {r : RecoveryDecision} (h : p.decide expected observed duration budget = .ok r) :
    r.budgetBefore = budget ∧ (Idle r ∨ ∃ i, p.Issued duration.toNat r i) := by
  obtain ⟨hvalid, hd, h⟩ := valid_of_decide h
  have he : ∀ side, 0 < (evidenceOf expected observed).expected.get side := fun side => by
    rw [evidenceOf, Sides.get_of]
    exact p.progressOk.trans (hvalid side)
  have hd : 0 < duration.toNat := by omega
  have hidle {choice : RecoveryChoice} {reason : RecoveryReason} (hc : ¬ Executable choice)
      (h : (.ok (baseResult choice reason (evidenceOf expected observed) budget) : Except PyError RecoveryDecision) = .ok r) :
      r.budgetBefore = budget ∧ (Idle r ∨ ∃ i, p.Issued duration.toNat r i) := by
    cases h
    exact ⟨rfl, .inl ⟨hc, rfl, rfl⟩⟩
  unfold decideValid at h
  dsimp only at h
  split at h
  next => exact hidle (by simp [Executable]) h
  next =>
    split at h
    next => exact hidle (by simp [Executable]) h
    next =>
      unfold recover at h
      split at h
      next lagging _ => exact instruction_outcome (.inl rfl) he hd h
      next =>
        split at h
        next => exact hidle (by simp [Executable]) h
        next => exact instruction_outcome (.inr rfl) he hd h

-- Slices

structure DriveEvidence where
  expected : Sides Int
  observed : Sides Int
  commandDurationMs : Int

/-- The policy asked again and again, each time with the budget it answered. -/
def rounds (p : EncoderRecoveryPolicy) : Machine EncoderRecoveryBudget DriveEvidence (Except PyError RecoveryDecision) where
  step budget d :=
    match p.decide d.expected d.observed d.commandDurationMs budget with
    | .ok r => (.ok r, r.budgetAfterIfExecuted)
    | .error e => (.error e, budget)

abbrev Rounds := List (DriveEvidence × Except PyError RecoveryDecision)

def decisions (h : Rounds) : List RecoveryDecision := h.filterMap fun round => round.2.toOption

def attempts (h : Rounds) (choice : RecoveryChoice) : Nat := (decisions h).countP fun r => r.decision = choice

def instructions (h : Rounds) : List RecoveryInstruction := (decisions h).filterMap RecoveryDecision.instruction

def totalDurationMs (h : Rounds) : Nat := ((instructions h).map RecoveryInstruction.durationMs).sum

def totalEncoderDegrees (h : Rounds) : Nat := ((instructions h).map fun i => i.target.left + i.target.right).sum

/-- The steps of these rounds keep every budget, and each is as it should be. -/
structure WithinBudgets (p : EncoderRecoveryPolicy) (h : Rounds) : Prop where
  total : attempts h .catchUpLaggingSide + attempts h .retryPair ≤ p.maximumTotalAttempts
  catchUp : attempts h .catchUpLaggingSide ≤ p.maximumCatchUpAttempts
  pairRetry : attempts h .retryPair ≤ p.maximumPairRetryAttempts
  duration : totalDurationMs h ≤ p.maximumTotalRecoveryDurationMs
  encoder : totalEncoderDegrees h ≤ p.maximumTotalRecoveryEncoderDegrees
  steps : ∀ d r, (d, .ok r) ∈ h → Executable r.decision →
    ∃ i, r.instruction = some i ∧ p.StepOk d.commandDurationMs.toNat r i

structure Accounts (h : Rounds) (budget : EncoderRecoveryBudget) : Prop where
  catchUp : budget.catchUpAttempts = attempts h .catchUpLaggingSide
  pairRetry : budget.pairRetryAttempts = attempts h .retryPair
  duration : budget.durationMs = totalDurationMs h
  encoder : budget.encoderDegrees = totalEncoderDegrees h

structure Affords (p : EncoderRecoveryPolicy) (budget : EncoderRecoveryBudget) : Prop where
  total : budget.totalAttempts ≤ p.maximumTotalAttempts
  catchUp : budget.catchUpAttempts ≤ p.maximumCatchUpAttempts
  pairRetry : budget.pairRetryAttempts ≤ p.maximumPairRetryAttempts
  duration : budget.durationMs ≤ p.maximumTotalRecoveryDurationMs
  encoder : budget.encoderDegrees ≤ p.maximumTotalRecoveryEncoderDegrees

section
variable {h : Rounds} {d : DriveEvidence} {r : RecoveryDecision} {i : RecoveryInstruction}

theorem attempts_ok (choice : RecoveryChoice) :
    attempts ((d, .ok r) :: h) choice = attempts h choice + if r.decision = choice then 1 else 0 := by
  simp only [attempts, decisions, List.filterMap_cons, Except.toOption, List.countP_cons, decide_eq_true_eq]

theorem instructions_ok : instructions ((d, .ok r) :: h) = r.instruction.toList ++ instructions h := by
  cases hi : r.instruction <;> simp [instructions, decisions, Except.toOption, hi]

theorem Accounts.idle (ha : Accounts h r.budgetBefore) (hi : Idle r) : Accounts ((d, .ok r) :: h) r.budgetAfterIfExecuted := by
  have hattempts (choice : RecoveryChoice) (hc : Executable choice) : attempts ((d, .ok r) :: h) choice = attempts h choice := by
    have hne : r.decision ≠ choice := fun heq => hi.executable (heq ▸ hc)
    rw [attempts_ok, if_neg hne, Nat.add_zero]
  have hsame : instructions ((d, .ok r) :: h) = instructions h := by
    rw [instructions_ok, hi.instruction]
    rfl
  rw [hi.kept]
  refine ⟨?_, ?_, ?_, ?_⟩
  · rw [hattempts _ (.inl rfl)]
    exact ha.catchUp
  · rw [hattempts _ (.inr rfl)]
    exact ha.pairRetry
  · rw [totalDurationMs, hsame]
    exact ha.duration
  · rw [totalEncoderDegrees, hsame]
    exact ha.encoder

theorem Accounts.issued (ha : Accounts h r.budgetBefore) (hi : p.Issued commandDurationMs r i) :
    Accounts ((d, .ok r) :: h) r.budgetAfterIfExecuted := by
  have hduration : totalDurationMs ((d, .ok r) :: h) = i.durationMs + totalDurationMs h := by
    simp [totalDurationMs, instructions_ok, hi.instruction]
  have hencoder : totalEncoderDegrees ((d, .ok r) :: h) = i.target.left + i.target.right + totalEncoderDegrees h := by
    simp [totalEncoderDegrees, instructions_ok, hi.instruction]
  obtain ⟨hcatch, hretry, hdur, henc⟩ := ha
  have hconsumed := hi.consumed
  rcases hi.executable with hc | hc <;> rw [hc] at hconsumed <;> simp only [EncoderRecoveryBudget.consume] at hconsumed <;>
    rw [← Except.ok.inj hconsumed] <;> refine ⟨?_, ?_, ?_, ?_⟩ <;>
    simp only [attempts_ok, hc, hduration, hencoder, ← hcatch, ← hretry, ← hdur, ← henc] <;> simp [Nat.add_comm]

theorem exhausted_eq_none {choice : RecoveryChoice} (hn : p.exhausted choice budget = none) :
    budget.totalAttempts < p.maximumTotalAttempts ∧
      (choice = .catchUpLaggingSide → budget.catchUpAttempts < p.maximumCatchUpAttempts) ∧
      (choice = .retryPair → budget.pairRetryAttempts < p.maximumPairRetryAttempts) := by
  unfold exhausted at hn
  split at hn
  next => cases hn
  next htotal =>
    split at hn
    next => cases hn
    next hcatch =>
      split at hn
      next => cases hn
      next hretry => exact ⟨not_le.mp htotal, fun hc => not_le.mp fun hge => hcatch ⟨hc, hge⟩,
          fun hc => not_le.mp fun hge => hretry ⟨hc, hge⟩⟩

theorem Affords.issued (ha : p.Affords r.budgetBefore) (hi : p.Issued commandDurationMs r i) : p.Affords r.budgetAfterIfExecuted := by
  obtain ⟨htotal, hcatch, hretry⟩ := exhausted_eq_none hi.room
  obtain ⟨_, hcatch', hretry', hdur, henc⟩ := ha
  have htime := hi.inTime
  have hfits := hi.fits
  have hconsumed := hi.consumed
  rcases hi.executable with hc | hc <;> rw [hc] at hconsumed <;> simp only [EncoderRecoveryBudget.consume] at hconsumed <;>
    rw [← Except.ok.inj hconsumed] <;> simp only [EncoderRecoveryBudget.totalAttempts] at htotal
  · have := hcatch hc
    constructor <;> simp only [EncoderRecoveryBudget.totalAttempts] <;> omega
  · have := hretry hc
    constructor <;> simp only [EncoderRecoveryBudget.totalAttempts] <;> omega

end

/-- What holds of the rounds and of the budget after them. -/
structure Sound (p : EncoderRecoveryPolicy) (h : Rounds) (budget : EncoderRecoveryBudget) : Prop where
  accounts : Accounts h budget
  affords : p.Affords budget
  steps : ∀ d r, (d, .ok r) ∈ h → Executable r.decision →
    ∃ i, r.instruction = some i ∧ p.StepOk d.commandDurationMs.toNat r i

theorem Sound.withinBudgets {h : Rounds} (hs : p.Sound h budget) : p.WithinBudgets h := by
  obtain ⟨⟨hcatch, hretry, hdur, henc⟩, ⟨htotal, hcatch', hretry', hdur', henc'⟩, hsteps⟩ := hs
  simp only [EncoderRecoveryBudget.totalAttempts] at htotal
  exact ⟨by omega, by omega, by omega, by omega, by omega, hsteps⟩

theorem Sound.step {h : Rounds} (hs : p.Sound h budget) (d : DriveEvidence) :
    p.Sound ((d, (p.rounds.step budget d).1) :: h) (p.rounds.step budget d).2 := by
  have hlater {result : Except PyError RecoveryDecision}
      (hnew : ∀ r, result = .ok r → Executable r.decision → ∃ i, r.instruction = some i ∧ p.StepOk d.commandDurationMs.toNat r i) :
      ∀ d' r, (d', .ok r) ∈ (d, result) :: h → Executable r.decision →
        ∃ i, r.instruction = some i ∧ p.StepOk d'.commandDurationMs.toNat r i := by
    intro d' r hmem hex
    rcases List.mem_cons.mp hmem with heq | hmem
    · obtain ⟨rfl, rfl⟩ := Prod.mk.inj heq
      exact hnew r rfl hex
    · exact hs.steps d' r hmem hex
  cases hdecide : p.decide d.expected d.observed d.commandDurationMs budget with
  | error e =>
    simp only [rounds, hdecide]
    exact ⟨⟨hs.accounts.catchUp, hs.accounts.pairRetry, hs.accounts.duration, hs.accounts.encoder⟩, hs.affords,
      hlater fun r hr => by cases hr⟩
  | ok r =>
    obtain ⟨rfl, hidle | ⟨i, hissued⟩⟩ := decide_outcome hdecide
    · simp only [rounds, hdecide]
      exact ⟨hs.accounts.idle hidle, hidle.kept ▸ hs.affords,
        hlater fun r' hr hex => by cases hr; exact absurd hex hidle.executable⟩
    · simp only [rounds, hdecide]
      exact ⟨hs.accounts.issued hissued, hs.affords.issued hissued,
        hlater fun r' hr _ => by cases hr; exact ⟨i, hissued.instruction, hissued.step⟩⟩

/-- Whatever the encoders show, from an empty budget on. -/
theorem rounds_withinBudgets {h : Rounds} (hr : p.rounds.Runs Machine.always {} h budget) : p.WithinBudgets h := by
  have hs : p.Sound h budget := by
    refine hr.historyInvariant ?_ fun h b d hs _ => hs.step d
    exact ⟨⟨rfl, rfl, rfl, rfl⟩, ⟨Nat.zero_le _, Nat.zero_le _, Nat.zero_le _, Nat.zero_le _, Nat.zero_le _⟩, by simp⟩
  exact hs.withinBudgets

/-- A left wheel that stays behind, then a pair that stops short, then the same
again until the budget is used up. -/
def stubborn : List DriveEvidence :=
  [⟨⟨100, 100⟩, ⟨90, 20⟩, 500⟩, ⟨⟨100, 100⟩, ⟨60, 58⟩, 500⟩, ⟨⟨100, 100⟩, ⟨90, 20⟩, 500⟩, ⟨⟨100, 100⟩, ⟨90, 20⟩, 500⟩]

theorem rounds_withinBudgets_sample :
    (instructions (coarse.rounds.runList {} stubborn).1).map RecoveryInstruction.durationMs = [115, 85, 200] ∧
      coarse.WithinBudgets (coarse.rounds.runList {} stubborn).1 :=
  ⟨by decide +kernel, rounds_withinBudgets (Machine.runs_runList (Machine.stepsOk_always _ _ stubborn))⟩

end EncoderRecoveryPolicy

end RobotLlm.Ev3
