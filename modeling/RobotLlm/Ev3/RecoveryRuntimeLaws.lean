import Mathlib.Data.List.Chain
import RobotLlm.Ev3.RecoveryRuntime
import RobotLlm.Lib.Check

/-!
# Laws of a recovered slice

The segments of a slice meet exactly where the wheels stood still between two
motions: each motion of the recovery is measured from an observation of its own,
and not from the one that ended the segment before it.
-/

namespace RobotLlm.Ev3

open RobotLlm.Lib RobotLlm.Lib.Prog

-- Positions

def wheelPositions (roles : Sides String) (observation : WorkerObservation) : Sides (Option Int) :=
  .of fun side => (motorByRole observation (roles.get side)).toOption.map ObservedMotor.position

def positionsBefore (motors : Sides DriveReceipt) : Sides Int := .of fun side => (motors.get side).positionBefore

def positionsAfter (motors : Sides DriveReceipt) : Sides Int := .of fun side => (motors.get side).positionAfter

def deltas (motors : Sides DriveReceipt) : Sides Int := .of fun side => (motors.get side).positionDelta

theorem Sides.ext_get {s t : Sides α} (h : ∀ side, s.get side = t.get side) : s = t := by
  obtain ⟨_, _⟩ := s
  obtain ⟨_, _⟩ := t
  have hleft := h .left
  have hright := h .right
  simp only [Sides.get] at hleft hright
  rw [hleft, hright]

def total (segments : List RecoverySegment) : Sides Int :=
  .of fun side => (segments.map fun s => (s.motors.get side).positionDelta).sum

def Follows (s t : RecoverySegment) : Prop := positionsBefore t.motors = positionsAfter s.motors

instance (s t : RecoverySegment) : Decidable (Follows s t) := inferInstanceAs (Decidable (_ = _))

structure SliceResult.Conserves (r : SliceResult) : Prop where
  continuous : r.segments.IsChain Follows
  sums : total r.segments = deltas r.motors

/-- No wheel moved between the observation that ended a motion and the one that
opened the next motion. The observations of a slice come as the end of the
primary motion, then the start and the end of each motion after it; one at the
end that opened no motion does not matter. -/
def Settled (roles : Sides String) : List WorkerObservation → Prop
  | ended :: opened :: next :: rest =>
    wheelPositions roles opened = wheelPositions roles ended ∧ Settled roles (next :: rest)
  | _ => True

section

variable {roles : Sides String} {before after : WorkerObservation} {motors initial : Sides DriveReceipt}

theorem wheelPositions_get {observation : WorkerObservation} {side : Side} {motor : ObservedMotor}
    (h : motorByRole observation (roles.get side) = .ok motor) :
    (wheelPositions roles observation).get side = some motor.position := by
  simp [wheelPositions, h, Except.toOption]

theorem receiptBetween_spec {r : DriveReceipt} {side : Side} (h : receiptBetween roles before after side = .ok r) :
    (wheelPositions roles before).get side = some r.positionBefore ∧
      (wheelPositions roles after).get side = some r.positionAfter ∧
      r.positionDelta = r.positionAfter - r.positionBefore := by
  obtain ⟨b, hb, h⟩ := bind_ok_iff.mp h
  obtain ⟨a, ha, h⟩ := bind_ok_iff.mp h
  cases h
  exact ⟨wheelPositions_get hb, wheelPositions_get ha, rfl⟩

theorem receiptUntil_spec {i r : DriveReceipt} {side : Side} (h : receiptUntil i after = .ok r) (hrole : i.role = roles.get side) :
    r.positionBefore = i.positionBefore ∧ (wheelPositions roles after).get side = some r.positionAfter ∧
      r.positionDelta = r.positionAfter - i.positionBefore := by
  obtain ⟨a, ha, h⟩ := bind_ok_iff.mp h
  cases h
  rw [hrole] at ha
  exact ⟨rfl, wheelPositions_get ha, rfl⟩

theorem driveReceiptsBetween_spec (h : driveReceiptsBetween roles before after = .ok motors) (side : Side) :
    receiptBetween roles before after side = .ok (motors.get side) := by
  obtain ⟨l, hl, h⟩ := bind_ok_iff.mp h
  obtain ⟨r, hr, h⟩ := bind_ok_iff.mp h
  cases h
  cases side with
  | left => exact hl
  | right => exact hr

theorem aggregateReceipts_spec (h : aggregateReceipts initial after = .ok motors) (side : Side) :
    receiptUntil (initial.get side) after = .ok (motors.get side) := by
  obtain ⟨l, hl, h⟩ := bind_ok_iff.mp h
  obtain ⟨r, hr, h⟩ := bind_ok_iff.mp h
  cases h
  cases side with
  | left => exact hl
  | right => exact hr

end

-- Records

/-- The motors of a segment between two observations. -/
structure Spans (roles : Sides String) (before after : WorkerObservation) (motors : Sides DriveReceipt) : Prop where
  opened : wheelPositions roles before = .of fun side => some ((motors.get side).positionBefore)
  ended : wheelPositions roles after = .of fun side => some ((motors.get side).positionAfter)
  delta : ∀ side, (motors.get side).positionDelta = (motors.get side).positionAfter - (motors.get side).positionBefore

theorem Spans.of_receipts {roles : Sides String} {before after : WorkerObservation} {motors : Sides DriveReceipt}
    (h : driveReceiptsBetween roles before after = .ok motors) : Spans roles before after motors where
  opened := Sides.ext_get fun side => by
    rw [Sides.get_of]
    exact (receiptBetween_spec (driveReceiptsBetween_spec h side)).1
  ended := Sides.ext_get fun side => by
    rw [Sides.get_of]
    exact (receiptBetween_spec (driveReceiptsBetween_spec h side)).2.1
  delta := fun side => (receiptBetween_spec (driveReceiptsBetween_spec h side)).2.2

/-- The motors of the slice, from its start to an observation. -/
structure SpansUntil (roles : Sides String) (initial : Sides DriveReceipt) (after : WorkerObservation) (motors : Sides DriveReceipt) :
    Prop where
  ended : wheelPositions roles after = .of fun side => some ((motors.get side).positionAfter)
  delta : ∀ side, (motors.get side).positionDelta = (motors.get side).positionAfter - (initial.get side).positionBefore

theorem SpansUntil.of_receipts {roles : Sides String} {after : WorkerObservation} {initial motors : Sides DriveReceipt}
    (hrole : ∀ side, (initial.get side).role = roles.get side) (h : aggregateReceipts initial after = .ok motors) :
    SpansUntil roles initial after motors where
  ended := Sides.ext_get fun side => by
    rw [Sides.get_of]
    exact (receiptUntil_spec (aggregateReceipts_spec h side) (hrole side)).2.1
  delta := fun side => (receiptUntil_spec (aggregateReceipts_spec h side) (hrole side)).2.2

/-- How the observations of a slice became its segments. `ended` is the
observation that ended the last segment. -/
inductive Recorded (roles : Sides String) (initial : Sides DriveReceipt) :
    List WorkerObservation → List RecoverySegment → WorkerObservation → RecoverySegment → Prop where
  | primary {ended : WorkerObservation} {s : RecoverySegment} (h : SpansUntil roles initial ended s.motors) :
    Recorded roles initial [ended] [s] ended s
  | ran {log : List WorkerObservation} {segments : List RecoverySegment} {ended opened next : WorkerObservation}
      {s t : RecoverySegment} (h : Recorded roles initial log segments ended s) (ht : Spans roles opened next t.motors) :
    Recorded roles initial (log ++ [opened, next]) (segments ++ [t]) next t

section

variable {roles : Sides String} {log : List WorkerObservation} {ended opened next : WorkerObservation}

theorem settled_ran (hodd : log.length % 2 = 1) (hlast : log.getLast? = some ended) :
    Settled roles (log ++ [opened, next]) ↔ Settled roles log ∧ wheelPositions roles opened = wheelPositions roles ended := by
  fun_induction Settled roles log with
  | case1 first second third rest ih =>
    have hodd' : (third :: rest).length % 2 = 1 := by
      simp only [List.length_cons] at hodd ⊢
      omega
    have hlast' : (third :: rest).getLast? = some ended := by
      rwa [List.getLast?_cons_cons, List.getLast?_cons_cons] at hlast
    have hrest := ih hodd' hlast'
    simp only [List.cons_append] at hrest ⊢
    rw [Settled, hrest, and_assoc]
  | case2 log hshort =>
    match log with
    | [] => simp at hodd
    | [only] =>
      obtain rfl : only = ended := by simpa using hlast
      simp [Settled]
    | [_, _] => simp at hodd
    | first :: second :: third :: rest => exact absurd rfl (hshort first second third rest)

theorem settled_denied (hodd : log.length % 2 = 1) : Settled roles (log ++ [opened]) ↔ Settled roles log := by
  fun_induction Settled roles log with
  | case1 first second third rest ih =>
    have hodd' : (third :: rest).length % 2 = 1 := by
      simp only [List.length_cons] at hodd ⊢
      omega
    have hrest := ih hodd'
    simp only [List.cons_append] at hrest ⊢
    rw [Settled, hrest]
  | case2 log hshort =>
    match log with
    | [] => simp at hodd
    | [_] => simp [Settled]
    | [_, _] => simp at hodd
    | first :: second :: third :: rest => exact absurd rfl (hshort first second third rest)

end

namespace Recorded

variable {roles : Sides String} {initial : Sides DriveReceipt} {log : List WorkerObservation} {segments : List RecoverySegment}
  {ended opened next : WorkerObservation} {s t : RecoverySegment}

theorem ended_positions (h : Recorded roles initial log segments ended s) :
    wheelPositions roles ended = .of fun side => some ((s.motors.get side).positionAfter) := by
  cases h with
  | primary h => exact h.ended
  | ran _ ht => exact ht.ended

theorem segments_last (h : Recorded roles initial log segments ended s) : segments.getLast? = some s := by
  cases h <;> simp

theorem follows_iff (h : Recorded roles initial log segments ended s) (ht : Spans roles opened next t.motors) :
    Follows s t ↔ wheelPositions roles opened = wheelPositions roles ended := by
  rw [ht.opened, h.ended_positions]
  simp only [Follows, positionsBefore, positionsAfter, Sides.of, Sides.mk.injEq, Option.some.injEq]

theorem log_odd (h : Recorded roles initial log segments ended s) : log.length % 2 = 1 := by
  induction h with
  | primary => rfl
  | ran _ _ ih =>
    simp only [List.length_append, List.length_cons, List.length_nil]
    omega

theorem log_last (h : Recorded roles initial log segments ended s) : log.getLast? = some ended := by
  cases h <;> simp

theorem continuous_iff (h : Recorded roles initial log segments ended s) : segments.IsChain Follows ↔ Settled roles log := by
  induction h with
  | primary => simp [Settled]
  | ran h ht ih =>
    rw [settled_ran h.log_odd h.log_last, List.isChain_append, ih, ← h.follows_iff ht]
    simp [h.segments_last]

theorem total_of_continuous (h : Recorded roles initial log segments ended s) (hc : segments.IsChain Follows) (side : Side) :
    (total segments).get side = (s.motors.get side).positionAfter - (initial.get side).positionBefore := by
  induction h with
  | primary h => simp [total, h.delta side]
  | @ran log segments ended opened next s t h ht ih =>
    rw [List.isChain_append] at hc
    have hfollows : Follows s t := hc.2.2 s (by simp [h.segments_last]) t (by simp)
    have hmeet : (t.motors.get side).positionBefore = (s.motors.get side).positionAfter := by
      have := congrArg (Sides.get · side) hfollows
      simpa [positionsBefore, positionsAfter] using this
    have hsum := ih hc.1
    simp only [total, Sides.get_of] at hsum ⊢
    simp only [List.map_append, List.sum_append, hsum, List.map_singleton, List.sum_singleton, ht.delta side, hmeet]
    omega

end Recorded

-- One instruction

/-- What an instruction adds to the log: the observation that opens it, and for
a motion the one that ends it. -/
def Execution.Logged (roles : Sides String) (before : List WorkerObservation) (x : Execution) (after : List WorkerObservation) : Prop :=
  ∃ opened, match x with
    | .denied _ => after = before ++ [opened]
    | .ran segment next _ => after = before ++ [opened, next] ∧ Spans roles opened next segment.motors

namespace EncoderRecoveryRuntime

variable {ω : Type} (rt : EncoderRecoveryRuntime ω)

def Unlogged (s s' : SliceState ω) : Prop := s'.observed = s.observed

instance : IsPreorder (SliceState ω) Unlogged where
  refl _ := rfl
  trans _ _ _ h h' := h'.trans h

theorem call_keeps {α : Type} (x : Prog ω WorkerFailure α) : Keeps Unlogged (call x) := fun _ => rfl

theorem latchIf_keeps (c : Bool) : Keeps Unlogged (rt.latchIf c) := by
  cases c
  · exact .pure ()
  · exact call_keeps rt.latchMotionFault

theorem budgetAllows_keeps (durationMs : Nat) : Keeps Unlogged (rt.budgetAllows durationMs) := by
  refine Keeps.bind (call_keeps rt.motionBudget) fun used => Keeps.ite ?_ (.pure false)
  exact Keeps.bind (call_keeps rt.monotonic) fun now => Keeps.bind (call_keeps rt.deadline) fun deadline => .pure _

theorem observeNow_logs (s : SliceState ω) :
    Triple rt.observeNow s (fun o s' => s'.observed = s.observed ++ [o]) (fun _ _ => True) := by
  refine Triple.frame_bind (call_keeps rt.observe) (fun _ _ _ => trivial) fun o s₁ h₁ => ?_
  show s₁.observed ++ [o] = s.observed ++ [o]
  rw [h₁]

variable {rt}

theorem startInterrupted_logs {before : WorkerObservation} {e : WorkerFailure} {evidence : StartEvidence} {durationMs index : Nat}
    {s : SliceState ω} {log : List WorkerObservation} (hs : s.observed = log ++ [before]) :
    Triple (rt.startInterrupted before e evidence durationMs index) s
      (fun x s' => x.Logged rt.driveRolesBySide log s'.observed) (fun _ _ => True) := by
  unfold startInterrupted
  refine Triple.frame_bind (call_keeps _) (fun _ _ _ => trivial) fun _ s₁ h₁ => ?_
  refine Triple.frame_bind (rt.latchIf_keeps _) (fun _ _ _ => trivial) fun _ s₂ h₂ => ?_
  refine Triple.frame_bind (rt.latchIf_keeps _) (fun _ _ _ => trivial) fun _ s₃ h₃ => ?_
  refine Triple.bind (rt.observeNow_logs s₃) fun next s₄ h₄ => ?_
  refine Triple.ofExcept_bind (fun _ _ => trivial) fun motors hmotors => ?_
  refine Triple.failIf (fun _ => trivial) fun _ => ?_
  refine Triple.pure ⟨before, ?_, Spans.of_receipts hmotors⟩
  rw [h₄, h₃, h₂, h₁, hs, List.append_assoc]
  rfl

theorem runStarted_logs {before : WorkerObservation} {i : RecoveryInstruction} {index : Nat} {active : StartedDrive}
    {s : SliceState ω} {log : List WorkerObservation} (hs : s.observed = log ++ [before]) :
    Triple (rt.runStarted before i index active) s
      (fun x s' => x.Logged rt.driveRolesBySide log s'.observed) (fun _ _ => True) := by
  unfold runStarted
  refine Triple.frame_bind (call_keeps _) (fun _ _ _ => trivial) fun _ s₁ h₁ => ?_
  refine Triple.frame_bind (call_keeps _) (fun _ _ _ => trivial) fun waited s₂ h₂ => ?_
  refine Triple.frame_bind (call_keeps _) (fun _ _ _ => trivial) fun finish s₃ h₃ => ?_
  refine Triple.bind (rt.observeNow_logs s₃) fun next s₄ h₄ => ?_
  refine Triple.frame_bind (call_keeps _) (fun _ _ _ => trivial) fun completed s₅ h₅ => ?_
  refine Triple.ofExcept_bind (fun _ _ => trivial) fun motors hmotors => ?_
  refine Triple.pure ⟨before, ?_, Spans.of_receipts hmotors⟩
  rw [h₅, h₄, h₃, h₂, h₁, hs, List.append_assoc]
  rfl

theorem startDenied_logs {before : WorkerObservation} {e : WorkerFailure} {evidence : StartEvidence} {s : SliceState ω}
    {log : List WorkerObservation} (hs : s.observed = log ++ [before]) :
    Triple (Prog.ofExcept (startDenied e evidence)) s (fun x s' => x.Logged rt.driveRolesBySide log s'.observed)
      (fun _ _ => True) := by
  unfold startDenied
  split
  next => trivial
  next =>
    split
    next => trivial
    next => exact ⟨before, hs⟩

theorem startFailed_logs {before : WorkerObservation} {i : RecoveryInstruction} {index : Nat} {e : WorkerFailure}
    {s : SliceState ω} {log : List WorkerObservation} (hs : s.observed = log ++ [before]) :
    Triple (rt.startFailed before i index e) s
      (fun x s' => x.Logged rt.driveRolesBySide log s'.observed) (fun _ _ => True) := by
  unfold startFailed
  refine Triple.ofExcept_bind (fun _ _ => trivial) fun evidence _ => ?_
  exact Triple.ite (fun _ => startDenied_logs hs) fun _ => startInterrupted_logs hs

theorem executeInstruction_logs (speeds : Sides Int) (i : RecoveryInstruction) (index : Nat) (s : SliceState ω) :
    Triple (rt.executeInstruction speeds i index) s
      (fun x s' => x.Logged rt.driveRolesBySide s.observed s'.observed) (fun _ _ => True) := by
  unfold executeInstruction
  refine Triple.bind (rt.observeNow_logs s) fun before s₁ h₁ => ?_
  refine Triple.bind ((call_keeps _).attempted s₁) fun started s₂ h₂ => ?_
  have hs : s₂.observed = s.observed ++ [before] := h₂.trans h₁
  cases started with
  | ok active => exact runStarted_logs hs
  | error e => exact startFailed_logs hs

-- The slice

/-- What the loop keeps: the segments are a record of the log, and the
aggregate reaches to where the last of them ended. -/
structure Kept (roles : Sides String) (initial : Sides DriveReceipt) (l : SliceLoop) (log : List WorkerObservation) : Prop where
  recorded : ∃ ended s, Recorded roles initial log l.segments ended s ∧ SpansUntil roles initial ended l.aggregate

/-- The same when the loop ended, perhaps after a start that was denied. -/
def Ended (roles : Sides String) (initial : Sides DriveReceipt) (l : SliceLoop) (log : List WorkerObservation) : Prop :=
  ∃ whole, Kept roles initial l whole ∧ (log = whole ∨ ∃ opened, log = whole ++ [opened])

theorem Kept.ended {roles : Sides String} {initial : Sides DriveReceipt} {l : SliceLoop} {log : List WorkerObservation}
    (h : Kept roles initial l log) : Ended roles initial l log := ⟨log, h, .inl rfl⟩

theorem Kept.ran {roles : Sides String} {initial motors : Sides DriveReceipt} {l : SliceLoop} {log : List WorkerObservation}
    {opened next : WorkerObservation} {t : RecoverySegment} (h : Kept roles initial l log) (ht : Spans roles opened next t.motors)
    (hu : SpansUntil roles initial next motors) (d : RecoveryDecision) :
    Kept roles initial (l.ran d t motors) (log ++ [opened, next]) := by
  obtain ⟨ended, s, hr, _⟩ := h.recorded
  exact ⟨next, t, hr.ran ht, hu⟩

theorem Ended.conserves_iff {roles : Sides String} {initial : Sides DriveReceipt} {l : SliceLoop} {log : List WorkerObservation}
    (h : Ended roles initial l log) (r : SliceResult) (hsegments : r.segments = l.segments) (hmotors : r.motors = l.aggregate) :
    r.Conserves ↔ Settled roles log := by
  obtain ⟨whole, ⟨ended, s, hrec, huntil⟩, hlog⟩ := h
  have hsettled : Settled roles log ↔ Settled roles whole := by
    rcases hlog with rfl | ⟨opened, rfl⟩
    · exact Iff.rfl
    · exact settled_denied hrec.log_odd
  rw [hsettled, ← hrec.continuous_iff]
  constructor
  · intro hc
    exact hsegments ▸ hc.continuous
  · intro hc
    refine ⟨hsegments ▸ hc, Sides.ext_get fun side => ?_⟩
    have hend := congrArg (Sides.get · side) (hrec.ended_positions.symm.trans huntil.ended)
    simp only [Sides.get_of, Option.some.injEq] at hend
    rw [hsegments, hmotors, hrec.total_of_continuous hc side, hend, deltas, Sides.get_of, huntil.delta side]

theorem recoverLoop_ends (c : SliceCommand) (hrole : ∀ side, (c.initialMotors.get side).role = rt.driveRolesBySide.get side)
    (l : SliceLoop) (s : SliceState ω) (hk : Kept rt.driveRolesBySide c.initialMotors l s.observed) :
    Triple (rt.recoverLoop c l) s
      (fun e s' => Ended rt.driveRolesBySide c.initialMotors e.toSliceLoop s'.observed) (fun _ _ => True) := by
  induction hm : rt.policy.maximumTotalAttempts - l.budget.totalAttempts using Nat.strong_induction_on generalizing l s with
  | _ m ih =>
    rw [recoverLoop]
    split
    next => trivial
    next d hd =>
      refine Triple.ite (fun _ => hk.ended) fun _ => ?_
      refine Triple.ite (fun _ => ?_) fun _ => ?_
      · unfold sliceAborted
        refine Triple.ite (fun _ => ?_) fun _ => hk.ended
        refine Triple.frame_bind (call_keeps _) (fun _ _ _ => trivial) fun _ s₁ h₁ => Triple.pure ?_
        rw [h₁]
        exact hk.ended
      split
      next => trivial
      next i hi =>
        refine Triple.frame_bind (rt.budgetAllows_keeps i.durationMs) (fun _ _ _ => trivial) fun allowed s₁ h₁ => ?_
        refine Triple.ite (fun _ => ?_) fun _ => ?_
        · refine Triple.pure ?_
          rw [h₁]
          exact hk.ended
        refine Triple.bind (executeInstruction_logs c.speeds i _ s₁) fun x s₂ h₂ => ?_
        rw [h₁] at h₂
        cases x with
        | denied terminal =>
          obtain ⟨opened, hlog⟩ := h₂
          exact ⟨s.observed, ⟨hk.recorded⟩, .inr ⟨opened, hlog⟩⟩
        | ran segment next terminal =>
          obtain ⟨opened, hlog, hspans⟩ := h₂
          refine Triple.ofExcept_bind (fun _ _ => trivial) fun aggregate ha => ?_
          have hkept := hk.ran hspans (SpansUntil.of_receipts hrole ha) d
          rw [← hlog] at hkept
          cases terminal with
          | some terminal => exact Kept.ended ⟨hkept.recorded⟩
          | none => exact ih _ (hm ▸ rt.attempt_taken hd hi) _ _ hkept rfl

/-- The segments of a slice meet and add up exactly when the wheels stood still
between the motions. -/
theorem recoverSlice_conserves_iff (rt : EncoderRecoveryRuntime ω) (c : SliceCommand) (finish : FinishReport) (status : SliceStatus)
    (reason : String) (startedMs : Int) (worker : ω) {r : SliceResult} {s' : SliceState ω}
    (hrole : ∀ side, (c.initialMotors.get side).role = rt.driveRolesBySide.get side)
    (hr : rt.recoverSlice c finish status reason startedMs { worker := worker } = (.ok r, s')) :
    r.Conserves ↔ Settled rt.driveRolesBySide s'.observed := by
  have hslice : Triple (rt.recoverSlice c finish status reason startedMs) { worker := worker }
      (fun r s' => r.Conserves ↔ Settled rt.driveRolesBySide s'.observed) (fun _ _ => True) := by
    unfold recoverSlice
    refine Triple.frame_bind (call_keeps _) (fun _ _ _ => trivial) fun completed s₁ h₁ => ?_
    refine Triple.bind (rt.observeNow_logs s₁) fun final s₂ h₂ => ?_
    refine Triple.ofExcept_bind (fun _ _ => trivial) fun aggregate ha => ?_
    have huntil := SpansUntil.of_receipts hrole ha
    have hlog : s₂.observed = [final] := by
      rw [h₂, h₁]
      rfl
    refine Triple.bind (recoverLoop_ends c hrole _ s₂ ?_) fun ended s₃ hended => ?_
    · rw [hlog]
      exact ⟨final, _, .primary huntil, huntil⟩
    refine Triple.ofExcept_bind (fun _ _ => trivial) fun d _ => ?_
    refine Triple.frame_bind (rt.latchIf_keeps _) (fun _ _ _ => trivial) fun _ s₄ h₄ => ?_
    refine Triple.pure ?_
    rw [h₄]
    exact hended.conserves_iff _ rfl rfl
  exact hslice.ok hr

-- A worker that shows a list of observations, and on which every motion runs.

def stopped : StopResult := {}

def wheelsAt (left right : Int) : WorkerObservation := [⟨"left_drive", left, ""⟩, ⟨"right_drive", right, ""⟩]

def scripted : EncoderRecoveryRuntime (List WorkerObservation) where
  policy := EncoderRecoveryPolicy.coarse
  observe
    | [] => (.error { isWorkerError := true, message := "No observation" }, [])
    | o :: rest => (.ok o, rest)
  startDriveSide _ _ _ := pure ⟨0⟩
  startDrive _ _ _ := pure ⟨0⟩
  waitForActive _ := pure (.completed, "duration_elapsed")
  requireVerifiedFinish := pure { stop := stopped }
  nowMs := pure 0
  monotonic := pure 0
  deadline := pure 100
  motionBudget := pure (1, 500)
  consumeMotionBudget _ := pure ()
  latchMotionFault := pure ()
  driveRolesBySide := ⟨"left_drive", "right_drive"⟩
  stopIsVerified _ := true

def pairedCommand : SliceCommand where
  speeds := ⟨200, 200⟩
  physicalSpeedDps := ⟨200, 200⟩
  durationMs := 500
  initialMotors := ⟨⟨.left, "left_drive", 0, 90, 90, ""⟩, ⟨.right, "right_drive", 0, 20, 20, ""⟩⟩

def recoveredSlice (stream : List WorkerObservation) : Except WorkerFailure SliceResult × SliceState (List WorkerObservation) :=
  scripted.recoverSlice pairedCommand { stop := stopped } .completed "duration_elapsed" 0 { worker := stream }

theorem recoveredSlice_answers (stream : List WorkerObservation) (P : SliceResult → Bool)
    (h : (recoveredSlice stream).1.toOption.any P = true) : ∃ r s', recoveredSlice stream = (.ok r, s') ∧ P r = true := by
  rcases hr : recoveredSlice stream with ⟨e | r, s'⟩ <;> rw [hr] at h
  · cases h
  · exact ⟨r, s', rfl, h⟩

theorem pairedCommand_roles (side : Side) :
    (pairedCommand.initialMotors.get side).role = scripted.driveRolesBySide.get side := by
  cases side <;> rfl

/-- The right wheel stands still until it catches up. -/
theorem recoverSlice_conserves_iff_sample :
    ∃ r s', recoveredSlice [wheelsAt 90 20, wheelsAt 90 20, wheelsAt 90 85] = (.ok r, s') ∧ r.segments.length = 2 ∧
      (r.Conserves ↔ Settled ⟨"left_drive", "right_drive"⟩ s'.observed) := by
  obtain ⟨r, s', hr, hlength⟩ :=
    recoveredSlice_answers [wheelsAt 90 20, wheelsAt 90 20, wheelsAt 90 85] (fun r => r.segments.length = 2) (by decide +kernel)
  exact ⟨r, s', hr, of_decide_eq_true hlength, recoverSlice_conserves_iff scripted pairedCommand _ _ _ _ _ pairedCommand_roles hr⟩

/-- The right wheel settles by three degrees before it catches up, and these
are in no segment. -/
theorem settling_wheel_lost :
    ¬ ∀ (ω : Type) (rt : EncoderRecoveryRuntime ω) (c : SliceCommand) (finish : FinishReport) (status : SliceStatus)
      (reason : String) (startedMs : Int) (worker : ω) (r : SliceResult) (s' : SliceState ω),
      (∀ side, (c.initialMotors.get side).role = rt.driveRolesBySide.get side) →
      rt.recoverSlice c finish status reason startedMs { worker := worker } = (.ok r, s') → r.Conserves := by
  intro hall
  obtain ⟨r, s', hr, hlost⟩ :=
    recoveredSlice_answers [wheelsAt 90 20, wheelsAt 90 23, wheelsAt 90 85] (fun r => total r.segments ≠ deltas r.motors)
      (by decide +kernel)
  have hconserves := hall _ scripted pairedCommand _ _ _ _ _ r s' pairedCommand_roles hr
  exact of_decide_eq_true hlost hconserves.sums

end EncoderRecoveryRuntime

end RobotLlm.Ev3
