import RobotLlm.Ev3.Infrared
import RobotLlm.Lib.Hysteresis

/-!
# The gate's flag is a function of its history

The gate keeps a window and a candidate count; what it says follows from the
calls made to it. It is open when the readings since the last reset ended a
run for release, seen while it was blocked, and no run for blocking came after.
-/

namespace RobotLlm.Ev3

open RobotLlm.Lib

inductive GateCall where
  | observe (raw : Int)
  | failClosed
deriving DecidableEq

namespace GateCall

/-- The sample of a call, if it is one the gate can use. -/
def sample : GateCall → Option Int
  | .observe raw => if raw < 0 ∨ raw > 100 then none else some raw
  | .failClosed => none

/-- The samples since the gate last failed closed, newest first. -/
def recent : List GateCall → List Int
  | [] => []
  | call :: h =>
    match call.sample with
    | some raw => raw :: recent h
    | none => []

def window (p : InfraredGatePolicy) (h : List GateCall) : List Int := ((recent h).take p.medianWindow).reverse

/-- A call that blocks the gate at once: no usable sample, or a strong return. -/
def Blocks (p : InfraredGatePolicy) (call : GateCall) : Prop := ∀ raw ∈ call.sample, raw ≤ p.immediateEnterMax

instance (p : InfraredGatePolicy) (call : GateCall) : Decidable (call.Blocks p) :=
  inferInstanceAs (Decidable (∀ raw ∈ call.sample, raw ≤ p.immediateEnterMax))

/-- The newest call filled the window with a sample that did not block at once. -/
def Counts (p : InfraredGatePolicy) (h : List GateCall) : Prop :=
  (window p h).length = p.medianWindow ∧ ∀ call ∈ h.head?, ¬ call.Blocks p

def ForExit (p : InfraredGatePolicy) (h : List GateCall) : Prop := Counts p h ∧ p.exitMin ≤ median (window p h)

def ForEntry (p : InfraredGatePolicy) (h : List GateCall) : Prop := Counts p h ∧ median (window p h) ≤ p.enterMax

instance (p : InfraredGatePolicy) : DecidablePred (Counts p) := fun _ => inferInstanceAs (Decidable (_ ∧ _))

instance (p : InfraredGatePolicy) : DecidablePred (ForExit p) := fun _ => inferInstanceAs (Decidable (_ ∧ _))

instance (p : InfraredGatePolicy) : DecidablePred (ForEntry p) := fun _ => inferInstanceAs (Decidable (_ ∧ _))

end GateCall

namespace InfraredObstacleGate

open GateCall

def after (p : InfraredGatePolicy) (g : InfraredObstacleGate) : GateCall → InfraredObstacleGate
  | .observe raw => (g.observe p raw).2
  | .failClosed => g.failClosed

def run (p : InfraredGatePolicy) : List GateCall → InfraredObstacleGate
  | [] => {}
  | call :: h => (run p h).after p call

variable {p : InfraredGatePolicy} {g : InfraredObstacleGate} {h : List GateCall} {call : GateCall} {raw : Int}

-- The window

theorem after_of_sample (hs : call.sample = some raw) : g.after p call = g.accept p raw := by
  cases call with
  | failClosed => simp [GateCall.sample] at hs
  | observe value =>
    simp only [GateCall.sample] at hs
    split at hs
    next => simp at hs
    next hrange =>
      obtain rfl := Option.some.inj hs
      simp [after, observe, hrange]

theorem after_of_none (hs : call.sample = none) : g.after p call = g.failClosed := by
  cases call with
  | failClosed => rfl
  | observe value =>
    simp only [GateCall.sample] at hs
    split at hs
    next hrange => simp [after, observe, hrange]
    next => simp at hs

theorem recent_of_sample (hs : call.sample = some raw) : recent (call :: h) = raw :: recent h := by
  simp [recent, hs]

theorem recent_of_none (hs : call.sample = none) : recent (call :: h) = [] := by
  simp [recent, hs]

theorem window_of_sample (hs : call.sample = some raw) :
    window p (call :: h) = (window p h ++ [raw]).drop ((window p h ++ [raw]).length - p.medianWindow) := by
  obtain ⟨n, hn⟩ := Nat.exists_eq_succ_of_ne_zero p.windowOk.1.ne'
  have hlist : window p h ++ [raw] = (raw :: (recent h).take p.medianWindow).reverse := by simp [window]
  rw [hlist, List.length_reverse, ← List.reverse_take, window, recent_of_sample hs, hn]
  simp [List.take_take]

theorem window_of_none (hs : call.sample = none) : window p (call :: h) = [] := by
  simp [window, recent_of_none hs]

-- One call

structure Pending (g : InfraredObstacleGate) (desired : Bool) (k : Nat) : Prop where
  count : g.candidateCount = k
  side : g.candidateBlocked = if k = 0 then none else some desired

theorem pending_reset (g : InfraredObstacleGate) (desired : Bool) : g.resetCandidate.Pending desired 0 := ⟨rfl, rfl⟩

theorem Pending.setCandidate {desired : Bool} {k : Nat} (hp : g.Pending desired k) :
    (g.setCandidate desired).Pending desired (k + 1) := by
  obtain ⟨hcount, hside⟩ := hp
  unfold InfraredObstacleGate.setCandidate
  by_cases hk : k = 0
  · simp only [hk, if_true] at hside
    simp only [hside, hk]
    exact ⟨rfl, rfl⟩
  · simp only [hk, if_false] at hside
    simp only [hside, if_true]
    exact ⟨congrArg (· + 1) hcount, rfl⟩

theorem decideSide_same {desired : Bool} (hd : g.blocked = desired) (required : Nat) : g.decideSide desired required = g.hold :=
  if_pos hd.symm

theorem decideSide_other {desired : Bool} {k : Nat} (required : Nat) (hd : desired ≠ g.blocked) (hp : g.Pending desired k) :
    let g' := g.decideSide desired required
    g'.samples = g.samples ∧
      if k + 1 < required then g'.blocked = g.blocked ∧ g'.Pending desired (k + 1)
      else g'.blocked = desired ∧ ∀ side, g'.Pending side 0 := by
  obtain ⟨hcount, hside⟩ := hp.setCandidate
  have hkept : (g.setCandidate desired).samples = g.samples ∧ (g.setCandidate desired).blocked = g.blocked := by
    unfold InfraredObstacleGate.setCandidate
    split <;> exact ⟨rfl, rfl⟩
  simp only [decideSide, if_neg hd, hcount]
  split
  · exact ⟨hkept.1, hkept.2, rfl, hside⟩
  · exact ⟨hkept.1, rfl, fun side => pending_reset _ side⟩

structure Tracks (p : InfraredGatePolicy) (h : List GateCall) (g : InfraredObstacleGate) : Prop where
  samples : g.samples = window p h
  blocked : g.blocked = true → g.Pending false (streak (ForExit p) h) ∧ streak (ForExit p) h < p.exitConsecutive
  clear : g.blocked = false → g.Pending true (streak (ForEntry p) h) ∧ streak (ForEntry p) h < p.enterConsecutive

def Flag (p : InfraredGatePolicy) (blocked : Bool) (h : List GateCall) (call : GateCall) : Prop :=
  call.Blocks p ∨ (blocked = true ∧ ¬ p.exitConsecutive ≤ streak (ForExit p) (call :: h)) ∨
    (blocked = false ∧ p.enterConsecutive ≤ streak (ForEntry p) (call :: h))

theorem Tracks.neither {g' : InfraredObstacleGate} (hg : g'.samples = window p (call :: h)) (hcalm : ¬ call.Blocks p)
    (hkept : g'.blocked = g.blocked) (hreset : ∀ side, g'.Pending side 0)
    (hexit : g.blocked = true → ¬ ForExit p (call :: h)) (hentry : g.blocked = false → ¬ ForEntry p (call :: h)) :
    Tracks p (call :: h) g' ∧ (g'.blocked = true ↔ Flag p g.blocked h call) := by
  have hc := p.consecutiveOk
  refine ⟨⟨hg, fun hb => ?_, fun hb => ?_⟩, ?_⟩
  · rw [streak_neg (hexit (hkept ▸ hb))]
    exact ⟨hreset false, hc.2.1⟩
  · rw [streak_neg (hentry (hkept ▸ hb))]
    exact ⟨hreset true, hc.1.1⟩
  · rw [hkept]
    cases hb : g.blocked with
    | true => simp [Flag, streak_neg (hexit hb), hc.2.1.ne']
    | false => simp [Flag, streak_neg (hentry hb), hcalm, hc.1.1.ne']

theorem Tracks.held {g₁ : InfraredObstacleGate} {desired : Bool} (required : Nat) (hg : g₁.samples = window p (call :: h))
    (hcalm : ¬ call.Blocks p) (hkept : g₁.blocked = g.blocked) (hb : g.blocked = desired)
    (hexit : g.blocked = true → ¬ ForExit p (call :: h)) (hentry : g.blocked = false → ¬ ForEntry p (call :: h)) :
    let g' := g₁.decideSide desired required
    Tracks p (call :: h) g' ∧ (g'.blocked = true ↔ Flag p g.blocked h call) := by
  rw [decideSide_same (hkept.trans hb)]
  exact Tracks.neither hg hcalm hkept (pending_reset _) hexit hentry

theorem Tracks.atOnce {g' : InfraredObstacleGate} (hg : g'.samples = window p (call :: h)) (hblocks : call.Blocks p)
    (hblocked : g'.blocked = true) (hreset : ∀ side, g'.Pending side 0) :
    Tracks p (call :: h) g' ∧ (g'.blocked = true ↔ Flag p g.blocked h call) := by
  have hnot : ¬ ForExit p (call :: h) := fun hexit => hexit.1.2 call rfl hblocks
  refine ⟨⟨hg, fun _ => ?_, fun hb => ?_⟩, ⟨fun _ => .inl hblocks, fun _ => hblocked⟩⟩
  · rw [streak_neg hnot]
    exact ⟨hreset false, p.consecutiveOk.2.1⟩
  · simp [hblocked] at hb

theorem Tracks.exit {g₁ : InfraredObstacleGate} (ht : Tracks p h g) (hg : g₁.samples = window p (call :: h))
    (hkept : g₁.blocked = g.blocked) (hpending : ∀ side k, g.Pending side k → g₁.Pending side k) (hb : g.blocked = true)
    (hexit : ForExit p (call :: h)) :
    let g' := g₁.decideSide false p.exitConsecutive
    Tracks p (call :: h) g' ∧ (g'.blocked = true ↔ Flag p g.blocked h call) := by
  have hcalm : ¬ call.Blocks p := hexit.1.2 call rfl
  have hentry : ¬ ForEntry p (call :: h) := fun he => by
    have := p.thresholdsOk.2.2.1
    have := hexit.2
    have := he.2
    omega
  obtain ⟨hp, -⟩ := ht.blocked hb
  obtain ⟨hsamples, hmoved⟩ := decideSide_other p.exitConsecutive (by simp [hkept, hb]) (hpending _ _ hp)
  intro g'
  have hstreak := streak_pos hexit
  split at hmoved
  next hlt =>
    have hb' : g'.blocked = true := hmoved.1.trans (hkept.trans hb)
    refine ⟨⟨hsamples.trans hg, fun _ => ?_, fun hn => by simp [hb'] at hn⟩, ?_⟩
    · rw [hstreak]
      exact ⟨hmoved.2, hlt⟩
    · simp only [hb', Flag, hb, hstreak, true_iff]
      exact .inr (.inl ⟨trivial, by omega⟩)
  next hge =>
    have hb' : g'.blocked = false := hmoved.1
    refine ⟨⟨hsamples.trans hg, fun hn => by simp [hb'] at hn, fun _ => ?_⟩, ?_⟩
    · rw [streak_neg hentry]
      exact ⟨hmoved.2 true, p.consecutiveOk.1.1⟩
    · simp only [hb', Flag, hb, hstreak, Bool.false_eq_true, false_iff]
      simp [hcalm]
      omega

theorem Tracks.entry {g₁ : InfraredObstacleGate} (ht : Tracks p h g) (hg : g₁.samples = window p (call :: h))
    (hkept : g₁.blocked = g.blocked) (hpending : ∀ side k, g.Pending side k → g₁.Pending side k) (hb : g.blocked = false)
    (hentry : ForEntry p (call :: h)) :
    let g' := g₁.decideSide true p.enterConsecutive
    Tracks p (call :: h) g' ∧ (g'.blocked = true ↔ Flag p g.blocked h call) := by
  have hcalm : ¬ call.Blocks p := hentry.1.2 call rfl
  have hexit : ¬ ForExit p (call :: h) := fun he => by
    have := p.thresholdsOk.2.2.1
    have := hentry.2
    have := he.2
    omega
  obtain ⟨hp, -⟩ := ht.clear hb
  obtain ⟨hsamples, hmoved⟩ := decideSide_other p.enterConsecutive (by simp [hkept, hb]) (hpending _ _ hp)
  intro g'
  have hstreak := streak_pos hentry
  split at hmoved
  next hlt =>
    have hb' : g'.blocked = false := hmoved.1.trans (hkept.trans hb)
    refine ⟨⟨hsamples.trans hg, fun hn => by simp [hb'] at hn, fun _ => ?_⟩, ?_⟩
    · rw [hstreak]
      exact ⟨hmoved.2, hlt⟩
    · simp only [hb', Flag, hb, hstreak, Bool.false_eq_true, false_iff]
      simp [hcalm]
      omega
  next hge =>
    have hb' : g'.blocked = true := hmoved.1
    refine ⟨⟨hsamples.trans hg, fun _ => ?_, fun hn => by simp [hb'] at hn⟩, ?_⟩
    · rw [streak_neg hexit]
      exact ⟨hmoved.2 false, p.consecutiveOk.2.1⟩
    · simp only [hb', Flag, hb, hstreak, true_iff]
      exact .inr (.inr ⟨trivial, by omega⟩)

theorem Tracks.after (ht : Tracks p h g) (call : GateCall) :
    Tracks p (call :: h) (g.after p call) ∧ ((g.after p call).blocked = true ↔ Flag p g.blocked h call) := by
  cases hs : call.sample with
  | none =>
    rw [after_of_none hs]
    exact Tracks.atOnce (window_of_none hs).symm (by simp [Blocks, hs]) rfl (pending_reset _)
  | some raw =>
    have hwindow := window_of_sample (p := p) (h := h) hs
    rw [← ht.samples] at hwindow
    rw [after_of_sample hs]
    unfold accept
    simp only [← hwindow]
    split
    next himmediate => exact Tracks.atOnce rfl (by simpa [Blocks, hs] using himmediate) rfl (pending_reset _)
    next hfar =>
    have hcalm : ¬ call.Blocks p := by simpa [Blocks, hs] using hfar
    split
    next hwarm =>
      have hnot : ¬ Counts p (call :: h) := fun hc => absurd hc.1 (by omega)
      exact Tracks.neither rfl hcalm rfl (pending_reset _) (fun _ he => hnot he.1) fun _ he => hnot he.1
    next hfull =>
    have hcounts : Counts p (call :: h) := by
      refine ⟨?_, by simpa using hcalm⟩
      have hle : (window p (call :: h)).length ≤ p.medianWindow := by simp [window]
      omega
    have hpending (g₁ : InfraredObstacleGate) (hc : g₁.candidateCount = g.candidateCount)
        (hside : g₁.candidateBlocked = g.candidateBlocked) (side : Bool) (k : Nat) (hp : g.Pending side k) :
        g₁.Pending side k := ⟨hc.trans hp.count, hside.trans hp.side⟩
    have hthresholds := p.thresholdsOk.2.2.1
    split
    next henter =>
      obtain hb | hb := Bool.eq_false_or_eq_true g.blocked
      · exact Tracks.held _ rfl hcalm rfl hb (fun _ he => by have := he.2; omega) fun hn => by simp [hb] at hn
      · exact ht.entry rfl rfl (hpending _ rfl rfl) hb ⟨hcounts, henter⟩
    next hfar =>
    split
    next hexit =>
      obtain hb | hb := Bool.eq_false_or_eq_true g.blocked
      · exact ht.exit rfl rfl (hpending _ rfl rfl) hb ⟨hcounts, hexit⟩
      · exact Tracks.held _ rfl hcalm rfl hb (fun hn => by simp [hb] at hn) fun _ he => by have := he.2; omega
    next hmiddle =>
      exact Tracks.neither rfl hcalm rfl (pending_reset _) (fun _ he => hmiddle he.2) fun _ he => hfar he.2

-- Histories

theorem run_tracks (p : InfraredGatePolicy) (h : List GateCall) : Tracks p h (run p h) := by
  induction h with
  | nil => exact ⟨by simp [run, window, recent], fun _ => ⟨⟨rfl, rfl⟩, p.consecutiveOk.2.1⟩, fun hb => by simp [run] at hb⟩
  | cons call h ih => exact (ih.after call).1

theorem run_latches (p : InfraredGatePolicy) :
    Latches (fun h => (run p h).blocked = true) (Blocks p) (ForExit p) (ForEntry p) p.exitConsecutive p.enterConsecutive where
  start := rfl
  step call h := by
    rw [endsIn_iff_le_streak, endsIn_iff_le_streak, Bool.not_eq_true]
    exact ((run_tracks p h).after call).2
  calm call h he := he.1.2 call rfl
  apart h he hn := by
    have := p.thresholdsOk.2.2.1
    have := he.2
    have := hn.2
    omega
  opensPos := p.consecutiveOk.2.1
  shutsPos := p.consecutiveOk.1.1

theorem window_full_of_sample (hfull : (window p h).length = p.medianWindow) (hcalm : ¬ call.Blocks p) :
    (window p (call :: h)).length = p.medianWindow := by
  cases hs : call.sample with
  | none => exact absurd (by simp [Blocks, hs]) hcalm
  | some raw =>
    simp only [window, List.length_reverse, List.length_take, recent_of_sample hs, List.length_cons] at hfull ⊢
    omega

theorem window_full_later {later : List GateCall} (hfull : (window p h).length = p.medianWindow)
    (hcalm : ∀ call ∈ later, ¬ call.Blocks p) : (window p (later ++ h)).length = p.medianWindow := by
  induction later with
  | nil => exact hfull
  | cons call later ih =>
    obtain ⟨hcall, hlater⟩ := List.forall_mem_cons.mp hcalm
    exact window_full_of_sample (ih hlater) hcall

/-- The gate is clear if and only if, since the last failure and the last strong
return, it was released and not blocked again; and then its window is full. -/
theorem run_clear_iff (p : InfraredGatePolicy) (h : List GateCall) :
    ((run p h).blocked = false ↔
      Released (fun h => (run p h).blocked = true) (Blocks p) (ForExit p) (ForEntry p) p.exitConsecutive p.enterConsecutive h) ∧
    ((run p h).blocked = false → (run p h).samples.length = p.medianWindow) := by
  have hiff := (run_latches p).open_iff h
  rw [Bool.not_eq_true] at hiff
  refine ⟨hiff, fun hclear => ?_⟩
  obtain ⟨later, exits, older, rfl, hlen, ht, hcalm, -⟩ := hiff.mp hclear
  rw [(run_tracks p _).samples]
  cases exits with
  | nil => exact absurd p.consecutiveOk.2.1 (by simp [← hlen])
  | cons call exits =>
    have hfull : (window p (call :: exits ++ older)).length = p.medianWindow := ht.1.1.1.1
    rw [List.append_assoc]
    exact window_full_later hfull fun call' hmem => hcalm call' (List.mem_append_left _ hmem)

end InfraredObstacleGate

end RobotLlm.Ev3
