import Mathlib.Data.List.Basic

/-!
# Latches that open and shut on runs of entries

A history is kept newest entry first. Whether an entry counts may depend on
all that came before it, so a predicate speaks of the history up to an entry.
A latch starts shut, is shut at once by a reset, opens after so many entries
in a row that count for opening, and shuts after so many that count for
shutting. Its state is what the last complete run of either kind made of it.
-/

namespace RobotLlm.Lib

variable {α : Type} {P Q : List α → Prop} {h run : List α} {k : Nat}

-- Runs of entries

/-- `P` at each entry of `run`, which came after `older`. -/
def Throughout (P : List α → Prop) (older : List α) : List α → Prop
  | [] => True
  | e :: run => P (e :: run ++ older) ∧ Throughout P older run

theorem Throughout.append {older newer : List α} :
    Throughout P older (newer ++ run) ↔ Throughout P (run ++ older) newer ∧ Throughout P older run := by
  induction newer with
  | nil => simp [Throughout]
  | cons e newer ih => simp [Throughout, ih, and_assoc]

theorem Throughout.mono {older : List α} (ht : Throughout P older run) (hpq : ∀ h, P h → Q h) : Throughout Q older run := by
  induction run with
  | nil => trivial
  | cons e run ih => exact ⟨hpq _ ht.1, ih ht.2⟩

/-- The newest `k` entries of the history all count. -/
def EndsIn (P : List α → Prop) (k : Nat) (h : List α) : Prop :=
  ∃ run older, h = run ++ older ∧ run.length = k ∧ Throughout P older run

/-- How many of the newest entries count without a gap. -/
def streak (P : List α → Prop) [DecidablePred P] : List α → Nat
  | [] => 0
  | e :: h => if P (e :: h) then streak P h + 1 else 0

theorem streak_pos [DecidablePred P] (hp : P (e :: h)) : streak P (e :: h) = streak P h + 1 := if_pos hp

theorem streak_neg [DecidablePred P] (hp : ¬ P (e :: h)) : streak P (e :: h) = 0 := if_neg hp

theorem EndsIn.head (hn : 0 < k) (he : EndsIn P k (e :: h)) : P (e :: h) := by
  obtain ⟨run, older, heq, rfl, ht⟩ := he
  cases run with
  | nil => simp at hn
  | cons x run =>
    rw [heq]
    exact ht.1

theorem endsIn_succ : EndsIn P (k + 1) (e :: h) ↔ P (e :: h) ∧ EndsIn P k h := by
  constructor
  · rintro ⟨run, older, heq, hlen, ht⟩
    cases run with
    | nil => simp at hlen
    | cons x run =>
      obtain ⟨rfl, rfl⟩ := List.cons.inj heq
      exact ⟨ht.1, run, older, rfl, by simpa using hlen, ht.2⟩
  · rintro ⟨hp, run, older, rfl, rfl, ht⟩
    exact ⟨e :: run, older, rfl, rfl, hp, ht⟩

/-- The history ends in a run of length `k` if and only if its streak is that long. -/
theorem endsIn_iff_le_streak [DecidablePred P] : EndsIn P k h ↔ k ≤ streak P h := by
  induction h generalizing k with
  | nil =>
    constructor
    · rintro ⟨run, older, heq, rfl, -⟩
      obtain ⟨rfl, -⟩ := List.append_eq_nil_iff.mp heq.symm
      exact Nat.zero_le _
    · intro hk
      obtain rfl := Nat.le_zero.mp hk
      exact ⟨[], [], rfl, rfl, trivial⟩
  | cons e h ih =>
    cases k with
    | zero => exact ⟨fun _ => Nat.zero_le _, fun _ => ⟨[], e :: h, rfl, rfl, trivial⟩⟩
    | succ k =>
      rw [endsIn_succ, ih]
      by_cases hp : P (e :: h)
      · simp [streak_pos hp, hp]
      · simp [streak_neg hp, hp]

-- The latch

section
variable {Shut : List α → Prop} {resets : α → Prop} {opens shuts : List α → Prop} {m n : Nat}

/-- What one more entry makes of the latch. An entry that resets counts for
nothing, and none counts both ways. -/
structure Latches (Shut : List α → Prop) (resets : α → Prop) (opens shuts : List α → Prop) (m n : Nat) : Prop where
  start : Shut []
  step : ∀ e h, Shut (e :: h) ↔ resets e ∨ (Shut h ∧ ¬ EndsIn opens m (e :: h)) ∨ (¬ Shut h ∧ EndsIn shuts n (e :: h))
  calm : ∀ e h, opens (e :: h) → ¬ resets e
  apart : ∀ h, opens h → ¬ shuts h
  opensPos : 0 < m
  shutsPos : 0 < n

/-- Since the last reset a run for opening was seen while shut, and no run for
shutting after it. -/
def Released (Shut : List α → Prop) (resets : α → Prop) (opens shuts : List α → Prop) (m n : Nat) (h : List α) : Prop :=
  ∃ later run older, h = later ++ run ++ older ∧ run.length = m ∧
    Throughout (fun h => opens h ∧ Shut h.tail) older run ∧
    (∀ e ∈ later ++ run, ¬ resets e) ∧
    ¬ ∃ after back before, later = after ++ back ++ before ∧ back.length = n ∧
      Throughout shuts (before ++ run ++ older) back

/-- A latch that is shut after an entry for opening was shut before it. -/
theorem Latches.shut_before (hl : Latches Shut resets opens shuts m n) (ho : opens (e :: h)) (hs : Shut (e :: h)) : Shut h := by
  rcases (hl.step e h).mp hs with hr | hs | hs
  · exact absurd hr (hl.calm e h ho)
  · exact hs.1
  · exact absurd (hs.2.head hl.shutsPos) (hl.apart _ ho)

theorem Latches.shut_throughout (hl : Latches Shut resets opens shuts m n) {older : List α}
    (ht : Throughout opens older run) (hs : Shut (run ++ older).tail) (hne : run ≠ []) :
    Throughout (fun h => opens h ∧ Shut h.tail) older run := by
  induction run with
  | nil => exact absurd rfl hne
  | cons e run ih =>
    refine ⟨⟨ht.1, hs⟩, ?_⟩
    cases run with
    | nil => trivial
    | cons x run => exact ih ht.2 (hl.shut_before ht.2.1 hs) (by simp)

theorem Latches.calm_throughout (hl : Latches Shut resets opens shuts m n) {older : List α}
    (ht : Throughout opens older run) : ∀ e ∈ run, ¬ resets e := by
  induction run with
  | nil => simp
  | cons e run ih => exact List.forall_mem_cons.mpr ⟨hl.calm _ _ ht.1, ih ht.2⟩

theorem Latches.released_now (hl : Latches Shut resets opens shuts m n) (hs : Shut h) (he : EndsIn opens m (e :: h)) :
    Released Shut resets opens shuts m n (e :: h) := by
  obtain ⟨run, older, heq, hlen, ht⟩ := he
  have hne : run ≠ [] := by
    rintro rfl
    exact absurd hl.opensPos (by simp [← hlen])
  refine ⟨[], run, older, heq, hlen, hl.shut_throughout ht ?_ hne, hl.calm_throughout ht, ?_⟩
  · rwa [← heq]
  · rintro ⟨after, back, before, hnil, hback, -⟩
    have hb := congrArg List.length hnil
    simp only [List.length_nil, List.length_append] at hb
    have := hl.shutsPos
    omega

/-- A run for shutting that ends at an open latch's last entry lies within the
time since it opened: the entries of its run for opening count the other way. -/
theorem Latches.shuts_after (hl : Latches Shut resets opens shuts m n) {later older : List α} (hlen : run.length = m)
    (ht : Throughout opens older run) (he : EndsIn shuts n (later ++ run ++ older)) :
    ∃ after back before, later = after ++ back ++ before ∧ back.length = n ∧ Throughout shuts (before ++ run ++ older) back := by
  obtain ⟨back, before, heq, hback, hshuts⟩ := he
  rw [List.append_assoc] at heq
  rcases List.append_eq_append_iff.mp heq with ⟨rest, rfl, hrest⟩ | ⟨rest, rfl, hrest⟩
  · -- the run would reach into the entries for opening
    rw [Throughout.append] at hshuts
    cases rest with
    | nil => exact ⟨[], later, [], by simp, by simpa using hback, by simpa [hrest] using hshuts.1⟩
    | cons x rest =>
      cases run with
      | nil => exact absurd hl.opensPos (by simp [← hlen])
      | cons y run =>
        obtain ⟨rfl, htail⟩ := List.cons.inj hrest
        have htail : run ++ older = rest ++ before := htail
        have hopens := ht.1
        rw [List.cons_append, htail] at hopens
        exact absurd hshuts.2.1 (hl.apart _ hopens)
  · exact ⟨[], back, rest, by simp, hback, by simpa [hrest] using hshuts⟩

/-- A latch is open if and only if it was released and not shut since. -/
theorem Latches.open_iff (hl : Latches Shut resets opens shuts m n) (h : List α) :
    ¬ Shut h ↔ Released Shut resets opens shuts m n h := by
  induction h with
  | nil =>
    refine ⟨fun hn => absurd hl.start hn, fun hr => ?_⟩
    obtain ⟨later, run, older, heq, hlen, -⟩ := hr
    have hz := congrArg List.length heq
    simp only [List.length_nil, List.length_append] at hz
    have := hl.opensPos
    omega
  | cons e h ih =>
    rw [hl.step]
    constructor
    · intro hn
      obtain ⟨hreset, hn⟩ := not_or.mp hn
      obtain ⟨hopen, hshut⟩ := not_or.mp hn
      by_cases hs : Shut h
      · exact hl.released_now hs (by_contra fun he => hopen ⟨hs, he⟩)
      · obtain ⟨later, run, older, rfl, hlen, ht, hcalm, hback⟩ := ih.mp hs
        refine ⟨e :: later, run, older, rfl, hlen, ht, ?_, ?_⟩
        · exact List.forall_mem_cons.mpr ⟨hreset, hcalm⟩
        · rintro ⟨after, back, before, heq, hlen', hthrough⟩
          cases after with
          | nil =>
            refine hshut ⟨hs, back, before ++ run ++ older, ?_, hlen', hthrough⟩
            rw [List.nil_append] at heq
            rw [← List.cons_append, ← List.cons_append, heq, List.append_assoc, List.append_assoc, List.append_assoc]
          | cons x after =>
            obtain ⟨-, rfl⟩ := List.cons.inj heq
            exact hback ⟨after, back, before, rfl, hlen', hthrough⟩
    · rintro ⟨later, run, older, heq, hlen, ht, hcalm, hback⟩
      cases later with
      | nil =>
        rw [List.nil_append] at heq
        cases run with
        | nil => exact absurd hl.opensPos (by simp [← hlen])
        | cons x run =>
          obtain ⟨rfl, rfl⟩ := List.cons.inj heq
          have hs : Shut (run ++ older) := ht.1.2
          rintro (hr | ⟨-, hne⟩ | ⟨hno, -⟩)
          · exact hcalm e (by simp) hr
          · exact hne ⟨e :: run, older, rfl, hlen, ht.mono fun _ h => h.1⟩
          · exact hno hs
      | cons x later =>
        obtain ⟨rfl, rfl⟩ := List.cons.inj heq
        have hno : ¬ Shut (later ++ run ++ older) := by
          refine ih.mpr ⟨later, run, older, rfl, hlen, ht, fun y hy => hcalm y (by simp at hy ⊢; tauto), ?_⟩
          rintro ⟨after, back, before, rfl, hlen', hthrough⟩
          exact hback ⟨e :: after, back, before, rfl, hlen', hthrough⟩
        rintro (hr | ⟨hs, -⟩ | ⟨-, he⟩)
        · exact hcalm e (by simp) hr
        · exact hno hs
        · have he : EndsIn shuts n (e :: later ++ run ++ older) := he
          exact hback (hl.shuts_after hlen (ht.mono fun _ h => h.1) he)

end

end RobotLlm.Lib
