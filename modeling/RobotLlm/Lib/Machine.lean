import Mathlib.Data.List.Basic

/-!
# Machines, their runs and the past of a run

A machine answers one input at a time. A run is kept as its history, the
newest entry first, so that "before" is the tail of a list and the induction
on a run is the induction on that list. `Since` is the past operator of
temporal logic on such a history.
-/

namespace RobotLlm.Lib

/-- A component that takes inputs one at a time, answers, and moves on. -/
structure Machine (σ ι ο : Type) where
  step : σ → ι → ο × σ

-- The past of a history

/-- Some entry satisfies `Q`, and every entry newer than it satisfies `P`. -/
def Since (P Q : α → Prop) : List α → Prop
  | [] => False
  | e :: h => Q e ∨ (P e ∧ Since P Q h)

instance decidableSince {P Q : α → Prop} [DecidablePred P] [DecidablePred Q] : (h : List α) → Decidable (Since P Q h)
  | [] => .isFalse id
  | e :: h =>
    have := decidableSince (P := P) (Q := Q) h
    inferInstanceAs (Decidable (Q e ∨ (P e ∧ Since P Q h)))

theorem since_iff_append {P Q : α → Prop} {h : List α} :
    Since P Q h ↔ ∃ newer e older, h = newer ++ e :: older ∧ Q e ∧ ∀ x ∈ newer, P x := by
  induction h with
  | nil => simp [Since]
  | cons a h ih =>
    simp only [Since, ih]
    constructor
    · rintro (hq | ⟨hp, newer, e, older, rfl, hq, hn⟩)
      · exact ⟨[], a, h, rfl, hq, by simp⟩
      · exact ⟨a :: newer, e, older, rfl, hq, by simp [hp]; exact hn⟩
    · rintro ⟨newer, e, older, heq, hq, hn⟩
      cases newer with
      | nil => obtain ⟨rfl, -⟩ := List.cons.inj heq; exact .inl hq
      | cons b newer =>
        obtain ⟨rfl, rfl⟩ := List.cons.inj heq
        exact .inr ⟨hn _ (by simp), newer, e, older, rfl, hq, fun x hx => hn x (by simp [hx])⟩

-- Runs

namespace Machine

/-- `m.Runs ok s₀ h s`: from `s₀`, inputs that were all `ok` where they were
given leave the history `h` and the state `s`. -/
inductive Runs (m : Machine σ ι ο) (ok : σ → ι → Prop) (s₀ : σ) : List (ι × ο) → σ → Prop
  | nil : Runs m ok s₀ [] s₀
  | cons : Runs m ok s₀ h s → ok s i → Runs m ok s₀ ((i, (m.step s i).1) :: h) (m.step s i).2

variable {σ ι ο : Type} {m : Machine σ ι ο} {ok : σ → ι → Prop} {s₀ s : σ} {h : List (ι × ο)}

def always : σ → ι → Prop := fun _ _ => True

theorem Runs.weaken {ok' : σ → ι → Prop} (hw : ∀ s i, ok s i → ok' s i) (hr : m.Runs ok s₀ h s) :
    m.Runs ok' s₀ h s := by
  induction hr with
  | nil => exact .nil
  | cons _ hok ih => exact .cons ih (hw _ _ hok)

/-- The invariant rule: what the first state has and every step keeps, every
state of a run has. -/
theorem Runs.invariant {I : σ → Prop} (hr : m.Runs ok s₀ h s) (hi : I s₀)
    (hs : ∀ s i, I s → ok s i → I (m.step s i).2) : I s := by
  induction hr with
  | nil => exact hi
  | cons _ hok ih => exact hs _ _ ih hok

/-- The invariant rule for a property of the state and the history together. -/
theorem Runs.historyInvariant {I : List (ι × ο) → σ → Prop} (hr : m.Runs ok s₀ h s) (hi : I [] s₀)
    (hs : ∀ h s i, I h s → ok s i → I ((i, (m.step s i).1) :: h) (m.step s i).2) : I h s := by
  induction hr with
  | nil => exact hi
  | cons _ hok ih => exact hs _ _ _ ih hok

/-- The newest entry of a history was answered in a state the rest reached. -/
theorem Runs.newest {i : ι} {o : ο} (hr : m.Runs ok s₀ ((i, o) :: h) s) :
    ∃ s', m.Runs ok s₀ h s' ∧ ok s' i ∧ m.step s' i = (o, s) := by
  cases hr with
  | cons hr hok => exact ⟨_, hr, hok, rfl⟩

/-- A history splits into two runs, the newer one from where the older ended. -/
theorem Runs.split {newer : List (ι × ο)} (hr : m.Runs ok s₀ (newer ++ h) s) :
    ∃ s', m.Runs ok s₀ h s' ∧ m.Runs ok s' newer s := by
  induction newer generalizing s with
  | nil => exact ⟨s, hr, .nil⟩
  | cons e newer ih =>
    obtain ⟨t, ht, hok, hstep⟩ := Runs.newest hr
    obtain ⟨s', hs', hrest⟩ := ih ht
    have h' := Runs.cons hrest hok
    rw [hstep] at h'
    exact ⟨s', hs', h'⟩

theorem Runs.older {newer : List (ι × ο)} (hr : m.Runs ok s₀ (newer ++ h) s) :
    ∃ s', m.Runs ok s₀ h s' := by
  obtain ⟨s', hs', -⟩ := Runs.split hr
  exact ⟨s', hs'⟩

theorem Runs.unique {s' : σ} (hr : m.Runs ok s₀ h s) (hr' : m.Runs ok s₀ h s') : s' = s := by
  induction hr generalizing s' with
  | nil =>
    cases hr'
    rfl
  | cons _ _ ih =>
    obtain ⟨t, ht, -, hstep⟩ := Runs.newest hr'
    rw [ih ht] at hstep
    exact (congrArg Prod.snd hstep).symm

theorem Runs.append {s' : σ} {h' : List (ι × ο)} (hr : m.Runs ok s₀ h s) (hr' : m.Runs ok s h' s') :
    m.Runs ok s₀ (h' ++ h) s' := by
  induction hr' with
  | nil => exact hr
  | cons _ hok ih => exact .cons ih hok

/-- The run of a list of inputs, for runs on fixed inputs. -/
def runList (m : Machine σ ι ο) (s : σ) : List ι → List (ι × ο) × σ
  | [] => ([], s)
  | i :: is =>
    let r := m.runList (m.step s i).2 is
    (r.1 ++ [(i, (m.step s i).1)], r.2)

/-- Every input of the list is `ok` where it is given. -/
def StepsOk (m : Machine σ ι ο) (ok : σ → ι → Prop) (s : σ) : List ι → Prop
  | [] => True
  | i :: is => ok s i ∧ m.StepsOk ok (m.step s i).2 is

instance decidableStepsOk (m : Machine σ ι ο) [∀ s i, Decidable (ok s i)] :
    (s : σ) → (is : List ι) → Decidable (m.StepsOk ok s is)
  | _, [] => .isTrue trivial
  | s, i :: is =>
    have := m.decidableStepsOk (m.step s i).2 is
    inferInstanceAs (Decidable (ok s i ∧ m.StepsOk ok (m.step s i).2 is))

theorem Runs.runList (hr : m.Runs ok s₀ h s) {is : List ι} (hok : m.StepsOk ok s is) :
    m.Runs ok s₀ ((m.runList s is).1 ++ h) (m.runList s is).2 := by
  induction is generalizing s h with
  | nil => exact hr
  | cons i is ih => simpa [Machine.runList] using ih (.cons hr hok.1) hok.2

theorem runs_runList (hok : m.StepsOk ok s is) : m.Runs ok s (m.runList s is).1 (m.runList s is).2 := by
  simpa using Runs.runList (.nil : m.Runs ok s [] s) hok

theorem stepsOk_always (m : Machine σ ι ο) (s : σ) (is : List ι) : m.StepsOk always s is := by
  induction is generalizing s with
  | nil => trivial
  | cons i is ih => exact ⟨trivial, ih _⟩

end Machine

end RobotLlm.Lib
