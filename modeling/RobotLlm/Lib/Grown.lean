import Mathlib.Data.List.Basic

/-!
# Histories that grew

A history, newest entry first, that grew from an earlier one by entries each of
which was allowed by what came before it.
-/

namespace RobotLlm.Lib

inductive Grown (allowed : List α → α → Prop) (start : List α) : List α → Prop
  | none : Grown allowed start start
  | next {history : List α} {a : α} (h : Grown allowed start history) (ha : allowed history a) : Grown allowed start (a :: history)

namespace Grown

variable {allowed : List α → α → Prop} {start history newer older : List α} {a : α}

theorem append (h : Grown allowed start history) (hn : ∀ a ∈ newer, ∀ history, allowed history a) :
    Grown allowed start (newer ++ history) := by
  induction newer with
  | nil => exact h
  | cons a newer ih => exact .next (ih fun b hb => hn b (List.mem_cons_of_mem _ hb)) (hn a List.mem_cons_self _)

theorem allowed_at (h : Grown allowed start history) (hl : history = newer ++ a :: (older ++ start)) :
    allowed (older ++ start) a := by
  induction h generalizing newer with
  | none =>
    have hlength := congrArg List.length hl
    simp only [List.length_append, List.length_cons] at hlength
    omega
  | next _ ha ih =>
    cases newer with
    | nil =>
      obtain ⟨rfl, rfl⟩ := List.cons_eq_cons.mp hl
      exact ha
    | cons b newer => exact ih (List.cons_eq_cons.mp hl).2

end Grown

end RobotLlm.Lib
