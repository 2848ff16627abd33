import Mathlib.Data.Finset.Card

/-!
# Replay windows

A bounded memory of the newest identifiers: a set to ask, and a queue that
says which identifier leaves when the window is full. The two agree as long
as nothing already remembered is remembered again.
-/

namespace RobotLlm.Lib

structure ReplayWindow (α : Type) where
  ids : Finset α
  /-- The same identifiers, the next to leave first. -/
  order : List α
deriving DecidableEq

namespace ReplayWindow

def empty : ReplayWindow α := ⟨∅, []⟩

variable {α : Type} [DecidableEq α] {capacity : Nat} {w : ReplayWindow α} {a b : α} {as : List α}

def remember (capacity : Nat) (w : ReplayWindow α) (a : α) : ReplayWindow α :=
  if w.order.length ≥ capacity then
    match w.order with
    | [] => ⟨insert a w.ids, [a]⟩
    | expired :: rest => ⟨insert a (w.ids.erase expired), rest ++ [a]⟩
  else
    ⟨insert a w.ids, w.order ++ [a]⟩

/-- Set and queue hold the same identifiers, each once and in bounds. -/
structure Sound (capacity : Nat) (w : ReplayWindow α) : Prop where
  nodup : w.order.Nodup
  mem : ∀ a, a ∈ w.ids ↔ a ∈ w.order
  bound : w.order.length ≤ capacity

omit [DecidableEq α] in
theorem empty_sound : (empty : ReplayWindow α).Sound capacity :=
  ⟨.nil, by simp [empty], by simp [empty]⟩

theorem Sound.card (h : w.Sound capacity) : w.ids.card = w.order.length := by
  have : w.ids = w.order.toFinset := by
    ext a
    rw [List.mem_toFinset, h.mem]
  rw [this, List.toFinset_card_of_nodup h.nodup]

theorem mem_remember (h : b ∈ (remember capacity w a).ids) : b = a ∨ b ∈ w.ids := by
  unfold remember at h
  split at h
  · split at h
    · simpa using h
    · rcases Finset.mem_insert.mp h with h | h
      · exact .inl h
      · exact .inr (Finset.mem_of_mem_erase h)
  · simpa using h

theorem remember_sound (h : w.Sound capacity) (hc : 0 < capacity) (ha : a ∉ w.ids) :
    (remember capacity w a).Sound capacity := by
  have ha' : a ∉ w.order := fun hm => ha ((h.mem a).mpr hm)
  unfold remember
  split
  next hfull =>
    split
    next hnil => simp [hnil] at hfull; omega
    next expired rest horder =>
      have hnd := h.nodup
      have hbound := h.bound
      rw [horder] at hnd ha' hbound
      obtain ⟨hexp, hrest⟩ := List.nodup_cons.mp hnd
      obtain ⟨hne, har⟩ : a ≠ expired ∧ a ∉ rest := by simpa using ha'
      refine ⟨?_, fun b => ?_, by simpa using hbound⟩
      · exact hrest.append (List.nodup_singleton a) (by simpa using har)
      · have := h.mem b
        rw [horder] at this
        by_cases hb : b = expired
        · subst hb; simp [hexp, hne.symm]
        · simp [this, hb, or_comm]
  next hroom =>
    refine ⟨?_, fun b => ?_, by simp; omega⟩
    · exact h.nodup.append (List.nodup_singleton a) (by simpa using ha')
    · simp [h.mem b, or_comm]

/-- Identifiers that are fresh and distinct can be remembered one after the
other. -/
theorem remember_all_sound (h : w.Sound capacity) (hc : 0 < capacity) (hnd : as.Nodup)
    (hfresh : ∀ a ∈ as, a ∉ w.ids) : (as.foldl (remember capacity) w).Sound capacity := by
  induction as generalizing w with
  | nil => exact h
  | cons a as ih =>
    obtain ⟨hna, hnd⟩ := List.nodup_cons.mp hnd
    refine ih (remember_sound h hc (hfresh a (by simp))) hnd fun b hb hmem => ?_
    rcases mem_remember hmem with rfl | hmem
    · exact hna hb
    · exact hfresh b (by simp [hb]) hmem

theorem mem_remember_all (h : b ∈ (as.foldl (remember capacity) w).ids) : b ∈ as ∨ b ∈ w.ids := by
  induction as generalizing w with
  | nil => exact .inr h
  | cons a as ih =>
    rcases ih h with h | h
    · exact .inl (by simp [h])
    · rcases mem_remember h with rfl | h
      · exact .inl (by simp)
      · exact .inr h

end ReplayWindow

end RobotLlm.Lib
