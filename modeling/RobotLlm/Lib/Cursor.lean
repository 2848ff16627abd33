import Mathlib.Data.List.Basic
import Mathlib.Order.Lattice

/-!
# Reading a list behind a cursor

Entries have places that grow along a list. A reader holds the place of the
last entry it has seen; what comes after it is a suffix of the list, and what
it takes of that suffix, from the front, moves it on without losing any.
-/

namespace RobotLlm.Lib.Cursor

variable {α κ : Type} [LinearOrder κ] {place : α → κ} {l taken : List α} {first cursor : κ}

def Ascending (place : α → κ) (l : List α) : Prop := l.Pairwise fun a b => place a < place b

def after (place : α → κ) (cursor : κ) (l : List α) : List α := l.filter fun a => cursor < place a

/-- What comes after `first` and up to the cursor. -/
def upTo (place : α → κ) (first cursor : κ) (l : List α) : List α := l.filter fun a => first < place a ∧ place a ≤ cursor

/-- The place of the last entry taken, or where the cursor was. -/
def advance (place : α → κ) (cursor : κ) (taken : List α) : κ := (taken.getLast?.map place).getD cursor

theorem Ascending.splitAt (h : Ascending place l) (cursor : κ) :
    ∃ seen, l = seen ++ after place cursor l ∧ ∀ a ∈ seen, place a ≤ cursor := by
  induction l with
  | nil => exact ⟨[], rfl, by simp⟩
  | cons a l ih =>
    obtain ⟨ha, hl⟩ := List.pairwise_cons.mp h
    by_cases hc : cursor < place a
    · have hall : after place cursor (a :: l) = a :: l := by
        refine List.filter_eq_self.mpr fun b hb => ?_
        rcases List.mem_cons.mp hb with rfl | hb
        · simpa using hc
        · simpa using hc.trans (ha b hb)
      exact ⟨[], by rw [hall, List.nil_append], by simp⟩
    · obtain ⟨seen, heq, hseen⟩ := ih hl
      refine ⟨a :: seen, ?_, List.forall_mem_cons.mpr ⟨not_lt.mp hc, hseen⟩⟩
      rw [after, List.filter_cons_of_neg (by simpa using hc)]
      exact congrArg (a :: ·) heq

theorem upTo_append (l l' : List α) : upTo place first cursor (l ++ l') = upTo place first cursor l ++ upTo place first cursor l' :=
  List.filter_append _ _

theorem upTo_of_after (h : ∀ a ∈ l, cursor < place a) : upTo place first cursor l = [] :=
  List.filter_eq_nil_iff.mpr fun a ha => by simp [h a ha]

theorem upTo_of_between (h : ∀ a ∈ l, first < place a ∧ place a ≤ cursor) : upTo place first cursor l = l :=
  List.filter_eq_self.mpr fun a ha => by simp [h a ha]

/-- Moving the cursor on past entries it had passed already changes nothing. -/
theorem upTo_of_seen {later : κ} (h : ∀ a ∈ l, place a ≤ cursor) (hle : cursor ≤ later) :
    upTo place first later l = upTo place first cursor l :=
  List.filter_congr fun a ha => by simp [h a ha, (h a ha).trans hle]

theorem Ascending.le_last (h : Ascending place taken) {last : α} (hlast : taken.getLast? = some last) :
    ∀ a ∈ taken, place a ≤ place last := by
  obtain ⟨init, rfl⟩ : ∃ init, taken = init ++ [last] :=
    ⟨taken.dropLast, (List.dropLast_append_getLast? last hlast).symm⟩
  intro a ha
  rcases List.mem_append.mp ha with ha | ha
  · exact ((List.pairwise_append.mp h).2.2 a ha last (by simp)).le
  · rw [List.mem_singleton.mp ha]

theorem Ascending.upTo_advance (h : Ascending place l) (hfirst : first ≤ cursor) (htaken : taken <+: after place cursor l) :
    upTo place first (advance place cursor taken) l = upTo place first cursor l ++ taken ∧
      cursor ≤ advance place cursor taken := by
  obtain ⟨seen, heq, hseen⟩ := h.splitAt cursor
  obtain ⟨rest, hrest⟩ := htaken
  have hnew : ∀ a ∈ taken ++ rest, cursor < place a := by
    intro a ha
    rw [hrest] at ha
    simpa [after] using (List.mem_filter.mp ha).2
  rw [← hrest] at heq
  subst heq
  obtain ⟨_, hasc, _⟩ := List.pairwise_append.mp h
  cases hlast : taken.getLast? with
  | none =>
    obtain rfl := List.getLast?_eq_none_iff.mp hlast
    simp [advance]
  | some last =>
    have hplace : advance place cursor taken = place last := by rw [advance, hlast]; rfl
    have hmem : last ∈ taken := List.mem_of_getLast? hlast
    have hpast : cursor < place last := hnew last (List.mem_append_left _ hmem)
    have htake : ∀ a ∈ taken, first < place a ∧ place a ≤ place last := fun a ha =>
      ⟨hfirst.trans_lt (hnew a (List.mem_append_left _ ha)), Ascending.le_last (List.pairwise_append.mp hasc).1 hlast a ha⟩
    have hrest : ∀ a ∈ rest, place last < place a := fun a ha => (List.pairwise_append.mp hasc).2.2 last hmem a ha
    rw [hplace]
    refine ⟨?_, hpast.le⟩
    rw [upTo_append, upTo_append, upTo_append seen, upTo_of_seen hseen hpast.le, upTo_of_between htake, upTo_of_after hrest,
      upTo_of_after hnew, List.append_nil, List.append_nil]

/-- Entries that were dropped from the front, none of them past the cursor, are
not missed. -/
theorem after_append {gone : List α} (h : ∀ a ∈ gone, place a ≤ cursor) : after place cursor (gone ++ l) = after place cursor l := by
  have hgone : after place cursor gone = [] := List.filter_eq_nil_iff.mpr fun a ha => by simp [h a ha]
  rw [after, List.filter_append]
  exact congrArg (· ++ after place cursor l) hgone

end RobotLlm.Lib.Cursor
