import Mathlib.Algebra.Order.Group.Abs
import Mathlib.Data.List.Sort
import Mathlib.Tactic.Abel

/-!
# Routes along a line

The length of a route that visits points of a line in a given order and ends at
home. No order is shorter than the better of the two sweeps, from the least point
to the greatest or back: whatever the order, one of these two comes first.
-/

namespace RobotLlm.Lib.Sweep

variable {α : Type} [AddCommGroup α] [LinearOrder α] {home start a b p t : α} {ts : List α}

/-- From `start` to every target in turn, and home. -/
def travel (home start : α) : List α → α
  | [] => |start - home|
  | t :: ts => |t - start| + travel home t ts

@[simp] theorem travel_nil : travel home start [] = |start - home| := rfl

@[simp] theorem travel_cons : travel home start (t :: ts) = |t - start| + travel home t ts := rfl

/-- To one point, from there to another one, and home. -/
def through (home start a b : α) : α := |a - start| + (|b - a| + |b - home|)

theorem travel_neg : travel (-home) (-start) (ts.map Neg.neg) = travel home start ts := by
  induction ts generalizing start with
  | nil => rw [List.map_nil, travel_nil, travel_nil, neg_sub_neg, abs_sub_comm]
  | cons t ts ih =>
    rw [List.map_cons, travel_cons, travel_cons, ih, neg_sub_neg, abs_sub_comm]

theorem through_neg : through (-home) (-start) (-a) (-b) = through home start a b := by
  simp only [through, neg_sub_neg, abs_sub_comm]

-- No route is shorter

section
variable [IsOrderedAddMonoid α]

theorem le_detour (h : |p - t| + a ≤ b) : |p - start| + a ≤ |t - start| + b :=
  calc |p - start| + a
    _ ≤ (|p - t| + |t - start|) + a := add_le_add_left (abs_sub_le p t start) a
    _ = |t - start| + (|p - t| + a) := by abel
    _ ≤ |t - start| + b := add_le_add_right h _

theorem direct_le_travel : |start - home| ≤ travel home start ts := by
  induction ts generalizing start with
  | nil => exact le_rfl
  | cons t ts ih =>
    calc |start - home|
      _ ≤ |start - t| + |t - home| := abs_sub_le start t home
      _ = |t - start| + |t - home| := by rw [abs_sub_comm start t]
      _ ≤ |t - start| + travel home t ts := add_le_add_right ih _

theorem travel_visits (hp : p ∈ ts) : |p - start| + |p - home| ≤ travel home start ts := by
  induction ts generalizing start with
  | nil => cases hp
  | cons t ts ih =>
    rcases List.mem_cons.mp hp with rfl | hp
    · exact add_le_add_right direct_le_travel _
    · exact le_detour (ih hp)

theorem travel_visits_both (ha : a ∈ ts) (hb : b ∈ ts) :
    through home start a b ≤ travel home start ts ∨ through home start b a ≤ travel home start ts := by
  induction ts generalizing start with
  | nil => cases ha
  | cons t ts ih =>
    rcases List.mem_cons.mp ha with rfl | ha'
    · rcases List.mem_cons.mp hb with rfl | hb'
      · left
        simpa [through] using direct_le_travel
      · exact .inl (add_le_add_right (travel_visits hb') _)
    · rcases List.mem_cons.mp hb with rfl | hb'
      · exact .inr (add_le_add_right (travel_visits ha') _)
      · exact (ih ha' hb').imp le_detour le_detour

end

-- The two sweeps

section
variable [IsOrderedAddMonoid α]

/-- An ascending sweep goes through its first point and its last. -/
theorem travel_ascending {z : α} (hsorted : ts.Pairwise (· ≤ ·)) (ha : ts.head? = some a) (hz : ts.getLast? = some z) :
    travel home start ts = through home start a z := by
  induction ts generalizing start a with
  | nil => cases ha
  | cons t ts ih =>
    obtain rfl : t = a := by simpa using ha
    cases ts with
    | nil =>
      obtain rfl : t = z := by simpa using hz
      simp [through]
    | cons u us =>
      obtain ⟨hfirst, hrest⟩ := List.pairwise_cons.mp hsorted
      rw [List.getLast?_cons_cons] at hz
      have hlast : u ≤ z := by
        rcases List.mem_cons.mp (List.mem_of_getLast? hz) with rfl | hmem
        · exact le_rfl
        · exact (List.pairwise_cons.mp hrest).1 z hmem
      have hstep : |u - t| + |z - u| = |z - t| := by
        rw [abs_of_nonneg (sub_nonneg.mpr (hfirst u (by simp))), abs_of_nonneg (sub_nonneg.mpr hlast),
          abs_of_nonneg (sub_nonneg.mpr ((hfirst u (by simp)).trans hlast))]
        abel
      rw [travel_cons, ih hrest rfl hz, through, through, ← hstep]
      abel

theorem travel_descending {z : α} (hsorted : ts.Pairwise (· ≥ ·)) (ha : ts.head? = some a) (hz : ts.getLast? = some z) :
    travel home start ts = through home start a z := by
  rw [← travel_neg, ← through_neg]
  refine travel_ascending (List.pairwise_map.mpr (hsorted.imp fun h => neg_le_neg h)) ?_ ?_
  · rw [List.head?_map, ha]
    rfl
  · rw [List.getLast?_map, hz]
    rfl

theorem sweep_le_travel {l : List α} (hsorted : l.Pairwise (· ≤ ·)) (hperm : ts.Perm l) :
    travel home start l ≤ travel home start ts ∨ travel home start l.reverse ≤ travel home start ts := by
  rcases hfirst : l.head? with _ | a
  · obtain rfl := List.head?_eq_none_iff.mp hfirst
    rw [List.Perm.eq_nil hperm]
    exact .inl le_rfl
  · obtain ⟨z, hlast⟩ : ∃ z, l.getLast? = some z := by
      cases hz : l.getLast? with
      | some z => exact ⟨z, rfl⟩
      | none => simp_all
    have ha : a ∈ ts := hperm.mem_iff.mpr (List.mem_of_head? hfirst)
    have hz : z ∈ ts := hperm.mem_iff.mpr (List.mem_of_getLast? hlast)
    rw [travel_ascending hsorted hfirst hlast, travel_descending (List.pairwise_reverse.mpr hsorted)
      (List.head?_reverse.trans hlast) (List.getLast?_reverse.trans hfirst)]
    exact travel_visits_both ha hz

end

-- Neighbours

/-- In an ascending list, a pair of neighbours is a pair with nothing between. -/
theorem mem_zip_tail_iff {β : Type} [LinearOrder β] {a b : β} {l : List β} (hl : l.Pairwise (· < ·)) :
    (a, b) ∈ l.zip l.tail ↔ a ∈ l ∧ b ∈ l ∧ a < b ∧ ∀ c ∈ l, ¬ (a < c ∧ c < b) := by
  induction l with
  | nil => simp
  | cons x l ih =>
    obtain ⟨hx, hl⟩ := List.pairwise_cons.mp hl
    cases l with
    | nil =>
      simp only [List.tail_cons, List.zip_nil_right, List.not_mem_nil, List.mem_singleton, false_iff]
      rintro ⟨rfl, rfl, hlt, _⟩
      exact lt_irrefl _ hlt
    | cons y l =>
      have hzip : (x :: y :: l).zip (x :: y :: l).tail = (x, y) :: (y :: l).zip (y :: l).tail := rfl
      rw [hzip, List.mem_cons, ih hl]
      have hy : ∀ c ∈ y :: l, y ≤ c := by
        intro c hc
        rcases List.mem_cons.mp hc with rfl | hc
        · exact le_rfl
        · exact ((List.pairwise_cons.mp hl).1 c hc).le
      constructor
      · rintro (heq | ⟨ha, hb, hlt, hnone⟩)
        · obtain ⟨rfl, rfl⟩ := Prod.mk.inj heq
          refine ⟨List.mem_cons_self, List.mem_cons_of_mem _ List.mem_cons_self, hx b List.mem_cons_self, ?_⟩
          rintro c hc ⟨hac, hcb⟩
          rcases List.mem_cons.mp hc with rfl | hc
          · exact lt_irrefl _ hac
          · exact absurd (hy c hc) (not_le.mpr hcb)
        · refine ⟨List.mem_cons_of_mem _ ha, List.mem_cons_of_mem _ hb, hlt, ?_⟩
          rintro c hc ⟨hac, hcb⟩
          rcases List.mem_cons.mp hc with rfl | hc
          · exact lt_asymm hac (hx a ha)
          · exact hnone c hc ⟨hac, hcb⟩
      · rintro ⟨ha, hb, hlt, hnone⟩
        have hb' : b ∈ y :: l := by
          rcases List.mem_cons.mp hb with rfl | hb
          · rcases List.mem_cons.mp ha with rfl | ha
            · exact absurd hlt (lt_irrefl _)
            · exact absurd hlt (lt_asymm (hx a ha))
          · exact hb
        rcases List.mem_cons.mp ha with rfl | ha
        · left
          have hby : ¬ y < b := fun hlt' => hnone y (by simp) ⟨hx y List.mem_cons_self, hlt'⟩
          rw [le_antisymm (not_lt.mp hby) (hy b hb')]
        · exact .inr ⟨ha, hb', hlt, fun c hc => hnone c (List.mem_cons_of_mem _ hc)⟩

end RobotLlm.Lib.Sweep
