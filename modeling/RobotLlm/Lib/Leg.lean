import Mathlib.Algebra.Order.Field.Basic
import Mathlib.Order.Bounds.Basic
import Mathlib.Tactic.FieldSimp
import Mathlib.Tactic.LinearCombination
import Mathlib.Tactic.Linarith
import Mathlib.Tactic.Ring
import RobotLlm.Lib.Exact

/-!
# Legs and circles

A leg goes straight from one point to another. Its distance from a point outside
it falls up to the projection of that point and grows from there on, so that it
enters a circle, if at all, by half a chord before the projection of the centre.
-/

namespace RobotLlm.Lib.Leg

section
variable {R : Type} [Field R] {p q e : R × R} {t : R}

def distSq (a b : R × R) : R := (a.1 - b.1) ^ 2 + (a.2 - b.2) ^ 2

/-- The point of the leg from `p` to `q` at `t`: its start at 0, its end at 1. -/
def point (p q : R × R) (t : R) : R × R := (p.1 + (q.1 - p.1) * t, p.2 + (q.2 - p.2) * t)

/-- Where the leg's line comes closest to `e`. -/
def ratio (p q e : R × R) : R := ((e.1 - p.1) * (q.1 - p.1) + (e.2 - p.2) * (q.2 - p.2)) / distSq q p

/-- The square of the distance of `e` from the leg's line. -/
def offsetSq (p q e : R × R) : R := distSq p e - ratio p q e ^ 2 * distSq q p

@[simp] theorem point_zero : point p q 0 = p := by simp [point]

@[simp] theorem point_one : point p q 1 = q := by simp [point]

theorem distSq_point (hlength : distSq q p ≠ 0) :
    distSq (point p q t) e = distSq q p * (t - ratio p q e) ^ 2 + offsetSq p q e := by
  have hdot : ratio p q e * distSq q p = (e.1 - p.1) * (q.1 - p.1) + (e.2 - p.2) * (q.2 - p.2) := by
    unfold ratio
    field_simp
  unfold offsetSq
  simp only [distSq, point] at *
  linear_combination 2 * t * hdot

theorem distSq_start : distSq p e = distSq q p * ratio p q e ^ 2 + offsetSq p q e := by
  unfold offsetSq
  ring

end

section
variable {R : Type} [Field R] [LinearOrder R] [IsStrictOrderedRing R] {p q e : R × R} {t s c half : R}

theorem distSq_nonneg (a b : R × R) : 0 ≤ distSq a b := add_nonneg (sq_nonneg _) (sq_nonneg _)

theorem distSq_pos (hlength : distSq q p ≠ 0) : 0 < distSq q p := (distSq_nonneg q p).lt_of_ne' hlength

theorem offsetSq_nonneg (hlength : distSq q p ≠ 0) : 0 ≤ offsetSq p q e := by
  have h := distSq_point (e := e) (t := ratio p q e) hlength
  simp only [sub_self, ne_eq, OfNat.ofNat_ne_zero, not_false_eq_true, zero_pow, mul_zero, zero_add] at h
  rw [← h]
  exact distSq_nonneg _ _

/-- The leg is closer to `e` than where it started from its start to twice the projection. -/
theorem closer_iff (hlength : distSq q p ≠ 0) (ht : 0 ≤ t) :
    distSq (point p q t) e < distSq p e ↔ 0 < t ∧ t < 2 * ratio p q e := by
  have hpos := distSq_pos hlength
  rw [distSq_point hlength, distSq_start (p := p) (q := q)]
  have hsplit : distSq q p * (t - ratio p q e) ^ 2 + offsetSq p q e <
      distSq q p * ratio p q e ^ 2 + offsetSq p q e ↔ 0 < t * (2 * ratio p q e - t) := by
    rw [add_lt_add_iff_right, mul_lt_mul_iff_right₀ hpos, ← sub_pos]
    have hsq : ratio p q e ^ 2 - (t - ratio p q e) ^ 2 = t * (2 * ratio p q e - t) := by ring
    rw [hsq]
  rw [hsplit]
  constructor
  · intro h
    obtain rfl | ht' := ht.eq_or_lt
    · simp at h
    · exact ⟨ht', sub_pos.mp (pos_of_mul_pos_right h ht'.le)⟩
  · rintro ⟨h₁, h₂⟩
    exact mul_pos h₁ (sub_pos.mpr h₂)

/-- Of the points up to the leg's end, none is closer than the projection cut off there. -/
theorem nearest_le (hlength : distSq q p ≠ 0) (ht : t ≤ 1) :
    distSq (point p q (min 1 (ratio p q e))) e ≤ distSq (point p q t) e := by
  have hpos := distSq_pos hlength
  rw [distSq_point hlength, distSq_point hlength, add_le_add_iff_right, mul_le_mul_iff_right₀ hpos, sq_le_sq]
  obtain h | h := le_total (ratio p q e) 1
  · rw [min_eq_right h, sub_self, abs_zero]
    exact abs_nonneg _
  · rw [min_eq_left h, abs_of_nonpos (by linarith), abs_of_nonpos (by linarith)]
    linarith

/-- Of the leg's points, none is closer than the projection brought into the leg. -/
theorem clamped_le (hlength : distSq q p ≠ 0) (h₀ : 0 ≤ t) (h₁ : t ≤ 1) :
    distSq (point p q (max 0 (min 1 (ratio p q e)))) e ≤ distSq (point p q t) e := by
  obtain h | h := le_total 0 (min 1 (ratio p q e))
  · rw [max_eq_right h]
    exact nearest_le hlength h₁
  · have hratio : ratio p q e ≤ 0 := (min_le_iff.mp h).resolve_left (by linarith [zero_lt_one (α := R)])
    have hpos := distSq_pos hlength
    rw [max_eq_left h, distSq_point hlength, distSq_point hlength, add_le_add_iff_right, mul_le_mul_iff_right₀ hpos]
    nlinarith

theorem leaving_lt (hleaving : 0 < (q.1 - p.1) * (p.1 - e.1) + (q.2 - p.2) * (p.2 - e.2)) (h₀ : 0 ≤ s) (hst : s < t) :
    distSq (point p q s) e < distSq (point p q t) e := by
  have hexpand (r : R) : distSq (point p q r) e = distSq p e + distSq q p * r ^ 2 +
      2 * r * ((q.1 - p.1) * (p.1 - e.1) + (q.2 - p.2) * (p.2 - e.2)) := by
    simp only [distSq, point]
    ring
  have hsq : distSq q p * s ^ 2 ≤ distSq q p * t ^ 2 :=
    mul_le_mul_of_nonneg_left (pow_le_pow_left₀ h₀ hst.le 2) (distSq_nonneg q p)
  have hlinear := mul_lt_mul_of_pos_right hst hleaving
  rw [hexpand, hexpand]
  linarith

/-- A point of the leg lies in the circle and closer than the start. -/
def Approaches (c : R) (p q e : R × R) : Prop :=
  ∃ t, 0 ≤ t ∧ t ≤ 1 ∧ distSq (point p q t) e < c ∧ distSq (point p q t) e < distSq p e

theorem approaches_iff (hlength : distSq q p ≠ 0) :
    Approaches c p q e ↔ 0 < ratio p q e ∧ distSq (point p q (min 1 (ratio p q e))) e < c := by
  constructor
  · rintro ⟨t, h₀, h₁, hin, hcloser⟩
    obtain ⟨ht, hlt⟩ := (closer_iff hlength h₀).mp hcloser
    exact ⟨by linarith, (nearest_le hlength h₁).trans_lt hin⟩
  · rintro ⟨hpos, hin⟩
    have hmin : 0 < min 1 (ratio p q e) := lt_min one_pos hpos
    refine ⟨_, hmin.le, min_le_left _ _, hin, (closer_iff hlength hmin.le).mpr ⟨hmin, ?_⟩⟩
    have := min_le_right 1 (ratio p q e)
    linarith

theorem not_approaches_of_still (hlength : distSq q p = 0) : ¬ Approaches c p q e := by
  rintro ⟨t, -, -, -, hcloser⟩
  have hx : q.1 - p.1 = 0 ∧ q.2 - p.2 = 0 := by
    have h₁ := sq_nonneg (q.1 - p.1)
    have h₂ := sq_nonneg (q.2 - p.2)
    unfold distSq at hlength
    exact ⟨pow_eq_zero_iff two_ne_zero |>.mp (by linarith), pow_eq_zero_iff two_ne_zero |>.mp (by linarith)⟩
  rw [point, hx.1, hx.2] at hcloser
  simp [distSq] at hcloser

/-- Half of the chord that the circle cuts out of the leg's line. -/
theorem inside_iff (hlength : distSq q p ≠ 0) (hhalf : 0 ≤ half) (hchord : half ^ 2 = (c - offsetSq p q e) / distSq q p) :
    distSq (point p q t) e < c ↔ |t - ratio p q e| < half := by
  have hpos := distSq_pos hlength
  rw [eq_div_iff hlength] at hchord
  have hscaled : (t - ratio p q e) ^ 2 < half ^ 2 ↔ distSq q p * (t - ratio p q e) ^ 2 < distSq q p * half ^ 2 :=
    (mul_lt_mul_iff_right₀ hpos).symm
  rw [distSq_point hlength, ← abs_of_nonneg hhalf, ← sq_lt_sq, hscaled]
  constructor <;> intro h <;> linarith

/-- The circle of an approach is entered by half a chord before the projection, or at the start. -/
theorem entry_isGLB (hlength : distSq q p ≠ 0) (hpos : 0 < ratio p q e) (hhalf : 0 ≤ half)
    (hchord : half ^ 2 = (c - offsetSq p q e) / distSq q p) (hin : distSq (point p q (min 1 (ratio p q e))) e < c) :
    IsGLB {t | 0 ≤ t ∧ t ≤ 1 ∧ distSq (point p q t) e < c} (max 0 (ratio p q e - half)) := by
  constructor
  · rintro t ⟨h₀, -, ht⟩
    have := (abs_lt.mp ((inside_iff hlength hhalf hchord).mp ht)).1
    exact max_le h₀ (by linarith)
  · intro b hb
    have hclose := (abs_lt.mp ((inside_iff hlength hhalf hchord).mp hin)).1
    have hlast : max 0 (ratio p q e - half) < min 1 (ratio p q e) := max_lt (lt_min one_pos hpos) (by linarith)
    by_contra hlt
    rw [not_le] at hlt
    -- What lies just after the entry is inside, and before any bound beyond it.
    obtain ⟨s, hs, hsb⟩ := exists_between (lt_min hlt hlast)
    obtain ⟨hs₀, hs₁⟩ := max_lt_iff.mp hs
    have hsmin := hsb.le.trans (min_le_right _ _)
    have hinside : distSq (point p q s) e < c := by
      rw [inside_iff hlength hhalf hchord, abs_lt]
      have := hsmin.trans (min_le_right _ _)
      constructor <;> linarith
    exact absurd (hb ⟨hs₀.le, hsmin.trans (min_le_left _ _), hinside⟩) (not_le.mpr (hsb.trans_le (min_le_left _ _)))

end

end RobotLlm.Lib.Leg
