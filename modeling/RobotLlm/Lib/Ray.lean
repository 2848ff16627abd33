import Mathlib.Tactic.LinearCombination
import RobotLlm.Lib.Exact

/-!
# Rays, walls and circles

A ray starts at the origin and goes in a unit direction. The first point of a
ray from outside a circle that lies in it is its projection of the centre less
half of the chord it cuts.
-/

namespace RobotLlm.Lib

/-- The square root. -/
class Root (R : Type) where
  sqrt : R → R

/-- `math.hypot(x, y)`. -/
def hypot {R : Type} [Field R] [Root R] (x y : R) : R := Root.sqrt (x ^ 2 + y ^ 2)

section
variable {R : Type} [Field R] {u v dx dy t : R}

/-- The square of the distance of the ray's point at `t` from the point `(u, v)`. -/
def raySq (u v dx dy t : R) : R := (t * dx - u) ^ 2 + (t * dy - v) ^ 2

def rayProjection (u v dx dy : R) : R := u * dx + v * dy

/-- The square of the distance of the point `(u, v)` from the ray's line. -/
def rayOffsetSq (u v dx dy : R) : R := u ^ 2 + v ^ 2 - rayProjection u v dx dy ^ 2

theorem raySq_eq (hunit : dx ^ 2 + dy ^ 2 = 1) :
    raySq u v dx dy t = (t - rayProjection u v dx dy) ^ 2 + rayOffsetSq u v dx dy := by
  unfold raySq rayOffsetSq rayProjection
  linear_combination t ^ 2 * hunit

@[simp] theorem raySq_zero : raySq u v dx dy 0 = u ^ 2 + v ^ 2 := by
  simp [raySq]

/-- The ray enters the circle at its projection less half of its chord. -/
theorem raySq_entry {half radius : R} (hunit : dx ^ 2 + dy ^ 2 = 1) (hhalf : half ^ 2 = radius ^ 2 - rayOffsetSq u v dx dy) :
    raySq u v dx dy (rayProjection u v dx dy - half) = radius ^ 2 := by
  rw [raySq_eq hunit]
  linear_combination hhalf

end

section
variable {R : Type} [Field R] [LinearOrder R] [IsStrictOrderedRing R] {u v dx dy t half radius : R}

/-- A circle that does not hold the start of a ray lies ahead where the ray meets it. -/
theorem rayProjection_pos (hunit : dx ^ 2 + dy ^ 2 = 1) (hout : radius ^ 2 < u ^ 2 + v ^ 2) (ht : 0 ≤ t)
    (hhit : raySq u v dx dy t ≤ radius ^ 2) : 0 < rayProjection u v dx dy := by
  by_contra hneg
  rw [raySq_eq hunit] at hhit
  have hstart : u ^ 2 + v ^ 2 = rayProjection u v dx dy ^ 2 + rayOffsetSq u v dx dy := by
    unfold rayOffsetSq
    ring
  have hmul := mul_nonneg ht (neg_nonneg.mpr (not_lt.mp hneg))
  nlinarith [sq_nonneg t]

theorem rayOffsetSq_le (hunit : dx ^ 2 + dy ^ 2 = 1) (hhit : raySq u v dx dy t ≤ radius ^ 2) :
    rayOffsetSq u v dx dy ≤ radius ^ 2 := by
  rw [raySq_eq hunit] at hhit
  have := sq_nonneg (t - rayProjection u v dx dy)
  linarith

theorem entry_le_of_hit (hunit : dx ^ 2 + dy ^ 2 = 1) (hpos : 0 ≤ half)
    (hhalf : half ^ 2 = radius ^ 2 - rayOffsetSq u v dx dy) (hhit : raySq u v dx dy t ≤ radius ^ 2) :
    rayProjection u v dx dy - half ≤ t := by
  rw [raySq_eq hunit] at hhit
  have hsq : (t - rayProjection u v dx dy) ^ 2 ≤ half ^ 2 := by linarith
  have habs := abs_le_of_sq_le_sq hsq hpos
  linarith [(abs_le.mp habs).1]

theorem entry_nonneg (hout : radius ^ 2 < u ^ 2 + v ^ 2) (hpos : 0 ≤ rayProjection u v dx dy)
    (hhalf : half ^ 2 = radius ^ 2 - rayOffsetSq u v dx dy) : 0 ≤ rayProjection u v dx dy - half := by
  have hsq : half ^ 2 ≤ rayProjection u v dx dy ^ 2 := by
    rw [hhalf]
    unfold rayOffsetSq
    linarith
  have habs := abs_le_of_sq_le_sq hsq hpos
  linarith [(abs_le.mp habs).2]

end

end RobotLlm.Lib
