import Mathlib.Analysis.SpecialFunctions.Trigonometric.Bounds
import RobotLlm.Lib.Ray

/-!
# The functions of an angle over the real numbers
-/

namespace RobotLlm.Lib

noncomputable instance : Trig ℝ where
  pi := Real.pi
  cos := Real.cos
  sin := Real.sin

noncomputable instance : Root ℝ where
  sqrt := Real.sqrt

theorem abs_cos_le_one (x : ℝ) : |Trig.cos x| ≤ 1 := Real.abs_cos_le_one x

theorem abs_sin_le_one (x : ℝ) : |Trig.sin x| ≤ 1 := Real.abs_sin_le_one x

@[simp] theorem radians_zero : radians (0 : ℝ) = 0 := by simp [radians]

@[simp] theorem cos_zero : Trig.cos (0 : ℝ) = 1 := Real.cos_zero

@[simp] theorem sin_zero : Trig.sin (0 : ℝ) = 0 := Real.sin_zero

theorem hypot_le_iff {x y bound : ℝ} (h : 0 ≤ bound) : hypot x y ≤ bound ↔ x ^ 2 + y ^ 2 ≤ bound ^ 2 :=
  Real.sqrt_le_left h

theorem hypot_sq (x y : ℝ) : hypot x y ^ 2 = x ^ 2 + y ^ 2 := Real.sq_sqrt (add_nonneg (sq_nonneg x) (sq_nonneg y))

theorem hypot_nonneg (x y : ℝ) : 0 ≤ hypot x y := Real.sqrt_nonneg _

theorem hypot_add_le (x y u v : ℝ) : hypot (x + u) (y + v) ≤ hypot x y + hypot u v := by
  have hx := hypot_sq x y
  have hu := hypot_sq u v
  have hx₀ := hypot_nonneg x y
  have hu₀ := hypot_nonneg u v
  rw [hypot_le_iff (add_nonneg hx₀ hu₀)]
  have hdot : x * u + y * v ≤ hypot x y * hypot u v := by
    refine abs_le_of_sq_le_sq' ?_ (mul_nonneg hx₀ hu₀) |>.2
    rw [mul_pow, hx, hu]
    nlinarith [sq_nonneg (x * v - y * u)]
  nlinarith

theorem hypot_mono {x y u v : ℝ} (hx : |x| ≤ |u|) (hy : |y| ≤ |v|) : hypot x y ≤ hypot u v :=
  Real.sqrt_le_sqrt (add_le_add (sq_le_sq.mpr hx) (sq_le_sq.mpr hy))

theorem small_angle {x : ℝ} (h : 0 ≤ x) : 1 - x ^ 2 / 2 ≤ Trig.cos x ∧ Trig.cos x ≤ 1 ∧ |Trig.sin x| ≤ x := by
  refine ⟨Real.one_sub_sq_div_two_le_cos, Real.cos_le_one x, ?_⟩
  have hsin := Real.abs_sin_le_abs (x := x)
  rwa [abs_of_nonneg h] at hsin

end RobotLlm.Lib
