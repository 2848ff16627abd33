import RobotLlm.Lib.RealTrig

/-!
# Turning and rounding

A vector that is turned keeps its length, so that an error of half a unit in each
coordinate stays below three quarters of a unit in each after any turn.
-/

namespace RobotLlm.Lib.Rotation

/-- The vector `(x, y)`, turned by `a`. -/
noncomputable def turnX (a x y : ℝ) : ℝ := x * Trig.cos a - y * Trig.sin a

noncomputable def turnY (a x y : ℝ) : ℝ := x * Trig.sin a + y * Trig.cos a

variable {a b x y u v : ℝ}

theorem cos_sq_add_sin_sq (a : ℝ) : Trig.cos a ^ 2 + Trig.sin a ^ 2 = 1 := Real.cos_sq_add_sin_sq a

@[simp] theorem cos_neg (a : ℝ) : Trig.cos (-a) = Trig.cos a := Real.cos_neg a

@[simp] theorem sin_neg (a : ℝ) : Trig.sin (-a) = -Trig.sin a := Real.sin_neg a

theorem cos_add (a b : ℝ) : Trig.cos (a + b) = Trig.cos a * Trig.cos b - Trig.sin a * Trig.sin b := Real.cos_add a b

theorem sin_add (a b : ℝ) : Trig.sin (a + b) = Trig.sin a * Trig.cos b + Trig.cos a * Trig.sin b := Real.sin_add a b

theorem turnX_add : turnX a (x + u) (y + v) = turnX a x y + turnX a u v := by
  unfold turnX
  ring

theorem turnY_add : turnY a (x + u) (y + v) = turnY a x y + turnY a u v := by
  unfold turnY
  ring

theorem turnX_turn : turnX b (turnX a x y) (turnY a x y) = turnX (a + b) x y := by
  simp only [turnX, turnY, cos_add, sin_add]
  ring

theorem turnY_turn : turnY b (turnX a x y) (turnY a x y) = turnY (a + b) x y := by
  simp only [turnX, turnY, cos_add, sin_add]
  ring

@[simp] theorem turnX_zero : turnX 0 x y = x := by simp [turnX]

@[simp] theorem turnY_zero : turnY 0 x y = y := by simp [turnY]

theorem turn_sq (a x y : ℝ) : turnX a x y ^ 2 + turnY a x y ^ 2 = x ^ 2 + y ^ 2 := by
  unfold turnX turnY
  linear_combination (x ^ 2 + y ^ 2) * cos_sq_add_sin_sq a

theorem half_sq (h : |x| ≤ 1 / 2) : x ^ 2 ≤ 1 / 4 := by
  rw [← sq_abs]
  nlinarith [abs_nonneg x]

theorem abs_turn_le (hx : |x| ≤ 1 / 2) (hy : |y| ≤ 1 / 2) : |turnX a x y| ≤ 3 / 4 ∧ |turnY a x y| ≤ 3 / 4 := by
  have hsq := turn_sq a x y
  have hx' := half_sq hx
  have hy' := half_sq hy
  have hbound : (0 : ℝ) ≤ 3 / 4 := by norm_num
  constructor
  · refine abs_le_of_sq_le_sq ?_ hbound
    nlinarith [sq_nonneg (turnY a x y)]
  · refine abs_le_of_sq_le_sq ?_ hbound
    nlinarith [sq_nonneg (turnX a x y)]

theorem hypot_turn (a x y : ℝ) : hypot (turnX a x y) (turnY a x y) = hypot x y := by
  unfold hypot
  rw [turn_sq]

/-- Between two turns of a vector lies the chord of their difference. -/
theorem hypot_chord (a b x y : ℝ) :
    hypot (turnX a x y - turnX b x y) (turnY a x y - turnY b x y) = 2 * |Real.sin ((a - b) / 2)| * hypot x y := by
  have hcos : Trig.cos a * Trig.cos b + Trig.sin a * Trig.sin b = 1 - 2 * Real.sin ((a - b) / 2) ^ 2 := by
    rw [← Real.cos_two_mul_eq_one_sub, mul_div_cancel₀ (a - b) two_ne_zero]
    exact (Real.cos_sub a b).symm
  have hsq : (turnX a x y - turnX b x y) ^ 2 + (turnY a x y - turnY b x y) ^ 2 =
      (2 * |Real.sin ((a - b) / 2)| * hypot x y) ^ 2 := by
    rw [mul_pow, mul_pow, sq_abs, hypot_sq]
    unfold turnX turnY
    linear_combination (x ^ 2 + y ^ 2) * (cos_sq_add_sin_sq a + cos_sq_add_sin_sq b - 2 * hcos)
  have hpos : 0 ≤ 2 * |Real.sin ((a - b) / 2)| * hypot x y :=
    mul_nonneg (mul_nonneg zero_le_two (abs_nonneg _)) (hypot_nonneg x y)
  calc hypot (turnX a x y - turnX b x y) (turnY a x y - turnY b x y)
      = √((2 * |Real.sin ((a - b) / 2)| * hypot x y) ^ 2) := congrArg Real.sqrt hsq
    _ = _ := Real.sqrt_sq hpos

theorem hypot_moved_le (a b x y x' y' u v : ℝ) :
    hypot (x + turnX a u v - (x' + turnX b u v)) (y + turnY a u v - (y' + turnY b u v)) ≤
      hypot (x - x') (y - y') + 2 * |Real.sin ((a - b) / 2)| * hypot u v := by
  rw [← hypot_chord, add_sub_add_comm, add_sub_add_comm]
  exact hypot_add_le _ _ _ _

/-- Whole turns do not show: a turn in thousandths of a degree may be wrapped. -/
theorem turn_wrapped (mdeg : Int) (x y : ℝ) :
    turnX (radians ((((mdeg + 180000) % 360000 - 180000 : Int) : ℝ) / 1000)) x y = turnX (radians ((mdeg : ℝ) / 1000)) x y ∧
    turnY (radians ((((mdeg + 180000) % 360000 - 180000 : Int) : ℝ) / 1000)) x y = turnY (radians ((mdeg : ℝ) / 1000)) x y := by
  have hsplit : (mdeg + 180000) % 360000 - 180000 = mdeg + -((mdeg + 180000) / 360000) * 360000 := by
    have := Int.emod_add_mul_ediv (mdeg + 180000) 360000
    linarith
  have hangle : radians ((((mdeg + 180000) % 360000 - 180000 : Int) : ℝ) / 1000) =
      radians ((mdeg : ℝ) / 1000) + (-((mdeg + 180000) / 360000) : Int) * (2 * Real.pi) := by
    have hpi : Trig.pi = Real.pi := rfl
    rw [hsplit, radians, radians, hpi]
    push_cast
    ring
  have hcos (a : ℝ) (n : Int) : Trig.cos (a + n * (2 * Real.pi)) = Trig.cos a := Real.cos_add_int_mul_two_pi a n
  have hsin (a : ℝ) (n : Int) : Trig.sin (a + n * (2 * Real.pi)) = Trig.sin a := Real.sin_add_int_mul_two_pi a n
  rw [hangle]
  simp only [turnX, turnY, hcos, hsin, and_self]

end RobotLlm.Lib.Rotation
