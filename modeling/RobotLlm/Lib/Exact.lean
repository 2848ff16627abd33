import Mathlib.Algebra.Order.Floor.Ring
import Mathlib.Algebra.Order.Field.Basic
import Mathlib.Tactic.Linarith
import Mathlib.Tactic.NormNum
import Mathlib.Tactic.FieldSimp
import Mathlib.Tactic.Ring

/-!
# Exact numbers in the place of floats

Rounding and remainders as Python computes them, over any ordered field with
floors: a tie is rounded to the even integer.
-/

namespace RobotLlm.Lib

-- The numerals of angles and lengths: one proof for each, whichever field reads it.
instance atLeastTwo_two : Nat.AtLeastTwo 2 := ⟨by decide⟩

instance atLeastTwo_ten : Nat.AtLeastTwo 10 := ⟨by decide⟩

instance atLeastTwo_halfTurn : Nat.AtLeastTwo 180 := ⟨by decide⟩

instance atLeastTwo_turn : Nat.AtLeastTwo 360 := ⟨by decide⟩

instance atLeastTwo_fiveHundred : Nat.AtLeastTwo 500 := ⟨by decide⟩

instance atLeastTwo_thousand : Nat.AtLeastTwo 1000 := ⟨by decide⟩

variable {R : Type} [Field R] [LinearOrder R] [IsStrictOrderedRing R] [FloorRing R]

/-- `round(x)`. -/
def roundEven (x : R) : Int :=
  let n := ⌊x⌋
  if x - n < 1 / 2 then n else if 1 / 2 < x - n then n + 1 else n + n % 2

/-- `round(x, digits)`. -/
def roundDigits (digits : Nat) (x : R) : R := roundEven (x * 10 ^ digits) / 10 ^ digits

/-- An angle in degrees, as `(x + 180.0) % 360.0 - 180.0`. -/
def wrapDegrees (x : R) : R := x + 180 - 360 * ⌊(x + 180) / 360⌋ - 180

/-- The functions of an angle, in radians. -/
class Trig (R : Type) where
  pi : R
  cos : R → R
  sin : R → R

def radians [Trig R] (x : R) : R := x * Trig.pi / 180

-- Rounding

theorem abs_roundEven_sub_le (x : R) : |(roundEven x : R) - x| ≤ 1 / 2 := by
  have hlo := Int.floor_le x
  have hhi := Int.lt_floor_add_one x
  have hmod : ⌊x⌋ % 2 = 0 ∨ ⌊x⌋ % 2 = 1 := Int.emod_two_eq_zero_or_one _
  rw [abs_le]
  unfold roundEven
  dsimp only
  split_ifs with h₁ h₂
  · constructor <;> linarith
  · push_cast
    constructor <;> linarith
  · obtain h | h := hmod <;> rw [h] <;> push_cast <;> constructor <;> linarith

@[simp] theorem roundEven_intCast (n : Int) : roundEven (n : R) = n := by
  simp [roundEven]

theorem even_lt_roundEven {k : Int} (hk : k % 2 = 0) {x : R} : k < roundEven x ↔ (k : R) + 1 / 2 < x := by
  have hr := abs_le.mp (abs_roundEven_sub_le x)
  constructor
  · intro h
    by_contra hx
    have h' : (k : R) + 1 ≤ roundEven x := by exact_mod_cast h
    have htie : x = k + 1 / 2 := by linarith
    have hfloor : ⌊x⌋ = k := by
      rw [Int.floor_eq_iff, htie]
      constructor <;> linarith
    rw [roundEven, hfloor, if_neg (by rw [htie]; linarith), if_neg (by rw [htie]; linarith), hk] at h
    omega
  · intro h
    have : (k : R) < roundEven x := by linarith
    exact_mod_cast this

theorem roundEven_lt_even {k : Int} (hk : k % 2 = 0) {x : R} : roundEven x < k ↔ x < (k : R) - 1 / 2 := by
  have hr := abs_le.mp (abs_roundEven_sub_le x)
  constructor
  · intro h
    by_contra hx
    have h' : (roundEven x : R) + 1 ≤ k := by exact_mod_cast h
    have htie : x = k - 1 / 2 := by linarith
    have hfloor : ⌊x⌋ = k - 1 := by
      rw [Int.floor_eq_iff, htie]
      push_cast
      constructor <;> linarith
    rw [roundEven, hfloor] at h
    rw [if_neg (by rw [htie]; push_cast; linarith), if_neg (by rw [htie]; push_cast; linarith)] at h
    omega
  · intro h
    have : (roundEven x : R) < k := by linarith
    exact_mod_cast this

theorem roundEven_mono {x y : R} (h : x ≤ y) : roundEven x ≤ roundEven y := by
  have hx := abs_le.mp (abs_roundEven_sub_le x)
  have hy := abs_le.mp (abs_roundEven_sub_le y)
  by_contra hlt
  have h' : (roundEven y : R) + 1 ≤ roundEven x := by exact_mod_cast not_le.mp hlt
  have hxy : x = y := by linarith
  rw [hxy] at hlt
  exact hlt le_rfl

theorem le_roundEven {n : Int} {x : R} (h : (n : R) ≤ x) : n ≤ roundEven x := by
  simpa using roundEven_mono h

theorem roundEven_le {n : Int} {x : R} (h : x ≤ (n : R)) : roundEven x ≤ n := by
  simpa using roundEven_mono h

theorem roundEven_zero {x : R} (h : |x| ≤ 1 / 2) : roundEven x = 0 := by
  rw [abs_le] at h
  have hlow := (roundEven_lt_even (k := 0) rfl (x := x)).not.mpr (by push_cast; linarith [h.1])
  have hhigh := (even_lt_roundEven (k := 0) rfl (x := x)).not.mpr (by push_cast; linarith [h.2])
  omega

theorem abs_roundDigits_sub_le (digits : Nat) (x : R) : |roundDigits digits x - x| ≤ 1 / 2 / 10 ^ digits := by
  have hp : (0 : R) < 10 ^ digits := by positivity
  have h := abs_roundEven_sub_le (x * 10 ^ digits)
  have hrw : roundDigits digits x - x = ((roundEven (x * 10 ^ digits) : R) - x * 10 ^ digits) / 10 ^ digits := by
    rw [roundDigits]
    field_simp
  rw [hrw, abs_div, abs_of_pos hp]
  gcongr

theorem roundDigits_mono (digits : Nat) {x y : R} (h : x ≤ y) : roundDigits digits x ≤ roundDigits digits y := by
  have hp : (0 : R) < 10 ^ digits := by positivity
  have hle : roundEven (x * 10 ^ digits) ≤ roundEven (y * 10 ^ digits) := roundEven_mono (by gcongr)
  unfold roundDigits
  gcongr

/-- What rounds to an even bound at most is at most half a digit over it. -/
theorem abs_roundDigits_le_even (digits : Nat) {k : Int} (hk : k % 2 = 0) (x : R) :
    |roundDigits digits x| ≤ k / 10 ^ digits ↔ |x| ≤ (k + 1 / 2) / 10 ^ digits := by
  have hscale : (0 : R) < 10 ^ digits := by positivity
  have hupper := (even_lt_roundEven hk (x := x * 10 ^ digits)).not
  have hlower := (roundEven_lt_even (k := -k) (by omega) (x := x * 10 ^ digits)).not
  rw [not_lt, not_lt] at hupper hlower
  have habs : |x| * 10 ^ digits = |x * 10 ^ digits| := by rw [abs_mul, abs_of_pos hscale]
  rw [roundDigits, abs_div, abs_of_pos hscale, div_le_div_iff_of_pos_right hscale, le_div_iff₀ hscale, habs, abs_le, abs_le]
  rw [← Int.cast_neg, Int.cast_le, Int.cast_le, hupper, hlower]
  push_cast
  rw [neg_add']

@[simp] theorem roundDigits_intCast (digits : Nat) (n : Int) : roundDigits digits (n : R) = n := by
  have hp : (10 : R) ^ digits ≠ 0 := by positivity
  have hmul : (n : R) * 10 ^ digits = ((n * 10 ^ digits : Int) : R) := by push_cast; ring
  rw [roundDigits, hmul, roundEven_intCast]
  push_cast
  field_simp

@[simp] theorem roundDigits_zero (digits : Nat) : roundDigits digits (0 : R) = 0 := by
  simpa using roundDigits_intCast (R := R) digits 0

-- Angles

theorem wrapDegrees_mem (x : R) : -180 ≤ wrapDegrees x ∧ wrapDegrees x < 180 := by
  have hlo := Int.floor_le ((x + 180) / 360)
  have hhi := Int.lt_floor_add_one ((x + 180) / 360)
  rw [le_div_iff₀ (by norm_num)] at hlo
  rw [div_lt_iff₀ (by norm_num)] at hhi
  constructor <;> unfold wrapDegrees <;> linarith

theorem wrapDegrees_of_mem {x : R} (h : -180 ≤ x ∧ x < 180) : wrapDegrees x = x := by
  have hfloor : ⌊(x + 180) / 360⌋ = 0 := by
    rw [Int.floor_eq_iff, le_div_iff₀ (by norm_num), div_lt_iff₀ (by norm_num)]
    push_cast
    constructor <;> linarith
  rw [wrapDegrees, hfloor]
  push_cast
  ring

theorem wrapDegrees_add_turns (x : R) (n : Int) : wrapDegrees (x + 360 * n) = wrapDegrees x := by
  have harg : (x + 360 * n + 180) / 360 = (x + 180) / 360 + n := by field_simp; ring
  rw [wrapDegrees, wrapDegrees, harg, Int.floor_add_intCast]
  push_cast
  ring

@[simp] theorem wrapDegrees_wrapDegrees (x : R) : wrapDegrees (wrapDegrees x) = wrapDegrees x :=
  wrapDegrees_of_mem (wrapDegrees_mem x)

@[simp] theorem wrapDegrees_zero : wrapDegrees (0 : R) = 0 := wrapDegrees_of_mem (by norm_num)

/-- An angle that was rounded may reach the other end of the circle. -/
theorem roundDigits_wrapDegrees_mem (digits : Nat) (x : R) :
    -180 ≤ roundDigits digits (wrapDegrees x) ∧ roundDigits digits (wrapDegrees x) ≤ 180 := by
  have hx := wrapDegrees_mem x
  have hlo := roundDigits_mono digits (show ((-180 : Int) : R) ≤ wrapDegrees x by push_cast; exact hx.1)
  have hhi := roundDigits_mono digits (show wrapDegrees x ≤ ((180 : Int) : R) by push_cast; exact hx.2.le)
  rw [roundDigits_intCast] at hlo hhi
  push_cast at hlo hhi
  exact ⟨hlo, hhi⟩

end RobotLlm.Lib
