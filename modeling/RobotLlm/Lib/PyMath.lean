import Mathlib.Algebra.Order.Ring.Int
import Mathlib.Data.List.Basic

/-!
# Floating-point arithmetic, left open

The numbers of a host and the functions of its mathematics library, as far as a
program uses them. What holds for every choice of them holds for the host's.
-/

namespace RobotLlm.Lib

class PyMath (F : Type) where
  ofInt : Int → F
  /-- `1e-9`. -/
  nano : F
  sub : F → F → F
  mul : F → F → F
  div : F → F → F
  min : F → F → F
  radians : F → F
  degrees : F → F
  cos : F → F
  sin : F → F
  asin : F → F
  atan2 : F → F → F
  hypot : F → F → F
  /-- `int(round(x))` and `int(math.ceil(x))`. -/
  round : F → Int
  ceil : F → Int
  le : F → F → Bool
  lt : F → F → Bool

/-- What is documented of them and used: `math.hypot(0, 0)` is zero, and zero is
at most any positive integer. -/
class LawfulPyMath (F : Type) [PyMath F] : Prop where
  hypot_zero_le : ∀ n : Int, 0 < n → PyMath.le (PyMath.hypot (PyMath.ofInt 0) (PyMath.ofInt 0)) (PyMath.ofInt n : F) = true

/-- Floats as values: where they come from, and what raises. -/
class PyFloat (F : Type) extends PyMath F where
  add : F → F → F
  neg : F → F
  /-- The float a JSON number with a fraction or an exponent stands for. -/
  ofText : String → F
  /-- `float(n)`; `none` where it raises `OverflowError`. -/
  ofInt? : Int → Option F
  isFinite : F → Bool
  /-- `%` of floats. -/
  fmod : F → F → F
  /-- `round(x)`; `none` where it raises, at an infinity or a NaN. -/
  round? : F → Option Int

end RobotLlm.Lib
