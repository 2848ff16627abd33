import Mathlib.Order.Bounds.Basic

/-!
# Bisection

The largest number up to a bound that fits, found by halving, where whatever
is below a number that fits does too.
-/

namespace RobotLlm.Lib

/-- `low` fits and nothing above `high` is asked for. -/
def bisect (fits : Nat → Bool) (low high : Nat) : Nat :=
  if low < high then
    let middle := (low + high + 1) / 2
    if fits middle then bisect fits middle high else bisect fits low (middle - 1)
  else low
termination_by high - low
decreasing_by all_goals omega

variable {fits : Nat → Bool} {low high : Nat}

theorem bisect_isGreatest (hmono : ∀ m n, m ≤ n → fits n = true → fits m = true) (hle : low ≤ high) (hlow : fits low = true) :
    IsGreatest {n | n ≤ high ∧ fits n = true} (bisect fits low high) := by
  fun_induction bisect fits low high with
  | case1 low high hlt middle hfits ih =>
    exact ih (by omega) hfits
  | case2 low high hlt middle hfits ih =>
    obtain ⟨⟨hbound, hgreatest⟩, hmax⟩ := ih (by omega) hlow
    refine ⟨⟨by omega, hgreatest⟩, fun n hn => ?_⟩
    -- what is above the middle would make the middle fit
    have hn' : n ≤ middle - 1 := by
      by_contra hgt
      exact hfits (hmono middle n (by omega) hn.2)
    exact hmax ⟨hn', hn.2⟩
  | case3 low high hge =>
    exact ⟨⟨hle, hlow⟩, fun n hn => by have := hn.1; omega⟩

end RobotLlm.Lib
