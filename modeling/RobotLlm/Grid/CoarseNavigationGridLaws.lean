import Mathlib.Order.ConditionallyCompleteLattice.Basic
import RobotLlm.Grid.CoarseNavigationGrid
import RobotLlm.Lib.Leg
import RobotLlm.Lib.RealTrig

/-!
# What blocks a route

A leg is blocked by the echoes whose circle it enters while it comes closer to them.
The guard reports the first such leg and, of its echoes, one whose circle it enters
first. A cell of the grid is kept out exactly when the guard would stop a leg at its
centre, but for the cells that lie on a circle itself.
-/

namespace RobotLlm.Grid

open RobotLlm.Lib
open RobotLlm.Lib.Leg (distSq point ratio offsetSq Approaches)

-- The least of some keys

section
variable {K E : Type} [LinearOrder K]

def LeastOf (keyOf : E → Option K) (items : List E) : Option K → Prop
  | none => ∀ item ∈ items, keyOf item = none
  | some key => (∃ item ∈ items, keyOf item = some key) ∧ ∀ item ∈ items, ∀ other, keyOf item = some other → key ≤ other

theorem LeastOf.skip {keyOf : E → Option K} {items : List E} {item : E} {least : Option K}
    (h : LeastOf keyOf items least) (hkey : keyOf item = none) : LeastOf keyOf (items ++ [item]) least := by
  cases least with
  | none =>
    intro other hother
    rw [List.mem_append, List.mem_singleton] at hother
    obtain hother | rfl := hother
    · exact h other hother
    · exact hkey
  | some best =>
    obtain ⟨⟨first, hfirst, hbest⟩, hleast⟩ := h
    refine ⟨⟨first, List.mem_append_left _ hfirst, hbest⟩, ?_⟩
    intro other hother key hother'
    rw [List.mem_append, List.mem_singleton] at hother
    obtain hother | rfl := hother
    · exact hleast other hother key hother'
    · rw [hkey] at hother'
      cases hother'

theorem LeastOf.take {keyOf : E → Option K} {items : List E} {item : E} {least : Option K} {key : K}
    (h : LeastOf keyOf items least) (hkey : keyOf item = some key) (hless : ∀ best, least = some best → key ≤ best) :
    LeastOf keyOf (items ++ [item]) (some key) := by
  refine ⟨⟨item, List.mem_append_right _ (List.mem_singleton_self _), hkey⟩, ?_⟩
  intro other hother key' hkey'
  rw [List.mem_append, List.mem_singleton] at hother
  obtain hother | rfl := hother
  · cases least with
    | none =>
      rw [h other hother] at hkey'
      cases hkey'
    | some best => exact (hless best rfl).trans (h.2 other hother key' hkey')
  · rw [hkey] at hkey'
    exact (Option.some.inj hkey').le

theorem LeastOf.keep {keyOf : E → Option K} {items : List E} {item : E} {best key : K}
    (h : LeastOf keyOf items (some best)) (hkey : keyOf item = some key) (hle : best ≤ key) :
    LeastOf keyOf (items ++ [item]) (some best) := by
  obtain ⟨⟨first, hfirst, hbest⟩, hleast⟩ := h
  refine ⟨⟨first, List.mem_append_left _ hfirst, hbest⟩, ?_⟩
  intro other hother key' hkey'
  rw [List.mem_append, List.mem_singleton] at hother
  obtain hother | rfl := hother
  · exact hleast other hother key' hkey'
  · rw [hkey] at hkey'
    exact hle.trans (Option.some.inj hkey').le

end

variable {clearanceMm : Int} {previous waypoint start echo : ℝ × ℝ} {possibleObstacles : List (ℝ × ℝ)}

theorem nearestBlockage_leastOf : LeastOf (echoKey clearanceMm previous waypoint) possibleObstacles
    (nearestBlockage clearanceMm previous waypoint possibleObstacles) := by
  unfold nearestBlockage
  induction possibleObstacles using List.reverseRecOn with
  | nil => exact fun _ h => absurd h List.not_mem_nil
  | append_singleton echoes echo ih =>
    rw [List.foldl_append, List.foldl_cons, List.foldl_nil]
    generalize echoes.foldl _ none = nearest at ih ⊢
    cases hkey : echoKey clearanceMm previous waypoint echo with
    | none => exact ih.skip hkey
    | some key =>
      cases nearest with
      | none => exact ih.take hkey (by simp)
      | some best =>
        dsimp only [nearer]
        split_ifs with hlt
        · exact ih.take hkey fun other hother => Option.some.inj hother ▸ hlt.le
        · exact ih.keep hkey (not_lt.mp hlt)

-- One echo and one leg

/-- The guard's circle around an echo is entered by the leg. -/
def Blocks (clearanceMm : Int) (leg : (ℝ × ℝ) × ℝ × ℝ) (echo : ℝ × ℝ) : Prop :=
  Approaches ((clearanceMm : ℝ) ^ 2) leg.1 leg.2 echo

/-- Where along the leg its first points inside of the circle are. -/
noncomputable def entry (clearanceMm : Int) (leg : (ℝ × ℝ) × ℝ × ℝ) (echo : ℝ × ℝ) : ℝ :=
  sInf {t | 0 ≤ t ∧ t ≤ 1 ∧ distSq (point leg.1 leg.2 t) echo < (clearanceMm : ℝ) ^ 2}

noncomputable def entryKey (clearanceMm : Int) (leg : (ℝ × ℝ) × ℝ × ℝ) (echo : ℝ × ℝ) : BlockageKey ℝ :=
  toLex (entry clearanceMm leg echo, toLex (roundEven echo.1, roundEven echo.2))

theorem lengthSquared_eq : (waypoint.1 - previous.1) * (waypoint.1 - previous.1) +
    (waypoint.2 - previous.2) * (waypoint.2 - previous.2) = distSq waypoint previous := by
  unfold distSq
  ring

theorem entry_eq (hlength : distSq waypoint previous ≠ 0) (h : Blocks clearanceMm (previous, waypoint) echo) :
    entry clearanceMm (previous, waypoint) echo = max 0 (ratio previous waypoint echo -
      √(max 0 (((clearanceMm : ℝ) ^ 2 - offsetSq previous waypoint echo) / distSq waypoint previous))) := by
  obtain ⟨hpos, hin⟩ := (Leg.approaches_iff hlength).mp h
  have hoffset : offsetSq previous waypoint echo ≤ (clearanceMm : ℝ) ^ 2 := by
    rw [Leg.distSq_point hlength] at hin
    have := mul_nonneg (Leg.distSq_pos hlength).le (sq_nonneg (min 1 (ratio previous waypoint echo) - ratio previous waypoint echo))
    linarith
  have hchord : 0 ≤ ((clearanceMm : ℝ) ^ 2 - offsetSq previous waypoint echo) / distSq waypoint previous :=
    div_nonneg (sub_nonneg.mpr hoffset) (Leg.distSq_pos hlength).le
  rw [max_eq_right hchord]
  have hglb := Leg.entry_isGLB hlength hpos (Real.sqrt_nonneg _) (Real.sq_sqrt hchord) hin
  exact hglb.csInf_eq ⟨_, le_min zero_le_one hpos.le, min_le_left _ _, hin⟩

theorem entry_le_one (hlength : distSq waypoint previous ≠ 0) (h : Blocks clearanceMm (previous, waypoint) echo) :
    entry clearanceMm (previous, waypoint) echo ≤ 1 := by
  obtain ⟨hpos, hin⟩ := (Leg.approaches_iff hlength).mp h
  have hbelow : BddBelow {t | 0 ≤ t ∧ t ≤ 1 ∧ distSq (point previous waypoint t) echo < (clearanceMm : ℝ) ^ 2} :=
    ⟨0, fun t ht => ht.1⟩
  exact (csInf_le hbelow ⟨le_min zero_le_one hpos.le, min_le_left _ _, hin⟩).trans (min_le_left _ _)

theorem echoKey_eq (hlength : distSq waypoint previous ≠ 0) :
    (Blocks clearanceMm (previous, waypoint) echo →
      echoKey clearanceMm previous waypoint echo = some (entryKey clearanceMm (previous, waypoint) echo)) ∧
    (¬ Blocks clearanceMm (previous, waypoint) echo → echoKey clearanceMm previous waypoint echo = none) := by
  have hswap : ∀ x y : ℝ × ℝ, (x.1 - y.1) ^ 2 + (x.2 - y.2) ^ 2 = distSq y x := fun x y => by
    unfold distSq
    ring
  have hclosest : distSq (point previous waypoint (min 1 (ratio previous waypoint echo))) echo =
      (echo.1 - (previous.1 + (waypoint.1 - previous.1) * min 1 (ratio previous waypoint echo))) ^ 2 +
      (echo.2 - (previous.2 + (waypoint.2 - previous.2) * min 1 (ratio previous waypoint echo))) ^ 2 := by
    simp only [distSq, point]
    ring
  unfold echoKey
  simp only [lengthSquared_eq]
  rw [show ((echo.1 - previous.1) * (waypoint.1 - previous.1) + (echo.2 - previous.2) * (waypoint.2 - previous.2)) /
    distSq waypoint previous = ratio previous waypoint echo from rfl, hswap echo previous, ← hclosest,
    show distSq previous echo - ratio previous waypoint echo ^ 2 * distSq waypoint previous =
      offsetSq previous waypoint echo from rfl, max_eq_right (Leg.offsetSq_nonneg hlength)]
  constructor
  · intro h
    obtain ⟨hpos, hin⟩ := (Leg.approaches_iff hlength).mp h
    have hentry := entry_eq hlength h
    have hone := entry_le_one hlength h
    rw [hentry] at hone
    rw [if_neg (not_le.mpr hpos), if_neg (not_le.mpr hin), entryKey, hentry]
    exact if_neg (not_lt.mpr hone)
  · intro h
    obtain hpos | hpos := le_or_gt (ratio previous waypoint echo) 0
    · rw [if_pos hpos]
    · rw [if_neg (not_le.mpr hpos), if_pos]
      by_contra hin
      exact h ((Leg.approaches_iff hlength).mpr ⟨hpos, not_le.mp hin⟩)

-- The legs in turn

def legs (start : ℝ × ℝ) (waypoints : List (ℝ × ℝ)) : List ((ℝ × ℝ) × ℝ × ℝ) := (start :: waypoints).zip waypoints

def Clear (clearanceMm : Int) (possibleObstacles : List (ℝ × ℝ)) (leg : (ℝ × ℝ) × ℝ × ℝ) : Prop :=
  ∀ echo ∈ possibleObstacles, ¬ Blocks clearanceMm leg echo

/-- What the guard reports of a leg: one of the echoes that block it, with the least key. -/
def Reports (clearanceMm : Int) (possibleObstacles : List (ℝ × ℝ)) (leg : (ℝ × ℝ) × ℝ × ℝ) (reported : Int × Int) : Prop :=
  ∃ echo ∈ possibleObstacles, Blocks clearanceMm leg echo ∧ reported = (roundEven echo.1, roundEven echo.2) ∧
    ∀ other ∈ possibleObstacles, Blocks clearanceMm leg other → entryKey clearanceMm leg echo ≤ entryKey clearanceMm leg other

def LegVerdict (clearanceMm : Int) (possibleObstacles : List (ℝ × ℝ)) (leg : (ℝ × ℝ) × ℝ × ℝ) :
    Option (BlockageKey ℝ) → Prop
  | none => Clear clearanceMm possibleObstacles leg
  | some key => Reports clearanceMm possibleObstacles leg (ofLex (ofLex key).2)

theorem nearestBlockage_verdict (hlength : distSq waypoint previous ≠ 0) :
    LegVerdict clearanceMm possibleObstacles (previous, waypoint)
      (nearestBlockage clearanceMm previous waypoint possibleObstacles) := by
  have hleast : LeastOf (echoKey clearanceMm previous waypoint) possibleObstacles _ := nearestBlockage_leastOf
  cases hnearest : nearestBlockage clearanceMm previous waypoint possibleObstacles with
  | none =>
    rw [hnearest] at hleast
    intro echo hecho hblocks
    have := hleast echo hecho
    rw [(echoKey_eq hlength).1 hblocks] at this
    cases this
  | some key =>
    rw [hnearest] at hleast
    obtain ⟨⟨echo, hecho, hkey⟩, hmin⟩ := hleast
    by_cases hblocks : Blocks clearanceMm (previous, waypoint) echo
    · rw [(echoKey_eq hlength).1 hblocks] at hkey
      obtain rfl := Option.some.inj hkey
      exact ⟨echo, hecho, hblocks, rfl, fun other hother h => hmin other hother _ ((echoKey_eq hlength).1 h)⟩
    · rw [(echoKey_eq hlength).2 hblocks] at hkey
      cases hkey

theorem clear_of_still (hlength : distSq waypoint previous = 0) : Clear clearanceMm possibleObstacles (previous, waypoint) :=
  fun _ _ => Leg.not_approaches_of_still hlength

/-- What the guard finds on legs that are counted from `legIndex`. -/
def RouteVerdict (clearanceMm : Int) (possibleObstacles : List (ℝ × ℝ)) (legIndex : Nat)
    (route : List ((ℝ × ℝ) × ℝ × ℝ)) : Option RouteBlockage → Prop
  | none => ∀ leg ∈ route, Clear clearanceMm possibleObstacles leg
  | some blockage => ∃ before leg after, route = before ++ leg :: after ∧ blockage.legIndex = legIndex + before.length ∧
      (∀ earlier ∈ before, Clear clearanceMm possibleObstacles earlier) ∧
      Reports clearanceMm possibleObstacles leg blockage.blockingEchoPoint

theorem RouteVerdict.cons {legIndex : Nat} {leg : (ℝ × ℝ) × ℝ × ℝ} {route : List ((ℝ × ℝ) × ℝ × ℝ)}
    {verdict : Option RouteBlockage} (hclear : Clear clearanceMm possibleObstacles leg)
    (h : RouteVerdict clearanceMm possibleObstacles (legIndex + 1) route verdict) :
    RouteVerdict clearanceMm possibleObstacles legIndex (leg :: route) verdict := by
  cases verdict with
  | none => exact List.forall_mem_cons.mpr ⟨hclear, h⟩
  | some blockage =>
    obtain ⟨before, blocked, after, rfl, hindex, hbefore, hreports⟩ := h
    refine ⟨leg :: before, blocked, after, rfl, ?_, List.forall_mem_cons.mpr ⟨hclear, hbefore⟩, hreports⟩
    rw [hindex, List.length_cons]
    omega

theorem blockageFrom_verdict (clearanceMm : Int) (possibleObstacles waypoints : List (ℝ × ℝ)) :
    ∀ (legIndex : Nat) (start : ℝ × ℝ),
    RouteVerdict clearanceMm possibleObstacles legIndex (legs start waypoints)
      (blockageFrom clearanceMm possibleObstacles legIndex start waypoints) := by
  induction waypoints with
  | nil =>
    intro legIndex start leg hleg
    cases hleg
  | cons waypoint rest ih =>
    intro legIndex start
    have hlegs : legs start (waypoint :: rest) = (start, waypoint) :: legs waypoint rest := rfl
    rw [hlegs]
    unfold blockageFrom
    simp only [lengthSquared_eq]
    split_ifs with hlength
    · exact (ih (legIndex + 1) waypoint).cons (clear_of_still hlength)
    · have hverdict : LegVerdict clearanceMm possibleObstacles (start, waypoint) _ := nearestBlockage_verdict hlength
      cases hnearest : nearestBlockage clearanceMm start waypoint possibleObstacles with
      | none =>
        rw [hnearest] at hverdict
        exact (ih (legIndex + 1) waypoint).cons hverdict
      | some key =>
        rw [hnearest] at hverdict
        exact ⟨[], _, _, rfl, rfl, by simp, hverdict⟩

/-- The guard passes exactly the routes whose legs are clear. Of any other route it names the first
leg that is not, and an echo whose circle that leg enters first. -/
theorem routeBlockage_first (start : ℝ × ℝ) (waypoints possibleObstacles : List (ℝ × ℝ)) (clearanceMm : Int)
    (hclearance : 0 < clearanceMm) :
    (routeBlockageFromEchoes start waypoints possibleObstacles clearanceMm = .ok none ↔
      ∀ leg ∈ legs start waypoints, Clear clearanceMm possibleObstacles leg) ∧
    ((¬ ∀ leg ∈ legs start waypoints, Clear clearanceMm possibleObstacles leg) →
      ∃ blockage before leg after,
        routeBlockageFromEchoes start waypoints possibleObstacles clearanceMm = .ok (some blockage) ∧
        legs start waypoints = before ++ leg :: after ∧ blockage.legIndex = before.length + 1 ∧
        (∀ earlier ∈ before, Clear clearanceMm possibleObstacles earlier) ∧ ¬ Clear clearanceMm possibleObstacles leg ∧
        Reports clearanceMm possibleObstacles leg blockage.blockingEchoPoint) := by
  have hspec := blockageFrom_verdict clearanceMm possibleObstacles waypoints 1 start
  rw [routeBlockageFromEchoes, if_neg (not_le.mpr hclearance)]
  cases hfrom : blockageFrom clearanceMm possibleObstacles 1 start waypoints with
  | none =>
    rw [hfrom] at hspec
    exact ⟨iff_of_true rfl hspec, fun hnot => absurd hspec hnot⟩
  | some blockage =>
    rw [hfrom] at hspec
    obtain ⟨before, leg, after, hsplit, hindex, hbefore, hreports⟩ := hspec
    have hblocked : ¬ Clear clearanceMm possibleObstacles leg := by
      obtain ⟨echo, hecho, hblocks, -⟩ := hreports
      exact fun hclear => hclear echo hecho hblocks
    have hleg : leg ∈ legs start waypoints := by rw [hsplit]; simp
    refine ⟨iff_of_false ?_ fun hall => hblocked (hall leg hleg), fun _ =>
      ⟨blockage, before, leg, after, rfl, hsplit, by rw [hindex, Nat.add_comm], hbefore, hblocked, hreports⟩⟩
    intro h
    cases h

theorem routeBlockage_first_ahead :
    (routeBlockageFromEchoes ((0 : ℝ), 0) [(300, 0)] [(150, 0)] routeClearanceMm = .ok none ↔
      ∀ leg ∈ legs (0, 0) [(300, 0)], Clear routeClearanceMm [(150, 0)] leg) ∧
    ((¬ ∀ leg ∈ legs (0, 0) [(300, 0)], Clear routeClearanceMm [(150, 0)] leg) →
      ∃ blockage before leg after,
        routeBlockageFromEchoes ((0 : ℝ), 0) [(300, 0)] [(150, 0)] routeClearanceMm = .ok (some blockage) ∧
        legs (0, 0) [(300, 0)] = before ++ leg :: after ∧ blockage.legIndex = before.length + 1 ∧
        (∀ earlier ∈ before, Clear routeClearanceMm [(150, 0)] earlier) ∧ ¬ Clear routeClearanceMm [(150, 0)] leg ∧
        Reports routeClearanceMm [(150, 0)] leg blockage.blockingEchoPoint) :=
  routeBlockage_first (0, 0) [(300, 0)] [(150, 0)] routeClearanceMm (by decide)

-- A whole route

/-- The nearest that a route may come to an echo: its circle, or where the route starts. -/
noncomputable def allowance (clearanceMm : Int) (start echo : ℝ × ℝ) : ℝ := min ((clearanceMm : ℝ) ^ 2) (distSq start echo)

theorem Clear.keeps {nearest : ℝ} (h : Clear clearanceMm possibleObstacles (previous, waypoint)) (hecho : echo ∈ possibleObstacles)
    (hcircle : nearest ≤ (clearanceMm : ℝ) ^ 2) (hstart : nearest ≤ distSq previous echo) {t : ℝ} (h₀ : 0 ≤ t) (h₁ : t ≤ 1) :
    nearest ≤ distSq (point previous waypoint t) echo := by
  by_contra hlt
  rw [not_le] at hlt
  exact h echo hecho ⟨t, h₀, h₁, hlt.trans_le hcircle, hlt.trans_le hstart⟩

theorem clear_route_keeps {nearest : ℝ} (waypoints : List (ℝ × ℝ)) (hecho : echo ∈ possibleObstacles)
    (hcircle : nearest ≤ (clearanceMm : ℝ) ^ 2) : ∀ start : ℝ × ℝ, nearest ≤ distSq start echo →
    (∀ leg ∈ legs start waypoints, Clear clearanceMm possibleObstacles leg) →
    ∀ leg ∈ legs start waypoints, ∀ t, 0 ≤ t → t ≤ 1 → nearest ≤ distSq (point leg.1 leg.2 t) echo := by
  induction waypoints with
  | nil =>
    intro start _ _ leg hleg
    cases hleg
  | cons waypoint rest ih =>
    intro start hstart hclear
    have hlegs : legs start (waypoint :: rest) = (start, waypoint) :: legs waypoint rest := rfl
    rw [hlegs, List.forall_mem_cons] at hclear ⊢
    have hfirst : ∀ t, 0 ≤ t → t ≤ 1 → nearest ≤ distSq (point start waypoint t) echo :=
      fun t => hclear.1.keeps hecho hcircle hstart
    -- The next leg starts where this one ends.
    have hend := hfirst 1 zero_le_one le_rfl
    rw [Leg.point_one] at hend
    exact ⟨hfirst, ih waypoint hend hclear.2⟩

/-- No point of a route that passes is nearer to an echo than both the clearance and the start. -/
theorem passed_route_keeps (start : ℝ × ℝ) (waypoints possibleObstacles : List (ℝ × ℝ)) (clearanceMm : Int)
    (hpass : routeBlockageFromEchoes start waypoints possibleObstacles clearanceMm = .ok none) :
    ∀ leg ∈ legs start waypoints, ∀ t, 0 ≤ t → t ≤ 1 → ∀ echo ∈ possibleObstacles,
      allowance clearanceMm start echo ≤ distSq (point leg.1 leg.2 t) echo := by
  intro leg hleg t h₀ h₁ echo hecho
  have hclear : ∀ leg ∈ legs start waypoints, Clear clearanceMm possibleObstacles leg := by
    have hspec := blockageFrom_verdict clearanceMm possibleObstacles waypoints 1 start
    rw [routeBlockageFromEchoes] at hpass
    split_ifs at hpass with hclearance
    rw [Except.ok.inj hpass] at hspec
    exact hspec
  exact clear_route_keeps waypoints hecho (min_le_left _ _) start (min_le_right _ _) hclear leg hleg t h₀ h₁

theorem passed_route_keeps_aside : routeBlockageFromEchoes ((0 : ℝ), 0) [(300, 0), (300, 300)] [(600, 0)] routeClearanceMm = .ok none ∧
    ∀ leg ∈ legs ((0 : ℝ), 0) [(300, 0), (300, 300)], ∀ t, 0 ≤ t → t ≤ 1 → ∀ echo ∈ [((600 : ℝ), (0 : ℝ))],
      allowance routeClearanceMm (0, 0) echo ≤ distSq (point leg.1 leg.2 t) echo := by
  have hfirst : echoKey routeClearanceMm ((0 : ℝ), 0) (300, 0) (600, 0) = none := by
    norm_num [echoKey, routeClearanceMm]
  have hsecond : echoKey routeClearanceMm ((300 : ℝ), 0) (300, 300) (600, 0) = none := by
    norm_num [echoKey, routeClearanceMm]
  have hpass : routeBlockageFromEchoes ((0 : ℝ), 0) [(300, 0), (300, 300)] [(600, 0)] routeClearanceMm = .ok none := by
    rw [routeBlockageFromEchoes, if_neg (by decide)]
    norm_num [blockageFrom, nearestBlockage, hfirst, hsecond]
  exact ⟨hpass, passed_route_keeps _ _ _ _ hpass⟩

-- The routes of the model

/-- The leg leaves both axes of the grid by more than the tolerance. -/
def Diagonal (leg : (ℝ × ℝ) × ℝ × ℝ) : Prop :=
  (modelRouteAxisToleranceMm : ℝ) < |leg.2.1 - leg.1.1| ∧ (modelRouteAxisToleranceMm : ℝ) < |leg.2.2 - leg.1.2|

/-- What the loop over legs that are counted from `legIndex` finds: the first diagonal one. -/
def DiagonalVerdict (legIndex : Nat) (route : List ((ℝ × ℝ) × ℝ × ℝ)) : Option DiagonalLeg → Prop
  | none => ∀ leg ∈ route, ¬ Diagonal leg
  | some found => ∃ before leg after, route = before ++ leg :: after ∧ (∀ earlier ∈ before, ¬ Diagonal earlier) ∧ Diagonal leg ∧
      found = { legIndex := legIndex + before.length, deltaXMm := roundEven (leg.2.1 - leg.1.1),
                deltaYMm := roundEven (leg.2.2 - leg.1.2) }

theorem diagonalFrom_verdict (waypoints : List (ℝ × ℝ)) : ∀ (legIndex : Nat) (start : ℝ × ℝ),
    DiagonalVerdict legIndex (legs start waypoints) (diagonalFrom legIndex start waypoints) := by
  induction waypoints with
  | nil =>
    intro legIndex start leg hleg
    cases hleg
  | cons waypoint rest ih =>
    intro legIndex start
    have hlegs : legs start (waypoint :: rest) = (start, waypoint) :: legs waypoint rest := rfl
    have hrest := ih (legIndex + 1) waypoint
    rw [hlegs]
    unfold diagonalFrom
    dsimp only
    split_ifs with hdiagonal
    · exact ⟨[], _, _, rfl, by simp, hdiagonal, rfl⟩
    · cases hfound : diagonalFrom (legIndex + 1) waypoint rest with
      | none =>
        rw [hfound] at hrest
        exact List.forall_mem_cons.mpr ⟨hdiagonal, hrest⟩
      | some found =>
        rw [hfound] at hrest
        obtain ⟨before, leg, after, hsplit, hbefore, hleg, rfl⟩ := hrest
        refine ⟨(start, waypoint) :: before, leg, after, by rw [hsplit]; rfl, List.forall_mem_cons.mpr ⟨hdiagonal, hbefore⟩, hleg, ?_⟩
        rw [List.length_cons, Nat.add_right_comm, Nat.add_assoc]

/-- What a route of the model is told. No two of the three can be said of one route. -/
def ModelVerdict (possibleObstacles : List (ℝ × ℝ)) (route : List ((ℝ × ℝ) × ℝ × ℝ)) : Option ModelRouteBlockage → Prop
  | none => ∀ leg ∈ route, ¬ Diagonal leg ∧ Clear routeClearanceMm possibleObstacles leg
  | some (.diagonal found) => DiagonalVerdict 1 route (some found)
  | some (.echo blockage) =>
    (∀ leg ∈ route, ¬ Diagonal leg) ∧ RouteVerdict routeClearanceMm possibleObstacles 1 route (some blockage)

/-- The first diagonal leg is reported before any echo is looked at, wherever on the route the echoes are;
a route without one gets the guard's verdict. -/
theorem modelRouteBlockage_verdict (start : ℝ × ℝ) (waypoints possibleObstacles : List (ℝ × ℝ)) :
    ∃ verdict, modelRouteBlockage start waypoints possibleObstacles = .ok verdict ∧
      ModelVerdict possibleObstacles (legs start waypoints) verdict := by
  have hdiagonal := diagonalFrom_verdict waypoints 1 start
  have hguard := blockageFrom_verdict routeClearanceMm possibleObstacles waypoints 1 start
  unfold modelRouteBlockage
  cases hfound : diagonalFrom 1 start waypoints with
  | some found =>
    rw [hfound] at hdiagonal
    exact ⟨_, rfl, hdiagonal⟩
  | none =>
    rw [hfound] at hdiagonal
    rw [routeBlockageFromEchoes, if_neg (by decide)]
    refine ⟨_, rfl, ?_⟩
    cases hfrom : blockageFrom routeClearanceMm possibleObstacles 1 start waypoints with
    | none =>
      rw [hfrom] at hguard
      exact fun leg hleg => ⟨hdiagonal leg hleg, hguard leg hleg⟩
    | some blockage =>
      rw [hfrom] at hguard
      exact ⟨hdiagonal, hguard⟩

-- The cells that are kept out

theorem mem_spread {reach k : Int} (h : 0 ≤ reach) : k ∈ spread reach ↔ -reach ≤ k ∧ k ≤ reach := by
  rw [spread, List.mem_map]
  constructor
  · rintro ⟨n, hn, rfl⟩
    rw [List.mem_range] at hn
    omega
  · rintro ⟨h₁, h₂⟩
    refine ⟨(k + reach).toNat, ?_, by omega⟩
    rw [List.mem_range]
    omega

theorem reach_covers {index : Int} {value : ℝ} (h : |((index * gridCellSizeMm : Int) : ℝ) - value| ≤ (routeClearanceMm : ℝ)) :
    -indexReach ≤ index - nearestCell value ∧ index - nearestCell value ≤ indexReach := by
  have hreach : indexReach = 2 := by decide
  have hlo := Int.floor_le (value / (gridCellSizeMm : ℝ) + 1 / 2)
  have hhi := Int.lt_floor_add_one (value / (gridCellSizeMm : ℝ) + 1 / 2)
  rw [← nearestCell] at hlo hhi
  unfold routeClearanceMm gridCellSizeMm at *
  push_cast at h hlo hhi
  rw [abs_le] at h
  have hlow : (nearestCell value : ℝ) - 2 < index := by linarith [h.1]
  have hhigh : (index : ℝ) < nearestCell value + 2 := by linarith [h.2]
  rw [hreach]
  constructor
  · have : nearestCell value - 2 < index := by exact_mod_cast hlow
    omega
  · have : index < nearestCell value + 2 := by exact_mod_cast hhigh
    omega

theorem mem_keepOutCellIndexes {cell : Int × Int} :
    cell ∈ keepOutCellIndexes possibleObstacles ↔
      ∃ echo ∈ possibleObstacles, distSq (cellCentre cell) echo ≤ (routeClearanceMm : ℝ) ^ 2 := by
  have hbound : (0 : ℝ) ≤ (routeClearanceMm : ℝ) := by
    rw [routeClearanceMm]
    norm_num
  rw [keepOutCellIndexes, List.mem_flatMap]
  refine exists_congr fun echo => and_congr_right fun _ => ?_
  rw [List.mem_filter, decide_eq_true_iff, hypot_le_iff hbound, ← distSq]
  refine and_iff_right_of_imp fun hnear => ?_
  have hx : |(cellCentre (R := ℝ) cell).1 - echo.1| ≤ (routeClearanceMm : ℝ) :=
    abs_le_of_sq_le_sq ((le_add_of_nonneg_right (sq_nonneg _)).trans hnear) hbound
  have hy : |(cellCentre (R := ℝ) cell).2 - echo.2| ≤ (routeClearanceMm : ℝ) :=
    abs_le_of_sq_le_sq ((le_add_of_nonneg_left (sq_nonneg _)).trans hnear) hbound
  have hreach : (0 : Int) ≤ indexReach := by decide
  rw [List.mem_flatMap]
  refine ⟨cell.1 - nearestCell echo.1, (mem_spread hreach).mpr (reach_covers hx), ?_⟩
  rw [List.mem_map]
  exact ⟨cell.2 - nearestCell echo.2, (mem_spread hreach).mpr (reach_covers hy), by simp⟩

/-- The distance of the centre from the echo is one that the guard blocks: it stops, with this echo alone,
a leg that starts outside of the circle and comes no closer to the echo than the centre where it ends. -/
def EndBlocked (centre echo : ℝ × ℝ) : Prop :=
  ∃ start, (routeClearanceMm : ℝ) ^ 2 < distSq start echo ∧
    (∀ t, 0 ≤ t → t ≤ 1 → distSq centre echo ≤ distSq (point start centre t) echo) ∧
    ∃ blockage, routeBlockageFromEchoes start [centre] [echo] = .ok (some blockage)

theorem stopped_iff {centre : ℝ × ℝ} :
    (∃ blockage, routeBlockageFromEchoes start [centre] [echo] = .ok (some blockage)) ↔
      Blocks routeClearanceMm (start, centre) echo := by
  have hspec := blockageFrom_verdict routeClearanceMm [echo] [centre] 1 start
  have hlegs : legs start [centre] = [(start, centre)] := rfl
  rw [hlegs] at hspec
  rw [routeBlockageFromEchoes, if_neg (by decide)]
  cases hfrom : blockageFrom routeClearanceMm [echo] 1 start [centre] with
  | none =>
    rw [hfrom] at hspec
    refine iff_of_false ?_ (hspec _ (List.mem_singleton_self _) echo (List.mem_singleton_self _))
    rintro ⟨blockage, h⟩
    cases h
  | some blockage =>
    rw [hfrom] at hspec
    obtain ⟨before, leg, after, hsplit, -, -, other, hother, hblocks, -⟩ := hspec
    rw [List.mem_singleton.mp hother] at hblocks
    have hleg : leg ∈ [(start, centre)] := by rw [hsplit]; simp
    rw [List.mem_singleton.mp hleg] at hblocks
    exact iff_of_true ⟨blockage, rfl⟩ hblocks

theorem exists_outside (centre echo : ℝ × ℝ) {c : ℝ} (hc : 0 < c) :
    ∃ start, c < distSq start echo ∧ ∀ t, 0 ≤ t → t ≤ 1 → distSq centre echo ≤ distSq (point start centre t) echo := by
  obtain hsame | hd := (Leg.distSq_nonneg centre echo).eq_or_lt
  · refine ⟨(echo.1 + c + 1, echo.2), ?_, fun t _ _ => hsame ▸ Leg.distSq_nonneg _ _⟩
    simp only [distSq]
    nlinarith
  · have hk : 0 < c / distSq centre echo := div_pos hc hd
    have hscale (k : ℝ) : distSq (echo.1 + k * (centre.1 - echo.1), echo.2 + k * (centre.2 - echo.2)) echo =
        k ^ 2 * distSq centre echo := by
      simp only [distSq]
      ring
    refine ⟨(echo.1 + (1 + c / distSq centre echo) * (centre.1 - echo.1),
      echo.2 + (1 + c / distSq centre echo) * (centre.2 - echo.2)), ?_, fun t h₀ h₁ => ?_⟩
    · rw [hscale]
      have hmul : c / distSq centre echo * distSq centre echo = c := div_mul_cancel₀ _ hd.ne'
      nlinarith
    · have hpoint : point (echo.1 + (1 + c / distSq centre echo) * (centre.1 - echo.1),
          echo.2 + (1 + c / distSq centre echo) * (centre.2 - echo.2)) centre t =
          (echo.1 + (1 + c / distSq centre echo * (1 - t)) * (centre.1 - echo.1),
            echo.2 + (1 + c / distSq centre echo * (1 - t)) * (centre.2 - echo.2)) := by
        unfold point
        ext <;> ring
      rw [hpoint, hscale]
      have hone : 0 ≤ c / distSq centre echo * (1 - t) := mul_nonneg hk.le (by linarith)
      exact le_mul_of_one_le_left hd.le (one_le_pow₀ (by linarith))

theorem endBlocked_iff {centre : ℝ × ℝ} : EndBlocked centre echo ↔ distSq centre echo < (routeClearanceMm : ℝ) ^ 2 := by
  constructor
  · rintro ⟨start, -, hend, hstopped⟩
    obtain ⟨t, h₀, h₁, hin, -⟩ := stopped_iff.mp hstopped
    exact (hend t h₀ h₁).trans_lt hin
  · intro hin
    have hc : (0 : ℝ) < (routeClearanceMm : ℝ) ^ 2 := by
      rw [routeClearanceMm]
      norm_num
    obtain ⟨start, hout, hend⟩ := exists_outside centre echo hc
    refine ⟨start, hout, hend, stopped_iff.mpr ⟨1, zero_le_one, le_rfl, ?_, ?_⟩⟩ <;> dsimp only <;> rw [Leg.point_one]
    · exact hin
    · exact hin.trans hout

end RobotLlm.Grid
