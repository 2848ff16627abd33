import Mathlib.Data.Prod.Lex
import RobotLlm.Lib.Ray

/-!
# The coarse grid and the guard of its routes

The possible obstacles are echoes: points that the robot's centre must keep away
from. The grid shows the model the cells whose centres lie in the circle of an
echo; the guard of a route measures each leg against the same circles.
-/

namespace RobotLlm.Grid

open RobotLlm.Lib

def gridCellSizeMm : Int := 150

def routeClearanceMm : Int := 150

def modelRouteAxisToleranceMm : Int := gridCellSizeMm / 2

section
variable {R : Type} [Field R] [LinearOrder R] [IsStrictOrderedRing R] [FloorRing R] [Root R]

def nearestCell (valueMm : R) : Int := ⌊valueMm / (gridCellSizeMm : R) + 1 / 2⌋

def cellCentre (cell : Int × Int) : R × R := ((cell.1 * gridCellSizeMm : Int), (cell.2 * gridCellSizeMm : Int))

/-- `math.ceil(ROUTE_CLEARANCE_MM / GRID_CELL_SIZE_MM) + 1`. -/
def indexReach : Int := -(-routeClearanceMm / gridCellSizeMm) + 1

/-- `range(-reach, reach + 1)`. -/
def spread (reach : Int) : List Int := (List.range (2 * reach + 1).toNat).map fun k : Nat => (k : Int) - reach

/-- `_keep_out_cell_indexes`, for its members. -/
def keepOutCellIndexes (possibleObstacles : List (R × R)) : List (Int × Int) :=
  possibleObstacles.flatMap fun point =>
    let forwardCell := nearestCell point.1
    let leftCell := nearestCell point.2
    ((spread indexReach).flatMap fun forwardDelta =>
      (spread indexReach).map fun leftDelta => (forwardCell + forwardDelta, leftCell + leftDelta)).filter fun candidate =>
        hypot ((cellCentre candidate).1 - point.1) ((cellCentre candidate).2 - point.2) ≤ (routeClearanceMm : R)

/-- `(first_ratio, x_mm, y_mm)`: what the candidates of a leg are compared by. -/
abbrev BlockageKey (R : Type) := R ×ₗ Int ×ₗ Int

def echoKey (clearanceMm : Int) (previous waypoint echo : R × R) : Option (BlockageKey R) :=
  let deltaX := waypoint.1 - previous.1
  let deltaY := waypoint.2 - previous.2
  let lengthSquared := deltaX * deltaX + deltaY * deltaY
  let projectedRatio := ((echo.1 - previous.1) * deltaX + (echo.2 - previous.2) * deltaY) / lengthSquared
  -- Moving away from a nearby echo is an escape.
  if projectedRatio ≤ 0 then none
  else
    let closestRatio := min 1 projectedRatio
    let closestX := previous.1 + deltaX * closestRatio
    let closestY := previous.2 + deltaY * closestRatio
    let distanceSquared := (echo.1 - closestX) ^ 2 + (echo.2 - closestY) ^ 2
    if (clearanceMm : R) ^ 2 ≤ distanceSquared then none
    else
      let perpendicularSquared := max 0
        ((echo.1 - previous.1) ^ 2 + (echo.2 - previous.2) ^ 2 - projectedRatio ^ 2 * lengthSquared)
      let entryOffset := Root.sqrt (max 0 (((clearanceMm : R) ^ 2 - perpendicularSquared) / lengthSquared))
      let firstRatio := max 0 (projectedRatio - entryOffset)
      if 1 < firstRatio then none
      else some (toLex (firstRatio, toLex (roundEven echo.1, roundEven echo.2)))

/-- `nearest_blockage`, after one more candidate. -/
def nearer (nearest : Option (BlockageKey R)) (key : BlockageKey R) : Option (BlockageKey R) :=
  match nearest with
  | none => some key
  | some best => if key < best then some key else some best

def nearestBlockage (clearanceMm : Int) (previous waypoint : R × R) (possibleObstacles : List (R × R)) :
    Option (BlockageKey R) :=
  possibleObstacles.foldl (fun nearest echo => match echoKey clearanceMm previous waypoint echo with
    | none => nearest
    | some key => nearer nearest key) none

structure RouteBlockage where
  reason : String := "KNOWN_ECHO_CLEARANCE_INTERSECTION"
  legIndex : Nat
  basis : String := "CONTINUOUS_ECHO_CLEARANCE"
  clearanceMm : Int
  blockingEchoPoint : Int × Int

/-- The loop over the legs, at the leg of this index. -/
def blockageFrom (clearanceMm : Int) (possibleObstacles : List (R × R)) :
    Nat → R × R → List (R × R) → Option RouteBlockage
  | _, _, [] => none
  | legIndex, previous, waypoint :: rest =>
    let deltaX := waypoint.1 - previous.1
    let deltaY := waypoint.2 - previous.2
    if deltaX * deltaX + deltaY * deltaY = 0 then blockageFrom clearanceMm possibleObstacles (legIndex + 1) waypoint rest
    else match nearestBlockage clearanceMm previous waypoint possibleObstacles with
      | some key => some { legIndex, clearanceMm, blockingEchoPoint := ofLex (ofLex key).2 }
      | none => blockageFrom clearanceMm possibleObstacles (legIndex + 1) waypoint rest

def routeBlockageFromEchoes (start : R × R) (waypoints possibleObstacles : List (R × R))
    (clearanceMm : Int := routeClearanceMm) : Except String (Option RouteBlockage) :=
  if clearanceMm ≤ 0 then .error "route clearance is invalid"
  else .ok (blockageFrom clearanceMm possibleObstacles 1 start waypoints)

structure DiagonalLeg where
  reason : String := "NON_ORTHOGONAL_ROUTE_LEG"
  legIndex : Nat
  basis : String := "COARSE_EPISODE_AXES"
  axisToleranceMm : Int := modelRouteAxisToleranceMm
  deltaXMm : Int
  deltaYMm : Int

inductive ModelRouteBlockage where
  | diagonal (leg : DiagonalLeg)
  | echo (blockage : RouteBlockage)

/-- The loop over the legs that looks for a diagonal one. -/
def diagonalFrom : Nat → R × R → List (R × R) → Option DiagonalLeg
  | _, _, [] => none
  | legIndex, previous, waypoint :: rest =>
    let deltaX := waypoint.1 - previous.1
    let deltaY := waypoint.2 - previous.2
    if (modelRouteAxisToleranceMm : R) < |deltaX| ∧ (modelRouteAxisToleranceMm : R) < |deltaY| then
      some { legIndex, deltaXMm := roundEven deltaX, deltaYMm := roundEven deltaY }
    else diagonalFrom (legIndex + 1) waypoint rest

def modelRouteBlockage (start : R × R) (waypoints possibleObstacles : List (R × R)) : Except String (Option ModelRouteBlockage) :=
  match diagonalFrom 1 start waypoints with
  | some leg => .ok (some (.diagonal leg))
  | none => (routeBlockageFromEchoes start waypoints possibleObstacles).map (Option.map .echo)

end

end RobotLlm.Grid
