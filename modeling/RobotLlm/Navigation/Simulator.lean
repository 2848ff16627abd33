import Mathlib.Data.String.Basic
import RobotLlm.Lib.Ray
import RobotLlm.Navigation.Contract

/-!
# The simulated world

The plant of the navigation experiments has walls, round obstacles and a round
robot. Whether the robot collides is asked of a point; how far it sees is
computed along a ray. The two share the geometry and nothing else.
-/

namespace RobotLlm.Navigation

open RobotLlm.Lib

structure CircleObstacle where
  obstacleId : String
  xMm : Int
  yMm : Int
  radiusMm : Int
  obstacleIdOk : identifierOk obstacleId
  xOk : Between xMm 0 1000000
  yOk : Between yMm 0 1000000
  radiusOk : Between radiusMm 1 100000

structure SimulationWorld where
  widthMm : Int
  heightMm : Int
  obstacles : List CircleObstacle
  widthOk : Between widthMm 100 1000000
  heightOk : Between heightMm 100 1000000
  idsOk : (obstacles.map (·.obstacleId)).Nodup
  insideOk : ∀ o ∈ obstacles, 0 ≤ o.xMm - o.radiusMm ∧ 0 ≤ o.yMm - o.radiusMm ∧
    o.xMm + o.radiusMm ≤ widthMm ∧ o.yMm + o.radiusMm ≤ heightMm

structure SimulationSettings where
  robotRadiusMm : Int
  rangeMaxMm : Int
  robotRadiusOk : Between robotRadiusMm 1 10000
  rangeMaxOk : Between rangeMaxMm 1 100000

structure DifferentialDriveSimulator (R : Type) where
  world : SimulationWorld
  settings : SimulationSettings
  xMm : R
  yMm : R

namespace DifferentialDriveSimulator

variable {R : Type} [Field R] [LinearOrder R] (s : DifferentialDriveSimulator R)

/-- The radius about an obstacle that the robot's center keeps out of. -/
def expanded (o : CircleObstacle) : R := ((s.settings.robotRadiusMm + o.radiusMm : Int) : R)

def collides (x y : R) : Bool :=
  let radius : R := s.settings.robotRadiusMm
  if x ≤ radius ∨ y ≤ radius ∨ s.world.widthMm - radius ≤ x ∨ s.world.heightMm - radius ≤ y then true
  else s.world.obstacles.any fun o => (x - o.xMm) ^ 2 + (y - o.yMm) ^ 2 ≤ s.expanded o ^ 2

/-- Below this a direction has no part along an axis. -/
def tiny : R := 1 / 10 ^ 12

/-- The distance along one axis to the wall that a ray goes towards. -/
def wallAhead (direction position near far : R) : List R :=
  if tiny < direction then [(far - position) / direction]
  else if direction < -tiny then [(near - position) / direction]
  else []

def boundaryCandidates (dx dy : R) : List R :=
  let radius : R := s.settings.robotRadiusMm
  wallAhead dx s.xMm radius (s.world.widthMm - radius) ++ wallAhead dy s.yMm radius (s.world.heightMm - radius)

/-- What an obstacle adds to `obstacle_candidates`. -/
def obstacleCandidate [Root R] (dx dy : R) (o : CircleObstacle) : Option (R × String) :=
  let offsetX := o.xMm - s.xMm
  let offsetY := o.yMm - s.yMm
  let projection := offsetX * dx + offsetY * dy
  if projection < 0 then none
  else
    let perpendicularSq := offsetX ^ 2 + offsetY ^ 2 - projection ^ 2
    if s.expanded o ^ 2 < perpendicularSq then none
    else
      let halfChord := Root.sqrt (max 0 (s.expanded o ^ 2 - perpendicularSq))
      let entry := projection - halfChord
      if 0 ≤ entry then some (entry, o.obstacleId) else none

/-- The lesser by distance, then by id; the first of two that tie. -/
def nearer (a b : R × String) : R × String := if b.1 < a.1 ∨ b.1 = a.1 ∧ b.2 < a.2 then b else a

/-- `min(candidates, key=..)`. -/
def nearest : List (R × String) → Option (R × String)
  | [] => none
  | c :: cs => some (cs.foldl nearer c)

def positiveBoundaries (dx dy : R) : List R := (s.boundaryCandidates dx dy).filter fun value => 0 ≤ value

def positiveObstacles [Root R] (dx dy : R) : List (R × String) :=
  (s.world.obstacles.filterMap (s.obstacleCandidate dx dy)).filter fun c => 0 ≤ c.1

/-- `positive`. -/
def positives [Root R] (dx dy : R) : List R := s.positiveBoundaries dx dy ++ (s.positiveObstacles dx dy).map Prod.fst

/-- `clearance`: the range, or the least value within it. -/
def clearance (rangeMax : R) (values : List R) : R :=
  match values.min? with
  | none => rangeMax
  | some value => min rangeMax value

/-- The distance is beyond the nearest boundary; there may be none. -/
def beyondBoundary (boundaries : List R) (distance : R) : Bool := boundaries.min?.any (· < distance)

def rayClearanceObservation [FloorRing R] [Trig R] [Root R] (angle : R) : Int × Option String :=
  let dx := Trig.cos angle
  let dy := Trig.sin angle
  let rangeMax : R := s.settings.rangeMaxMm
  let forwardObjectId := (nearest (s.positiveObstacles dx dy)).bind fun c =>
    if beyondBoundary (s.positiveBoundaries dx dy) c.1 = false ∧ c.1 ≤ rangeMax then some c.2 else none
  (max 0 ⌊clearance rangeMax (s.positives dx dy)⌋, forwardObjectId)

end DifferentialDriveSimulator

end RobotLlm.Navigation
