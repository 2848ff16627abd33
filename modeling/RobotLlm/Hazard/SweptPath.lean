import RobotLlm.Hazard.HazardMap
import RobotLlm.Hazard.PhysicalFootprint

/-!
# The veto of a motion and of a turn in place

Before the robot moves, its sweep to the farthest endpoint that its encoders may still report
is held against every active hypothesis; so are all the headings of a look around.
-/

namespace RobotLlm.Hazard

open RobotLlm.Lib
open RobotLlm.Odometry (Action Fault OdometryCalibration VerifiedMotion applyVerifiedMotion refuse)

/-- What the map's calibration says of the robot itself. -/
structure RobotBody where
  collisionRadiusMm : Int := 70
  footprint : Option RobotFootprint := none
  radius_positive : 0 < collisionRadiusMm

/-- `action_specs[action]`. -/
structure MotionSpec where
  leftSpeedDps : Int
  rightSpeedDps : Int
  totalDurationMs : Int
  targetMeanAbsEncoderDegrees : Option Int := none

-- Endpoints and envelopes

section
variable (F : Type) [PyFloat F]

/-- The nominal endpoint of an action, and the one at the largest encoder ratio that is accepted. -/
def nominalEffect (pose : PhysicalPose) (action : Action) (actionSpecs : Action → Option MotionSpec)
    (calibration : OdometryCalibration F) (acceptedEncoderRatio : F) : Except Fault (PhysicalPose × PhysicalPose) :=
  match decide action.IsMotion, actionSpecs action with
  | true, some spec => do
    let commanded (speedDps : Int) : Int :=
      let degrees := PyMath.round (PyMath.div (PyMath.ofInt (speedDps * spec.totalDurationMs)) (PyMath.ofInt 1000) : F)
      match spec.targetMeanAbsEncoderDegrees with
      | none => degrees
      | some target => (if 0 ≤ degrees then 1 else -1) * target
    let farthest (degrees : Int) : Int := PyMath.round (PyMath.mul (PyMath.ofInt degrees) acceptedEncoderRatio)
    let motion (left right : Int) : VerifiedMotion := ⟨action, left, right, 1, 1, .completed, []⟩
    let left := commanded spec.leftSpeedDps
    let right := commanded spec.rightSpeedDps
    let nominal ← applyVerifiedMotion F pose (motion left right) calibration 0
    let maximum ← applyVerifiedMotion F pose (motion (farthest left) (farthest right)) calibration 0
    .ok (nominal, maximum)
  | _, _ => refuse "unknown_action_spec" "Action has no physical motion specification"

/-- `_collision_envelopes`. -/
def collisionEnvelopes (c : HazardMapCalibration) (hazard : ProvisionalHazard) : List (Int × Int) :=
  if hazard.activeForCollision then
    ((hazard.centroidXMm, hazard.centroidYMm) ::
      (hazard.collisionSupports.filter (hazard.conflictCutoff < ·.completedAtMs)).map fun support =>
        project F support.poseXMm support.poseYMm (support.poseHeadingMdeg + support.actualRelativeBearingMdeg)
          c.provisionalHazardOffsetMm).eraseDups
  else []

end

section
variable (R : Type) [Field R] [LinearOrder R] [IsStrictOrderedRing R] [FloorRing R] [Trig R] [Root R]

def pointSegmentDistance (px py x1 y1 x2 y2 : R) : R :=
  let dx := x2 - x1
  let dy := y2 - y1
  let squared := dx * dx + dy * dy
  if squared ≤ 0 then hypot (px - x1) (py - y1)
  else
    let projection := max 0 (min 1 (((px - x1) * dx + (py - y1) * dy) / squared))
    hypot (px - (x1 + projection * dx)) (py - (y1 + projection * dy))

inductive EnvelopeOutcome where
  | clear
  | escapes
  | collides
deriving DecidableEq

/-- The direction of travel and the way out of the envelope. -/
def outward (pose maximum : PhysicalPose) (support : Int × Int) : Int :=
  (maximum.xMm - pose.xMm) * (pose.xMm - support.1) + (maximum.yMm - pose.yMm) * (pose.yMm - support.2)

/-- `start_intersects` and `swept_intersects`. -/
def intersections (body : RobotBody) (radiusMm : Int) (pose maximum : PhysicalPose) (support : Int × Int) : Bool × Bool :=
  match body.footprint with
  | none =>
    let clearanceRadius : R := ((body.collisionRadiusMm + radiusMm : Int) : R)
    (hypot ((pose.xMm : R) - support.1) (pose.yMm - support.2) ≤ clearanceRadius,
      pointSegmentDistance R support.1 support.2 pose.xMm pose.yMm maximum.xMm maximum.yMm ≤ clearanceRadius)
  | some footprint => footprintSweepIntersects R support.1 support.2 radiusMm pose maximum footprint

/-- The motion against one envelope: from inside of it only the way straight out is open. -/
def envelopeOutcome (body : RobotBody) (radiusMm : Int) (pose maximum : PhysicalPose) (support : Int × Int) : EnvelopeOutcome :=
  let startDistance : R := hypot ((pose.xMm : R) - support.1) (pose.yMm - support.2)
  let endDistance : R := hypot ((maximum.xMm : R) - support.1) (maximum.yMm - support.2)
  let sweptDistance := pointSegmentDistance R support.1 support.2 pose.xMm pose.yMm maximum.xMm maximum.yMm
  let met := intersections R body radiusMm pose maximum support
  if met.1 then
    if 0 < outward pose maximum support ∧ startDistance < endDistance ∧
        |sweptDistance - startDistance| < 1 / ((1000000 : Int) : R) ∧
        (body.footprint.isNone ∨ headingDeltaMdeg pose maximum = 0) then .escapes
    else .collides
  else if met.2 then .collides
  else .clear

variable (F : Type) [PyFloat F]

def hazardOutcome (c : HazardMapCalibration) (body : RobotBody) (pose maximum : PhysicalPose) (hazard : ProvisionalHazard) :
    EnvelopeOutcome :=
  let outcomes := (collisionEnvelopes F c hazard).map (envelopeOutcome R body hazard.radiusMm pose maximum)
  if .collides ∈ outcomes then .collides else if .escapes ∈ outcomes then .escapes else .clear

structure MotionSweep where
  monotonicEscapeHazardIds : List String
  startPose : PhysicalPose
  maximumEndpoint : PhysicalPose

structure SweptPathVerdict where
  allowed : Bool
  reason : String
  hazardIds : List String
  motion : Option MotionSweep

/-- `sorted` of the ids of those hypotheses. -/
def sortedHazardIds (hazards : List ProvisionalHazard) : List String :=
  (hazards.map (·.hypothesisId)).mergeSort fun first second => first ≤ second

def validateSweptPath (m : ProvisionalHazardMap) (body : RobotBody) (pose : PhysicalPose) (action : Action)
    (actionSpecs : Action → Option MotionSpec) (calibration : OdometryCalibration F)
    -- `accepted_encoder_ratio`: 1.75.
    (acceptedEncoderRatio : F := PyMath.div (PyMath.ofInt 7) (PyMath.ofInt 4)) : Except Fault SweptPathVerdict :=
  if ¬ action.IsMotion then .ok ⟨true, "nonmotion_action", [], none⟩
  else do
    let (_, maximum) ← nominalEffect F pose action actionSpecs calibration acceptedEncoderRatio
    let outcome := hazardOutcome R F m.calibration body pose maximum
    let colliding := m.hazards.filter (outcome · = .collides)
    .ok {
      allowed := colliding.isEmpty
      reason := if colliding.isEmpty then "swept_path_clear" else "provisional_hazard_swept_path_collision"
      hazardIds := sortedHazardIds colliding
      motion := some ⟨sortedHazardIds (m.hazards.filter (outcome · = .escapes)), pose, maximum⟩ }

-- Turns in place

structure RotationVerdict where
  allowed : Bool
  reason : String
  hazardIds : List String
  startPose : PhysicalPose
  minimumRelativeHeadingMdeg : Int
  maximumRelativeHeadingMdeg : Int
  alignmentToleranceMdeg : Int

def turnedBy (pose : PhysicalPose) (relativeHeadingMdeg : Int) : PhysicalPose :=
  { pose with
    headingMdeg := Odometry.normalizeHeadingMdeg (pose.headingMdeg + relativeHeadingMdeg)
    heading_valid := normalizeHeadingMdeg_valid _ }

/-- The scan goes to the one end, to the other and back. -/
def rotationMeets (footprint : RobotFootprint) (radiusMm : Int) (pose : PhysicalPose) (minimum maximum : Int) (support : Int × Int) : Bool :=
  [(pose, turnedBy pose minimum), (turnedBy pose minimum, turnedBy pose maximum), (turnedBy pose maximum, turnedBy pose 0)].any
    fun segment => (footprintSweepIntersects R support.1 support.2 radiusMm segment.1 segment.2 footprint).2

def validateInPlaceRotation (m : ProvisionalHazardMap) (body : RobotBody) (pose : PhysicalPose)
    (relativeHeadingOffsetsMdeg : List Int) (alignmentToleranceMdeg : Int := 0) : Except String RotationVerdict :=
  match relativeHeadingOffsetsMdeg.min?, relativeHeadingOffsetsMdeg.max? with
  | some lowest, some highest =>
    if relativeHeadingOffsetsMdeg.any fun value => value < -180000 ∨ 180000 < value then .error "rotation sweep offsets are invalid"
    else if alignmentToleranceMdeg < 0 ∨ 30000 < alignmentToleranceMdeg then .error "rotation sweep tolerance is invalid"
    else
      let minimum := max (-180000) (min 0 lowest - alignmentToleranceMdeg)
      let maximum := min 180000 (max 0 highest + alignmentToleranceMdeg)
      let meets (hazard : ProvisionalHazard) : Bool := match body.footprint with
        -- A circle takes up the same space at every heading.
        | none => false
        | some footprint =>
          (collisionEnvelopes F m.calibration hazard).any (rotationMeets R footprint hazard.radiusMm pose minimum maximum)
      let colliding := m.hazards.filter meets
      .ok {
        allowed := colliding.isEmpty
        reason := if colliding.isEmpty then "in_place_rotation_clear" else "provisional_hazard_rotation_sweep_collision"
        hazardIds := sortedHazardIds colliding
        startPose := pose
        minimumRelativeHeadingMdeg := minimum
        maximumRelativeHeadingMdeg := maximum
        alignmentToleranceMdeg }
  | _, _ => .error "rotation sweep offsets are invalid"

end

end RobotLlm.Hazard
