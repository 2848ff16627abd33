import RobotLlm.Blast.ScanContract
import RobotLlm.Blast.SpatialMap

/-!
# Scan rays as echo points

The measured rays of a scan that passed its contract are placed in the frame of
the odometry, by the pose of the scan and the place of the sensor.
-/

namespace RobotLlm.Blast.PlanarProjection

open RobotLlm.Lib
open RobotLlm.Lib.PyValue (field)
open RobotLlm.Blast.Scan (ScanError validateBlastScanRayContract finiteNumber fansOut rangeMeasured restorationToleranceDeg partialScan)
open RobotLlm.Blast.SpatialMap (ScanPoint ScanPose Projection startsWith scanAngularRaySides)

inductive ProjectionError where
  /-- What the contract raises. -/
  | contract (error : ScanError)
  /-- A `ValueError` of the projection itself. -/
  | invalid
  | attribute
  | index
  | key
  | type

/-- `range_sensor_extrinsics`. -/
def forwardOffsetMm : Int := 110
def leftOffsetMm : Int := 80
def yawMdeg : Int := 0
def navigationBodyMotorAngleDeg : Int := 158
def navigationBodyMotorToleranceDeg : Int := 1

def normalizeHeadingMdeg (value : Int) : Int := (value + 180000) % 360000 - 180000

section
variable {R : Type}

def matchesNavigationBodyAngle (value : PyValue R) : Bool :=
  match value with
  | .int angle => |angle - navigationBodyMotorAngleDeg| ≤ navigationBodyMotorToleranceDeg
  | _ => false

/-- The body angle of a ray, which the contract requires to be there. -/
def atNavigationPose (ray : PyValue R) : Bool := ray.dict?.any fun fields => matchesNavigationBodyAngle (field fields "body_motor_angle_deg")

/-- `ray.get("side", "")`, of which the start is asked. -/
def sideText (ray : PyValue R) : Except ProjectionError String :=
  match ray with
  | .dict fields =>
    match fields.lookup "side" with
    | none => .ok ""
    | some (.str side) => .ok side
    | some _ => .error .attribute
  | _ => .error .attribute

def onSide (start : String) (values : List (String × R)) : List R := (values.filter fun value => startsWith start value.1).map Prod.snd

/-- `scan.get("angular_rays", scan["rays"])`. A value of any other kind has not
passed the contract. -/
def projectionRays (scan : PyDict R) : Except ProjectionError (List (PyValue R)) :=
  match scan.lookup "angular_rays" with
  | some (.list rays) => .ok rays
  | some _ => .error .type
  | none =>
    match field scan "rays" with
    | .list rays => .ok rays
    | _ => .error .type

/-- `checked["rays"][0].get("side") == "center"`. -/
def startsAtCenter (scan : PyDict R) : Except ProjectionError Bool :=
  match field scan "rays" with
  | .list (.dict ray :: _) => .ok ((field ray "side").isStr "center")
  | .list [] => .error .index
  | _ => .error .attribute

/-- `complete`. -/
def completeScan (scan : PyDict R) : Bool :=
  (field scan "state").isStr "complete" && (field scan "result").isStr "restored" && (field scan "restoration_verified").bool? = some true

end

section
variable {R : Type} [Field R] [LinearOrder R] [FloorRing R]

def finite (value : PyValue R) : Except ProjectionError R :=
  match finiteNumber value with
  | some number => .ok number
  | none => .error .invalid

def relativeHeading (ray : PyValue R) : Except ProjectionError R :=
  match ray with
  | .dict fields => finite (field fields "relative_heading_deg")
  | _ => .error .attribute

def opposedResidue (scan : PyDict R) : PyValue R :=
  match field scan "encoder_restoration" with
  | .dict restoration => field restoration "opposed_residue_deg"
  | _ => .none

/-- A scan that is neither partial nor a full sweep ends where it began, as far
as the encoders tell. -/
def residueOk (scan : PyDict R) (error : R) : Bool :=
  (field scan "state").isStr "partial" || (field scan "sweep_direction").isSome || |error| ≤ restorationToleranceDeg

def headings (scan : PyDict R) : Except ProjectionError (List (PyValue R) × List R) := do
  let _ ← finite (field scan "start_heading_deg")
  let rays ← projectionRays scan
  let values ← rays.mapM relativeHeading
  match values with
  | [] => .error .index
  | center :: others => do
    let sides ← (rays.drop 1).mapM sideText
    if values.length ≤ scanAngularRaySides.length &&
        fansOut center (onSide "left_" (sides.zip others)) (onSide "right_" (sides.zip others)) then do
      let error ← finite (opposedResidue scan)
      if residueOk scan error then .ok (rays, values) else .error .invalid
    else .error .invalid

/-- The bearing of a ray in thousandths of a degree, left above zero. -/
def relativeBearingMdeg (side : String) (raw : R) : Int :=
  let magnitude := roundEven (|raw| * 1000)
  if side = "center" then 0 else if startsWith "left_" side then magnitude else -magnitude

/-- The echo of a ray of this side, bearing and range. -/
def echoPoint [Trig R] (pose : ScanPose) (side : String) (relative : Int) (distance : R) : ScanPoint R :=
  let bodyHeading := normalizeHeadingMdeg (pose.headingMdeg + relative)
  let bodyAngle : R := radians ((bodyHeading : R) / 1000)
  let originX := (pose.xMm : R) + forwardOffsetMm * Trig.cos bodyAngle - leftOffsetMm * Trig.sin bodyAngle
  let originY := (pose.yMm : R) + forwardOffsetMm * Trig.sin bodyAngle + leftOffsetMm * Trig.cos bodyAngle
  let beamHeading := normalizeHeadingMdeg (bodyHeading + yawMdeg)
  let beamAngle : R := radians ((beamHeading : R) / 1000)
  { side
    measuredRangeMm := distance
    relativeBearingMdeg := relative
    sensorOriginXMm := roundEven originX
    sensorOriginYMm := roundEven originY
    beamHeadingMdeg := beamHeading
    nominalEchoXMm := roundEven (originX + distance * Trig.cos beamAngle)
    nominalEchoYMm := roundEven (originY + distance * Trig.sin beamAngle) }

/-- `ray["side"]`, of which the start is asked. -/
def rayName (ray : PyDict R) : Except ProjectionError String :=
  match ray.lookup "side" with
  | none => .error .key
  | some (.str side) => .ok side
  | some _ => .error .attribute

/-- The body of the loop over the rays: whether the echo is settled, and where
it lies; nothing for a ray that measured no range. -/
def projectRay [Trig R] (pose : ScanPose) (ray : PyValue R × R) : Except ProjectionError (Option (Bool × ScanPoint R)) :=
  match ray.1 with
  | .dict fields =>
    if (field fields "range_state").isStr rangeMeasured then do
      let side ← rayName fields
      let distance ← finite (field fields "distance_mm")
      .ok (some ((field fields "observation_settled").bool? = some true, echoPoint pose side (relativeBearingMdeg side ray.2) distance))
    else .ok none
  | _ => .error .attribute

/-- The returned projection, of the echoes in their order. -/
def projectionOf (echoes : List (Bool × ScanPoint R)) : Projection R :=
  let uncertain := (echoes.filter fun echo => !echo.1).map Prod.snd
  { schema := "blast-planar-scan-projection/v1"
    frame := "EPISODE_LOCAL_ODOMETRY"
    quality := "PROVISIONAL_YAW_ONLY"
    verticalPitchCompensated := false
    ultrasonicBeamWidthModeled := false
    scanTurnTranslationCompensated := false
    points := (echoes.filter fun echo => echo.1).map Prod.snd
    uncertainPoints := if uncertain.isEmpty then none else some uncertain }

def projectBlastScanPlanarSurfaces [Trig R] (scan : PyDict R) (pose : ScanPose) : Except ProjectionError (Projection R) := do
  match validateBlastScanRayContract (.dict scan) with
  | .error error => .error (.contract error)
  | .ok checked =>
    if completeScan checked || partialScan checked then do
      let centered ← startsAtCenter checked
      if centered then do
        let (rays, values) ← headings checked
        if rays.all atNavigationPose then do
          let echoes ← (rays.zip values).mapM (projectRay pose)
          .ok (projectionOf (echoes.filterMap id))
        else .error .invalid
      else .error .invalid
    else .error .invalid

end

end RobotLlm.Blast.PlanarProjection
