import RobotLlm.Lib.Exact
import RobotLlm.Lib.PyValue

/-!
# The contract of a scan

A scan is a dictionary of rays, each with its bearing as measured and as the
encoders tell it. The contract computes every derived number again.
-/

namespace RobotLlm.Blast.Scan

open RobotLlm.Lib
open RobotLlm.Lib.PyValue (field hasKeys)

def startsWith (start : String) (text : String) : Bool := start.toList.isPrefixOf text.toList

structure DriveAngles where
  left : Int
  right : Int
deriving DecidableEq

def schema : String := "blast-scan-front-arc/v3"
def bearingSource : String := "IMU_YAW_WITH_ENCODER_FALLBACK"
def legacyBearingSource : String := "DRIVE_ENCODER_ODOMETRY"
def bearingFrame : String := "ROBOT_RELATIVE_AT_SCAN_START"
def imuDiagnosticAuthority : String := "SCAN_GEOMETRY_WHEN_AVAILABLE"
def settledRange : String := "SETTLED_RANGE"
def sweepContinuationOnly : String := "SWEEP_CONTINUATION_ONLY"
def rangeMeasured : String := "MEASURED"
def rangeNoValidDistance : String := "NO_VALID_DISTANCE"
def rangeInvalid : String := "INVALID"
def scanRaySides : List String := ["center", "left_near", "left_far", "right_near", "right_far"]
def maxTurnPulses : Int := 24

section
variable {R : Type} [Field R] [LinearOrder R] [FloorRing R]

-- Measurements

/-- `SCAN_ANGLE_PRECISION_DEG`. -/
def anglePrecisionDeg : R := 1 / 10 ^ 6
def minimumSurroundingsCoverageDeg : R := 350
def restorationToleranceDeg : R := 10
def restorationCommonModeToleranceMm : R := 25
def maxAbsoluteBearingDeg : R := 180

def finiteNumber : PyValue R → Option R
  | .int value => some value
  | .float value => some value
  | _ => none

def blastRangeState (distance : PyValue R) : String :=
  match finiteNumber distance with
  | some value =>
    if 0 ≤ value ∧ value ≤ 2000 then if value = 2000 then rangeNoValidDistance else rangeMeasured else rangeInvalid
  | none => rangeInvalid

def driveAnglesIn (motors : PyDict R) : Option DriveAngles :=
  match field motors "left_drive", field motors "right_drive" with
  | .int left, .int right => some ⟨left, right⟩
  | _, _ => none

def motorAngles (observation : PyDict R) : Option (PyDict R) := (field observation "motor_angles_deg").dict?

def bodyMotorAngle (observation : PyDict R) : Option Int :=
  (motorAngles observation).bind fun motors =>
    match field motors "body" with
    | .int value => some value
    | _ => none

def driveEncoderAngles (observation : PyDict R) : Option DriveAngles := (motorAngles observation).bind driveAnglesIn

/-- `exact_drive_angles`: both angles, and nothing else. -/
def exactDriveAngles (value : PyValue R) : Option DriveAngles :=
  value.dict?.bind fun fields => if hasKeys fields ["left_drive", "right_drive"] then driveAnglesIn fields else none

/-- The bearing that encoder angles turned by; left is negative. -/
def encoderBearing (R : Type) [Field R] (delta : DriveAngles) : R :=
  -(((delta.right - delta.left : Int) : R) / 2 * 490 / 1000)

def DriveAngles.since (current start : DriveAngles) : DriveAngles := ⟨current.left - start.left, current.right - start.right⟩

/-- `encoder_sweep_bearing_deg`. -/
def encoderSweepBearing (R : Type) [Field R] (current start : DriveAngles) : R := encoderBearing R (current.since start)

/-- `encoder_relative_bearing_deg`. -/
def encoderRelativeBearing (R : Type) [Field R] [LinearOrder R] [FloorRing R] (current start : DriveAngles) : R :=
  roundDigits 6 (wrapDegrees (encoderSweepBearing R current start))

def scanHeading (observation : PyDict R) : Option R :=
  (field observation "imu").dict?.bind fun imu => finiteNumber (field imu "heading_deg")

def scanHeadingDelta (heading reference : Option R) : Option R :=
  heading.bind fun heading => reference.map fun reference => wrapDegrees (heading - reference)

/-- A measured angle, with as many full turns as the encoders saw. -/
def unwound (encoder : R) : Option R → R
  | some measured => measured + 360 * roundEven ((encoder - measured) / 360)
  | none => encoder

/-- `scan_sweep_bearing_deg`. -/
def scanSweepBearing (current start : DriveAngles) (heading startImu : Option R) : R :=
  unwound (encoderSweepBearing R current start) (scanHeadingDelta heading startImu)

/-- `scan_relative_bearing_deg`. -/
def scanRelativeBearing (current start : DriveAngles) (heading startImu : Option R) : R :=
  roundDigits 6 (wrapDegrees (scanSweepBearing current start heading startImu))

/-- `encoder_common_mode_residue_mm`. -/
def commonModeResidue (R : Type) [Field R] (final start : DriveAngles) : R :=
  (((final.since start).left + (final.since start).right : Int) : R) / 2 * (1 / 2)

def isClose (a b tolerance : R) : Bool := |a - b| ≤ max (1 / 10 ^ 9 * max |a| |b|) tolerance

-- Rays

def expectedBearing (measuredBearings : Bool) (startImu : Option R) (ray : PyDict R) : Option R :=
  (exactDriveAngles (field ray "drive_encoder_delta_deg")).map fun delta =>
    match if measuredBearings then scanHeadingDelta (finiteNumber (field ray "imu_heading_deg")) startImu else none with
    | some measured => measured
    | none => wrapDegrees (encoderBearing R delta)

/-- The evidence of a ray is used as its observation allows. -/
def evidenceUseOk (ray : PyDict R) : Bool :=
  match field ray "observation_settled" with
  | .bool true =>
    match ray.lookup "evidence_use" with
    | some use => use.isStr settledRange
    | none => true
  | .bool false => (field ray "evidence_use").isStr sweepContinuationOnly
  | _ => false

def bodyMotorAngleOk (ray : PyDict R) : Bool :=
  match ray.lookup "body_motor_angle_deg" with
  | some .none | some (.int _) => true
  | _ => false

/-- The opposite of `ray_invalid`. -/
def rayOk (measuredBearings : Bool) (startImu : Option R) (value : PyValue R) : Bool :=
  match value with
  | .dict ray =>
    evidenceUseOk ray && (field ray "range_state").isStr (blastRangeState (field ray "distance_mm")) && bodyMotorAngleOk ray &&
      match expectedBearing measuredBearings startImu ray, finiteNumber (field ray "heading_deg"),
        finiteNumber (field ray "relative_heading_deg") with
      | some expected, some heading, some relative =>
        isClose heading expected anglePrecisionDeg && isClose relative expected anglePrecisionDeg
      | _, _, _ => false
  | _ => false

def withoutSide (ray : PyDict R) : PyDict R := ray.filter fun field => field.1 ≠ "side"

def sameRay (first second : PyValue R) : Bool :=
  match first, second with
  | .dict first, .dict second => (PyValue.dict (withoutSide first)).equals (.dict (withoutSide second))
  | _, _ => false

def sideOf (ray : PyValue R) : Option String := ray.dict?.bind fun fields => (field fields "side").str?

def relativeHeadingOf (ray : PyValue R) : Option R := ray.dict?.bind fun fields => finiteNumber (field fields "relative_heading_deg")

def countSide (start : String) (labels : List (Option String)) : Nat := labels.countP fun label => label.any (startsWith start)

def numbered (start : String) (count : Nat) : List String := (List.range count).map fun index => start ++ toString (index + 1)

def expectedLabels (leftCount rightCount : Nat) : List String :=
  "center" :: (numbered "left_" leftCount ++ numbered "right_" rightCount)

/-- Bearings fan out from zero, on the left below it and on the right above. -/
def fansOut (center : R) (left right : List R) : Bool :=
  center = 0 && left.all (fun value => value < 0 && -maxAbsoluteBearingDeg ≤ value) &&
    right.all (fun value => 0 < value && value ≤ maxAbsoluteBearingDeg) &&
    decide (left.IsChain (· > ·)) && decide (right.IsChain (· < ·))

def bearingsOk (leftCount : Nat) (relative : List (Option R)) : Bool :=
  relative.all Option.isSome &&
    match relative.filterMap id with
    | center :: sides => fansOut center (sides.take leftCount) (sides.drop leftCount)
    | [] => false

def raysAmong (rays dense : List (PyValue R)) : Bool :=
  match rays, dense with
  | center :: others, denseCenter :: _ =>
    rays.length = 5 && sameRay center denseCenter && others.all fun ray => dense.any (sameRay ray)
  | _, _ => false

/-- The opposite of `angular_invalid`, of a list. -/
def angularOk (partialScan measuredBearings : Bool) (startImu : Option R) (rays angular : List (PyValue R)) : Bool :=
  let labels := angular.map sideOf
  let leftCount := countSide "left_" labels
  let rightCount := countSide "right_" labels
  labels = (expectedLabels leftCount rightCount).map some && angular.all (rayOk measuredBearings startImu) &&
    leftCount ≤ (if partialScan then 4 else 8) && rightCount ≤ (if partialScan then 4 else 8) &&
    (partialScan || (4 ≤ leftCount && 4 ≤ rightCount)) && bearingsOk leftCount (angular.map relativeHeadingOf) &&
    if partialScan then PyValue.equalsItems rays angular else raysAmong rays angular

-- The whole scan

structure Restoration (R : Type) where
  commonModeResidueMm : R
  opposedResidueDeg : R
  motionStopped : Bool
  observationSettled : Bool
  bodyPoseVerified : Bool

/-- `restoration_contract`. -/
def restorationOf (value : PyValue R) : Option (Restoration R) := do
  let fields ← value.dict?
  guard (hasKeys fields ["common_mode_residue_mm", "opposed_residue_deg", "motion_stopped", "observation_settled", "body_pose_verified"])
  let commonModeResidueMm ← finiteNumber (field fields "common_mode_residue_mm")
  let opposedResidueDeg ← finiteNumber (field fields "opposed_residue_deg")
  let motionStopped ← (field fields "motion_stopped").bool?
  let observationSettled ← (field fields "observation_settled").bool?
  let bodyPoseVerified ← (field fields "body_pose_verified").bool?
  some { commonModeResidueMm, opposedResidueDeg, motionStopped, observationSettled, bodyPoseVerified }

structure ImuDiagnostics (R : Type) where
  startHeadingDeg : Option R
  finalHeadingDeg : Option R
  restorationErrorDeg : Option R

/-- A number, or `None`. -/
def numberOrNone (value : PyValue R) : Option (Option R) :=
  match value with
  | .none => some none
  | value => (finiteNumber value).map some

/-- `imu_contract`, and the checks of its three numbers. -/
def imuDiagnosticsOf (value : PyValue R) : Option (ImuDiagnostics R) := do
  let fields ← value.dict?
  guard (hasKeys fields ["authority", "start_heading_deg", "final_heading_deg", "restoration_error_deg"])
  guard ((field fields "authority").isStr imuDiagnosticAuthority || (field fields "authority").isStr "DIAGNOSTIC_ONLY")
  let startHeadingDeg ← numberOrNone (field fields "start_heading_deg")
  let finalHeadingDeg ← numberOrNone (field fields "final_heading_deg")
  let restorationErrorDeg ← numberOrNone (field fields "restoration_error_deg")
  some { startHeadingDeg, finalHeadingDeg, restorationErrorDeg }

def imuErrorOk (imu : ImuDiagnostics R) : Bool :=
  match scanHeadingDelta imu.finalHeadingDeg imu.startHeadingDeg, imu.restorationErrorDeg with
  | some delta, some error => isClose error delta (1 / 10 ^ 9)
  | some _, none => false
  | none, error => error.isNone

structure Sweep (R : Type) where
  coverageDeg : R
  direction : String
  turnCount : Int

/-- The three fields of a sweep: none of them, or all. -/
def sweepOf (scan : PyDict R) : Option (Option (Sweep R)) :=
  match finiteNumber (field scan "sweep_coverage_deg"), field scan "sweep_direction", field scan "sweep_turn_count" with
  | none, .none, .none => some none
  | some coverageDeg, .str direction, .int turnCount => some (some { coverageDeg, direction, turnCount })
  | _, _, _ => none

/-- `sweep_contract`, of all three. -/
def sweepOk (sweepBearing : R) (sweep : Sweep R) : Bool :=
  1 ≤ sweep.turnCount && sweep.turnCount ≤ maxTurnPulses && isClose sweep.coverageDeg |sweepBearing| (1 / 10 ^ 9) &&
    ((sweep.direction = "left" && sweepBearing < 0) || (sweep.direction = "right" && 0 < sweepBearing))

def partialScan (scan : PyDict R) : Bool := (field scan "state").isStr "partial" && (field scan "result").isStr "coverage_incomplete"

def measuredBearings (scan : PyDict R) : Bool := (field scan "bearing_source").isStr bearingSource

def evidenceRays (scan : PyDict R) : PyValue R :=
  match field scan "angular_rays" with
  | .list items => .list items
  | _ => field scan "rays"

/-- `start_imu`, which is read before its dictionary is checked. -/
def startImuOf (scan : PyDict R) : Option R :=
  (field scan "imu_heading_diagnostics").dict?.bind fun imu => finiteNumber (field imu "start_heading_deg")

def settledRay (ray : PyValue R) : Bool :=
  match ray with
  | .dict fields =>
    match field fields "observation_settled" with
    | .bool true => true
    | _ => false
  | _ => false

/-- `heading_deg` of every ray is a number; `none` where a ray has no `get`. -/
def legacyHeadingFieldsValid : List (PyValue R) → Option Bool
  | [] => some true
  | .dict ray :: rays => if (finiteNumber (field ray "heading_deg")).isSome then legacyHeadingFieldsValid rays else some false
  | _ :: _ => none

/-- `geometry_final`: as measured, or else by the encoders. -/
def geometryFinal (measured : Bool) (final start : DriveAngles) (imu : ImuDiagnostics R) : R :=
  match if measured then scanHeadingDelta imu.finalHeadingDeg imu.startHeadingDeg else none with
  | some measured => measured
  | none => encoderRelativeBearing R final start

def expectedRestored (restoration : Restoration R) (sweep : Option (Sweep R)) (geometryFinal commonResidue : R) : Bool :=
  restoration.motionStopped && restoration.bodyPoseVerified &&
    match sweep with
    | none => |commonResidue| ≤ restorationCommonModeToleranceMm && |geometryFinal| ≤ restorationToleranceDeg
    | some sweep => minimumSurroundingsCoverageDeg ≤ sweep.coverageDeg && sweep.coverageDeg ≤ 390

def raysOk (scan : PyDict R) (rays : List (PyValue R)) : Bool :=
  let startImu := startImuOf scan
  let measured := measuredBearings scan
  let partialScan := partialScan scan
  (partialScan || rays.map sideOf = scanRaySides.map some) && rays.all (rayOk measured startImu) &&
    (match field scan "angular_rays" with
      | .none => true
      | .list angular => angularOk partialScan measured startImu rays angular
      | _ => false) &&
    match evidenceRays scan, field scan "all_observations_settled" with
    | .list evidence, .bool settled => settled = evidence.all settledRay
    | _, _ => false

def endOk (scan : PyDict R) (start final : DriveAngles) (restoration : Restoration R) (imu : ImuDiagnostics R)
    (sweep : Option (Sweep R)) : Bool :=
  let measured := measuredBearings scan
  let geometryFinal := geometryFinal measured final start imu
  let sweepBearing := scanSweepBearing (R := R) final start (if measured then imu.finalHeadingDeg else none)
    (if measured then imu.startHeadingDeg else none)
  let restored := expectedRestored restoration sweep geometryFinal (commonModeResidue R final start)
  sweep.all (sweepOk sweepBearing) &&
    (!partialScan scan || sweep.any fun sweep => 0 < sweep.coverageDeg && sweep.coverageDeg < 350) &&
    (partialScan scan || (field scan "state").isStr "complete") &&
    finiteNumber (field scan "start_heading_deg") = some 0 &&
    (finiteNumber (field scan "final_heading_deg")).any (isClose · geometryFinal anglePrecisionDeg) &&
    (finiteNumber (field scan "restoration_error_deg")).any (isClose · geometryFinal anglePrecisionDeg) &&
    isClose restoration.commonModeResidueMm (commonModeResidue R final start) (1 / 10 ^ 9) &&
    isClose restoration.opposedResidueDeg (encoderRelativeBearing R final start) (1 / 10 ^ 9) &&
    (field scan "restoration_verified").bool? = some (!partialScan scan && restored) &&
    (field scan "result").isStr
      (if partialScan scan then "coverage_incomplete" else if restored then "restored" else "restoration_unverified") &&
    imuErrorOk imu

def contractOk (scan : PyDict R) : Bool :=
  ((field scan "bearing_source").isStr bearingSource || (field scan "bearing_source").isStr legacyBearingSource) &&
    (field scan "bearing_frame").isStr bearingFrame &&
    (match field scan "rays" with
      | .list rays => raysOk scan rays
      | _ => false) &&
    match exactDriveAngles (field scan "encoder_start_angles_deg"), exactDriveAngles (field scan "encoder_final_angles_deg"),
      restorationOf (field scan "encoder_restoration"), imuDiagnosticsOf (field scan "imu_heading_diagnostics"), sweepOf scan with
    | some start, some final, some restoration, some imu, some sweep => endOk scan start final restoration imu sweep
    | _, _, _, _, _ => false

inductive ScanError where
  /-- `ValueError("BLAST scan result is invalid")`. -/
  | invalid
  /-- A ray that is no dictionary has no `get`. -/
  | attribute
  /-- `ValueError("BLAST scan drive encoder evidence is invalid")`. -/
  | encoders
  /-- `ValueError("BLAST front scan coverage is incomplete")`. -/
  | coverage
deriving DecidableEq

/-- `validate_blast_scan_ray_contract`, which gives the scan back. -/
def validateBlastScanRayContract (value : PyValue R) : Except ScanError (PyDict R) :=
  match value with
  | .dict scan =>
    if (field scan "schema").isStr schema then
      match evidenceRays scan with
      | .list evidence =>
        match legacyHeadingFieldsValid evidence with
        | none => .error .attribute
        | some headings => if headings && contractOk scan then .ok scan else .error .invalid
      | _ => .error .invalid
    else .error .invalid
  | _ => .error .invalid

end

end RobotLlm.Blast.Scan
