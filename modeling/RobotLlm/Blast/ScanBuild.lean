import Mathlib.Data.List.Sort
import RobotLlm.Blast.ScanContract

/-!
# Scans as they are built

The samples of a sweep become the rays of a scan: of a whole front arc, or of
the part that was measured before the sweep was cut short. Either is checked
against the contract before it is handed on.
-/

namespace RobotLlm.Blast.Scan

open RobotLlm.Lib
open RobotLlm.Lib.PyValue (field)

/-- A pulse of the sweep: what was observed, and what it may be used for. -/
structure Sample (R : Type) where
  observation : PyDict R
  settled : Bool
  evidenceUse : String

section
variable {R : Type} [Field R] [LinearOrder R] [FloorRing R]

/-- `observation.get("motion_active") is False`. -/
def motionStopped (observation : PyDict R) : Bool := (field observation "motion_active").bool? = some false

def DriveAngles.toDict (angles : DriveAngles) : PyDict R := [("left_drive", .int angles.left), ("right_drive", .int angles.right)]

/-- `observed_at_ms`, if it is an integer. -/
def observedAtMs (observation : PyDict R) : PyValue R :=
  match field observation "observed_at_ms" with
  | .int value => .int value
  | _ => .none

/-- The fields of `scan_ray`, for known drive angles. -/
def rayFields (side : String) (observation : PyDict R) (current start : DriveAngles) (settled : Bool) (evidenceUse : String)
    (startImu : Option R) : PyDict R :=
  let heading : PyValue R := .float (scanRelativeBearing current start (scanHeading observation) startImu)
  let distance : PyValue R := .ofOption .float (finiteNumber (field observation "distance_mm"))
  [("side", .str side), ("distance_mm", distance), ("range_state", .str (blastRangeState distance)),
    ("body_motor_angle_deg", .ofOption .int (bodyMotorAngle observation)), ("heading_deg", heading),
    ("relative_heading_deg", heading), ("imu_heading_deg", .ofOption .float (scanHeading observation)),
    ("drive_encoder_delta_deg", .dict (current.since start).toDict), ("observation_settled", .bool settled),
    ("evidence_use", .str evidenceUse), ("observed_at_ms", observedAtMs observation)]

def scanRay (side : String) (sample : Sample R) (start : DriveAngles) (startImu : Option R) : Except ScanError (PyDict R) :=
  match driveEncoderAngles sample.observation with
  | some current => .ok (rayFields side sample.observation current start sample.settled sample.evidenceUse startImu)
  | none => .error .encoders

def sideRays (start : String) (samples : List (Sample R)) (startAngles : DriveAngles) (startImu : Option R) :
    Except ScanError (List (PyDict R)) :=
  samples.zipIdx.mapM fun sample => scanRay (start ++ toString (sample.2 + 1)) sample.1 startAngles startImu

def centerSample (center : PyDict R) (settled : Bool) : Sample R :=
  ⟨center, settled, if settled then settledRange else sweepContinuationOnly⟩

/-- `{**ray, "side": side}`. -/
def withSide (side : String) (ray : PyDict R) : PyDict R :=
  ray.map fun entry => if entry.1 = "side" then ("side", .str side) else entry

/-- `encoder_restoration`. -/
def restorationFields (final : PyDict R) (finalAngles : Option DriveAngles) (start : DriveAngles) (finalSettled bodyVerified : Bool) : PyDict R :=
  [("common_mode_residue_mm", .ofOption .float (finalAngles.map (commonModeResidue R · start))),
    ("opposed_residue_deg", .ofOption .float (finalAngles.map (encoderRelativeBearing R · start))),
    ("motion_stopped", .bool (motionStopped final)), ("observation_settled", .bool finalSettled),
    ("body_pose_verified", .bool bodyVerified)]

/-- `imu_heading_diagnostics`. -/
def imuFields (startImu finalImu : Option R) : PyDict R :=
  [("authority", .str imuDiagnosticAuthority), ("start_heading_deg", .ofOption .float startImu),
    ("final_heading_deg", .ofOption .float finalImu),
    ("restoration_error_deg", .ofOption .float (scanHeadingDelta finalImu startImu))]

/-- The fields that every scan has, but for its rays and its state. -/
def commonFields (start : DriveAngles) (startImu : Option R) (final : PyDict R) (finalSettled bodyVerified restored : Bool)
    (angular : List (PyDict R)) : PyDict R :=
  let finalAngles := driveEncoderAngles final
  let restorationError : PyValue R :=
    .ofOption .float (finalAngles.map fun angles => scanRelativeBearing angles start (scanHeading final) startImu)
  [("schema", .str schema), ("bearing_source", .str bearingSource), ("bearing_frame", .str bearingFrame),
    ("start_heading_deg", .float 0), ("final_heading_deg", restorationError), ("restoration_error_deg", restorationError),
    ("restoration_verified", .bool restored), ("encoder_start_angles_deg", .dict start.toDict),
    ("encoder_final_angles_deg", .ofOption (fun angles => .dict angles.toDict) finalAngles),
    ("encoder_restoration", .dict (restorationFields final finalAngles start finalSettled bodyVerified)),
    ("imu_heading_diagnostics", .dict (imuFields startImu (scanHeading final))),
    ("all_observations_settled", .bool (angular.all fun ray => settledRay (.dict ray))),
    ("angular_rays", .list (angular.map .dict))]

/-- `restoration_verified` of a front arc. -/
def frontRestored (start : DriveAngles) (startImu : Option R) (final : PyDict R) (bodyVerified : Bool) : Bool :=
  (driveEncoderAngles final).any (fun angles =>
      |commonModeResidue R angles start| ≤ restorationCommonModeToleranceMm &&
        |scanRelativeBearing angles start (scanHeading final) startImu| ≤ restorationToleranceDeg) &&
    motionStopped final && bodyVerified

def frontArcScan (center : PyDict R) (start : DriveAngles) (final : PyDict R) (finalSettled bodyVerified : Bool)
    (centerRay : PyDict R) (left right : List (PyDict R)) : PyDict R :=
  let startImu := scanHeading center
  let restored := frontRestored start startImu final bodyVerified
  ("state", .str "complete") :: ("result", .str (if restored then "restored" else "restoration_unverified")) ::
    ("rays", .list ([centerRay, withSide "left_near" (left.getD 1 []), withSide "left_far" (left.getD 3 []),
      withSide "right_near" (right.getD 1 []), withSide "right_far" (right.getD 3 [])].map .dict)) ::
    commonFields start startImu final finalSettled bodyVerified restored (centerRay :: (left ++ right))

def buildBlastFrontArcScan (center : PyDict R) (centerSettled : Bool) (start : DriveAngles) (leftOutbound rightOutbound : List (Sample R))
    (final : PyDict R) (finalSettled bodyVerified : Bool) : Except ScanError (PyDict R) := do
  let startImu := scanHeading center
  let left ← sideRays "left_" leftOutbound start startImu
  let right ← sideRays "right_" rightOutbound start startImu
  if left.length ≠ 4 ∨ right.length ≠ 4 then .error .coverage
  else do
    let centerRay ← scanRay "center" (centerSample center centerSettled) start startImu
    validateBlastScanRayContract (.dict (frontArcScan center start final finalSettled bodyVerified centerRay left right))

-- Partial scans

/-- The bearing of a sample, which needs its encoders. -/
def bearingOf (start : DriveAngles) (startImu : Option R) (sample : Sample R) : Option R :=
  (driveEncoderAngles sample.observation).map fun current => scanRelativeBearing current start (scanHeading sample.observation) startImu

/-- The samples that have a bearing other than zero, with it. -/
def candidates (start : DriveAngles) (startImu : Option R) (samples : List (Sample R)) : List (R × Sample R) :=
  samples.filterMap fun sample =>
    match bearingOf start startImu sample with
    | some bearing => if bearing = 0 then none else some (bearing, sample)
    | none => none

/-- `values[round(index * (len(values) - 1) / (most - 1))]` for each index, if
there are more than `most`. -/
def thin (R : Type) [Field R] [LinearOrder R] [FloorRing R] (most : Nat) (values : List α) : List α :=
  if values.length > most then
    (List.range most).filterMap fun index => values[(roundEven ((index * (values.length - 1) : Nat) / (most - 1 : Nat) : R)).toNat]?
  else values

/-- `sorted(values, key=lambda item: abs(item[0]))`. -/
def byAngle (values : List (R × Sample R)) : List (R × Sample R) := values.mergeSort fun a b => |a.1| ≤ |b.1|

/-- The samples of `bounded_side`; `left` are those below zero. -/
def boundedSide (left : Bool) (values : List (R × Sample R)) : List (R × Sample R) :=
  thin R 4 (byAngle (values.filter fun item => if left then item.1 < 0 else 0 < item.1))

/-- The sweep as far as it went, before its check. -/
def partialSweepScan (start : DriveAngles) (startImu : Option R) (turnCount : Nat) (final : PyDict R) (finalSettled bodyVerified : Bool)
    (angular : List (PyDict R)) : PyDict R :=
  let sweep := ((driveEncoderAngles final).map fun angles => scanSweepBearing angles start (scanHeading final) startImu).getD 0
  ("state", .str "partial") :: ("result", .str "coverage_incomplete") :: ("sweep_coverage_deg", .float |sweep|) ::
    ("sweep_direction", .str (if 0 < sweep then "right" else "left")) :: ("sweep_turn_count", .int turnCount) ::
    ("rays", .list (angular.map .dict)) :: commonFields start startImu final finalSettled bodyVerified false angular

def buildBlastPartialScan (center : PyDict R) (centerSettled : Bool) (start : DriveAngles) (samples : List (Sample R))
    (final : PyDict R) (finalSettled bodyVerified : Bool) : Except ScanError (PyDict R) := do
  let startImu := scanHeading center
  let values := candidates start startImu samples
  let centerRay ← scanRay "center" (centerSample center centerSettled) start startImu
  let left ← sideRays "left_" ((boundedSide true values).map Prod.snd) start startImu
  let right ← sideRays "right_" ((boundedSide false values).map Prod.snd) start startImu
  validateBlastScanRayContract
    (.dict (partialSweepScan start startImu samples.length final finalSettled bodyVerified (centerRay :: (left ++ right))))

end

end RobotLlm.Blast.Scan
