import RobotLlm.Hazard.ScanEvidence
import RobotLlm.Lib.Check
import RobotLlm.Lib.Json

/-!
# Motion from encoder receipts

A result of one semantic action is read as the prefix of its slices that has
encoder evidence, and that evidence moves the pose. Command conformance and
encoder evidence are kept apart: a wheel that undertravelled still moved.
-/

namespace RobotLlm.Odometry

open RobotLlm.Lib RobotLlm.Hazard

/-- What the host's navigation code raises: its own error with a code, the
controller's error, and the errors of Python itself. -/
inductive Fault where
  | contract (code message : String)
  | controller (code message : String) (motionStarted : Option Bool)
  | python (error : String)
deriving DecidableEq

def refuse (code message : String) : Except Fault α := .error (.contract code message)

/-- `ACTIONS`. -/
inductive Action where
  | advance
  | reverse
  | turnLeft90
  | turnRight90
  | scanFrontArc
  | observe
  | finish
deriving DecidableEq

namespace Action

def text : Action → String
  | .advance => "ADVANCE"
  | .reverse => "REVERSE"
  | .turnLeft90 => "TURN_LEFT_90"
  | .turnRight90 => "TURN_RIGHT_90"
  | .scanFrontArc => "SCAN_FRONT_ARC"
  | .observe => "OBSERVE"
  | .finish => "FINISH"

/-- `action in MOTION_ACTIONS`. -/
def IsMotion : Action → Prop
  | .advance | .reverse | .turnLeft90 | .turnRight90 => True
  | .scanFrontArc | .observe | .finish => False

instance : (action : Action) → Decidable action.IsMotion
  | .advance | .reverse | .turnLeft90 | .turnRight90 => .isTrue trivial
  | .scanFrontArc | .observe | .finish => .isFalse id

end Action

def normalizeHeadingMdeg (value : Int) : Int := (value + 180000) % 360000 - 180000

structure OdometryCalibration (F : Type) where
  linearMmPerEncoderDegree : F
  turnMdegPerOpposedEncoderDegree : Int

def MotorRoleOk (role : String) : Prop :=
  role ≠ "" ∧ role.length ≤ 64 ∧ ∀ c ∈ role.toList, c ≠ '\x00' ∧ c ≠ '\r' ∧ c ≠ '\n'

instance : Decidable (MotorRoleOk role) := inferInstanceAs (Decidable (_ ∧ _ ∧ _))

structure DriveMotorRoles where
  left : String
  right : String
  roles_valid : MotorRoleOk left ∧ MotorRoleOk right ∧ left ≠ right

/-- `DriveMotorRoles()`. -/
def DriveMotorRoles.default : DriveMotorRoles := ⟨"left_drive", "right_drive", by decide⟩

structure EncoderMotionSegment where
  leftEncoderDeltaDegrees : Int
  rightEncoderDeltaDegrees : Int
  commandVerified : Bool
  status : Option Json
  kind : Json

inductive MotionStatus where
  | completed
  | interrupted
  | denied
  | verificationFailed
deriving DecidableEq

def MotionStatus.text : MotionStatus → String
  | .completed => "completed"
  | .interrupted => "interrupted"
  | .denied => "denied"
  | .verificationFailed => "verification_failed"

def MotionStatus.ofJson? : Option Json → Option MotionStatus
  | some (.str text) =>
    if text = "completed" then some .completed
    else if text = "interrupted" then some .interrupted
    else if text = "denied" then some .denied
    else if text = "verification_failed" then some .verificationFailed
    else none
  | _ => none

structure VerifiedMotion where
  action : Action
  leftEncoderDeltaDegrees : Int
  rightEncoderDeltaDegrees : Int
  verifiedSliceCount : Int
  requestedSliceCount : Int
  status : MotionStatus
  segments : List EncoderMotionSegment

def VerifiedMotion.complete (m : VerifiedMotion) : Prop :=
  m.status = .completed ∧ m.verifiedSliceCount = m.requestedSliceCount

instance (m : VerifiedMotion) : Decidable m.complete := inferInstanceAs (Decidable (_ ∧ _))

-- Reading receipts

/-- `value in ([], None)`. -/
def emptyOrNone : Option Json → Bool
  | none | some .null | some (.arr []) => true
  | _ => false

/-- `value in ([], {}, None)`. -/
def emptyTokens : Option Json → Bool
  | some (.obj []) => true
  | value => emptyOrNone value

/-- A stop that was confirmed without errors or fault tokens. -/
def stopVerified : Option Json → Bool
  | some (.obj stop) =>
    decide (Json.IsTrue (stop.lookup "stop_confirmed")) && emptyOrNone (stop.lookup "errors") &&
      emptyTokens (stop.lookup "fault_tokens")
  | _ => false

/-- `stop.get("cleanup_errors", []) == []`. -/
def cleanedUp (stop : Option Json) : Bool :=
  match stop.bind (Json.get? "cleanup_errors") with
  | none | some (.arr []) => true
  | _ => false

/-- The `passed` flag of an encoder verification, where it is one. -/
def passedFlag (verification : Option Json) : Option Bool :=
  match verification.bind (Json.get? "passed") with
  | some (.bool passed) => some passed
  | _ => none

def motorFields : List String := ["side", "role", "position_before", "position_after", "position_delta", "state"]

def hasRole (role : String) : Json → Bool
  | .obj motor => Json.IsStr role (motor.lookup "role")
  | _ => false

def motorDelta (receipt : List (String × Json)) (role side : String) : Except Fault Int :=
  match receipt.lookup "motors" with
  | some (.arr motors) =>
    match motors.filter (hasRole role) with
    | [.obj motor] => do
      require (Json.HasKeys motor motorFields) (.contract "invalid_slice_motor_fields" "Motion slice motor fields are invalid")
      require (Json.IsStr side (motor.lookup "side"))
        (.contract "drive_side_role_mismatch" "Configured drive role was reported for the wrong side")
      match motor.lookup "position_before", motor.lookup "position_after", motor.lookup "position_delta" with
      | some (.int before), some (.int after), some (.int delta) =>
        if after - before = delta then .ok delta else refuse "invalid_encoder_receipt" "Encoder receipt is inconsistent"
      | _, _, _ => refuse "invalid_encoder_receipt" "Encoder receipt is inconsistent"
    | _ => refuse "invalid_slice_motor_role" "Motion slice did not contain one receipt per drive motor"
  | _ => refuse "invalid_slice_motors" "Motion slice had no motor receipts"

/-- One entry of a slice's `segments`. -/
def temporalSegment (roles : DriveMotorRoles) : Json → Except Fault EncoderMotionSegment
  | .obj segment =>
    match stopVerified (segment.lookup "stop"), passedFlag (segment.lookup "encoder_verification") with
    | true, some passed => do
      let left ← motorDelta segment roles.left "left"
      let right ← motorDelta segment roles.right "right"
      .ok { leftEncoderDeltaDegrees := left
            rightEncoderDeltaDegrees := right
            commandVerified := passed
            status := segment.lookup "status"
            kind := (segment.lookup "kind").getD (.str "commanded") }
    | _, _ => refuse "unverified_motion_segment" "Temporal encoder segment lacks clean evidence"
  | _ => refuse "invalid_motion_segment" "Temporal encoder segment is invalid"

/-- The segments of a slice; a slice without them is one segment itself. -/
def temporalSegments (receipt : List (String × Json)) : Except Fault (List Json) :=
  match receipt.lookup "segments" with
  | none | some .null => .ok [.obj receipt]
  | some (.arr []) => refuse "invalid_motion_segments" "Started motion lacks temporal encoder segments"
  | some (.arr segments) => .ok segments
  | some _ => refuse "invalid_motion_segments" "Started motion lacks temporal encoder segments"

/-- The segments a receipt adds and whether its command was verified; `none`
where the observable prefix ends before it. -/
def readReceipt (roles : DriveMotorRoles) (receipt : List (String × Json)) :
    Except Fault (Option (List EncoderMotionSegment × Bool)) :=
  match passedFlag (receipt.lookup "encoder_verification"), stopVerified (receipt.lookup "stop") with
  | some passed, true =>
    match receipt.lookup "motors" with
    | some (.arr []) => do
      require (Json.IsStr "denied" (receipt.lookup "status"))
        (.contract "missing_encoder_evidence" "A started motion receipt lacks encoder evidence")
      .ok none
    | _ => do
      let outerLeft ← motorDelta receipt roles.left "left"
      let outerRight ← motorDelta receipt roles.right "right"
      let temporal ← temporalSegments receipt
      let added ← temporal.mapM (temporalSegment roles)
      require ((added.map (·.leftEncoderDeltaDegrees)).sum = outerLeft ∧
          (added.map (·.rightEncoderDeltaDegrees)).sum = outerRight)
        (.contract "motion_segment_aggregate_mismatch" "Temporal encoder segments do not match the slice total")
      .ok (some (added, passed))
  | _, _ => .ok none

section
variable (F : Type) [PyFloat F]

/-- The loop over the slices: the segments read and the number of verified
commands. -/
def readSlices (requested : Int) (roles : DriveMotorRoles) :
    (expectedIndex : Int) → List Json → Except Fault (List EncoderMotionSegment × Int)
  | _, [] => .ok ([], 0)
  | expectedIndex, .obj receipt :: slices => do
    require (Json.IsNumber F expectedIndex (receipt.lookup "slice_index") ∧
        Json.IsNumber F requested (receipt.lookup "slice_count"))
      (.contract "noncontiguous_motion_slices" "Motion receipts must form a contiguous prefix")
    match ← readReceipt roles receipt with
    | none => .ok ([], 0)
    | some (added, verified) =>
      if Json.IsStr "completed" (receipt.lookup "status") then do
        let (segments, count) ← readSlices requested roles (expectedIndex + 1) slices
        .ok (added ++ segments, verified.toInt + count)
      else .ok (added, verified.toInt)
  | _, _ :: _ => refuse "invalid_motion_slice" "Motion slice is invalid"

/-- `requested_slice_count` and `completed_slice_count`. -/
def sliceCounts (outcome : List (String × Json)) : Except Fault (Int × Int) :=
  match outcome.lookup "requested_slice_count", outcome.lookup "completed_slice_count" with
  | some (.int requested), some (.int completed) =>
    if 0 < requested ∧ 0 ≤ completed ∧ completed ≤ requested then .ok (requested, completed)
    else refuse "invalid_slice_accounting" "Motion slice accounting is invalid"
  | _, _ => refuse "invalid_slice_accounting" "Motion slice accounting is invalid"

def outcomeSlices (outcome : List (String × Json)) (requested : Int) : Except Fault (List Json) :=
  match outcome.lookup "slices" with
  | some (.arr slices) =>
    if (slices.length : Int) ≤ requested then .ok slices else refuse "invalid_motion_slices" "Motion slices are invalid"
  | _ => refuse "invalid_motion_slices" "Motion slices are invalid"

def motionStatus (outcome : List (String × Json)) : Except Fault MotionStatus :=
  match MotionStatus.ofJson? (outcome.lookup "status") with
  | some status => .ok status
  | none => refuse "invalid_motion_status" "Motion outcome status is invalid"

def motionOutcome (action : Action) (result : List (String × Json)) : Except Fault (List (String × Json)) :=
  match result.lookup "outcome" with
  | some (.obj outcome) =>
    if Json.IsStr action.text (outcome.lookup "action") then .ok outcome
    else refuse "invalid_motion_outcome" "Motion outcome is invalid"
  | _ => refuse "invalid_motion_outcome" "Motion outcome is invalid"

/-- The checks on the outcome once its slices were read. -/
def checkOutcome (outcome : List (String × Json)) (status : MotionStatus) (requested completed verified : Int) :
    Except Fault Unit := do
  require (completed ≤ verified)
    (.contract "unverified_completed_slice" "Worker counted an unverified motion slice as completed")
  let verification := outcome.lookup "encoder_verification"
  require (Json.IsNumber F requested (verification.bind (Json.get? "requested_slice_count")) ∧
      Json.IsNumber F verified (verification.bind (Json.get? "verified_slice_count")))
    (.contract "invalid_top_level_verification" "Top-level encoder verification is inconsistent")
  require (status = .completed →
      passedFlag verification = some true ∧ verified = requested ∧ completed = requested)
    (.contract "incomplete_completed_motion" "Completed motion lacks complete encoder verification")

def resultFields : List String := ["action", "outcome", "observation", "stop"]

def verifiedMotionFromResult (action : Action) (result : Json) (roles : DriveMotorRoles) :
    Except Fault VerifiedMotion := do
  require action.IsMotion (.contract "invalid_motion_action" "Odometry can only consume a motion action")
  match result with
  | .obj result => do
    require (Json.HasKeys result resultFields ∧ Json.IsStr action.text (result.lookup "action"))
      (.contract "motion_result_correlation_mismatch" "Motion result does not match the requested action")
    require (stopVerified (result.lookup "stop") ∧ cleanedUp (result.lookup "stop"))
      (.contract "motion_stop_not_verified" "Motion result did not end in a clean verified stop")
    let outcome ← motionOutcome action result
    let status ← motionStatus outcome
    let (requested, completed) ← sliceCounts outcome
    let slices ← outcomeSlices outcome requested
    let (segments, verified) ← readSlices F requested roles 1 slices
    checkOutcome F outcome status requested completed verified
    .ok { action
          leftEncoderDeltaDegrees := (segments.map (·.leftEncoderDeltaDegrees)).sum
          rightEncoderDeltaDegrees := (segments.map (·.rightEncoderDeltaDegrees)).sum
          verifiedSliceCount := verified
          requestedSliceCount := requested
          status
          segments }
  | _ => refuse "motion_result_correlation_mismatch" "Motion result does not match the requested action"

-- Moving the pose

/-- `_validate_direction`: the signs of a motion action. -/
def DirectionValid (left right : Int) : Action → Prop
  | .advance => 0 ≤ left ∧ 0 ≤ right
  | .reverse => left ≤ 0 ∧ right ≤ 0
  | .turnLeft90 => left ≤ 0 ∧ 0 ≤ right
  | .turnRight90 => 0 ≤ left ∧ right ≤ 0
  | .scanFrontArc | .observe | .finish => False

instance : (action : Action) → Decidable (DirectionValid left right action)
  | .advance | .reverse | .turnLeft90 | .turnRight90 => inferInstanceAs (Decidable (_ ∧ _))
  | .scanFrontArc | .observe | .finish => .isFalse id

/-- `segment.kind in {"inter_action_settling", "inter_slice_settling"}`. A list
or an object has no hash. -/
def uncommandedSettling : Json → Except Fault Bool
  | .str kind => .ok (kind = "inter_action_settling" ∨ kind = "inter_slice_settling")
  | .arr _ | .obj _ => .error (.python "TypeError")
  | .null | .bool _ | .int _ | .float _ => .ok false

/-- What the loop over the segments has summed up. -/
structure Travel where
  xMm : Int
  yMm : Int
  headingMdeg : Int
  travelledMm : Int
  turnedMdeg : Int

/-- One segment: an arc of a circle, or a line where the heading stays. -/
def travelSegment (calibration : OdometryCalibration F) (t : Travel) (left right : Int) : Travel :=
  let centerMm : F := PyMath.mul (PyMath.div (PyMath.ofInt (left + right)) (PyMath.ofInt 2)) calibration.linearMmPerEncoderDegree
  let deltaMdeg := PyMath.round (PyMath.mul (PyMath.div (PyMath.ofInt (right - left)) (PyMath.ofInt 2))
    (PyMath.ofInt calibration.turnMdegPerOpposedEncoderDegree) : F)
  let headingRadians : F := PyMath.radians (PyMath.div (PyMath.ofInt t.headingMdeg) (PyMath.ofInt 1000))
  let deltaRadians : F := PyMath.radians (PyMath.div (PyMath.ofInt deltaMdeg) (PyMath.ofInt 1000))
  let radiusMm := PyMath.div centerMm deltaRadians
  let deltaX :=
    if deltaMdeg = 0 then PyMath.mul (PyMath.cos headingRadians) centerMm
    else PyMath.mul radiusMm (PyMath.sub (PyMath.sin (PyFloat.add headingRadians deltaRadians)) (PyMath.sin headingRadians))
  let deltaY :=
    if deltaMdeg = 0 then PyMath.mul (PyMath.sin headingRadians) centerMm
    else PyMath.mul (PyFloat.neg radiusMm)
      (PyMath.sub (PyMath.cos (PyFloat.add headingRadians deltaRadians)) (PyMath.cos headingRadians))
  { xMm := t.xMm + PyMath.round deltaX
    yMm := t.yMm + PyMath.round deltaY
    headingMdeg := normalizeHeadingMdeg (t.headingMdeg + deltaMdeg)
    travelledMm := t.travelledMm + (PyMath.round centerMm).natAbs
    turnedMdeg := t.turnedMdeg + deltaMdeg.natAbs }

def travelSegments (calibration : OdometryCalibration F) (action : Action) (maxUncommandedDriftDegrees : Int) :
    Travel → List EncoderMotionSegment → Except Fault Travel
  | t, [] => .ok t
  | t, segment :: segments => do
    let left := segment.leftEncoderDeltaDegrees
    let right := segment.rightEncoderDeltaDegrees
    if ← uncommandedSettling segment.kind then
      require (0 < maxUncommandedDriftDegrees ∧ segment.commandVerified = false ∧
          left.natAbs ≤ maxUncommandedDriftDegrees ∧ right.natAbs ≤ maxUncommandedDriftDegrees)
        (.contract "encoder_direction_mismatch" "Uncommanded encoder drift exceeds its allowance")
      travelSegments calibration action maxUncommandedDriftDegrees (travelSegment F calibration t left right) segments
    else
      require (DirectionValid left right action)
        (.contract "encoder_direction_mismatch" "Verified encoder direction contradicts the semantic action")
      travelSegments calibration action maxUncommandedDriftDegrees (travelSegment F calibration t left right) segments

/-- `PhysicalPose(..)`. -/
def newPose (xMm yMm headingMdeg verifiedMotionCount totalForwardMm totalTurnMdeg : Int) : Except Fault PhysicalPose :=
  (PhysicalPose.new xMm yMm headingMdeg verifiedMotionCount totalForwardMm totalTurnMdeg).mapError fun code =>
    .contract code (if code = "invalid_heading" then "Physical pose heading is invalid" else "Physical pose totals are invalid")

/-- The segments that are applied: a motion without segments whose command was
verified is one segment of its own. -/
def appliedSegments (motion : VerifiedMotion) : List EncoderMotionSegment :=
  if motion.segments = [] ∧ motion.verifiedSliceCount ≠ 0 then
    [{ leftEncoderDeltaDegrees := motion.leftEncoderDeltaDegrees
       rightEncoderDeltaDegrees := motion.rightEncoderDeltaDegrees
       commandVerified := motion.complete
       status := some (.str motion.status.text)
       kind := .str "commanded" }]
  else motion.segments

def applyVerifiedMotion (pose : PhysicalPose) (motion : VerifiedMotion) (calibration : OdometryCalibration F)
    (maxUncommandedDriftDegrees : Int) : Except Fault PhysicalPose := do
  require (0 ≤ maxUncommandedDriftDegrees)
    (.contract "invalid_uncommanded_drift_limit" "Uncommanded encoder drift limit is invalid")
  let segments := appliedSegments motion
  if segments.all fun s => s.leftEncoderDeltaDegrees = 0 ∧ s.rightEncoderDeltaDegrees = 0 then .ok pose
  else
    let t ← travelSegments F calibration motion.action maxUncommandedDriftDegrees
      ⟨pose.xMm, pose.yMm, pose.headingMdeg, 0, 0⟩ segments
    newPose t.xMm t.yMm t.headingMdeg (pose.verifiedMotionCount + 1) (pose.totalForwardMm + t.travelledMm)
      (pose.totalTurnMdeg + t.turnedMdeg)

end

end RobotLlm.Odometry
