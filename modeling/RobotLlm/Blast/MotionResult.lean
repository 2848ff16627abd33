import RobotLlm.Odometry.VerifiedMotion

/-!
# Motion results from native receipts

One semantic action of BLAST is a short sequence of native commands. The
receipts of the commands that ran are checked against the fixed profile and
against each other, and written as the kind of result that the shared encoder
odometry reads. Encoder motion between two commands becomes a segment of its
own, so that none of it is lost.
-/

namespace RobotLlm.Blast

open RobotLlm.Lib RobotLlm.Odometry

abbrev Angles := Int × Int

-- The action profile

def driveSpeedDps : Int := 120
def driveEncoderDegrees : Int := 90
def driveDurationMs : Int := 750
def turnSpeedDps : Int := 180
def turnEncoderDegreesPerPulse : Int := 45
def turnTrimEncoderDegrees : Int := 15
def turnDurationMsPerPulse : Int := 250
def turnPulsesPerQuarterTurn : Nat := 4

/-- `BLAST_ENCODER_SETTLING_DEGREES`: one centimetre at 0.5 mm a degree. -/
def blastEncoderSettlingDegrees : Int := 20

inductive PulseCommand where
  | driveForward
  | driveReverse
  | turnLeft (trim : Bool)
  | turnRight (trim : Bool)
deriving DecidableEq

namespace PulseCommand

def text : PulseCommand → String
  | .driveForward => "drive_forward"
  | .driveReverse => "drive_reverse"
  | .turnLeft trim => if trim then "turn_left_trim" else "turn_left"
  | .turnRight trim => if trim then "turn_right_trim" else "turn_right"

/-- `command + "_trim"` of a turn. -/
def trimmed : PulseCommand → PulseCommand
  | .turnLeft _ => .turnLeft true
  | .turnRight _ => .turnRight true
  | command => command

def IsTurn : PulseCommand → Bool
  | .turnLeft _ | .turnRight _ => true
  | .driveForward | .driveReverse => false

def IsTrim : PulseCommand → Bool
  | .turnLeft trim | .turnRight trim => trim
  | .driveForward | .driveReverse => false

end PulseCommand

def blastNavigationCommands : Action → Option (List PulseCommand)
  | .advance => some [.driveForward]
  | .reverse => some [.driveReverse]
  | .turnLeft90 => some (List.replicate turnPulsesPerQuarterTurn (.turnLeft false))
  | .turnRight90 => some (List.replicate turnPulsesPerQuarterTurn (.turnRight false))
  | .scanFrontArc | .observe | .finish => none

/-- `slice_durations_ms` of an action's specification, at every slice. -/
def sliceDurationMs (command : PulseCommand) : Int := if command.IsTurn then turnDurationMsPerPulse else driveDurationMs

/-- `round(duration * TURN_TRIM_ENCODER_DEGREES / TURN_ENCODER_DEGREES_PER_PULSE)`. -/
def trimDurationMs (durationMs : Int) : Int :=
  (2 * durationMs * turnTrimEncoderDegrees + turnEncoderDegreesPerPulse) / (2 * turnEncoderDegreesPerPulse)

structure CommandProfile where
  direction : String
  speedDps : Int
  angleField : String
  angleDeg : Int
  signs : Int × Int

def commandProfile : PulseCommand → CommandProfile
  | .driveForward => ⟨"forward", driveSpeedDps, "angle_deg", driveEncoderDegrees, (1, 1)⟩
  | .driveReverse => ⟨"reverse", driveSpeedDps, "angle_deg", driveEncoderDegrees, (-1, -1)⟩
  | .turnLeft trim =>
    ⟨"left", turnSpeedDps, "wheel_angle_deg", if trim then turnTrimEncoderDegrees else turnEncoderDegreesPerPulse, (-1, 1)⟩
  | .turnRight trim =>
    ⟨"right", turnSpeedDps, "wheel_angle_deg", if trim then turnTrimEncoderDegrees else turnEncoderDegreesPerPulse, (1, -1)⟩

-- Decoding a command result

def driveRoles : List String := ["left_drive", "right_drive"]

def commandResultSchema : String := "controller-command-result/v1"
def robotId : String := "blast-01"
def controllerId : String := "blast-01.hub"

def commandResultFields : List String :=
  ["schema", "robot_id", "controller_id", "command", "accepted", "completed", "receipt", "observation",
    "observation_settled"]

def encoderEvidenceInvalid : Fault :=
  .contract "blast_motion_encoder_evidence_invalid" "BLAST drive encoder evidence is invalid"

def angles (exact : Bool) : Option Json → Except Fault Angles
  | some (.obj fields) =>
    if exact ∧ ¬ Json.HasKeys fields driveRoles then .error encoderEvidenceInvalid
    else
      match fields.lookup "left_drive", fields.lookup "right_drive" with
      | some (.int left), some (.int right) => .ok (left, right)
      | _, _ => .error encoderEvidenceInvalid
  | _ => .error encoderEvidenceInvalid

def isBool : Option Json → Bool
  | some (.bool _) => true
  | _ => false

def isObject : Option Json → Bool
  | some (.obj _) => true
  | _ => false

structure CommandEvidence where
  before : Angles
  after : Angles
  checks : Bool × Bool

section
variable (F : Type) [PyFloat F]

def receiptMatches (profile : CommandProfile) : Option Json → Prop
  | some (.obj receipt) =>
    Json.HasKeys receipt ["accepted", "direction", "speed_dps", profile.angleField, "before_angles_deg"] ∧
      Json.IsTrue (receipt.lookup "accepted") ∧ Json.IsStr profile.direction (receipt.lookup "direction") ∧
      Json.IsNumber F profile.speedDps (receipt.lookup "speed_dps") ∧
      Json.IsNumber F profile.angleDeg (receipt.lookup profile.angleField)
  | _ => False

instance : (receipt : Option Json) → Decidable (receiptMatches F profile receipt)
  | some (.obj _) => inferInstanceAs (Decidable (_ ∧ _ ∧ _ ∧ _ ∧ _))
  | none | some .null | some (.str _) | some (.int _) | some (.float _) | some (.arr _) | some (.bool _) => .isFalse id

def decodeResult (command : PulseCommand) (result : Json) : Except Fault CommandEvidence := do
  match result with
  | .obj fields => do
    require (Json.HasKeys fields commandResultFields ∧ Json.IsStr commandResultSchema (fields.lookup "schema") ∧
        Json.IsStr robotId (fields.lookup "robot_id") ∧ Json.IsStr controllerId (fields.lookup "controller_id") ∧
        Json.IsStr command.text (fields.lookup "command") ∧ Json.IsTrue (fields.lookup "accepted") ∧
        Json.IsTrue (fields.lookup "completed") ∧ isBool (fields.lookup "observation_settled"))
      (.contract "blast_motion_result_contract_mismatch" "BLAST motion result is not correlated and complete")
    let profile := commandProfile command
    let receipt := fields.lookup "receipt"
    require (receiptMatches F profile receipt)
      (.contract "blast_motion_receipt_profile_mismatch" "BLAST motion receipt does not match its fixed profile")
    let before ← angles true (receipt.bind (Json.get? "before_angles_deg"))
    let observation := fields.lookup "observation"
    require (isObject observation ∧ Json.IsFalse (observation.bind (Json.get? "motion_active")))
      (.contract "blast_motion_encoder_evidence_invalid" "BLAST motion lacks a stopped final observation")
    let after ← angles false (observation.bind (Json.get? "motor_angles_deg"))
    let deltas := after - before
    -- a fourfold cap against corrupted data, not a travel tolerance
    require (deltas.1.natAbs ≤ profile.angleDeg * 4 ∧ deltas.2.natAbs ≤ profile.angleDeg * 4)
      (.contract "blast_motion_encoder_evidence_invalid" "BLAST encoder travel is physically implausible")
    .ok { before, after, checks := (deltas.1 * profile.signs.1 > 0, deltas.2 * profile.signs.2 > 0) }
  | _ => refuse "blast_motion_result_contract_mismatch" "BLAST motion result is not correlated and complete"

end

-- Writing slices

def cleanStop : Json :=
  .obj [("stop_confirmed", .bool true), ("errors", .arr []), ("fault_tokens", .obj []), ("cleanup_errors", .arr [])]

def motorReceipt (side role : String) (start finish : Int) : Json :=
  .obj [("side", .str side), ("role", .str role), ("position_before", .int start), ("position_after", .int finish),
    ("position_delta", .int (finish - start)), ("state", .str "")]

def motors (before after : Angles) : Json :=
  .arr [motorReceipt "left" "left_drive" before.1 after.1, motorReceipt "right" "right_drive" before.2 after.2]

def verificationError (verified : Bool) (error : String) : Json := if verified then .null else .str error

def encoderVerification (verified : Bool) (error : String) (checks : Bool × Bool) : Json :=
  .obj [("passed", .bool verified), ("error", verificationError verified error),
    ("checks", .arr [
      .obj [("side", .str "left"), ("passed", .bool checks.1)], .obj [("side", .str "right"), ("passed", .bool checks.2)]])]

def segment (kind : String) (commandedSides : List String) (before after : Angles) (checks : Bool × Bool)
    (verified : Bool) (error reason : String) : Json :=
  .obj [("kind", .str kind), ("commanded_sides", .arr (commandedSides.map .str)), ("status", .str "completed"),
    ("reason", .str reason), ("motors", motors before after),
    ("encoder_verification", encoderVerification verified error checks), ("stop", cleanStop)]

def settlingReason (settlingKind : String) : String :=
  if settlingKind = "inter_action_settling" then "inter_action_encoder_settling_observed"
  else "inter_slice_encoder_settling_observed"

/-- `_slice`. Motion before the command is a segment of its own. -/
def slice (index count durationMs : Int) (before commandBefore after : Angles) (checks settlingChecks : Bool × Bool)
    (settlingKind : String) : Json :=
  let verified := checks.1 && checks.2
  let whole := [
    ("slice_index", .int index), ("slice_count", .int count), ("duration_ms", .int durationMs),
    ("status", .str "completed"), ("reason", .str "angle_command_completed"), ("motors", motors before after),
    ("encoder_verification", encoderVerification verified "encoder direction missing" checks), ("stop", cleanStop)]
  if commandBefore = before then .obj whole
  else
    .obj (whole ++ [("segments", .arr [
      segment settlingKind [] before commandBefore settlingChecks false "uncommanded encoder settling"
        (settlingReason settlingKind),
      segment "commanded" ["left", "right"] commandBefore after checks verified "encoder direction missing"
        "angle_command_completed"])])

-- Building the result

/-- Encoder motion that is small enough to be settling. -/
def Settles (previous current : Angles) : Prop :=
  (current.1 - previous.1).natAbs ≤ blastEncoderSettlingDegrees ∧ (current.2 - previous.2).natAbs ≤ blastEncoderSettlingDegrees

instance : Decidable (Settles previous current) := inferInstanceAs (Decidable (_ ∧ _))

def pairText (pair : Angles) : String := "(" ++ toString pair.1 ++ ", " ++ toString pair.2 ++ ")"

def discontinuous (action : Action) (index : Nat) (previous before : Angles) : Fault :=
  .contract "blast_motion_slice_discontinuous"
    ("BLAST motion has an unobserved encoder gap: action=" ++ action.text ++ " slice=" ++ toString index ++
      " previous=" ++ pairText previous ++ " before=" ++ pairText before ++ " delta=" ++ pairText (before - previous))

section
variable (F : Type) [PyFloat F]

/-- The trim variant of a turn, where the result names it. -/
def namedCommand (command : PulseCommand) (result : Json) : Except Fault PulseCommand :=
  if command.IsTurn then
    match result with
    | .obj fields =>
      .ok (if Json.IsStr command.trimmed.text (fields.lookup "command") then command.trimmed else command)
    | _ => .error (.python "AttributeError")
  else .ok command

/-- One round of the loop: the slice of one command and the angles after it. -/
def buildSlice (action : Action) (count : Nat) (allowInitialSettling : Bool) (index : Nat) (previousAfter : Angles)
    (command : PulseCommand) (result : Json) : Except Fault (Json × Angles) := do
  let command ← namedCommand command result
  let evidence ← decodeResult F command result
  require (evidence.before = previousAfter ∨ (¬ (index = 1 ∧ allowInitialSettling = false) ∧ Settles previousAfter evidence.before))
    (discontinuous action index previousAfter evidence.before)
  let duration := sliceDurationMs command
  .ok (slice index count (if command.IsTrim then trimDurationMs duration else duration) previousAfter evidence.before
    evidence.after evidence.checks
    (decide ((evidence.before.1 - previousAfter.1).natAbs ≤ blastEncoderSettlingDegrees),
      decide ((evidence.before.2 - previousAfter.2).natAbs ≤ blastEncoderSettlingDegrees))
    (if index = 1 then "inter_action_settling" else "inter_slice_settling"), evidence.after)

def buildSlices (action : Action) (count : Nat) (allowInitialSettling : Bool) :
    (index : Nat) → (previousAfter : Angles) → List (PulseCommand × Json) → Except Fault (List Json × Angles)
  | _, previousAfter, [] => .ok ([], previousAfter)
  | index, previousAfter, (command, result) :: rest => do
    let (item, after) ← buildSlice F action count allowInitialSettling index previousAfter command result
    let (slices, final) ← buildSlices action count allowInitialSettling (index + 1) after rest
    .ok (item :: slices, final)

/-- `item["encoder_verification"]["passed"]`. -/
def slicePassed (item : Json) : Bool := passedFlag (item.get? "encoder_verification") = some true

def canonicalObservationInvalid (message : String) : Fault := .contract "blast_canonical_observation_invalid" message

/-- The role of a motor that is one of the two drives. -/
def driveRole? (motor : Json) : Option String :=
  match motor.get? "role" with
  | some (.str role) => if role ∈ driveRoles then some role else none
  | _ => none

/-- The position of a drive, the last one where a role stands twice. -/
def positionOf (matching : List Json) (role : String) : Option Int :=
  (matching.reverse.filterMap fun motor =>
    match driveRole? motor, motor.get? "position" with
    | some r, some (.int position) => if r = role then some position else none
    | _, _ => none).head?

def correlatedObservation (value : Json) (finalAngles : Angles) (outcome : Json) : Except Fault Json :=
  match value, value.get? "motors" with
  | .obj fields, some (.arr motors) =>
    let matching := motors.filter fun motor => (driveRole? motor).isSome
    if matching.length ≠ 2 ∨ positionOf matching "left_drive" ≠ some finalAngles.1 ∨
        positionOf matching "right_drive" ≠ some finalAngles.2 then
      .error (canonicalObservationInvalid "Canonical BLAST observation is not correlated with motion")
    else .ok (.obj (Json.setField "last_outcome" outcome fields))
  | _, _ => .error (canonicalObservationInvalid "Canonical BLAST observation lacks motor positions")

def motionOutcomeOf (action : Action) (requested : Nat) (slices : List Json) : Json :=
  let verified := slices.countP slicePassed
  let (status, reason) :=
    if verified ≠ slices.length then ("verification_failed", "encoder_verification_failed")
    else if slices.length = requested then ("completed", "semantic_action_completed")
    else ("interrupted", "semantic_action_incomplete")
  .obj [("kind", .str "pulse"), ("action", .str action.text), ("status", .str status), ("reason", .str reason),
    ("stop_confirmed", .bool true), ("requested_slice_count", .int requested), ("completed_slice_count", .int verified),
    ("slices", .arr slices),
    ("encoder_verification", .obj [("passed", .bool (verified = requested)), ("verified_slice_count", .int verified),
      ("requested_slice_count", .int requested)])]

def buildBlastNavigationMotionResult (action : Action) (commandResults : List Json) (expectedStartAngles : Json)
    (canonicalObservation : Json) (allowInitialSettling : Bool) : Except Fault Json :=
  match blastNavigationCommands action with
  | none => refuse "invalid_blast_motion_action" "BLAST cannot translate this semantic action"
  | some commands => do
    require (1 ≤ commandResults.length ∧ commandResults.length ≤ commands.length ∧
        ¬ (commands.length = 1 ∧ commandResults.length ≠ 1))
      (.contract "blast_motion_result_count_mismatch" "BLAST receipts do not form a valid action prefix")
    let start ← angles true (some expectedStartAngles)
    let (slices, final) ← buildSlices F action commands.length allowInitialSettling 1 start (commands.zip commandResults)
    let outcome := motionOutcomeOf action commands.length slices
    let observation ← correlatedObservation canonicalObservation final outcome
    .ok (.obj [("action", .str action.text), ("outcome", outcome), ("observation", observation), ("stop", cleanStop)])

end

end RobotLlm.Blast
