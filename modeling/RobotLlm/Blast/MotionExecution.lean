import RobotLlm.Blast.MotionResult
import RobotLlm.Lib.Machine
import RobotLlm.Lib.Prog

/-!
# Executing one motion action

The executor sends the commands of a semantic action one after another and
keeps the encoder anchor and the pose they imply. The anchor moves only when
every receipt was accepted; a failure after a command was attempted ends the
localization.
-/

namespace RobotLlm.Blast

open RobotLlm.Lib RobotLlm.Odometry RobotLlm.Hazard

def encoderAngles (observation : Option Json) : Except Fault Angles :=
  match observation with
  | some (.obj fields) =>
    match angles false (fields.lookup "motor_angles_deg") with
    | .ok found => .ok found
    | .error _ =>
      refuse "blast_navigation_encoder_anchor_invalid" "BLAST navigation lacks exact drive encoder anchors"
  | _ => refuse "blast_navigation_observation_invalid" "BLAST navigation requires a controller observation"

def anglesJson (a : Angles) : Json := .obj [("left_drive", .int a.1), ("right_drive", .int a.2)]

def canonicalAt (a : Angles) : Json :=
  .obj [
    ("motors", .arr [
      .obj [("role", .str "left_drive"), ("position", .int a.1), ("state", .str "")],
      .obj [("role", .str "right_drive"), ("position", .int a.2), ("state", .str "")]]),
    ("last_outcome", .obj [])]

def canonicalObservation (observation : Option Json) : Except Fault Json := do
  let found ← encoderAngles observation
  .ok (canonicalAt found)

structure MotionExecution where
  controllerResults : List Json
  motion : VerifiedMotion
  pose : PhysicalPose

structure MotionExecutor where
  expectedStartAngles : Angles
  pose : PhysicalPose
  localizationValid : Bool

/-- `BlastNavigationMotionExecutor(..)`. -/
def MotionExecutor.new (initialObservation : Json) : Except Fault MotionExecutor := do
  let found ← encoderAngles (some initialObservation)
  .ok ⟨found, .origin, true⟩

/-- One call of `execute`, with what the outside answers in it: the controller's
snapshot, and at each pulse its callbacks and the controller's result. A
callback that is not given never cancels and always continues. -/
structure MotionCall where
  action : Action
  trimTurn : Bool
  snapshot : Except Fault Json
  cancelRequested : Nat → Except Fault Bool
  command : Nat → Except Fault Json
  continueRequested : Nat → Except Fault Bool

section
variable (F : Type) [PyFloat F]

/-- `BLAST_PROVISIONAL_NAVIGATION_CALIBRATION.odometry`. -/
def blastOdometry : OdometryCalibration F := ⟨PyFloat.ofText "0.5", 490⟩

-- Headings of the IMU

def finiteNumber : Option Json → Except Fault (Option F)
  | some (.int n) =>
    match PyFloat.ofInt? n with
    | some (x : F) => .ok (if PyFloat.isFinite x then some x else none)
    | none => .error (.python "OverflowError")
  | some (.float text) =>
    let x : F := PyFloat.ofText text
    .ok (if PyFloat.isFinite x then some x else none)
  | _ => .ok none

def scanHeading : Json → Except Fault (Option F)
  | .obj observation =>
    match observation.lookup "imu" with
    | some (.obj imu) => finiteNumber F (imu.lookup "heading_deg")
    | _ => .ok none
  | _ => .error (.python "AttributeError")

/-- `scan_heading(holder.get("observation", {}))`. -/
def headingOf : Json → Except Fault (Option F)
  | .obj holder => scanHeading F ((holder.lookup "observation").getD (.obj []))
  | _ => .error (.python "AttributeError")

def scanHeadingDelta (heading reference : Option F) : Option F :=
  match heading, reference with
  | some heading, some reference =>
    some (PyMath.sub (PyFloat.fmod (PyFloat.add (PyMath.sub heading reference) (PyMath.ofInt 180)) (PyMath.ofInt 360))
      (PyMath.ofInt 180))
  | _, _ => none

/-- `round(yaw_delta * 1000)`, which raises at a NaN. -/
def deltaMdeg (delta : F) : Except Fault Int :=
  match PyFloat.round? (PyMath.mul delta (PyMath.ofInt 1000)) with
  | some value => .ok value
  | none => .error (.python "ValueError")

-- Validating results

def validatedResult (s : MotionExecutor) (action : Action) (results : List Json) :
    Except Fault (Angles × VerifiedMotion × PhysicalPose) :=
  match results.getLast? with
  | none => .error (.python "IndexError")
  | some last => do
    let finalAngles ← encoderAngles (last.get? "observation")
    let canonical ← canonicalObservation (last.get? "observation")
    let built ← buildBlastNavigationMotionResult F action results (anglesJson s.expectedStartAngles) canonical true
    let motion ← verifiedMotionFromResult F action built .default
    let pose ← applyVerifiedMotion F s.pose motion (blastOdometry F) blastEncoderSettlingDegrees
    .ok (finalAngles, motion, pose)

/-- How the loop over the commands came to its end: the results it has, whether
a command had been attempted, and what it raised. -/
structure PulsesEnd where
  results : List Json
  attempted : Bool
  raised : Option Fault

/-- The loop over the commands. Each result but the last command's is validated
with those before it. -/
def runPulses (s : MotionExecutor) (call : MotionCall) : (commands : List PulseCommand) → (index : Nat) →
    (results : List Json) → PulsesEnd
  | [], _, results => ⟨results, true, none⟩
  | _ :: commands, index, results =>
    match call.cancelRequested index with
    | .error e => ⟨results, 0 < index, some e⟩
    | .ok true =>
      if results = [] then
        ⟨results, 0 < index, some (.controller "controller_command_interrupted"
          "BLAST motion was cancelled before motor start" none)⟩
      else ⟨results, true, none⟩
    | .ok false =>
      match call.command index with
      | .error e => ⟨results, true, some e⟩
      | .ok (.obj fields) =>
        let results' := results ++ [.obj fields]
        if commands = [] then ⟨results', true, none⟩
        else
          match validatedResult F s call.action results' with
          | .error e => ⟨results', true, some e⟩
          | .ok _ =>
            match call.continueRequested index with
            | .error e => ⟨results', true, some e⟩
            | .ok false => ⟨results', true, none⟩
            | .ok true => runPulses s call commands (index + 1) results'
      | .ok _ =>
        ⟨results, true, some (.contract "blast_command_result_invalid" "BLAST returned an invalid command result")⟩

/-- The commands of a call; only turns have a correction pulse. -/
def callCommands (call : MotionCall) (commands : List PulseCommand) : Except Fault (List PulseCommand) :=
  if call.trimTurn then
    if call.action = .turnLeft90 ∨ call.action = .turnRight90 then .ok ((commands.take 1).map (·.trimmed))
    else .error (.python "ValueError")
  else .ok commands

-- One call

def reanchorHeading (headingMdeg : Int) : Prog MotionExecutor Fault Unit := do
  let s ← get
  let pose ← Prog.ofExcept (newPose s.pose.xMm s.pose.yMm headingMdeg s.pose.verifiedMotionCount s.pose.totalForwardMm
    s.pose.totalTurnMdeg)
  set { s with pose }

/-- The change of the IMU's heading over a motion that a command verified. -/
def fuseHeading (startImu : Option F) (startHeading : Int) (last : Json) (motion : VerifiedMotion) :
    Prog MotionExecutor Fault Unit := do
  let heading ← Prog.ofExcept (headingOf F last)
  match scanHeadingDelta F heading startImu with
  | some delta =>
    if 0 < motion.verifiedSliceCount then do
      let mdeg ← Prog.ofExcept (deltaMdeg F delta)
      reanchorHeading (Odometry.normalizeHeadingMdeg (startHeading - mdeg))
    else pure ()
  | none => pure ()

/-- What follows once the results were validated: the anchor and the pose move,
and then the IMU's heading is fused into the pose. -/
def commit (startImu : Option F) (startHeading : Int) (results : List Json)
    (validated : Angles × VerifiedMotion × PhysicalPose) : Prog MotionExecutor Fault MotionExecution := do
  let (finalAngles, motion, pose) := validated
  modify fun s => { s with expectedStartAngles := finalAngles, pose }
  fuseHeading F startImu startHeading (results.getLast?.getD .null) motion
  let s ← get
  pure { controllerResults := results, motion, pose := s.pose }

/-- The two `except` clauses. A command that the controller says it never
started leaves the results before it to be used. -/
def recover (attempted : Bool) (results : List Json) (validated : Except Fault (Angles × VerifiedMotion × PhysicalPose)) :
    Fault → Prog MotionExecutor Fault (Angles × VerifiedMotion × PhysicalPose)
  | .controller code message motionStarted =>
    if code = "controller_command_interrupted" ∧ motionStarted = some false then
      if results = [] then throw (.controller code message motionStarted) else Prog.ofExcept validated
    else do
      if attempted then modify fun s => { s with localizationValid := false }
      throw (.controller code message motionStarted)
  | error => do
    if attempted then modify fun s => { s with localizationValid := false }
    throw error

/-- What the `try` block comes to. -/
def acceptPulses (pulses : PulsesEnd) (validated : Except Fault (Angles × VerifiedMotion × PhysicalPose)) :
    Prog MotionExecutor Fault (Angles × VerifiedMotion × PhysicalPose) :=
  match pulses.raised, validated with
  | none, .ok accepted => pure accepted
  | none, .error e => recover pulses.attempted pulses.results validated e
  | some e, _ => recover pulses.attempted pulses.results validated e

def execute (call : MotionCall) : Prog MotionExecutor Fault MotionExecution := do
  let s ← get
  match blastNavigationCommands call.action with
  | none => throw (.contract "invalid_blast_motion_action" "BLAST cannot execute this semantic motion action")
  | some commands => do
    Prog.failIf (s.localizationValid = false)
      (.contract "blast_navigation_localization_invalid" "BLAST encoder localization must be restarted")
    let snapshot ← Prog.ofExcept call.snapshot
    let startImu ← Prog.ofExcept (headingOf F snapshot)
    let observedStart ← Prog.ofExcept (encoderAngles (snapshot.get? "observation"))
    if ¬ Settles s.expectedStartAngles observedStart then do
      modify fun s => { s with localizationValid := false }
      throw (.contract "blast_motion_slice_discontinuous"
        ("BLAST encoders changed outside a verified motion action: expected=" ++ pairText s.expectedStartAngles ++
          " observed=" ++ pairText observedStart ++ " delta=" ++ pairText (observedStart - s.expectedStartAngles)))
    else do
      let commands ← Prog.ofExcept (callCommands call commands)
      let pulses := runPulses F s call commands 0 []
      let validated := validatedResult F s call.action pulses.results
      let accepted ← acceptPulses pulses validated
      commit F startImu s.pose.headingMdeg pulses.results accepted

def executorMachine : Machine MotionExecutor MotionCall (Except Fault MotionExecution) where
  step s call := execute F call s

end

end RobotLlm.Blast
