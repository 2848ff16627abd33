import RobotLlm.Ev3.Hal

/-!
# The motor owner

One object owns the motors: it starts a bounded motion, knows which one is
active, and stops everything. A stop is believed only after two complete
readings at the same positions, the last of them still; it is retried until
then or until the attempts are used up.
-/

namespace RobotLlm.Ev3

open RobotLlm.Lib Hardware

-- Stopping all motors

structure StopReading where
  states : List (String × String) := []
  positions : List (String × Int) := []
  active : List String := []
  faultTokens : FaultTokens := []
  readErrors : List String := []

namespace StopReading

def failed (r : StopReading) (path : String) (e : PyError) : StopReading :=
  { r with readErrors := r.readErrors ++ [path ++ " verification: " ++ e.message] }

/-- A motor whose state text is known and may have a position too. -/
def observed (r : StopReading) (path raw : String) (tokens : List MotorToken) (position : Except PyError Int) :
    StopReading :=
  let r := { r with states := r.states ++ [(path, raw)] }
  match position with
  | .error e => r.failed path e
  | .ok position =>
    { r with
      positions := r.positions ++ [(path, position)]
      active := if tokens.any MotorToken.Active then r.active ++ [path] else r.active
      faultTokens :=
        if tokens.any MotorToken.Fault then r.faultTokens ++ [(path, tokens.filter MotorToken.Fault)]
        else r.faultTokens }

end StopReading

/-- The variables of the retry loop; `rounds` is kept for the log. -/
structure StopLoop where
  errors : List String
  stopAttempts : List StopAttempt := []
  previousPositions : Option (List (String × Int)) := none
  stopConfirmed : Bool := false
  last : StopReading := {}
  rounds : List StopRound := []

/-- `if detail not in errors: errors.append(detail)`, for each. -/
def addNew (errors : List String) : List String → List String
  | [] => errors
  | detail :: details => addNew (if detail ∈ errors then errors else errors ++ [detail]) details

def messageOf : Except PyError α → Option String
  | .ok _ => none
  | .error e => some e.message

/-- What an attempt adds to the errors of its run. -/
def StopAttempt.details (a : StopAttempt) : List String :=
  (a.stopActionError.map (a.path ++ " stop_action: " ++ ·)).toList ++ (a.error.map (a.path ++ " stop: " ++ ·)).toList

def stopMotor (attempt : Nat) (path : String) : Io StopAttempt := do
  let action ← Prog.attempt (write path "stop_action" "brake")
  let command ← Prog.attempt (write path "command" "stop")
  return ⟨attempt, path, messageOf action, messageOf command⟩

def stopMotors (attempt : Nat) : List String → Io (List StopAttempt)
  | [] => return []
  | path :: paths => do
    let a ← stopMotor attempt path
    return a :: (← stopMotors attempt paths)

def readState : Io (String × List MotorToken) := do
  let raw ← readText
  return (raw, ← Prog.ofExcept (stateTokens raw))

def readMotor (r : StopReading) (path : String) : Io StopReading := do
  match ← Prog.attempt readState with
  | .error e => return r.failed path e
  | .ok state => return r.observed path state.1 state.2 (← Prog.attempt readInt)

def readMotors (r : StopReading) : List String → Io StopReading
  | [] => return r
  | path :: paths => do readMotors (← readMotor r path) paths

/-- `robot.sleep_fn` between two attempts; its failure is one more error. -/
def sleepBetween (errors : List String) : Io (List String) := do
  match ← Prog.attempt sleep with
  | .ok _ => return errors
  | .error e => return addNew errors ["stop sleep: " ++ e.message]

/-- The errors of a round that did not confirm the stop. -/
def roundErrors (isLast : Bool) (errors readErrors : List String) : Io (List String) :=
  if isLast then return errors ++ readErrors else sleepBetween errors

def stopRound (paths : List String) (attempt maximumAttempts : Nat) (l : StopLoop) : Io StopLoop := do
  let writes ← stopMotors attempt paths
  let reading ← readMotors {} paths
  let l := { l with
    errors := addNew l.errors (writes.flatMap StopAttempt.details)
    stopAttempts := l.stopAttempts ++ writes
    last := reading
    rounds := ⟨writes, reading.states, reading.positions, reading.readErrors⟩ :: l.rounds }
  if reading.active = [] ∧ reading.readErrors = [] ∧ reading.faultTokens = [] ∧
      l.previousPositions = some reading.positions then
    return { l with stopConfirmed := true }
  else do
    let errors ← roundErrors (attempt = maximumAttempts) l.errors reading.readErrors
    return { l with
      errors := errors
      previousPositions := if reading.readErrors = [] then some reading.positions else l.previousPositions }

/-- The attempts from the given one on, at most `remaining` of them. -/
def stopRounds (paths : List String) (maximumAttempts : Nat) : Nat → Nat → StopLoop → Io StopLoop
  | 0, _, l => return l
  | remaining + 1, attempt, l => do
    let l ← stopRound paths attempt maximumAttempts l
    if l.stopConfirmed then return l else stopRounds paths maximumAttempts remaining (attempt + 1) l

/-- `_configured_paths`. -/
def configuredPathsFrom (paths : List String) : List String → Io (List String)
  | [] => return paths
  | _ :: roles => do
    let path ← motorPathForRole
    Prog.failIf (path ∈ paths)
      (supervisorError "duplicate_motor_path" "Two configured roles resolve to one motor")
    configuredPathsFrom (paths ++ [path]) roles

def configuredPaths (c : RobotConfig) : Io (List String) := configuredPathsFrom [] c.motorRoles

def SupervisorLimits.maximumAttempts (l : SupervisorLimits) : Nat :=
  max 2 (l.stopVerifyTimeoutMs / l.stopPollIntervalMs + 1)

def errorLabelled (label : String) : Except PyError α → List String
  | .ok _ => []
  | .error e => [label ++ ": " ++ e.message]

/-- The motors to stop: discovered and configured ones. -/
def pathsToStop (discovered configured : Except PyError (List String)) : List String :=
  let paths := discovered.toOption.getD []
  match configured with
  | .ok configured => (paths ++ configured).dedup.insertionSort (· ≤ ·)
  | .error _ => paths

/-- `stop_all_verified`, of an owner that is open. -/
def stopAll (c : RobotConfig) : Io StopRun := do
  note .stopBegun
  let discovered ← Prog.attempt discoveredMotorPaths
  let configured ← Prog.attempt (configuredPaths c)
  let paths := pathsToStop discovered configured
  let l ← stopRounds paths c.limits.maximumAttempts c.limits.maximumAttempts 1
    { errors := errorLabelled "discover" discovered ++ errorLabelled "configured" configured }
  note (.stopEnded ⟨discovered.toOption, configured.toOption, paths, l.rounds⟩)
  return {
    stopAttempts := l.stopAttempts
    stopConfirmed := l.stopConfirmed
    states := l.last.states
    positions := l.last.positions
    faultTokens := l.last.faultTokens
    errors := l.errors ++
      (if l.stopConfirmed = false ∧ paths ≠ [] then ["Motor stop was not confirmed before deadline"] else []) ++
      (if paths = [] then ["No tacho motors were discovered"] else []) }

-- The owner

inductive Side where
  | left
  | right
deriving DecidableEq

structure Motor where
  side : Side
  role : String
  path : String
  logicalSpeedDps : Int
  physicalSpeedDps : Int
  positionBefore : Int := 0
  checkpointPosition : Int := 0
  checkpointAtMs : Int := 0
deriving DecidableEq

structure ActiveMotion where
  motors : List Motor
  durationMs : Int
  startedAtMs : Int
  deadlineMs : Int
  startWriteWindowMs : Int
  forwardMotion : Bool
deriving DecidableEq

structure MotorBinding where
  role : String
  path : String
  address : String
deriving DecidableEq

/-- What `close` answers: the stop, and errors of closing the readers. -/
structure CloseResult extends StopResult where
  cleanupErrors : List String := []
deriving DecidableEq

structure MotorOwner where
  hw : Hardware
  active : Option ActiveMotion := none
  closed : Bool := false
  closeResult : CloseResult := {}
  bindings : Option (List MotorBinding) := none

/-- A part of a state, to run a program of the part in the whole. -/
structure Part (τ σ : Type) where
  get : τ → σ
  put : σ → τ → τ

def Part.lift (p : Part τ σ) (x : Prog σ ε α) : Prog τ ε α := Prog.onPart p.get p.put x

structure MotorSnapshot where
  role : String
  path : String
  address : String
  state : String
  position : Option Int
deriving DecidableEq

structure RunningMotor where
  side : Side
  role : String
  path : String
  physicalSpeedDps : Int
  positionBefore : Int
  position : Int
  state : String
deriving DecidableEq

structure RunningMotion where
  startedAtMs : Int
  deadlineMs : Int
  durationMs : Int
  motors : List RunningMotor
deriving DecidableEq

structure MotorReceipt where
  side : Side
  role : String
  positionBefore : Int
  positionAfter : Int
  state : String
deriving DecidableEq

structure FinishResult where
  stop : StopResult
  checks : List EncoderCheck := []
  motors : List MotorReceipt := []
  verificationError : Option String := none

def hardwareReadFailed (message : String) : PyError := supervisorError "hardware_read_failed" message

def topologyChanged (message : String) : PyError := supervisorError "hardware_topology_changed" message

namespace MotorOwner

abbrev Own := Prog MotorOwner PyError

def onHw (x : Io α) : Own α := Prog.onPart hw (fun hw o => { o with hw := hw }) x

def requireOpen : Own Unit := do
  let o ← get
  Prog.failIf (o.closed = true) (supervisorError "motor_owner_closed" "Motor owner is closed")

def requireBoundTopology : Own (List MotorBinding) := do
  let o ← get
  match o.bindings with
  | none => throw (supervisorError "hardware_topology_unbound" "Supervisor hardware topology is not bound")
  | some bindings => return bindings

def sameSet (a b : List String) : Bool := a.all b.contains && b.all a.contains

def stopAllVerified (c : RobotConfig) : Own StopResult := do
  requireOpen
  return { toStopRun := ← onHw (stopAll c) }

-- Binding and revalidation read many identities; the environment answers for
-- all of them at once.

def bindMotors (bound : List MotorBinding) : List String → Own (List MotorBinding)
  | [] => return bound
  | role :: roles => do
    let path ← onHw motorPathForRole
    Prog.failIf (path ∈ bound.map MotorBinding.path) (topologyChanged "Two configured roles resolve to one motor")
    let address ← onHw readText
    bindMotors (bound ++ [⟨role, path, address⟩]) roles

def bindChecked (c : RobotConfig) : Own Unit := do
  let bindings ← bindMotors [] c.motorRoles
  let discovered ← onHw discoveredMotorPaths
  Prog.failIf (sameSet discovered (bindings.map MotorBinding.path) = false)
    (topologyChanged "Discovered motors do not exactly match configuration")
  onHw (ask Answer.done)
  modify fun o => { o with bindings := some bindings }

/-- How `bind_topology` reports what went wrong. -/
def bindError (e : PyError) : PyError :=
  if e.code = none ∧ e.IsPollError then topologyChanged ("Hardware topology could not be bound: " ++ e.message) else e

def bindTopology (c : RobotConfig) : Own Unit := do
  requireOpen
  let o ← get
  Prog.failIf (o.bindings ≠ none)
    (supervisorError "hardware_topology_already_bound" "Hardware topology is already bound")
  Prog.mapError bindError (bindChecked c)

def revalidateTopology : Own Unit := do
  requireOpen
  let _ ← requireBoundTopology
  onHw (ask Answer.done)

def pathForRole (role : String) : Own String := do
  let bindings ← requireBoundTopology
  match bindings.find? (·.role = role) with
  | some binding => return binding.path
  | none => throw (topologyChanged s!"Motor role {role} is not bound")

def readTouchValue : Own Int := do
  requireOpen
  let _ ← requireBoundTopology
  onHw (ask Answer.done)
  onHw readInt

def readInfraredValue : Own Int := do
  requireOpen
  let _ ← requireBoundTopology
  onHw (ask Answer.done)
  let value ← onHw readInt
  Prog.failIf (value < 0 ∨ value > 100) (hardwareReadFailed "Infrared sensor value is outside 0..100")
  return value

-- Dynamic snapshots

/-- `int(reader.read(..))` where a position is wanted. -/
def readPositionIf (wanted : Bool) : Io (Option Int) := if wanted then do return some (← readInt) else return none

def snapshotMotors (positionRoles : List String) : List MotorBinding → Own (List MotorSnapshot)
  | [] => return []
  | binding :: bindings => do
    onHw (ask Answer.done)
    let state ← onHw readText
    let position ← onHw (readPositionIf (positionRoles.contains binding.role))
    return ⟨binding.role, binding.path, binding.address, state, position⟩ ::
      (← snapshotMotors positionRoles bindings)

def dynamicMotorSnapshots (positionRoles : List String) : Own (List MotorSnapshot) := do
  requireOpen
  let bindings ← requireBoundTopology
  Prog.failIf (¬ ∀ role ∈ positionRoles, role ∈ bindings.map MotorBinding.role)
    (topologyChanged "Dynamic snapshot requested an unbound motor role")
  let discovered ← onHw discoveredMotorPaths
  Prog.failIf (sameSet discovered (bindings.map MotorBinding.path) = false)
    (topologyChanged "Discovered motor set changed during polling")
  snapshotMotors positionRoles bindings

def noActiveMotion : PyError := supervisorError "no_active_motion" "No motion command is active"

def observeMotor (observations : List MotorSnapshot) (motor : Motor) : Except PyError RunningMotor :=
  match observations.find? (·.path = motor.path) with
  | some { position := some position, state := state, .. } =>
    .ok ⟨motor.side, motor.role, motor.path, motor.physicalSpeedDps, motor.positionBefore, position, state⟩
  | _ => .error (hardwareReadFailed "Active motor is absent from the dynamic snapshot")

def requireActive : Own ActiveMotion := do
  let o ← get
  match o.active with
  | some active => return active
  | none => throw noActiveMotion

/-- `active_snapshot(observations)`. -/
def activeSnapshotOf (observations : List MotorSnapshot) : Own RunningMotion := do
  requireOpen
  let active ← requireActive
  let motors ← Prog.ofExcept (active.motors.mapM (observeMotor observations))
  return ⟨active.startedAtMs, active.deadlineMs, active.durationMs, motors⟩

def activeSnapshot : Own RunningMotion := do
  requireOpen
  let active ← requireActive
  activeSnapshotOf (← dynamicMotorSnapshots (active.motors.map Motor.role))

def progressCheckpoint (role : String) : Own (Int × Int) := do
  let active ← requireActive
  match active.motors.find? (·.role = role) with
  | some motor => return (motor.checkpointPosition, motor.checkpointAtMs)
  | none => throw (supervisorError "unknown_active_motor" s!"Active motion has no role {role}")

/-- The first motor of the role takes the checkpoint. -/
def withCheckpoint (role : String) (position nowMs : Int) : List Motor → List Motor
  | [] => []
  | motor :: motors =>
    if motor.role = role then { motor with checkpointPosition := position, checkpointAtMs := nowMs } :: motors
    else motor :: withCheckpoint role position nowMs motors

def updateProgressCheckpoint (role : String) (position nowMs : Int) : Own Unit := do
  let o ← get
  Prog.failIf (∃ active ∈ o.active, role ∉ active.motors.map Motor.role)
    (supervisorError "unknown_active_motor" s!"Active motion has no role {role}")
  modify fun o => { o with
    active := o.active.map fun active =>
      { active with motors := withCheckpoint role position nowMs active.motors } }

-- Finishing

/-- The encoder check of a finished motor, with the ratio the supervisor asks
for. -/
def completionCheck (c : RobotConfig) (durationMs : Int) (motor : Motor) (after : Int) : EncoderCheck :=
  let check := encoderCheck motor.role motor.physicalSpeedDps durationMs motor.positionBefore after
  let minimum := max check.minimumAbsDelta
    (roundDiv (check.expectedAbsDelta * c.limits.minCompletionRatioPercent) 100)
  { check with minimumAbsDelta := minimum, enoughMotion := check.positionDelta.natAbs ≥ minimum }

def readFinished (motor : Motor) : Io MotorReceipt := do
  let after ← readInt
  let raw ← readText
  return ⟨motor.side, motor.role, motor.positionBefore, after, raw⟩

/-- The receipts of the motors and the errors of their readings; an error that
is no read error is raised. -/
def readFinishedMotors : List Motor → Io (List (Motor × MotorReceipt) × List String)
  | [] => return ([], [])
  | motor :: motors => do
    match ← Prog.attempt (readFinished motor) with
    | .ok receipt => do
      let rest ← readFinishedMotors motors
      return ((motor, receipt) :: rest.1, rest.2)
    | .error e => do
      Prog.failIf (¬ e.IsReadError) e
      let rest ← readFinishedMotors motors
      return (rest.1, (motor.role ++ ": " ++ e.message) :: rest.2)

def checkDetail (check : EncoderCheck) (expectedDirection : String) : String :=
  s!"{check.role} delta {check.positionDelta} (minimum {check.minimumAbsDelta}, expected {expectedDirection} direction)"

/-- The text of `MotionVerificationError`, if a check failed. -/
def verificationErrorOf (checks : List (Motor × EncoderCheck)) : Option String :=
  let failed := checks.filter fun check => !check.2.passed
  if failed = [] then none
  else
    some ("Encoder verification failed: " ++ "; ".intercalate (failed.map fun check =>
      checkDetail check.2 (if check.1.physicalSpeedDps > 0 then "positive" else "negative")))

/-- What the readings after the stop say about a finished motion. -/
def finishResult (c : RobotConfig) (active : ActiveMotion) (verifyMotion : Bool) (stop : StopResult)
    (read : List (Motor × MotorReceipt) × List String) : FinishResult :=
  let stop := { stop with errors := stop.errors ++ read.2 }
  let checks :=
    if verifyMotion then
      read.1.map fun m => (m.1, completionCheck c active.durationMs m.1 m.2.positionAfter)
    else []
  let failure := if verifyMotion = true ∧ read.2 = [] then verificationErrorOf checks else none
  { stop := stop
    checks :=
      (if failure = none then checks else checks.filter fun check => !check.2.passed).map Prod.snd
    motors := read.1.map Prod.snd
    verificationError := failure }

/-- The owner forgets its motion before it stops the motors. -/
def finishMotion (c : RobotConfig) (active : ActiveMotion) (verifyMotion : Bool) : Own FinishResult := do
  modify fun o => { o with active := none }
  let stop ← stopAllVerified c
  let read ← onHw (readFinishedMotors active.motors)
  return finishResult c active verifyMotion stop read

def finishActive (c : RobotConfig) (verifyMotion : Bool) : Own FinishResult := do
  requireOpen
  let o ← get
  match o.active with
  | none => do return { stop := ← stopAllVerified c }
  | some active => finishMotion c active verifyMotion

def StopResult.Clean (r : StopResult) : Prop := r.stopConfirmed = true ∧ r.errors = [] ∧ r.faultTokens = []

instance (r : StopResult) : Decidable (StopResult.Clean r) := inferInstanceAs (Decidable (_ ∧ _ ∧ _))

/-- The descriptors and the lock go; the owner is closed even if the lock
could not be given back. -/
def unlock (result : StopResult) : Own CloseResult := do
  let readers ← Prog.attempt (onHw (ask Answer.done))
  let result : CloseResult := { result with cleanupErrors := (messageOf readers).toList }
  let unlocked ← Prog.attempt (onHw (ask Answer.done))
  onHw (ask Answer.done)
  onHw (note .released)
  modify fun o => { o with closed := true, closeResult := result }
  Prog.ofExcept (unlocked.map fun _ => result)

def closeOpen (c : RobotConfig) : Own CloseResult := do
  let finished ← finishActive c false
  if StopResult.Clean finished.stop then unlock finished.stop else return { finished.stop with }

def close (c : RobotConfig) : Own CloseResult := do
  let o ← get
  if o.closed then return o.closeResult else closeOpen c

-- Starting

/-- When a motor's start was written, by the local clock. -/
structure StartWindow where
  side : Side
  role : String
  beginMs : Int
  endMs : Int
deriving DecidableEq

def failedStopResult (e : PyError) : StopResult := { errors := [e.message] }

/-- `_stop_result_from_exception`; only an interrupt carries a result. -/
def stopResultOf : Except PyError StopResult → StopResult
  | .ok result => result
  | .error e => failedStopResult e

/-- `_combine_stop_results`: the last result, with the errors of all. -/
def combineStopResults (results : List (String × StopResult)) : StopResult :=
  let latest := (results.getLast?.map Prod.snd).getD { errors := ["No stop result"] }
  { latest with
    errors := results.flatMap fun r => r.2.errors.map (r.1 ++ ": " ++ ·)
    stopHistory := results.map fun r => (r.1, r.2.toStopRun) }

def startSkew (message : String) : PyError := supervisorError "start_skew" message

section
variable {τ : Type} (p : Part τ MotorOwner)

/-- A question to the environment asked by the owner of a larger state. -/
def io (x : Io α) : Prog τ PyError α := p.lift (onHw x)

def readStartPositions : List Motor → Prog τ PyError (List Motor)
  | [] => return []
  | motor :: motors => do
    let position ← io p readInt
    return { motor with positionBefore := position, checkpointPosition := position } ::
      (← readStartPositions motors)

def stageMotors (durationMs : Int) : List Motor → Prog τ PyError Unit
  | [] => return ()
  | motor :: motors => do
    io p (write motor.path "speed_sp" (toString motor.physicalSpeedDps))
    io p (write motor.path "time_sp" (toString durationMs))
    io p (write motor.path "stop_action" "brake")
    stageMotors durationMs motors

def startMotors (c : RobotConfig) (guard : List StartWindow → Prog τ PyError Unit) (windows : List StartWindow) :
    List Motor → Prog τ PyError (List StartWindow)
  | [] => return windows
  | motor :: motors => do
    guard windows
    let beginMs ← io p nowMs
    Prog.failIf (∃ first ∈ windows.head?, beginMs - first.beginMs > c.limits.maxStartSkewMs)
      (startSkew "Second motor start missed the local skew limit")
    io p (write motor.path "command" "run-timed")
    let endMs ← io p nowMs
    Prog.failIf (endMs < beginMs)
      (supervisorError "clock_rollback" "Monotonic clock moved backwards during motor start")
    Prog.failIf (windows.length = 1 ∧ ∃ first ∈ windows.head?, endMs - first.beginMs > c.limits.maxStartSkewMs)
      (startSkew "Motor command-write window exceeded local limit")
    startMotors c guard (windows ++ [⟨motor.side, motor.role, beginMs, endMs⟩]) motors

/-- The three passes over the motors, each of which may fail. -/
def tryStart (c : RobotConfig) (motors : List Motor) (durationMs : Int)
    (guard : List StartWindow → Prog τ PyError Unit) : Prog τ PyError (List Motor × List StartWindow) := do
  let motors ← readStartPositions p motors
  stageMotors p durationMs motors
  return (motors, ← startMotors p c guard [] motors)

/-- A failed start stops everything before the error goes on, with the cleanup
attached. -/
def startFailed (c : RobotConfig) (e : PyError) : Prog τ PyError (List Motor × List StartWindow) := do
  let cleanup ← Prog.attempt (p.lift (stopAllVerified c))
  let _ ← Prog.attempt (ε := PyError) (io p nowMs)
  match cleanup with
  | .ok result => throw { e with startCleanup := some result }
  | .error e' => throw { e' with startCleanup := some (failedStopResult e') }

/-- The motion of motors whose starts were written. -/
def motionOf (c : RobotConfig) (durationMs : Int) (forwardMotion : Bool) (started : List Motor × List StartWindow) :
    ActiveMotion :=
  let startedAtMs := (started.2.head?.map StartWindow.beginMs).getD 0
  { motors := started.1.map fun motor =>
      { motor with checkpointAtMs := startedAtMs + c.limits.stallStartupGraceMs }
    durationMs := durationMs
    startedAtMs := startedAtMs
    deadlineMs := startedAtMs + durationMs
    startWriteWindowMs := (started.2.getLast?.map StartWindow.endMs).getD 0 - startedAtMs
    forwardMotion := forwardMotion }

def startBoundMotors (c : RobotConfig) (motors : List Motor) (durationMs : Int)
    (guard : List StartWindow → Prog τ PyError Unit) (forwardMotion : Bool) : Prog τ PyError RunningMotion := do
  let started ← tryCatch (tryStart p c motors durationMs guard) (startFailed p c)
  p.lift (modify fun o => { o with active := some (motionOf c durationMs forwardMotion started) } : Own Unit)
  p.lift activeSnapshot

end

/-- `validate_drive`; the drive roles of the configuration are valid. -/
def validateDrive (c : RobotConfig) (leftSpeedDps rightSpeedDps durationMs : Int) : Own Unit := do
  requireOpen
  Prog.ofExcept (validateMotion c.drive leftSpeedDps durationMs)
  Prog.ofExcept (validateMotion c.drive rightSpeedDps durationMs)

/-- The motors of a drive command, after every check that needs no I/O. -/
def driveMotors (c : RobotConfig) (leftSpeedDps rightSpeedDps durationMs : Int) : Own (List Motor) := do
  requireOpen
  let o ← get
  Prog.failIf (o.active ≠ none) (supervisorError "motion_already_active" "A motion command is already active")
  validateDrive c leftSpeedDps rightSpeedDps durationMs
  let leftPath ← pathForRole c.leftMotorRole
  let rightPath ← pathForRole c.rightMotorRole
  Prog.failIf (leftPath = rightPath) (supervisorError "duplicate_motor_path" "Drive roles resolve to one motor")
  return [
    { side := .left, role := c.leftMotorRole, path := leftPath
      logicalSpeedDps := leftSpeedDps, physicalSpeedDps := leftSpeedDps * c.leftForwardSign },
    { side := .right, role := c.rightMotorRole, path := rightPath
      logicalSpeedDps := rightSpeedDps, physicalSpeedDps := rightSpeedDps * c.rightForwardSign }]

/-- `start_drive`, with the guard of the caller before each motor. -/
def startDrive (p : Part τ MotorOwner) (c : RobotConfig) (leftSpeedDps rightSpeedDps durationMs : Int)
    (guard : List StartWindow → Prog τ PyError Unit) : Prog τ PyError RunningMotion := do
  let motors ← p.lift (driveMotors c leftSpeedDps rightSpeedDps durationMs)
  startBoundMotors p c motors durationMs guard (leftSpeedDps > 0 ∧ rightSpeedDps > 0)

end MotorOwner

end RobotLlm.Ev3
