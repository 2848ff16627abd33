import RobotLlm.Ev3.Log
import RobotLlm.Ev3.Supervisor
import RobotLlm.Lib.Machine

/-!
# The supervisor's operations

What a client may ask of the supervisor, from the claim of a session to the
shutdown, and the supervisor as a machine of these calls.
-/

namespace RobotLlm.Ev3

open RobotLlm.Lib

namespace EV3Supervisor

-- Start-up

/-- Whether a motor is safely inactive at startup. -/
def checkStartupMotor (snapshot : MotorSnapshot) : Except PyError Unit := do
  let tokens ← stateTokens snapshot.state
  if tokens.any MotorToken.Active ∨ tokens.any MotorToken.Fault then
    .error (supervisorError "unsafe_startup_motor_state" "A motor is not safely inactive at startup")
  else .ok ()

def bindHardware (c : SupervisorConfig) : Sup Unit := do
  onOwner (MotorOwner.bindTopology c.toRobotConfig)
  let snapshots ← onOwner (MotorOwner.dynamicMotorSnapshots [])
  Prog.ofExcept (snapshots.forM checkStartupMotor)

/-- The inventory's failure, as one more error of the startup stop. -/
def inventoryErrors (c : SupervisorConfig) : Sup (List String) :=
  tryCatch (do bindHardware c; return []) fun e =>
    if e.IsPollError then return ["inventory: " ++ e.message] else throw e

/-- `__init__` from the first stop on. -/
def boot (c : SupervisorConfig) : Sup Unit := do
  let stop ← onOwner (MotorOwner.stopAllVerified c.toRobotConfig)
  let inventory ← inventoryErrors c
  let stop := { stop with errors := stop.errors ++ inventory }
  if stop.stopConfirmed = false ∨ stop.errors ≠ [] then do
    enterFaultSilently c "startup_stop_failed" "Startup stop could not be verified" (some stop)
    emit c "startup_fault"
  else do
    modify fun s => { s with state := .disarmed }
    emit c "startup_complete"

/-- A supervisor before `boot`, its owner holding the motor lock. -/
def booting (hw : Hardware) (maximumEvents : Nat) : EV3Supervisor where
  owner := { hw := hw }
  audit := { maximumEvents := maximumEvents }
  dispatchThreadId := hw.thread

-- Sessions

inductive Reply where
  | status (status : SupervisorStatus)
  | claimed (ownerId sessionId : String)
  | accepted (sequenceId : Int)
  /-- The answer of a stop on a closed supervisor. -/
  | closed
  | nothing
deriving DecidableEq

def claim (c : SupervisorConfig) (ownerId : String) : Sup Reply := do
  requireDispatchThread
  requireState [.disarmed]
  let s ← get
  Prog.failIf (s.sessionId ≠ none) (supervisorError "owner_exists" "A session is already claimed")
  Prog.ofExcept (validateIdentifier "owner_id" ownerId 64)
  let sessionId ← io (Hardware.ask Answer.text)
  Prog.ofExcept (validateIdentifier "session_id" sessionId 128)
  modify fun s => { s with
    ownerId := some ownerId
    sessionId := some sessionId
    lastSequenceId := 0
    lastHeartbeatMs := none
    lastHeartbeatSequence := none }
  let claimedAtMs ← checkedNowMs
  modify fun s => { s with claimedAtMs := some claimedAtMs, seenCommandIds := [] }
  emit c "session_claimed"
  return .claimed ownerId sessionId

def heartbeat (c : SupervisorConfig) (sessionId : String) (sequenceId : Int) : Sup Reply := do
  requireDispatchThread
  requireState [.disarmed, .armedIdle, .running]
  requireSession sessionId
  consumeSequence sequenceId
  let now ← nowMs
  modify fun s => { s with lastHeartbeatMs := some now, lastHeartbeatSequence := some sequenceId }
  emit c "heartbeat"
  return .accepted sequenceId

def revalidationFailed (c : SupervisorConfig) (phase : String) (e : PyError) : Sup Unit :=
  if e.IsPollError then do
    let code := e.codeOr "hardware_topology_changed"
    let detail := phase ++ " topology revalidation failed: " ++ e.message
    enterFault c code detail none
    throw (supervisorError code detail)
  else throw e

def revalidateHardwareTopology (c : SupervisorConfig) (phase : String) : Sup Unit :=
  tryCatch (onOwner MotorOwner.revalidateTopology) (revalidationFailed c phase)

def requireTouchStable (c : SupervisorConfig) (message : String) : Sup Unit := do
  let s ← get
  Prog.failIf (s.touchValue ≠ some 0 ∨ s.touchReleasedSamples < c.limits.touchReleaseSamples)
    (supervisorError "touch_not_released" message)

def arm (c : SupervisorConfig) (sessionId : String) (sequenceId : Int) : Sup Reply := do
  requireDispatchThread
  requireState [.disarmed]
  requireSession sessionId
  validateSequence sequenceId
  revalidateHardwareTopology c "arm"
  let _ ← pollOnce c
  requireState [.disarmed]
  let now ← checkedNowMs
  requireHeartbeat c now (supervisorError "heartbeat_required" "A fresh explicit heartbeat is required")
  requireTouchStable c "Touch must be released for stable samples"
  checkIdleMotors
  let now ← checkedNowMs
  requireHeartbeat c now (supervisorError "heartbeat_required" "Heartbeat expired during arm preflight")
  consumeSequence sequenceId
  modify fun s => { s with state := .armedIdle }
  emit c "armed"
  return .status (← status c)

-- Driving

structure DriveCommand where
  sessionId : String
  sequenceId : Int
  commandId : String
  referenceHeartbeatSequence : Int
  leftSpeedDps : Int
  rightSpeedDps : Int
  durationMs : Int
deriving DecidableEq

def DriveCommand.forward (d : DriveCommand) : Bool := d.leftSpeedDps > 0 && d.rightSpeedDps > 0

/-- An argument error of the HAL, reported as the supervisor's. -/
def invalidMotion (e : PyError) : PyError :=
  if e.code = none ∧ e.kind = .value then supervisorError "invalid_motion" e.message else e

def checkDrive (c : SupervisorConfig) (d : DriveCommand) : Sup Unit := do
  requireDispatchThread
  requireState [.armedIdle]
  requireSession d.sessionId
  validateSequence d.sequenceId
  Prog.ofExcept (validateIdentifier "command_id" d.commandId 128)
  let s ← get
  Prog.failIf (d.commandId ∈ s.seenCommandIds)
    (supervisorError "duplicate_command_id" "command_id has already been consumed")
  Prog.failIf (s.seenCommandIds.length ≥ c.limits.maxCommandsPerSession)
    (supervisorError "session_command_budget" "Session command budget is exhausted")
  Prog.ofExcept (validatePositiveInt "reference_heartbeat_sequence" d.referenceHeartbeatSequence)
  Prog.failIf (s.lastHeartbeatSequence ≠ some d.referenceHeartbeatSequence)
    (supervisorError "stale_heartbeat_reference" "Motion must reference the latest heartbeat")
  Prog.failIf (d.leftSpeedDps.natAbs < c.limits.minAbsDriveSpeedDps ∨
      d.rightSpeedDps.natAbs < c.limits.minAbsDriveSpeedDps)
    (supervisorError "drive_speed_floor" "Drive speed is below the supervised minimum")
  Prog.mapError invalidMotion
    (onOwner (MotorOwner.validateDrive c.toRobotConfig d.leftSpeedDps d.rightSpeedDps d.durationMs))

/-- The caller's own start guard, which looks at the environment and may
raise. -/
structure StartGuard where
  check : Io Unit
  reads : Prog.Keeps Hardware.Read check

/-- The checks before the command is accepted, and its acceptance. -/
def acceptDrive (c : SupervisorConfig) (d : DriveCommand) (guard : StartGuard) : Sup Unit := do
  revalidateHardwareTopology c "drive"
  let _ ← pollOnce c
  requireState [.armedIdle]
  let now ← checkedNowMs
  requireHeartbeat c now (supervisorError "heartbeat_timeout" "Heartbeat is not fresh")
  requireTouchReleased "Touch stop input is pressed"
  requireInfraredIf c d.forward
  io guard.check
  consumeSequence d.sequenceId
  modify fun s => { s with seenCommandIds := d.commandId :: s.seenCommandIds }
  emit c "command_accepted"

def prestart (c : SupervisorConfig) (d : DriveCommand) (guard : StartGuard) : Sup Unit := do
  readTouch
  readInfrared c
  checkIdleMotors
  let now ← checkedNowMs
  requireTouchReleased "Touch stop input changed before motor start"
  requireHeartbeat c now (supervisorError "heartbeat_timeout" "Heartbeat expired before motor start")
  requireInfraredIf c d.forward
  io guard.check

def isInfraredDenial (code : String) : Bool := code = "infrared_not_fresh" || code = "infrared_obstacle"

/-- The error of a failed start, with the evidence it carried. -/
def startError (e : PyError) (code message : String) : PyError :=
  { supervisorError code message with startCleanup := e.startCleanup }

def prestartFailed (c : SupervisorConfig) (e : PyError) : Sup Unit :=
  let code := e.codeOr "prestart_failure"
  if isInfraredDenial code then do
    let _ ← checkedNowMs
    emit c "infrared_forward_denied"
    throw (startError e code e.message)
  else do
    enterFault c code e.message none
    throw (supervisorError code "Motion prestart check failed")

/-- The full look at the hardware, before the first motor starts only. -/
def firstStartCheck (c : SupervisorConfig) (windows : List MotorOwner.StartWindow) : Sup Unit :=
  if windows = [] then do
    readTouch
    readInfrared c
    checkIdleMotors
  else return ()

/-- `_guard_individual_motor_start`: the second motor starts on the readings
of the first. -/
def guardMotorStart (c : SupervisorConfig) (d : DriveCommand) (guard : StartGuard)
    (windows : List MotorOwner.StartWindow) : Sup Unit := do
  firstStartCheck c windows
  let now ← checkedNowMs
  requireTouchReleased "Cached touch input is not released before motor start"
  requireHeartbeat c now (supervisorError "heartbeat_timeout" "Heartbeat expired between motor starts")
  requireInfraredIf c d.forward
  Prog.failIf (∃ first ∈ windows.head?, now - first.beginMs > c.limits.maxStartSkewMs)
    (MotorOwner.startSkew "Second motor start missed the local skew limit")
  io guard.check

/-- The cleanup made while starting, if any, with one more. -/
def startStopResult (e : PyError) (retry : Except PyError StopResult) : StopResult :=
  MotorOwner.combineStopResults
    ((e.startCleanup.map ("motor_start_cleanup", ·)).toList ++
      [("fault_cleanup_retry", MotorOwner.stopResultOf retry)])

def motorStartFailed (c : SupervisorConfig) (e : PyError) : Sup Unit := do
  let retry ← Prog.attempt (finishActiveStop c)
  let stop := startStopResult e retry
  let code := e.codeOr "motion_start_failed"
  if isInfraredDenial code = true ∧ MotorOwner.StopResult.Clean stop then do
    modify fun s => { s with activeCommandId := none, state := .armedIdle }
    let _ ← checkedNowMs
    emit c "infrared_obstacle_stop"
    throw (startError e code e.message)
  else do
    enterFault c code e.message (some stop)
    throw (startError e code "Motion start failed")

def startMotion (c : SupervisorConfig) (d : DriveCommand) (guard : StartGuard) : Sup Unit := do
  let _ ← MotorOwner.startDrive ownerPart c.toRobotConfig d.leftSpeedDps d.rightSpeedDps d.durationMs
    (guardMotorStart c d guard)
  return ()

/-- The first look at the motion that was just started. -/
def checkStarted (c : SupervisorConfig) (startSkewMs : Int) (guard : StartGuard) : Sup Unit := do
  readTouch
  let running ← checkRunningMotion c
  Prog.failIf (startSkewMs > c.limits.maxStartSkewMs)
    (MotorOwner.startSkew "Motor start skew exceeded local limit")
  requireTouchReleased "Touch stop input changed during motor start"
  requireHeartbeat c running.2 (supervisorError "heartbeat_timeout" "Heartbeat expired during motor start")
  io guard.check

def stopForObstacle (c : SupervisorConfig) : Sup Unit := do
  let _ ← stopForwardForInfrared c
  throw (supervisorError "infrared_obstacle" "Forward motion was stopped by the local IR gate")

def poststart (c : SupervisorConfig) (d : DriveCommand) (startSkewMs : Int) (guard : StartGuard) : Sup Unit := do
  readInfrared c
  let s ← get
  if d.forward = true ∧ s.gate.blocked = true then stopForObstacle c else checkStarted c startSkewMs guard

def poststartFailed (c : SupervisorConfig) (e : PyError) : Sup Unit := do
  let s ← get
  let code := e.codeOr "poststart_failure"
  if isInfraredDenial code = true ∧ s.state = .armedIdle then throw (supervisorError code e.message)
  else do
    enterFault c code e.message none
    throw (supervisorError code "Motion was stopped during post-start check")

def startDrive (c : SupervisorConfig) (d : DriveCommand) (guard : StartGuard) : Sup Reply := do
  checkDrive c d
  acceptDrive c d guard
  tryCatch (prestart c d guard) (prestartFailed c)
  tryCatch (startMotion c d guard) (motorStartFailed c)
  modify fun s => { s with activeCommandId := some d.commandId, state := .running }
  let active ← activeMotion
  tryCatch (poststart c d active.startWriteWindowMs guard) (poststartFailed c)
  emit c "motion_started"
  return .status (← status c)

-- Stopping, releasing, resetting, closing

/-- The stop of a latched fault keeps the record of its cause. -/
def stopFaulted (c : SupervisorConfig) (stop : StopResult) : Sup Unit := do
  modify fun s => { s with state := .faultLatched }
  updateFault fun fault =>
    { fault with stopConfirmed := stop.stopConfirmed, stopErrors := stop.errors, faultTokens := stop.faultTokens }
  emit c "fault_stop_retried"

def stopUnfaulted (c : SupervisorConfig) (stop : StopResult) (error : Option PyError) : Sup Unit :=
  if error = none ∧ stop.stopConfirmed = true ∧ stop.errors = [] then do
    modify fun s => { s with fault := none, state := .disarmed }
    emit c "emergency_stop"
  else enterFault c "stop_failed" "Emergency stop was not verified" (some stop)

def recordStop (c : SupervisorConfig) (wasFaulted : Bool) (r : StopResult × Option PyError) : Sup Unit :=
  if wasFaulted then stopFaulted c r.1 else stopUnfaulted c r.1 r.2

def stopOpen (c : SupervisorConfig) : Sup Reply := do
  let s ← get
  let r ← finishActiveWithRetry c "emergency_stop"
  modify fun s => { s.invalidateSession with activeCommandId := none }
  recordStop c (s.state = .faultLatched) r
  return .status (← status c)

/-- `stop`, the unauthenticated local emergency stop. -/
def stop (c : SupervisorConfig) : Sup Reply := do
  requireDispatchThread
  let s ← get
  if s.isClosed then return .closed else stopOpen c

def release (c : SupervisorConfig) (sessionId : String) (sequenceId : Int) : Sup Reply := do
  requireDispatchThread
  requireState [.disarmed, .armedIdle, .running]
  requireSession sessionId
  consumeSequence sequenceId
  let r ← finishActiveWithRetry c "session_release"
  modify fun s => { s.invalidateSession with activeCommandId := none }
  if r.2 = none ∧ r.1.stopConfirmed = true ∧ r.1.errors = [] then do
    modify fun s => { s with state := .disarmed, fault := none }
    emit c "session_released"
    return .status (← status c)
  else do
    enterFault c "release_stop_failed" "Release stop was not verified" (some r.1)
    return .status (← status c)

def isHardwareBinding (code : String) : Bool :=
  code = "hardware_read_failed" || code = "hardware_topology_changed" ||
    code = "hardware_topology_unreadable" || code = "infrared_invalid_sample"

def restartRequired (message : String) : PyError := supervisorError "supervisor_restart_required" message

/-- The fresh look at the hardware before a reset. -/
def verifyHardware (c : SupervisorConfig) : Sup Unit :=
  tryCatch (do onOwner MotorOwner.revalidateTopology; readTouch; readInfrared c) fun e =>
    if e.IsPollError then throw (restartRequired "Fresh hardware binding could not be verified") else throw e

def resetFault (c : SupervisorConfig) : Sup Reply := do
  requireDispatchThread
  requireState [.faultLatched]
  let s ← get
  Prog.failIf (∃ fault ∈ s.fault, isHardwareBinding fault.code = true)
    (restartRequired "Hardware binding faults require a supervisor restart")
  let _ ← pollOnce c
  requireState [.faultLatched]
  let s ← get
  Prog.failIf (∃ fault ∈ s.fault, fault.secondaryErrors ≠ [])
    (restartRequired "Secondary safety-read failures require a restart")
  verifyHardware c
  requireTouchStable c "Touch must be stably released before reset"
  let stop ← onOwner (MotorOwner.stopAllVerified c.toRobotConfig)
  Prog.failIf (stop.stopConfirmed = false ∨ stop.errors ≠ [])
    (supervisorError "stop_not_confirmed" "Fault cannot reset before verified stop")
  modify fun s => { s with fault := none, state := .disarmed }
  emit c "fault_reset"
  return .status (← status c)

def finalizeClosed (c : SupervisorConfig) (cleanupErrors : List String) : Sup SupervisorStatus := do
  modify fun s => { s.invalidateSession with activeCommandId := none, isClosed := true, state := .closed }
  let audited ← Prog.attempt (emit c "supervisor_closed")
  let status ← status c
  let status := { status with
    auditComplete := some (messageOf audited).isNone
    cleanupErrors := cleanupErrors }
  modify fun s => { s with closeStatus := some status }
  return status

def shutdownFailed (c : SupervisorConfig) (detail : String) (stop : StopResult) : Sup SupervisorStatus := do
  enterFault c "shutdown_stop_failed" detail (some stop)
  status c

/-- A shutdown interrupted by an error is tried once more. -/
def closeAgain (c : SupervisorConfig) (first : PyError) : Sup SupervisorStatus := do
  let retry ← Prog.attempt (onOwner (MotorOwner.close c.toRobotConfig))
  let s ← get
  match retry with
  | .ok result =>
    if s.owner.closed = true ∧ MotorOwner.StopResult.Clean result.toStopResult then finalizeClosed c result.cleanupErrors
    else
      shutdownFailed c "Shutdown was interrupted; lock retained unless closed"
        (MotorOwner.combineStopResults
          [("shutdown", MotorOwner.failedStopResult first), ("shutdown_retry", result.toStopResult)])
  | .error e =>
    shutdownFailed c "Shutdown was interrupted; lock retained unless closed"
      (MotorOwner.combineStopResults
        [("shutdown", MotorOwner.failedStopResult first), ("shutdown_retry", MotorOwner.failedStopResult e)])

def closeOpen (c : SupervisorConfig) : Sup SupervisorStatus := do
  modify fun s => { s with state := .shuttingDown }
  match ← Prog.attempt (onOwner (MotorOwner.close c.toRobotConfig)) with
  | .ok result =>
    if MotorOwner.StopResult.Clean result.toStopResult then finalizeClosed c result.cleanupErrors
    else shutdownFailed c "Shutdown stop was not verified; lock retained" result.toStopResult
  | .error e => closeAgain c e

/-- A closed supervisor answers the status it kept; a close whose own status
failed kept none. -/
def close (c : SupervisorConfig) : Sup (Option SupervisorStatus) := do
  requireDispatchThread
  let s ← get
  if s.isClosed then return s.closeStatus else return some (← closeOpen c)

-- The supervisor as a machine

inductive SupervisorCall where
  | claim (ownerId : String)
  | heartbeat (sessionId : String) (sequenceId : Int)
  | arm (sessionId : String) (sequenceId : Int)
  | startDrive (command : DriveCommand) (guard : StartGuard)
  | stop
  | release (sessionId : String) (sequenceId : Int)
  | resetFault
  | pollOnce
  | close
  | drainAuditEvents

/-- One public call. The audit may be drained between calls. -/
def perform (c : SupervisorConfig) : SupervisorCall → Sup Reply
  | .claim ownerId => claim c ownerId
  | .heartbeat sessionId sequenceId => heartbeat c sessionId sequenceId
  | .arm sessionId sequenceId => arm c sessionId sequenceId
  | .startDrive command guard => startDrive c command guard
  | .stop => stop c
  | .release sessionId sequenceId => release c sessionId sequenceId
  | .resetFault => resetFault c
  | .pollOnce => do return .status (← pollOnce c)
  | .close => do return ((← close c).map Reply.status).getD .nothing
  | .drainAuditEvents => do
    modify fun s => { s with audit := { s.audit with events := [] } }
    return .status (← status c)

end EV3Supervisor

/-- The supervisor's public calls, one after the other. -/
def ev3Supervisor (c : SupervisorConfig) : Machine EV3Supervisor EV3Supervisor.SupervisorCall
    (Except PyError EV3Supervisor.Reply) where
  step s call := EV3Supervisor.perform c call s

end RobotLlm.Ev3
