import RobotLlm.Ev3.Infrared
import RobotLlm.Ev3.MotorOwner
import RobotLlm.Lib.Check

/-!
# The EV3 supervisor

The local state machine between a remote client and the motors. It arms only
for a session with a live heartbeat, runs one bounded drive at a time, watches
it at every poll, and latches a fault that only a verified stop can leave.
-/

namespace RobotLlm.Ev3

open RobotLlm.Lib

-- State

inductive SupervisorState where
  | booting
  | disarmed
  | armedIdle
  | running
  | faultLatched
  | shuttingDown
  | closed
deriving DecidableEq

structure Fault where
  code : String
  detail : String
  stopConfirmed : Bool
  stopErrors : List String
  faultTokens : FaultTokens
  stopHistory : List (String × StopRun)
  /-- Absent from the record until a poll of the latched fault finds some. -/
  secondaryErrors : List String := []
deriving DecidableEq

structure InfraredStatus where
  raw : Option Int
  filtered : Option Int
  blocked : Bool
  reason : GateReason
  sampleCount : Nat
  observedMonotonicMs : Option Int
  ageMs : Option Int
  fresh : Bool
deriving DecidableEq

structure SupervisorStatus where
  state : SupervisorState
  motionAllowed : Bool
  ownerId : Option String
  sessionActive : Bool
  lastSequenceId : Int
  lastHeartbeatSequence : Option Int
  heartbeatAgeMs : Option Int
  touch : Option Int
  touchReleasedSamples : Nat
  infrared : InfraredStatus
  activeCommandId : Option String
  fault : Option Fault
  /-- Only in the status of a closed supervisor. -/
  auditComplete : Option Bool := none
  cleanupErrors : List String := []
deriving DecidableEq

structure AuditEvent where
  eventSequence : Nat
  event : String
  state : SupervisorState
  ownerId : Option String
  lastSequenceId : Int
  activeCommandId : Option String
  fault : Option Fault

structure AuditBuffer where
  maximumEvents : Nat
  events : List AuditEvent := []

/-- One slot is reserved for the terminal event; `none` when the buffer is
full. -/
def AuditBuffer.append (b : AuditBuffer) (event : AuditEvent) (terminal : Bool) : Option AuditBuffer :=
  if b.events.length ≥ b.maximumEvents - (if terminal then 0 else 1) then none
  else some { b with events := b.events ++ [event] }

structure SupervisorConfig extends RobotConfig where
  gatePolicy : InfraredGatePolicy

structure EV3Supervisor where
  owner : MotorOwner
  audit : AuditBuffer
  state : SupervisorState := .booting
  fault : Option Fault := none
  ownerId : Option String := none
  sessionId : Option String := none
  lastSequenceId : Int := 0
  lastHeartbeatMs : Option Int := none
  lastHeartbeatSequence : Option Int := none
  claimedAtMs : Option Int := none
  lastPollMs : Option Int := none
  touchValue : Option Int := none
  touchReleasedSamples : Nat := 0
  activeCommandId : Option String := none
  seenCommandIds : List String := []
  eventSequence : Nat := 0
  gate : InfraredObstacleGate := {}
  infraredObservedMs : Option Int := none
  isClosed : Bool := false
  closeStatus : Option SupervisorStatus := none
  dispatchThreadId : Nat := 0

namespace EV3Supervisor

abbrev Sup := Prog EV3Supervisor PyError

def ownerPart : Part EV3Supervisor MotorOwner := ⟨owner, fun o s => { s with owner := o }⟩

def onOwner (x : MotorOwner.Own α) : Sup α := ownerPart.lift x

def io (x : Io α) : Sup α := MotorOwner.io ownerPart x

-- Checks and clocks

def validateIdentifier (name value : String) (maximum : Nat) : Except PyError Unit :=
  let cs := value.toList
  if cs ≠ [] ∧ Navigation.strip cs = cs ∧ cs.length ≤ maximum ∧ ∀ c ∈ cs, c.toNat ≠ 0 ∧ c ≠ '\n' ∧ c ≠ '\r' then
    .ok ()
  else .error (supervisorError ("invalid_" ++ name) s!"{name} must contain 1..{maximum} safe characters")

/-- `_validate_positive_int` with its maximum. -/
def validatePositiveInt (name : String) (value : Int) : Except PyError Unit :=
  if value ≤ 0 then .error (supervisorError ("invalid_" ++ name) s!"{name} must be a positive integer")
  else if value > 2147483647 then .error (supervisorError ("invalid_" ++ name) s!"{name} exceeds maximum 2147483647")
  else .ok ()

def requireDispatchThread : Sup Unit := do
  let s ← get
  Prog.failIf (s.dispatchThreadId ≠ s.owner.hw.thread)
    (supervisorError "wrong_dispatch_thread" "Mutation must run on the supervisor dispatch thread")

def stateName : SupervisorState → String
  | .booting => "BOOTING"
  | .disarmed => "DISARMED"
  | .armedIdle => "ARMED_IDLE"
  | .running => "RUNNING"
  | .faultLatched => "FAULT_LATCHED"
  | .shuttingDown => "SHUTTING_DOWN"
  | .closed => "CLOSED"

def requireState (states : List SupervisorState) : Sup Unit := do
  let s ← get
  Prog.failIf (s.state ∉ states)
    (supervisorError "wrong_state" ("Operation is not allowed in state " ++ stateName s.state))

def requireSession (sessionId : String) : Sup Unit := do
  Prog.ofExcept (validateIdentifier "session_id" sessionId 128)
  let s ← get
  Prog.failIf (s.sessionId ≠ some sessionId) (supervisorError "wrong_session" "Session is not active")

def validateSequence (sequenceId : Int) : Sup Unit := do
  Prog.ofExcept (validatePositiveInt "sequence_id" sequenceId)
  let s ← get
  Prog.failIf (sequenceId ≤ s.lastSequenceId)
    (supervisorError "replayed_sequence" "sequence_id must increase strictly")

def consumeSequence (sequenceId : Int) : Sup Unit := do
  validateSequence sequenceId
  modify fun s => { s with lastSequenceId := sequenceId }

def nowMs : Sup Int := io Hardware.nowMs

def checkedNowMs : Sup Int := do
  let now ← nowMs
  let s ← get
  Prog.failIf (∃ last ∈ s.lastPollMs, now < last)
    (supervisorError "clock_rollback" "Monotonic clock moved backwards")
  modify fun s => { s with lastPollMs := some now }
  return now

def heartbeatAgeMs (s : EV3Supervisor) (now : Int) : Option Int := s.lastHeartbeatMs.map (now - ·)

def heartbeatIsFresh (c : SupervisorConfig) (s : EV3Supervisor) (now : Int) : Bool :=
  match s.heartbeatAgeMs now with
  | none => false
  | some age => 0 ≤ age && age < c.limits.heartbeatTimeoutMs

def requireHeartbeat (c : SupervisorConfig) (now : Int) (e : PyError) : Sup Unit := do
  let s ← get
  Prog.failIf (s.heartbeatIsFresh c now = false) e

def infraredStatus (c : SupervisorConfig) (s : EV3Supervisor) (now : Int) : InfraredStatus :=
  let ageMs := s.infraredObservedMs.map (now - ·)
  { raw := s.gate.raw
    filtered := s.gate.filtered
    blocked := s.gate.blocked
    reason := s.gate.reason
    sampleCount := s.gate.sampleCount
    observedMonotonicMs := s.infraredObservedMs
    ageMs := ageMs
    fresh :=
      match ageMs with
      | none => false
      | some age =>
        0 ≤ age && age ≤ c.limits.pollIntervalMs + c.limits.maxPollLatenessMs && s.gate.raw.isSome }

def statusAt (c : SupervisorConfig) (s : EV3Supervisor) (now : Int) : SupervisorStatus where
  state := s.state
  motionAllowed := s.state = .armedIdle && s.touchValue = some 0 && s.heartbeatIsFresh c now
  ownerId := s.ownerId
  sessionActive := s.sessionId.isSome
  lastSequenceId := s.lastSequenceId
  lastHeartbeatSequence := s.lastHeartbeatSequence
  heartbeatAgeMs := s.heartbeatAgeMs now
  touch := s.touchValue
  touchReleasedSamples := s.touchReleasedSamples
  infrared := s.infraredStatus c now
  activeCommandId := s.activeCommandId
  fault := s.fault

def status (c : SupervisorConfig) : Sup SupervisorStatus := do
  let now ← nowMs
  return (← get).statusAt c now

-- Faults and the audit

def invalidateSession (s : EV3Supervisor) : EV3Supervisor :=
  { s with
    ownerId := none
    sessionId := none
    lastSequenceId := 0
    lastHeartbeatMs := none
    lastHeartbeatSequence := none
    claimedAtMs := none
    seenCommandIds := [] }

/-- Update the fault record; without one, the item assignment raises. -/
def updateFault (f : Fault → Fault) : Sup Unit := do
  let s ← get
  Prog.failIf (s.fault = none)
    { kind := .other, message := "'NoneType' object does not support item assignment" }
  modify fun s => { s with fault := s.fault.map f }

def Fault.retried (phase : String) (retry : StopResult) (fault : Fault) : Fault :=
  { fault with
    stopConfirmed := retry.stopConfirmed
    stopErrors := retry.errors
    faultTokens := retry.faultTokens
    stopHistory := fault.stopHistory ++ [(phase, retry.toStopRun)] }

/-- `finish_active(False)["stop"]`. -/
def finishActiveStop (c : SupervisorConfig) : Sup StopResult := do
  return (← onOwner (MotorOwner.finishActive c.toRobotConfig false)).stop

/-- A fault entered while one is latched stops again and keeps the record. -/
def faultRetry (c : SupervisorConfig) : Sup Unit := do
  match ← Prog.attempt (finishActiveStop c) with
  | .ok retry => updateFault (Fault.retried "fault_retry" retry)
  | .error e => updateFault (Fault.retried "fault_retry_interrupted" (MotorOwner.failedStopResult e))

def faultOf (code detail : String) (stop : StopResult) : Fault where
  code := code
  detail := detail
  stopConfirmed := stop.stopConfirmed
  stopErrors := stop.errors
  faultTokens := stop.faultTokens
  stopHistory := if stop.stopHistory = [] then [("fault_entry", stop.toStopRun)] else stop.stopHistory

def latched (code detail : String) (stop : StopResult) (s : EV3Supervisor) : EV3Supervisor :=
  { s.invalidateSession with
    activeCommandId := none
    fault := some (faultOf code detail stop)
    state := .faultLatched }

/-- The stop a fault records: the one made already, or one made now. -/
def stopForFault (c : SupervisorConfig) : Option StopResult → Sup StopResult
  | some stop => return stop
  | none => do return MotorOwner.stopResultOf (← Prog.attempt (finishActiveStop c))

/-- `_enter_fault(.., emit=False)`. -/
def enterFaultSilently (c : SupervisorConfig) (code detail : String) (stop : Option StopResult) : Sup Unit := do
  let s ← get
  if s.state = .faultLatched then faultRetry c
  else do
    let stop ← stopForFault c stop
    modify (latched code detail stop)

def auditFailure : PyError := supervisorError "audit_failure" "Audit sink failed"

/-- The buffer is full: a fault, unless the supervisor is on its way out. -/
def auditFailed (c : SupervisorConfig) : Sup Unit := do
  let s ← get
  if s.state = .shuttingDown ∨ s.state = .closed then throw auditFailure
  else do
    enterFaultSilently c "audit_failure" "Audit sink failed: Audit buffer is full" none
    throw auditFailure

/-- `_audit`. The event's own details are read by nothing. -/
def emit (c : SupervisorConfig) (event : String) : Sup Unit := do
  modify fun s => { s with eventSequence := s.eventSequence + 1 }
  let _ ← nowMs
  let s ← get
  match s.audit.append
      ⟨s.eventSequence, event, s.state, s.ownerId, s.lastSequenceId, s.activeCommandId, s.fault⟩
      (event = "supervisor_closed") with
  | some buffer => modify fun s => { s with audit := buffer }
  | none => auditFailed c

/-- `except SupervisorError: pass`. -/
def ignoreSupervisorError (x : Sup Unit) : Sup Unit :=
  tryCatch x fun e => if e.code.isSome then pure () else throw e

def enterFault (c : SupervisorConfig) (code detail : String) (stop : Option StopResult) : Sup Unit := do
  let s ← get
  if s.state = .faultLatched then faultRetry c
  else do
    let stop ← stopForFault c stop
    modify (latched code detail stop)
    ignoreSupervisorError (emit c "fault_latched")

/-- `_finish_active_with_retry`: the combined result, and the first error. -/
def finishActiveWithRetry (c : SupervisorConfig) (phase : String) : Sup (StopResult × Option PyError) := do
  match ← Prog.attempt (finishActiveStop c) with
  | .ok stop => return (stop, none)
  | .error e => do
    let retry ← Prog.attempt (finishActiveStop c)
    return (MotorOwner.combineStopResults
      [(phase, MotorOwner.failedStopResult e), (phase ++ "_retry", MotorOwner.stopResultOf retry)], some e)

-- Sensors

def readTouch : Sup Unit := do
  let value ← onOwner MotorOwner.readTouchValue
  Prog.failIf (value ≠ 0 ∧ value ≠ 1)
    (supervisorError "invalid_touch" "Touch sensor must report exactly 0 or 1")
  modify fun s => { s with
    touchValue := some value
    touchReleasedSamples := if value = 0 then s.touchReleasedSamples + 1 else 0 }
  let _ ← nowMs
  return ()

/-- The gate takes a sample; one it refuses is a hardware fault. -/
def observeInfrared (c : SupervisorConfig) (observedMs value : Int) : Sup Unit := do
  let s ← get
  let r := s.gate.observe c.gatePolicy value
  modify fun s => { s with gate := r.2, infraredObservedMs := some observedMs }
  Prog.ofExcept (r.1.mapError fun e => supervisorError "infrared_invalid_sample" e.message)

def infraredFailed (observedMs : Int) (e : PyError) : Sup Int := do
  modify fun s => { s with gate := s.gate.failClosed, infraredObservedMs := some observedMs }
  throw e

def readInfrared (c : SupervisorConfig) : Sup Unit := do
  let observedMs ← checkedNowMs
  let value ← tryCatch (onOwner MotorOwner.readInfraredValue) (infraredFailed observedMs)
  observeInfrared c observedMs value

def requireForwardInfraredClear (c : SupervisorConfig) : Sup Unit := do
  let now ← checkedNowMs
  let s ← get
  Prog.failIf ((s.infraredStatus c now).fresh = false)
    (supervisorError "infrared_not_fresh" "Forward motion requires a fresh local IR observation")
  Prog.failIf ((s.infraredStatus c now).blocked = true)
    (supervisorError "infrared_obstacle" "Forward motion is blocked by the local IR gate")

def requireInfraredIf (c : SupervisorConfig) (forward : Bool) : Sup Unit :=
  if forward then requireForwardInfraredClear c else return ()

def requireTouchReleased (message : String) : Sup Unit := do
  let s ← get
  Prog.failIf (s.touchValue ≠ some 0) (supervisorError "touch_pressed" message)

-- Motors

/-- `sorted(tokens & FAULT_MOTOR_STATES)`, as text. -/
def faultNames (tokens : List MotorToken) : String :=
  let names := (if .overloaded ∈ tokens then ["'overloaded'"] else []) ++
    (if .stalled ∈ tokens then ["'stalled'"] else [])
  "[" ++ ", ".intercalate names ++ "]"

def motorStateFault (motor : String) (tokens : List MotorToken) : PyError :=
  supervisorError "motor_state_fault" (s!"Motor {motor} reports " ++ faultNames tokens)

def checkIdleMotor (snapshot : MotorSnapshot) : Except PyError Unit := do
  let tokens ← stateTokens snapshot.state
  if tokens.any MotorToken.Active then
    .error (supervisorError "unexpected_external_motion"
      s!"Motor {snapshot.address} is active while supervisor is idle")
  else if tokens.any MotorToken.Fault then .error (motorStateFault snapshot.address tokens)
  else .ok ()

def checkIdleMotors : Sup Unit := do
  let snapshots ← onOwner (MotorOwner.dynamicMotorSnapshots [])
  Prog.ofExcept (snapshots.forM checkIdleMotor)

/-- A motor of any snapshot taken during a motion. -/
def checkObservedMotor (activePaths : List String) (observed : MotorSnapshot) : Except PyError Unit := do
  let tokens ← stateTokens observed.state
  if tokens.any MotorToken.Fault then .error (motorStateFault observed.address tokens)
  else if tokens.any MotorToken.Active ∧ observed.path ∉ activePaths then
    .error (supervisorError "unexpected_external_motion" "A motor outside the active command is running")
  else .ok ()

/-- A motor of the active motion: its state and its direction. -/
def checkRunningMotor (c : SupervisorConfig) (running : RunningMotion) (now : Int) (motor : RunningMotor) :
    Except PyError Unit := do
  let tokens ← stateTokens motor.state
  if tokens.any MotorToken.Fault then .error (motorStateFault motor.role tokens)
  else if now ≥ running.startedAtMs + c.limits.stallStartupGraceMs ∧
      now < running.deadlineMs - c.limits.pollIntervalMs ∧ tokens.any MotorToken.Active = false then
    .error (supervisorError "unexpected_early_stop" s!"Motor {motor.role} stopped before its local deadline")
  else if (motor.position - motor.positionBefore).natAbs ≥ 1 ∧
      (motor.position - motor.positionBefore) * motor.physicalSpeedDps < 0 then
    .error (supervisorError "encoder_direction" s!"Motor {motor.role} moved in the wrong direction")
  else .ok ()

/-- The progress a motor has to make within a stall window. -/
def requiredProgress (c : SupervisorConfig) (motor : RunningMotor) : Int :=
  let expected := roundDiv (motor.physicalSpeedDps.natAbs * c.limits.stallWindowMs) 1000
  max c.limits.stallMinProgressDegrees (roundDiv (expected * c.limits.stallMinProgressRatioPercent) 100)

/-- Progress moves the checkpoint; none for a whole window is a stall. -/
def checkProgress (c : SupervisorConfig) (now : Int) (motor : RunningMotor) : Sup Unit := do
  let checkpoint ← onOwner (MotorOwner.progressCheckpoint motor.role)
  let delta := motor.position - checkpoint.1
  if delta * motor.physicalSpeedDps > 0 ∧ delta.natAbs ≥ requiredProgress c motor then
    onOwner (MotorOwner.updateProgressCheckpoint motor.role motor.position now)
  else
    Prog.failIf (now ≥ checkpoint.2 ∧ now - checkpoint.2 ≥ c.limits.stallWindowMs)
      (supervisorError "encoder_stall" s!"Motor {motor.role} made no verified progress")

def checkRunningMotors (c : SupervisorConfig) (running : RunningMotion) (now : Int) : List RunningMotor → Sup Unit
  | [] => return ()
  | motor :: motors => do
    Prog.ofExcept (checkRunningMotor c running now motor)
    checkProgress c now motor
    checkRunningMotors c running now motors

/-- `self._owner.active`, subscripted. -/
def activeMotion : Sup ActiveMotion := do
  let s ← get
  match s.owner.active with
  | some active => return active
  | none => throw { kind := .other, message := "'NoneType' object is not subscriptable" }

/-- `_check_running_motion(touch_already_read=True)`: the motion as observed,
and when. -/
def checkRunningMotion (c : SupervisorConfig) : Sup (RunningMotion × Int) := do
  let active ← activeMotion
  let all ← onOwner (MotorOwner.dynamicMotorSnapshots (active.motors.map Motor.role))
  let running ← onOwner (MotorOwner.activeSnapshotOf all)
  let now ← checkedNowMs
  Prog.ofExcept (all.forM (checkObservedMotor (running.motors.map RunningMotor.path)))
  let s ← get
  Prog.failIf (s.touchValue = some 1) (supervisorError "touch_pressed" "Touch stop input is pressed")
  requireHeartbeat c now (supervisorError "heartbeat_timeout" "Heartbeat expired during motion")
  checkRunningMotors c running now running.motors
  return (running, now)

-- Polling

def stopForwardForInfrared (c : SupervisorConfig) : Sup SupervisorStatus := do
  let _ ← checkedNowMs
  let r ← finishActiveWithRetry c "infrared_obstacle_stop"
  modify fun s => { s with activeCommandId := none }
  if r.2 = none ∧ MotorOwner.StopResult.Clean r.1 then do
    modify fun s => { s with state := .armedIdle }
    emit c "infrared_obstacle_stop"
    status c
  else do
    enterFault c "infrared_stop_failed" "IR obstacle stop was not verified" (some r.1)
    status c

/-- The motion is over: its stop and its encoders are verified. -/
def completeMotion (c : SupervisorConfig) : Sup Unit := do
  let result ← onOwner (MotorOwner.finishActive c.toRobotConfig true)
  if result.stop.stopConfirmed = false ∨ result.stop.errors ≠ [] ∨ result.verificationError ≠ none then
    enterFault c "motion_completion_failed" "Motion could not be safely verified" (some result.stop)
  else do
    modify fun s => { s with activeCommandId := none, state := .armedIdle }
    emit c "motion_completed"

/-- Whether the motion is to be stopped for the gate, done, or to run on. -/
inductive RunningPoll where
  | obstacle
  | complete
  | goOn
deriving DecidableEq

def pollMotion (c : SupervisorConfig) : Sup RunningPoll := do
  let s ← get
  if (∃ active ∈ s.owner.active, active.forwardMotion = true) ∧ s.gate.blocked = true then return .obstacle
  else do
    let running ← checkRunningMotion c
    return if running.2 ≥ running.1.deadlineMs then .complete else .goOn

def pollRunning (c : SupervisorConfig) : Sup (Option SupervisorStatus) := do
  match ← pollMotion c with
  | .obstacle => return some (← stopForwardForInfrared c)
  | .complete => do
    completeMotion c
    return none
  | .goOn => return none

/-- An unarmed session whose heartbeat, or claim, is too old. -/
def leaseExpired (c : SupervisorConfig) (s : EV3Supervisor) (now : Int) : Bool :=
  s.state = .disarmed && s.sessionId.isSome &&
    match s.lastHeartbeatMs.or s.claimedAtMs with
    | none => false
    | some reference => now - reference ≥ c.limits.heartbeatTimeoutMs

def expireLease (c : SupervisorConfig) (now : Int) : Sup Unit := do
  let s ← get
  if s.leaseExpired c now then do
    modify invalidateSession
    emit c "unarmed_lease_expired"
  else return ()

def pollIdle (c : SupervisorConfig) : Sup Unit := do
  checkIdleMotors
  let now ← checkedNowMs
  let s ← get
  Prog.failIf (s.state = .armedIdle ∧ s.touchValue = some 1)
    (supervisorError "touch_pressed" "Touch stop input is pressed while armed")
  Prog.failIf (s.state = .armedIdle ∧ s.heartbeatIsFresh c now = false)
    (supervisorError "heartbeat_timeout" "Heartbeat expired while armed")
  expireLease c now

def pollSensors (c : SupervisorConfig) : Sup Unit := do
  let _ ← checkedNowMs
  readTouch
  readInfrared c
  let _ ← checkedNowMs
  return ()

/-- The `try` of a poll outside of a fault. -/
def pollUnfaulted (c : SupervisorConfig) : Sup (Option SupervisorStatus) := do
  pollSensors c
  let s ← get
  match s.state with
  | .running => pollRunning c
  | .disarmed | .armedIdle => do
    pollIdle c
    return none
  | _ => return none

def pollFailed (c : SupervisorConfig) (e : PyError) : Sup (Option SupervisorStatus) :=
  if e.IsPollError then do
    enterFault c (e.codeOr "poll_failure") e.message none
    return none
  else throw e

/-- `except SupervisorError as error: secondary_errors.append(str(error))`. -/
def secondaryClockError : Sup (List String) :=
  tryCatch (do let _ ← checkedNowMs; return []) fun e => if e.code.isSome then return [e.message] else throw e

def retryInFault (c : SupervisorConfig) : Sup Unit := do
  match ← Prog.attempt (finishActiveStop c) with
  | .ok retry => updateFault fun fault =>
      { fault with
        stopConfirmed := retry.stopConfirmed
        stopErrors := retry.errors
        faultTokens := retry.faultTokens }
  | .error e => updateFault fun fault => { fault with stopConfirmed := false, stopErrors := [e.message] }

def secondarySensorErrors (c : SupervisorConfig) : Sup (List String) := do
  let r ← Prog.attempt (do readTouch; readInfrared c; let _ ← checkedNowMs; return () : Sup Unit)
  return (messageOf r).toList

/-- A poll of a latched fault stops again and looks at the sensors. -/
def pollFault (c : SupervisorConfig) : Sup SupervisorStatus := do
  let clock ← secondaryClockError
  retryInFault c
  let sensors ← secondarySensorErrors c
  updateFault fun fault =>
    if clock ++ sensors = [] then fault else { fault with secondaryErrors := clock ++ sensors }
  status c

def pollOnce (c : SupervisorConfig) : Sup SupervisorStatus := do
  requireDispatchThread
  let s ← get
  Prog.failIf (s.isClosed = true) (supervisorError "supervisor_closed" "Supervisor is closed")
  if s.state = .faultLatched then pollFault c
  else do
    match ← tryCatch (pollUnfaulted c) (pollFailed c) with
    | some answer => return answer
    | none => status c

end EV3Supervisor

end RobotLlm.Ev3
