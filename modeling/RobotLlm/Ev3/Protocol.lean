import Mathlib.Algebra.Order.Ring.Int
import RobotLlm.Ev3.SupervisorCommands

/-!
# The supervisor's request protocol

Validated requests, dispatched to one supervisor on its thread. Motion is
paid for from a budget of the process before it is tried; a stop is answered
with success only if the status it leaves proves it.
-/

namespace RobotLlm.Ev3

open RobotLlm.Lib

-- Requests and responses

inductive Operation where
  | status
  | describe
  | claim (ownerId : String)
  | heartbeat (sessionId : String) (sequenceId : Int)
  | arm (sessionId : String) (sequenceId : Int)
  | driveTimed (command : EV3Supervisor.DriveCommand)
  | drivePulse (sessionId : String) (sequenceId : Int) (commandId : String) (referenceHeartbeatSequence : Int)
      (action : String)
  | release (sessionId : String) (sequenceId : Int)
  | stop
  | shutdown
deriving DecidableEq

/-- `STOP_OPERATIONS`. -/
def Operation.isStop : Operation → Bool
  | .stop | .shutdown => true
  | _ => false

/-- A validated request, stamped with the receive clock of the EV3. -/
structure SupervisorRequest where
  controllerId : String
  requestId : String
  operation : Operation
  queueTtlMs : Int
  receivedAtMs : Int
deriving DecidableEq

def SupervisorRequest.deadlineMs (r : SupervisorRequest) : Int := r.receivedAtMs + r.queueTtlMs

structure DriveTimedCapability where
  enabled : Bool
  maxAbsSpeedDps : Int
  maxDurationMs : Int
deriving DecidableEq

/-- What `_description` says of this process; the fixed tables are left out. -/
structure Description where
  robotId : String
  controllerId : String
  controllerInstanceId : String
  motionEnabled : Bool
  runtimeProfile : String
  remainingMotionBudget : Int
  remainingMotionDurationMs : Int
  maxSessionMs : Option Int
  maxProcessRequests : Int
  pollIntervalMs : Int
  maxPollLatenessMs : Int
  driveTimed : DriveTimedCapability
  drivePulseEnabled : Bool
deriving DecidableEq

inductive OperationResult where
  | description (description : Description)
  | status (status : SupervisorStatus)
  | reply (reply : EV3Supervisor.Reply)
deriving DecidableEq

inductive ResponseBody where
  | success (result : OperationResult)
  | failure (code message : String)
deriving DecidableEq

structure Response where
  requestId : String
  controllerId : String
  body : ResponseBody
deriving DecidableEq

/-- `response["ok"]`. -/
def Response.ok (r : Response) : Bool :=
  match r.body with
  | .success _ => true
  | .failure _ _ => false

/-- `ProtocolError`, a `ValueError` with a code. -/
def protocolError (code message : String) : PyError := { kind := .value, code := some code, message := message }

def safeDetail (message : String) : String := String.ofList ((" ".intercalate (words message)).toList.take 240)

-- The protocol of one process

def drivePulseDurationMs : Int := 150

/-- `DRIVE_PULSE_ACTIONS`. -/
def drivePulseSpeeds : String → Option (Int × Int)
  | "ADVANCE" => some (100, 100)
  | "TURN_LEFT" => some (-100, 100)
  | "TURN_RIGHT" => some (100, -100)
  | _ => none

structure ProtocolConfig extends SupervisorConfig where
  controllerId : String
  robotId : String
  controllerInstanceId : String
  allowMotion : Bool
  /-- The runtime profile is the roamer's, which needs motion. -/
  irRoamer : Bool
  experimentMaxAbsSpeedDps : Int
  experimentMaxDurationMs : Int
  profileOk : irRoamer = true → allowMotion = true

/-- The one motion budget the constructor accepts. -/
def ProtocolConfig.motionBudget (c : ProtocolConfig) : Int :=
  if c.irRoamer then 20 else if c.allowMotion then 1 else 0

def ProtocolConfig.motionDurationBudget (c : ProtocolConfig) : Int := if c.irRoamer then 3000 else 0

structure SupervisorProtocol where
  supervisor : EV3Supervisor
  remainingMotionBudget : Int
  remainingMotionDurationMs : Int

/-- `SupervisorProtocol(supervisor, ..)`. -/
def SupervisorProtocol.start (c : ProtocolConfig) (supervisor : EV3Supervisor) : SupervisorProtocol where
  supervisor := supervisor
  remainingMotionBudget := c.motionBudget
  remainingMotionDurationMs := c.motionDurationBudget

/-- `cancellation_requested`, which looks at flags. -/
structure Cancellation where
  requested : Io Bool
  reads : Prog.Keeps Hardware.Read requested

def Cancellation.check (cancellation : Cancellation) : Io Unit := do
  let requested ← cancellation.requested
  Prog.failIf (requested = true)
    (supervisorError "external_stop_requested" "Stop or shutdown was requested before motor start")

/-- The guard of a motion request: it expires, and it may be cancelled. -/
def requestGuard (deadlineMs : Int) (cancellation : Option Cancellation) : Io Unit := do
  let now ← Hardware.nowMs
  Prog.failIf (now ≥ deadlineMs) (supervisorError "stale_request" "Request expired before motor start")
  match cancellation with
  | none => return ()
  | some cancellation => cancellation.check

theorem requestGuard_reads (deadlineMs : Int) (cancellation : Option Cancellation) :
    Prog.Keeps Hardware.Read (requestGuard deadlineMs cancellation) := by
  refine .bind Hardware.nowMs_read fun _ => .bind (.failIf _ _) fun _ => ?_
  cases cancellation with
  | none => exact .pure _
  | some cancellation => exact .bind cancellation.reads fun _ => .failIf _ _

namespace SupervisorProtocol

abbrev Prot := Prog SupervisorProtocol PyError

def onSupervisor (x : EV3Supervisor.Sup α) : Prot α := Prog.onPart supervisor (fun s p => { p with supervisor := s }) x

def description (c : ProtocolConfig) (p : SupervisorProtocol) : Description where
  robotId := c.robotId
  controllerId := c.controllerId
  controllerInstanceId := c.controllerInstanceId
  motionEnabled := c.allowMotion
  runtimeProfile := if c.irRoamer then "ir-roamer-v1" else if c.allowMotion then "one-shot-drive-test" else "motion-free"
  remainingMotionBudget := p.remainingMotionBudget
  remainingMotionDurationMs := p.remainingMotionDurationMs
  maxSessionMs := if c.irRoamer then some 20000 else none
  maxProcessRequests := if c.irRoamer then 256 else 128
  pollIntervalMs := c.limits.pollIntervalMs
  maxPollLatenessMs := c.limits.maxPollLatenessMs
  driveTimed := {
    enabled := c.allowMotion && !c.irRoamer
    maxAbsSpeedDps := min c.drive.maxAbsSpeedDps c.experimentMaxAbsSpeedDps
    maxDurationMs := min c.drive.maxDurationMs c.experimentMaxDurationMs }
  drivePulseEnabled := c.irRoamer

-- Stops

/-- `_stop_is_verified`, of a status. -/
def statusIsVerified (status : SupervisorStatus) : Bool :=
  if status.state = .closed then true
  else if status.sessionActive = true ∨ status.activeCommandId ≠ none then false
  else if status.state = .disarmed then true
  else
    status.state = .faultLatched &&
      match status.fault with
      | none => false
      | some fault => fault.stopConfirmed && fault.stopErrors.isEmpty && fault.faultTokens.isEmpty

def stopIsVerified : EV3Supervisor.Reply → Bool
  | .closed => true
  | .status status => statusIsVerified status
  | .claimed _ _ | .accepted _ | .nothing => false

/-- `_require_verified_stop(self.supervisor.stop())`. -/
def dispatchStop (c : ProtocolConfig) : Prot OperationResult := do
  let reply ← onSupervisor (EV3Supervisor.stop c.toSupervisorConfig)
  Prog.failIf (stopIsVerified reply = false)
    (supervisorError "stop_not_confirmed" "Local stop could not be verified")
  return .reply reply

-- Motion

/-- `self.supervisor.start_drive(..)`, with the guard of the request. -/
def dispatchDrive (c : ProtocolConfig) (request : SupervisorRequest) (cancellation : Option Cancellation)
    (command : EV3Supervisor.DriveCommand) : Prot OperationResult := do
  let reply ← onSupervisor (EV3Supervisor.startDrive c.toSupervisorConfig command
    ⟨requestGuard request.deadlineMs cancellation, requestGuard_reads _ _⟩)
  return .reply reply

def dispatchDriveTimed (c : ProtocolConfig) (request : SupervisorRequest) (cancellation : Option Cancellation)
    (command : EV3Supervisor.DriveCommand) : Prot OperationResult := do
  Prog.failIf (c.allowMotion = false ∨ c.irRoamer = true)
    (protocolError "motion_disabled" "Numeric timed drive is disabled for this process")
  let p ← get
  Prog.failIf (p.remainingMotionBudget ≤ 0)
    (protocolError "motion_budget_exhausted" "The one-shot motion budget is exhausted")
  Prog.failIf (command.leftSpeedDps.natAbs > c.experimentMaxAbsSpeedDps ∨
      command.rightSpeedDps.natAbs > c.experimentMaxAbsSpeedDps)
    (protocolError "experiment_speed_limit" "Drive speed exceeds the process experiment limit")
  Prog.failIf (command.durationMs > c.experimentMaxDurationMs)
    (protocolError "experiment_duration_limit" "Drive duration exceeds the process experiment limit")
  modify fun p => { p with remainingMotionBudget := p.remainingMotionBudget - 1 }
  dispatchDrive c request cancellation command

def pulseSpeeds (action : String) : Except PyError (Int × Int) :=
  match drivePulseSpeeds action with
  | some speeds => .ok speeds
  | none => .error (protocolError "invalid_action" "Semantic drive action is not allowed")

def dispatchDrivePulse (c : ProtocolConfig) (request : SupervisorRequest) (cancellation : Option Cancellation)
    (sessionId : String) (sequenceId : Int) (commandId : String) (referenceHeartbeatSequence : Int)
    (action : String) : Prot OperationResult := do
  Prog.failIf (c.irRoamer = false)
    (protocolError "motion_disabled" "Semantic drive pulse is disabled for this process")
  let p ← get
  Prog.failIf (p.remainingMotionBudget ≤ 0)
    (protocolError "motion_budget_exhausted" "Semantic motion command budget is exhausted")
  Prog.failIf (p.remainingMotionDurationMs < drivePulseDurationMs)
    (protocolError "motion_duration_budget_exhausted" "Semantic motion duration budget is exhausted")
  let speeds ← Prog.ofExcept (pulseSpeeds action)
  modify fun p => { p with
    remainingMotionBudget := p.remainingMotionBudget - 1
    remainingMotionDurationMs := p.remainingMotionDurationMs - drivePulseDurationMs }
  dispatchDrive c request cancellation
    ⟨sessionId, sequenceId, commandId, referenceHeartbeatSequence, speeds.1, speeds.2, drivePulseDurationMs⟩

-- Dispatch

def replyOf (x : EV3Supervisor.Sup EV3Supervisor.Reply) : Prot OperationResult := do
  return .reply (← onSupervisor x)

def dispatch (c : ProtocolConfig) (request : SupervisorRequest) (cancellation : Option Cancellation) :
    Prot OperationResult :=
  match request.operation with
  | .describe => do return .description ((← get).description c)
  | .status => do return .status (← onSupervisor (EV3Supervisor.status c.toSupervisorConfig))
  | .claim ownerId => replyOf (EV3Supervisor.claim c.toSupervisorConfig ownerId)
  | .heartbeat sessionId sequenceId => replyOf (EV3Supervisor.heartbeat c.toSupervisorConfig sessionId sequenceId)
  | .arm sessionId sequenceId => replyOf (EV3Supervisor.arm c.toSupervisorConfig sessionId sequenceId)
  | .driveTimed command => dispatchDriveTimed c request cancellation command
  | .drivePulse sessionId sequenceId commandId referenceHeartbeatSequence action =>
    dispatchDrivePulse c request cancellation sessionId sequenceId commandId referenceHeartbeatSequence action
  | .release sessionId sequenceId => replyOf (EV3Supervisor.release c.toSupervisorConfig sessionId sequenceId)
  | .stop | .shutdown => dispatchStop c

def successResponse (c : ProtocolConfig) (request : SupervisorRequest) (result : OperationResult) : Response where
  requestId := request.requestId
  controllerId := c.controllerId
  body := .success result

def errorResponse (c : ProtocolConfig) (request : SupervisorRequest) (e : PyError) : Response where
  requestId := request.requestId
  controllerId := c.controllerId
  body := .failure (e.codeOr "protocol_error") (safeDetail e.message)

/-- The dispatch, with its `ProtocolError` or `SupervisorError` answered. -/
def answer (c : ProtocolConfig) (request : SupervisorRequest) (cancellation : Option Cancellation) : Prot Response :=
  tryCatch (do return successResponse c request (← dispatch c request cancellation)) fun e =>
    if e.code.isSome then return errorResponse c request e else throw e

def dispatchTime (dispatchAtMs : Option Int) : Prot Int :=
  match dispatchAtMs with
  | some at_ => return at_
  | none => onSupervisor EV3Supervisor.nowMs

def executeHere (c : ProtocolConfig) (request : SupervisorRequest) (dispatchAtMs : Option Int)
    (cancellation : Option Cancellation) : Prot Response := do
  let now ← dispatchTime dispatchAtMs
  Prog.failIf (now < 0) (protocolError "invalid_dispatch_time" "Local dispatch time is invalid")
  if request.operation.isStop = false ∧ now ≥ request.deadlineMs then
    return errorResponse c request (protocolError "stale_request" "Request expired in the local input queue")
  else answer c request cancellation

def execute (c : ProtocolConfig) (request : SupervisorRequest) (dispatchAtMs : Option Int)
    (cancellation : Option Cancellation) : Prot Response :=
  if request.controllerId ≠ c.controllerId then
    return errorResponse c request (protocolError "wrong_controller" "Request targets another controller")
  else executeHere c request dispatchAtMs cancellation

end SupervisorProtocol

end RobotLlm.Ev3
