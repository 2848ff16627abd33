import RobotLlm.Lib.Json
import RobotLlm.Lib.Prog
import RobotLlm.Navigation.Contract

/-!
# The closed-loop agent

Observe, plan, act, verify, within fixed limits. The robot, the planner, the
clock and the id factory are programs over a world, and each may raise. Every
way out of an episode but an exception leads through `_finish`, so the body of
an episode raises either what it raises in the code or the arguments of the
`_finish` it returns. The log is not in the code.
-/

namespace RobotLlm.AgentLoop

open RobotLlm.Lib
open RobotLlm.Navigation (identifierOk Between counterMax)

-- What raises

inductive Raised where
  /-- `ProposalError`. -/
  | proposal (code : String)
  /-- `RobotAPIError`. -/
  | robotApi (code : String)
  /-- Any other `Exception`. -/
  | exception
  /-- A `BaseException` that is none. -/
  | interrupt
deriving DecidableEq

/-- What `except (ProposalError, RobotAPIError)` catches. -/
def Raised.loopError : Raised → Bool
  | .proposal _ | .robotApi _ => true
  | .exception | .interrupt => false

/-- What `except RobotAPIError` catches. -/
def Raised.apiError : Raised → Bool
  | .robotApi _ => true
  | .proposal _ | .exception | .interrupt => false

def Raised.code : Raised → String
  | .proposal code | .robotApi code => code
  | .exception | .interrupt => ""

/-- `_integer` of the agent loop. -/
def integer (value minimum maximum : Int) : Except Raised Int :=
  if Between value minimum maximum then .ok value else .error (.proposal "invalid_integer")

-- The robot

structure CapabilityGate where
  supported : Bool
  enabled : Bool
  available : Bool

def CapabilityGate.executable (g : CapabilityGate) : Bool := g.supported && g.enabled && g.available

structure MotorCapability where
  motorRole : String
  gate : CapabilityGate
  maxAbsSpeedDps : Int
  maxDurationMs : Int

/-- Whose capabilities, observations and receipts they are. -/
structure ControllerIdentity where
  robotId : String
  controllerId : String
  controllerInstanceId : String
  hostClockId : String
deriving DecidableEq

def ControllerIdentity.Valid (i : ControllerIdentity) : Prop :=
  identifierOk i.robotId ∧ identifierOk i.controllerId ∧ identifierOk i.controllerInstanceId ∧ identifierOk i.hostClockId

structure ControllerCapabilities where
  identity : ControllerIdentity
  motors : List MotorCapability
  identityOk : identity.Valid

def ControllerCapabilities.motor (c : ControllerCapabilities) (role : String) : Except Raised MotorCapability :=
  match c.motors.find? (·.motorRole = role) with
  | some capability => .ok capability
  | none => .error (.robotApi "motor_not_exposed")

structure MotorState where
  positionDegrees : Int
  running : Bool
deriving DecidableEq

structure RobotState where
  observedAtMs : Int
  motors : List (String × MotorState)
  sensors : List (String × Json)
  activeFaults : List String

structure ObservationEnvelope where
  identity : ControllerIdentity
  stateVersion : Int
  receivedAtHostMs : Int
  state : RobotState

structure ActionContext where
  identity : ControllerIdentity
  actionId : String
  segmentId : String
  sourceId : String
  basedOnStateVersion : Int
  basedOnReceivedAtHostMs : Int
  issuedAtHostMs : Int
  validUntilHostMs : Int

/-- `ActionContext.__post_init__`. -/
def ActionContext.check (c : ActionContext) : Except Raised Unit :=
  if ¬ (identifierOk c.identity.robotId ∧ identifierOk c.identity.controllerId ∧
      identifierOk c.identity.controllerInstanceId ∧ identifierOk c.actionId ∧ identifierOk c.sourceId ∧
      identifierOk c.identity.hostClockId ∧ identifierOk c.segmentId 96) then .error (.robotApi "invalid_identifier")
  else if ¬ (Between c.basedOnStateVersion 1 counterMax ∧ Between c.basedOnReceivedAtHostMs 0 counterMax ∧
      Between c.issuedAtHostMs 0 counterMax ∧ Between c.validUntilHostMs 1 counterMax) then
    .error (.robotApi "invalid_integer")
  else if c.validUntilHostMs ≤ c.issuedAtHostMs then .error (.robotApi "invalid_deadline")
  else if c.issuedAtHostMs < c.basedOnReceivedAtHostMs then .error (.robotApi "invalid_causality")
  else .ok ()

structure MotionCommand where
  commandId : String
  motorRole : String
  speedDps : Int
  durationMs : Nat
  issuedAtMs : Int

structure MotionRequest where
  context : ActionContext
  command : MotionCommand

structure StopRequest where
  robotId : String
  controllerId : String
  controllerInstanceId : String
  actionId : String
  segmentId : String
  sourceId : String

/-- `StopRequest.__post_init__`. -/
def StopRequest.check (r : StopRequest) : Except Raised Unit :=
  if identifierOk r.robotId ∧ identifierOk r.controllerId ∧ identifierOk r.controllerInstanceId ∧
      identifierOk r.actionId ∧ identifierOk r.sourceId ∧ identifierOk r.segmentId 96 then .ok ()
  else .error (.robotApi "invalid_identifier")

inductive ReceiptStatus where
  | completed
  | stopped
deriving DecidableEq

structure ActionReceipt where
  actionId : String
  segmentId : String
  controllerId : String
  controllerInstanceId : String
  status : ReceiptStatus
  basedOnStateVersion : Int
  resultingStateVersion : Int
  positionBefore : Option Int
  positionAfter : Option Int

structure RobotAPI (σ : Type) where
  capabilities : Prog σ Raised ControllerCapabilities
  observe : Prog σ Raised ObservationEnvelope
  executeMotion : MotionRequest → Prog σ Raised ActionReceipt
  stopAll : StopRequest → Prog σ Raised ActionReceipt

-- Goals and proposals

structure MotorPositionGoal where
  goalId : String
  instruction : String
  motorRole : String
  targetDegrees : Int
  toleranceDegrees : Int
  goalIdOk : identifierOk goalId
  motorRoleOk : identifierOk motorRole
  targetOk : Between targetDegrees (-2 ^ 31) (2 ^ 31 - 1)
  toleranceOk : Between toleranceDegrees 0 10000

namespace MotorPositionGoal

def position (goal : MotorPositionGoal) (o : ObservationEnvelope) : Except Raised Int :=
  match o.state.motors.lookup goal.motorRole with
  | some motor => integer motor.positionDegrees (-2 ^ 63) (2 ^ 63 - 1)
  | none => .error (.proposal "missing_goal_motor")

def error (goal : MotorPositionGoal) (o : ObservationEnvelope) : Except Raised Int := do
  let position ← goal.position o
  .ok (goal.targetDegrees - position).natAbs

def satisfied (goal : MotorPositionGoal) (o : ObservationEnvelope) : Except Raised Bool := do
  let error ← goal.error o
  .ok (decide (error ≤ goal.toleranceDegrees))

end MotorPositionGoal

structure MotionIntent where
  motorRole : String
  speedDps : Int
  durationMs : Nat

inductive Decision where
  | act (intent : MotionIntent)
  | abort (code : String)

structure DecisionProposal where
  proposalId : String
  goalId : String
  basedOnStateVersion : Int
  decision : Decision

def proposalSchema : String := "robot-agent-decision/v1"
def maxProposalBytes : Nat := 16 * 1024

/-- What a planner returned: bytes, with what the strict decoder makes of them
(`none` when it raises), or anything else. -/
inductive RawProposal where
  | bytes (length : Nat) (value : Option Json)
  | other

def proposalIdentifier (value : Option Json) (maximum : Nat) : Except Raised String :=
  match value with
  | some (.str text) => if identifierOk text maximum then .ok text else .error (.proposal "invalid_identifier")
  | _ => .error (.proposal "invalid_identifier")

def proposalInteger (value : Option Json) (minimum maximum : Int) : Except Raised Int :=
  match value with
  | some (.int n) => integer n minimum maximum
  | _ => .error (.proposal "invalid_integer")

def commonFields : List String := ["schema", "proposal_id", "goal_id", "based_on_state_version", "decision"]

def decodeIntent : Option Json → Except Raised MotionIntent
  | some (.obj action) => do
    if ¬ Json.HasKeys action ["type", "motor_role", "speed_dps", "duration_ms"] ∨
        ¬ Json.IsStr "MOVE_MOTOR" (action.lookup "type") then .error (.proposal "invalid_action")
    let motorRole ← proposalIdentifier (action.lookup "motor_role") 128
    let speed ← proposalInteger (action.lookup "speed_dps") (-100000) 100000
    let duration ← proposalInteger (action.lookup "duration_ms") 1 60000
    if speed = 0 then .error (.proposal "zero_speed") else .ok ⟨motorRole, speed, duration.toNat⟩
  | _ => .error (.proposal "invalid_action")

def decodeDecision (fields : List (String × Json)) : Except Raised Decision :=
  if Json.IsStr "ACT" (fields.lookup "decision") then do
    if ¬ Json.HasKeys fields ("action" :: commonFields) then .error (.proposal "invalid_proposal_fields")
    let intent ← decodeIntent (fields.lookup "action")
    .ok (.act intent)
  else if Json.IsStr "ABORT" (fields.lookup "decision") then do
    if ¬ Json.HasKeys fields ("abort_code" :: commonFields) then .error (.proposal "invalid_proposal_fields")
    let code ← proposalIdentifier (fields.lookup "abort_code") 64
    .ok (.abort code)
  else .error (.proposal "invalid_decision")

def decodeDecisionProposal : RawProposal → Except Raised DecisionProposal
  | .other => .error (.proposal "invalid_proposal_body")
  | .bytes length value => do
    if length = 0 ∨ length > maxProposalBytes then .error (.proposal "invalid_proposal_body")
    match value with
    | none => .error (.proposal "invalid_proposal_json")
    | some (.obj fields) =>
      let decision ← decodeDecision fields
      if ¬ Json.IsStr proposalSchema (fields.lookup "schema") then .error (.proposal "invalid_proposal_schema")
      let proposalId ← proposalIdentifier (fields.lookup "proposal_id") 128
      let goalId ← proposalIdentifier (fields.lookup "goal_id") 128
      let version ← proposalInteger (fields.lookup "based_on_state_version") 1 counterMax
      .ok ⟨proposalId, goalId, version, decision⟩
    | some _ => .error (.proposal "invalid_proposal_shape")

structure PlannerFeedback where
  code : String
  stateVersion : Int
  actionId : Option String

structure PlanningContext where
  goal : MotorPositionGoal
  observation : ObservationEnvelope
  previousFeedback : Option PlannerFeedback
  plannerTurn : Nat
  remainingActions : Int
  remainingMotionMs : Int

-- Results

inductive Termination where
  | goalSatisfied
  | plannerAborted
  | invalidGoal
  | unsafeObservation
  | plannerFailed
  | executionFailed
  | verificationFailed
  | budgetExhausted
  | stopFailed
deriving DecidableEq

structure LoopLimits where
  maxElapsedMs : Int := 5000
  maxPlannerLatencyMs : Int := 1000
  maxPlannerTurns : Nat := 6
  maxActions : Nat := 4
  maxReplans : Nat := 4
  maxTotalMotionMs : Nat := 1600
  actionTtlMs : Int := 500
  maxObservationAgeMs : Int := 500
  terminalStopReserveMs : Int := 100
  elapsedOk : Between maxElapsedMs 1 300000 := by decide
  latencyOk : Between maxPlannerLatencyMs 1 maxElapsedMs := by decide
  turnsOk : 1 ≤ maxPlannerTurns ∧ maxPlannerTurns ≤ 100 := by decide
  actionsOk : 1 ≤ maxActions ∧ maxActions ≤ 100 := by decide
  replansOk : maxReplans ≤ 100 := by decide
  motionOk : 1 ≤ maxTotalMotionMs ∧ maxTotalMotionMs ≤ 300000 := by decide
  ttlOk : Between actionTtlMs 1 1000 := by decide
  ageOk : Between maxObservationAgeMs 1 60000 := by decide
  reserveOk : Between terminalStopReserveMs 1 (maxElapsedMs - 1) := by decide

structure Counters where
  plannerTurns : Nat := 0
  actions : Nat := 0
  replans : Nat := 0
  totalMotionMs : Nat := 0
deriving DecidableEq

structure EpisodeStep where
  proposalId : Option String
  outcomeCode : String
  actionId : Option String
  stateBefore : Int
  stateAfter : Int
  errorBefore : Int
  errorAfter : Int

structure EpisodeResult where
  goalId : String
  completed : Bool
  termination : Termination
  counters : Counters
  finalObservation : Option ObservationEnvelope
  trace : List String
  steps : List EpisodeStep

-- The agent

/-- A motion as it is executed: whose idea it was and what it rests on. -/
structure Motion where
  proposal : DecisionProposal
  observation : ObservationEnvelope
  startedAtMs : Int
  request : MotionRequest

inductive Event where
  /-- `_now_ms` returned. -/
  | clock (now : Int)
  | capabilities (c : ControllerCapabilities)
  | observed (o : ObservationEnvelope)
  /-- The planner is called. -/
  | planned
  | replanned
  /-- `execute_motion` is called. -/
  | executed (m : Motion)
  /-- `stop_all` is called. -/
  | stopAsked (request : StopRequest)
  | stopAnswered (receipt : ActionReceipt)

structure AgentState (σ : Type) where
  world : σ
  /-- `controller_ref`. -/
  controller : Option ControllerCapabilities := none
  counters : Counters := {}
  trace : List String := ["CREATED"]
  steps : List EpisodeStep := []
  seenProposals : List String := []
  log : List Event := []

inductive Exit where
  | finish (termination : Termination) (observation : Option ObservationEnvelope)
  | raised (e : Raised)

abbrev Call (σ α : Type) := Prog (AgentState σ) Raised α
abbrev Body (σ α : Type) := Prog (AgentState σ) Exit α

structure ClosedLoopAgent (σ : Type) where
  robot : RobotAPI σ
  planner : PlanningContext → Prog σ Raised RawProposal
  clockMs : Prog σ Raised Int
  idFactory : Prog σ Raised String
  sourceId : String
  limits : LoopLimits := {}
  sourceIdOk : identifierOk sourceId

def onWorld (x : Prog σ Raised α) : Call σ α :=
  Prog.onPart AgentState.world (fun world s => { s with world := world }) x

def note (e : Event) : Call σ Unit := modify fun s => { s with log := e :: s.log }

def say (texts : List String) : Call σ Unit := modify fun s => { s with trace := s.trace ++ texts }

/-- `try: ... except caught: return self._finish(...)`. -/
def orFinish (caught : Raised → Bool) (termination : Termination) (observation : Option ObservationEnvelope)
    (x : Call σ α) : Body σ α :=
  Prog.mapError (fun e => if caught e then .finish termination observation else .raised e) x

/-- A call outside of every `try`. -/
def plain (x : Call σ α) : Body σ α := Prog.mapError .raised x

def isStopped (state : RobotState) : Bool := state.activeFaults = [] && state.motors.all fun m => !m.2.running

def safeObservation (o : ObservationEnvelope) : Bool :=
  isStopped o.state &&
    match o.state.sensors.lookup "touch" with
    | some (.bool touch) => !touch
    | some (.int touch) => touch = 0
    | _ => false

def sameController (c : ControllerCapabilities) (o : ObservationEnvelope) : Bool := o.identity = c.identity

def verifyReceipt (request : MotionRequest) (receipt : ActionReceipt) (before after : ObservationEnvelope) :
    Except Raised Unit :=
  if receipt.actionId ≠ request.context.actionId ∨ receipt.segmentId ≠ request.context.segmentId ∨
      receipt.controllerId ≠ request.context.identity.controllerId ∨
      receipt.controllerInstanceId ≠ request.context.identity.controllerInstanceId ∨ receipt.status ≠ .completed ∨
      receipt.basedOnStateVersion ≠ before.stateVersion ∨ receipt.resultingStateVersion ≠ after.stateVersion ∨
      after.stateVersion ≤ before.stateVersion ∨ isStopped after.state = false then
    .error (.robotApi "receipt_mismatch")
  else
    match before.state.motors.lookup request.command.motorRole, after.state.motors.lookup request.command.motorRole with
    | some motorBefore, some motorAfter =>
      if receipt.positionBefore ≠ some motorBefore.positionDegrees ∨
          receipt.positionAfter ≠ some motorAfter.positionDegrees then .error (.robotApi "position_mismatch")
      else .ok ()
    -- a `KeyError`
    | _, _ => .error .exception

/-- The checks of `_stop_and_verify` before the one of freshness. -/
def StopMatches (request : StopRequest) (receipt : ActionReceipt) (c : ControllerCapabilities)
    (final : ObservationEnvelope) : Prop :=
  receipt.actionId = request.actionId ∧ receipt.segmentId = request.segmentId ∧
    receipt.controllerId = request.controllerId ∧ receipt.controllerInstanceId = request.controllerInstanceId ∧
    receipt.status = .stopped ∧ receipt.basedOnStateVersion < receipt.resultingStateVersion ∧
    final.stateVersion = receipt.resultingStateVersion ∧ sameController c final = true ∧ isStopped final.state = true

instance : Decidable (StopMatches request receipt c final) :=
  inferInstanceAs (Decidable (_ ∧ _ ∧ _ ∧ _ ∧ _ ∧ _ ∧ _ ∧ _ ∧ _))

def StopFollows (receipt : ActionReceipt) (final : ObservationEnvelope) : Option ObservationEnvelope → Prop
  | none => True
  | some previous => previous.stateVersion ≤ receipt.basedOnStateVersion ∧ previous.receivedAtHostMs ≤ final.receivedAtHostMs

instance : (previous : Option ObservationEnvelope) → Decidable (StopFollows receipt final previous)
  | none => .isTrue trivial
  | some _ => inferInstanceAs (Decidable (_ ∧ _))

namespace ClosedLoopAgent

variable (a : ClosedLoopAgent σ)

-- Calls

def nowMs : Call σ Int := do
  let now ← onWorld a.clockMs
  let now ← Prog.ofExcept (integer now 0 counterMax)
  note (.clock now)
  return now

def capabilities : Call σ ControllerCapabilities := do
  let c ← onWorld a.robot.capabilities
  note (.capabilities c)
  return c

def observe : Call σ ObservationEnvelope := do
  let o ← onWorld a.robot.observe
  note (.observed o)
  return o

def stopAll (request : StopRequest) : Call σ ActionReceipt := do
  note (.stopAsked request)
  let receipt ← onWorld (a.robot.stopAll request)
  note (.stopAnswered receipt)
  return receipt

def executeMotion (m : Motion) : Call σ ActionReceipt := do
  note (.executed m)
  onWorld (a.robot.executeMotion m.request)

/-- `_deadline_now`: the time and whether the deadline is exhausted. -/
def deadlineNow (startedAtMs requiredMotionMs : Int) : Call σ (Int × Bool) := do
  let now ← a.nowMs
  return (now, decide (now < startedAtMs ∨
    a.limits.maxElapsedMs ≤ now - startedAtMs + requiredMotionMs + a.limits.terminalStopReserveMs))

def freshObservation (o : ObservationEnvelope) : Call σ Bool := do
  let now ← a.nowMs
  return decide (o.receivedAtHostMs ≤ now ∧ now - o.receivedAtHostMs ≤ a.limits.maxObservationAgeMs)

-- Stopping

def stopRequest (episodeId : String) (c : ControllerCapabilities) : Except Raised StopRequest := do
  let request : StopRequest := ⟨c.identity.robotId, c.identity.controllerId, c.identity.controllerInstanceId,
    episodeId ++ "-stop", episodeId ++ "-stop", a.sourceId⟩
  request.check
  .ok request

/-- One round of `_stop_and_verify`. -/
def stopOnce (request : StopRequest) (c : ControllerCapabilities) (previous : Option ObservationEnvelope) :
    Call σ ObservationEnvelope := do
  let receipt ← a.stopAll request
  let final ← a.observe
  Prog.failIf (¬ StopMatches request receipt c final) (.robotApi "stop_not_verified")
  let fresh ← a.freshObservation final
  Prog.failIf (¬ (fresh ∧ StopFollows receipt final previous)) (.robotApi "stop_not_verified")
  return final

/-- What is left of the rounds of `_stop_and_verify`. -/
def stopRounds (request : StopRequest) (c : ControllerCapabilities) (previous : Option ObservationEnvelope) :
    Nat → Call σ ObservationEnvelope
  | 0 => throw (.robotApi "stop_not_verified")
  | rounds + 1 => do
    match ← Prog.attempt (a.stopOnce request c previous) with
    | .ok final => return final
    | .error .interrupt => throw .interrupt
    | .error _ => stopRounds request c previous rounds

def stopAndVerify (episodeId : String) (c : ControllerCapabilities) (previous : Option ObservationEnvelope) :
    Call σ ObservationEnvelope := do
  let request ← Prog.ofExcept (a.stopRequest episodeId c)
  a.stopRounds request c previous 2

/-- The capabilities at hand, or those the robot reports. -/
def knownCapabilities : Option ControllerCapabilities → Call σ ControllerCapabilities
  | some c => return c
  | none => a.capabilities

/-- The last resort of `_best_effort_terminal_stop`. -/
def stopBlindly (request : StopRequest) : Nat → Call σ Unit
  | 0 => return ()
  | rounds + 1 => do
    match ← Prog.attempt (a.stopAll request) with
    | .ok _ => return ()
    | .error .interrupt => throw .interrupt
    | .error _ => stopBlindly request rounds

def bestEffortTerminalStop (episodeId : String) (c : Option ControllerCapabilities) : Call σ Unit := do
  match ← Prog.attempt (a.knownCapabilities c) with
  -- no request can be built without them
  | .error _ => return ()
  | .ok c =>
    match ← Prog.attempt (a.stopAndVerify episodeId c none) with
    | .ok _ => return ()
    | .error _ =>
      match a.stopRequest episodeId c with
      | .error _ => return ()
      | .ok request => a.stopBlindly request 2

/-- The `try` of `_finish`. -/
def finishStop (episodeId : String) (observation : Option ObservationEnvelope) : Call σ ObservationEnvelope := do
  let c ← a.knownCapabilities (← get).controller
  a.stopAndVerify episodeId c observation

/-- What a verified stop makes of the termination. -/
def stoppedTermination (termination : Termination) (final : ObservationEnvelope) : Termination :=
  if termination = .goalSatisfied ∧ safeObservation final = false then .stopFailed else termination

/-- Whether the episode completed, and its termination. -/
def completion (goal : MotorPositionGoal) (termination : Termination) :
    Option ObservationEnvelope → Bool × Termination
  | none => (false, termination)
  | some final =>
    if termination = .goalSatisfied then
      match goal.satisfied final with
      | .ok satisfied => (satisfied, termination)
      | .error _ => (false, .stopFailed)
    else (false, termination)

def lastWord (completed : Bool) (termination : Termination) : String :=
  if completed then "SUCCEEDED" else if termination = .plannerAborted then "ABORTED" else "FAILED"

/-- The result `_finish` builds. -/
def report (goal : MotorPositionGoal) (termination : Termination) (final : Option ObservationEnvelope) :
    Call σ EpisodeResult := do
  let (completed, termination) := completion goal termination final
  say [lastWord completed termination]
  let s ← get
  return {
    goalId := goal.goalId
    completed := completed
    termination := termination
    counters := s.counters
    finalObservation := final
    trace := s.trace
    steps := s.steps }

def finish (goal : MotorPositionGoal) (episodeId : String) (termination : Termination)
    (observation : Option ObservationEnvelope) : Call σ EpisodeResult := do
  say ["STOPPING"]
  match ← Prog.attempt (a.finishStop episodeId observation) with
  | .ok final => report goal (stoppedTermination termination final) (some final)
  | .error .interrupt => throw .interrupt
  | .error _ => report goal .stopFailed observation

-- The episode

/-- The first `try` of `_run_episode`, up to the observation. -/
def begin (goal : MotorPositionGoal) : Call σ ControllerCapabilities := do
  let c ← a.capabilities
  modify fun s => { s with controller := some c }
  let _ ← Prog.ofExcept (c.motor goal.motorRole)
  say ["OBSERVING"]
  return c

def checkFirst (goal : MotorPositionGoal) (c : ControllerCapabilities) (o : ObservationEnvelope) : Call σ Unit := do
  Prog.failIf (sameController c o = false) (.robotApi "identity_mismatch")
  let _ ← Prog.ofExcept (goal.position o)

def enter (goal : MotorPositionGoal) (c : ControllerCapabilities) (startedAtMs : Int) (o : ObservationEnvelope) :
    Body σ Unit := do
  Prog.failIf (sameController c o = false ∨ safeObservation o = false) (.finish .unsafeObservation (some o))
  let deadline ← plain (a.deadlineNow startedAtMs 0)
  let counters := (← get).counters
  Prog.failIf (deadline.2 = true ∨ a.limits.maxPlannerTurns ≤ counters.plannerTurns ∨
    a.limits.maxActions ≤ counters.actions) (.finish .budgetExhausted (some o))
  let satisfied ← plain (Prog.ofExcept (goal.satisfied o))
  Prog.failIf (satisfied = true) (.finish .goalSatisfied (some o))

/-- The planner's call; whatever it raises, the turn counts. -/
def callPlanner (context : PlanningContext) : Call σ (Except Raised RawProposal) := do
  note .planned
  Prog.attempt (onWorld (a.planner context))

def countTurn : Call σ Unit :=
  modify fun s => { s with counters := { s.counters with plannerTurns := s.counters.plannerTurns + 1 } }

/-- Planning, from the context to the raw proposal. -/
def plan (goal : MotorPositionGoal) (startedAtMs : Int) (o : ObservationEnvelope) (feedback : Option PlannerFeedback) :
    Body σ RawProposal := do
  plain (say ["PLANNING"])
  let counters := (← get).counters
  let started ← plain a.nowMs
  match ← plain (a.callPlanner {
      goal := goal
      observation := o
      previousFeedback := feedback
      plannerTurn := counters.plannerTurns + 1
      remainingActions := a.limits.maxActions - counters.actions
      remainingMotionMs := a.limits.maxTotalMotionMs - counters.totalMotionMs }) with
  | .error _ =>
    plain countTurn
    throw (.finish .plannerFailed (some o))
  | .ok raw =>
    let completed ← plain a.nowMs
    plain countTurn
    Prog.failIf (completed < started ∨ a.limits.maxPlannerLatencyMs ≤ completed - started)
      (.finish .plannerFailed (some o))
    let deadline ← plain (a.deadlineNow startedAtMs 0)
    Prog.failIf (deadline.2 = true) (.finish .budgetExhausted (some o))
    return raw

def rejectAndReobserve (goal : MotorPositionGoal) (code : String) (proposalId : Option String) (o : ObservationEnvelope) :
    Body σ (ObservationEnvelope × Option PlannerFeedback) := do
  let error ← plain (Prog.ofExcept (goal.error o))
  modify fun s => { s with steps := s.steps ++ [⟨proposalId, code, none, o.stateVersion, o.stateVersion, error, error⟩] }
  Prog.failIf (a.limits.maxReplans ≤ (← get).counters.replans) (.finish .budgetExhausted (some o))
  modify fun s => { s with
    counters := { s.counters with replans := s.counters.replans + 1 }
    log := .replanned :: s.log }
  plain (say ["REPLANNING", "OBSERVING"])
  let next ← orFinish Raised.apiError .executionFailed (some o) a.observe
  return (next, some ⟨code, o.stateVersion, none⟩)

/-- The checks of a decoded proposal. Its id counts as seen from the first on. -/
def considerProposal (goal : MotorPositionGoal) (o : ObservationEnvelope) (p : DecisionProposal) : Call σ Unit := do
  Prog.failIf (p.proposalId ∈ (← get).seenProposals) (.proposal "duplicate_proposal")
  modify fun s => { s with seenProposals := p.proposalId :: s.seenProposals }
  Prog.failIf (p.goalId ≠ goal.goalId) (.proposal "wrong_goal")
  Prog.failIf (p.basedOnStateVersion ≠ o.stateVersion) (.proposal "stale_state")

/-- What the motion has to respect besides the state it starts in. -/
def checkIntent (goal : MotorPositionGoal) (c : ControllerCapabilities) (intent : MotionIntent)
    (current : ObservationEnvelope) : Call σ Unit := do
  Prog.failIf (intent.motorRole ≠ goal.motorRole) (.proposal "wrong_motor")
  let position ← Prog.ofExcept (goal.position current)
  Prog.failIf ((goal.targetDegrees - position) * intent.speedDps ≤ 0) (.proposal "wrong_direction")
  let motor ← Prog.ofExcept (c.motor intent.motorRole)
  Prog.failIf (motor.gate.executable = false) (.proposal "capability_unavailable")
  Prog.failIf (motor.maxAbsSpeedDps < intent.speedDps.natAbs) (.proposal "speed_limit")
  Prog.failIf (motor.maxDurationMs < intent.durationMs) (.proposal "duration_limit")
  Prog.failIf (a.limits.maxTotalMotionMs < (← get).counters.totalMotionMs + intent.durationMs) (.proposal "motion_budget")

/-- The `try` behind `AUTHORIZING`. -/
def authorize (goal : MotorPositionGoal) (c : ControllerCapabilities) (startedAtMs : Int) (o : ObservationEnvelope)
    (intent : MotionIntent) : Body σ ObservationEnvelope := do
  let current ← plain a.observe
  Prog.failIf (sameController c current = false ∨ current.stateVersion ≠ o.stateVersion) (.raised (.proposal "stale_state"))
  let deadline ← plain (a.deadlineNow startedAtMs 0)
  Prog.failIf (deadline.2 = true) (.finish .budgetExhausted (some current))
  plain (a.checkIntent goal c intent current)
  return current

def motionRequest (episodeId : String) (c : ControllerCapabilities) (startedAtMs issuedAtMs : Int)
    (o : ObservationEnvelope) (intent : MotionIntent) (number : Nat) : MotionRequest :=
  let deadline := startedAtMs + a.limits.maxElapsedMs - a.limits.terminalStopReserveMs
  let segmentId := episodeId ++ "-segment-" ++ toString number
  { context := {
      identity := c.identity
      actionId := episodeId ++ "-action-" ++ toString number
      segmentId := segmentId
      sourceId := a.sourceId
      basedOnStateVersion := o.stateVersion
      basedOnReceivedAtHostMs := o.receivedAtHostMs
      issuedAtHostMs := issuedAtMs
      validUntilHostMs := min (issuedAtMs + a.limits.actionTtlMs) deadline }
    command := ⟨segmentId, intent.motorRole, intent.speedDps, intent.durationMs, issuedAtMs⟩ }

/-- The motion and what it leaves: the observation after it, with the errors
before and after. -/
def execute (goal : MotorPositionGoal) (episodeId : String) (c : ControllerCapabilities) (startedAtMs : Int)
    (o : ObservationEnvelope) (p : DecisionProposal) (intent : MotionIntent) :
    Body σ (ObservationEnvelope × String × Int × Int) := do
  let number := (← get).counters.actions + 1
  let deadline ← plain (a.deadlineNow startedAtMs intent.durationMs)
  Prog.failIf (deadline.2 = true) (.finish .budgetExhausted (some o))
  let request := a.motionRequest episodeId c startedAtMs deadline.1 o intent number
  plain (Prog.ofExcept request.context.check)
  let errorBefore ← plain (Prog.ofExcept (goal.error o))
  modify fun s => { s with counters := { s.counters with
    actions := s.counters.actions + 1
    totalMotionMs := s.counters.totalMotionMs + intent.durationMs } }
  plain (say ["EXECUTING"])
  let receipt ← orFinish Raised.apiError .executionFailed (some o) (a.executeMotion ⟨p, o, startedAtMs, request⟩)
  plain (say ["OBSERVING", "VERIFYING"])
  let post ← orFinish Raised.loopError .verificationFailed (some o) a.observe
  orFinish Raised.loopError .verificationFailed (some post) (Prog.failIf
    (sameController c post = false ∨ safeObservation post = false) (.robotApi "unsafe_post_action_observation"))
  orFinish Raised.loopError .verificationFailed (some post) (Prog.ofExcept (verifyReceipt request receipt o post))
  let errorAfter ← orFinish Raised.loopError .verificationFailed (some post) (Prog.ofExcept (goal.error post))
  return (post, request.context.actionId, errorBefore, errorAfter)

def evaluate (goal : MotorPositionGoal) (startedAtMs : Int) (o : ObservationEnvelope) (p : DecisionProposal)
    (post : ObservationEnvelope) (actionId : String) (errorBefore errorAfter : Int)
    (feedback : Option PlannerFeedback) : Body σ (ObservationEnvelope × Option PlannerFeedback) := do
  modify fun s => { s with steps := s.steps ++
    [⟨some p.proposalId, "action_completed", some actionId, o.stateVersion, post.stateVersion, errorBefore, errorAfter⟩] }
  let deadline ← plain (a.deadlineNow startedAtMs 0)
  Prog.failIf (deadline.2 = true) (.finish .budgetExhausted (some post))
  let satisfied ← plain (Prog.ofExcept (goal.satisfied post))
  Prog.failIf (satisfied = false ∧ errorBefore ≤ errorAfter) (.finish .verificationFailed (some post))
  if satisfied then return (post, feedback)
  else
    Prog.failIf (a.limits.maxReplans ≤ (← get).counters.replans) (.finish .budgetExhausted (some post))
    modify fun s => { s with
      counters := { s.counters with replans := s.counters.replans + 1 }
      log := .replanned :: s.log }
    plain (say ["REPLANNING", "OBSERVING"])
    let next ← orFinish Raised.apiError .executionFailed (some post) a.observe
    return (next, some ⟨"verified_progress", post.stateVersion, some actionId⟩)

def act (goal : MotorPositionGoal) (episodeId : String) (c : ControllerCapabilities) (startedAtMs : Int)
    (o : ObservationEnvelope) (feedback : Option PlannerFeedback) (p : DecisionProposal) (intent : MotionIntent) :
    Body σ (ObservationEnvelope × Option PlannerFeedback) := do
  plain (say ["AUTHORIZING"])
  match ← Prog.attempt (a.authorize goal c startedAtMs o intent) with
  | .error (.finish termination observation) => throw (.finish termination observation)
  | .error (.raised e) =>
    if e.loopError then a.rejectAndReobserve goal e.code (some p.proposalId) o else throw (.raised e)
  | .ok current =>
    let (post, actionId, errorBefore, errorAfter) ← a.execute goal episodeId c startedAtMs current p intent
    a.evaluate goal startedAtMs current p post actionId errorBefore errorAfter feedback

def turn (goal : MotorPositionGoal) (episodeId : String) (c : ControllerCapabilities) (startedAtMs : Int)
    (o : ObservationEnvelope) (feedback : Option PlannerFeedback) :
    Body σ (ObservationEnvelope × Option PlannerFeedback) := do
  let raw ← a.plan goal startedAtMs o feedback
  match decodeDecisionProposal raw with
  | .error e => a.rejectAndReobserve goal e.code none o
  | .ok p =>
    match ← Prog.attempt (considerProposal goal o p) with
    | .error e => a.rejectAndReobserve goal e.code (some p.proposalId) o
    | .ok () =>
      match p.decision with
      | .abort _ => throw (.finish .plannerAborted (some o))
      | .act intent => a.act goal episodeId c startedAtMs o feedback p intent

/-- The loop, for the planner turns that are left. -/
def loop (goal : MotorPositionGoal) (episodeId : String) (c : ControllerCapabilities) (startedAtMs : Int) :
    Nat → ObservationEnvelope → Option PlannerFeedback → Body σ Unit
  | 0, o, _ => do
    a.enter goal c startedAtMs o
    throw (.finish .budgetExhausted (some o))
  | left + 1, o, feedback => do
    a.enter goal c startedAtMs o
    let next ← a.turn goal episodeId c startedAtMs o feedback
    loop goal episodeId c startedAtMs left next.1 next.2

/-- The body of `_run_episode`. -/
def body (goal : MotorPositionGoal) (episodeId : String) : Body σ Unit := do
  let startedAtMs ← plain a.nowMs
  let c ← orFinish Raised.loopError .invalidGoal none (a.begin goal)
  let o ← orFinish Raised.loopError .invalidGoal none a.observe
  orFinish Raised.loopError .invalidGoal (some o) (checkFirst goal c o)
  a.loop goal episodeId c startedAtMs a.limits.maxPlannerTurns o none

def runEpisode (goal : MotorPositionGoal) (episodeId : String) : Call σ EpisodeResult := do
  match ← Prog.attempt (a.body goal episodeId) with
  | .error (.finish termination observation) => a.finish goal episodeId termination observation
  | .error (.raised e) => throw e
  -- the loop has no other end
  | .ok () => throw .exception

/-- The `try` of `run`, once there is an episode id. -/
def guardedEpisode (goal : MotorPositionGoal) (episodeId : String) : Call σ EpisodeResult := do
  match ← Prog.attempt (a.runEpisode goal episodeId) with
  | .ok result => return result
  | .error e =>
    a.bestEffortTerminalStop episodeId (← get).controller
    throw e

def run (goal : MotorPositionGoal) (w : σ) : Except Raised EpisodeResult × AgentState σ :=
  match a.idFactory w with
  | (.error e, w) => (.error e, { world := w })
  | (.ok episodeId, w) =>
    if identifierOk episodeId 48 then a.guardedEpisode goal episodeId { world := w }
    else (.error (.proposal "invalid_identifier"), { world := w })

end ClosedLoopAgent

end RobotLlm.AgentLoop
