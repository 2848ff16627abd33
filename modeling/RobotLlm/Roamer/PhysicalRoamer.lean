import RobotLlm.Lib.Check
import RobotLlm.Lib.Json
import RobotLlm.Lib.Machine
import RobotLlm.Lib.Prog
import RobotLlm.Navigation.Contract

/-!
# The physical roamer

One bounded episode over a sequential supervisor session: observe, choose one
of three fixed pulses, keep the heartbeat up, and always end with a shutdown.
The session, the clock and the cancel event are programs over a world; each may
raise. The log of a run is not in the code.
-/

namespace RobotLlm.Roamer

open RobotLlm.Lib
open RobotLlm.Navigation (strip)

-- Constants

def runtimeProfile : String := "ir-roamer-v1"
def pulseAccountingMs : Nat := 150
def maxPulses : Nat := 20
def maxCommandedMotionMs : Nat := 3000
def maxInfraredAgeMs : Int := 300
def requestTtlMs : Nat := 500
def cleanupTtlMs : Nat := 1000
def maxObservations : Nat := 1000
def maxProcessRequests : Int := 256
def maxControlRequests : Nat := 240

inductive RoamerAction where
  | advance
  | turnLeft
  | turnRight
deriving DecidableEq

def RoamerAction.text : RoamerAction → String
  | .advance => "ADVANCE"
  | .turnLeft => "TURN_LEFT"
  | .turnRight => "TURN_RIGHT"

def RoamerAction.IsTurn (a : RoamerAction) : Prop := a ≠ .advance

instance (a : RoamerAction) : Decidable a.IsTurn := inferInstanceAs (Decidable (_ ≠ _))

inductive RoamerTermination where
  | pulseBudget
  | motionBudget
  | timeBudget
  | cancelled
  | remoteFailure
  | safetyFault
  | staleObservation
  | heartbeatMissed
  | observationBudget
  | requestBudget
  | cleanupFailed
deriving DecidableEq

/-- What leaves the `try` of `run`: a `_Terminate`, or any other exception. -/
inductive Halt where
  | terminate (termination : RoamerTermination)
  | failed
deriving DecidableEq

def blockedInfraredReasons : List String :=
  ["warming_up", "immediate_strong_return", "stable_filtered_near_returns", "stable_exit_pending",
    "blocked_hysteresis_hold"]

def clearInfraredReasons : List String :=
  ["stable_filtered_release_returns", "stable_entry_pending", "clear_hysteresis_hold"]

def wheelSpeeds (left right : Int) : Json := .obj [("left_speed_dps", .int left), ("right_speed_dps", .int right)]

def expectedSemanticCapability : Json :=
  .obj [
    ("enabled", .bool true),
    ("actions", .arr [.str "ADVANCE", .str "TURN_LEFT", .str "TURN_RIGHT"]),
    ("mapping", .obj [("ADVANCE", wheelSpeeds 100 100), ("TURN_LEFT", wheelSpeeds (-100) 100),
      ("TURN_RIGHT", wheelSpeeds 100 (-100))]),
    ("duration_ms", .int pulseAccountingMs),
    ("max_commands_per_process", .int maxPulses),
    ("max_total_duration_ms", .int maxCommandedMotionMs)]

-- Requests

inductive RoamerRequest where
  | describe
  | claim (ownerId : String)
  | heartbeat (sessionId : String) (sequenceId : Nat)
  | status
  | arm (sessionId : String) (sequenceId : Nat)
  | drivePulse (sessionId : String) (sequenceId : Nat) (commandId : String) (referenceHeartbeatSequence : Nat)
      (action : RoamerAction)
  | shutdown
deriving DecidableEq

namespace RoamerRequest

def operation : RoamerRequest → String
  | describe => "describe"
  | claim _ => "claim"
  | heartbeat _ _ => "heartbeat"
  | status => "status"
  | arm _ _ => "arm"
  | drivePulse .. => "drive_pulse"
  | shutdown => "shutdown"

def arguments : RoamerRequest → Option Json
  | claim ownerId => some (.obj [("owner_id", .str ownerId)])
  | heartbeat sessionId sequenceId | arm sessionId sequenceId =>
    some (.obj [("session_id", .str sessionId), ("sequence_id", .int sequenceId)])
  | drivePulse sessionId sequenceId commandId reference action =>
    some (.obj [("session_id", .str sessionId), ("sequence_id", .int sequenceId), ("command_id", .str commandId),
      ("reference_heartbeat_sequence", .int reference), ("action", .str action.text)])
  | describe | status | shutdown => none

def sequenceId? : RoamerRequest → Option Nat
  | heartbeat _ sequenceId | arm _ sequenceId | drivePulse _ sequenceId _ _ _ => some sequenceId
  | describe | claim _ | status | shutdown => none

end RoamerRequest

-- Checks of answers

inductive Obstacle where
  | blocked
  | clear
deriving DecidableEq

/-- The states `_validate_status` accepts. -/
inductive RoamerMode where
  | disarmed
  | armedIdle
  | running
deriving DecidableEq

abbrev Fields := List (String × Json)

def remoteFailure : Halt := .terminate .remoteFailure

section
variable (F : Type) [PyFloat F]

def validateDescription (description : Fields) : Except Halt Unit :=
  match description.lookup "capabilities" with
  | some (.obj capabilities) =>
    match capabilities.lookup "differential_drive_timed", capabilities.lookup "semantic_drive_pulse" with
    | some (.obj differential), some semantic =>
      if Json.IsStr runtimeProfile (description.lookup "runtime_profile") ∧
          Json.IsTrue (description.lookup "motion_enabled") ∧
          Json.toInt? (description.lookup "remaining_motion_budget") = some maxPulses ∧
          Json.toInt? (description.lookup "remaining_motion_duration_ms") = some maxCommandedMotionMs ∧
          Json.toInt? (description.lookup "max_session_ms") = some 20000 ∧
          Json.toInt? (description.lookup "poll_interval_ms") = some 150 ∧
          Json.toInt? (description.lookup "max_poll_lateness_ms") = some 400 ∧
          Json.toInt? (description.lookup "max_process_requests") = some maxProcessRequests ∧
          Json.IsFalse (differential.lookup "enabled") ∧
          Json.equals F expectedSemanticCapability semantic = true then .ok ()
      else .error remoteFailure
    | _, _ => .error remoteFailure
  | _ => .error remoteFailure

/-- The session id of a `claim`. -/
def validateClaim (claimed : Fields) : Except Halt String :=
  match claimed.lookup "session_id" with
  | some (.str sessionId) =>
    if Json.IsStr "claimed" (claimed.lookup "status") ∧ Json.IsStr "DISARMED" (claimed.lookup "state") ∧
        sessionId ≠ "" ∧ strip sessionId.toList = sessionId.toList ∧ sessionId.length ≤ 128 ∧
        ∀ c ∈ sessionId.toList, c ≠ '\x00' ∧ c ≠ '\r' ∧ c ≠ '\n' then .ok sessionId
    else .error remoteFailure
  | _ => .error remoteFailure

/-- What `_heartbeat` asks of the acknowledgement. -/
def validateAcknowledgement (response : Fields) (sequenceId : Nat) : Except Halt Unit :=
  if Json.IsStr "accepted" (response.lookup "status") ∧
      Json.IsNumber F sequenceId (response.lookup "sequence_id") = true ∧
      Json.toInt? (response.lookup "heartbeat_timeout_ms") = some 500 then .ok ()
  else .error remoteFailure

end

/-- `type(value) is int and low <= value <= high`. -/
def IntWithin (low high : Int) (value : Option Json) : Prop := ∃ n ∈ Json.toInt? value, low ≤ n ∧ n ≤ high

instance : Decidable (IntWithin low high value) := by unfold IntWithin; infer_instance

def IntFrom (low : Int) (value : Option Json) : Prop := ∃ n ∈ Json.toInt? value, low ≤ n

instance : Decidable (IntFrom low value) := by unfold IntFrom; infer_instance

def infraredObservation (status : Fields) : Except Halt (Obstacle × String) :=
  match status.lookup "infrared" with
  | some (.obj infrared) =>
    match infrared.lookup "blocked", infrared.lookup "reason" with
    | some (.bool blocked), some (.str reason) =>
      if Json.IsTrue (infrared.lookup "fresh") ∧ ¬ Json.IsTrue (infrared.lookup "stale") ∧
          IntFrom 0 (infrared.lookup "observed_monotonic_ms") ∧
          IntWithin 0 maxInfraredAgeMs (infrared.lookup "age_ms") ∧
          reason ∈ (if blocked then blockedInfraredReasons else clearInfraredReasons) ∧
          IntWithin 0 100 (infrared.lookup "raw") ∧ IntWithin 0 100 (infrared.lookup "filtered") ∧
          IntFrom 1 (infrared.lookup "sample_count") then
        .ok (if blocked then .blocked else .clear, reason)
      else .error (.terminate .staleObservation)
    | _, _ => .error (.terminate .staleObservation)
  | _ => .error (.terminate .staleObservation)

def IsNull : Option Json → Prop
  | none | some .null => True
  | _ => False

instance : (value : Option Json) → Decidable (IsNull value)
  | none | some .null => .isTrue trivial
  | some (.bool _) | some (.int _) | some (.float _) | some (.str _) | some (.arr _) | some (.obj _) => .isFalse id

/-- `state in allowed_states`; a list or a mapping has no hash. -/
def modeOf (allowRunning : Bool) : Option Json → Except Halt (Option RoamerMode)
  | some (.str "ARMED_IDLE") => .ok (if allowRunning then some .armedIdle else none)
  | some (.str "RUNNING") => .ok (if allowRunning then some .running else none)
  | some (.str "DISARMED") => .ok (if allowRunning then none else some .disarmed)
  | some (.arr _) | some (.obj _) => .error .failed
  | _ => .ok none

/-- `value is expected` for a flag. -/
def IsFlag (expected : Bool) (value : Option Json) : Prop :=
  if expected then Json.IsTrue value else Json.IsFalse value

instance : Decidable (IsFlag expected value) := by unfold IsFlag; infer_instance

/-- Only a running supervisor has an active command. -/
def ActiveCommandOk (mode : RoamerMode) (active : Option Json) : Prop :=
  if mode = .running then ∃ id ∈ Json.toStr? active, id ≠ "" else IsNull active

instance : Decidable (ActiveCommandOk mode active) := by unfold ActiveCommandOk; infer_instance

/-- `_validate_status`, once the state is known to be allowed. -/
def validateMode (status : Fields) (mode : RoamerMode) : Except Halt (RoamerMode × Obstacle × String) :=
  if Json.IsTrue (status.lookup "session_active") ∧ Json.toInt? (status.lookup "touch") = some 0 ∧
      IsFlag (mode = .armedIdle) (status.lookup "motion_allowed") ∧
      ActiveCommandOk mode (status.lookup "active_command_id") then
    if IntWithin 0 450 (status.lookup "heartbeat_age_ms") then do
      let (obstacle, reason) ← infraredObservation status
      return (mode, obstacle, reason)
    else .error (.terminate .heartbeatMissed)
  else .error (.terminate .safetyFault)

def validateStatus (status : Fields) (allowRunning : Bool) : Except Halt (RoamerMode × Obstacle × String) :=
  if IsNull (status.lookup "fault") ∧ Json.IsStr "ok" (status.lookup "status") then do
    match ← modeOf allowRunning (status.lookup "state") with
    | some mode => validateMode status mode
    | none => .error (.terminate .safetyFault)
  else .error (.terminate .safetyFault)

/-- `_cleanup_result_is_safe` of a shutdown. -/
def cleanupResultIsSafe (F : Type) [PyFloat F] : Json → Bool
  | .obj result =>
    Json.IsFalse (result.lookup "motion_allowed") && Json.IsFalse (result.lookup "session_active") &&
      IsNull (result.lookup "active_command_id") &&
      (match result.lookup "state" with
        | some (.str "DISARMED") => Json.IsStr "ok" (result.lookup "status") && IsNull (result.lookup "fault")
        | some (.str "CLOSED") => Json.IsStr "closed" (result.lookup "status")
        | some (.str "FAULT_LATCHED") =>
          Json.IsStr "fault" (result.lookup "status") && (match result.lookup "fault" with
            | some (.obj fault) => Json.IsTrue (fault.lookup "stop_confirmed") &&
                !Json.truthy F (fault.lookup "stop_errors") && !Json.truthy F (fault.lookup "fault_tokens")
            | _ => false)
        | _ => false)
  | _ => false

-- The roamer

inductive ClockValue (F : Type) where
  | float (value : F)
  | int (value : Int)
  | other

/-- `float(value)`, for a value that is a finite number and not negative. -/
def ClockValue.seconds [PyFloat F] : ClockValue F → Except Halt F
  | .float value =>
    if PyFloat.isFinite value = true ∧ PyMath.lt value (PyMath.ofInt 0) = false then .ok value else .error .failed
  | .int value =>
    match PyFloat.ofInt? value with
    | some current => if PyFloat.isFinite current = true ∧ 0 ≤ value then .ok current else .error .failed
    | none => .error .failed
  | .other => .error .failed

inductive RoamerEvent (F : Type) where
  | sent (request : RoamerRequest)
  | answered (value : Json)
  /-- A request raised, or its answer was rejected. -/
  | refused
  | cancelSeen
  /-- A heartbeat was acknowledged, and when. -/
  | acknowledged (sequenceId : Nat) (seconds : F)
  /-- A status was validated. -/
  | observed (mode : RoamerMode) (obstacle : Obstacle)
  | exited (returnCode : Option Int)

structure CleanupOutcome where
  operation : String
  attempted : Bool
  succeeded : Bool
  mandatory : Bool
deriving DecidableEq

/-- The variables of `run`. -/
structure RoamerEpisode where
  pulses : Nat := 0
  commandedMotionMs : Nat := 0
  observations : Nat := 0
  actions : List RoamerAction := []
  nextBlockedTurn : RoamerAction := .turnLeft
  blockedEpisodeTurn : Option RoamerAction := none
deriving DecidableEq

structure PhysicalRoamerResult where
  termination : RoamerTermination
  pulses : Nat
  commandedMotionMs : Nat
  observations : Nat
  heartbeats : Nat
  actions : List RoamerAction
  cleanup : List CleanupOutcome
deriving DecidableEq

/-- The outcome of the one mandatory operation of this name that was attempted
and succeeded. -/
def PhysicalRoamerResult.proved (r : PhysicalRoamerResult) (operation : String) : Bool :=
  match r.cleanup.filter (·.operation = operation) with
  | [outcome] => outcome.attempted && outcome.succeeded && outcome.mandatory
  | _ => false

def PhysicalRoamerResult.stoppedCleanly (r : PhysicalRoamerResult) : Bool :=
  r.proved "shutdown" && r.proved "wait_closed"

/-- The roamer's state; the log of the run, the newest event first, is not in
the code. -/
structure RoamerState (F σ : Type) where
  world : σ
  lastNow : Option F := none
  lastHeartbeatAt : Option F := none
  heartbeatSequence : Option Nat := none
  sequence : Nat := 0
  heartbeats : Nat := 0
  controlRequestCount : Nat := 0
  episode : RoamerEpisode := {}
  log : List (RoamerEvent F) := []

structure PhysicalRoamer (F σ : Type) where
  /-- `session.request`: operation, arguments, time to live. -/
  request : String → Option Json → Nat → Prog σ Unit Json
  monotonic : Prog σ Unit (ClockValue F)
  /-- `sleep(POLL_INTERVAL_SECONDS)`. -/
  sleepInterval : Prog σ Unit Unit
  cancelEvent : Option (Prog σ Unit Bool) := none
  /-- What the session has besides requests; another value than an integer is
  no return code. -/
  waitClosed : Option (Prog σ Unit (Option Int)) := none
  close : Option (Prog σ Unit Unit) := none
  /-- `int(seconds * 1_000)`; `none` where it raises. -/
  millis : F → Option Int
  ownerId : String

namespace PhysicalRoamer

variable {F σ : Type} [PyFloat F] (e : PhysicalRoamer F σ)

abbrev Act (F σ : Type) := Prog (RoamerState F σ) Halt

/-- A call of the environment; whatever it raises ends the run as a failure. -/
def ask (x : Prog σ Unit α) : Act F σ α :=
  Prog.onPart RoamerState.world (fun world s => { s with world := world }) (Prog.mapError (fun _ => .failed) x)

def record (event : RoamerEvent F) : Act F σ Unit := modify fun s => { s with log := event :: s.log }

def refuse (halt : Halt) : Act F σ α := do
  record .refused
  throw halt

def accept : Except Halt α → Act F σ α
  | .ok a => pure a
  | .error halt => refuse halt

def now : Act F σ F := do
  let value ← ask e.monotonic
  let current ← Prog.ofExcept value.seconds
  let last := (← get).lastNow
  Prog.failIf (∃ earlier ∈ last, PyMath.lt current earlier = true) .failed
  modify fun s => { s with lastNow := some current }
  return current

def cancelled : Act F σ Bool :=
  match e.cancelEvent with
  | none => pure false
  | some isSet => ask isSet

def checkCancelled : Act F σ Unit := do
  if (← e.cancelled) then
    record .cancelSeen
    throw (.terminate .cancelled)
  else pure ()

/-- `session.request`, which answers with a mapping. -/
def exchange (request : RoamerRequest) : Act F σ Fields := do
  match ← Prog.attempt (ask (e.request request.operation request.arguments requestTtlMs)) with
  | .error (_ : Halt) => refuse remoteFailure
  | .ok value =>
    record (.answered value)
    match value with
    | .obj fields => return fields
    | _ => refuse remoteFailure

/-- `_request`. -/
def send (request : RoamerRequest) : Act F σ Fields := do
  e.checkCancelled
  let count := (← get).controlRequestCount
  Prog.failIf (count ≥ maxControlRequests) (.terminate .requestBudget)
  modify fun s => { s with controlRequestCount := count + 1 }
  record (.sent request)
  let fields ← e.exchange request
  e.checkCancelled
  return fields

def nextSequence : Act F σ Nat := do
  let sequence := (← get).sequence + 1
  modify fun s => { s with sequence := sequence }
  return sequence

-- Heartbeats and statuses

/-- More than `MAX_HEARTBEAT_GAP_SECONDS` after a heartbeat. -/
def TooFar (earlier seconds : F) : Prop := PyMath.lt (PyFloat.ofText "0.450") (PyMath.sub seconds earlier) = true

instance (earlier seconds : F) : Decidable (TooFar earlier seconds) := inferInstanceAs (Decidable (_ = true))

def checkGap (seconds : F) : Act F σ Unit := do
  let last := (← get).lastHeartbeatAt
  Prog.failIf (∃ earlier ∈ last, TooFar earlier seconds) (.terminate .heartbeatMissed)

def heartbeat (sessionId : String) : Act F σ Unit := do
  let before ← e.now
  checkGap before
  let sequence ← nextSequence
  let response ← e.send (.heartbeat sessionId sequence)
  accept (validateAcknowledgement F response sequence)
  let after ← e.now
  record (.acknowledged sequence after)
  checkGap after
  modify fun s => { s with
    lastHeartbeatAt := some after, heartbeatSequence := some sequence, heartbeats := s.heartbeats + 1 }

def verifyHeartbeatGap : Act F σ Unit := do
  if (← get).lastHeartbeatAt.isSome then
    let now ← e.now
    checkGap now
  else pure ()

def observeStatus (status : Fields) (allowRunning : Bool) : Act F σ (RoamerMode × Obstacle × String) := do
  let observation ← accept (validateStatus status allowRunning)
  record (.observed observation.1 observation.2.1)
  return observation

def sleepPoll : Act F σ Unit := do
  ask e.sleepInterval
  e.verifyHeartbeatGap

def observeArmed (sessionId : String) : Act F σ (RoamerMode × Obstacle × String) := do
  e.heartbeat sessionId
  let status ← e.send .status
  e.verifyHeartbeatGap
  observeStatus status true

-- The episode

/-- From the first request to an armed supervisor. -/
def arm : Act F σ (String × F) := do
  let description ← e.send .describe
  accept (validateDescription F description)
  let claimed ← e.send (.claim e.ownerId)
  let sessionId ← accept (validateClaim claimed)
  e.heartbeat sessionId
  let initial ← e.send .status
  e.verifyHeartbeatGap
  let _ ← observeStatus initial false
  e.heartbeat sessionId
  let sequence ← nextSequence
  let armed ← e.send (.arm sessionId sequence)
  let observation ← observeStatus armed true
  accept (if observation.1 = .armedIdle then .ok () else .error (.terminate .safetyFault))
  let startedAt ← e.now
  return (sessionId, startedAt)

/-- Whether one more pulse does not fit into the episode's time. -/
def late (startedAt : F) : Act F σ Bool := do
  let now ← e.now
  let accounting := PyMath.div (PyMath.ofInt pulseAccountingMs) (PyFloat.ofText "1000.0")
  return PyMath.lt (PyFloat.ofText "12.0") (PyFloat.add (PyMath.sub now startedAt) accounting)

/-- The budgets at the head of the loop, apart from the observations. -/
def spent (startedAt : F) : Act F σ (Option RoamerTermination) := do
  e.checkCancelled
  if (← e.late startedAt) then return some .timeBudget
  else
    let episode := (← get).episode
    if episode.pulses ≥ maxPulses then return some .pulseBudget
    else if episode.commandedMotionMs + pulseAccountingMs > maxCommandedMotionMs then return some .motionBudget
    else return none

/-- Which way to turn at an obstacle: one way as long as it stays, the other
way at the next one. -/
def remember (obstacle : Obstacle) (episode : RoamerEpisode) : RoamerEpisode :=
  match obstacle, episode.blockedEpisodeTurn with
  | .clear, _ => { episode with blockedEpisodeTurn := none }
  | .blocked, some _ => episode
  | .blocked, none =>
    { episode with
      blockedEpisodeTurn := some episode.nextBlockedTurn
      nextBlockedTurn := if episode.nextBlockedTurn = .turnLeft then .turnRight else .turnLeft }

def actionFor (obstacle : Obstacle) (episode : RoamerEpisode) : Option RoamerAction :=
  match obstacle with
  | .clear => some .advance
  | .blocked => episode.blockedEpisodeTurn

/-- `"physical-roamer-{:03d}".format(number)`. -/
def commandIdOf (number : Nat) : String :=
  let digits := toString number
  "physical-roamer-" ++ String.ofList (List.replicate (3 - digits.length) '0') ++ digits

def charge (action : RoamerAction) (episode : RoamerEpisode) : RoamerEpisode :=
  { episode with
    pulses := episode.pulses + 1
    commandedMotionMs := episode.commandedMotionMs + pulseAccountingMs
    actions := episode.actions ++ [action] }

def drive (sessionId : String) (action : RoamerAction) (reference : Nat) : Act F σ Unit := do
  let sequence ← nextSequence
  let commandId := commandIdOf ((← get).episode.pulses + 1)
  modify fun s => { s with episode := charge action s.episode }
  let fields ← e.send (.drivePulse sessionId sequence commandId reference action)
  let observation ← observeStatus fields true
  accept (if observation.1 = .running ∧ Json.IsStr commandId (fields.lookup "active_command_id") then .ok ()
    else .error remoteFailure)
  e.verifyHeartbeatGap
  e.heartbeat sessionId
  e.sleepPoll

/-- What follows an observation in which the supervisor is idle. -/
def act (sessionId : String) (startedAt : F) (obstacle : Obstacle) : Act F σ (Option RoamerTermination) := do
  match actionFor obstacle (← get).episode with
  | none => throw (.terminate .safetyFault)
  | some action =>
    e.checkCancelled
    e.heartbeat sessionId
    if (← e.late startedAt) then return some .timeBudget
    else
      match (← get).heartbeatSequence with
      | none => throw (.terminate .heartbeatMissed)
      | some reference =>
        e.drive sessionId action reference
        return none

def turn (sessionId : String) (startedAt : F) : Act F σ (Option RoamerTermination) := do
  let observation ← e.observeArmed sessionId
  let observedAt ← e.now
  Prog.failIf (e.millis observedAt = none) .failed
  modify fun s => { s with
    episode := remember observation.2.1 { s.episode with observations := s.episode.observations + 1 } }
  if observation.1 = .running then
    e.sleepPoll
    return none
  else e.act sessionId startedAt observation.2.1

def loop (e : PhysicalRoamer F σ) (sessionId : String) (startedAt : F) : Nat → Act F σ RoamerTermination
  | 0 => do return (← e.spent startedAt).getD .observationBudget
  | left + 1 => do
    match ← e.spent startedAt with
    | some termination => return termination
    | none =>
      match ← e.turn sessionId startedAt with
      | some termination => return termination
      | none => e.loop sessionId startedAt left

/-- The `try` of `run`. -/
def episode : Act F σ RoamerTermination := do
  let (sessionId, startedAt) ← e.arm
  e.loop sessionId startedAt maxObservations

-- Cleanup

/-- `_cleanup_request("shutdown")`; whatever the session raises counts as a
failure. -/
def requestShutdown (s : RoamerState F σ) : CleanupOutcome × RoamerState F σ :=
  match e.request RoamerRequest.shutdown.operation RoamerRequest.shutdown.arguments cleanupTtlMs s.world with
  | (.error _, world) => (⟨"shutdown", true, false, true⟩, { s with world := world, log := .sent .shutdown :: s.log })
  | (.ok value, world) => (⟨"shutdown", true, cleanupResultIsSafe F value, true⟩,
      { s with world := world, log := .answered value :: .sent .shutdown :: s.log })

def waitForExit (s : RoamerState F σ) : CleanupOutcome × RoamerState F σ :=
  match e.waitClosed with
  | none => (⟨"wait_closed", false, false, true⟩, s)
  | some wait =>
    match wait s.world with
    | (.error _, world) => (⟨"wait_closed", true, false, true⟩, { s with world := world })
    | (.ok returnCode, world) => (⟨"wait_closed", true, returnCode = some 0, true⟩,
        { s with world := world, log := .exited returnCode :: s.log })

def closeSession (s : RoamerState F σ) : List CleanupOutcome × RoamerState F σ :=
  match e.close with
  | none => ([], s)
  | some close => ([⟨"close", true, (close s.world).1.isOk, false⟩], { s with world := (close s.world).2 })

def cleanup (s : RoamerState F σ) : List CleanupOutcome × RoamerState F σ :=
  let shutdown := e.requestShutdown s
  let exit := e.waitForExit shutdown.2
  let closed := e.closeSession exit.2
  (shutdown.1 :: exit.1 :: closed.1, closed.2)

/-- How the `try` of `run` ended. -/
def terminationOf : Except Halt RoamerTermination → RoamerTermination
  | .ok termination => termination
  | .error (.terminate termination) => termination
  | .error .failed => .remoteFailure

def run (s : RoamerState F σ) : PhysicalRoamerResult × RoamerState F σ :=
  let body := e.episode { s with episode := {}, log := [] }
  let closed := e.cleanup body.2
  let failed := closed.1.any fun outcome => (outcome.mandatory || outcome.attempted) && !outcome.succeeded
  ({ termination := if failed then .cleanupFailed else terminationOf body.1
     pulses := closed.2.episode.pulses
     commandedMotionMs := closed.2.episode.commandedMotionMs
     observations := closed.2.episode.observations
     heartbeats := closed.2.heartbeats
     actions := closed.2.episode.actions
     cleanup := closed.1 }, closed.2)

end PhysicalRoamer

end RobotLlm.Roamer
