import RobotLlm.Control.History
import RobotLlm.Lib.Dict
import RobotLlm.Lib.Prog
import RobotLlm.Navigation.Contract

/-!
# The robot control service

One service owns one physical episode at a time. Every change of its state is
recorded as an event and a snapshot under its lock; the signals to the runtime
adapter are given outside the lock and counted while they are in flight.
-/

namespace RobotLlm.Control

open RobotLlm.Lib

-- The state of a service

inductive ControlState where
  | disabled
  | idle
  | starting
  | running
  | stopping
  | faulted
deriving DecidableEq

def ControlState.text : ControlState → String
  | .disabled => "DISABLED"
  | .idle => "IDLE"
  | .starting => "STARTING"
  | .running => "RUNNING"
  | .stopping => "STOPPING"
  | .faulted => "FAULTED"

/-- `state in ACTIVE_STATES`. -/
def ControlState.isActive : ControlState → Bool
  | .starting | .running | .stopping => true
  | .disabled | .idle | .faulted => false

/-- The settings that the control of an episode reads. -/
structure RobotControlSettings where
  revision : Int
  speechEnabled : Bool
deriving DecidableEq

structure RobotEpisodeStart where
  goal : String
  locale : String
  clientRequestId : String
  expectedRevision : Int
deriving DecidableEq

structure RobotRuntimeUpdate where
  currentAction : Option String := none
  activeRoute : Json := .null
  obstacle : Json := .null
  plan : List String := []
  scan : Json := .null
  modelLatencyMs : Option Int := none
  plannerContextBytes : Option Int := none
  promptTokens : Option Int := none
  completionTokens : Option Int := none
  totalTokens : Option Int := none
  speechStatus : String := "idle"
  speechErrorCode : Option String := none
  message : Option String := none

def maxRequestHistory : Nat := 1024

/-- `_request_history` and `_request_order`, which name the same requests in the
same order. -/
structure RequestHistory where
  requests : Dict String (RobotEpisodeStart × String)
  order : List String
  ordered : order = requests.keys

/-- `RobotEpisodeGate`, which may be shared; an owner is the number of its service. -/
structure RobotEpisodeGate where
  owner : Option Nat
deriving DecidableEq

inductive Signal where
  | requestStop
  | emergencyStop
deriving DecidableEq

structure RobotControlService where
  settings : RobotControlSettings
  state : ControlState
  accepting : Bool := true
  episodeId : Option String := none
  request : Option RobotEpisodeStart := none
  startedAtUnixMs : Option Int := none
  terminalReason : Option String := none
  lastErrorCode : Option String := none
  lastPrimaryErrorCode : Option String := none
  lastPrimaryErrorMessage : Option String := none
  runtime : RobotRuntimeUpdate := {}
  /-- The two events of the episode, and whether they are set. -/
  stopRequested : Option Bool := none
  emergencyStopRequested : Option Bool := none
  /-- The thread of the episode, by its name. -/
  thread : Option String := none
  controlSignalsInflight : Int := 0
  events : History := {}
  snapshots : History := {}
  requestHistory : RequestHistory
  gate : Option RobotEpisodeGate := none
  /-- The calls of the clock, the id factory and the adapter so far. -/
  clockCalls : Nat := 0
  idCalls : Nat := 0
  adapterCalls : Nat := 0
  signals : List Signal := []

abbrev Ctl := Prog RobotControlService ControlError

/-- What a service was given, and how each call of it goes. -/
structure ControlHost where
  serviceId : Nat
  /-- A runtime adapter is configured. -/
  adapter : Bool
  eventLimits : HistoryLimits
  snapshotLimits : HistoryLimits
  clockMs : Nat → Except ControlError Int
  idFactory : Nat → Except ControlError String
  /-- `RobotControlSnapshot(..).to_dict()` of this state at this time. -/
  snapshotDict : RobotControlService → Int → Except ControlError Json
  requestStop : Nat → Except ControlError Unit
  emergencyStop : Nat → Except ControlError Unit
  /-- `thread.start()`. -/
  startThread : RobotControlService → Except ControlError Unit

-- Clock and identifiers

def clockFailed : ControlError := .service 500 "robot_clock_failed" "Robot control clock failed"

def idFactoryFailed : ControlError :=
  .service 500 "robot_id_factory_failed" "Robot control could not create an identifier"

/-- `_now`, at this call. -/
def ControlHost.now (host : ControlHost) (call : Nat) : Except ControlError Int :=
  match host.clockMs call with
  | .error e => .error e
  | .ok value => if 0 ≤ value ∧ value ≤ 2 ^ 63 - 1 then .ok value else .error clockFailed

def isIdCharacter (c : Char) : Bool := c.isAlphanum || c = '-' || c = '_'

/-- `_validated_id`, at this call. -/
def ControlHost.validatedId (host : ControlHost) (kind : String) (call : Nat) : Except ControlError String :=
  match host.idFactory call with
  | .error _ => .error idFactoryFailed
  | .ok suffix =>
    let value := kind ++ "-" ++ suffix
    if suffix = "" ∨ value.length > 128 ∨ value.toList.all isIdCharacter = false then .error idFactoryFailed
    else .ok value

namespace RobotControlService

def tick (s : RobotControlService) : RobotControlService := { s with clockCalls := s.clockCalls + 1 }

def takeId (s : RobotControlService) : RobotControlService := { s with idCalls := s.idCalls + 1 }

def withEvents (s : RobotControlService) (events : History) : RobotControlService := { s with events := events }

def withSnapshots (s : RobotControlService) (snapshots : History) : RobotControlService := { s with snapshots := snapshots }

@[simp] theorem tick_idCalls (s : RobotControlService) : s.tick.idCalls = s.idCalls := rfl
@[simp] theorem tick_clockCalls (s : RobotControlService) : s.tick.clockCalls = s.clockCalls + 1 := rfl
@[simp] theorem tick_events (s : RobotControlService) : s.tick.events = s.events := rfl
@[simp] theorem tick_snapshots (s : RobotControlService) : s.tick.snapshots = s.snapshots := rfl
@[simp] theorem takeId_idCalls (s : RobotControlService) : s.takeId.idCalls = s.idCalls + 1 := rfl
@[simp] theorem takeId_clockCalls (s : RobotControlService) : s.takeId.clockCalls = s.clockCalls := rfl
@[simp] theorem takeId_events (s : RobotControlService) : s.takeId.events = s.events := rfl
@[simp] theorem withEvents_idCalls (s : RobotControlService) (h : History) : (s.withEvents h).idCalls = s.idCalls := rfl
@[simp] theorem withEvents_clockCalls (s : RobotControlService) (h : History) : (s.withEvents h).clockCalls = s.clockCalls := rfl
@[simp] theorem withEvents_events (s : RobotControlService) (h : History) : (s.withEvents h).events = h := rfl
@[simp] theorem withSnapshots_clockCalls (s : RobotControlService) (h : History) :
    (s.withSnapshots h).clockCalls = s.clockCalls := rfl
@[simp] theorem withSnapshots_snapshots (s : RobotControlService) (h : History) : (s.withSnapshots h).snapshots = h := rfl

end RobotControlService

def now (host : ControlHost) : Ctl Int := fun s => (host.now s.clockCalls, s.tick)

def validatedId (host : ControlHost) (kind : String) : Ctl String := fun s => (host.validatedId kind s.idCalls, s.takeId)

@[simp] theorem now_run (host : ControlHost) (s : RobotControlService) : now host s = (host.now s.clockCalls, s.tick) := rfl

@[simp] theorem validatedId_run (host : ControlHost) (kind : String) (s : RobotControlService) :
    validatedId host kind s = (host.validatedId kind s.idCalls, s.takeId) := rfl

-- Recording

structure EventText where
  eventType : String
  message : String
  data : List (String × Json) := []
  level : String := "info"

def eventItem (s : RobotControlService) (text : EventText) (eventId : String) (occurredAtUnixMs : Int) : Item where
  sequence := s.events.sequence
  value := .obj [("schema", .str "robot-control-event/v1"),
    ("sequence", .int s.events.sequence),
    ("event_id", .str eventId),
    ("occurred_at_unix_ms", .int occurredAtUnixMs),
    ("level", .str text.level),
    ("event_type", .str text.eventType),
    ("message", .str text.message),
    ("episode_id", Json.ofOpt .str s.episodeId),
    ("state", .str s.state.text),
    ("data", .obj text.data)]

def onEvents (f : History → Except ControlError Unit × History) : Ctl Unit :=
  Prog.onPart RobotControlService.events (fun h s => s.withEvents h) f

def onSnapshots (f : History → Except ControlError Unit × History) : Ctl Unit :=
  Prog.onPart RobotControlService.snapshots (fun h s => s.withSnapshots h) f

@[simp] theorem onEvents_run (f : History → Except ControlError Unit × History) (s : RobotControlService) :
    onEvents f s = ((f s.events).1, s.withEvents (f s.events).2) := rfl

@[simp] theorem onSnapshots_run (f : History → Except ControlError Unit × History) (s : RobotControlService) :
    onSnapshots f s = ((f s.snapshots).1, s.withSnapshots (f s.snapshots).2) := rfl

/-- `_append_event_locked`. -/
def appendEvent (host : ControlHost) (text : EventText) : Ctl Unit := do
  onEvents fun h => (.ok (), h.nextSequence)
  let eventId ← validatedId host "robot-event"
  let occurredAt ← now host
  let s ← get
  onEvents (History.append host.eventLimits (eventItem s text eventId occurredAt))

/-- `_record_snapshot_locked`, as the dictionary of the snapshot. -/
def recordSnapshot (host : ControlHost) : Ctl Json := do
  onSnapshots fun h => (.ok (), h.nextSequence)
  let updatedAt ← now host
  let s ← get
  let snapshot ← Prog.ofExcept (host.snapshotDict s updatedAt)
  onSnapshots (History.append host.snapshotLimits ⟨s.snapshots.sequence, snapshot⟩)
  return snapshot

/-- `_current_snapshot_locked`. -/
def currentSnapshot (host : ControlHost) : Ctl Json := do
  let s ← get
  match s.snapshots.items.getLast? with
  | none => recordSnapshot host
  | some item => return item.value

def record (host : ControlHost) (text : EventText) : Ctl Json := do
  appendEvent host text
  recordSnapshot host

/-- `_transition_locked`. -/
def transition (host : ControlHost) (state : ControlState) (text : EventText) : Ctl Json := do
  modify fun s => { s with state := state }
  record host text

-- The end of an episode

def releaseGate (host : ControlHost) : Ctl Unit := modify fun s =>
  { s with gate := s.gate.map fun gate => if gate.owner = some host.serviceId then ⟨none⟩ else gate }

/-- The gate is taken, if there is one; `false` if it has an owner. -/
def acquireGate (host : ControlHost) : Ctl Bool := fun s =>
  match s.gate with
  | none => (.ok true, s)
  | some gate =>
    if gate.owner.isSome then (.ok false, s)
    else (.ok true, { s with gate := some ⟨some host.serviceId⟩ })

def Quiescent (s : RobotControlService) : Prop := s.thread = none ∧ s.controlSignalsInflight = 0

instance : Decidable (Quiescent s) := inferInstanceAs (Decidable (_ ∧ _))

def finishedText (reason : Option String) : EventText where
  eventType := "robot.episode_finished"
  message := "Robot episode finished"
  data := [("terminal_reason", Json.ofOpt .str reason)]

/-- `_finish_stopping_if_quiescent_locked`. -/
def finishStoppingIfQuiescent (host : ControlHost) : Ctl Unit := do
  let s ← get
  if s.state = .stopping ∧ Quiescent s then
    let reason := some (s.terminalReason.getD "stopped")
    modify fun s => { s with terminalReason := reason }
    let _ ← transition host .idle (finishedText reason)
  let s ← get
  if Quiescent s ∧ s.state.isActive = false then releaseGate host

-- Requests that are remembered

namespace RequestHistory

def get? (h : RequestHistory) (clientRequestId : String) : Option (RobotEpisodeStart × String) :=
  h.requests.get? clientRequestId

def dropFirst (h : RequestHistory) : RequestHistory where
  requests := match h.order.head? with
    | some oldest => h.requests.erase oldest
    | none => h.requests
  order := h.order.tail
  ordered := by
    cases horder : h.order with
    | nil => rw [List.tail_nil, List.head?_nil, ← h.ordered, horder]
    | cons oldest rest =>
      have hkeys := h.ordered
      rw [horder] at hkeys
      have hnodup := h.requests.keys_nodup
      rw [← hkeys] at hnodup
      rw [List.tail_cons, List.head?_cons, Dict.keys_erase, ← hkeys, List.filter_cons_of_neg (by simp)]
      refine (List.filter_eq_self.mpr fun k hk => ?_).symm
      have hne : k ≠ oldest := fun heq => (List.nodup_cons.mp hnodup).1 (heq ▸ hk)
      simpa using hne

def push (h : RequestHistory) (clientRequestId : String) (entry : RobotEpisodeStart × String)
    (hnew : clientRequestId ∉ h.requests.keys) : RequestHistory where
  requests := h.requests.set clientRequestId entry
  order := h.order ++ [clientRequestId]
  ordered := by rw [Dict.keys_set_of_not_mem hnew, h.ordered]

theorem dropFirst_keys_subset (h : RequestHistory) {k : String} (hk : k ∈ h.dropFirst.requests.keys) :
    k ∈ h.requests.keys := by
  rw [← h.dropFirst.ordered] at hk
  rw [← h.ordered]
  exact List.mem_of_mem_tail hk

/-- `_remember_request_locked`. -/
def remember (h : RequestHistory) (request : RobotEpisodeStart) (episodeId : String) : RequestHistory :=
  if hold : request.clientRequestId ∈ h.requests.keys then h
  else if h.order.length = maxRequestHistory then
    h.dropFirst.push request.clientRequestId (request, episodeId) fun hk => hold (h.dropFirst_keys_subset hk)
  else h.push request.clientRequestId (request, episodeId) hold

/-- The request is taken out again, if it is this one. -/
def forget (h : RequestHistory) (request : RobotEpisodeStart) (episodeId : String) : RequestHistory :=
  if h.get? request.clientRequestId = some (request, episodeId) then
    { requests := h.requests.erase request.clientRequestId
      order := h.order.filter fun id => id ≠ request.clientRequestId
      ordered := by rw [Dict.keys_erase, h.ordered] }
  else h

end RequestHistory

-- Start

/-- What the constructor of a start request refuses; `none` if it takes it. -/
def RobotEpisodeStart.problem (r : RobotEpisodeStart) : Option ControlError :=
  let goal := r.goal.toList
  let id := r.clientRequestId.toList
  if Navigation.strip goal = [] ∨ Navigation.strip goal ≠ goal ∨ goal.length > 2000 ∨
      goal.any (fun c => c.toNat < 32 && c ≠ '\n' && c ≠ '\r' && c ≠ '\t') = true then
    some (.service 400 "invalid_robot_text" "goal is invalid")
  else if r.locale ∉ ["sv", "en"] then
    some (.service 400 "invalid_robot_locale" "Robot response locale is unsupported")
  else if id = [] ∨ Navigation.strip id ≠ id ∨ id.length > 128 ∨ id.any (fun c => c.toNat < 33 || c.toNat > 126) = true then
    some (.service 400 "invalid_robot_identifier" "client_request_id is invalid")
  else if ¬ (1 ≤ r.expectedRevision ∧ r.expectedRevision ≤ 2 ^ 63 - 1) then
    some (.service 400 "invalid_robot_integer" "expected_revision is invalid")
  else none

structure StartReply where
  acceptedEpisodeId : String
  idempotent : Bool
  control : Json

def startingText (request : RobotEpisodeStart) (revision : Int) : EventText where
  eventType := "robot.episode_starting"
  message := "Robot episode is starting"
  data := [("client_request_id", .str request.clientRequestId), ("settings_revision", .int revision),
    ("locale", .str request.locale)]

def beginEpisode (request : RobotEpisodeStart) (episodeId : String) (startedAtUnixMs : Int) (s : RobotControlService) :
    RobotControlService :=
  { s with
    episodeId := some episodeId
    request := some request
    startedAtUnixMs := some startedAtUnixMs
    terminalReason := none
    lastErrorCode := none
    lastPrimaryErrorCode := none
    lastPrimaryErrorMessage := none
    runtime := { speechStatus := if s.settings.speechEnabled then "idle" else "disabled" }
    stopRequested := some false
    emergencyStopRequested := some false
    requestHistory := s.requestHistory.remember request episodeId }

def launch (host : ControlHost) (request : RobotEpisodeStart) (episodeId : String) (startedAtUnixMs : Int) : Ctl Json := do
  modify (beginEpisode request episodeId startedAtUnixMs)
  let s ← get
  let snapshot ← transition host .starting (startingText request s.settings.revision)
  modify fun s => { s with thread := some ("robot-control-" ++ episodeId) }
  let s ← get
  Prog.ofExcept (host.startThread s)
  return snapshot

def restore (previous s : RobotControlService) : RobotControlService :=
  { s with
    episodeId := previous.episodeId
    request := previous.request
    startedAtUnixMs := previous.startedAtUnixMs
    terminalReason := previous.terminalReason
    lastErrorCode := previous.lastErrorCode
    lastPrimaryErrorCode := previous.lastPrimaryErrorCode
    lastPrimaryErrorMessage := previous.lastPrimaryErrorMessage
    runtime := previous.runtime
    stopRequested := previous.stopRequested
    emergencyStopRequested := previous.emergencyStopRequested
    thread := previous.thread
    state := previous.state }

/-- What is done when the launch failed, before its error is raised again. -/
def rollBack (host : ControlHost) (request : RobotEpisodeStart) (episodeId : String) (previous : RobotControlService) :
    Ctl Unit := do
  modify fun s => { restore previous s with requestHistory := s.requestHistory.forget request episodeId }
  releaseGate host
  let _ ← (Prog.attempt (recordSnapshot host) : Ctl (Except ControlError Json))

/-- The start of a request that is not remembered. -/
def startNew (host : ControlHost) (request : RobotEpisodeStart) : Ctl StartReply := do
  let s ← get
  Prog.failIf (s.accepting = false) (.service 503 "robot_service_stopping" "Robot control service is stopping")
  Prog.failIf (host.adapter = false ∨ s.state = .disabled)
    (.service 503 "robot_control_disabled" "No physical robot runtime is configured")
  Prog.failIf (s.state ≠ .idle ∨ s.controlSignalsInflight ≠ 0)
    (.service 409 "robot_episode_active" "A robot episode is already active")
  Prog.failIf (request.expectedRevision ≠ s.settings.revision)
    (.service 409 "robot_settings_revision_conflict" "Robot settings revision does not match")
  let episodeId ← validatedId host "episode"
  let startedAt ← now host
  let previous ← get
  let acquired ← acquireGate host
  Prog.failIf (acquired = false) (.service 409 "robot_episode_gate_busy" "Another robot episode is already active")
  let snapshot ← tryCatch (launch host request episodeId startedAt) fun e => do
    rollBack host request episodeId previous
    throw e
  return ⟨episodeId, false, snapshot⟩

def start (host : ControlHost) (request : RobotEpisodeStart) : Ctl StartReply := do
  match request.problem with
  | some e => throw e
  | none =>
    let s ← get
    match s.requestHistory.get? request.clientRequestId with
    | none => startNew host request
    | some (previous, episodeId) =>
      Prog.failIf (previous ≠ request)
        (.service 409 "robot_idempotency_conflict" "Robot request ID was reused with other content")
      return ⟨episodeId, true, ← currentSnapshot host⟩

-- Stop

/-- A call of the adapter, outside the lock; what it raises is an answer. -/
def callAdapter (signal : Signal) (answer : Nat → Except ControlError Unit) : Ctl (Except ControlError Unit) := fun s =>
  (.ok (answer s.adapterCalls), { s with adapterCalls := s.adapterCalls + 1, signals := s.signals ++ [signal] })

def errorType : ControlError → String
  | .service _ _ _ => "RobotControlServiceError"
  | .raised type => type

/-- `finally`: what `x` raised is raised again, unless `y` raises. -/
def andFinally (x : Ctl α) (y : Ctl Unit) : Ctl α := do
  let result ← (Prog.attempt x : Ctl (Except ControlError α))
  y
  Prog.ofExcept result

def signalDone : Ctl Unit := modify fun s => { s with controlSignalsInflight := s.controlSignalsInflight - 1 }

/-- The stop signal, once it is recorded that it was asked for. -/
def sendStop (host : ControlHost) (snapshot : Json) : Ctl Json := do
  andFinally (do
      if host.adapter then
        match ← callAdapter .requestStop host.requestStop with
        | .ok _ => return ()
        | .error e =>
          let _ ← record host {
            eventType := "robot.stop_signal_failed"
            message := "Robot runtime stop signal failed"
            data := [("error_type", .str (errorType e))]
            level := "warning" })
    (do
      signalDone
      finishStoppingIfQuiescent host)
  return snapshot

/-- `_stop_requested.set()`, and one more signal in flight. -/
def raiseStop (s : RobotControlService) : RobotControlService :=
  { s with
    stopRequested := s.stopRequested.map fun _ => true
    controlSignalsInflight := s.controlSignalsInflight + 1 }

def stopText : EventText where
  eventType := "robot.stop_requested"
  message := "Robot episode stop requested"

/-- A stop of an episode that is starting or running. -/
def stopEpisode (host : ControlHost) : Ctl Json := do
  modify raiseStop
  let _ ← transition host .stopping stopText
  let snapshot ← currentSnapshot host
  sendStop host snapshot

def stopFaulted (host : ControlHost) : Ctl Json := do
  modify raiseStop
  let _ ← record host {
    eventType := "robot.stop_requested_while_faulted"
    message := "Robot stop requested while fault remains latched"
    level := "warning" }
  let snapshot ← currentSnapshot host
  sendStop host snapshot

def acknowledgeFault (host : ControlHost) : Ctl Json := do
  modify fun s => { s with
    lastErrorCode := none
    lastPrimaryErrorCode := none
    lastPrimaryErrorMessage := none
    terminalReason := some "fault_acknowledged" }
  transition host .idle { eventType := "robot.fault_acknowledged", message := "Robot fault acknowledged" }

def stop (host : ControlHost) : Ctl Json := do
  let s ← get
  match s.state with
  | .disabled | .idle | .stopping => currentSnapshot host
  | .faulted => if Quiescent s then acknowledgeFault host else stopFaulted host
  | .starting | .running => stopEpisode host

-- Emergency stop

def emergencyText : EventText where
  eventType := "robot.emergency_stop_requested"
  message := "Robot emergency stop requested"
  level := "warning"

/-- Both events are set, and one more signal is in flight. An episode that is
starting or running stops. -/
def raiseEmergency (s : RobotControlService) : RobotControlService :=
  { s with
    emergencyStopRequested := s.emergencyStopRequested.map fun _ => true
    stopRequested := s.stopRequested.map fun _ => true
    controlSignalsInflight := s.controlSignalsInflight + 1
    state := match s.state with
      | .starting | .running => .stopping
      | state => state }

def emergencyFailedText (e : ControlError) : EventText where
  eventType := "robot.emergency_stop_failed"
  message := "Robot emergency stop failed"
  data := [("error_type", .str (errorType e))]
  level := "error"

/-- The fields of a fault that an emergency stop left. -/
def latchFault (s : RobotControlService) : RobotControlService :=
  { s with
    lastErrorCode := some "robot_emergency_stop_failed"
    lastPrimaryErrorCode := none
    lastPrimaryErrorMessage := none
    terminalReason := some "faulted" }

def emergencyFailed (host : ControlHost) (e : ControlError) : Ctl Json := do
  modify latchFault
  let _ ← transition host .faulted (emergencyFailedText e)
  signalDone
  finishStoppingIfQuiescent host
  throw (.service 503 "robot_emergency_stop_failed" "Robot emergency stop failed")

def emergencySent (host : ControlHost) : Ctl Json := do
  signalDone
  let _ ← record host {
    eventType := "robot.emergency_stop_sent"
    message := "Robot emergency stop signal sent"
    level := "warning" }
  finishStoppingIfQuiescent host
  currentSnapshot host

def emergencyStop (host : ControlHost) : Ctl Json := do
  let s ← get
  Prog.failIf (host.adapter = false ∨ s.state = .disabled)
    (.service 503 "robot_control_disabled" "No physical robot runtime is configured")
  modify raiseEmergency
  let _ ← record host emergencyText
  match ← callAdapter .emergencyStop host.emergencyStop with
  | .ok _ => emergencySent host
  | .error e => emergencyFailed host e

end RobotLlm.Control
