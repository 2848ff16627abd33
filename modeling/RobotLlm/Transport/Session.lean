import RobotLlm.Lib.Json
import RobotLlm.Lib.Machine

/-!
# The session with the EV3 supervisor

One child process, one request at a time. Any number of threads call `request`,
`close` and `wait_closed`; a pump thread reads the child's answers. A thread is
a place in the code, and a step is what it does under the state lock, or one
access to something it shares with the others.
-/

namespace RobotLlm.Transport

open RobotLlm.Lib

-- Frames

def maxResponseBytes : Nat := 64 * 1024
def maxRequestBytes : Nat := 512

def responseSchema : String := "ev3-supervisor-response/v1"

/-- What `readline` returned: its bytes as far as anybody looks at them, and
what the strict decoder makes of them (`none` when it raises). -/
structure RawFrame where
  length : Nat
  newlines : Nat
  endsWithNewline : Bool
  value : Option Json

/-- The body of a response that passed every check. -/
inductive ResponseBody where
  | result (fields : List (String × Json))
  | error (code message : String)

def successFields : List String := ["schema", "request_id", "controller_id", "ok", "result"]
def errorFields : List String := ["schema", "request_id", "controller_id", "ok", "error"]

/-- The part of `_decode_response` that depends on the `ok` flag. -/
def decodeBody (fields : List (String × Json)) : Except String ResponseBody :=
  match fields.lookup "ok" with
  | some (.bool true) =>
    match fields.lookup "result" with
    | some (.obj result) =>
      if Json.HasKeys fields successFields then .ok (.result result)
      else .error "Supervisor success response had invalid fields"
    | _ => .error "Supervisor success response had invalid fields"
  | some (.bool false) =>
    match fields.lookup "error" with
    | some (.obj error) =>
      match error.lookup "code", error.lookup "message" with
      | some (.str code), some (.str message) =>
        if Json.HasKeys fields errorFields ∧ Json.HasKeys error ["code", "message"] ∧ code ≠ "" ∧ message ≠ "" then
          .ok (.error code message)
        else .error "Supervisor error response had invalid fields"
      | _, _ => .error "Supervisor error response had invalid fields"
    | _ => .error "Supervisor error response had invalid fields"
  | _ => .error "Supervisor response had invalid ok flag"

def decodeResponse (raw : RawFrame) (expectedRequestId expectedControllerId : String) : Except String ResponseBody :=
  if raw.length > maxResponseBytes then .error "Supervisor response exceeded the byte limit"
  else if ¬ raw.endsWithNewline ∨ raw.newlines ≠ 1 then .error "Supervisor response was not one JSONL frame"
  else
    match raw.value with
    | none => .error "Supervisor returned invalid JSON"
    | some (.obj fields) =>
      match decodeBody fields with
      | .error message => .error message
      | .ok body =>
        if ¬ Json.IsStr responseSchema (fields.lookup "schema") then .error "Supervisor response schema was invalid"
        else if ¬ Json.IsStr expectedRequestId (fields.lookup "request_id") then
          .error "Supervisor response request_id did not match"
        else if ¬ Json.IsStr expectedControllerId (fields.lookup "controller_id") then
          .error "Supervisor response controller_id did not match"
        else .ok body
    | some _ => .error "Supervisor response was not an object"

-- The state the threads share

inductive Lifecycle where
  | opened
  | closing
  | poisoned
  | closed
deriving DecidableEq

structure PoisonInfo where
  message : String
  requestId : Option String
  outcomeUnknown : Bool
deriving DecidableEq

inductive QueueItem where
  | line (raw : RawFrame)
  | eof
  | invalid

def maxResponses : Nat := 8

/-- What the pump puts into the queue once a failure is recorded. -/
inductive PumpNext where
  | line (raw : RawFrame)
  | mark (item : QueueItem)
  | stop

/-- Where the pump stands: before the access named. -/
inductive PumpPc where
  | check
  | readline
  | onLine (raw : RawFrame)
  | failing (message : String) (next : PumpNext)
  | setFailed (closeInput : Bool) (next : PumpNext)
  | closeInput (next : PumpNext)
  | put (next : PumpNext)
  | ended

/-- What `_request_locked` is called for. -/
inductive Task where
  | request (operation : String)
  | stop
  | shutdown

inductive Outcome where
  | result (requestId : String) (raw : RawFrame) (fields : List (String × Json))
  | raised

inductive Place where
  | idle
  /-- In `request`: its check before the request lock, and the one behind it. -/
  | firstCheck (operation : String) (valid : Bool)
  | lock (operation : String)
  | secondCheck (operation : String)
  /-- In `_request_locked`. -/
  | check (task : Task)
  | number (task : Task)
  | beginCheck (task : Task) (requestId : String)
  | begin (task : Task) (requestId : String)
  | refused (task : Task)
  /-- In `_exchange_locked`. -/
  | write (task : Task) (requestId : String)
  | await (task : Task) (requestId : String)
  | settle (task : Task) (requestId : String) (raw : RawFrame) (body : ResponseBody)
  | endInflight (task : Task) (requestId : String) (outcome : Outcome)
  /-- Out of `_request_locked`. -/
  | finish (task : Task) (outcome : Outcome)
  | unlock (outcome : Outcome)
  | raiseOut
  /-- In `_poison`, which leads on to `next`. -/
  | poison (info : PoisonInfo) (next : Place)
  | setFailed (closeInput : Bool) (next : Place)
  | closeInput (next : Place)
  /-- In `close`. -/
  | closeEnter
  | closeWait
  | closeLock
  | closePoisoned
  | closePoll (poisoned : Bool)
  | closeStdin
  | closeProcess
  | closeStreams
  | closeUnlock
  | closeFinal
  | closeNotify
  /-- In `wait_closed`. -/
  | waitEnter
  | waitLock
  | waitProcess
  | waitUnlock

structure Session where
  lifecycle : Lifecycle := .opened
  poisonInfo : Option PoisonInfo := none
  receiveFailure : Option String := none
  inflightRequestId : Option String := none
  inflightResponseLines : Nat := 0
  requestNumber : Nat := 0
  shutdownSent : Bool := false
  closeStarted : Bool := false
  closedEvent : Bool := false
  failed : Bool := false
  stdinOpen : Bool := true
  responses : List QueueItem := []
  /-- The thread that holds `_request_lock`. -/
  requestLock : Option Nat := none
  pump : PumpPc := .check
  callers : Nat → Place := fun _ => .idle

structure SessionConfig where
  requestPrefix : String
  controllerId : String

inductive SessionEvent where
  | quiet
  /-- The pump read a line. -/
  | received (raw : RawFrame)
  /-- Bytes of a request reached the child. -/
  | written (requestId : String)
  | returned (outcome : Outcome)

namespace Session

def moveTo (s : Session) (caller : Nat) (place : Place) : Session :=
  { s with callers := fun c => if c = caller then place else s.callers c }

-- Under the state lock

/-- `if self._lifecycle_state == "OPEN": self._lifecycle_state = "CLOSING"`. -/
def startClosing (s : Session) : Session :=
  { s with lifecycle := if s.lifecycle = .opened then .closing else s.lifecycle }

/-- `_record_receive_failure_locked`: whether the input is to be closed. -/
def recordReceiveFailure (s : Session) (message : String) : Bool × Session :=
  let closeInput := s.receiveFailure.isNone
  let s := { s with receiveFailure := s.receiveFailure.or (some message) }
  if s.inflightRequestId = none ∧ s.lifecycle = .opened ∧ s.shutdownSent = false ∧ s.poisonInfo = none then
    (closeInput, { s with poisonInfo := some ⟨message, none, false⟩, lifecycle := .poisoned })
  else (closeInput, s)

/-- `_mark_response_line`: the input is to be closed, not to be closed, or
nothing is wrong with the line. -/
def markResponseLine (s : Session) : Option Bool × Session :=
  let unsolicited := s.inflightRequestId = none ∧ (s.lifecycle = .opened ∨ s.lifecycle = .closing) ∧
    s.shutdownSent = false
  let s := if s.inflightRequestId ≠ none then { s with inflightResponseLines := s.inflightResponseLines + 1 } else s
  if unsolicited ∨ s.inflightResponseLines > 1 then
    let r := s.recordReceiveFailure "Supervisor sent an unsolicited or duplicate response frame"
    (some r.1, r.2)
  else (none, s)

/-- The locked part of `_poison`. -/
def recordPoison (s : Session) (info : PoisonInfo) : Bool × Session :=
  if s.poisonInfo = none then
    (true, { s with
      poisonInfo := some info
      lifecycle := if s.lifecycle = .closed then .closed else .poisoned })
  else (false, s)

/-- What `_require_open_channel` does next. -/
inductive Gate where
  | pass
  | raise
  | poison (message : String)

def requireOpenChannel (s : Session) (allowClosing : Bool) : Gate :=
  if s.lifecycle = .closed then .raise
  else if s.poisonInfo ≠ none then .raise
  else
    match s.receiveFailure, s.lifecycle with
    | some message, .opened => .poison message
    | _, .opened => .pass
    | _, .closing => if allowClosing then .pass else .raise
    | _, _ => .raise

/-- A gate, where a caller goes on behind it and where it goes when it raises. -/
def Gate.lead (gate : Gate) (onward raised : Place) : Place :=
  match gate with
  | .pass => onward
  | .raise => raised
  | .poison message => .poison ⟨message, none, false⟩ raised

/-- The locked part of `_begin_inflight`. -/
def MayBegin (s : Session) (allowClosing : Bool) : Prop :=
  s.poisonInfo = none ∧ s.receiveFailure = none ∧
    (s.lifecycle = .opened ∨ allowClosing = true ∧ s.lifecycle = .closing)

instance : Decidable (MayBegin s allowClosing) := inferInstanceAs (Decidable (_ ∧ _ ∧ _))

end Session

-- The pump

/-- What `readline` does; a line of no bytes is the end of the stream. -/
inductive Reading where
  | raised
  | line (raw : RawFrame)

def pumpStep (r : Reading) (s : Session) : SessionEvent × Session :=
  match s.pump with
  | .check => (.quiet, { s with pump := if s.failed then .ended else .readline })
  | .readline =>
    match r with
    | .raised => (.quiet, { s with pump := .failing "Supervisor response reader failed" (.mark .eof) })
    | .line raw =>
      if raw.length = 0 then
        (.quiet, { s with pump := .failing "Supervisor response stream reached EOF" (.mark .eof) })
      else if raw.length > maxResponseBytes ∨ ¬ raw.endsWithNewline then
        (.quiet, { s with pump := .failing "Supervisor response stream produced an invalid frame" (.mark .invalid) })
      else (.received raw, { s with pump := .onLine raw })
  | .onLine raw =>
    let m := s.markResponseLine
    (.quiet, { m.2 with pump := match m.1 with
      | some closeInput => .setFailed closeInput (.line raw)
      | none => .put (.line raw) })
  | .failing message next =>
    let r := s.recordReceiveFailure message
    (.quiet, { r.2 with pump := .setFailed r.1 next })
  | .setFailed closeInput next => (.quiet, { s with failed := true, pump := if closeInput then .closeInput next else .put next })
  | .closeInput next => (.quiet, { s with stdinOpen := false, pump := .put next })
  | .put (.line raw) =>
    if s.responses.length < maxResponses then
      (.quiet, { s with responses := s.responses ++ [.line raw], pump := .check })
    else (.quiet, { s with pump := .failing "Supervisor response queue overflowed" .stop })
  | .put (.mark item) =>
    (.quiet, { s with
      responses := if s.responses.length < maxResponses then s.responses ++ [item] else s.responses
      pump := .ended })
  | .put .stop => (.quiet, { s with pump := .ended })
  | .ended => (.quiet, s)

-- The callers

namespace Task

def operation : Task → String
  | .request operation => operation
  | .stop => "stop"
  | .shutdown => "shutdown"

def allowClosing : Task → Bool
  | .request _ => false
  | .stop | .shutdown => true

/-- Where a caller goes once `_request_locked` returned or raised. -/
def afterwards (outcome : Outcome) : Task → Place
  | .request _ => .unlock outcome
  | .stop => .check .shutdown
  | .shutdown => .closeStdin

end Task

inductive Call where
  /-- `valid` says whether operation, arguments and TTL pass the checks of `request`. -/
  | request (operation : String) (valid : Bool)
  | close
  | waitClosed

/-- How far a write got. Into a closed pipe nothing is written. -/
inductive WriteOutcome where
  | complete
  | partly
  | refused
deriving DecidableEq

/-- What a caller finds out at a step from outside. -/
structure CallerReading where
  call : Call := .close
  /-- The bytes of the request's JSON line; `none` when it is not strict JSON. -/
  wire : Option Nat := some 1
  written : WriteOutcome := .complete
  timesOut : Bool := false
  /-- `poll() is None`; `none` when it raises. -/
  running : Option Bool := some true

/-- The request of that number, as it is called on the wire. -/
def SessionConfig.requestId (cfg : SessionConfig) (number : Nat) : String := cfg.requestPrefix ++ "-" ++ number.repr

def callerStep (cfg : SessionConfig) (caller : Nat) (r : CallerReading) (s : Session) : SessionEvent × Session :=
  match s.callers caller with
  | .idle =>
    (.quiet, s.moveTo caller (match r.call with
      | .request operation valid => .firstCheck operation valid
      | .close => .closeEnter
      | .waitClosed => .waitEnter))
  | .firstCheck operation valid =>
    (.quiet, s.moveTo caller ((s.requireOpenChannel false).lead (if valid then .lock operation else .raiseOut) .raiseOut))
  | .lock operation =>
    if s.requestLock = none then (.quiet, { s with requestLock := some caller }.moveTo caller (.secondCheck operation))
    else (.quiet, s)
  | .secondCheck operation =>
    (.quiet, s.moveTo caller ((s.requireOpenChannel false).lead (.check (.request operation)) (.unlock .raised)))
  | .check task =>
    (.quiet, s.moveTo caller ((s.requireOpenChannel task.allowClosing).lead (.number task) (.finish task .raised)))
  | .number task =>
    let s := { s with requestNumber := s.requestNumber + 1 }
    (.quiet, s.moveTo caller (match r.wire with
      | none => .finish task .raised
      | some bytes =>
        if bytes > maxRequestBytes then .finish task .raised else .beginCheck task (cfg.requestId s.requestNumber)))
  | .beginCheck task requestId =>
    (.quiet, s.moveTo caller ((s.requireOpenChannel task.allowClosing).lead (.begin task requestId) (.finish task .raised)))
  | .begin task requestId =>
    if s.MayBegin task.allowClosing then
      (.quiet, { s with inflightRequestId := some requestId, inflightResponseLines := 0 }.moveTo caller (.write task requestId))
    else (.quiet, s.moveTo caller (.refused task))
  | .refused task =>
    (.quiet, s.moveTo caller
      ((s.requireOpenChannel task.allowClosing).lead (.finish task .raised) (.finish task .raised)))
  | .write task requestId =>
    let unknown : Place :=
      .poison ⟨"Supervisor request write outcome is unknown", some requestId, true⟩ (.endInflight task requestId .raised)
    if s.stdinOpen = false then (.quiet, s.moveTo caller unknown)
    else
      match r.written with
      | .complete => (.written requestId, s.moveTo caller (.await task requestId))
      | .partly => (.written requestId, s.moveTo caller unknown)
      | .refused => (.quiet, s.moveTo caller unknown)
  | .await task requestId =>
    let unknown (message : String) : Place := .poison ⟨message, some requestId, true⟩ (.endInflight task requestId .raised)
    match s.responses with
    | [] =>
      if r.timesOut then
        (.quiet, s.moveTo caller (unknown "Supervisor response timed out; request outcome is unknown"))
      else (.quiet, s)
    | item :: responses =>
      let s := { s with responses := responses }
      match item with
      | .eof => (.quiet, s.moveTo caller (unknown "Supervisor response stream closed unexpectedly"))
      | .invalid => (.quiet, s.moveTo caller (unknown "Supervisor returned an invalid response frame"))
      | .line raw =>
        match decodeResponse raw requestId cfg.controllerId with
        | .error message => (.quiet, s.moveTo caller (unknown message))
        | .ok body => (.quiet, s.moveTo caller (.settle task requestId raw body))
  | .settle task requestId raw body =>
    let ok := match body with
      | .result _ => true
      | .error _ _ => false
    let cleanShutdown := task.operation = "shutdown" ∧ ok = true
    let answer : Place := .endInflight task requestId (match body with
      | .result fields => .result requestId raw fields
      | .error _ _ => .raised)
    let s := if cleanShutdown then { s with shutdownSent := true }.startClosing else s
    (.quiet, s.moveTo caller (match s.receiveFailure with
      | some message => if cleanShutdown then answer else .poison ⟨message, none, false⟩ answer
      | none => answer))
  | .endInflight task requestId outcome =>
    let s := if s.inflightRequestId = some requestId then
        { s with inflightRequestId := none, inflightResponseLines := 0 }
      else s
    (.quiet, s.moveTo caller (.finish task outcome))
  | .finish task outcome => (.quiet, s.moveTo caller (task.afterwards outcome))
  | .unlock outcome => (.returned outcome, { s with requestLock := none }.moveTo caller .idle)
  | .raiseOut => (.returned .raised, s.moveTo caller .idle)
  | .poison info next =>
    let p := s.recordPoison info
    (.quiet, p.2.moveTo caller (.setFailed p.1 next))
  | .setFailed closeInput next =>
    (.quiet, { s with failed := true }.moveTo caller (if closeInput then .closeInput next else next))
  | .closeInput next => (.quiet, { s with stdinOpen := false }.moveTo caller next)
  | .closeEnter =>
    if s.lifecycle = .closed then (.quiet, s.moveTo caller .idle)
    else if s.closeStarted then (.quiet, s.moveTo caller .closeWait)
    else (.quiet, { s with closeStarted := true }.startClosing.moveTo caller .closeLock)
  | .closeWait => (.quiet, if s.closedEvent then s.moveTo caller .idle else s)
  | .closeLock =>
    if s.requestLock = none then (.quiet, { s with requestLock := some caller }.moveTo caller .closePoisoned)
    else (.quiet, s)
  | .closePoisoned => (.quiet, s.moveTo caller (.closePoll s.poisonInfo.isSome))
  | .closePoll poisoned =>
    match r.running with
    | none => (.quiet, s.moveTo caller .closeStreams)
    | some running =>
      (.quiet, s.moveTo caller (if running && !s.shutdownSent && !poisoned then .check .stop else .closeStdin))
  | .closeStdin => (.quiet, { s with stdinOpen := false }.moveTo caller .closeProcess)
  -- waiting, terminating and killing, whether or not they raise
  | .closeProcess => (.quiet, s.moveTo caller .closeStreams)
  | .closeStreams => (.quiet, s.moveTo caller .closeUnlock)
  | .closeUnlock => (.quiet, { s with requestLock := none }.moveTo caller .closeFinal)
  | .closeFinal => (.quiet, { s with lifecycle := .closed }.moveTo caller .closeNotify)
  | .closeNotify => (.quiet, { s with closedEvent := true }.moveTo caller .idle)
  | .waitEnter => (.quiet, s.startClosing.moveTo caller .waitLock)
  | .waitLock =>
    if s.requestLock = none then (.quiet, { s with requestLock := some caller }.moveTo caller .waitProcess)
    else (.quiet, s)
  | .waitProcess =>
    (.quiet, s.moveTo caller (if r.timesOut then
      .poison ⟨"Supervisor process did not exit after shutdown", none, false⟩ .waitUnlock
    else .waitUnlock))
  | .waitUnlock => (.quiet, { s with requestLock := none }.moveTo caller .idle)

-- Every interleaving

inductive SessionStep where
  | pump (r : Reading)
  | caller (caller : Nat) (r : CallerReading)

def supervisorSession (cfg : SessionConfig) : Machine Session SessionStep SessionEvent where
  step s
    | .pump r => pumpStep r s
    | .caller caller r => callerStep cfg caller r s

end RobotLlm.Transport
