import RobotLlm.Lib.Machine
import RobotLlm.Odometry.Observation

/-!
# The channel to the navigation worker

One caller sends one request at a time to one worker process. A reader thread
puts what the worker writes into a queue of one place, and any thread may abort
the channel. A thread is a place in the code, and a step is what it does under
the abort lock, or one access to something it shares with the others.
-/

namespace RobotLlm.Channel

open RobotLlm.Lib
open RobotLlm.Odometry (WorkerObservation validateObservation)

-- Requests

def maxRequestBytes : Nat := 4 * 1024
def maxResponseBytes : Nat := 64 * 1024

def responseSchema : String := "ev3-agent-worker-response/v2"

def operations : List String := ["describe", "observe", "pulse", "scan_turn", "scan_sample", "stop", "shutdown"]
def motionActions : List String := ["ADVANCE", "REVERSE", "TURN_LEFT_90", "TURN_RIGHT_90"]

/-- `SCAN_TURN_ALLOWED_DELTAS_MDEG`: the multiples of 15 degrees up to 120, but zero. -/
def ScanTurnDelta (delta : Int) : Prop := delta ≠ 0 ∧ delta.natAbs ≤ 120000 ∧ delta % 15000 = 0

instance : Decidable (ScanTurnDelta delta) := inferInstanceAs (Decidable (_ ∧ _ ∧ _))

structure Request (F : Type) where
  operation : String
  arguments : List (String × Json)
  timeoutSeconds : F
  /-- A cancellation probe was passed. -/
  cancellable : Bool

section
variable {F : Type} [PyFloat F]

/-- The checks of `request` before the request has a number. -/
def checkRequest (r : Request F) : Except String Unit := do
  if r.operation ∉ operations then .error "unknown worker operation"
  else if r.operation = "pulse" then
    match Json.toStr? (r.arguments.lookup "action") with
    | some action =>
      if ¬ Json.HasKeys r.arguments ["action"] ∨ action ∉ motionActions then .error "pulse arguments are invalid"
    | none => .error "pulse arguments are invalid"
  else if r.operation = "scan_turn" then
    match Json.toInt? (r.arguments.lookup "relative_delta_mdeg") with
    | some delta =>
      if ¬ Json.HasKeys r.arguments ["relative_delta_mdeg"] ∨ ¬ ScanTurnDelta delta then
        .error "scan-turn arguments are invalid"
    | none => .error "scan-turn arguments are invalid"
  else if r.arguments ≠ [] then .error "worker operation has unexpected arguments"
  if ¬ (PyMath.le (PyFloat.ofText "0.1") r.timeoutSeconds ∧ PyMath.le r.timeoutSeconds (PyMath.ofInt 60 : F)) then
    .error "request timeout is invalid"

/-- `"{:04d}".format(number)`. -/
def padded (number : Nat) : String := String.ofList (List.replicate (4 - number.repr.length) '0') ++ number.repr

def requestId (number : Nat) : String := "host-" ++ padded number

-- Responses

/-- What `readline` returned: its bytes as far as anybody looks at them, and
what the strict decoder makes of them (`none` when it raises). -/
structure Frame where
  length : Nat
  endsWithNewline : Bool
  value : Option Json

def stopFields : List String := ["stop_attempts", "stop_confirmed", "states", "positions", "fault_tokens", "errors"]

/-- What `_validate_stop_proof` accepts. -/
def StopProof (stop : List (String × Json)) : Bool :=
  (Json.HasKeys stop stopFields ∨ Json.HasKeys stop ("cleanup_errors" :: stopFields)) &&
    Json.IsTrue (stop.lookup "stop_confirmed") &&
    match stop.lookup "stop_attempts", stop.lookup "states", stop.lookup "positions", stop.lookup "fault_tokens",
      stop.lookup "errors", stop.lookup "cleanup_errors" with
    | some (.arr _), some (.obj _), some (.obj _), some (.obj []), some (.arr []), none => true
    | some (.arr _), some (.obj _), some (.obj _), some (.obj []), some (.arr []), some (.arr []) => true
    | _, _, _, _, _, _ => false

def validateStopProof : Json → Except String Unit
  | .obj stop => if StopProof stop then .ok () else .error "worker stop proof is invalid"
  | _ => .error "worker stop proof is invalid"

/-- The fields a response has for its flag `ok`. -/
def responseFields (ok : Bool) : List String :=
  ["schema", "controller_id", "request_id", "ok", "state_version", if ok then "result" else "error"]

/-- A response up to the point where its version is taken over. -/
structure Correlated where
  ok : Bool
  version : Int
  payload : List (String × Json)
  fields : List (String × Json)

/-- The first part of `_validate_response`. -/
def correlate (controllerId : String) (lastStateVersion : Int) (requestId : String) : Json → Except String Correlated
  | .obj fields =>
    match Json.toBool? (fields.lookup "ok") with
    | none => .error "worker response is not a valid object"
    | some ok =>
      if ¬ Json.HasKeys fields (responseFields ok) then .error "worker response fields are invalid"
      else
        match Json.toInt? (fields.lookup "state_version") with
        | none => .error "worker response correlation/version is invalid"
        | some version =>
          if Json.IsStr responseSchema (fields.lookup "schema") ∧ Json.IsStr controllerId (fields.lookup "controller_id") ∧
              Json.IsStr requestId (fields.lookup "request_id") ∧ lastStateVersion ≤ version then
            match fields.lookup (if ok then "result" else "error") with
            | some (.obj payload) => .ok ⟨ok, version, payload, fields⟩
            | _ => .error "worker response payload is invalid"
          else .error "worker response correlation/version is invalid"
  | _ => .error "worker response is not a valid object"

/-- An `EV3NavigationRemoteError`. -/
structure RemoteError where
  code : String
  message : String
  fatal : Bool
  observation : Option WorkerObservation
  stop : Option Json

def errorFields : List String := ["code", "message", "fatal"]

def errorObservation (F : Type) [PyFloat F] (version : Int) : Option Json → Except String (Option WorkerObservation)
  | none => .ok none
  | some value =>
    match validateObservation F value with
    | .error _ => .error "worker error observation is invalid"
    | .ok observation =>
      if observation.stateVersion = version then .ok (some observation)
      else .error "worker error observation version is invalid"

def errorStop : Option Json → Except String (Option Json)
  | none | some .null => .ok none
  | some value => do
    validateStopProof value
    .ok (some value)

def errorTexts (payload : List (String × Json)) : Except String (String × String × Bool) :=
  match Json.toStr? (payload.lookup "code"), Json.toStr? (payload.lookup "message"),
    Json.toBool? (payload.lookup "fatal") with
  | some code, some message, some fatal =>
    if (∀ name ∈ errorFields, name ∈ payload.map Prod.fst) ∧
        (∀ name ∈ payload.map Prod.fst, name ∈ errorFields ++ ["observation", "stop"]) ∧ code ≠ "" ∧ message ≠ "" then
      .ok (code, message, fatal)
    else .error "worker error payload is invalid"
  | _, _, _ => .error "worker error payload is invalid"

/-- The rest of `_validate_response` for an error: what it raises. -/
def remoteError (F : Type) [PyFloat F] (version : Int) (payload : List (String × Json)) : Except String RemoteError := do
  let (code, message, fatal) ← errorTexts payload
  let observation ← errorObservation F version (payload.lookup "observation")
  let stop ← errorStop (payload.lookup "stop")
  .ok ⟨code, message, fatal, observation, stop⟩

end

/-- What `_validate_success_result` makes of the result of an operation. -/
inductive ResultCheck where
  /-- Accepted, with the description to keep from now on. -/
  | accepted (description : Option Json)
  /-- An `EV3NavigationOperationError`, which is never fatal. -/
  | operationError (code : String)
  | raised (message : String)

structure ChannelConfig (F : Type) where
  controllerId : String
  validateSuccessResult : Request F → Option Json → List (String × Json) → ResultCheck

-- The state the threads share

inductive QueueItem where
  | line (frame : Frame)
  | eof
  | invalid
  | error

inductive ReaderPlace where
  | notStarted
  | readline
  /-- `put` waits for a free place. -/
  | put (item : QueueItem)
  | ended

/-- Where a thread stands in `abort`. -/
inductive AbortPlace where
  | enter
  | closeStdin
  | terminate

inductive Ending where
  | response (frame : Frame) (fields : List (String × Json))
  | remoteError (frame : Frame) (error : RemoteError)
  | operationError (frame : Frame) (code : String)
  | raised (message : String)

def Ending.frame? : Ending → Option Frame
  | .response frame _ | .remoteError frame _ | .operationError frame _ => some frame
  | .raised _ => none

inductive Place (F : Type) where
  | idle
  | checkAborted (r : Request F)
  | checkRequest (r : Request F)
  | number (r : Request F)
  | write (r : Request F) (number : Nat)
  | flush (r : Request F) (number : Nat)
  | setDeadline (r : Request F) (number : Nat)
  | askCancelled (r : Request F) (number : Nat) (deadline : F)
  | askClock (r : Request F) (number : Nat) (deadline : F)
  | take (r : Request F) (number : Nat) (deadline : F)
  | receive (r : Request F) (number : Nat) (item : QueueItem)
  | settle (r : Request F) (number : Nat) (frame : Frame) (response : Correlated)
  /-- In `abort`, on the way to the end of a request. -/
  | breaking (at_ : AbortPlace) (number : Nat) (ending : Ending)
  | finish (number : Option Nat) (ending : Ending)
  /-- In an `abort` of the caller's own. -/
  | aborting (at_ : AbortPlace)

structure Channel (F : Type) where
  /-- There is a process. -/
  started : Bool := false
  stdinOpen : Bool := true
  responses : Option QueueItem := none
  sequence : Nat := 0
  lastStateVersion : Int := 0
  shutdownComplete : Bool := false
  workerDescription : Option Json := none
  aborted : Bool := false
  /-- Somebody holds `_abort_lock`. -/
  abortLock : Bool := false
  reader : ReaderPlace := .notStarted
  caller : Place F := .idle
  /-- The other threads, where one is in `abort`. -/
  others : Nat → Option AbortPlace := fun _ => none

inductive Event where
  | quiet
  /-- The reader read a line. -/
  | received (frame : Frame)
  /-- Bytes of the request of that number reached the worker. -/
  | written (number : Nat)
  /-- The version of a frame was taken over. -/
  | accepted (number : Nat) (version : Int)
  /-- An abort took effect: the worker's input is closed, or there is none yet. -/
  | aborted
  | ended (number : Option Nat) (ending : Ending)

-- The reader

/-- What `readline` does; a line of no bytes is the end of the stream. -/
inductive Reading where
  | raised
  | line (frame : Frame)

def QueueItem.next : QueueItem → ReaderPlace
  | .line _ => .readline
  | .eof | .invalid | .error => .ended

/-- `_read_stdout`. -/
def readerStep (r : Reading) (s : Channel F) : Event × Channel F :=
  match s.reader with
  | .notStarted | .ended => (.quiet, s)
  | .readline =>
    match r with
    | .raised => (.quiet, { s with reader := .put .error })
    | .line frame =>
      if frame.length = 0 then (.quiet, { s with reader := .put .eof })
      else if frame.length > maxResponseBytes ∨ frame.endsWithNewline = false then (.quiet, { s with reader := .put .invalid })
      else (.received frame, { s with reader := .put (.line frame) })
  | .put item =>
    match s.responses with
    | some _ => (.quiet, s)
    | none => (.quiet, { s with responses := some item, reader := item.next })

-- Aborting

/-- One step of `abort`: what is seen, where the thread goes (`none` when it is
through), and the channel. -/
def abortStep (s : Channel F) : AbortPlace → Event × Option AbortPlace × Channel F
  | .enter =>
    if s.abortLock then (.quiet, some .enter, s)
    else if s.aborted then (.quiet, none, s)
    else if s.started = false then (.aborted, none, { s with aborted := true })
    else (.quiet, some .closeStdin, { s with aborted := true, abortLock := true })
  | .closeStdin => (.aborted, some .terminate, { s with stdinOpen := false })
  | .terminate => (.quiet, none, { s with abortLock := false })

-- The caller

inductive Call (F : Type) where
  | start
  | request (r : Request F)
  | close
  | abort

/-- How far a write got. Into a closed pipe nothing is written. -/
inductive WriteOutcome where
  | complete
  | partly
  | refused

/-- What the caller finds out at a step from outside. -/
structure CallerReading (F : Type) where
  call : Call F := .close
  /-- The process was created. -/
  created : Bool := true
  /-- The bytes of the request's line. -/
  wire : Nat := 1
  written : WriteOutcome := .complete
  flushed : Bool := true
  /-- What the probe returned; `none` when it raises. -/
  cancelled : Option Bool := some false
  now : F

def callerStep [PyFloat F] (cfg : ChannelConfig F) (c : CallerReading F) (s : Channel F) : Event × Channel F :=
  let raise (number : Nat) (message : String) : Place F := .breaking .enter number (.raised message)
  match s.caller with
  | .idle =>
    match c.call with
    | .start =>
      if s.started ∨ ¬ c.created then (.quiet, s)
      else (.quiet, { s with started := true, reader := .readline })
    | .request r => (.quiet, { s with caller := .checkAborted r })
    | .close => (.quiet, if s.started then { s with stdinOpen := false } else s)
    | .abort => (.quiet, { s with caller := .aborting .enter })
  | .checkAborted r =>
    if s.abortLock then (.quiet, s)
    else if s.aborted then
      (.quiet, { s with caller := .finish none (.raised "aborted navigation transport cannot be reused") })
    else (.quiet, { s with caller := .checkRequest r })
  | .checkRequest r =>
    if s.started = false then
      (.quiet, { s with caller := .finish none (.raised "navigation worker is not open") })
    else
      match checkRequest r with
      | .error message => (.quiet, { s with caller := .finish none (.raised message) })
      | .ok () => (.quiet, { s with caller := .number r })
  | .number r =>
    let s := { s with sequence := s.sequence + 1 }
    if c.wire > maxRequestBytes then
      (.quiet, { s with caller := .finish (some s.sequence) (.raised "worker request exceeded its byte limit") })
    else (.quiet, { s with caller := .write r s.sequence })
  | .write r number =>
    if s.stdinOpen = false then (.quiet, { s with caller := raise number "worker input closed" })
    else
      match c.written with
      | .complete => (.written number, { s with caller := .flush r number })
      | .partly => (.written number, { s with caller := raise number "worker input closed" })
      | .refused => (.quiet, { s with caller := raise number "worker input closed" })
  | .flush r number =>
    -- flushing an input that is closed raises
    (.quiet, { s with caller :=
      if s.stdinOpen ∧ c.flushed then .setDeadline r number else raise number "worker input closed" })
  | .setDeadline r number =>
    (.quiet, { s with caller := .askCancelled r number (PyFloat.add c.now r.timeoutSeconds) })
  | .askCancelled r number deadline =>
    (.quiet, { s with caller :=
      match r.cancellable, c.cancelled with
      | true, none => raise number "request cancellation probe failed"
      | true, some true => raise number "worker request cancelled; SSH channel closed"
      | _, _ => .askClock r number deadline })
  | .askClock r number deadline =>
    let late := PyMath.le (PyMath.sub deadline c.now) (PyMath.ofInt 0)
    (.quiet, { s with caller := if late then raise number "worker response timed out" else .take r number deadline })
  | .take r number deadline =>
    match s.responses with
    | none => (.quiet, { s with caller := .askCancelled r number deadline })
    | some item => (.quiet, { s with responses := none, caller := .receive r number item })
  | .receive r number item =>
    match item with
    | .line frame =>
      match frame.value with
      | none => (.quiet, { s with caller := raise number "JSON body is invalid" })
      | some value =>
        match correlate cfg.controllerId s.lastStateVersion (requestId number) value with
        | .error message => (.quiet, { s with caller := raise number message })
        | .ok response =>
          (.accepted number response.version,
            { s with lastStateVersion := response.version, caller := .settle r number frame response })
    | .eof | .invalid | .error => (.quiet, { s with caller := raise number "worker output ended" })
  | .settle r number frame response =>
    if response.ok then
      match cfg.validateSuccessResult r s.workerDescription response.fields with
      | .accepted description =>
        (.quiet, { s with
          workerDescription := description
          shutdownComplete := if r.operation = "shutdown" then true else s.shutdownComplete
          caller := .finish (some number) (.response frame response.fields) })
      | .operationError code => (.quiet, { s with caller := .finish (some number) (.operationError frame code) })
      | .raised message => (.quiet, { s with caller := raise number message })
    else
      match remoteError F response.version response.payload with
      | .error message => (.quiet, { s with caller := raise number message })
      | .ok error =>
        let ending : Ending := .remoteError frame error
        (.quiet, { s with caller := if error.fatal then .breaking .enter number ending else .finish (some number) ending })
  -- where the code aborts a second time, the flag is set already
  | .breaking at_ number ending =>
    let (event, next, s) := abortStep s at_
    (event, { s with caller :=
      match next with
      | some at_ => .breaking at_ number ending
      | none => .finish (some number) ending })
  | .finish number ending => (.ended number ending, { s with caller := .idle })
  | .aborting at_ =>
    let (event, next, s) := abortStep s at_
    (event, { s with caller :=
      match next with
      | some at_ => .aborting at_
      | none => .idle })

-- Every interleaving

/-- A thread calls `abort`, or goes on with it. -/
def otherStep (thread : Nat) (s : Channel F) : Event × Channel F :=
  let (event, next, s) := abortStep s ((s.others thread).getD .enter)
  (event, { s with others := fun t => if t = thread then next else s.others t })

inductive ChannelStep (F : Type) where
  | reader (r : Reading)
  | caller (c : CallerReading F)
  | other (thread : Nat)

def navigationChannel [PyFloat F] (cfg : ChannelConfig F) : Machine (Channel F) (ChannelStep F) Event where
  step s
    | .reader r => readerStep r s
    | .caller c => callerStep cfg c s
    | .other thread => otherStep thread s

end RobotLlm.Channel
