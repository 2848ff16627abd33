import Mathlib.Algebra.Order.Ring.Rat
import RobotLlm.Lib.Machine
import RobotLlm.Navigation.Contract

/-!
# The single-flight selector

Any number of threads call the selector; each call that may start one has a
worker thread of its own. A caller and a worker take one atomic access at a
time: a read of the cancel event or of a clock, a section under a lock, a flag.
What they read from outside is given at the step that reads it.
-/

namespace RobotLlm.Autonomy.Selector

open RobotLlm.Lib RobotLlm.Navigation

-- Outcomes

inductive SelectorFailure where
  | exception
  | invalidPayload
  | workerFailed
deriving DecidableEq

/-- The outcomes that `__post_init__` accepts. -/
inductive SelectorCallOutcome where
  | completed (payload : List UInt8)
  | cancelled
  | deadlineExpired
  | failed (kind : SelectorFailure)
  | busy
deriving DecidableEq

/-- What the selector does with a context, if it ends. -/
inductive SelectorAnswer where
  | bytes (payload : List UInt8)
  | other
  | raised
deriving DecidableEq

/-- Payload and failure of an answer, as `_worker` tells them apart. -/
def SelectorAnswer.result : SelectorAnswer → Option (List UInt8) × Option SelectorFailure
  | .bytes payload => (some payload, none)
  | .other => (none, some .invalidPayload)
  | .raised => (none, some .exception)

/-- `_SelectorCallState`, without its thread. -/
structure SelectorCallState where
  done : Bool := false
  payload : Option (List UInt8) := none
  failureKind : Option SelectorFailure := none
  discarded : Bool := false
deriving DecidableEq

namespace SelectorCallState

/-- `finish`, up to the flag. -/
def finish (result : Option (List UInt8) × Option SelectorFailure) (s : SelectorCallState) : SelectorCallState :=
  if s.discarded then s else { s with payload := result.1, failureKind := result.2 }

def discard (s : SelectorCallState) : SelectorCallState :=
  { s with discarded := true, payload := none, failureKind := none }

def outcome (s : SelectorCallState) : SelectorCallOutcome :=
  if s.discarded then .failed .workerFailed
  else
    match s.failureKind, s.payload with
    | some kind, _ => .failed kind
    | none, none => .failed .workerFailed
    | none, some payload => .completed payload

end SelectorCallState

-- The threads

/-- Where a worker thread stands; it is alive until it has exited. -/
inductive SelectorWorker where
  | started
  /-- In the selector. -/
  | selecting
  | selected (result : Option (List UInt8) × Option SelectorFailure)
  | finished
  | signalled
  | exited
deriving DecidableEq

inductive CallError where
  | contract (error : NavigationContractError)
  /-- What the clock raised. -/
  | clock (name : String)
deriving DecidableEq

abbrev CallResult := Except CallError SelectorCallOutcome

/-- Where a call stands: before the access named. The wall deadline is carried
from where it is set. -/
inductive CallStage where
  | entered
  | firstClock
  | starting (startedAtMs : Int)
  | setWall (startedAtMs : Int)
  | readCancelled (wall : Rat)
  | readClock (wall : Rat)
  | readWall (wall : Rat)
  | discarding (outcome : SelectorCallOutcome)
  | readDone (wall : Rat)
  | waiting (wall : Rat)
  | joining
  | clearing
  | readOutcome
  | answering (result : CallResult)
  | ended

structure SelectorCall (κ : Type) where
  context : κ
  deadlineMs : Int
  stage : CallStage
  state : SelectorCallState := {}
  /-- The thread of the call's state, once it was started. -/
  thread : Option SelectorWorker := none

/-- `SingleFlightSelector`: the call whose state is active, and all calls in
the order in which they came. -/
structure SingleFlightSelector (κ : Type) where
  active : Option Nat := none
  calls : List (SelectorCall κ) := []

/-- What a clock gives: it raises, or returns a value that may be no integer. -/
inductive ClockAnswer where
  | raised (name : String)
  | returned (value : Option Int)

/-- One access of a caller, with what it finds outside. -/
inductive CallerStep where
  /-- `cancel_event.is_set()`, which may raise. -/
  | readCancelled (answer : Option Bool)
  | readClock (answer : ClockAnswer)
  | readMonotonic (now : Rat)
  /-- `_start`, where `thread.start()` may raise. -/
  | start (startable : Bool)
  | proceed

inductive WorkerStep where
  | selects (answer : SelectorAnswer)
  | proceed

inductive SelectorInput (κ : Type) where
  | call (context : κ) (deadlineMs : Int) (hasIsSet : Bool)
  | caller (n : Nat) (access : CallerStep)
  | worker (n : Nat) (access : WorkerStep)
  | busy

inductive SelectorEvent (κ : Type) where
  | nothing
  | called (n : Nat) (context : κ) (deadlineMs : Int)
  | cancellationRead (n : Nat) (answer : Option Bool)
  | clockRead (n : Nat) (now : Except CallError Int)
  | wallSet (n : Nat) (wall : Rat)
  | wallRead (n : Nat) (now wall : Rat)
  | started (n : Nat)
  /-- Another call's worker is alive. -/
  | refused (n : Nat)
  | notStarted (n : Nat)
  | invoked (n : Nat) (context : κ)
  | selected (n : Nat) (answer : SelectorAnswer)
  | busyRead (busy : Bool)
  | ended (n : Nat) (result : CallResult)

variable {κ : Type}

namespace SelectorCall

def isAlive (c : SelectorCall κ) : Bool :=
  match c.thread with
  | none | some .exited => false
  | some _ => true

def at_ (c : SelectorCall κ) (stage : CallStage) : SelectorCall κ := { c with stage := stage }

end SelectorCall

-- Callers

namespace SingleFlightSelector

def cancelEventInvalid : CallError := .contract ⟨"invalid_selector_cancel_event", "Selector cancellation event is invalid"⟩

def nowMs : ClockAnswer → Except CallError Int
  | .raised name => .error (.clock name)
  | .returned none => .error (.contract ⟨"invalid_integer", "selector_clock_ms is invalid"⟩)
  | .returned (some value) => (integer "selector_clock_ms" value 0 counterMax).mapError .contract

/-- The first lines of `call`, which ask nothing of the event or the clock. -/
def enter (deadlineMs : Int) (hasIsSet : Bool) : CallStage :=
  match integer "selector_deadline_ms" deadlineMs 0 counterMax with
  | .error e => .answering (.error (.contract e))
  | .ok _ =>
    if hasIsSet then .entered
    else .answering (.error (.contract ⟨"invalid_selector_cancel_event", "Selector cancellation event must expose is_set()"⟩))

def activeAlive (s : SingleFlightSelector κ) : Bool :=
  match s.active.bind (s.calls[·]?) with
  | none => false
  | some c => c.isAlive

/-- One access of the call `n`: what happens, what the call is then, and which
call is active. -/
def callerStep (s : SingleFlightSelector κ) (n : Nat) (c : SelectorCall κ) :
    CallStage → CallerStep → SelectorEvent κ × SelectorCall κ × Option Nat
  | .entered, .readCancelled answer => (.cancellationRead n answer,
    match answer with
    | none => c.at_ (.answering (.error cancelEventInvalid))
    | some true => c.at_ (.answering (.ok .cancelled))
    | some false => c.at_ .firstClock, s.active)
  | .firstClock, .readClock answer => (.clockRead n (nowMs answer),
    match nowMs answer with
    | .error e => c.at_ (.answering (.error e))
    | .ok now => if now ≥ c.deadlineMs then c.at_ (.answering (.ok .deadlineExpired)) else c.at_ (.starting now), s.active)
  | .starting startedAtMs, .start startable =>
    if s.activeAlive then (.refused n, c.at_ (.answering (.ok .busy)), s.active)
    else if startable then (.started n, { c.at_ (.setWall startedAtMs) with thread := some .started }, some n)
    else (.notStarted n, c.at_ (.answering (.ok (.failed .workerFailed))), none)
  | .setWall startedAtMs, .readMonotonic now =>
    let wall := now + (c.deadlineMs - startedAtMs) / 1000
    (.wallSet n wall, c.at_ (.readCancelled wall), s.active)
  | .readCancelled wall, .readCancelled answer => (.cancellationRead n answer,
    match answer with
    | none => c.at_ (.answering (.error cancelEventInvalid))
    | some true => c.at_ (.discarding .cancelled)
    | some false => c.at_ (.readClock wall), s.active)
  | .readClock wall, .readClock answer => (.clockRead n (nowMs answer),
    match nowMs answer with
    | .error e => c.at_ (.answering (.error e))
    | .ok now => if now ≥ c.deadlineMs then c.at_ (.discarding .deadlineExpired) else c.at_ (.readWall wall), s.active)
  | .readWall wall, .readMonotonic now =>
    (.wallRead n now wall, if now ≥ wall then c.at_ (.discarding .deadlineExpired) else c.at_ (.readDone wall), s.active)
  | .discarding outcome, .proceed => (.nothing, { c.at_ (.answering (.ok outcome)) with state := c.state.discard }, s.active)
  | .readDone wall, .proceed => (.nothing, if c.state.done then c.at_ .joining else c.at_ (.waiting wall), s.active)
  | .waiting wall, .proceed => (.nothing, c.at_ (.readCancelled wall), s.active)
  -- `thread.join()` comes back once the worker has exited
  | .joining, .proceed => (.nothing, if c.isAlive then c else c.at_ .clearing, s.active)
  | .clearing, .proceed => (.nothing, c.at_ .readOutcome, if s.active = some n then none else s.active)
  | .readOutcome, .proceed => (.nothing, c.at_ (.answering (.ok c.state.outcome)), s.active)
  | .answering result, .proceed => (.ended n result, c.at_ .ended, s.active)
  | _, _ => (.nothing, c, s.active)

-- Workers

/-- One access of the worker of the call `n`. -/
def workerStep (n : Nat) (c : SelectorCall κ) : Option SelectorWorker → WorkerStep → SelectorEvent κ × SelectorCall κ
  | some .started, .proceed => (.invoked n c.context, { c with thread := some .selecting })
  | some .selecting, .selects answer => (.selected n answer, { c with thread := some (.selected answer.result) })
  | some (.selected result), .proceed => (.nothing, { c with thread := some .finished, state := c.state.finish result })
  | some .finished, .proceed => (.nothing, { c with thread := some .signalled, state := { c.state with done := true } })
  | some .signalled, .proceed => (.nothing, { c with thread := some .exited })
  | _, _ => (.nothing, c)

-- All threads

def put (s : SingleFlightSelector κ) (n : Nat) (c : SelectorCall κ) (active : Option Nat) : SingleFlightSelector κ :=
  { active, calls := s.calls.set n c }

def step (s : SingleFlightSelector κ) : SelectorInput κ → SelectorEvent κ × SingleFlightSelector κ
  | .call context deadlineMs hasIsSet =>
    (.called s.calls.length context deadlineMs,
      { s with calls := s.calls ++ [{ context, deadlineMs, stage := enter deadlineMs hasIsSet }] })
  | .caller n access =>
    match s.calls[n]? with
    | none => (.nothing, s)
    | some c =>
      let r := s.callerStep n c c.stage access
      (r.1, s.put n r.2.1 r.2.2)
  | .worker n access =>
    match s.calls[n]? with
    | none => (.nothing, s)
    | some c =>
      let r := workerStep n c c.thread access
      (r.1, s.put n r.2 s.active)
  -- the property `busy` lets go of a worker that has exited
  | .busy => (.busyRead s.activeAlive, if s.activeAlive then s else { s with active := none })

def singleFlight (κ : Type) : Machine (SingleFlightSelector κ) (SelectorInput κ) (SelectorEvent κ) where
  step := step

end SingleFlightSelector

end RobotLlm.Autonomy.Selector
