import RobotLlm.Ev3.GrowthLaws
import RobotLlm.Ev3.Protocol

/-!
# The supervisor's dispatch loop

One thread polls the supervisor at absolute deadlines and dispatches at most
one request a tick through a hook. Other threads may ask for an emergency stop
at any time; the loop takes the request and stops before a response goes out.
What the hook and its completions do is up to the caller, except that only the
loop takes requests.
-/

namespace RobotLlm.Ev3

open RobotLlm.Lib

/-- The loop, with what the dispatch hook keeps for itself. -/
structure EV3SupervisorLoop (ω : Type) where
  supervisor : EV3Supervisor
  nextTickMs : Int
  preverifiedStopStatus : Option EV3Supervisor.Reply := none
  session : ω

namespace EV3SupervisorLoop

variable {ω : Type}

abbrev Loop (ω : Type) := Prog (EV3SupervisorLoop ω) PyError

def onSupervisor (x : EV3Supervisor.Sup α) : Loop ω α :=
  Prog.onPart supervisor (fun s l => { l with supervisor := s }) x

def io (x : Io α) : Loop ω α := onSupervisor (EV3Supervisor.io x)

def yield : Loop ω Unit := io (Hardware.ask fun _ => .ok ())

def note (happening : Happening) : Loop ω Unit := io (Hardware.note happening)

def Grows (l l' : EV3SupervisorLoop ω) : Prop := l.supervisor.Grows l'.supervisor

instance : IsPreorder (EV3SupervisorLoop ω) Grows where
  refl l := refl_of EV3Supervisor.Grows l.supervisor
  trans _ _ _ := trans_of EV3Supervisor.Grows

/-- What a dispatch leaves to be done: it publishes the response, or an error
in its place. -/
structure Completion (ω : Type) where
  run : Option PyError → Loop ω Unit
  grows : ∀ error, Prog.Keeps Grows (run error)

inductive Dispatched (ω : Type) where
  | nothing
  | notCallable
  | completion (completion : Completion ω)

structure DispatchHook (ω : Type) where
  run : Loop ω (Dispatched ω)
  grows : Prog.Keeps Grows run

def newFlags : Io Unit := modify fun h =>
  { h with emergencyStopRequested := false, requestBoundEmergencyStop := false, log := .loopCreated :: h.log }

/-- `EV3SupervisorLoop(supervisor)`: the first tick. -/
def firstTick : EV3Supervisor.Sup Int := do
  let s ← get
  let now ← EV3Supervisor.checkedNowMs
  EV3Supervisor.io newFlags
  return s.lastPollMs.getD now

-- Emergency stops

def statusProvesVerifiedStop (reply : EV3Supervisor.Reply) : Bool := SupervisorProtocol.stopIsVerified reply

def takePreverifiedStopStatus (c : SupervisorConfig) : Loop ω (Option SupervisorStatus) := do
  let l ← get
  modify fun l => { l with preverifiedStopStatus := none }
  if ∃ reply ∈ l.preverifiedStopStatus, statusProvesVerifiedStop reply = true then do
    let current ← onSupervisor (EV3Supervisor.status c)
    return if SupervisorProtocol.statusIsVerified current then some current else none
  else return none

def externalStopError : PyError :=
  supervisorError "external_stop_requested" "An emergency stop was requested before response publication"

def stopNotConfirmedError : PyError :=
  supervisorError "stop_not_confirmed" "An emergency stop could not be locally verified"

def takeFlags : Io Unit := modify fun h =>
  { h with emergencyStopRequested := false, requestBoundEmergencyStop := false, log := .taken :: h.log }

/-- The stop of a request that was taken. A request-bound stop, if verified,
moves the next tick by its own duration. -/
def performTaken (c : SupervisorConfig) (requestBound : Bool) : Loop ω (Option PyError) := do
  let startedMs ← onSupervisor EV3Supervisor.checkedNowMs
  let status ← onSupervisor (EV3Supervisor.stop c)
  let completedMs ← onSupervisor EV3Supervisor.checkedNowMs
  if statusProvesVerifiedStop status then do
    modify fun l => { l with
      nextTickMs := if requestBound then l.nextTickMs + (completedMs - startedMs) else l.nextTickMs
      preverifiedStopStatus := some status }
    return some externalStopError
  else do
    modify fun l => { l with preverifiedStopStatus := none }
    return some stopNotConfirmedError

def performRequestedEmergencyStop (c : SupervisorConfig) : Loop ω (Option PyError) := do
  yield
  let l ← get
  if l.supervisor.owner.hw.emergencyStopRequested = false then return none
  else do
    io takeFlags
    performTaken c l.supervisor.owner.hw.requestBoundEmergencyStop

def preferDispatchError (first second : Option PyError) : Option PyError :=
  if ∃ e ∈ first, e.code = some "stop_not_confirmed" then first
  else if ∃ e ∈ second, e.code = some "stop_not_confirmed" then second
  else first.or second

-- Dispatch

def enterFault (c : SupervisorConfig) (code detail : String) : Loop ω Unit :=
  onSupervisor (EV3Supervisor.enterFault c code detail none)

def forgetProof : Loop ω Unit := modify fun l => { l with preverifiedStopStatus := none }

/-- `if stop_outcome is not None: self._preverified_stop_status = None`. -/
def forgetProofIf (outcome : Option PyError) : Loop ω Unit := if outcome ≠ none then forgetProof else return ()

/-- A fault for what the caller's code raised, which goes on. -/
def raised (c : SupervisorConfig) (default : String) (e : PyError) : Loop ω α := do
  enterFault c (e.codeOr default) e.message
  throw e

/-- `_dispatch_one`, with a hook. -/
def dispatchHook (c : SupervisorConfig) (hook : DispatchHook ω) : Loop ω (Dispatched ω × Option PyError) := do
  yield
  note .dispatched
  let completion ← tryCatch hook.run fun e => do
    forgetProof
    raised c "dispatch_failure" e
  forgetProof
  let outcome ← performRequestedEmergencyStop c
  forgetProofIf outcome
  return (completion, outcome)

def dispatchOne (c : SupervisorConfig) : Option (DispatchHook ω) → Loop ω (Dispatched ω × Option PyError)
  | none => do
    forgetProof
    return (.nothing, none)
  | some hook => dispatchHook c hook

/-- A failed stop after the publication ends the loop. -/
def raiseIfUnconfirmed (outcome : Option PyError) : Loop ω Unit :=
  match outcome with
  | none => return ()
  | some e => Prog.failIf (e.code = some "stop_not_confirmed") e

/-- The response is published, or what it is to be replaced by. -/
def runCompletion (c : SupervisorConfig) (completion : Completion ω) (error : Option PyError) : Loop ω Unit := do
  yield
  note (.completed error)
  tryCatch (completion.run error) (raised c "dispatch_completion_failure")
  let outcome ← performRequestedEmergencyStop c
  forgetProof
  raiseIfUnconfirmed outcome

def invalidCompletion : PyError :=
  supervisorError "invalid_dispatch_completion" "Dispatch completion must be callable"

def completeDispatch (c : SupervisorConfig) (completion : Dispatched ω) (postDispatchError : Option PyError) :
    Loop ω Unit := do
  note .completing
  let outcome ← performRequestedEmergencyStop c
  forgetProofIf outcome
  let error := if outcome = none then postDispatchError else preferDispatchError outcome postDispatchError
  match completion with
  | .nothing => return ()
  | .notCallable => raised c "invalid_dispatch_completion" invalidCompletion
  | .completion completion => runCompletion c completion error

-- One tick

def sleepAfterDeadlineFault (c : SupervisorConfig) : Loop ω Unit := do
  let now ← onSupervisor EV3Supervisor.nowMs
  modify fun l => if l.nextTickMs - now ≤ 0 then { l with nextTickMs := now + c.limits.pollIntervalMs } else l
  io Hardware.sleep

def deadlineMissed (detail : String) : PyError := supervisorError "poll_deadline_missed" detail

/-- A late tick is a fault, and the next one is counted from now. -/
def missDeadline (c : SupervisorConfig) (now : Int) (e : PyError) : Loop ω Unit := do
  enterFault c "poll_deadline_missed" e.message
  modify fun l => { l with nextTickMs := now + c.limits.pollIntervalMs }

def sleepStatus (c : SupervisorConfig) : Loop ω SupervisorStatus := do
  sleepAfterDeadlineFault c
  onSupervisor (EV3Supervisor.status c)

/-- One request is dispatched even by a tick that came late. -/
def dispatchLate (c : SupervisorConfig) (hook : Option (DispatchHook ω)) (now : Int) (e : PyError) :
    Loop ω SupervisorStatus := do
  missDeadline c now e
  let _ ← performRequestedEmergencyStop c
  let dispatched ← dispatchOne c hook
  completeDispatch c dispatched.1 dispatched.2
  sleepStatus c

/-- The dispatch took too long: its response is replaced by an error. -/
def completeLate (c : SupervisorConfig) (dispatched : Dispatched ω × Option PyError) (now : Int) (e : PyError) :
    Loop ω SupervisorStatus := do
  missDeadline c now e
  let outcome ← performRequestedEmergencyStop c
  completeDispatch c dispatched.1 (preferDispatchError (some e) (preferDispatchError outcome dispatched.2))
  sleepStatus c

def completedLate (c : SupervisorConfig) (now : Int) (e : PyError) : Loop ω SupervisorStatus := do
  missDeadline c now e
  let outcome ← performRequestedEmergencyStop c
  raiseIfUnconfirmed outcome
  sleepStatus c

def sleepIf (wanted : Bool) : Loop ω Unit := if wanted then io Hardware.sleep else return ()

def sleepUntilNextTick (c : SupervisorConfig) (now : Int) : Loop ω SupervisorStatus := do
  let l ← get
  sleepIf (l.nextTickMs - now > 0)
  onSupervisor (EV3Supervisor.status c)

/-- The completion of a dispatch that was in time. -/
def completeInTime (c : SupervisorConfig) (dispatched : Dispatched ω × Option PyError) : Loop ω SupervisorStatus := do
  completeDispatch c dispatched.1 dispatched.2
  let now ← onSupervisor EV3Supervisor.checkedNowMs
  let l ← get
  if now - l.nextTickMs > c.limits.maxPollLatenessMs then
    completedLate c now (deadlineMissed s!"Supervisor completion deadline missed by {now - l.nextTickMs} ms")
  else sleepUntilNextTick c now

def dispatchInTime (c : SupervisorConfig) (hook : Option (DispatchHook ω)) : Loop ω SupervisorStatus := do
  let dispatched ← dispatchOne c hook
  let now ← onSupervisor EV3Supervisor.checkedNowMs
  let l ← get
  if now - l.nextTickMs > c.limits.maxPollLatenessMs then
    completeLate c dispatched now (deadlineMissed s!"Supervisor poll deadline missed by {now - l.nextTickMs} ms")
  else completeInTime c dispatched

def pollInTime (c : SupervisorConfig) (hook : Option (DispatchHook ω)) : Loop ω SupervisorStatus := do
  let _ ← performRequestedEmergencyStop c
  let _ ← onSupervisor (EV3Supervisor.pollOnce c)
  modify fun l => { l with nextTickMs := l.nextTickMs + c.limits.pollIntervalMs }
  let _ ← performRequestedEmergencyStop c
  let now ← onSupervisor EV3Supervisor.checkedNowMs
  let l ← get
  if now - l.nextTickMs > c.limits.maxPollLatenessMs then
    dispatchLate c hook now (deadlineMissed s!"Supervisor poll deadline missed by {now - l.nextTickMs} ms")
  else dispatchInTime c hook

/-- `bind_to_current_thread`; the constructor has bound a thread already. -/
def bindToCurrentThread : EV3Supervisor.Sup Unit := do
  let s ← get
  Prog.failIf (s.dispatchThreadId ≠ s.owner.hw.thread)
    (supervisorError "wrong_dispatch_thread" "Supervisor is bound to another dispatch thread")

def runOnce (c : SupervisorConfig) (hook : Option (DispatchHook ω)) : Loop ω SupervisorStatus := do
  onSupervisor bindToCurrentThread
  let now ← onSupervisor EV3Supervisor.checkedNowMs
  let l ← get
  if now - l.nextTickMs > c.limits.maxPollLatenessMs then
    dispatchLate c hook now (deadlineMissed s!"Supervisor woke {now - l.nextTickMs} ms after its poll deadline")
  else pollInTime c hook

-- The whole run

/-- `while not shutdown_requested()`, for at most so many ticks: whether it has
ended. -/
def ticks (c : SupervisorConfig) (hook : Option (DispatchHook ω)) (shutdown : Cancellation) : Nat → Loop ω Bool
  | 0 => return false
  | n + 1 => do
    if ← io shutdown.requested then return true
    else do
      let _ ← runOnce c hook
      ticks c hook shutdown n

/-- `exit_status`, after a close that may have failed. -/
def exitStatus (c : SupervisorConfig) : Except PyError (Option SupervisorStatus) → Loop ω (Option SupervisorStatus)
  | .ok status => return status
  | .error _ => do
    let l ← get
    if l.supervisor.state = .closed then onSupervisor (EV3Supervisor.close c)
    else return some (← onSupervisor (EV3Supervisor.status c))

/-- `exit_status.get(..)`, of no dictionary. -/
def noStatus : PyError := { kind := .other, message := "'NoneType' object has no attribute 'get'" }

/-- The text may end with the class of the loop's error, which is left out. -/
def requireStatus (status : Option SupervisorStatus) : Except PyError SupervisorStatus :=
  match status with
  | none => .error noStatus
  | some status =>
    if status.state ≠ .closed then
      .error (supervisorError "shutdown_stop_failed" "Supervisor could not verify shutdown stop")
    else if status.auditComplete ≠ some true then
      .error (supervisorError "shutdown_audit_failed" "Supervisor closed without a complete terminal audit")
    else .ok status

def raiseKept (r : Except PyError α) : Except PyError Unit := r.map fun _ => ()

/-- The end of `run_forever`: the supervisor is closed whatever happened. -/
def closeLoop (c : SupervisorConfig) (looped : Except PyError Bool) : Loop ω SupervisorStatus := do
  note .closing
  let closed ← Prog.attempt (onSupervisor (EV3Supervisor.close c))
  let status ← exitStatus c closed
  let status ← Prog.ofExcept (requireStatus status)
  Prog.ofExcept (raiseKept closed)
  Prog.ofExcept (raiseKept looped)
  return status

/-- `run_forever`, for at most so many ticks; no answer while it still runs. -/
def runForever (c : SupervisorConfig) (hook : Option (DispatchHook ω)) (shutdown : Cancellation) (n : Nat) :
    Loop ω (Option SupervisorStatus) := do
  onSupervisor bindToCurrentThread
  match ← Prog.attempt (ticks c hook shutdown n) with
  | .ok false => return none
  | looped => return some (← closeLoop c looped)

end EV3SupervisorLoop

-- Publication

namespace SupervisorProtocol

/-- The codes for which an error is at hand to go out in a success's place. -/
def alternateMessage : String → Option String
  | "external_stop_requested" => some "An emergency stop was requested before response publication"
  | "poll_deadline_missed" => some "The supervisor deadline was missed before response publication"
  | "stop_not_confirmed" => some "An emergency stop could not be locally verified"
  | _ => none

/-- `alternate_wires.get(getattr(post_dispatch_error, "code", None))`. -/
def alternate (c : ProtocolConfig) (request : SupervisorRequest) (e : PyError) : Option Response := do
  let code ← e.code
  let message ← alternateMessage code
  return errorResponse c request (supervisorError code message)

/-- The error that counts for a response: a stop of one's own is none to a stop. -/
def publishedError (request : SupervisorRequest) (error : Option PyError) : Option PyError :=
  error.filter fun e => !(decide (e.code = some "external_stop_requested") && request.operation.isStop)

/-- The frame `publish` puts into the output queue, if it finds one. -/
def published (c : ProtocolConfig) (request : SupervisorRequest) (response : Response) (error : Option PyError) :
    Option Response :=
  match publishedError request error with
  | none => some response
  | some e => if response.ok then alternate c request e else some response

end SupervisorProtocol

end RobotLlm.Ev3
