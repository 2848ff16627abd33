import RobotLlm.Ev3.Loop

/-!
# The foreground session of one supervisor

A reader puts what it decodes into two bounded queues, one for the stops of
this controller and one for the rest. The dispatch thread takes one item at a
time, answers it, and publishes the answer or an error in its place once the
loop has looked at the deadline; a writer takes the frames. Only the queues
are guarded by a lock, so between any two of these the others may run.
-/

namespace RobotLlm.Ev3

open RobotLlm.Lib

/-- A `ProtocolError` of the reader. -/
structure RequestError where
  code : String
  message : String
  requestId : Option String := none
deriving DecidableEq

inductive InboundItem where
  | request (request : SupervisorRequest)
  | error (error : RequestError)
deriving DecidableEq

/-- What a response frame says; an item that was no request may have no id. -/
inductive Frame where
  | response (response : Response)
  | refusal (requestId : Option String) (controllerId code message : String)
deriving DecidableEq

def Frame.ok : Frame → Bool
  | .response r => r.ok
  | .refusal _ _ _ _ => false

def Frame.requestId : Frame → Option String
  | .response r => some r.requestId
  | .refusal requestId _ _ _ => requestId

structure SessionConfig extends ProtocolConfig where
  /-- Whether `encode_response` finds a wire for the frame. -/
  encodes : Frame → Bool

/-- The one request budget the constructor accepts. -/
def ProtocolConfig.maxProcessRequests (c : ProtocolConfig) : Nat := if c.irRoamer then 256 else 128

def normalQueueSize : Nat := 8
def urgentQueueSize : Nat := 4
def outputQueueSize : Nat := 16

structure ForegroundSupervisorSession where
  remainingMotionBudget : Int
  remainingMotionDurationMs : Int
  normalQueue : List InboundItem := []
  urgentQueue : List InboundItem := []
  /-- `_loop` was made. -/
  hasLoop : Bool := false
  pendingRequestBoundStop : Bool := false
  outputQueue : List Frame := []
  shutdown : Bool := false
  transportFailure : Option String := none
  requestCount : Nat := 0
  seenRequestIds : List String := []
  /-- How many items were taken out of the two queues. -/
  taken : Nat := 0
  /-- The items whose cell `completed` is set. -/
  completed : List Nat := []

namespace ForegroundSupervisorSession

abbrev Session := EV3SupervisorLoop ForegroundSupervisorSession
abbrev Sess := EV3SupervisorLoop.Loop ForegroundSupervisorSession

def session (f : ForegroundSupervisorSession → ForegroundSupervisorSession) : Sess Unit :=
  modify fun l => { l with session := f l.session }

def protocol (l : Session) : SupervisorProtocol where
  supervisor := l.supervisor
  remainingMotionBudget := l.session.remainingMotionBudget
  remainingMotionDurationMs := l.session.remainingMotionDurationMs

def withProtocol (p : SupervisorProtocol) (l : Session) : Session :=
  { l with
    supervisor := p.supervisor
    session := { l.session with
      remainingMotionBudget := p.remainingMotionBudget
      remainingMotionDurationMs := p.remainingMotionDurationMs } }

def onProtocol (x : SupervisorProtocol.Prot α) : Sess α := Prog.onPart protocol withProtocol x

-- Signals

/-- `request_emergency_stop`, or for a request of the protocol. -/
def raiseFlags (requestBound : Bool) : Io Unit := modify fun h =>
  { h with
    emergencyStopRequested := true
    requestBoundEmergencyStop := h.requestBoundEmergencyStop || requestBound
    log := .requested requestBound :: h.log }

def requestEmergencyStop : Sess Unit := do
  let l ← get
  if l.session.hasLoop then EV3SupervisorLoop.io (raiseFlags false) else return ()

def requestShutdown : Sess Unit := do
  requestEmergencyStop
  session fun s => { s with shutdown := true }

/-- `fail_transport`; the first failure is the one that is kept. -/
def failTransport (code : String) : Sess Unit := do
  session fun s => { s with transportFailure := some (s.transportFailure.getD code) }
  requestShutdown

-- The reader

def targetsStop (c : SessionConfig) (request : SupervisorRequest) : Bool :=
  request.operation.isStop && decide (request.controllerId = c.controllerId)

def requestQueueFull : Sess Bool := do
  failTransport "request_queue_full"
  return false

def enqueueNormal (item : InboundItem) : Sess Bool := do
  let l ← get
  if l.session.normalQueue.length < normalQueueSize then do
    session fun s => { s with normalQueue := s.normalQueue ++ [item] }
    return true
  else requestQueueFull

/-- The stop flag of the loop, or of the loop to come. -/
def requestBoundStop : Sess Unit := do
  let l ← get
  if l.session.hasLoop then EV3SupervisorLoop.io (raiseFlags true)
  else session fun s => { s with pendingRequestBoundStop := true }

def enqueueUrgent (item : InboundItem) : Sess Bool := do
  let l ← get
  if l.session.urgentQueue.length < urgentQueueSize then do
    session fun s => { s with urgentQueue := s.urgentQueue ++ [item] }
    requestBoundStop
    return true
  else requestQueueFull

def enqueueProtocolError (error : RequestError) : Sess Bool := enqueueNormal (.error error)

def duplicateRequest (requestId : String) : RequestError where
  code := "duplicate_request_id"
  message := "request_id has already been received"
  requestId := some requestId

def requestBudgetExhausted : Sess Bool := do
  failTransport "request_budget_exhausted"
  return false

def enqueueNew (c : SessionConfig) (request : SupervisorRequest) : Sess Bool := do
  session fun s => { s with seenRequestIds := request.requestId :: s.seenRequestIds }
  if targetsStop c request then enqueueUrgent (.request request) else enqueueNormal (.request request)

def enqueueRequest (c : SessionConfig) (request : SupervisorRequest) : Sess Bool := do
  session fun s => { s with requestCount := s.requestCount + 1 }
  let l ← get
  if l.session.requestCount > c.maxProcessRequests then requestBudgetExhausted
  else if request.requestId ∈ l.session.seenRequestIds then enqueueProtocolError (duplicateRequest request.requestId)
  else enqueueNew c request

-- The dispatch thread

/-- `_dispatch_one`, under the lock: the urgent queue goes first. -/
def takeItem : Sess (Option InboundItem) := do
  let l ← get
  match l.session.urgentQueue, l.session.normalQueue with
  | item :: rest, _ => do
    session fun s => { s with urgentQueue := rest, taken := s.taken + 1 }
    return some item
  | [], item :: rest => do
    session fun s => { s with normalQueue := rest, taken := s.taken + 1 }
    return some item
  | [], [] => return none

/-- The proof of a stop that was made already, for a stop of this controller. -/
def preverifiedStopStatus (c : SessionConfig) : InboundItem → Sess (Option SupervisorStatus)
  | .error _ => return none
  | .request request => do
    let l ← get
    if l.session.hasLoop = true ∧ targetsStop c request = true then
      EV3SupervisorLoop.takePreverifiedStopStatus c.toSupervisorConfig
    else return none

/-- `_motion_start_cancelled`; other threads may set any of the flags. -/
def motionStartCancelled (s : ForegroundSupervisorSession) (external : Cancellation) : Cancellation where
  requested := do
    let stopped ← external.requested
    let hw ← get
    return s.shutdown || stopped || (s.hasLoop && hw.emergencyStopRequested)
  reads := .bind external.reads fun _ => .bind .get fun _ => .pure _

def executeRequest (c : SessionConfig) (external : Cancellation) (request : SupervisorRequest) : Sess Frame := do
  let now ← EV3SupervisorLoop.onSupervisor EV3Supervisor.nowMs
  let l ← get
  return .response (← onProtocol
    (SupervisorProtocol.execute c.toProtocolConfig request (some now) (some (motionStartCancelled l.session external))))

/-- `error_response(controller_id, item.error)`. -/
def refusal (c : SessionConfig) (error : RequestError) : Frame :=
  .refusal error.requestId c.controllerId error.code (safeDetail error.message)

def answerItem (c : SessionConfig) (external : Cancellation) (item : InboundItem) : Sess Frame := do
  let proof ← preverifiedStopStatus c item
  match item, proof with
  | .error error, _ => return refusal c error
  | .request request, some status =>
    return .response (SupervisorProtocol.successResponse c.toProtocolConfig request (.status status))
  | .request request, none => executeRequest c external request

/-- The frames that may go out in the place of a success. -/
def alternates (c : SessionConfig) : InboundItem → List Frame
  | .error _ => []
  | .request request =>
    ["external_stop_requested", "poll_deadline_missed", "stop_not_confirmed"].filterMap fun code =>
      (SupervisorProtocol.alternate c.toProtocolConfig request { kind := .value, code := some code, message := "" }).map Frame.response

def wiresReady (c : SessionConfig) (item : InboundItem) (frame : Frame) : Bool :=
  c.encodes frame && (!frame.ok || (alternates c item).all c.encodes)

/-- `_dispatch_one` after the lock: the frame to publish. -/
def respond (c : SessionConfig) (external : Cancellation) (item : InboundItem) : Sess (Option Frame) := do
  let frame ← answerItem c external item
  if wiresReady c item frame then return some frame
  else do
    failTransport "response_queue_failed"
    return none

/-- The closure `publish` of one dispatch. -/
structure Publication where
  number : Nat
  item : InboundItem
  frame : Frame

/-- The frame that goes out, if the error has one. -/
def Publication.selected (c : SessionConfig) (p : Publication) (error : Option PyError) : Option Frame :=
  match p.item, p.frame with
  | .request request, .response response =>
    (SupervisorProtocol.published c.toProtocolConfig request response error).map Frame.response
  | _, frame => some frame

def enqueueResponseWire (frame : Frame) : Sess Bool := do
  let l ← get
  if l.session.outputQueue.length < outputQueueSize then do
    session fun s => { s with outputQueue := s.outputQueue ++ [frame] }
    return true
  else do
    failTransport "response_queue_failed"
    return false

def Publication.shutdownCompleted (p : Publication) : Bool :=
  match p.item with
  | .request request => decide (request.operation = .shutdown) && p.frame.ok
  | .error _ => false

def alreadyCompleted : PyError :=
  { kind := .other, code := some "response_already_completed", message := "Dispatch response was already completed" }

/-- The end of `publish`: whether the frame was put. -/
def publishFrame (p : Publication) (frame : Frame) : Sess Bool := do
  if ← enqueueResponseWire frame then do
    session fun s => { s with shutdown := s.shutdown || (p.shutdownCompleted && decide (frame = p.frame)) }
    return true
  else return false

/-- `publish`: the frame that was put into the output queue. -/
def publish (c : SessionConfig) (p : Publication) (error : Option PyError) : Sess (Option Frame) := do
  let l ← get
  Prog.failIf (p.number ∈ l.session.completed) alreadyCompleted
  session fun s => { s with completed := p.number :: s.completed }
  match p.selected c error with
  | none => do
    failTransport "response_invalidation_unavailable"
    return none
  | some frame => do
    let put ← publishFrame p frame
    return if put then some frame else none

/-- `run`, up to the loop: a stop that came early is asked for. -/
def startLoop : Sess Unit := do
  let nextTickMs ← EV3SupervisorLoop.onSupervisor EV3SupervisorLoop.firstTick
  modify fun l => { l with nextTickMs := nextTickMs, preverifiedStopStatus := none }
  let l ← get
  session fun s => { s with hasLoop := true, pendingRequestBoundStop := false }
  if l.session.pendingRequestBoundStop then EV3SupervisorLoop.io (raiseFlags true) else return ()

def takeFrame : Sess Unit := session fun s => { s with outputQueue := s.outputQueue.tail }

-- All threads

/-- The session, with what the dispatch thread holds: the item it answers, and
the closures it was given. -/
structure Daemon where
  loop : Session
  dispatching : Option (Nat × InboundItem) := none
  publications : List Publication := []

inductive DaemonStep where
  | enqueueProtocolError (error : RequestError)
  | enqueueRequest (request : SupervisorRequest)
  | failTransport (code : String)
  | requestShutdown
  | startLoop
  | takeItem
  | respond (external : Cancellation)
  | publish (number : Nat) (error : Option PyError)
  | performRequestedEmergencyStop
  | forgetProof
  /-- Anything else the loop has the supervisor do. -/
  | supervise (call : EV3Supervisor.SupervisorCall)
  | takeFrame

inductive DaemonEvent where
  | quiet
  /-- An item was put into its queue. -/
  | arrived (item : InboundItem)
  | dequeued (number : Nat) (item : InboundItem)
  /-- The dispatch of an item ended, with a stop's proof or by executing it. -/
  | answered (number : Nat) (item : InboundItem) (byProof : Bool)
  /-- The loop has the proof of a stop it made. -/
  | proved
  /-- A frame was put into the output queue. -/
  | framed (number : Nat) (item : InboundItem) (frame : Frame)

def arrival (s s' : ForegroundSupervisorSession) : Option InboundItem :=
  if s.urgentQueue.length < s'.urgentQueue.length then s'.urgentQueue.getLast?
  else if s.normalQueue.length < s'.normalQueue.length then s'.normalQueue.getLast?
  else none

def reader (x : Sess Bool) (d : Daemon) : DaemonEvent × Daemon :=
  let l := (x d.loop).2
  (((arrival d.loop.session l.session).map DaemonEvent.arrived).getD .quiet, { d with loop := l })

def quietly (x : Sess α) (d : Daemon) : DaemonEvent × Daemon := (.quiet, { d with loop := (x d.loop).2 })

def answeredByProof (c : SessionConfig) (item : InboundItem) (l : Session) : Bool :=
  match (preverifiedStopStatus c item l).1 with
  | .ok (some _) => true
  | _ => false

def dequeue (d : Daemon) : DaemonEvent × Daemon :=
  match d.dispatching, takeItem d.loop with
  | none, (.ok (some item), l) =>
    (.dequeued d.loop.session.taken item, { d with loop := l, dispatching := some (d.loop.session.taken, item) })
  | _, _ => (.quiet, d)

def answerDispatched (c : SessionConfig) (external : Cancellation) (d : Daemon) : DaemonEvent × Daemon :=
  match d.dispatching with
  | none => (.quiet, d)
  | some (number, item) =>
    let r := respond c external item d.loop
    (.answered number item (answeredByProof c item d.loop),
      { loop := r.2
        dispatching := none
        publications := (r.1.toOption.join.map (Publication.mk number item)).toList ++ d.publications })

def runPublication (c : SessionConfig) (number : Nat) (error : Option PyError) (d : Daemon) : DaemonEvent × Daemon :=
  match d.publications.find? (·.number = number) with
  | none => (.quiet, d)
  | some p =>
    let r := publish c p error d.loop
    ((r.1.toOption.join.map (DaemonEvent.framed p.number p.item)).getD .quiet, { d with loop := r.2 })

/-- Only a stop that is verified ends with this error. -/
def stopped (c : SessionConfig) (d : Daemon) : DaemonEvent × Daemon :=
  let r := EV3SupervisorLoop.performRequestedEmergencyStop c.toSupervisorConfig d.loop
  (if r.1 = .ok (some EV3SupervisorLoop.externalStopError) then .proved else .quiet, { d with loop := r.2 })

def daemon (c : SessionConfig) : Machine Daemon DaemonStep DaemonEvent where
  step d
    | .enqueueProtocolError error => reader (enqueueProtocolError error) d
    | .enqueueRequest request => reader (enqueueRequest c request) d
    | .failTransport code => quietly (failTransport code) d
    | .requestShutdown => quietly requestShutdown d
    | .startLoop => quietly startLoop d
    | .takeItem => dequeue d
    | .respond external => answerDispatched c external d
    | .publish number error => runPublication c number error d
    | .performRequestedEmergencyStop => stopped c d
    | .forgetProof => quietly EV3SupervisorLoop.forgetProof d
    | .supervise call =>
      quietly (EV3SupervisorLoop.onSupervisor (EV3Supervisor.perform c.toSupervisorConfig call)) d
    | .takeFrame => quietly takeFrame d

/-- `ForegroundSupervisorSession(supervisor, protocol, ..)`, before `run`. -/
def Daemon.start (p : SupervisorProtocol) : Daemon where
  loop := {
    supervisor := p.supervisor
    nextTickMs := 0
    session := {
      remainingMotionBudget := p.remainingMotionBudget
      remainingMotionDurationMs := p.remainingMotionDurationMs } }

end ForegroundSupervisorSession

end RobotLlm.Ev3
