import Mathlib.Data.List.Dedup
import RobotLlm.Ev3.Hal
import RobotLlm.Lib.Dict

/-!
# The emergency stop

Stop every motor that can be found, read back until all of them rest, and only
then look at what they are. Whatever a call raises is remembered and the stop
goes on; an interrupt is raised at the end. The calls are not in the code: they
are kept for the laws.
-/

namespace RobotLlm.Ev3.EmergencyStop

open RobotLlm.Lib

inductive Raised where
  /-- An `Exception`. -/
  | exception (text : String)
  /-- A `BaseException` that is none. -/
  | interrupt (text : String)
deriving DecidableEq

def Raised.text : Raised → String
  | .exception text | .interrupt text => text

def Raised.isInterrupt : Raised → Bool
  | .exception _ => false
  | .interrupt _ => true

-- What the calls return

/-- What stands in a listing: a path, or a value that no file name can be
joined to. -/
inductive Item where
  | path (text : String)
  | other (value : Nat)
deriving DecidableEq

def Item.text : Item → String
  | .path text => text
  | .other value => toString value

/-- `os.path.join`, the file name apart. -/
def Item.join : Item → Except Raised String
  | .path text => .ok text
  | .other _ => .error (.exception "expected str, bytes or os.PathLike object")

/-- `<` of two items; a text and another value have no order. -/
def Item.before : Item → Item → Bool
  | .path a, .path b => decide (a ≤ b)
  | .other a, .other b => decide (a ≤ b)
  | _, _ => false

def Item.isPath : Item → Bool
  | .path _ => true
  | .other _ => false

inductive Listing where
  | items (items : List Item)
  /-- No `set` can be made of it. -/
  | notIterable

/-- `sorted(set(listing))`. -/
def sortedSet : Listing → Except Raised (List Item)
  | .notIterable => .error (.exception "object is not iterable")
  | .items items =>
    if items.any Item.isPath && items.any (!·.isPath) then .error (.exception "'<' not supported")
    else .ok (items.dedup.insertionSort fun a b => a.before b = true)

/-- What a read returns. The words of a text of bytes are no text. -/
inductive Value where
  | str (text : String)
  | bytes (text : String)
  | other (value : Nat)
deriving DecidableEq

def unknownTokens : Raised := .exception "unknown state token(s)"

def knownToken (word : String) : Except Raised MotorToken :=
  match MotorToken.ofString word with
  | some token => .ok token
  | none => .error unknownTokens

/-- `frozenset(raw_state.split())`, if all of it is known. -/
def Value.tokens : Value → Except Raised (List MotorToken)
  | .str text => (words text).mapM knownToken
  | .bytes text => if words text = [] then .ok [] else .error unknownTokens
  | .other _ => .error (.exception "object has no attribute 'split'")

/-- `address.rsplit(":", 1)[-1]`. -/
def Value.port : Value → Except Raised String
  | .str text => .ok (String.ofList (text.toList.reverse.takeWhile (· ≠ ':')).reverse)
  | .bytes _ => .error (.exception "a bytes-like object is required, not 'str'")
  | .other _ => .error (.exception "object has no attribute 'rsplit'")

inductive StopFile where
  | stopAction
  | command
deriving DecidableEq

def StopFile.label : StopFile → String
  | .stopAction => "stop_action"
  | .command => "stop"

/-- What every call of one run answers. A run makes each call once, so the
place of a call in the run says which answer is meant; the number is that of
the round. -/
structure World where
  glob : Except Raised Listing
  write : Nat → String → StopFile → Except Raised Unit
  state : Nat → String → Except Raised Value
  /-- `int(...)` of what the read returns. -/
  position : Nat → String → Except Raised Int
  /-- `sleep_fn(poll_ms / 1000.0)` after the round. -/
  sleep : Nat → Except Raised Unit
  address : String → Except Raised Value
  driver : String → Except Raised Value

-- The attempt

def minStopStableWindowMs : Nat := 50

def minStopStableIntervals : Nat := 3

/-- A setting of the polling: an integer that is no boolean, or something else. -/
inductive Setting where
  | int (value : Int)
  | other
deriving DecidableEq

structure ExpectedMotor where
  role : String
  driver : String

structure StopRequest where
  expectedMotors : Option (Dict String ExpectedMotor)
  timeoutMs : Setting
  pollMs : Setting
  configurationError : Option String

structure Record where
  address : Option Value := none
  port : Option String := none
  driver : Option Value := none
  state : Option Value := none
  position : Option Int := none
  inactive : Bool := false
  stable : Bool := false
deriving DecidableEq

/-- The two writes to one motor in one round, with what they raised. -/
structure WriteAttempt where
  attempt : Nat
  path : Item
  stopActionError : Option String
  stopCommandError : Option String
deriving DecidableEq

structure EmergencyStopAttempt where
  operationalErrors : List String := []
  topologyErrors : List String := []
  attempts : List WriteAttempt := []
  deferredInterrupt : Option Raised := none
  paths : List Item := []
  records : Dict Item Record := .empty
  discoveredPorts : Dict String Item := .empty
  inactiveAndStable : Bool := false
  finalFaultTokens : Dict Item (List MotorToken) := .empty
  maximumAttempts : Nat := 2
  requiredStableIntervals : Nat := minStopStableIntervals
  stableIntervals : Nat := 0
  /-- The writes that were called, newest last: round, path and file. -/
  writes : List (Nat × String × StopFile) := []
  /-- The rounds begun. -/
  rounds : Nat := 0

abbrev Att := Prog EmergencyStopAttempt Raised

def appendOnce (items : List String) (value : String) : List String :=
  if value ∈ items then items else items ++ [value]

namespace EmergencyStopAttempt

def rememberInterrupt (s : EmergencyStopAttempt) (error : Raised) : EmergencyStopAttempt :=
  if error.isInterrupt = true ∧ s.deferredInterrupt = none then { s with deferredInterrupt := some error } else s

/-- `_operational_error` without an exception. -/
def operationalNote (s : EmergencyStopAttempt) (detail : String) : EmergencyStopAttempt :=
  { s with operationalErrors := appendOnce s.operationalErrors detail }

def operationalError (s : EmergencyStopAttempt) (detail : String) (error : Raised) : EmergencyStopAttempt :=
  (s.operationalNote detail).rememberInterrupt error

/-- `_topology_error` without an exception. -/
def topologyNote (s : EmergencyStopAttempt) (detail : String) : EmergencyStopAttempt :=
  { s with topologyErrors := appendOnce s.topologyErrors detail }

def topologyError (s : EmergencyStopAttempt) (detail : String) (error : Raised) : EmergencyStopAttempt :=
  (s.topologyNote detail).rememberInterrupt error

end EmergencyStopAttempt

/-- `d[k]`, or `KeyError`. -/
def lookup [DecidableEq κ] (d : Dict κ α) (k : κ) : Except Raised α :=
  match d.get? k with
  | some v => .ok v
  | none => .error (.exception "KeyError")

-- Settings

/-- `_valid_positive_int`, with the value. -/
def Setting.positive? : Setting → Option Nat
  | .int value => if 0 < value then some value.toNat else none
  | .other => none

def attemptsFor (timeout poll : Nat) : Nat := max 2 (timeout / poll + 1)

def stableIntervalsFor (poll : Nat) : Nat :=
  max minStopStableIntervals ((minStopStableWindowMs + poll - 1) / poll)

def checkTimeout (r : StopRequest) (s : EmergencyStopAttempt) : EmergencyStopAttempt :=
  if r.timeoutMs.positive? = none then s.operationalNote "stop verification timeout must be a positive integer" else s

def checkPoll (r : StopRequest) (s : EmergencyStopAttempt) : EmergencyStopAttempt :=
  if r.pollMs.positive? = none then s.operationalNote "stop verification poll interval must be a positive integer" else s

def setTiming (r : StopRequest) (s : EmergencyStopAttempt) : EmergencyStopAttempt :=
  match r.timeoutMs.positive?, r.pollMs.positive? with
  | some timeout, some poll =>
    if poll > timeout then s.operationalNote "stop verification poll interval exceeds timeout"
    else
      { s with
        maximumAttempts := attemptsFor timeout poll
        requiredStableIntervals := stableIntervalsFor poll }
  | _, _ => s

def checkConfiguration (r : StopRequest) (s : EmergencyStopAttempt) : EmergencyStopAttempt :=
  match r.configurationError with
  | some error => s.topologyNote ("configuration: " ++ error)
  | none => if r.expectedMotors.isNone then s.topologyNote "Expected motor topology is unavailable" else s

def validatePollSettings (r : StopRequest) (s : EmergencyStopAttempt) : EmergencyStopAttempt :=
  checkConfiguration r (setTiming r (checkPoll r (checkTimeout r s)))

def World.discovered (w : World) : Except Raised (List Item) := w.glob >>= sortedSet

def discover (w : World) (s : EmergencyStopAttempt) : EmergencyStopAttempt :=
  match w.discovered with
  | .ok paths => { s with paths := paths }
  | .error e => { s with paths := [] }.operationalError ("discover: " ++ e.text) e

-- One round

variable (w : World)

def writeStop (number : Nat) (path : Item) (file : StopFile) : Att (Option String) :=
  tryCatch (do
    let text ← Prog.ofExcept path.join
    modify fun s => { s with writes := s.writes ++ [(number, text, file)] }
    Prog.ofExcept (w.write number text file)
    return none) fun e => do
      modify (·.operationalError s!"{path.text} {file.label}: {e.text}" e)
      return some e.text

def writeStopCommand (number : Nat) (path : Item) : Att Unit := do
  let actionError ← writeStop w number path .stopAction
  let commandError ← writeStop w number path .command
  modify fun s => { s with attempts := s.attempts ++ [⟨number, path, actionError, commandError⟩] }

def writeStopCommands (number : Nat) : List Item → Att Unit
  | [] => return ()
  | path :: paths => do
    writeStopCommand w number path
    writeStopCommands number paths

def recordForPath (path : Item) (s : EmergencyStopAttempt) : EmergencyStopAttempt :=
  match s.records.get? path with
  | some _ => s
  | none => { s with records := s.records.set path {} }

structure Reading where
  rawState : Value
  tokens : List MotorToken
  position : Int

def Reading.active (r : Reading) : Bool := r.tokens.any MotorToken.Active

def Reading.faults (r : Reading) : List MotorToken := r.tokens.filter MotorToken.Fault

def Reading.inactive (r : Reading) : Bool := !r.active && r.faults.isEmpty

def World.reading (number : Nat) (path : Item) : Except Raised Reading := do
  let text ← path.join
  let rawState ← w.state number text
  let tokens ← rawState.tokens
  return ⟨rawState, tokens, ← w.position number text⟩

/-- `positions`, `read_succeeded` and `active_paths`. -/
structure Snapshot where
  readSucceeded : Bool := true
  positions : Dict Item Int := .empty
  activePaths : List Item := []

def Snapshot.add (n : Snapshot) (path : Item) (r : Reading) : Snapshot :=
  { n with
    positions := n.positions.set path r.position
    activePaths := if r.active then n.activePaths ++ [path] else n.activePaths }

def EmergencyStopAttempt.addReading (s : EmergencyStopAttempt) (path : Item) (record : Record) (r : Reading) :
    EmergencyStopAttempt :=
  { s with
    records := s.records.set path
      { record with state := some r.rawState, position := some r.position, inactive := r.inactive }
    finalFaultTokens := if r.faults = [] then s.finalFaultTokens else s.finalFaultTokens.set path r.faults }

def snapshotMotor (number : Nat) (n : Snapshot) (path : Item) : Att Snapshot := do
  modify (recordForPath path)
  let record ← Prog.ofExcept (lookup (← get).records path)
  match w.reading number path with
  | .ok r => do
    modify (·.addReading path record r)
    return n.add path r
  | .error e => do
    modify (·.operationalError s!"{path.text} verification: {e.text}" e)
    return { n with readSucceeded := false }

def snapshotFrom (number : Nat) : List Item → Snapshot → Att Snapshot
  | [], n => return n
  | path :: paths, n => do
    let n ← snapshotMotor w number n path
    snapshotFrom number paths n

def snapshot (number : Nat) : Att Snapshot := do
  modify fun s => { s with finalFaultTokens := .empty }
  snapshotFrom w number (← get).paths {}

-- Polling

structure Previous where
  positions : Option (Dict Item Int) := none
  inactive : Bool := false

def markStable (stable : Bool) (n : Snapshot) : List Item → Att Unit
  | [] => return ()
  | path :: paths => do
    let record ← Prog.ofExcept (lookup (← get).records path)
    modify fun s => { s with records := s.records.set path { record with stable := stable && path ∈ n.positions.keys } }
    markStable stable n paths

def Snapshot.currentlyInactive (n : Snapshot) (s : EmergencyStopAttempt) : Bool :=
  n.readSucceeded && n.activePaths.isEmpty && s.finalFaultTokens.entries.isEmpty

/-- The positions of one run come in one order, so that equal dictionaries
have equal entries. -/
def Snapshot.unchanged (n : Snapshot) (previous : Previous) : Bool :=
  previous.inactive && previous.positions.any fun positions => positions.entries = n.positions.entries

def Previous.next (previous : Previous) (n : Snapshot) (currentlyInactive : Bool) : Previous :=
  if n.readSucceeded then { positions := some n.positions, inactive := currentlyInactive }
  else { previous with inactive := false }

/-- One round up to the decision; whether the motors rest, and what the next
round has to know. -/
def pollRound (number : Nat) (previous : Previous) : Att (Bool × Previous) := do
  modify fun s => { s with rounds := number }
  writeStopCommands w number (← get).paths
  let n ← snapshot w number
  let s ← get
  let currentlyInactive := n.currentlyInactive s
  let stableIntervals := if currentlyInactive && n.unchanged previous then s.stableIntervals + 1 else 0
  let stablePositions := decide (s.requiredStableIntervals ≤ stableIntervals)
  modify fun s => { s with stableIntervals := stableIntervals }
  markStable stablePositions n s.paths
  return (currentlyInactive && stablePositions, previous.next n currentlyInactive)

/-- The rounds that are left, from the one with this number on. -/
def pollFrom : Nat → Nat → Previous → Att Unit
  | 0, _, _ => return ()
  | left + 1, number, previous => do
    let (stable, previous) ← pollRound w number previous
    if stable then modify fun s => { s with inactiveAndStable := true }
    else if left = 0 then return ()
    else
      match w.sleep number with
      | .ok () => pollFrom left (number + 1) previous
      | .error e => modify (·.operationalError ("stop verification sleep: " ++ e.text) e)

def pollUntilStable : Att Unit := do
  pollFrom w (← get).maximumAttempts 1 {}

-- Identity and topology

def updateRecord (path : Item) (f : Record → Record) (s : EmergencyStopAttempt) : EmergencyStopAttempt :=
  match s.records.get? path with
  | some record => { s with records := s.records.set path (f record) }
  | none => s

def World.readAddress (path : Item) : Except Raised Value := path.join >>= w.address

def World.readDriver (path : Item) : Except Raised Value := path.join >>= w.driver

def discoverPort (path : Item) (port : String) (s : EmergencyStopAttempt) : EmergencyStopAttempt :=
  let s := updateRecord path (fun record => { record with port := some port }) s
  let s :=
    match s.discoveredPorts.get? port with
    | some other => s.topologyNote s!"Duplicate discovered motor port {port} at {other.text} and {path.text}"
    | none => s
  { s with discoveredPorts := s.discoveredPorts.set port path }

def readPort (path : Item) (s : EmergencyStopAttempt) : EmergencyStopAttempt :=
  match w.readAddress path with
  | .error e => s.topologyError s!"{path.text} address: {e.text}" e
  | .ok address =>
    let s := updateRecord path (fun record => { record with address := some address }) s
    match address.port with
    | .error e => s.topologyError s!"{path.text} address: {e.text}" e
    | .ok port => discoverPort path port s

def readDriver (path : Item) (s : EmergencyStopAttempt) : EmergencyStopAttempt :=
  match w.readDriver path with
  | .error e => s.topologyError s!"{path.text} driver: {e.text}" e
  | .ok driver => updateRecord path (fun record => { record with driver := some driver }) s

/-- `_read_identity`, which raises nothing. -/
def readIdentity (s : EmergencyStopAttempt) (path : Item) : EmergencyStopAttempt :=
  readDriver w path (readPort w path (recordForPath path s))

def driverText : Option Value → String
  | some (.str text) | some (.bytes text) => text
  | some (.other value) => toString value
  | none => "None"

def checkExpected (port : String) (expected : ExpectedMotor) : Att Unit := do
  let s ← get
  match s.discoveredPorts.get? port with
  | none => modify (·.topologyNote s!"Configured motor {expected.role} on {port} was not discovered")
  | some path => do
    let record ← Prog.ofExcept (lookup s.records path)
    if record.driver = some (.str expected.driver) then return ()
    else
      modify (·.topologyNote
        s!"Motor {expected.role} on {port} expected driver {expected.driver} but found {driverText record.driver}")

def checkAllExpected : List (String × ExpectedMotor) → Att Unit
  | [] => return ()
  | (port, expected) :: rest => do
    checkExpected port expected
    checkAllExpected rest

def noteUnconfigured (s : EmergencyStopAttempt) (port : String) : EmergencyStopAttempt :=
  s.topologyNote s!"Unconfigured tacho motor was discovered on {port}"

def sortedPorts (ports : List String) : List String := ports.insertionSort (· ≤ ·)

def sortedMotors (motors : List (String × ExpectedMotor)) : List (String × ExpectedMotor) :=
  motors.insertionSort fun a b => a.1 ≤ b.1

def inspectTopology (r : StopRequest) : Att Unit := do
  modify fun s => s.paths.foldl (readIdentity w) s
  match r.expectedMotors with
  | none => return ()
  | some expected => do
    checkAllExpected (sortedMotors expected.entries)
    modify fun s => (sortedPorts (s.discoveredPorts.keys.filter (· ∉ expected.keys))).foldl noteUnconfigured s

-- The verdict

structure StopVerification where
  status : String
  configurationValid : Bool
  hardwareStopVerified : Bool
  stopConfirmed : Bool
  motorCount : Nat
  addresses : List Value
  motors : List Record
  stopAttempts : List WriteAttempt
  requiredStableIntervals : Nat
  observedStableIntervals : Nat
  faultTokens : Dict Item (List MotorToken)
  errors : List String

def noteUnverified (s : EmergencyStopAttempt) : EmergencyStopAttempt :=
  if s.paths = [] then s.operationalNote "No tacho motors were discovered"
  else if s.inactiveAndStable = false then s.operationalNote "Motor stop was not verified before deadline"
  else s

def EmergencyStopAttempt.hardwareStopVerified (s : EmergencyStopAttempt) : Bool :=
  s.inactiveAndStable && s.operationalErrors.isEmpty

def EmergencyStopAttempt.stopConfirmed (r : StopRequest) (s : EmergencyStopAttempt) : Bool :=
  r.expectedMotors.isSome && s.hardwareStopVerified && s.topologyErrors.isEmpty

def result (r : StopRequest) : Att StopVerification := do
  modify noteUnverified
  let s ← get
  let motors ← Prog.ofExcept (s.paths.mapM (lookup s.records))
  return {
    status := if s.stopConfirmed r then "stopped" else "failed"
    configurationValid := r.expectedMotors.isSome
    hardwareStopVerified := s.hardwareStopVerified
    stopConfirmed := s.stopConfirmed r
    motorCount := s.paths.length
    addresses := motors.filterMap Record.address
    motors := motors
    stopAttempts := s.attempts
    requiredStableIntervals := s.requiredStableIntervals
    observedStableIntervals := s.stableIntervals
    faultTokens := s.finalFaultTokens
    errors := s.topologyErrors ++ s.operationalErrors }

/-- Identity and topology are read after the first stop writes, so that slow
descriptive files cannot delay the stop. -/
def run (r : StopRequest) : Att StopVerification := do
  modify (validatePollSettings r)
  modify (discover w)
  pollUntilStable w
  inspectTopology w r
  let verification ← result r
  match (← get).deferredInterrupt with
  | some e => throw e
  | none => return verification

/-- `verified_emergency_stop`, with the attempt it leaves. -/
def verifiedEmergencyStop (r : StopRequest) : Except Raised StopVerification × EmergencyStopAttempt := run w r {}

end RobotLlm.Ev3.EmergencyStop
