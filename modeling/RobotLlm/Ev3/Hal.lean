import Mathlib.Data.List.Sort
import RobotLlm.Lib.Prog
import RobotLlm.Navigation.Contract

/-!
# The robot as the supervisor sees it

Every access to a clock, a file or another device is one question to the
environment, whose answers are a tape: any value or failure at any point. The
other threads act between two questions; all they share with the dispatch
thread is the emergency flag. The log is kept for the laws and read by nothing
in the code.
-/

namespace RobotLlm.Ev3

open RobotLlm.Lib

-- Motor states

inductive MotorToken where
  | running
  | ramping
  | holding
  | stalled
  | overloaded
deriving DecidableEq

/-- `ACTIVE_MOTOR_STATES`. -/
def MotorToken.Active : MotorToken → Bool
  | .running | .ramping | .holding => true
  | .stalled | .overloaded => false

/-- `FAULT_MOTOR_STATES`. -/
def MotorToken.Fault : MotorToken → Bool
  | .stalled | .overloaded => true
  | .running | .ramping | .holding => false

def MotorToken.ofString : String → Option MotorToken
  | "running" => some .running
  | "ramping" => some .ramping
  | "holding" => some .holding
  | "stalled" => some .stalled
  | "overloaded" => some .overloaded
  | _ => none

/-- The whitespace-separated words of a text; `word` is the one being read. -/
def wordsFrom (word : List Char) : List Char → List String
  | [] => if word.isEmpty then [] else [String.ofList word.reverse]
  | c :: cs =>
    if Navigation.isSpace c then
      if word.isEmpty then wordsFrom [] cs else String.ofList word.reverse :: wordsFrom [] cs
    else wordsFrom (c :: word) cs

/-- `str.split()`. -/
def words (text : String) : List String := wordsFrom [] text.toList

-- Results of a stop, and errors

/-- The two writes to one motor in one attempt, with what went wrong. -/
structure StopAttempt where
  attempt : Nat
  path : String
  stopActionError : Option String
  error : Option String
deriving DecidableEq

abbrev FaultTokens := List (String × List MotorToken)

/-- What one `stop_all_verified` returns. -/
structure StopRun where
  stopAttempts : List StopAttempt := []
  stopConfirmed : Bool := false
  states : List (String × String) := []
  positions : List (String × Int) := []
  faultTokens : FaultTokens := []
  errors : List String := []
deriving DecidableEq

/-- A stop result, with the history of the runs it combines. -/
structure StopResult extends StopRun where
  stopHistory : List (String × StopRun) := []
deriving DecidableEq

/-- The classes of exceptions the code tells apart. Interrupts, which are no
`Exception`, are not modelled. -/
inductive ErrorKind where
  | os
  | value
  | runtime
  | other
deriving DecidableEq

structure PyError where
  kind : ErrorKind
  code : Option String := none
  message : String
  /-- The attribute `supervisor_start_cleanup`. -/
  startCleanup : Option StopResult := none
deriving DecidableEq

/-- `SupervisorError`, a `ValueError` with a code. -/
def supervisorError (code message : String) : PyError := { kind := .value, code := some code, message := message }

def safetyError (message : String) : PyError := { kind := .value, message := message }

/-- Caught by `except (IOError, OSError, ValueError)`. -/
def PyError.IsReadError (e : PyError) : Prop := e.kind = .os ∨ e.kind = .value

/-- Caught by `except (IOError, OSError, RuntimeError, ValueError, SupervisorError)`. -/
def PyError.IsPollError (e : PyError) : Prop := e.kind ≠ .other

instance (e : PyError) : Decidable e.IsReadError := inferInstanceAs (Decidable (_ ∨ _))

instance (e : PyError) : Decidable e.IsPollError := inferInstanceAs (Decidable (¬ _))

/-- `getattr(error, "code", default)`. -/
def PyError.codeOr (e : PyError) (default : String) : String := e.code.getD default

def stateTokens (raw : String) : Except PyError (List MotorToken) :=
  (words raw).mapM fun word =>
    match MotorToken.ofString word with
    | some token => .ok token
    | none => .error (supervisorError "invalid_motor_state" ("Motor state contains unknown tokens: " ++ word))

-- The environment

/-- One round of a stop: the writes, and the reading after them. -/
structure StopRound where
  writes : List StopAttempt
  states : List (String × String)
  positions : List (String × Int)
  readErrors : List String
deriving DecidableEq

/-- A whole `stop_all_verified`, as it went. The rounds are newest first. -/
structure StopRecord where
  discovered : Option (List String)
  configured : Option (List String)
  paths : List String
  rounds : List StopRound
deriving DecidableEq

inductive Happening where
  | wrote (path file value : String)
  | stopBegun
  | stopEnded (record : StopRecord)
  /-- The motor owner gave up its lock. -/
  | released
  /-- Another thread asked for an emergency stop. -/
  | requested (bound : Bool)
  /-- From here on, requests are for this dispatch loop. -/
  | loopCreated
  /-- The loop took the request, and stops next. -/
  | taken
  | dispatched
  | completing
  | completed (error : Option PyError)
  /-- The loop has ended and the supervisor is being closed. -/
  | closing
deriving DecidableEq

/-- What the environment says to one question, whichever it is. -/
structure Answer where
  /-- `int(monotonic_fn() * 1000)`. -/
  clock : Except PyError Int := .ok 0
  /-- A write, a sleep, an unlock, a validation. -/
  done : Except PyError Unit := .ok ()
  text : Except PyError String := .ok ""
  number : Except PyError Int := .ok 0
  paths : Except PyError (List String) := .ok []
  /-- A request for an emergency stop made meanwhile, request-bound or not. -/
  request : Option Bool := none

structure Hardware where
  tape : Nat → Answer
  calls : Nat := 0
  /-- The thread that runs. -/
  thread : Nat := 0
  emergencyStopRequested : Bool := false
  requestBoundEmergencyStop : Bool := false
  log : List Happening := []

abbrev Io := Prog Hardware PyError

namespace Hardware

/-- The environment has answered, and other threads have acted. -/
def answered (h : Hardware) : Hardware :=
  match (h.tape h.calls).request with
  | none => { h with calls := h.calls + 1 }
  | some bound =>
    { h with
      calls := h.calls + 1
      emergencyStopRequested := true
      requestBoundEmergencyStop := h.requestBoundEmergencyStop || bound
      log := .requested bound :: h.log }

def note (happening : Happening) : Io Unit := modify fun h => { h with log := happening :: h.log }

def ask (f : Answer → Except PyError α) : Io α := fun h => (f (h.tape h.calls), h.answered)

/-- `int(monotonic_fn() * 1000)`. -/
def nowMs : Io Int := ask Answer.clock

/-- `sleep_fn`. -/
def sleep : Io Unit := ask Answer.done

/-- `write_text(os.path.join(path, file), value)`. -/
def write (path file value : String) : Io Unit := do
  ask Answer.done
  note (.wrote path file value)

def readText : Io String := ask Answer.text

/-- `int(read_text(..))`. -/
def readInt : Io Int := ask Answer.number

def discoveredMotorPaths : Io (List String) := do return (← ask Answer.paths).insertionSort (· ≤ ·)

def motorPathForRole : Io String := ask Answer.text

end Hardware

-- Configuration

/-- `limits.supervisor` with the limits copied into it. -/
structure SupervisorLimits where
  pollIntervalMs : Int
  maxPollLatenessMs : Int
  touchReleaseSamples : Nat
  minAbsDriveSpeedDps : Int
  stallStartupGraceMs : Int
  stallWindowMs : Int
  stallMinProgressDegrees : Int
  stallMinProgressRatioPercent : Int
  minCompletionRatioPercent : Int
  maxStartSkewMs : Int
  stopVerifyTimeoutMs : Nat
  stopPollIntervalMs : Nat
  maxCommandsPerSession : Nat
  heartbeatTimeoutMs : Int
deriving DecidableEq

structure DriveLimit where
  maxAbsSpeedDps : Int
  maxDurationMs : Int
deriving DecidableEq

structure RobotConfig where
  /-- The motor roles, sorted. -/
  motorRoles : List String
  leftMotorRole : String
  rightMotorRole : String
  leftForwardSign : Int
  rightForwardSign : Int
  drive : DriveLimit
  limits : SupervisorLimits
deriving DecidableEq

/-- `round` of a fraction: to the nearest, halves to even. -/
def roundDiv (n d : Int) : Int :=
  let q := n / d
  let r := 2 * (n % d)
  if r < d then q else if r > d then q + 1 else if q % 2 = 0 then q else q + 1

/-- `RobotHAL._validate_motion`, with the drive limit. -/
def validateMotion (limit : DriveLimit) (speedDps durationMs : Int) : Except PyError Unit :=
  if speedDps = 0 then .error (safetyError "Use stop_all instead of zero speed")
  else if speedDps.natAbs > limit.maxAbsSpeedDps then
    .error (safetyError s!"speed_dps {speedDps} exceeds limit {limit.maxAbsSpeedDps}")
  else if durationMs ≤ 0 ∨ durationMs > limit.maxDurationMs then
    .error (safetyError s!"duration_ms {durationMs} is outside 1..{limit.maxDurationMs}")
  else if speedDps.natAbs * durationMs < 3000 then
    .error (safetyError "Requested motion is too small for encoder verification")
  else .ok ()

structure EncoderCheck where
  role : String
  positionDelta : Int
  expectedAbsDelta : Int
  minimumAbsDelta : Int
  directionMatches : Bool
  enoughMotion : Bool
deriving DecidableEq

def EncoderCheck.passed (c : EncoderCheck) : Bool := c.directionMatches && c.enoughMotion

def encoderCheck (role : String) (physicalSpeedDps durationMs before after : Int) : EncoderCheck :=
  let positionDelta := after - before
  { role := role
    positionDelta := positionDelta
    expectedAbsDelta := roundDiv (physicalSpeedDps.natAbs * durationMs) 1000
    minimumAbsDelta := 3
    directionMatches := positionDelta * physicalSpeedDps > 0
    enoughMotion := positionDelta.natAbs ≥ 3 }

end RobotLlm.Ev3
