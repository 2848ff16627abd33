import RobotLlm.Ev3.Protocol
import RobotLlm.Lib.JsonScan

/-!
# Decoding a request frame

A frame of the supervisor's protocol is one line that holds one JSON object.
The decoder looks at the bytes, the text, the envelope and the arguments in
turn, and refuses a frame at the first thing that is wrong with it.
-/

namespace RobotLlm.Ev3

open RobotLlm.Lib

-- Frames and refusals

inductive RawFrame where
  | bytes (raw : ByteArray)
  | text (raw : String)

/-- `ProtocolError`, as the decoder raises it. -/
structure ProtocolError where
  code : String
  message : String
  requestId : Option String := none
  fatal : Bool := false
deriving DecidableEq

/-- What leaves the decoder: a `RecursionError` of `json.loads` is caught nowhere. -/
inductive DecodeError where
  | protocol (error : ProtocolError)
  | recursion
deriving DecidableEq

def fatalError (code message : String) : DecodeError := .protocol { code := code, message := message, fatal := true }

def requestError (requestId : Option String) (code message : String) : DecodeError :=
  .protocol { code := code, message := message, requestId := requestId }

def protocolVersion : Int := 1
def maxFrameBytes : Nat := 4096
def maxTtlMs : Int := 1000

-- The schema

/-- `OPERATIONS`. -/
inductive OperationName where
  | status
  | describe
  | claim
  | heartbeat
  | arm
  | driveTimed
  | drivePulse
  | release
  | stop
  | shutdown
deriving DecidableEq

namespace OperationName

def text : OperationName → String
  | .status => "status"
  | .describe => "describe"
  | .claim => "claim"
  | .heartbeat => "heartbeat"
  | .arm => "arm"
  | .driveTimed => "drive_timed"
  | .drivePulse => "drive_pulse"
  | .release => "release"
  | .stop => "stop"
  | .shutdown => "shutdown"

def operations : List OperationName :=
  [.status, .describe, .claim, .heartbeat, .arm, .driveTimed, .drivePulse, .release, .stop, .shutdown]

def ofText? (text : String) : Option OperationName := operations.find? fun operation => operation.text = text

def argumentFields : OperationName → List String
  | .status | .describe | .stop | .shutdown => []
  | .claim => ["owner_id"]
  | .heartbeat | .arm | .release => ["session_id", "sequence_id"]
  | .driveTimed =>
    ["session_id", "sequence_id", "command_id", "reference_heartbeat_sequence", "left_speed_dps", "right_speed_dps",
      "duration_ms"]
  | .drivePulse => ["session_id", "sequence_id", "command_id", "reference_heartbeat_sequence", "action"]

end OperationName

def commonFields : List String :=
  ["protocol_version", "controller_id", "request_id", "op", "queue_ttl_ms", "args"]

/-- `SupervisorRequest`, with its arguments as the dictionary they came in. -/
structure DecodedRequest where
  controllerId : String
  requestId : String
  operation : OperationName
  queueTtlMs : Int
  arguments : List (String × Json)
  receivedAtMs : Int

-- The text of a frame

/-- `text` without the line ending it may have. -/
def stripLineEnding (text : List Char) : List Char :=
  if text.getLast? = some '\n' then
    if text.dropLast.getLast? = some '\r' then text.dropLast.dropLast else text.dropLast
  else text

def frameText : RawFrame → Except DecodeError String
  | .bytes raw => do
    require (raw.size ≤ maxFrameBytes) (fatalError "frame_too_large" "Request frame exceeds the byte limit")
    match String.fromUTF8? raw with
    | some text => return text
    | none => throw (fatalError "invalid_utf8" "Request frame is not valid UTF-8")
  | .text raw => do
    require (raw.utf8ByteSize ≤ maxFrameBytes) (fatalError "frame_too_large" "Request frame exceeds the byte limit")
    return raw

def decodeText (raw : RawFrame) : Except DecodeError String := do
  let text ← frameText raw
  let line := stripLineEnding text.toList
  require (line ≠ [] ∧ ∀ c ∈ line, c ≠ '\n' ∧ c ≠ '\r' ∧ c ≠ '\x00')
    (fatalError "invalid_frame" "Request frame must contain one JSON object")
  return String.ofList line

/-- `_strict_object`, with the pairs that were taken so far. -/
def strictObject (result : List (String × Json)) : List (String × Json) → Except DecodeError Json
  | [] => .ok (.obj result)
  | (key, value) :: pairs =>
    if key ∈ result.map Prod.fst then
      .error (fatalError "duplicate_json_key" "JSON objects may not contain duplicate keys")
    else strictObject (result ++ [(key, value)]) pairs

def invalidJson : DecodeError := fatalError "invalid_json" "Request frame is not valid JSON"

/-- `json` as the host has it: how it takes a text in, and when the float of a
number is an integer. Neither an empty text nor one with a NUL is JSON. -/
structure JsonHost where
  scan : String → JsonScan .value
  equalsInt : (text : String) → Int → Bool
  rejects : ∀ text, text = "" ∨ '\x00' ∈ text.toList → (scan text).standard? = none

/-- The hooks of `json.loads`; its own `ValueError` is refused as invalid JSON. -/
def decodeHooks : JsonHooks DecodeError where
  objectPairs := strictObject []
  parseConstant := fun _ => .error invalidJson
  valueError := invalidJson
  recursionError := .recursion

-- The envelope and the arguments

def IsIdentifier (value : String) (maximum : Nat) : Prop :=
  value.toList ≠ [] ∧ Navigation.strip value.toList = value.toList ∧ value.toList.length ≤ maximum ∧
    ∀ c ∈ value.toList, c ≠ '\x00' ∧ c ≠ '\n' ∧ c ≠ '\r'

instance : Decidable (IsIdentifier value maximum) := inferInstanceAs (Decidable (_ ∧ _ ∧ _ ∧ _))

def invalidField (requestId : Option String) (name : String) : DecodeError :=
  requestError requestId ("invalid_" ++ name) (name ++ " is invalid")

def identifier (name : String) (value : Json) (maximum : Nat) (requestId : Option String) : Except DecodeError String :=
  match value with
  | .str text => do
    require (IsIdentifier text maximum) (invalidField requestId name)
    return text
  | _ => .error (invalidField requestId name)

def positiveInt (name : String) (value : Json) (maximum : Int) (requestId : Option String) : Except DecodeError Int :=
  match value with
  | .int number => do
    require (0 < number ∧ number ≤ maximum) (invalidField requestId name)
    return number
  | _ => .error (invalidField requestId name)

def exactFields (value : Json) (expected : List String) (context : String) (requestId : Option String) :
    Except DecodeError (List (String × Json)) :=
  match value with
  | .obj fields => do
    require (Json.HasKeys fields expected) (requestError requestId ("invalid_" ++ context ++ "_fields")
      (context ++ " fields do not match the operation schema"))
    return fields
  | _ => .error (requestError requestId ("invalid_" ++ context) (context ++ " must be an object"))

/-- `value[name]`, of a field that is there. -/
def requestItem (fields : List (String × Json)) (name : String) : Json := (fields.lookup name).getD .null

/-- `if name in arguments: check(name, arguments[name])`. -/
def checkArgument (arguments : List (String × Json)) (check : String → Json → Except DecodeError Unit)
    (name : String) : Except DecodeError Unit :=
  match arguments.lookup name with
  | some value => check name value
  | none => .ok ()

def checkIdentifier (requestId : Option String) (name : String) (value : Json) : Except DecodeError Unit := do
  let _ ← identifier name value (if name ≠ "owner_id" then 128 else 64) requestId

def checkAction (requestId : Option String) (name : String) (value : Json) : Except DecodeError Unit := do
  let action ← identifier name value 32 requestId
  require ((drivePulseSpeeds action).isSome)
    (requestError requestId "invalid_action" "action is not an allowed semantic drive pulse")

def checkSequence (requestId : Option String) (name : String) (value : Json) : Except DecodeError Unit := do
  let _ ← positiveInt name value 2147483647 requestId

def checkInteger (requestId : Option String) (name : String) (value : Json) : Except DecodeError Unit :=
  require ((Json.toInt? (some value)).isSome)
    (requestError requestId ("invalid_" ++ name) (name ++ " must be an integer"))

def checkArguments (arguments : List (String × Json)) (requestId : Option String) : Except DecodeError Unit := do
  ["owner_id", "session_id", "command_id"].forM (checkArgument arguments (checkIdentifier requestId))
  checkArgument arguments (checkAction requestId) "action"
  ["sequence_id", "reference_heartbeat_sequence"].forM (checkArgument arguments (checkSequence requestId))
  ["left_speed_dps", "right_speed_dps", "duration_ms"].forM (checkArgument arguments (checkInteger requestId))

/-- The operation that `value` names. -/
def operationOf (value : Json) (requestId : String) : Except DecodeError OperationName :=
  match (Json.toStr? (some value)).bind OperationName.ofText? with
  | some operation => .ok operation
  | none => .error (requestError (some requestId) "unknown_operation" "Operation is not allowed")

/-- `value == PROTOCOL_VERSION`, which compares numbers of every type. -/
def isVersion (host : JsonHost) : Json → Bool
  | .int value => value = protocolVersion
  | .bool value => value.toInt = protocolVersion
  | .float text => host.equalsInt text protocolVersion
  | _ => false

def decodeEnvelope (host : JsonHost) (value : Json) (receivedAtMs : Int) : Except DecodeError DecodedRequest := do
  let fields ← exactFields value commonFields "envelope" none
  let requestId ← identifier "request_id" (requestItem fields "request_id") 128 none
  require (isVersion host (requestItem fields "protocol_version") = true)
    (requestError (some requestId) "unsupported_protocol_version" "Protocol version is not supported")
  let controllerId ← identifier "controller_id" (requestItem fields "controller_id") 128 (some requestId)
  let operation ← operationOf (requestItem fields "op") requestId
  let queueTtlMs ← positiveInt "queue_ttl_ms" (requestItem fields "queue_ttl_ms") maxTtlMs (some requestId)
  let arguments ← exactFields (requestItem fields "args") operation.argumentFields "arguments" (some requestId)
  checkArguments arguments (some requestId)
  return {
    controllerId := controllerId
    requestId := requestId
    operation := operation
    queueTtlMs := queueTtlMs
    arguments := arguments
    receivedAtMs := receivedAtMs }

def decodeRequest (host : JsonHost) (raw : RawFrame) (receivedAtMs : Int) : Except DecodeError DecodedRequest := do
  require (0 ≤ receivedAtMs) (fatalError "invalid_receive_time" "Local receive time is invalid")
  let text ← decodeText raw
  let value ← (host.scan text).load decodeHooks
  decodeEnvelope host value receivedAtMs

-- What the dispatch reads of it

namespace DecodedRequest

def text? (r : DecodedRequest) (name : String) : Option String := Json.toStr? (r.arguments.lookup name)

def number? (r : DecodedRequest) (name : String) : Option Int := Json.toInt? (r.arguments.lookup name)

/-- The operation with its arguments as the dispatch takes them out. -/
def operation? (r : DecodedRequest) : Option Operation :=
  match r.operation with
  | .status => some .status
  | .describe => some .describe
  | .claim => do return .claim (← r.text? "owner_id")
  | .heartbeat => do return .heartbeat (← r.text? "session_id") (← r.number? "sequence_id")
  | .arm => do return .arm (← r.text? "session_id") (← r.number? "sequence_id")
  | .driveTimed => do
    return .driveTimed {
      sessionId := ← r.text? "session_id"
      sequenceId := ← r.number? "sequence_id"
      commandId := ← r.text? "command_id"
      referenceHeartbeatSequence := ← r.number? "reference_heartbeat_sequence"
      leftSpeedDps := ← r.number? "left_speed_dps"
      rightSpeedDps := ← r.number? "right_speed_dps"
      durationMs := ← r.number? "duration_ms" }
  | .drivePulse => do
    return .drivePulse (← r.text? "session_id") (← r.number? "sequence_id") (← r.text? "command_id")
      (← r.number? "reference_heartbeat_sequence") (← r.text? "action")
  | .release => do return .release (← r.text? "session_id") (← r.number? "sequence_id")
  | .stop => some .stop
  | .shutdown => some .shutdown

def request? (r : DecodedRequest) : Option SupervisorRequest := do
  return {
    controllerId := r.controllerId
    requestId := r.requestId
    operation := ← r.operation?
    queueTtlMs := r.queueTtlMs
    receivedAtMs := r.receivedAtMs }

end DecodedRequest

end RobotLlm.Ev3
