import RobotLlm.Lib.Check
import RobotLlm.Navigation.Contract
import RobotLlm.Odometry.VerifiedMotion

/-!
# Observations of the worker

The part of one worker observation that safety rests on, read out of the
untrusted object it came in.
-/

namespace RobotLlm.Odometry

open RobotLlm.Lib

structure MotorObservation where
  role : String
  position : Int
  state : String

structure WorkerBudgets where
  pulseCount : Int
  pulseCountRemaining : Int
  pulseDurationMs : Int
  pulseDurationMsRemaining : Int
  processMsRemaining : Int
  motionFaultLatched : Bool

structure WorkerObservation where
  stateVersion : Int
  observedMonotonicMs : Int
  touchPressed : Bool
  raw : Option Int
  filtered : Option Int
  blocked : Bool
  infraredReason : String
  infraredSampleCount : Int
  motors : List MotorObservation
  lastOutcome : List (String × Json)
  budgets : WorkerBudgets

def integer (name : String) (value : Option Json) (minimum : Int) : Except Fault Int :=
  match value with
  | some (.int n) => if minimum ≤ n then .ok n else refuse ("invalid_" ++ name) (name ++ " is invalid")
  | _ => refuse ("invalid_" ++ name) (name ++ " is invalid")

def text (name : String) (value : Option Json) (maximum : Nat) : Except Fault String :=
  match value with
  | some (.str s) => if Navigation.identifierOk s maximum then .ok s else refuse ("invalid_" ++ name) (name ++ " is invalid")
  | _ => refuse ("invalid_" ++ name) (name ++ " is invalid")

section
variable (F : Type) [PyFloat F]

/-- `touch`: a reading of zero or one, and the flag that says the same. -/
def readTouch : Option Json → Except Fault Bool
  | some (.obj touch) =>
    match Json.toBool? (touch.lookup "pressed") with
    | some pressed =>
      if Json.HasKeys touch ["value0", "pressed"] ∧
          (Json.IsNumber F 0 (touch.lookup "value0") ∨ Json.IsNumber F 1 (touch.lookup "value0")) ∧
          pressed = Json.IsNumber F 1 (touch.lookup "value0") then .ok pressed
      else refuse "invalid_touch_observation" "Touch observation is invalid"
    | none => refuse "invalid_touch_observation" "Touch observation is invalid"
  | _ => refuse "invalid_touch_observation" "Touch observation is invalid"

end

/-- `raw` and `filtered` of the infrared sensor. -/
def readReading (value : Option Json) : Except Fault (Option Int) :=
  match Json.toOpt Json.toInt? value with
  | some reading =>
    if Hazard.ReadingOk reading then .ok reading else refuse "invalid_infrared_reading" "Infrared reading is invalid"
  | none => refuse "invalid_infrared_reading" "Infrared reading is invalid"

/-- The fields of `infrared` and its `blocked` flag. -/
def readInfrared : Option Json → Except Fault (List (String × Json) × Bool)
  | some (.obj infrared) =>
    match Json.toBool? (infrared.lookup "blocked") with
    | some blocked =>
      if Json.HasKeys infrared ["raw", "filtered", "blocked", "reason", "sample_count"] then .ok (infrared, blocked)
      else refuse "invalid_infrared_observation" "Infrared observation is invalid"
    | none => refuse "invalid_infrared_observation" "Infrared observation is invalid"
  | _ => refuse "invalid_infrared_observation" "Infrared observation is invalid"

/-- One turn of the loop over the motors; `roles` are those before it. -/
def readMotor (roles : List String) : Json → Except Fault MotorObservation
  | .obj motor => do
    require (Json.HasKeys motor ["role", "position", "state"]) (.contract "invalid_motor_fields" "Motor fields are invalid")
    let role ← text "motor_role" (motor.lookup "role") 64
    require (role ∉ roles) (.contract "duplicate_motor_role" "Motor roles must be unique")
    match Json.toInt? (motor.lookup "position") with
    | some position =>
      match Json.toStr? (motor.lookup "state") with
      | some state =>
        if state.length ≤ 128 then .ok ⟨role, position, state⟩ else refuse "invalid_motor_state" "Motor state is invalid"
      | none => refuse "invalid_motor_state" "Motor state is invalid"
    | none => refuse "invalid_motor_position" "Motor position is invalid"
  | _ => refuse "invalid_motor_fields" "Motor fields are invalid"

def readMotors (roles : List String) : List Json → Except Fault (List MotorObservation)
  | [] => .ok []
  | item :: items => do
    let motor ← readMotor roles item
    let motors ← readMotors (motor.role :: roles) items
    .ok (motor :: motors)

def budgetKeys : List String :=
  ["pulse_count", "pulse_count_remaining", "pulse_duration_ms", "pulse_duration_ms_remaining", "process_ms_remaining",
    "motion_fault_latched"]

/-- `last_outcome` and `budgets`. -/
def readBudgets (lastOutcome budgets : Option Json) : Except Fault (List (String × Json) × WorkerBudgets) :=
  match lastOutcome, budgets with
  | some (.obj outcome), some (.obj budgets) =>
    match Json.toBool? (budgets.lookup "motion_fault_latched") with
    | some latched => do
      require (Json.HasKeys budgets budgetKeys) (.contract "invalid_worker_budget" "Worker budget is invalid")
      let count ← integer "pulse_count" (budgets.lookup "pulse_count") 0
      let countRemaining ← integer "pulse_count_remaining" (budgets.lookup "pulse_count_remaining") 0
      let duration ← integer "pulse_duration_ms" (budgets.lookup "pulse_duration_ms") 0
      let durationRemaining ← integer "pulse_duration_ms_remaining" (budgets.lookup "pulse_duration_ms_remaining") 0
      let process ← integer "process_ms_remaining" (budgets.lookup "process_ms_remaining") 0
      .ok (outcome, ⟨count, countRemaining, duration, durationRemaining, process, latched⟩)
    | none => refuse "invalid_worker_budget" "Worker budget is invalid"
  | _, _ => refuse "invalid_worker_budget" "Worker budget is invalid"

def observationKeys : List String :=
  ["state_version", "observed_monotonic_ms", "touch", "infrared", "motors", "last_outcome", "budgets"]

def validateObservation (F : Type) [PyFloat F] : Json → Except Fault WorkerObservation
  | .obj value => do
    require (Json.HasKeys value observationKeys)
      (.contract "invalid_observation_fields" "Observation fields did not exactly match the worker contract")
    let stateVersion ← integer "state_version" (value.lookup "state_version") 1
    let observedMonotonicMs ← integer "observation_timestamp" (value.lookup "observed_monotonic_ms") 0
    let touchPressed ← readTouch F (value.lookup "touch")
    let (infrared, blocked) ← readInfrared (value.lookup "infrared")
    let raw ← readReading (infrared.lookup "raw")
    let filtered ← readReading (infrared.lookup "filtered")
    let infraredReason ← text "infrared_reason" (infrared.lookup "reason") 80
    let infraredSampleCount ← integer "infrared_sample_count" (infrared.lookup "sample_count") 0
    match value.lookup "motors" with
    | some (.arr items) => do
      require (1 ≤ items.length ∧ items.length ≤ 8) (.contract "invalid_motor_observation" "Motor observation is invalid")
      let motors ← readMotors [] items
      let (lastOutcome, budgets) ← readBudgets (value.lookup "last_outcome") (value.lookup "budgets")
      .ok { stateVersion, observedMonotonicMs, touchPressed, raw, filtered, blocked, infraredReason, infraredSampleCount,
            motors, lastOutcome, budgets }
    | _ => refuse "invalid_motor_observation" "Motor observation is invalid"
  | _ => refuse "invalid_observation_fields" "Observation fields did not exactly match the worker contract"

end RobotLlm.Odometry
