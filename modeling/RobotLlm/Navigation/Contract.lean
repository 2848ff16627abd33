import Mathlib.Algebra.Order.Ring.Int
import Mathlib.Data.List.Basic

/-!
# Navigation contracts

The value types of the navigation contract. A type carries the checks of its
`__post_init__`, so a value that fails them cannot be built; where the code
builds a value itself and may fail at it, the checks are a function and the
constructor is `new`. A planner may only propose a semantic next segment;
wheel speeds first appear in `DrivePulse`.
-/

namespace RobotLlm.Navigation

structure NavigationContractError where
  code : String
  message : String
deriving DecidableEq

/-- `2**63 - 1`, the bound of every counter and time of the contract. -/
def counterMax : Int := 2 ^ 63 - 1

-- Field checks

/-- The characters `str.strip` removes. -/
def isSpace (c : Char) : Bool :=
  let n := c.toNat
  (9 ≤ n && n ≤ 13) || (28 ≤ n && n ≤ 32) || n == 0x85 || n == 0xa0 || n == 0x1680 ||
    (0x2000 ≤ n && n ≤ 0x200a) || n == 0x2028 || n == 0x2029 || n == 0x202f || n == 0x205f || n == 0x3000

def strip (cs : List Char) : List Char :=
  ((cs.dropWhile isSpace).reverse.dropWhile isSpace).reverse

def identifierOk (value : String) (maximum : Nat := 128) : Bool :=
  let cs := value.toList
  !cs.isEmpty && strip cs == cs && cs.length ≤ maximum && cs.all fun c => 32 ≤ c.toNat

def identifier (name value : String) (maximum : Nat := 128) : Except NavigationContractError String :=
  if identifierOk value maximum then .ok value else .error ⟨"invalid_identifier", name ++ " is invalid"⟩

def integer (name : String) (value minimum maximum : Int) : Except NavigationContractError Int :=
  if minimum ≤ value ∧ value ≤ maximum then .ok value
  else .error ⟨"invalid_integer", name ++ " is invalid"⟩

abbrev Between (value minimum maximum : Int) : Prop := minimum ≤ value ∧ value ≤ maximum

theorem integer_ok (h : integer name value minimum maximum = .ok v) :
    v = value ∧ Between value minimum maximum := by
  unfold integer at h
  split at h
  · cases h; exact ⟨rfl, ‹_›⟩
  · cases h

@[simp] theorem integer_eq_ok (h : Between value minimum maximum) :
    integer name value minimum maximum = .ok value := by
  simp [integer, h]

theorem between_one_counterMax : Between 1 1 counterMax := by decide

theorem between_origin : Between 0 (-1000000) 1000000 := by decide

-- Goals and proposals

structure WaypointGoal where
  goalId : String
  goalEpoch : Int
  planRevision : Int
  targetXMm : Int
  targetYMm : Int
  toleranceMm : Int := 35
  goalIdOk : identifierOk goalId := by decide
  goalEpochOk : Between goalEpoch 1 counterMax := by decide
  planRevisionOk : Between planRevision 1 counterMax := by decide
  targetXOk : Between targetXMm (-1000000) 1000000 := by decide
  targetYOk : Between targetYMm (-1000000) 1000000 := by decide
  toleranceOk : Between toleranceMm 1 10000 := by decide
deriving DecidableEq

/-- Reverse is absent: there is no rear-clearance evidence. -/
structure AdvanceSegment where
  distanceMm : Int
  speedMmS : Int
  distanceOk : Between distanceMm 1 10000 := by decide
  speedOk : Between speedMmS 1 2000 := by decide
deriving DecidableEq

structure TurnSegment where
  angleMdeg : Int
  angularSpeedMdegS : Int
  angleOk : Between angleMdeg (-360000) 360000 := by decide
  angleNonzero : angleMdeg ≠ 0 := by decide
  angularSpeedOk : Between angularSpeedMdegS 1 720000 := by decide
deriving DecidableEq

inductive NavigationSegment where
  | advance (segment : AdvanceSegment)
  | turn (segment : TurnSegment)
deriving DecidableEq

structure ReasonCode (maximum : Nat) where
  text : String
  ok : identifierOk text maximum := by decide
deriving DecidableEq

/-- `decision` with the one payload its branch of `__post_init__` admits: a
segment for NEXT_SEGMENT, a reason code for HOLD and ABORT. -/
inductive PlannerDecision where
  | nextSegment (segment : NavigationSegment)
  | hold (reasonCode : ReasonCode 64)
  | abort (reasonCode : ReasonCode 64)
deriving DecidableEq

structure PlannerProposal where
  proposalId : String
  goalId : String
  goalEpoch : Int
  planRevision : Int
  basedOnStateVersion : Int
  basedOnWorldModelVersion : Int
  decision : PlannerDecision
  confidenceMilli : Int
  proposalIdOk : identifierOk proposalId := by decide
  goalIdOk : identifierOk goalId := by decide
  goalEpochOk : Between goalEpoch 1 counterMax := by decide
  planRevisionOk : Between planRevision 1 counterMax := by decide
  stateVersionOk : Between basedOnStateVersion 1 counterMax := by decide
  worldModelVersionOk : Between basedOnWorldModelVersion 1 counterMax := by decide
  confidenceOk : Between confidenceMilli 0 1000 := by decide
deriving DecidableEq

/-- What a proposal asks for, without who asks and when. -/
def PlannerProposal.semanticKey (p : PlannerProposal) : PlannerDecision := p.decision

/-- A proposal under the authority, source, receive time and time to live the
host gave it. -/
structure StampedProposal where
  proposal : PlannerProposal
  sourceId : String
  sourceSequence : Int
  receivedAtMs : Int
  validUntilMs : Int
  authorityRank : Int
  priority : Int
  sourceIdOk : identifierOk sourceId := by decide
  sourceSequenceOk : Between sourceSequence 1 counterMax := by decide
  receivedAtOk : Between receivedAtMs 0 counterMax := by decide
  validUntilOk : Between validUntilMs (receivedAtMs + 1) counterMax := by decide
  authorityRankOk : Between authorityRank 0 10000 := by decide
  priorityOk : Between priority 0 10000 := by decide
deriving DecidableEq

-- Calibration

inductive CalibrationStatus where
  | simulationOnly
  | provisional
  | physicalVerified
deriving DecidableEq

structure DriveCalibrationProfile where
  calibrationId : String
  status : CalibrationStatus
  surface : String
  leftMotorSign : Int
  rightMotorSign : Int
  encoderMdegPerMm : Option Int
  encoderMdegPerBodyDegree : Option Int
  maxWheelSpeedDps : Int
  maxPulseMs : Int
  physicalStopLatencyVerified : Bool := false
  calibrationIdOk : identifierOk calibrationId := by decide
  surfaceOk : identifierOk surface := by decide
  leftMotorSignOk : leftMotorSign = -1 ∨ leftMotorSign = 1 := by decide
  rightMotorSignOk : rightMotorSign = -1 ∨ rightMotorSign = 1 := by decide
  perMmOk : ∀ v ∈ encoderMdegPerMm, Between v 1 1000000 := by decide
  perBodyDegreeOk : ∀ v ∈ encoderMdegPerBodyDegree, Between v 1 10000000 := by decide
  maxWheelSpeedOk : Between maxWheelSpeedDps 1 100000 := by decide
  maxPulseOk : Between maxPulseMs 1 5000 := by decide

/-- `require_complete_geometry`: linear and turn calibration, or an error. -/
def DriveCalibrationProfile.requireCompleteGeometry (p : DriveCalibrationProfile) :
    Except NavigationContractError (Int × Int) :=
  match p.encoderMdegPerMm, p.encoderMdegPerBodyDegree with
  | some mm, some degree => .ok (mm, degree)
  | _, _ => .error ⟨"incomplete_calibration", "Linear and turn calibration are both required"⟩

-- Drive pulses

inductive PulseKind where
  | drive
  | stop
deriving DecidableEq

structure DrivePulse where
  decisionId : String
  arbiterId : String
  robotId : String
  controllerInstanceId : String
  goalId : String
  goalEpoch : Int
  planRevision : Int
  basedOnStateVersion : Int
  basedOnWorldModelVersion : Int
  kind : PulseKind
  leftSpeedDps : Int
  rightSpeedDps : Int
  durationMs : Int
  reasonCode : String
  proposalId : Option String := none
deriving DecidableEq

def DrivePulse.checkMotion (p : DrivePulse) : Except NavigationContractError Unit :=
  match p.kind with
  | .drive => do
    let _ ← integer "left_speed_dps" p.leftSpeedDps (-100000) 100000
    let _ ← integer "right_speed_dps" p.rightSpeedDps (-100000) 100000
    if p.leftSpeedDps = 0 ∧ p.rightSpeedDps = 0 then
      throw ⟨"zero_drive", "DRIVE must move at least one wheel"⟩
    else
      let _ ← integer "duration_ms" p.durationMs 1 5000
      return ()
  | .stop =>
    if p.leftSpeedDps ≠ 0 ∨ p.rightSpeedDps ≠ 0 ∨ p.durationMs ≠ 0 then
      throw ⟨"invalid_stop", "STOP must have zero wheel speeds and duration"⟩
    else return ()

def optionalIdentifier (name : String) : Option String → Except NavigationContractError Unit
  | none => return ()
  | some value => do
    let _ ← identifier name value
    return ()

def DrivePulse.postInit (p : DrivePulse) : Except NavigationContractError Unit := do
  let _ ← identifier "decision_id" p.decisionId
  let _ ← identifier "arbiter_id" p.arbiterId
  let _ ← identifier "robot_id" p.robotId
  let _ ← identifier "controller_instance_id" p.controllerInstanceId
  let _ ← identifier "goal_id" p.goalId
  let _ ← integer "goal_epoch" p.goalEpoch 1 counterMax
  let _ ← integer "plan_revision" p.planRevision 1 counterMax
  let _ ← integer "based_on_state_version" p.basedOnStateVersion 1 counterMax
  let _ ← integer "based_on_world_model_version" p.basedOnWorldModelVersion 1 counterMax
  let _ ← identifier "reason_code" p.reasonCode 96
  optionalIdentifier "proposal_id" p.proposalId
  p.checkMotion

theorem bind_eq_ok {x : Except ε α} {f : α → Except ε β} : (x >>= f) = .ok b ↔ ∃ a, x = .ok a ∧ f a = .ok b := by
  cases x with
  | error e => exact ⟨nofun, nofun⟩
  | ok a => exact ⟨fun h => ⟨a, rfl, h⟩, fun ⟨_, h, hf⟩ => by cases h; exact hf⟩

theorem DrivePulse.postInit_motion {p : DrivePulse} (h : p.postInit = .ok ()) : p.checkMotion = .ok () := by
  simp only [DrivePulse.postInit, bind_eq_ok] at h
  obtain ⟨_, -, _, -, _, -, _, -, _, -, _, -, _, -, _, -, _, -, _, -, _, -, h⟩ := h
  exact h

theorem DrivePulse.duration_ok {p : DrivePulse} (h : p.postInit = .ok ()) (hk : p.kind = .drive) :
    Between p.durationMs 1 5000 := by
  have h := DrivePulse.postInit_motion h
  simp only [DrivePulse.checkMotion, hk, bind_eq_ok] at h
  obtain ⟨_, -, _, -, h⟩ := h
  split at h
  · cases h
  · obtain ⟨_, h, -⟩ := bind_eq_ok.mp h
    exact (integer_ok h).2

def DrivePulse.new (p : DrivePulse) : Except NavigationContractError DrivePulse := do
  p.postInit
  return p

theorem DrivePulse.new_ok (h : DrivePulse.new p = .ok p') : p' = p ∧ p.postInit = .ok () := by
  unfold DrivePulse.new at h
  cases hp : p.postInit with
  | error e => rw [hp] at h; cases h
  | ok u => rw [hp] at h; cases h; exact ⟨rfl, rfl⟩

end RobotLlm.Navigation
