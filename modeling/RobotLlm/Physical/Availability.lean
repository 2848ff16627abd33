import Mathlib.Order.Basic
import RobotLlm.Odometry.VerifiedMotion

/-!
# The actions that a planner may choose

Before every call of the planner the host takes the actions away that its own
facts rule out. Five gates do so, one after the other.
-/

namespace RobotLlm.Physical

open RobotLlm.Odometry (Action)

/-- `sorted(ACTIONS)`. -/
def allActions : List Action := [.advance, .finish, .observe, .reverse, .scanFrontArc, .turnLeft90, .turnRight90]

/-- `action in DETOUR_TURN_ACTIONS`. -/
def isDetourTurn (action : Action) : Bool := action = .turnLeft90 || action = .turnRight90

/-- `sorted(ids)`. -/
def sortedIds (ids : List String) : List String := ids.mergeSort fun a b => a ≤ b

-- What the gates read

/-- An entry of `navigation_hazard_hypotheses`. -/
structure Hypothesis where
  hypothesisId : String
  activeForCollision : Bool
  routeCommitmentReady : Bool
deriving DecidableEq

/-- An entry of `goal_geometry["conflicts"]`. -/
structure GoalConflict where
  hypothesisId : String
  activeForCollision : Bool
deriving DecidableEq

/-- `action_feasibility["active_scan"]`. -/
structure ActiveScan where
  allowed : Bool
  reason : String
deriving DecidableEq

structure Navigation where
  hypotheses : List Hypothesis
  conflicts : List GoalConflict
  /-- `action_feasibility["motion_actions"][action]["allowed"]`. -/
  motionFeasible : Action → Bool
  activeScan : ActiveScan

structure ActionSpec where
  sliceCount : Int
  totalDurationMs : Int
deriving DecidableEq

structure WorkerBudgets where
  motionFaultLatched : Bool
  pulseCountRemaining : Int
  pulseDurationMsRemaining : Int
deriving DecidableEq

/-- All that is known when a turn asks the planner. -/
structure TurnFacts where
  navigation : Navigation
  /-- The target of the active maneuver, if there is one. -/
  activeManeuver : Option String
  scanBlockedTargetIds : List String
  scanBudgetAllows : Bool
  actionSpecs : Action → Option ActionSpec
  budgets : WorkerBudgets
  /-- `guidance.allowed_motion_actions`. -/
  allowedMotionActions : Option (List Action)
  missionCompleted : Bool

/-- What the last tool said: its operation, and what an observation gained. -/
structure ToolResult where
  operation : String
  informationGain : Option String
deriving DecidableEq

def observeWithoutInformationGain (result : Option ToolResult) : Bool :=
  result.any fun result => result.operation = "observe" && result.informationGain = some "NONE"

def motionBudgetAllows (action : Action) (facts : TurnFacts) : Bool :=
  if action.IsMotion then
    match facts.actionSpecs action with
    | none => false
    | some spec =>
      !facts.budgets.motionFaultLatched && spec.sliceCount ≤ facts.budgets.pulseCountRemaining &&
        spec.totalDurationMs ≤ facts.budgets.pulseDurationMsRemaining
  else true

-- The gates

def activeGoalConflictIds (navigation : Navigation) : List String :=
  (navigation.conflicts.filter (·.activeForCollision)).map (·.hypothesisId)

def routeReadyIds (navigation : Navigation) : List String :=
  (navigation.hypotheses.filter (·.routeCommitmentReady)).map (·.hypothesisId)

def routeAuthorizationRequiredIds (facts : TurnFacts) (repeatedUninformativeObserve : Bool) : List String :=
  if facts.activeManeuver = none ∧ repeatedUninformativeObserve = true then
    sortedIds ((routeReadyIds facts.navigation).dedup.filter fun id => (activeGoalConflictIds facts.navigation).contains id)
  else []

/-- `scan_eligible_target_hypothesis_ids`. -/
def scanEligibleIds (facts : TurnFacts) : List String :=
  sortedIds ((facts.navigation.hypotheses.map (·.hypothesisId)).filter fun id =>
    !facts.scanBlockedTargetIds.contains id && !(routeReadyIds facts.navigation).contains id)

def detourScanRequiredTargetIds (facts : TurnFacts) (scanAvailable scanBlockedByRotation clearanceReverseAvailable : Bool) : List String :=
  if scanAvailable || (scanBlockedByRotation && clearanceReverseAvailable) then
    sortedIds ((facts.navigation.hypotheses.filter fun hypothesis =>
      hypothesis.activeForCollision && (activeGoalConflictIds facts.navigation).contains hypothesis.hypothesisId &&
        (scanEligibleIds facts).contains hypothesis.hypothesisId && facts.activeManeuver != some hypothesis.hypothesisId &&
        !hypothesis.routeCommitmentReady).map (·.hypothesisId))
  else []

/-- `scan_available` of `detour_scan_gate`. -/
def scanAvailable (facts : TurnFacts) : Bool :=
  !(scanEligibleIds facts).isEmpty && facts.scanBudgetAllows && facts.navigation.activeScan.allowed

/-- `required` of `detour_scan_gate`. -/
def detourScanRequired (facts : TurnFacts) : List String :=
  detourScanRequiredTargetIds facts (scanAvailable facts)
    (!(scanEligibleIds facts).isEmpty && facts.scanBudgetAllows &&
      facts.navigation.activeScan.reason = "provisional_hazard_rotation_sweep_collision")
    (facts.navigation.motionFeasible .reverse && motionBudgetAllows .reverse facts)

def availableNavigationActions (facts : TurnFacts) (repeatedUninformativeObserve : Bool) : List Action :=
  allActions.filter fun action =>
    (action != .observe || !repeatedUninformativeObserve) &&
      (!decide action.IsMotion || (facts.navigation.motionFeasible action && motionBudgetAllows action facts)) &&
      (action != .scanFrontArc || scanAvailable facts) && (!isDetourTurn action || (detourScanRequired facts).isEmpty)

def prepareNavigationAvailability (facts : TurnFacts) (repeatedUninformativeObserve : Bool) : List Action :=
  let required := routeAuthorizationRequiredIds facts repeatedUninformativeObserve
  let available := availableNavigationActions facts (repeatedUninformativeObserve && required.isEmpty)
  if required.isEmpty then available else [.observe]

def filterLocalDetourActions (actions : List Action) (allowedMotionActions : Option (List Action)) : List Action :=
  match allowedMotionActions with
  | none => actions
  | some allowed => actions.filter fun action => !decide action.IsMotion || allowed.contains action

/-- The tuple that `run` hands to the planner. -/
def availableActions (facts : TurnFacts) (lastToolResult : Option ToolResult) : List Action :=
  let available := prepareNavigationAvailability facts (observeWithoutInformationGain lastToolResult)
  let available := filterLocalDetourActions available facts.allowedMotionActions
  if facts.missionCompleted then available else available.filter (· != .finish)

end RobotLlm.Physical
