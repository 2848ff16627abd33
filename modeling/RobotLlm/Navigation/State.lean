import RobotLlm.Navigation.Contract

/-!
# Navigation state

The immutable snapshot of one controller and the reducer that lets it only
move forward. Metric clearance exists in simulation only: a physical IR
reflection can report a near obstacle, never free distance.
-/

namespace RobotLlm.Navigation

structure PoseEstimate where
  xMm : Int
  yMm : Int
  headingMdeg : Int
  xOk : Between xMm (-1000000) 1000000 := by decide
  yOk : Between yMm (-1000000) 1000000 := by decide
  headingOk : Between headingMdeg (-180000) 179999 := by decide

inductive ClearanceSource where
  | simulationMetric
  | physicalIrReflection
  | none
deriving DecidableEq

structure ClearanceEvidence where
  source : ClearanceSource
  observedAtMs : Int
  nearObstacleLatched : Bool
  forwardMm : Option Int := .none
  leftMm : Option Int := .none
  rightMm : Option Int := .none
  rawIrProximity : Option Int := .none
  forwardObjectId : Option String := .none
  observedAtOk : Between observedAtMs 0 counterMax := by decide
  forwardOk : ∀ v ∈ forwardMm, Between v 0 1000000 := by decide
  leftOk : ∀ v ∈ leftMm, Between v 0 1000000 := by decide
  rightOk : ∀ v ∈ rightMm, Between v 0 1000000 := by decide
  rawIrOk : ∀ v ∈ rawIrProximity, Between v 0 100 := by decide
  objectOk : ∀ v ∈ forwardObjectId, identifierOk v ∧ source = .simulationMetric := by decide
  /-- Metres come from the simulator alone, which always gives them. -/
  unitsOk : if source = .simulationMetric then forwardMm ≠ .none ∧ rawIrProximity = .none
    else forwardMm = .none ∧ leftMm = .none ∧ rightMm = .none := by decide

/-- The forward clearance when it is positively known,
`positively_cleared_for_simulation`. -/
def ClearanceEvidence.positivelyCleared (e : ClearanceEvidence) : Option Int :=
  if e.source = .simulationMetric ∧ e.nearObstacleLatched = false then e.forwardMm else none

structure NavigationSnapshot where
  robotId : String
  controllerInstanceId : String
  goalId : String
  goalEpoch : Int
  planRevision : Int
  stateVersion : Int
  worldModelVersion : Int
  capturedAtHostMs : Int
  stateObservedAtMs : Int
  pose : PoseEstimate
  leftEncoderMdeg : Int
  rightEncoderMdeg : Int
  motorsRunning : Bool
  touchPressed : Bool
  activeFaults : List String
  clearance : ClearanceEvidence
  robotIdOk : identifierOk robotId := by decide
  controllerOk : identifierOk controllerInstanceId := by decide
  goalIdOk : identifierOk goalId := by decide
  goalEpochOk : Between goalEpoch 1 counterMax := by decide
  planRevisionOk : Between planRevision 1 counterMax := by decide
  stateVersionOk : Between stateVersion 1 counterMax := by decide
  worldModelVersionOk : Between worldModelVersion 1 counterMax := by decide
  capturedAtOk : Between capturedAtHostMs 0 counterMax := by decide
  stateObservedOk : Between stateObservedAtMs 0 counterMax := by decide
  observedBeforeCapture : stateObservedAtMs ≤ capturedAtHostMs := by decide
  leftEncoderOk : Between leftEncoderMdeg (-2 ^ 63) counterMax := by decide
  rightEncoderOk : Between rightEncoderMdeg (-2 ^ 63) counterMax := by decide
  faultsOk : (∀ f ∈ activeFaults, identifierOk f 96) ∧ activeFaults.Nodup := by decide
  safetyBeforeCapture : clearance.observedAtMs ≤ capturedAtHostMs := by decide

def NavigationSnapshot.boundTo (s : NavigationSnapshot) (goal : WaypointGoal) : Prop :=
  s.goalId = goal.goalId ∧ s.goalEpoch = goal.goalEpoch ∧ s.planRevision = goal.planRevision

instance : Decidable (NavigationSnapshot.boundTo s goal) :=
  inferInstanceAs (Decidable (_ ∧ _ ∧ _))

/-- Touch, a fault or running motors: explicit evidence against motion. -/
def NavigationSnapshot.Hazard (s : NavigationSnapshot) : Prop :=
  s.touchPressed = true ∨ s.activeFaults ≠ [] ∨ s.motorsRunning = true

instance : Decidable (NavigationSnapshot.Hazard s) := inferInstanceAs (Decidable (_ ∨ _ ∨ _))

/-- `StateReducer.commit`: the snapshot the reducer holds next, or why it
refuses. -/
def StateReducer.commit (previous value : NavigationSnapshot) :
    Except NavigationContractError NavigationSnapshot :=
  if value.robotId ≠ previous.robotId ∨ value.controllerInstanceId ≠ previous.controllerInstanceId then
    .error ⟨"controller_identity_changed", "State controller identity changed"⟩
  else if value.goalEpoch < previous.goalEpoch ∨ value.stateVersion ≤ previous.stateVersion ∨
      value.worldModelVersion < previous.worldModelVersion ∨
      value.capturedAtHostMs < previous.capturedAtHostMs ∨
      value.stateObservedAtMs < previous.stateObservedAtMs then
    .error ⟨"non_monotonic_snapshot", "Navigation snapshot did not advance monotonically"⟩
  else if value.goalEpoch = previous.goalEpoch ∧
      (value.goalId ≠ previous.goalId ∨ value.planRevision < previous.planRevision) then
    .error ⟨"invalid_goal_transition", "Goal changed without a new epoch"⟩
  else .ok value

theorem StateReducer.commit_ok (h : StateReducer.commit previous value = .ok s) :
    s = value ∧ previous.stateVersion < s.stateVersion ∧ previous.goalEpoch ≤ s.goalEpoch ∧
      s.robotId = previous.robotId ∧ s.controllerInstanceId = previous.controllerInstanceId := by
  unfold StateReducer.commit at h
  split at h
  · cases h
  next hid =>
    split at h
    · cases h
    next hmono =>
      split at h
      · cases h
      · cases h
        simp only [not_or, Decidable.not_not, Int.not_lt, Int.not_le] at hid hmono
        exact ⟨rfl, hmono.2.1, hmono.1, hid.1, hid.2⟩

end RobotLlm.Navigation
