import RobotLlm.Lib.Prog
import RobotLlm.Navigation.Authority
import RobotLlm.Navigation.State

/-!
# Motion supervisor

The only component that turns intent into wheel commands. One call of
`decide` either authorizes a single short pulse for the best proposal or a
STOP. An explicit hazard latches the emergency; only a rearm for a newer goal,
on fresh safe samples, releases it.

The clock and the identifier factory are read at most once in a call, so a
call carries what they return, or the error they raise.
-/

namespace RobotLlm.Navigation

open RobotLlm.Lib

structure MotionPolicy where
  maxSnapshotAgeMs : Int := 200
  maxSafetyAgeMs : Int := 100
  maxProposalTtlMs : Int := 500
  maxPulseMs : Int := 120
  maxLinearSpeedMmS : Int := 120
  maxAngularSpeedMdegS : Int := 90000
  forwardReserveMm : Int := 70
  rearmSafeSamples : Nat := 2
  proposalReplayWindow : Nat := 4096
  snapshotAgeOk : Between maxSnapshotAgeMs 1 60000 := by decide
  safetyAgeOk : Between maxSafetyAgeMs 1 maxSnapshotAgeMs := by decide
  proposalTtlOk : Between maxProposalTtlMs 1 10000 := by decide
  pulseOk : Between maxPulseMs 1 1000 := by decide
  linearSpeedOk : Between maxLinearSpeedMmS 1 2000 := by decide
  angularSpeedOk : Between maxAngularSpeedMdegS 1 720000 := by decide
  reserveOk : Between forwardReserveMm 1 10000 := by decide
  samplesOk : 2 ≤ rearmSafeSamples ∧ rearmSafeSamples ≤ 10 := by decide
  replayOk : 1 ≤ proposalReplayWindow ∧ proposalReplayWindow ≤ 100000 := by decide

/-- What a supervisor is built with. Its constructor admits a complete
simulation profile only, and a policy within it. -/
structure MotionSupervisor where
  profile : DriveCalibrationProfile
  policy : MotionPolicy := {}
  robotId : String
  controllerInstanceId : String
  arbiterId : String := "navigation-motion-supervisor"
  /-- Encoder millidegrees for one millimetre and for one body degree. -/
  geometry : Int × Int
  simulationOnly : profile.status = .simulationOnly := by decide
  complete : profile.requireCompleteGeometry = .ok geometry := by rfl
  robotIdOk : identifierOk robotId := by decide
  controllerOk : identifierOk controllerInstanceId := by decide
  arbiterOk : identifierOk arbiterId := by decide
  withinCalibration : policy.maxPulseMs ≤ profile.maxPulseMs := by decide

namespace MotionSupervisor

structure State where
  authority : MotionAuthority
  seenProposals : ReplayWindow String := .empty
  sourceHighWater : AList fun _ : String => Int := ∅
  activeGoalEpoch : Option Int := none
  emergencyLatched : Bool := false
  latchedGoalEpoch : Option Int := none

abbrev Call := Prog State NavigationContractError

-- Parts of a call

/-- `_now_ms` on a clock reading. -/
def nowMs (clock : Except NavigationContractError Int) : Except NavigationContractError Int := do
  integer "clock_ms" (← clock) 0 counterMax

/-- `_decision_id` on what the factory returned. -/
def decisionId (fresh : Except NavigationContractError String) : Except NavigationContractError String := do
  identifier "decision_id" (← fresh)

/-- An authority call as a step of the supervisor. -/
def onAuthority (f : MotionAuthority → Except NavigationContractError Unit × MotionAuthority) :
    Call Unit :=
  Prog.onPart State.authority (fun a s => { s with authority := a }) f

def authorizePulse (pulse : DrivePulse) : Call DrivePulse := do
  onAuthority fun a => a.authorize pulse
  return pulse

/-- The fields of a pulse that come from the snapshot it answers. -/
def pulseFor (m : MotionSupervisor) (decisionId : String) (snapshot : NavigationSnapshot) (kind : PulseKind)
    (left right durationMs : Int) (reasonCode : String) (proposalId : Option String) : DrivePulse where
  decisionId := decisionId
  arbiterId := m.arbiterId
  robotId := snapshot.robotId
  controllerInstanceId := snapshot.controllerInstanceId
  goalId := snapshot.goalId
  goalEpoch := snapshot.goalEpoch
  planRevision := snapshot.planRevision
  basedOnStateVersion := snapshot.stateVersion
  basedOnWorldModelVersion := snapshot.worldModelVersion
  kind := kind
  leftSpeedDps := left
  rightSpeedDps := right
  durationMs := durationMs
  reasonCode := reasonCode
  proposalId := proposalId

def stop (m : MotionSupervisor) (fresh : Except NavigationContractError String)
    (snapshot : NavigationSnapshot) (reasonCode : String) (proposalId : Option String := none) :
    Call DrivePulse := do
  let id ← Prog.ofExcept (decisionId fresh)
  let pulse ← Prog.ofExcept (DrivePulse.new (m.pulseFor id snapshot .stop 0 0 0 reasonCode proposalId))
  authorizePulse pulse

/-- A DRIVE pulse of the two `_authorize_*` methods. -/
def drive (m : MotionSupervisor) (fresh : Except NavigationContractError String)
    (snapshot : NavigationSnapshot) (left right durationMs : Int) (reasonCode proposalId : String) :
    Call DrivePulse := do
  let id ← Prog.ofExcept (decisionId fresh)
  let pulse ← Prog.ofExcept
    (DrivePulse.new (m.pulseFor id snapshot .drive left right durationMs reasonCode (some proposalId)))
  authorizePulse pulse

def Expects (m : MotionSupervisor) (snapshot : NavigationSnapshot) : Prop :=
  snapshot.robotId = m.robotId ∧ snapshot.controllerInstanceId = m.controllerInstanceId

instance : Decidable (Expects m snapshot) := inferInstanceAs (Decidable (_ ∧ _))

/-- `_fresh_snapshot`: why a snapshot is not fresh, if it is not. -/
def freshSnapshot (m : MotionSupervisor) (snapshot : NavigationSnapshot) (now : Int) : Option String :=
  if ¬ m.Expects snapshot then some "controller_identity_mismatch"
  else if snapshot.capturedAtHostMs > now ∨ snapshot.stateObservedAtMs > now ∨
      now - snapshot.stateObservedAtMs > m.policy.maxSnapshotAgeMs then some "stale_navigation_snapshot"
  else if snapshot.clearance.observedAtMs > now ∨
      now - snapshot.clearance.observedAtMs > m.policy.maxSafetyAgeMs then some "stale_safety_evidence"
  else none

/-- `_latch`. The epoch kept is the one of the last hazard, whatever was
latched before. -/
def latch (snapshot : NavigationSnapshot) : Call Unit :=
  modify fun s => { s with emergencyLatched := true, latchedGoalEpoch := some snapshot.goalEpoch }

-- Proposals

def BindingMatches (value : StampedProposal) (snapshot : NavigationSnapshot) (goal : WaypointGoal) : Prop :=
  value.proposal.goalId = goal.goalId ∧ goal.goalId = snapshot.goalId ∧
  value.proposal.goalEpoch = goal.goalEpoch ∧ goal.goalEpoch = snapshot.goalEpoch ∧
  value.proposal.planRevision = goal.planRevision ∧ goal.planRevision = snapshot.planRevision ∧
  value.proposal.basedOnStateVersion = snapshot.stateVersion ∧
  value.proposal.basedOnWorldModelVersion = snapshot.worldModelVersion

instance : Decidable (BindingMatches value snapshot goal) :=
  inferInstanceAs (Decidable (_ ∧ _ ∧ _ ∧ _ ∧ _ ∧ _ ∧ _ ∧ _))

/-- One proposal of the batch: it is remembered and raises its source's high
water whether or not it counts. `previous` is the high water before the batch. -/
def consumeOne (m : MotionSupervisor) (batch : List StampedProposal) (previous : AList fun _ : String => Int)
    (snapshot : NavigationSnapshot) (goal : WaypointGoal) (now : Int)
    (acc : State × List StampedProposal) (value : StampedProposal) : State × List StampedProposal :=
  let s := acc.1
  let id := value.proposal.proposalId
  let alreadySeen := decide (id ∈ s.seenProposals.ids)
  let seen := if alreadySeen then s.seenProposals else s.seenProposals.remember m.policy.proposalReplayWindow id
  let high := (s.sourceHighWater.lookup value.sourceId).getD 0
  let s' : State :=
    { s with
      seenProposals := seen
      sourceHighWater := s.sourceHighWater.insert value.sourceId (max high value.sourceSequence) }
  if alreadySeen ∨ batch.countP (·.proposal.proposalId = id) ≠ 1 ∨
      batch.countP (fun v => v.sourceId = value.sourceId ∧ v.sourceSequence = value.sourceSequence) ≠ 1 ∨
      value.sourceSequence ≤ (previous.lookup value.sourceId).getD 0 ∨
      value.receivedAtMs > now ∨ now ≥ value.validUntilMs ∨
      value.validUntilMs - value.receivedAtMs > m.policy.maxProposalTtlMs ∨
      ¬ BindingMatches value snapshot goal then
    (s', acc.2)
  else (s', acc.2 ++ [value])

def consumeAndFilter (m : MotionSupervisor) (proposals : List StampedProposal)
    (snapshot : NavigationSnapshot) (goal : WaypointGoal) (now : Int) : Call (List StampedProposal) := do
  let s ← get
  let r := proposals.foldl (m.consumeOne proposals s.sourceHighWater snapshot goal now) (s, [])
  set r.1
  return r.2

/-- The values on which `key` is largest. -/
def highest (key : StampedProposal → Int) (values : List StampedProposal) : List StampedProposal :=
  values.filter fun v => values.all fun w => key w ≤ key v

/-- Whether `v` comes before `w` under `(source_id, proposal_id)`. -/
def precedes (v w : StampedProposal) : Bool :=
  v.sourceId < w.sourceId || (v.sourceId = w.sourceId && v.proposal.proposalId < w.proposal.proposalId)

/-- The first of the smallest values under `(source_id, proposal_id)`. -/
def selected : List StampedProposal → Option StampedProposal
  | [] => none
  | v :: rest => some (rest.foldl (fun best w => if precedes w best then w else best) v)

/-- `ceil(a / b)` for positive `b`. The code divides doubles; at these sizes
the quotient is far enough from an integer it does not equal. -/
def ceilDiv (a b : Int) : Int := -((-a) / b)

def authorizeAdvance (m : MotionSupervisor) (fresh : Except NavigationContractError String)
    (snapshot : NavigationSnapshot) (proposal : PlannerProposal) (segment : AdvanceSegment) :
    Call DrivePulse :=
  match snapshot.clearance.positivelyCleared with
  | none => m.stop fresh snapshot "forward_clearance_unknown" proposal.proposalId
  | some forwardMm =>
    let speed := min segment.speedMmS m.policy.maxLinearSpeedMmS
    let duration := min m.policy.maxPulseMs (max 1 (ceilDiv (segment.distanceMm * 1000) speed))
    let planned := ceilDiv (speed * duration) 1000
    if forwardMm < m.policy.forwardReserveMm + planned then
      m.stop fresh snapshot "forward_clearance_insufficient" proposal.proposalId
    else
      let wheel := min (max 1 (ceilDiv (speed * m.geometry.1) 1000)) m.profile.maxWheelSpeedDps
      m.drive fresh snapshot (wheel * m.profile.leftMotorSign) (wheel * m.profile.rightMotorSign) duration
        "authorized_advance" proposal.proposalId

def authorizeTurn (m : MotionSupervisor) (fresh : Except NavigationContractError String)
    (snapshot : NavigationSnapshot) (proposal : PlannerProposal) (segment : TurnSegment) : Call DrivePulse :=
  let speed := min segment.angularSpeedMdegS m.policy.maxAngularSpeedMdegS
  let duration := min m.policy.maxPulseMs (max 1 (ceilDiv (segment.angleMdeg.natAbs * 1000) speed))
  let wheel := min (max 1 (ceilDiv (speed * m.geometry.2) 1000000)) m.profile.maxWheelSpeedDps
  let direction : Int := if segment.angleMdeg > 0 then 1 else -1
  m.drive fresh snapshot (-direction * wheel * m.profile.leftMotorSign)
    (direction * wheel * m.profile.rightMotorSign) duration "authorized_turn" proposal.proposalId

/-- The end of `decide`: the one meaning of the highest rank and priority, or
a STOP. Nothing is selected exactly when nothing is valid. -/
def arbitrate (m : MotionSupervisor) (fresh : Except NavigationContractError String)
    (snapshot : NavigationSnapshot) (valid : List StampedProposal) : Call DrivePulse :=
  let top := highest (·.priority) (highest (·.authorityRank) valid)
  match selected top with
  | none => m.stop fresh snapshot "no_fresh_proposal"
  | some value =>
    let proposal := value.proposal
    if ((top.map (·.proposal.semanticKey)).dedup).length ≠ 1 then
      m.stop fresh snapshot "ambiguous_top_priority"
    else
      match proposal.decision with
      | .hold reason => m.stop fresh snapshot ("hold_" ++ reason.text) proposal.proposalId
      | .abort reason => m.stop fresh snapshot ("abort_" ++ reason.text) proposal.proposalId
      | .nextSegment (.advance segment) => m.authorizeAdvance fresh snapshot proposal segment
      | .nextSegment (.turn segment) => m.authorizeTurn fresh snapshot proposal segment

-- Calls

/-- A goal newer than the active one becomes active and forgets the proposals
seen for the older. -/
def startGoal (goal : WaypointGoal) : Call Unit :=
  modify fun s =>
    if s.activeGoalEpoch.all (· < goal.goalEpoch) then
      { s with activeGoalEpoch := some goal.goalEpoch, seenProposals := .empty }
    else s

def decide (m : MotionSupervisor) (clock : Except NavigationContractError Int)
    (fresh : Except NavigationContractError String) (snapshot : NavigationSnapshot) (goal : WaypointGoal)
    (proposals : List StampedProposal) : Call DrivePulse := do
  let now ← Prog.ofExcept (nowMs clock)
  if ¬ m.Expects snapshot then
    m.stop fresh snapshot "controller_identity_mismatch"
  else if snapshot.Hazard then
    -- before any freshness check, so that a later clean snapshot of the same goal cannot resume motion
    latch snapshot
    m.stop fresh snapshot "emergency_stop_latched"
  else
    match m.freshSnapshot snapshot now with
    | some reason => m.stop fresh snapshot reason
    | none =>
      if ¬ snapshot.boundTo goal then
        m.stop fresh snapshot "goal_binding_mismatch"
      else if (← get).activeGoalEpoch.any (goal.goalEpoch < ·) then
        m.stop fresh snapshot "stale_goal_epoch"
      else
        startGoal goal
        if (← get).emergencyLatched then
          m.stop fresh snapshot "emergency_stop_latched"
        else
          let valid ← m.consumeAndFilter proposals snapshot goal now
          m.arbitrate fresh snapshot valid

def forceStop (m : MotionSupervisor) (fresh : Except NavigationContractError String)
    (snapshot : NavigationSnapshot) (reasonCode : String := "terminal_stop") : Call DrivePulse :=
  m.stop fresh snapshot reasonCode

def cancel (pulse : DrivePulse) : Call Unit := onAuthority fun a => a.cancel pulse

def observeEmergency (m : MotionSupervisor) (snapshot : NavigationSnapshot) : Call Bool :=
  if ¬ m.Expects snapshot then return false
  else if snapshot.Hazard then do
    latch snapshot
    return true
  else return false

/-- What the rearm loop asks of one sample, given the versions and safety
times before it. -/
def SafeSample (m : MotionSupervisor) (goal : WaypointGoal) (now previousVersion previousSafety : Int)
    (snapshot : NavigationSnapshot) : Prop :=
  snapshot.boundTo goal ∧ m.freshSnapshot snapshot now = none ∧ ¬ snapshot.Hazard ∧
    previousVersion < snapshot.stateVersion ∧ previousSafety < snapshot.clearance.observedAtMs

instance : Decidable (SafeSample m goal now previousVersion previousSafety snapshot) :=
  inferInstanceAs (Decidable (_ ∧ _ ∧ _ ∧ _ ∧ _))

def safeSamples (m : MotionSupervisor) (goal : WaypointGoal) (now : Int) :
    Int → Int → List NavigationSnapshot → Bool
  | _, _, [] => true
  | previousVersion, previousSafety, snapshot :: rest =>
    if m.SafeSample goal now previousVersion previousSafety snapshot then
      m.safeSamples goal now snapshot.stateVersion snapshot.clearance.observedAtMs rest
    else false

/-- The last `rearm_safe_samples` of the snapshots offered. -/
def rearmSelection (m : MotionSupervisor) (snapshots : List NavigationSnapshot) : List NavigationSnapshot :=
  snapshots.drop (snapshots.length - m.policy.rearmSafeSamples)

def requestRearm (m : MotionSupervisor) (clock : Except NavigationContractError Int) (goal : WaypointGoal)
    (snapshots : List NavigationSnapshot) : Call Bool := do
  let s ← get
  if ¬ s.emergencyLatched then return true
  else if snapshots.length < m.policy.rearmSafeSamples then return false
  else
    match s.latchedGoalEpoch with
    | none => return false
    | some latched =>
      if goal.goalEpoch ≤ latched then return false
      else
        let now ← Prog.ofExcept (nowMs clock)
        if m.safeSamples goal now 0 (-1) (m.rearmSelection snapshots) then
          modify fun s => { s with emergencyLatched := false, latchedGoalEpoch := none }
          return true
        else return false

end MotionSupervisor

end RobotLlm.Navigation
