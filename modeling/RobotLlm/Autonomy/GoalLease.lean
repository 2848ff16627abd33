import Mathlib.Data.Finset.Basic
import Mathlib.Data.List.AList
import RobotLlm.Lib.Machine
import RobotLlm.Navigation.State

/-!
# Goal leases

Which high-level goal may create motion. One coordinator hands out leases,
reservations and duty-rearm guards; each is a capability recognised by the
object itself, so a value a caller builds with the same fields is another
object. Reserving a user goal and activating it are separate: the reservation
stops idle work, the activation waits for its lease to be returned.
-/

namespace RobotLlm.Autonomy

open RobotLlm.Lib RobotLlm.Navigation

-- Capabilities

/-- Which object a value is: one the coordinator made under a generation, or
one a caller made. -/
inductive Identity where
  | issued (generation : Nat)
  | forged (number : Nat)
deriving DecidableEq

inductive GoalOwner where
  | idleExploration
  | user
deriving DecidableEq

structure GoalLease where
  identity : Identity
  leaseId : String
  owner : GoalOwner
  generation : Nat
  goalEpoch : Int
  planRevision : Int
deriving DecidableEq

structure UserGoalReservation where
  identity : Identity
  requestId : String
  generation : Nat
deriving DecidableEq

structure IdleDutyRearmGuard where
  identity : Identity
  generation : Nat
deriving DecidableEq

/-- `"{}-lease-{}".format(owner.lower().replace("_", "-"), generation)`. -/
def leaseIdOf (owner : GoalOwner) (generation : Nat) : String :=
  (match owner with
    | .idleExploration => "idle-exploration"
    | .user => "user") ++ "-lease-" ++ toString generation

-- The coordinator

structure GoalLeaseCoordinator where
  robotId : String
  controllerInstanceId : String
  nextGoalEpoch : Int
  nextPlanRevision : Int
  generation : Nat := 0
  idleEnabled : Bool := false
  faulted : Bool := false
  active : Option GoalLease := none
  pendingUser : Option UserGoalReservation := none
  idleRearmGuard : Option IdleDutyRearmGuard := none
  /-- The generations of the leases whose cancel event is set. -/
  cancelEvents : Finset Nat := ∅
  cancelledUsers : AList fun _ : Nat => UserGoalReservation := ∅
  activatedUsers : AList fun _ : Nat => UserGoalReservation := ∅

abbrev LeaseError := NavigationContractError

namespace GoalLeaseCoordinator

def new (robotId controllerInstanceId : String) (startingGoalEpoch startingPlanRevision : Int)
    (idleEnabled : Bool) : Except LeaseError GoalLeaseCoordinator := do
  let _ ← identifier "robot_id" robotId
  let _ ← identifier "controller_instance_id" controllerInstanceId
  let _ ← integer "starting_goal_epoch" startingGoalEpoch 1 counterMax
  let _ ← integer "starting_plan_revision" startingPlanRevision 1 counterMax
  return {
    robotId := robotId
    controllerInstanceId := controllerInstanceId
    nextGoalEpoch := startingGoalEpoch
    nextPlanRevision := startingPlanRevision
    idleEnabled := idleEnabled }

def rearmInProgress (message : String) : LeaseError := ⟨"idle_duty_rearm_in_progress", message⟩

def authorityFaulted : LeaseError := ⟨"goal_authority_faulted", "Goal authority is faulted"⟩

def staleReservation : LeaseError := ⟨"stale_user_reservation", "User reservation is no longer current"⟩

/-- `GoalLease.__post_init__`; the id of a lease is never at fault. -/
def checkLease (generation : Nat) (goalEpoch planRevision : Int) : Except LeaseError Unit := do
  let _ ← integer "generation" generation 1 counterMax
  let _ ← integer "goal_epoch" goalEpoch 1 counterMax
  let _ ← integer "plan_revision" planRevision 1 counterMax
  return ()

/-- `_allocate_locked`. The generation is spent even if the lease cannot be
built. -/
def allocate (c : GoalLeaseCoordinator) (owner : GoalOwner) : Except LeaseError GoalLease × GoalLeaseCoordinator :=
  let generation := c.generation + 1
  let c := { c with generation := generation }
  match checkLease generation c.nextGoalEpoch c.nextPlanRevision with
  | .error e => (.error e, c)
  | .ok () =>
    let lease : GoalLease :=
      { identity := .issued generation
        leaseId := leaseIdOf owner generation
        owner := owner
        generation := generation
        goalEpoch := c.nextGoalEpoch
        planRevision := c.nextPlanRevision }
    (.ok lease, { c with
      nextGoalEpoch := c.nextGoalEpoch + 1
      nextPlanRevision := c.nextPlanRevision + 1
      active := some lease })

def cancelActive (c : GoalLeaseCoordinator) : GoalLeaseCoordinator :=
  match c.active with
  | some lease => { c with cancelEvents := insert lease.generation c.cancelEvents }
  | none => c

def setIdleEnabled (c : GoalLeaseCoordinator) (enabled : Bool) : Except LeaseError Unit × GoalLeaseCoordinator :=
  if enabled = true ∧ c.idleRearmGuard ≠ none then
    (.error (rearmInProgress "Idle cannot be enabled during duty-cycle re-arm"), c)
  else
    let c := { c with idleEnabled := enabled }
    if enabled = false ∧ ∃ lease ∈ c.active, lease.owner = .idleExploration then (.ok (), c.cancelActive)
    else (.ok (), c)

def tryAcquireIdle (c : GoalLeaseCoordinator) :
    Except LeaseError (Option GoalLease) × GoalLeaseCoordinator :=
  if c.idleEnabled = false ∨ c.faulted = true ∨ c.active ≠ none ∨ c.pendingUser ≠ none ∨
      c.idleRearmGuard ≠ none then
    (.ok none, c)
  else
    let r := c.allocate .idleExploration
    (r.1.map some, r.2)

def reserveUser (c : GoalLeaseCoordinator) (requestId : String) :
    Except LeaseError UserGoalReservation × GoalLeaseCoordinator :=
  match identifier "request_id" requestId with
  | .error e => (.error e, c)
  | .ok _ =>
    if c.idleRearmGuard ≠ none then
      (.error (rearmInProgress "User reservation must wait for duty-cycle re-arm"), c)
    else if c.faulted then (.error authorityFaulted, c)
    else
      match c.pendingUser with
      | some pending =>
        if pending.requestId = requestId then (.ok pending, c)
        else (.error ⟨"user_goal_already_pending", "Another user goal is already pending"⟩, c)
      | none =>
        if ∃ lease ∈ c.active, lease.owner = .user then
          (.error ⟨"user_goal_already_active", "A user goal is already active"⟩, c)
        else
          let generation := c.generation + 1
          let c := { c with generation := generation }
          match integer "generation" generation 1 counterMax with
          | .error e => (.error e, c)
          | .ok _ =>
            let reservation : UserGoalReservation := ⟨.issued generation, requestId, generation⟩
            (.ok reservation, { c with pendingUser := some reservation }.cancelActive)

def cancelUserReservation (c : GoalLeaseCoordinator) (reservation : UserGoalReservation) :
    Except LeaseError Bool × GoalLeaseCoordinator :=
  if c.pendingUser = some reservation then
    (.ok true, { c with
      pendingUser := none
      cancelledUsers := c.cancelledUsers.insert reservation.generation reservation })
  else if c.cancelledUsers.lookup reservation.generation = some reservation then (.ok false, c)
  else if c.activatedUsers.lookup reservation.generation = some reservation then
    (.error ⟨"user_reservation_already_activated", "Activated user reservation cannot be cancelled"⟩, c)
  else (.error staleReservation, c)

def activateUser (c : GoalLeaseCoordinator) (reservation : UserGoalReservation) :
    Except LeaseError GoalLease × GoalLeaseCoordinator :=
  if c.idleRearmGuard ≠ none then
    (.error (rearmInProgress "User activation must wait for duty-cycle re-arm"), c)
  else if c.faulted then (.error authorityFaulted, c)
  else if c.pendingUser ≠ some reservation then (.error staleReservation, c)
  else if c.active ≠ none then
    (.error ⟨"goal_owner_still_active", "Previous goal owner has not safely released"⟩, c)
  else
    { c with
      pendingUser := none
      activatedUsers := c.activatedUsers.insert reservation.generation reservation }.allocate .user

def beginIdleDutyRearm (c : GoalLeaseCoordinator) :
    Except LeaseError IdleDutyRearmGuard × GoalLeaseCoordinator :=
  if c.idleEnabled = true ∨ c.faulted = true ∨ c.active ≠ none ∨ c.pendingUser ≠ none ∨
      c.idleRearmGuard ≠ none then
    (.error ⟨"unsafe_idle_duty_rearm", "Duty re-arm requires disabled idle and no goal claims"⟩, c)
  else
    let generation := c.generation + 1
    let c := { c with generation := generation }
    match integer "generation" generation 1 counterMax with
    | .error e => (.error e, c)
    | .ok _ =>
      let guard : IdleDutyRearmGuard := ⟨.issued generation, generation⟩
      (.ok guard, { c with idleRearmGuard := some guard })

def finishIdleDutyRearm (c : GoalLeaseCoordinator) (guard : IdleDutyRearmGuard) :
    Except LeaseError Unit × GoalLeaseCoordinator :=
  if c.idleRearmGuard ≠ some guard then
    (.error ⟨"stale_idle_duty_rearm_guard", "Duty re-arm guard is no longer current"⟩, c)
  else (.ok (), { c with idleRearmGuard := none })

def isCurrentIdle (c : GoalLeaseCoordinator) (lease : GoalLease) : Bool :=
  c.active = some lease && lease.owner = .idleExploration && c.idleEnabled && !c.faulted &&
    c.pendingUser = none && lease.generation ∉ c.cancelEvents

/-- What `release` accepts as a verified safe stop of the lease's goal. -/
def SafeReturn (c : GoalLeaseCoordinator) (lease : GoalLease) (final : NavigationSnapshot) (stopVerified : Bool) :
    Prop :=
  stopVerified = true ∧ final.robotId = c.robotId ∧ final.controllerInstanceId = c.controllerInstanceId ∧
    final.goalEpoch = lease.goalEpoch ∧ final.planRevision = lease.planRevision ∧ ¬ final.Hazard

instance : Decidable (SafeReturn c lease final stopVerified) :=
  inferInstanceAs (Decidable (_ ∧ _ ∧ _ ∧ _ ∧ _ ∧ _))

def release (c : GoalLeaseCoordinator) (lease : GoalLease) (final : NavigationSnapshot) (stopVerified : Bool) :
    Except LeaseError Bool × GoalLeaseCoordinator :=
  if c.active ≠ some lease then (.error ⟨"stale_goal_lease", "Goal lease is no longer active"⟩, c)
  else if c.SafeReturn lease final stopVerified then (.ok true, { c with active := none })
  else (.ok false, { c with active := none, faulted := true, pendingUser := none })

end GoalLeaseCoordinator

-- Calls

inductive LeaseCall where
  | setIdleEnabled (enabled : Bool)
  | tryAcquireIdle
  | reserveUser (requestId : String)
  | cancelUserReservation (reservation : UserGoalReservation)
  | activateUser (reservation : UserGoalReservation)
  | beginIdleDutyRearm
  | finishIdleDutyRearm (guard : IdleDutyRearmGuard)
  | isCurrentIdle (lease : GoalLease)
  | release (lease : GoalLease) (final : NavigationSnapshot) (stopVerified : Bool)

inductive LeaseAnswer where
  | done (r : Except LeaseError Unit)
  | idleLease (r : Except LeaseError (Option GoalLease))
  | reservation (r : Except LeaseError UserGoalReservation)
  | flag (r : Except LeaseError Bool)
  | userLease (r : Except LeaseError GoalLease)
  | guard (r : Except LeaseError IdleDutyRearmGuard)
deriving DecidableEq

/-- The coordinator as its callers see it, one locked call after the other. -/
def leaseCoordinator : Machine GoalLeaseCoordinator LeaseCall LeaseAnswer where
  step c
    | .setIdleEnabled enabled => ((.done (c.setIdleEnabled enabled).1), (c.setIdleEnabled enabled).2)
    | .tryAcquireIdle => (.idleLease c.tryAcquireIdle.1, c.tryAcquireIdle.2)
    | .reserveUser requestId => (.reservation (c.reserveUser requestId).1, (c.reserveUser requestId).2)
    | .cancelUserReservation r => (.flag (c.cancelUserReservation r).1, (c.cancelUserReservation r).2)
    | .activateUser r => (.userLease (c.activateUser r).1, (c.activateUser r).2)
    | .beginIdleDutyRearm => (.guard c.beginIdleDutyRearm.1, c.beginIdleDutyRearm.2)
    | .finishIdleDutyRearm guard => (.done (c.finishIdleDutyRearm guard).1, (c.finishIdleDutyRearm guard).2)
    | .isCurrentIdle lease => (.flag (.ok (c.isCurrentIdle lease)), c)
    | .release lease final stopVerified =>
      (.flag (c.release lease final stopVerified).1, (c.release lease final stopVerified).2)

abbrev LeaseEvent := LeaseCall × LeaseAnswer

end RobotLlm.Autonomy
