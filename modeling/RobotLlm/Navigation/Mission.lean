import RobotLlm.Navigation.Episode

/-!
# Missions

An immutable plan of waypoint legs, executed leg by leg, each only after the
verified terminal STOP of the one before. The runner is an episode whose
limits are those of one leg; what a mission has left of its own limits is
combined with them before each leg.
-/

namespace RobotLlm.Navigation

open RobotLlm.Lib

theorem identifierOk_mono {value : String} {m n : Nat} (h : identifierOk value m) (hmn : m ≤ n) :
    identifierOk value n := by
  simp only [identifierOk, Bool.and_eq_true, decide_eq_true_eq] at h ⊢
  exact ⟨⟨h.1.1, h.1.2.trans hmn⟩, h.2⟩

-- Plans, limits and results

def maxMissionLegs : Nat := 8

structure MissionLeg where
  legId : String
  targetXMm : Int
  targetYMm : Int
  toleranceMm : Int := 35
  legIdOk : identifierOk legId 96 := by decide
  targetXOk : Between targetXMm (-1000000) 1000000 := by decide
  targetYOk : Between targetYMm (-1000000) 1000000 := by decide
  toleranceOk : Between toleranceMm 1 10000 := by decide

structure MissionPlan where
  planId : String
  robotId : String
  controllerInstanceId : String
  basedOnStateVersion : Int
  basedOnWorldModelVersion : Int
  planRevision : Int
  legs : List MissionLeg
  planIdOk : identifierOk planId := by decide
  robotIdOk : identifierOk robotId := by decide
  controllerOk : identifierOk controllerInstanceId := by decide
  stateVersionOk : Between basedOnStateVersion 1 counterMax := by decide
  worldModelVersionOk : Between basedOnWorldModelVersion 1 counterMax := by decide
  planRevisionOk : Between planRevision 1 counterMax := by decide
  legsOk : 1 ≤ legs.length ∧ legs.length ≤ maxMissionLegs := by decide
  legIdsOk : (legs.map (·.legId)).Nodup := by decide

def staleMissionPlan : NavigationContractError :=
  ⟨"stale_mission_plan", "Mission plan does not match a current safe stopped snapshot"⟩

def MissionPlan.assertMatchesSnapshot (plan : MissionPlan) (snapshot : NavigationSnapshot) :
    Except NavigationContractError Unit :=
  if snapshot.robotId ≠ plan.robotId ∨ snapshot.controllerInstanceId ≠ plan.controllerInstanceId ∨
      snapshot.stateVersion ≠ plan.basedOnStateVersion ∨
      snapshot.worldModelVersion ≠ plan.basedOnWorldModelVersion ∨ snapshot.motorsRunning = true ∨
      snapshot.touchPressed = true ∨ snapshot.activeFaults ≠ [] then
    .error staleMissionPlan
  else .ok ()

structure MissionLimits where
  maxLegs : Nat := maxMissionLegs
  maxTicks : Nat := 1200
  maxElapsedMs : Int := 180000
  maxProposals : Nat := 2400
  maxReplans : Nat := 1200
  maxActions : Nat := 1100
  maxTotalMotionMs : Int := 150000
  legsOk : 1 ≤ maxLegs ∧ maxLegs ≤ maxMissionLegs := by decide
  ticksOk : Between maxTicks 1 100000 := by decide
  elapsedOk : Between maxElapsedMs 1 3600000 := by decide
  proposalsOk : Between maxProposals 1 100000 := by decide
  replansOk : Between maxReplans 0 100000 := by decide
  actionsOk : Between maxActions 1 100000 := by decide
  motionOk : Between maxTotalMotionMs 1 3600000 := by decide

theorem oneLeg_ok : 1 ≤ 1 ∧ 1 ≤ maxMissionLegs := by decide

/-- `MissionLimits(max_legs=1)`. -/
def MissionLimits.oneLeg : MissionLimits := { maxLegs := 1, legsOk := oneLeg_ok }

structure MissionLegResult where
  legIndex : Nat
  leg : MissionLeg
  goal : WaypointGoal
  navigation : NavigationResult

inductive MissionTermination where
  | completed
  | aborted
  | safetyStop
  | budgetExhausted
  | planRejected
  | planStale
  | legFailed
deriving DecidableEq

structure MissionResult where
  planId : String
  completed : Bool
  termination : MissionTermination
  legsCompleted : Nat
  /-- The sums over the legs. -/
  totals : Counters
  elapsedMs : Int
  finalSnapshot : NavigationSnapshot
  terminalStopVerified : Bool
  legResults : List MissionLegResult

-- The runner

namespace NavigationEpisode

variable {σ : Type}

/-- The run of an episode to its end; it has one, since a run takes no more
turns than its limits have ticks and replans. -/
def runToEnd (e : NavigationEpisode σ) (goal : WaypointGoal) : Run σ NavigationResult := do
  match ← e.run (e.limits.maxTicks + e.limits.maxReplans + 1) goal with
  | some result => return result
  | none => throw .other

end NavigationEpisode

structure MissionRunner (σ : Type) where
  /-- The plant, the supervisor, the inbox and the local behaviors, under the
  limits of one leg. -/
  navigation : NavigationEpisode σ
  startingGoalEpoch : Int
  missionLimits : MissionLimits := {}
  startingGoalEpochOk : Between startingGoalEpoch 1 (2 ^ 63 - maxMissionLegs)

namespace MissionRunner

variable {σ : Type}

open NavigationEpisode (Run onShared)

/-- `_offer_observation`: a consumer of observations cannot fail a mission. -/
def offerObservation (r : MissionRunner σ) (snapshot : NavigationSnapshot) : Prog (Shared σ) Raised Unit :=
  tryCatch (r.navigation.observationSink snapshot) fun _ => return ()

def goal (r : MissionRunner σ) (plan : MissionPlan) (index : Fin plan.legs.length) : WaypointGoal :=
  let leg := plan.legs[index]
  { goalId := leg.legId
    goalEpoch := r.startingGoalEpoch + index
    planRevision := plan.planRevision
    targetXMm := leg.targetXMm
    targetYMm := leg.targetYMm
    toleranceMm := leg.toleranceMm
    goalIdOk := identifierOk_mono leg.legIdOk (by decide)
    goalEpochOk := by
      have hindex := index.isLt
      have hlegs := plan.legsOk.2
      have hstart := r.startingGoalEpochOk
      simp only [maxMissionLegs] at hlegs hstart
      simp only [counterMax]
      constructor <;> omega
    planRevisionOk := plan.planRevisionOk
    targetXOk := leg.targetXOk
    targetYOk := leg.targetYOk
    toleranceOk := leg.toleranceOk }

def totals (results : List MissionLegResult) : Counters where
  ticks := (results.map (·.navigation.counters.ticks)).sum
  proposals := (results.map (·.navigation.counters.proposals)).sum
  replans := (results.map (·.navigation.counters.replans)).sum
  actions := (results.map (·.navigation.counters.actions)).sum
  totalMotionMs := (results.map (·.navigation.counters.totalMotionMs)).sum

/-- `_remaining_limits`: what a leg may use, the smaller of its own limits and
what the mission has left. -/
def remainingLimits (r : MissionRunner σ) (spent : Counters) (elapsedMs : Int) : Option NavigationLimits :=
  let leg := r.navigation.limits
  let mission := r.missionLimits
  if h : spent.ticks < mission.maxTicks ∧ elapsedMs < mission.maxElapsedMs ∧
      spent.proposals < mission.maxProposals ∧ spent.replans ≤ mission.maxReplans ∧
      spent.actions < mission.maxActions ∧ spent.totalMotionMs < mission.maxTotalMotionMs then
    some {
      maxTicks := min leg.maxTicks (mission.maxTicks - spent.ticks)
      maxElapsedMs := min leg.maxElapsedMs (mission.maxElapsedMs - elapsedMs)
      maxProposals := min leg.maxProposals (mission.maxProposals - spent.proposals)
      maxReplans := min leg.maxReplans (mission.maxReplans - spent.replans)
      maxActions := min leg.maxActions (mission.maxActions - spent.actions)
      maxTotalMotionMs := min leg.maxTotalMotionMs (mission.maxTotalMotionMs - spent.totalMotionMs)
      maxNoProgressTicks := leg.maxNoProgressTicks
      minimumProgressMm := leg.minimumProgressMm
      ticksOk := by have := leg.ticksOk; omega
      elapsedOk := by have := leg.elapsedOk; omega
      proposalsOk := by have := leg.proposalsOk; omega
      replansOk := by have := leg.replansOk; omega
      actionsOk := by have := leg.actionsOk; omega
      motionOk := by have := leg.motionOk; omega
      noProgressOk := leg.noProgressOk
      progressOk := leg.progressOk }
  else none

/-- What a leg's run ended with, as the mission reports it. -/
def terminationOf : Termination → MissionTermination
  | .safetyStop => .safetyStop
  | .budgetExhausted => .budgetExhausted
  | .planStale => .planStale
  | .aborted => .aborted
  | _ => .legFailed

def result (r : MissionRunner σ) (plan : MissionPlan) (termination : MissionTermination) (startedAtMs : Int)
    (final : NavigationSnapshot) (legResults : List MissionLegResult) (terminalStopVerified : Bool) :
    Run σ MissionResult := do
  let elapsedMs := max 0 ((← r.navigation.clock) - startedAtMs)
  let termination :=
    if termination = .completed ∧ elapsedMs > r.missionLimits.maxElapsedMs then .budgetExhausted else termination
  let completed := termination = .completed && legResults.length = plan.legs.length &&
    legResults.all (·.navigation.completed) && terminalStopVerified && !final.motorsRunning &&
    !final.touchPressed && final.activeFaults.isEmpty && elapsedMs ≤ r.missionLimits.maxElapsedMs
  onShared (r.offerObservation final)
  return {
    planId := plan.planId
    completed := completed
    termination := termination
    legsCompleted := (legResults.filter (·.navigation.completed)).length
    totals := totals legResults
    elapsedMs := elapsedMs
    finalSnapshot := final
    terminalStopVerified := terminalStopVerified
    legResults := legResults }

/-- Stop the plant: its snapshot, and whether it shows that the motors
stopped. -/
def stopPlant (r : MissionRunner σ) (goal : WaypointGoal) : Run σ (NavigationSnapshot × Bool) := do
  let current ← onShared (r.navigation.observe goal)
  let stop ← r.navigation.forceStop current "mission_terminal_stop"
  let after ← r.navigation.applyPulse current stop goal
  return (after, after.stateVersion > current.stateVersion && !after.motorsRunning)

def verifiedStop (r : MissionRunner σ) (goal : WaypointGoal) (snapshot : NavigationSnapshot) :
    Run σ (NavigationSnapshot × Bool) :=
  tryCatch (r.stopPlant goal) fun _ => return (snapshot, false)

def stopAndResult (r : MissionRunner σ) (plan : MissionPlan) (goal : WaypointGoal)
    (termination : MissionTermination) (startedAtMs : Int) (snapshot : NavigationSnapshot)
    (legResults : List MissionLegResult) : Run σ MissionResult := do
  let stopped ← r.verifiedStop goal snapshot
  r.result plan termination startedAtMs stopped.1 legResults stopped.2

def leg (r : MissionRunner σ) (plan : MissionPlan) (limits : NavigationLimits) : NavigationEpisode σ :=
  { r.navigation with
    limits := limits
    requiredWorldModelVersion := some plan.basedOnWorldModelVersion
    beforeArbitration := fun _ => pure none
    observationSink := r.offerObservation }

/-- What follows the run of a leg: the snapshot to go on from, or the
mission's result. -/
def afterLeg (r : MissionRunner σ) (plan : MissionPlan) (goal : WaypointGoal) (startedAtMs : Int)
    (legResults : List MissionLegResult) (navigation : NavigationResult) :
    Run σ (NavigationSnapshot ⊕ MissionResult) :=
  if navigation.completed = false then
    .inr <$> r.result plan (terminationOf navigation.termination) startedAtMs navigation.finalSnapshot legResults
      navigation.terminalStopVerified
  else if navigation.terminalStopVerified = false then
    .inr <$> r.result plan .legFailed startedAtMs navigation.finalSnapshot legResults false
  else do
    let boundary ← onShared (r.navigation.observe goal)
    if boundary.worldModelVersion ≠ plan.basedOnWorldModelVersion then
      .inr <$> r.stopAndResult plan goal .planStale startedAtMs boundary legResults
    else return .inl boundary

def runLeg (r : MissionRunner σ) (plan : MissionPlan) (startedAtMs : Int) (index : Fin plan.legs.length)
    (legResults : List MissionLegResult) :
    Run σ ((NavigationSnapshot ⊕ MissionResult) × List MissionLegResult) := do
  let goal := r.goal plan index
  let snapshot ← onShared (r.navigation.observe goal)
  if (← onShared r.navigation.cancelled) then
    return (.inr (← r.stopAndResult plan goal .aborted startedAtMs snapshot legResults), legResults)
  else if snapshot.worldModelVersion ≠ plan.basedOnWorldModelVersion then
    return (.inr (← r.stopAndResult plan goal .planStale startedAtMs snapshot legResults), legResults)
  else
    let elapsedMs := max 0 ((← r.navigation.clock) - startedAtMs)
    match r.remainingLimits (totals legResults) elapsedMs with
    | none =>
      return (.inr (← r.stopAndResult plan goal .budgetExhausted startedAtMs snapshot legResults), legResults)
    | some limits =>
      let navigation ← (r.leg plan limits).runToEnd goal
      let legResults := legResults ++ [⟨index, plan.legs[index], goal, navigation⟩]
      return (← r.afterLeg plan goal startedAtMs legResults navigation, legResults)

def runLegs (r : MissionRunner σ) (plan : MissionPlan) (startedAtMs : Int) :
    List (Fin plan.legs.length) → NavigationSnapshot → List MissionLegResult → Run σ MissionResult
  | [], snapshot, legResults => r.result plan .completed startedAtMs snapshot legResults true
  | index :: rest, _, legResults => do
    match ← r.runLeg plan startedAtMs index legResults with
    | (.inl snapshot, legResults) => r.runLegs plan startedAtMs rest snapshot legResults
    | (.inr result, _) => return result

def run (r : MissionRunner σ) (plan : MissionPlan) : Run σ MissionResult := do
  Prog.failIf (plan.legs.length > r.missionLimits.maxLegs)
    (.contract ⟨"mission_leg_budget_exceeded", "Mission plan exceeds the configured leg budget"⟩)
  let startedAtMs ← r.navigation.clock
  let first := r.goal plan ⟨0, plan.legsOk.1⟩
  let snapshot ← onShared (r.navigation.observe first)
  match plan.assertMatchesSnapshot snapshot with
  | .error _ => r.stopAndResult plan first .planRejected startedAtMs snapshot []
  | .ok () => r.runLegs plan startedAtMs (List.finRange plan.legs.length) snapshot []

end MissionRunner

end RobotLlm.Navigation
