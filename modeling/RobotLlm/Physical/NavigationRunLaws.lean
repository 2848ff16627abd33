import RobotLlm.Physical.NavigationRun

/-!
# What a run offers its planner

The gates can leave nothing to choose, and then the run ends. They never hide
an observation that has to authorize a route.
-/

namespace RobotLlm.Physical

open RobotLlm.Odometry (Action)

-- One call

section
variable {facts : TurnFacts} {last : Option ToolResult}

/-- The routes that have to be authorized before anything else. -/
def requiredIds (facts : TurnFacts) (last : Option ToolResult) : List String :=
  routeAuthorizationRequiredIds facts (observeWithoutInformationGain last)

structure MotionOpen (facts : TurnFacts) (action : Action) : Prop where
  motion : action.IsMotion
  feasible : facts.navigation.motionFeasible action = true
  budget : motionBudgetAllows action facts = true
  scanned : isDetourTurn action = true → detourScanRequired facts = []
  guided : ∀ allowed, facts.allowedMotionActions = some allowed → action ∈ allowed

structure NothingLeft (facts : TurnFacts) (last : Option ToolResult) : Prop where
  observed : observeWithoutInformationGain last = true
  authorized : requiredIds facts last = []
  mission : facts.missionCompleted = false
  scan : scanAvailable facts = false
  motions : ∀ action, ¬ MotionOpen facts action

theorem availableActions_authorized (h : requiredIds facts last ≠ []) : availableActions facts last = [.observe] := by
  have hrequired : (routeAuthorizationRequiredIds facts (observeWithoutInformationGain last)).isEmpty = false := by
    simpa [requiredIds] using h
  have hprepare : prepareNavigationAvailability facts (observeWithoutInformationGain last) = [.observe] := by
    rw [prepareNavigationAvailability, hrequired]
    rfl
  rw [availableActions, hprepare]
  cases facts.allowedMotionActions <;> cases facts.missionCompleted <;> rfl

theorem mem_filterLocalDetourActions {actions : List Action} {allowed : Option (List Action)} {action : Action} :
    action ∈ filterLocalDetourActions actions allowed ↔
      action ∈ actions ∧ (action.IsMotion → ∀ motions, allowed = some motions → action ∈ motions) := by
  cases allowed with
  | none => simp [filterLocalDetourActions]
  | some motions =>
    rw [filterLocalDetourActions, List.mem_filter]
    by_cases hmotion : action.IsMotion <;> simp [hmotion]

theorem mem_availableActions (h : requiredIds facts last = []) {action : Action} : action ∈ availableActions facts last ↔
    (action = .observe → observeWithoutInformationGain last = false) ∧ (action = .finish → facts.missionCompleted = true) ∧
      (action = .scanFrontArc → scanAvailable facts = true) ∧ (action.IsMotion → MotionOpen facts action) := by
  have hrequired : (routeAuthorizationRequiredIds facts (observeWithoutInformationGain last)).isEmpty = true := by
    simpa [requiredIds] using h
  have hfinish : action ∈ availableActions facts last ↔
      action ∈ filterLocalDetourActions (prepareNavigationAvailability facts (observeWithoutInformationGain last)) facts.allowedMotionActions ∧
        (action = .finish → facts.missionCompleted = true) := by
    rw [availableActions]
    cases facts.missionCompleted <;> simp
  rw [hfinish, mem_filterLocalDetourActions, prepareNavigationAvailability]
  simp only [hrequired, Bool.and_true, if_true, availableNavigationActions, List.mem_filter]
  have hopen : MotionOpen facts action ↔ action.IsMotion ∧ facts.navigation.motionFeasible action = true ∧
      motionBudgetAllows action facts = true ∧ (isDetourTurn action = true → detourScanRequired facts = []) ∧
        ∀ allowed, facts.allowedMotionActions = some allowed → action ∈ allowed :=
    ⟨fun h => ⟨h.motion, h.feasible, h.budget, h.scanned, h.guided⟩, fun h => ⟨h.1, h.2.1, h.2.2.1, h.2.2.2.1, h.2.2.2.2⟩⟩
  rw [hopen]
  simp only [Bool.and_eq_true, Bool.or_eq_true, Bool.not_eq_true', decide_eq_false_iff_not]
  cases action <;> simp [allActions, Action.IsMotion, isDetourTurn, and_assoc]

theorem observe_not_mem_iff : .observe ∉ availableActions facts last ↔
    observeWithoutInformationGain last = true ∧ requiredIds facts last = [] := by
  by_cases h : requiredIds facts last = []
  · rw [mem_availableActions h]
    simp [h, Action.IsMotion]
  · rw [availableActions_authorized h]
    simp [h]

theorem availableActions_eq_nil_iff : availableActions facts last = [] ↔ NothingLeft facts last := by
  constructor
  · intro hnil
    have hno : ∀ action, action ∉ availableActions facts last := fun action => by simp [hnil]
    obtain ⟨hobserved, hrequired⟩ := observe_not_mem_iff.mp (hno .observe)
    have hnot := fun action => (@mem_availableActions facts last hrequired action).not.mp (hno action)
    refine ⟨hobserved, hrequired, ?_, ?_, ?_⟩
    · simpa [Action.IsMotion] using hnot .finish
    · simpa [Action.IsMotion] using hnot .scanFrontArc
    · intro action hopen
      refine hnot action ⟨?_, ?_, ?_, fun _ => hopen⟩
      all_goals
        rintro rfl
        exact hopen.motion.elim
  · intro h
    rw [List.eq_nil_iff_forall_not_mem]
    intro action hmem
    obtain ⟨hobserve, hfinish, hscan, hmotion⟩ := (mem_availableActions h.authorized).mp hmem
    cases action with
    | observe => exact absurd (hobserve rfl) (by simp [h.observed])
    | finish => exact absurd (hfinish rfl) (by simp [h.mission])
    | scanFrontArc => exact absurd (hscan rfl) (by simp [h.scan])
    | _ => exact h.motions _ (hmotion trivial)

end

-- A whole run

section
variable {world : World} {config : RunConfig}

theorem plannerDecide_nil {attempt : Nat} {call : PlannerCall} (h : call.availableActions = []) :
    plannerDecide world attempt call = .failed := by
  have hnone : (plannerActions call).isEmpty = true := by rw [plannerActions, h]; rfl
  rw [plannerDecide, hnone]
  rfl

theorem validatedDecision_nil {call : PlannerCall} (h : call.availableActions = []) :
    ∀ left attempt, ∃ reason, validatedDecision world call attempt (left + 1) = .ends reason := by
  intro left
  induction left with
  | zero =>
    intro attempt
    rw [validatedDecision, plannerDecide_nil h]
    dsimp only
    cases world.gate call.turn attempt with
    | none => exact ⟨_, rfl⟩
    | some reason => exact ⟨_, rfl⟩
  | succ left ih =>
    intro attempt
    rw [validatedDecision, plannerDecide_nil h]
    dsimp only
    cases world.gate call.turn attempt with
    | none =>
      rw [if_neg (Nat.succ_ne_zero left)]
      exact ih (attempt + 1)
    | some reason => exact ⟨_, rfl⟩

/-- The last result is an observation without gain only after one was made. -/
def Observed (world : World) (turn : Nat) (last : Option ToolResult) : Prop :=
  observeWithoutInformationGain last = true → ∃ earlier < turn, world.observed earlier = .ok "NONE"

theorem Observed.apply {turn : Nat} {last : Option ToolResult} (h : Observed world turn last) (handoff : Handoff) :
    Observed world turn (handoff.apply last) := by
  intro hlast
  cases handoff with
  | skipped => exact h hlast
  | unmoved =>
    cases last with
    | none => exact absurd hlast (by decide)
    | some result => exact h hlast
  | _ => exact absurd hlast (by simp [Handoff.apply, observeWithoutInformationGain])

theorem Observed.next {turn : Nat} {last : Option ToolResult} (h : Observed world turn last) : Observed world (turn + 1) last := by
  intro hlast
  obtain ⟨earlier, hlt, hearlier⟩ := h hlast
  exact ⟨earlier, Nat.lt_succ_of_lt hlt, hearlier⟩

theorem observed_carryOut {turn : Nat} {action : Action} {result : ToolResult} (h : carryOut world turn action = .leaves result) :
    Observed world (turn + 1) (some result) := by
  intro hlast
  rw [carryOut.eq_def] at h
  split at h
  · split at h
    next gain hgain =>
      cases h
      have hnone : gain = "NONE" := by simpa [observeWithoutInformationGain] using hlast
      exact ⟨turn, Nat.lt_succ_self turn, hnone ▸ hgain⟩
    · cases h
  · split at h <;> cases h
    exact absurd hlast (by decide)
  · split at h <;> cases h
    exact absurd hlast (by decide)

/-- What holds of each call of a run with this result. -/
structure CallOk (world : World) (result : RunResult) (call : PlannerCall) : Prop where
  offered : call.availableActions = availableActions call.facts call.lastToolResult
  observed : Observed world call.turn call.lastToolResult
  last : call.availableActions = [] → result.calls.getLast? = some call ∧ result.completed = false

theorem CallOk.cons {result : RunResult} {call : PlannerCall} (h : CallOk world result call) (hmem : call ∈ result.calls) (first : PlannerCall) :
    CallOk world { result with calls := first :: result.calls } call := by
  refine ⟨h.offered, h.observed, fun hnil => ?_⟩
  obtain ⟨hlast, hcompleted⟩ := h.last hnil
  cases hcalls : result.calls with
  | nil => simp [hcalls] at hmem
  | cons second rest =>
    rw [hcalls] at hlast
    exact ⟨by rw [List.getLast?_cons_cons, hlast], hcompleted⟩

theorem afterCall_cases {call : PlannerCall} (hlast : Observed world call.turn call.lastToolResult) (deferred : Bool)
    (next : Option ToolResult → Bool → RunResult) :
    (∃ reason completed, afterCall world config call deferred next = ⟨[], reason, completed⟩ ∧ (call.availableActions = [] → completed = false)) ∨
      ∃ last deferred', afterCall world config call deferred next = next last deferred' ∧ Observed world (call.turn + 1) last ∧
        call.availableActions ≠ [] := by
  obtain ⟨attempts, hattempts⟩ := Nat.exists_eq_add_of_le' config.attempts
  have hnil : call.availableActions = [] → ∃ reason, validatedDecision world call 1 config.maxValidationAttempts = .ends reason := by
    intro hnone
    rw [hattempts]
    exact validatedDecision_nil hnone attempts 1
  rw [afterCall]
  cases hdecided : validatedDecision world call 1 config.maxValidationAttempts with
  | ends reason => exact .inl ⟨reason, false, rfl, fun _ => rfl⟩
  | nothing =>
    have hsome : call.availableActions ≠ [] := fun hnone => by
      obtain ⟨reason, hreason⟩ := hnil hnone
      rw [hdecided] at hreason
      cases hreason
    cases deferred with
    | true => exact .inl ⟨_, false, rfl, fun _ => rfl⟩
    | false => exact .inr ⟨_, true, rfl, hlast.next, hsome⟩
  | action action =>
    have hsome : call.availableActions ≠ [] := fun hnone => by
      obtain ⟨reason, hreason⟩ := hnil hnone
      rw [hdecided] at hreason
      cases hreason
    dsimp only
    cases world.dispatch call.turn with
    | some reason => exact .inl ⟨reason, false, rfl, fun _ => rfl⟩
    | none =>
      dsimp only
      split
      · exact .inl ⟨_, true, rfl, fun hnone => absurd hnone hsome⟩
      · cases hcarried : carryOut world call.turn action with
        | ends reason => exact .inl ⟨reason, false, rfl, fun _ => rfl⟩
        | leaves result => exact .inr ⟨_, false, rfl, observed_carryOut hcarried, hsome⟩

theorem turns_calls : ∀ left turn last deferred, Observed world turn last →
    ∀ call ∈ (turns world config left turn last deferred).calls, CallOk world (turns world config left turn last deferred) call := by
  intro left
  induction left with
  | zero => simp [turns]
  | succ left ih =>
    intro turn last deferred hlast
    rw [turns]
    cases world.turn turn with
    | ends reason => simp
    | asks facts handoff =>
      dsimp only
      have hshown : Observed world turn (if deferred = true then last else handoff.apply last) := by
        split
        · exact hlast
        · exact hlast.apply handoff
      generalize (if deferred = true then last else handoff.apply last) = shown at hshown ⊢
      obtain ⟨reason, completed, hrest, hnil⟩ | ⟨last', deferred', hrest, hlast', hsome⟩ :=
        @afterCall_cases world config ⟨turn, facts, shown, availableActions facts shown⟩ hshown deferred
          (turns world config left (turn + 1))
      · rw [hrest]
        refine List.forall_mem_singleton.mpr ⟨rfl, hshown, fun hnone => ⟨rfl, hnil hnone⟩⟩
      · rw [hrest]
        refine List.forall_mem_cons.mpr ⟨⟨rfl, hshown, fun hnone => absurd hnone hsome⟩, fun call hmem => ?_⟩
        exact (ih (turn + 1) last' deferred' hlast' call hmem).cons hmem _

end

/-- One hazard ahead that was scanned, no room to move, and the planner looks
again and sees the same. -/
def enclosedFacts : TurnFacts where
  navigation :=
    { hypotheses := [⟨"hazard-1", true, false⟩]
      conflicts := [⟨"hazard-1", true⟩]
      motionFeasible := fun _ => false
      activeScan := ⟨false, "provisional_hazard_rotation_sweep_collision"⟩ }
  activeManeuver := none
  scanBlockedTargetIds := ["hazard-1"]
  scanBudgetAllows := true
  actionSpecs := fun _ => some ⟨1, 500⟩
  budgets := ⟨false, 40, 20000⟩
  allowedMotionActions := none
  missionCompleted := false

def enclosed : World where
  turn _ := .asks enclosedFacts .skipped
  infer _ _ _ := .decision .observe true
  gate _ _ := none
  dispatch _ := none
  observed _ := .ok "NONE"
  carried _ := none

end RobotLlm.Physical
