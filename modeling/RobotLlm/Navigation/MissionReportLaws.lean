import RobotLlm.Navigation.MissionLaws
import RobotLlm.Navigation.ReplanLaws

/-!
# What a mission reports

The totals of a mission are sums over its legs, and a leg's limits are what
the legs before it left. A leg keeps its limits but in two places: a drain
takes all the proposals there are before they are counted, and a retry may be
counted as one replan too many. Both end the leg.
-/

namespace RobotLlm.Navigation

open RobotLlm.Lib Prog

namespace NavigationEpisode

variable {σ : Type} {e : NavigationEpisode σ} {s : EpisodeState σ} {l : LoopState}

-- The counters of a leg

structure Spared (e : NavigationEpisode σ) (c : Counters) : Prop where
  ticks : c.ticks ≤ e.limits.maxTicks
  actions : c.actions ≤ e.limits.maxActions
  motion : c.totalMotionMs ≤ e.limits.maxTotalMotionMs

def Within (e : NavigationEpisode σ) (c : Counters) : Prop := e.Spared c ∧ c.proposals ≤ e.limits.maxProposals

/-- How the counters leave the loop: a drain that overran its budget ends the
run for that. -/
def Quits (e : NavigationEpisode σ) : Exit ⊕ Raised → EpisodeState σ → Prop
  | .inl x, _ => e.Spared x.counters ∧ (x.counters.proposals ≤ e.limits.maxProposals ∨ x.termination = .budgetExhausted)
  | .inr _, _ => True

theorem Within.quits {x : Exit} (h : e.Within x.counters) : e.Quits (.inl x) s := ⟨h.1, .inl h.2⟩

theorem uncaught_quits (x : Run σ α) : Triple (uncaught x) s (fun _ _ => True) e.Quits :=
  Triple.mapError ((Triple.unknown x s).mono (fun _ _ _ => trivial) fun _ _ _ => trivial)

theorem attempt_quits (x : Run σ α) :
    Triple (Prog.attempt x : Tick σ (Except Raised α)) s (fun _ _ => True) e.Quits :=
  Triple.attempt (P := fun _ _ => True) (Triple.unknown x s)

theorem exitIfCancelled_quits {x : Exit} (h : e.Within x.counters) :
    Triple (e.exitIfCancelled x) s (fun _ _ => True) e.Quits := by
  refine Triple.bind (uncaught_quits (onShared e.cancelled)) fun cancelled s₁ _ => ?_
  exact Triple.check (fun _ => Within.quits h) fun _ => trivial

theorem precheck_quits (h : e.Within l.counters) :
    Triple (e.precheck goal started retrying l) s (fun _ _ => l.counters.ticks < e.limits.maxTicks) e.Quits := by
  refine Triple.bind (exitIfCancelled_quits h) fun _ s₁ _ => ?_
  refine Triple.step get_run (Triple.failIf (fun _ => Within.quits h) fun _ => ?_)
  refine Triple.failIf (fun _ => Within.quits h) fun _ => ?_
  refine Triple.step rfl (Triple.failIf (fun _ => Within.quits h) fun hb => ?_)
  refine Triple.check (fun _ => Within.quits h) fun _ => ?_
  simp only [BudgetsSpent, not_or] at hb
  exact Nat.not_le.mp hb.1

theorem publish_quits (h : e.Within l.counters) : Triple (e.publish goal l) s (fun _ _ => True) e.Quits := by
  refine Triple.bind (attempt_quits _) fun directive s₁ _ => ?_
  cases directive with
  | ok directive => exact Triple.of_run rfl trivial
  | error error => exact Triple.throw (Within.quits h)

theorem revokeIf_quits [Decidable c] {x : Exit} (h : e.Within x.counters) :
    Triple (revokeIf c pulse x) s (fun _ _ => ¬ c) e.Quits := by
  unfold revokeIf
  refine Triple.ite (fun _ => ?_) fun hc => Triple.pure hc
  refine Triple.bind (attempt_quits _) fun revoked s₁ _ => ?_
  cases revoked <;> exact Triple.throw (Within.quits h)

/-- What a dispatched drive adds to fits in what is left. -/
def Affords (e : NavigationEpisode σ) (c : Counters) (pulse : DrivePulse) : Prop :=
  pulse.kind = .drive → c.actions + 1 ≤ e.limits.maxActions ∧ c.totalMotionMs + pulse.durationMs ≤ e.limits.maxTotalMotionMs

theorem beforeDispatch_quits (h : e.Within l.counters) :
    Triple (e.beforeDispatch started pulse l) s (fun _ _ => e.Affords l.counters pulse) e.Quits := by
  refine Triple.bind (uncaught_quits (onShared e.cancelled)) fun cancelled s₁ _ => ?_
  refine Triple.bind (revokeIf_quits h) fun _ s₂ _ => ?_
  refine Triple.bind (revokeIf_quits h) fun _ s₃ hbudget => ?_
  refine Triple.step rfl ((revokeIf_quits h).mono (fun _ _ _ hdrive => ?_) fun _ _ h => h)
  simp only [hdrive, true_and, not_or, not_lt] at hbudget
  exact ⟨Nat.not_lt.mp (Nat.not_lt.mpr hbudget.1), hbudget.2⟩

theorem Affords.account (h : e.Affords l.counters pulse) (hw : e.Within l.counters)
    (hticks : l.counters.ticks < e.limits.maxTicks) : e.Within (account l pulse) := by
  obtain ⟨⟨-, hactions, hmotion⟩, hproposals⟩ := hw
  refine ⟨⟨hticks, ?_, ?_⟩, hproposals⟩
  all_goals
    unfold NavigationEpisode.account
    dsimp only
    split
    next hdrive => exact (h hdrive).elim fun _ _ => by assumption
    next => assumption

theorem verify_quits (h : e.Within (account l pulse)) :
    Triple (e.verify goal l proposals pulse after) s (fun l' _ => e.Within l'.counters) e.Quits := by
  refine Triple.bind (attempt_quits _) fun delivered s₁ _ => ?_
  refine orExit_run (fun _ _ => Within.quits h) fun _ _ => ?_
  refine Triple.failIf (fun _ => Within.quits h) fun _ => ?_
  refine Triple.failIf (fun _ => Within.quits h) fun _ => ?_
  refine Triple.failIf (fun _ => Within.quits h) fun _ => ?_
  refine Triple.failIf (fun _ => Within.quits h) fun _ => ?_
  exact Triple.pure h

theorem reobserve_quits (h : e.Within l.counters) :
    Triple (e.reobserve goal l) s (fun l' _ => e.Within l'.counters) e.Quits := by
  refine Triple.bind (attempt_quits _) fun observed s₁ _ => ?_
  refine orExit_run (fun _ _ => Within.quits h) fun fresh _ => ?_
  refine orExit_run (fun _ _ => Within.quits h) fun fresh _ => ?_
  refine Triple.failIf (fun _ => Within.quits h) fun _ => ?_
  refine Triple.bind (attempt_quits _) fun delivered s₂ _ => ?_
  refine orExit_run (fun _ _ => Within.quits h) fun _ _ => ?_
  refine Triple.failIf (fun _ => Within.quits h) fun _ => ?_
  exact Triple.pure ⟨⟨h.1.ticks, h.1.actions, h.1.motion⟩, h.2⟩

theorem dispatch_quits (h : e.Within l.counters) (ha : e.Affords l.counters pulse)
    (hticks : l.counters.ticks < e.limits.maxTicks) :
    Triple (e.dispatch goal proposals pulse l) s (fun l' _ => e.Within l'.counters) e.Quits := by
  refine Triple.bind (attempt_quits _) fun applied s₁ _ => ?_
  cases applied with
  | ok after =>
    refine orExit_run (fun _ _ => Within.quits h) fun _ _ => verify_quits ?_
    exact Affords.account (l := l.log "EXECUTING") ha h hticks
  | error error =>
    cases error with
    | other => exact Triple.throw (Within.quits h)
    | contract error => exact Triple.ite (fun _ => reobserve_quits h) fun _ => Triple.throw (Within.quits h)

theorem tick_quits (h : e.Within l.counters) :
    Triple (e.tick goal started l) s (fun l' _ => e.Within l'.counters) e.Quits := by
  refine Triple.bind (precheck_quits h) fun _ s₁ hticks => ?_
  refine Triple.bind (publish_quits h) fun directive s₂ _ => ?_
  refine Triple.bind (exitIfCancelled_quits h) fun _ s₃ _ => ?_
  refine Triple.bind (uncaught_quits _) fun proposals s₄ _ => ?_
  have hspared : e.Spared { l.counters with proposals := l.counters.proposals + proposals.length } :=
    ⟨h.1.ticks, h.1.actions, h.1.motion⟩
  refine Triple.failIf (fun _ => ⟨hspared, .inr rfl⟩) fun hdrained => ?_
  have hw : e.Within { l.counters with proposals := l.counters.proposals + proposals.length } :=
    ⟨hspared, Nat.not_lt.mp hdrained⟩
  refine Triple.bind (uncaught_quits _) fun pulse s₅ _ => ?_
  refine Triple.bind (beforeDispatch_quits hw) fun _ s₆ ha => ?_
  exact dispatch_quits hw ha hticks

def Overrun (termination : Termination) : Prop :=
  termination = .budgetExhausted ∨ termination = .safetyStop ∨ termination = .executionFailed

structure Reported (e : NavigationEpisode σ) (n : NavigationResult) : Prop where
  spared : e.Spared n.counters
  proposals : n.counters.proposals ≤ e.limits.maxProposals ∨ n.completed = false ∧ Overrun n.termination

theorem resultOf_overrun {x : Exit} (h : x.termination = .budgetExhausted) :
    (resultOf goal x final verified).completed = false ∧ Overrun (resultOf goal x final verified).termination := by
  unfold resultOf Overrun
  rw [h]
  dsimp only
  constructor
  · split <;> simp
  · split
    · split <;> simp
    · simp

theorem finish_reported {x : Exit} (h : e.Quits (.inl x) s) : Returns e.Reported (e.finish goal x) := by
  refine Returns.next fun _ => Returns.next fun stopped => Returns.next fun _ => Returns.pure ⟨h.1, ?_⟩
  exact h.2.imp id fun hx => resultOf_overrun hx

theorem loop_reported (fuel : Nat) (h : e.Within l.counters) :
    Triple (e.loop goal started fuel l) s (fun r _ => ∀ n, r = some n → e.Reported n) (fun _ _ => True) := by
  induction fuel generalizing l s with
  | zero =>
    have hrun : e.loop goal started 0 l s = (.ok none, s) := rfl
    refine Triple.of_run hrun fun n hn => ?_
    cases hn
  | succ fuel ih =>
    have ht : Triple (e.tick goal started l) s _ _ := tick_quits h
    unfold Triple loop
    rcases hr : e.tick goal started l s with ⟨(x | error) | l', s'⟩
    · refine Triple.bind (f := fun r => pure (some r)) (finish_reported (ht.error hr) s') ?_
      rintro n s'' hn
      exact Triple.pure fun n' hn' => Option.some.inj hn' ▸ hn
    · trivial
    · exact ih (ht.ok hr)

theorem within_start (e : NavigationEpisode σ) : e.Within {} := by
  have hmotion := e.limits.motionOk.1
  exact ⟨⟨Nat.zero_le _, Nat.zero_le _, by dsimp only; omega⟩, Nat.zero_le _⟩

theorem run_reported (fuel : Nat) (goal : WaypointGoal) :
    Triple (e.run fuel goal) s (fun r _ => ∀ n, r = some n → e.Reported n) (fun _ _ => True) := by
  refine Triple.step rfl ?_
  refine Triple.bind (Triple.unknown _ _) fun snapshot s₁ _ => ?_
  refine Triple.bind (Triple.attempt (P := fun _ _ => True) (Triple.unknown _ _)) fun delivered s₂ _ => ?_
  cases delivered with
  | ok _ => exact loop_reported fuel e.within_start
  | error error =>
    refine Triple.bind (finish_reported (s := s₂) (Within.quits e.within_start) s₂) ?_
    rintro n s₃ hn
    exact Triple.pure fun n' hn' => Option.some.inj hn' ▸ hn

theorem run_spares_replans (fuel : Nat) (goal : WaypointGoal)
    (hnone : ∀ a, e.Passes goal s a → ¬ e.Overdraws goal (e.clockMs s.shared.world) a) :
    Triple (e.run fuel goal) s (fun r _ => ∀ n, r = some n → n.counters.replans ≤ e.limits.maxReplans)
      (fun _ _ => True) := by
  refine Triple.step rfl ?_
  refine Triple.bind ((Triple.run (onShared (e.observe goal)) s).mono (fun _ _ h => h) fun _ _ _ => trivial) ?_
  intro snapshot s₁ hobs
  refine Triple.bind (Triple.attempt
    (P := fun r t => onShared (e.observationSink snapshot) s₁ = (r, t)) (Triple.run _ s₁)) ?_
  intro delivered s₂ hsink
  cases delivered with
  | ok _ =>
    have hs : e.Starts goal s (loopStart snapshot goal, s₂) := ⟨snapshot, s₁, hobs, hsink, rfl⟩
    have hturns := (passes_iff hs).mp hnone
    unfold Triple
    split
    next hrun =>
      rintro n rfl
      exact (loop_replans fuel ⟨rfl, Nat.zero_le _⟩ hrun).mpr hturns
    next => trivial
  | error error =>
    refine Triple.bind (finish_counters goal _ s₂) ?_
    rintro n s₃ hn
    refine Triple.pure fun n' hn' => ?_
    rw [← Option.some.inj hn', hn]
    exact Nat.zero_le _

end NavigationEpisode

namespace MissionRunner

variable {σ : Type} {r : MissionRunner σ} {plan : MissionPlan} {m : MissionResult} {s s' : EpisodeState σ}
  {legResults : List MissionLegResult}

open NavigationEpisode (Run onShared)

-- The order of the legs

/-- An observation of the goal shows the plan's world model. -/
def Unchanged (r : MissionRunner σ) (plan : MissionPlan) (goal : WaypointGoal) (s s' : EpisodeState σ) : Prop :=
  ∃ snapshot, onShared (r.navigation.observe goal) s = (.ok snapshot, s') ∧
    snapshot.worldModelVersion = plan.basedOnWorldModelVersion

/-- The leg was started from an unchanged world and uncancelled, and ran. -/
structure Started (r : MissionRunner σ) (plan : MissionPlan) (index : Nat) (value : MissionLegResult)
    (s s' : EpisodeState σ) : Prop where
  legIndex : value.legIndex = index
  ran : ∃ limits s₁ s₂, r.Unchanged plan value.goal s s₁ ∧ onShared r.navigation.cancelled s₁ = (.ok false, s₂) ∧
    (r.leg plan limits).runToEnd value.goal s₂ = (.ok value.navigation, s')

/-- The legs so far are over and the next may start: each completed, its STOP
was verified and the world found unchanged. -/
inductive Ready (r : MissionRunner σ) (plan : MissionPlan) : List MissionLegResult → EpisodeState σ → Prop
  | first (start : EpisodeState σ) : Ready r plan [] start
  | next {before ended after : EpisodeState σ} : Ready r plan done before →
      r.Started plan done.length value before ended → value.navigation.completed = true →
      value.navigation.terminalStopVerified = true → r.Unchanged plan value.goal ended after →
      Ready r plan (done ++ [value]) after

/-- The legs were started in order, each when the ones before it were over. -/
def Ran (r : MissionRunner σ) (plan : MissionPlan) (legResults : List MissionLegResult) : Prop :=
  legResults = [] ∨ ∃ done value s s', legResults = done ++ [value] ∧ r.Ready plan done s ∧
    r.Started plan done.length value s s'

theorem Ready.ran (h : r.Ready plan legResults s) : r.Ran plan legResults := by
  cases h with
  | first => exact .inl rfl
  | next hready hstarted => exact .inr ⟨_, _, _, _, rfl, hready, hstarted⟩

theorem Ready.completed (h : r.Ready plan legResults s) : ∀ v ∈ legResults, v.navigation.completed = true := by
  induction h with
  | first => simp
  | next hready hstarted hcompleted _ _ ih =>
    intro v hv
    rcases List.mem_append.mp hv with hv | hv
    · exact ih v hv
    · rwa [List.mem_singleton.mp hv]

-- The totals

/-- No turn of a leg retries with its last replan and gets the pulse through. -/
def SparesRetries (r : MissionRunner σ) (plan : MissionPlan) : Prop :=
  ∀ limits goal s a, (r.leg plan limits).Passes goal s a →
    ¬ (r.leg plan limits).Overdraws goal (r.navigation.clockMs s.shared.world) a

structure Spared (r : MissionRunner σ) (plan : MissionPlan) (c : Counters) : Prop where
  ticks : c.ticks ≤ r.missionLimits.maxTicks
  actions : c.actions ≤ r.missionLimits.maxActions
  motion : c.totalMotionMs ≤ r.missionLimits.maxTotalMotionMs
  replans : r.SparesRetries plan → c.replans ≤ r.missionLimits.maxReplans

structure Ahead (r : MissionRunner σ) (plan : MissionPlan) (legResults : List MissionLegResult)
    (s : EpisodeState σ) : Prop where
  ready : r.Ready plan legResults s
  spared : r.Spared plan (totals legResults)
  proposals : (totals legResults).proposals ≤ r.missionLimits.maxProposals

/-- How a mission ends whose last leg overran its proposals. -/
def Overrun (termination : MissionTermination) : Prop :=
  termination = .budgetExhausted ∨ termination = .safetyStop ∨ termination = .legFailed

theorem overrun_terminationOf {t : Termination} (h : NavigationEpisode.Overrun t) : Overrun (terminationOf t) := by
  rcases h with rfl | rfl | rfl
  · exact .inl rfl
  · exact .inr (.inl rfl)
  · exact .inr (.inr rfl)

theorem runToEnd_reported {limits : NavigationLimits} (goal : WaypointGoal) :
    Triple ((r.leg plan limits).runToEnd goal) s
      (fun n _ => (r.leg plan limits).Reported n ∧ (r.SparesRetries plan → n.counters.replans ≤ limits.maxReplans))
      (fun _ _ => True) := by
  have hreplans : Triple ((r.leg plan limits).run ((r.leg plan limits).limits.maxTicks +
      (r.leg plan limits).limits.maxReplans + 1) goal) s
      (fun x _ => r.SparesRetries plan → ∀ n, x = some n → n.counters.replans ≤ limits.maxReplans)
      (fun _ _ => True) := by
    by_cases h : r.SparesRetries plan
    · exact (NavigationEpisode.run_spares_replans _ goal (h limits goal s)).mono (fun _ _ hn _ => hn) fun _ _ h => h
    · exact (Triple.unknown _ _).mono (fun _ _ _ h' => absurd h' h) fun _ _ h => h
  refine Triple.bind (((NavigationEpisode.run_reported _ goal).and hreplans).mono (fun _ _ h => h)
    fun _ _ _ => trivial) ?_
  rintro x s' ⟨hreported, hreplans⟩
  cases x with
  | none => exact Triple.throw trivial
  | some n => exact Triple.pure ⟨hreported n rfl, fun h => hreplans h n rfl⟩

theorem Spared.leg {limits : NavigationLimits} (value : MissionLegResult)
    (hlimits : r.remainingLimits (totals legResults) elapsed = some limits)
    (hn : (r.leg plan limits).Reported value.navigation)
    (hreplans : r.SparesRetries plan → value.navigation.counters.replans ≤ limits.maxReplans) :
    r.Spared plan (totals (legResults ++ [value])) ∧
      ((totals (legResults ++ [value])).proposals ≤ r.missionLimits.maxProposals ∨
        value.navigation.completed = false ∧ NavigationEpisode.Overrun value.navigation.termination) := by
  obtain ⟨hleA, hleM, hleT, hleP, hleR⟩ := remainingLimits_le hlimits
  obtain ⟨hA, hM, hT, hP, hR⟩ := totals_append legResults value
  obtain ⟨⟨hticks, hactions, hmotion⟩, hproposals⟩ := hn
  refine ⟨⟨?_, ?_, ?_, fun hr => ?_⟩, hproposals.imp (fun hwithin => ?_) id⟩
  · rw [hT]
    exact (Nat.add_le_add_left hticks _).trans hleT
  · rw [hA]
    exact (Nat.add_le_add_left hactions _).trans hleA
  · rw [hM]
    exact (Int.add_le_add_left hmotion _).trans hleM
  · rw [hR]
    exact (Nat.add_le_add_left (hreplans hr) _).trans hleR
  · rw [hP]
    exact (Nat.add_le_add_left hwithin _).trans hleP

-- The report

/-- The final snapshot shows the robot at rest and well. -/
def Clean (snapshot : NavigationSnapshot) : Prop :=
  snapshot.motorsRunning = false ∧ snapshot.touchPressed = false ∧ snapshot.activeFaults = []

def Whole (plan : MissionPlan) (legResults : List MissionLegResult) : Prop :=
  legResults.length = plan.legs.length ∧ ∀ v ∈ legResults, v.navigation.completed = true

structure Reports (r : MissionRunner σ) (plan : MissionPlan) (termination : MissionTermination)
    (legResults : List MissionLegResult) (verified : Bool) (m : MissionResult) : Prop where
  legResults_eq : m.legResults = legResults
  totals_eq : m.totals = totals legResults
  termination_eq : termination ≠ .completed → m.termination = termination
  completed_iff : m.completed = true ↔ m.termination = .completed ∧ Whole plan legResults ∧ verified = true ∧
    Clean m.finalSnapshot ∧ m.elapsedMs ≤ r.missionLimits.maxElapsedMs
  verified_eq : m.terminalStopVerified = verified
  elapsed_le : m.termination = .completed → m.elapsedMs ≤ r.missionLimits.maxElapsedMs

theorem result_reports :
    Returns (r.Reports plan termination legResults verified)
      (r.result plan termination started final legResults verified) := by
  refine Returns.next fun now => Returns.next fun _ => Returns.pure ⟨rfl, rfl, fun h => ?_, ?_, rfl, fun h => ?_⟩
  · exact if_neg fun h' => h h'.1
  · simp only [Bool.and_eq_true, decide_eq_true_eq, Bool.not_eq_true', List.all_eq_true, List.isEmpty_iff, Whole, Clean]
    tauto
  · by_contra hlate
    dsimp only at h
    split at h
    next => cases h
    next hnot => exact hnot ⟨h, Int.not_le.mp hlate⟩

structure Kept (r : MissionRunner σ) (plan : MissionPlan) (m : MissionResult) : Prop where
  spared : r.Spared plan m.totals
  proposals : m.totals.proposals ≤ r.missionLimits.maxProposals ∨ m.completed = false ∧ Overrun m.termination
  ran : r.Ran plan m.legResults
  completed_iff : m.completed = true ↔ m.termination = .completed ∧ Clean m.finalSnapshot
  completed : m.completed = true → Whole plan m.legResults ∧ m.terminalStopVerified = true ∧
    m.elapsedMs ≤ r.missionLimits.maxElapsedMs

theorem Reports.failed (h : r.Reports plan termination legResults verified m) (hne : termination ≠ .completed)
    (hs : r.Spared plan (totals legResults))
    (hp : (totals legResults).proposals ≤ r.missionLimits.maxProposals ∨ Overrun termination)
    (hr : r.Ran plan legResults) : r.Kept plan m := by
  have hterm := h.termination_eq hne
  have hnot : m.completed ≠ true := fun hc => hne (hterm ▸ (h.completed_iff.mp hc).1)
  refine ⟨h.totals_eq ▸ hs, ?_, h.legResults_eq ▸ hr, ?_, fun hc => absurd hc hnot⟩
  · rw [h.totals_eq, hterm]
    exact hp.imp id fun ho => ⟨Bool.eq_false_iff.mpr hnot, ho⟩
  · rw [hterm]
    exact iff_of_false hnot fun hc => hne hc.1

theorem Reports.finished (h : r.Reports plan .completed legResults true m) (ha : r.Ahead plan legResults s)
    (hall : legResults.length = plan.legs.length) : r.Kept plan m := by
  have hwhole : Whole plan legResults := ⟨hall, ha.ready.completed⟩
  refine ⟨h.totals_eq ▸ ha.spared, .inl (h.totals_eq ▸ ha.proposals), h.legResults_eq ▸ ha.ready.ran, ?_, fun hc => ?_⟩
  · rw [h.completed_iff]
    exact ⟨fun hc => ⟨hc.1, hc.2.2.2.1⟩, fun hc => ⟨hc.1, hwhole, rfl, hc.2, h.elapsed_le hc.1⟩⟩
  · exact ⟨h.legResults_eq ▸ hwhole, h.verified_eq, (h.completed_iff.mp hc).2.2.2.2⟩

theorem stopAndResult_kept {goal : WaypointGoal} (ha : r.Ahead plan legResults s) (hne : termination ≠ .completed) :
    Returns (r.Kept plan) (r.stopAndResult plan goal termination started snapshot legResults) :=
  Returns.next fun _ =>
    result_reports.mono fun _ h => h.failed hne ha.spared (.inl ha.proposals) ha.ready.ran

-- One leg

def LegEnds (r : MissionRunner σ) (plan : MissionPlan) (count : Nat) :
    (NavigationSnapshot ⊕ MissionResult) × List MissionLegResult → EpisodeState σ → Prop
  | (.inl _, legResults), s => legResults.length = count + 1 ∧ r.Ahead plan legResults s
  | (.inr m, _), _ => r.Kept plan m

theorem terminationOf_ne (t : Termination) : terminationOf t ≠ .completed := by
  cases t <;> decide

theorem afterLeg_kept {value : MissionLegResult} (hready : r.Ready plan legResults s)
    (hstarted : r.Started plan legResults.length value s s')
    (hs : r.Spared plan (totals (legResults ++ [value])))
    (hp : (totals (legResults ++ [value])).proposals ≤ r.missionLimits.maxProposals ∨
      value.navigation.completed = false ∧ NavigationEpisode.Overrun value.navigation.termination) :
    Triple (r.afterLeg plan value.goal started (legResults ++ [value]) value.navigation) s'
      (fun x t => r.LegEnds plan legResults.length (x, legResults ++ [value]) t) (fun _ _ => True) := by
  have hran : r.Ran plan (legResults ++ [value]) := .inr ⟨_, _, _, _, rfl, hready, hstarted⟩
  unfold afterLeg
  refine Triple.ite (fun hfailed => ?_) fun hcompleted => ?_
  · refine Triple.map ((result_reports s').mono (fun m t h => ?_) fun _ _ h => h)
    exact h.failed (terminationOf_ne _) hs (hp.imp id fun ho => overrun_terminationOf ho.2) hran
  have hp' : (totals (legResults ++ [value])).proposals ≤ r.missionLimits.maxProposals :=
    hp.resolve_right fun ho => hcompleted ho.1
  refine Triple.ite (fun hunverified => ?_) fun hverified => ?_
  · exact Triple.map ((result_reports s').mono (fun m t h => h.failed (by decide) hs (.inl hp') hran) fun _ _ h => h)
  refine Triple.bind ((Triple.run (onShared (r.navigation.observe value.goal)) s').mono (fun _ _ h => h)
    fun _ _ _ => trivial) fun boundary s₁ hobs => ?_
  refine Triple.ite (fun _ => ?_) fun hworld => ?_
  · refine Triple.map (Triple.bind (Triple.unknown _ _) fun stopped s₂ _ => ?_)
    exact (result_reports s₂).mono (fun m t h => h.failed (by decide) hs (.inl hp') hran) fun _ _ h => h
  · refine Triple.pure ⟨List.length_append, ?_, hs, hp'⟩
    exact .next hready hstarted (by simpa using hcompleted) (by simpa using hverified)
      ⟨boundary, hobs, not_not.mp hworld⟩

theorem runLeg_kept (ha : r.Ahead plan legResults s) (index : Fin plan.legs.length)
    (hindex : index.val = legResults.length) :
    Triple (r.runLeg plan started index legResults) s (r.LegEnds plan legResults.length) (fun _ _ => True) := by
  have stop : ∀ {t : EpisodeState σ} {termination snapshot}, termination ≠ .completed →
      Triple (do
        let m ← r.stopAndResult plan (r.goal plan index) termination started snapshot legResults
        return (Sum.inr m, legResults) : Run σ _) t (r.LegEnds plan legResults.length) (fun _ _ => True) := by
    intro t termination snapshot hne
    exact Triple.bind (stopAndResult_kept ha hne t) fun m t' h => Triple.pure h
  refine Triple.bind ((Triple.run (onShared (r.navigation.observe _)) s).mono (fun _ _ h => h)
    fun _ _ _ => trivial) fun snapshot s₁ hobs => ?_
  refine Triple.bind ((Triple.run (onShared r.navigation.cancelled) s₁).mono (fun _ _ h => h)
    fun _ _ _ => trivial) fun cancelled s₂ hcancelled => ?_
  refine Triple.ite (fun _ => stop (by decide)) fun hgoing => ?_
  refine Triple.ite (fun _ => stop (by decide)) fun hworld => ?_
  refine Triple.step rfl ?_
  dsimp only
  split
  next => exact stop (by decide)
  next limits hlimits =>
    refine Triple.bind (((Triple.run _ s₂).and (runToEnd_reported (r.goal plan index))).mono (fun _ _ h => h)
      fun _ _ _ => trivial) ?_
    rintro navigation s₃ ⟨hrun, hreported, hreplans⟩
    have hstarted : r.Started plan legResults.length ⟨index, plan.legs[index], r.goal plan index, navigation⟩ s s₃ :=
      ⟨hindex, limits, s₁, s₂, ⟨snapshot, hobs, not_not.mp hworld⟩,
        by simpa [Bool.eq_false_iff.mpr hgoing] using hcancelled, hrun⟩
    obtain ⟨hs, hp⟩ := Spared.leg ⟨index, plan.legs[index], r.goal plan index, navigation⟩ hlimits hreported hreplans
    refine Triple.bind (afterLeg_kept ha.ready hstarted hs hp) ?_
    exact fun x t h => Triple.pure h

-- The whole mission

theorem finRange_split {n : Nat} {done rest : List (Fin n)} {index : Fin n} (h : List.finRange n = done ++ index :: rest) :
    index.val = done.length := by
  have hget : (List.finRange n)[done.length]? = some index := by
    rw [h, List.getElem?_append_right (Nat.le_refl _), Nat.sub_self, List.getElem?_cons_zero]
  obtain ⟨hlt, hget⟩ := List.getElem?_eq_some_iff.mp hget
  rw [List.getElem_finRange] at hget
  exact (congrArg Fin.val hget).symm

theorem runLegs_kept (done indices : List (Fin plan.legs.length))
    (hsplit : List.finRange plan.legs.length = done ++ indices) (hdone : done.length = legResults.length)
    (ha : r.Ahead plan legResults s) :
    Triple (r.runLegs plan started indices snapshot legResults) s (fun m _ => r.Kept plan m) (fun _ _ => True) := by
  induction indices generalizing legResults snapshot s done with
  | nil =>
    have hall := congrArg List.length hsplit
    simp only [List.length_finRange, List.append_nil] at hall
    exact (result_reports s).mono (fun m _ h => h.finished ha (by omega)) fun _ _ h => h
  | cons index rest ih =>
    refine Triple.bind (runLeg_kept ha index ((finRange_split hsplit).trans hdone)) ?_
    rintro ⟨next | m, legResults'⟩ s₁ h₁
    · refine ih (done ++ [index]) ?_ ?_ h₁.2
      · rw [List.append_assoc, List.singleton_append, hsplit]
      · rw [List.length_append, List.length_singleton, hdone, h₁.1]
    · exact Triple.pure h₁

/-- A mission that returns has kept its limits and order, but for a last
drain; it is completed exactly if it ended so and the robot is well. -/
theorem run_kept (r : MissionRunner σ) (plan : MissionPlan) (s s' : EpisodeState σ) (m : MissionResult)
    (h : r.run plan s = (.ok m, s')) : r.Kept plan m := by
  have hmotion := r.missionLimits.motionOk.1
  have ha : ∀ t : EpisodeState σ, r.Ahead plan [] t := fun t =>
    ⟨.first t, ⟨Nat.zero_le _, Nat.zero_le _, by show (0 : Int) ≤ _; omega, fun _ => Nat.zero_le _⟩, Nat.zero_le _⟩
  have hrun : Triple (r.run plan) s (fun m _ => r.Kept plan m) (fun _ _ => True) := by
    refine Triple.failIf (fun _ => trivial) fun _ => Triple.step rfl ?_
    refine Triple.bind (Triple.unknown _ _) fun snapshot s₁ _ => ?_
    split
    next => exact stopAndResult_kept (ha s₁) (by decide) s₁
    next => exact runLegs_kept [] _ rfl rfl (ha s₁)
  exact hrun.ok h

-- Missions of one leg

theorem dock_legIdOk : identifierOk "dock" 96 := by decide

theorem dock_planIdOk : identifierOk "plan-1" := by decide

theorem dock_legsOk : 1 ≤ 1 ∧ 1 ≤ maxMissionLegs := by decide

def dockPlan (worldModelVersion : Int) (h : Between worldModelVersion 1 counterMax) : MissionPlan where
  planId := "plan-1"
  robotId := "ev3rstorm"
  controllerInstanceId := "controller-1"
  basedOnStateVersion := 8
  basedOnWorldModelVersion := worldModelVersion
  planRevision := 1
  legs := [{ legId := "dock", targetXMm := 0, targetYMm := 0, legIdOk := dock_legIdOk,
             targetXOk := between_origin, targetYOk := between_origin,
             toleranceOk := MotionSupervisor.sampleGoal.toleranceOk }]
  planIdOk := dock_planIdOk
  robotIdOk := MotionSupervisor.sampleSupervisor.robotIdOk
  controllerOk := MotionSupervisor.sampleSupervisor.controllerOk
  stateVersionOk := MotionSupervisor.sampleHold.proposal.stateVersionOk
  legsOk := dock_legsOk
  legIdsOk := List.nodup_singleton _
  worldModelVersionOk := h
  planRevisionOk := between_one_counterMax

/-- A mission of one proposal, on a plant that shows `first`, answers its one
pulse with `after` and shows `later` from then on. -/
def dockRunner (first after later : NavigationSnapshot) (proposals : List StampedProposal) :
    MissionRunner NavigationEpisode.SamplePlant where
  navigation :=
    { NavigationEpisode.sampleEpisode first after proposals with
      observe := fun _ s => match s.world with
        | .ready => (.ok first, s)
        | .moved => (.ok later, s) }
  startingGoalEpoch := 4
  missionLimits := { MissionLimits.oneLeg with maxProposals := 1, proposalsOk := ⟨by decide, by decide⟩ }
  startingGoalEpochOk := ⟨by decide, by decide⟩

theorem dockRunner_contract {first after later : NavigationSnapshot} (hf : first.stateVersion = 8)
    (ha : after.stateVersion = 9) (hl : later.stateVersion = 9) (proposals : List StampedProposal) :
    (dockRunner first after later proposals).navigation.PlantContract (fun _ => 0)
      NavigationEpisode.SamplePlant.version := by
  have hc := NavigationEpisode.sampleEpisode_contract hf ha proposals
  refine { hc with observe_clock := fun _ s => ?_, observe_version := fun _ s now s' h => ?_ }
  · exact ⟨by simp [dockRunner, NavigationEpisode.sampleEpisode], Int.le_refl _⟩
  · obtain ⟨world, supervisor⟩ := s
    cases world <;> simp only [dockRunner] at h <;> cases h
    · exact hf
    · exact hl

/-- A mission that starts at its dock completes. -/
theorem run_kept_dock : ∃ m s,
    (dockRunner MotionSupervisor.sampleClear MotionSupervisor.sampleClearLater MotionSupervisor.sampleClearLater []).run
      (dockPlan 1 between_one_counterMax) { shared := NavigationEpisode.sampleShared } = (.ok m, s) ∧
    m.completed = true ∧ m.termination = .completed ∧ Clean m.finalSnapshot := by
  let r := dockRunner MotionSupervisor.sampleClear MotionSupervisor.sampleClearLater MotionSupervisor.sampleClearLater []
  have hdone : ((r.run (dockPlan 1 between_one_counterMax) { shared := NavigationEpisode.sampleShared }).1.toOption.any
      (·.completed)) = true := by decide +kernel
  rcases hrun : r.run (dockPlan 1 between_one_counterMax) { shared := NavigationEpisode.sampleShared } with
    ⟨error | m, s⟩ <;> rw [hrun] at hdone
  · cases hdone
  · exact ⟨m, s, rfl, hdone, (run_kept r _ _ s m hrun).completed_iff.mp hdone⟩

/-- The touch sensor, after the leg's own last snapshot. -/
def sampleTouched : NavigationSnapshot :=
  { MotionSupervisor.sampleClearLater with touchPressed := true }

/-- Two proposals drained at once are reported against a budget of one, and a
touch after the last leg leaves a mission that ended as completed without
being so. -/
theorem drain_and_touch :
    (¬ ∀ (σ : Type) (r : MissionRunner σ) (others version : σ → Int) (plan : MissionPlan) (s s' : EpisodeState σ)
        (m : MissionResult), r.navigation.PlantContract others version → r.run plan s = (.ok m, s') →
        m.totals.proposals ≤ r.missionLimits.maxProposals) ∧
    ¬ ∀ (σ : Type) (r : MissionRunner σ) (others version : σ → Int) (plan : MissionPlan) (s s' : EpisodeState σ)
        (m : MissionResult), r.navigation.PlantContract others version → r.run plan s = (.ok m, s') →
        (m.completed = true ↔ m.termination = .completed) := by
  constructor
  · intro hall
    let r := dockRunner NavigationEpisode.sampleFar MotionSupervisor.sampleClearLater MotionSupervisor.sampleClearLater
      [MotionSupervisor.sampleHold, MotionSupervisor.sampleHold]
    let plan := dockPlan 2 NavigationEpisode.sampleFar.worldModelVersionOk
    have hover : ((r.run plan { shared := NavigationEpisode.sampleShared }).1.toOption.any fun m =>
        (1 < m.totals.proposals : Bool)) = true := by decide +kernel
    rcases hrun : r.run plan { shared := NavigationEpisode.sampleShared } with ⟨error | m, s⟩ <;> rw [hrun] at hover
    · cases hover
    · have hwithin := hall _ r _ _ plan _ s m (dockRunner_contract rfl rfl rfl _) hrun
      exact absurd hwithin (Nat.not_le.mpr (of_decide_eq_true hover))
  · intro hall
    let r := dockRunner MotionSupervisor.sampleClear MotionSupervisor.sampleClearLater sampleTouched []
    let plan := dockPlan 1 between_one_counterMax
    have htouched : ((r.run plan { shared := NavigationEpisode.sampleShared }).1.toOption.any fun m =>
        (m.termination = .completed : Bool) && !m.completed) = true := by decide +kernel
    rcases hrun : r.run plan { shared := NavigationEpisode.sampleShared } with ⟨error | m, s⟩ <;> rw [hrun] at htouched
    · cases htouched
    · obtain ⟨hterm, hnot⟩ := Bool.and_eq_true_iff.mp htouched
      have hdone := (hall _ r _ _ plan _ s m (dockRunner_contract rfl rfl rfl _) hrun).mpr (of_decide_eq_true hterm)
      simp [hdone] at hnot

end MissionRunner

end RobotLlm.Navigation
