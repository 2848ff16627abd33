import Mathlib.Logic.Relation
import RobotLlm.Navigation.SpendLaws

/-!
# The replan budget of an episode

The head of the loop stops a run whose replans are spent, but lets the retry
of a stale dispatch pass. A retry that was granted the last replan and whose
pulse the plant takes is counted as a tick, and so as one replan more than
the budget; nothing else overdraws it.
-/

namespace RobotLlm.Navigation

open RobotLlm.Lib Prog

namespace NavigationEpisode

variable {σ : Type} {e : NavigationEpisode σ} {s s' t t' : EpisodeState σ} {l l' : LoopState}

-- What one turn of the loop does to the counters

def SameReplans (c c' : Counters) : Prop := c'.ticks = c.ticks ∧ c'.replans = c.replans

structure Executed (e : NavigationEpisode σ) (l : LoopState) (c : Counters) : Prop where
  ticks : c.ticks = l.counters.ticks + 1
  replans : c.replans = replansOf l.staleDispatchReplans c.ticks
  allowed : l.staleRetryGranted = true ∨ l.counters.replans < e.limits.maxReplans

/-- The turn's pulse was stale and a retry was granted. -/
structure Granted (e : NavigationEpisode σ) (l l' : LoopState) : Prop where
  ticks : l'.counters.ticks = l.counters.ticks
  stale : l'.staleDispatchReplans = l.staleDispatchReplans + 1
  replans : l'.counters.replans = replansOf l'.staleDispatchReplans l'.counters.ticks
  granted : l'.staleRetryGranted = true
  allowed : l.counters.replans < e.limits.maxReplans

def GoesOn (e : NavigationEpisode σ) (l l' : LoopState) : Prop :=
  (e.Executed l l'.counters ∧ l'.staleDispatchReplans = l.staleDispatchReplans ∧ l'.staleRetryGranted = false) ∨
    e.Granted l l'

def Leaving (e : NavigationEpisode σ) (l : LoopState) : Exit ⊕ Raised → EpisodeState σ → Prop
  | .inl x, _ => SameReplans l.counters x.counters ∨ e.Executed l x.counters
  | .inr _, _ => True

theorem uncaught_leaving (x : Run σ α) : Triple (uncaught x) s (fun _ _ => True) (Leaving e l) :=
  Triple.mapError ((Triple.unknown x s).mono (fun _ _ _ => trivial) fun _ _ _ => trivial)

theorem attempt_leaving (x : Run σ α) :
    Triple (Prog.attempt x : Tick σ (Except Raised α)) s (fun _ _ => True) (Leaving e l) :=
  Triple.attempt (P := fun _ _ => True) (Triple.unknown x s)

theorem exitIfCancelled_leaving {x : Exit} (h : SameReplans l.counters x.counters) :
    Triple (e.exitIfCancelled x) s (fun _ _ => True) (Leaving e l) := by
  refine Triple.bind (uncaught_leaving (onShared e.cancelled)) fun cancelled s₁ _ => ?_
  exact Triple.check (fun _ => .inl h) fun _ => trivial

theorem precheck_leaving :
    Triple (e.precheck goal started l.staleRetryGranted { l with staleRetryGranted := false }) s
      (fun _ _ => l.staleRetryGranted = true ∨ l.counters.replans < e.limits.maxReplans) (Leaving e l) := by
  have leave : ∀ {t : EpisodeState σ} termination,
      Leaving e l (.inl ({ l with staleRetryGranted := false : LoopState }.exit termination)) t := fun _ =>
    show SameReplans _ _ ∨ _ from .inl ⟨rfl, rfl⟩
  refine Triple.bind (exitIfCancelled_leaving ⟨rfl, rfl⟩) fun _ s₁ _ => ?_
  refine Triple.step get_run (Triple.failIf (fun _ => leave _) fun _ => ?_)
  refine Triple.failIf (fun _ => leave _) fun _ => ?_
  refine Triple.step rfl (Triple.failIf (fun _ => leave _) fun hb => ?_)
  refine Triple.check (fun _ => leave _) fun _ => ?_
  simp only [BudgetsSpent, not_or, not_and, Bool.not_eq_false] at hb
  obtain ⟨-, -, -, -, hreplans, -⟩ := hb
  by_cases hleft : l.counters.replans < e.limits.maxReplans
  · exact .inr hleft
  · exact .inl (hreplans (Nat.not_lt.mp hleft))

theorem publish_leaving (h : SameReplans l.counters l'.counters) :
    Triple (e.publish goal l') s (fun _ _ => True) (Leaving e l) := by
  refine Triple.bind (attempt_leaving _) fun directive s₁ _ => ?_
  cases directive with
  | ok directive => exact Triple.of_run rfl trivial
  | error error => exact Triple.throw (.inl h)

theorem revokeIf_leaving [Decidable c] {x : Exit} (h : SameReplans l.counters x.counters) :
    Triple (revokeIf c pulse x) s (fun _ _ => True) (Leaving e l) := by
  unfold revokeIf
  refine Triple.ite (fun _ => ?_) fun _ => Triple.pure trivial
  refine Triple.bind (attempt_leaving _) fun revoked s₁ _ => ?_
  cases revoked <;> exact Triple.throw (.inl h)

theorem beforeDispatch_leaving (h : SameReplans l.counters l'.counters) :
    Triple (e.beforeDispatch started pulse l') s (fun _ _ => True) (Leaving e l) := by
  refine Triple.bind (uncaught_leaving (onShared e.cancelled)) fun cancelled s₁ _ => ?_
  refine Triple.bind (revokeIf_leaving h) fun _ s₂ _ => ?_
  refine Triple.bind (revokeIf_leaving h) fun _ s₃ _ => ?_
  exact Triple.step rfl (revokeIf_leaving h)

/-- What a turn has in hand when it dispatches: the counters and the stale
dispatches it began with. -/
structure Ready (e : NavigationEpisode σ) (l l' : LoopState) : Prop where
  same : SameReplans l.counters l'.counters
  stale : l'.staleDispatchReplans = l.staleDispatchReplans
  granted : l'.staleRetryGranted = false
  allowed : l.staleRetryGranted = true ∨ l.counters.replans < e.limits.maxReplans

theorem Ready.executed (h : e.Ready l l') (pulse : DrivePulse) : e.Executed l (account l' pulse) := by
  refine ⟨?_, ?_, h.allowed⟩
  · exact congrArg (· + 1) h.same.1
  · exact congrArg (replansOf · _) h.stale

theorem verify_leaving (h : e.Ready l l') :
    Triple (e.verify goal l' proposals pulse after) s (fun l'' _ => GoesOn e l l'') (Leaving e l) := by
  have counted := h.executed pulse
  refine Triple.bind (attempt_leaving _) fun delivered s₁ _ => ?_
  refine orExit_run (fun _ _ => .inr counted) fun _ _ => ?_
  refine Triple.failIf (fun _ => .inr counted) fun _ => ?_
  refine Triple.failIf (fun _ => .inr counted) fun _ => ?_
  refine Triple.failIf (fun _ => .inr counted) fun _ => ?_
  refine Triple.failIf (fun _ => .inr counted) fun _ => ?_
  exact Triple.pure (.inl ⟨counted, h.stale, h.granted⟩)

theorem reobserve_leaving (h : e.Ready l l') :
    Triple (e.reobserve goal l') s (fun l'' _ => GoesOn e l l'') (Leaving e l) := by
  refine Triple.bind (attempt_leaving _) fun observed s₁ _ => ?_
  refine orExit_run (fun _ _ => .inl h.same) fun fresh _ => ?_
  refine orExit_run (fun _ _ => .inl h.same) fun fresh _ => ?_
  refine Triple.failIf (fun _ => .inl h.same) fun _ => ?_
  refine Triple.bind (attempt_leaving _) fun delivered s₂ _ => ?_
  refine orExit_run (fun _ _ => .inl h.same) fun _ _ => ?_
  refine Triple.failIf (fun _ => .inl h.same) fun hreplans => ?_
  refine Triple.pure (.inr ⟨h.same.1, congrArg (· + 1) h.stale, rfl, rfl, ?_⟩)
  rw [← h.same.2]
  exact Nat.not_le.mp hreplans

theorem dispatch_leaving (h : e.Ready l l') :
    Triple (e.dispatch goal proposals pulse l') s (fun l'' _ => GoesOn e l l'') (Leaving e l) := by
  have h' : e.Ready l (l'.log "EXECUTING") := ⟨h.same, h.stale, h.granted, h.allowed⟩
  refine Triple.bind (attempt_leaving _) fun applied s₁ _ => ?_
  cases applied with
  | ok after => exact orExit_run (fun _ _ => .inl h.same) fun _ _ => verify_leaving h'
  | error error =>
    cases error with
    | other => exact Triple.throw (.inl h.same)
    | contract error =>
      exact Triple.ite (fun _ => reobserve_leaving h') fun _ => Triple.throw (.inl h.same)

theorem tick_leaving : Triple (e.tick goal started l) s (fun l' _ => GoesOn e l l') (Leaving e l) := by
  refine Triple.bind precheck_leaving fun _ s₁ hallowed => ?_
  refine Triple.bind (publish_leaving ⟨rfl, rfl⟩) fun directive s₂ _ => ?_
  refine Triple.bind (exitIfCancelled_leaving ⟨rfl, rfl⟩) fun _ s₃ _ => ?_
  refine Triple.bind (uncaught_leaving _) fun proposals s₄ _ => ?_
  refine Triple.failIf (fun _ => .inl ⟨rfl, rfl⟩) fun _ => ?_
  refine Triple.bind (uncaught_leaving _) fun pulse s₅ _ => ?_
  refine Triple.bind (beforeDispatch_leaving ⟨rfl, rfl⟩) fun _ s₆ _ => ?_
  exact dispatch_leaving ⟨⟨rfl, rfl⟩, rfl, rfl, hallowed⟩

theorem tick_overdrawn (hspent : e.limits.maxReplans ≤ l.counters.replans) (hr : l.staleRetryGranted = false) :
    Triple (e.tick goal started l) s (fun _ _ => False)
      (fun r _ => ∀ x, r = .inl x → x.counters.replans = l.counters.replans) := by
  have blocked : ¬ (l.staleRetryGranted = true ∨ l.counters.replans < e.limits.maxReplans) := by
    simp [hr, hspent]
  have ht : Triple (e.tick goal started l) s (fun l' _ => GoesOn e l l') (Leaving e l) := tick_leaving
  refine ht.mono ?_ ?_
  · rintro l' s' (⟨h, -⟩ | h)
    · exact blocked h.allowed
    · exact blocked (.inr h.allowed)
  · rintro r s' h x rfl
    rcases h with h | h
    · exact h.2
    · exact absurd h.allowed blocked

-- Whole runs

/-- The head of the loop: its variables and the run's state there. -/
abbrev Head (σ : Type) := LoopState × EpisodeState σ

/-- A turn that goes on, from one head of the loop to the next. -/
def Turn (e : NavigationEpisode σ) (goal : WaypointGoal) (started : Int) (a b : Head σ) : Prop :=
  e.tick goal started a.1 a.2 = (.ok b.1, b.2)

def loopStart (snapshot : NavigationSnapshot) (goal : WaypointGoal) : LoopState :=
  { reducer := snapshot, trace := ["CREATED", "OBSERVING"], bestDistance := distanceToGoalMm snapshot goal }

def Starts (e : NavigationEpisode σ) (goal : WaypointGoal) (s : EpisodeState σ) (a : Head σ) : Prop :=
  ∃ snapshot s₁, onShared (e.observe goal) s = (.ok snapshot, s₁) ∧
    onShared (e.observationSink snapshot) s₁ = (.ok (), a.2) ∧ a.1 = loopStart snapshot goal

/-- A run from `s` comes to the head of the loop at `a`. -/
def Passes (e : NavigationEpisode σ) (goal : WaypointGoal) (s : EpisodeState σ) (a : Head σ) : Prop :=
  ∃ first, e.Starts goal s first ∧ Relation.ReflTransGen (e.Turn goal (e.clockMs s.shared.world)) first a

/-- A granted retry that holds the last replan, after a tick. -/
def LastRetry (e : NavigationEpisode σ) (l : LoopState) : Prop :=
  l.staleRetryGranted = true ∧ 0 < l.counters.ticks ∧ l.counters.replans = e.limits.maxReplans

def countersAfter : Except (Exit ⊕ Raised) LoopState → Option Counters
  | .ok l => some l.counters
  | .error (.inl x) => some x.counters
  | .error (.inr _) => none

/-- The turn at `a` retries with the last replan, and the plant takes its
pulse this time. -/
def Overdraws (e : NavigationEpisode σ) (goal : WaypointGoal) (started : Int) (a : Head σ) : Prop :=
  e.LastRetry a.1 ∧ ∃ c ∈ countersAfter (e.tick goal started a.1 a.2).1, c.ticks = a.1.counters.ticks + 1

/-- What holds at the head of the loop while the budget does. -/
structure InBudget (e : NavigationEpisode σ) (l : LoopState) : Prop where
  replans : l.counters.replans = replansOf l.staleDispatchReplans l.counters.ticks
  within : l.counters.replans ≤ e.limits.maxReplans

theorem Executed.within_iff (h : e.Executed l c) (hi : e.InBudget l) :
    c.replans ≤ e.limits.maxReplans ↔ ¬ e.LastRetry l := by
  obtain ⟨hreplans, hwithin⟩ := hi
  rw [h.replans, h.ticks]
  unfold replansOf at hreplans ⊢
  unfold LastRetry
  constructor
  · rintro hle ⟨-, hticks, hlast⟩
    omega
  · intro hnot
    rcases h.allowed with hr | hleft
    · simp only [hr, true_and, not_and] at hnot
      by_cases hticks : 0 < l.counters.ticks
      · have := hnot hticks
        omega
      · omega
    · omega

theorem Executed.exceeds (h : e.Executed l c) (hi : e.InBudget l) (hlast : e.LastRetry l) :
    e.limits.maxReplans < c.replans :=
  Nat.not_le.mp fun hle => (h.within_iff hi).mp hle hlast

theorem Granted.inBudget (h : e.Granted l l') (hi : e.InBudget l) : e.InBudget l' := by
  refine ⟨h.replans, ?_⟩
  have hreplans := hi.replans
  have hallowed := h.allowed
  rw [h.replans, h.stale, h.ticks]
  unfold replansOf at hreplans ⊢
  omega

theorem finish_counters (goal : WaypointGoal) (x : Exit) :
    Returns (fun r => r.counters = x.counters) (e.finish goal x) :=
  Returns.next fun _ => Returns.next fun _ => Returns.next fun _ => Returns.pure rfl

theorem reaches_iff {P : Head σ → Prop} (h : e.tick goal started l s = (.ok l', t)) :
    (∀ a, Relation.ReflTransGen (e.Turn goal started) (l, s) a → P a) ↔
      P (l, s) ∧ ∀ a, Relation.ReflTransGen (e.Turn goal started) (l', t) a → P a := by
  constructor
  · intro hall
    have hturn : e.Turn goal started (l, s) (l', t) := h
    exact ⟨hall _ .refl, fun a ha => hall a (.head hturn ha)⟩
  · rintro ⟨hhere, hnext⟩ a ha
    rcases Relation.ReflTransGen.cases_head ha with rfl | ⟨b, hb, hrest⟩
    · exact hhere
    · -- the loop is a function, so there is one next head
      have hsame : b = (l', t) := by
        unfold Turn at hb
        rw [h] at hb
        injection hb with h₁ h₂
        injection h₁ with h₁
        exact Prod.ext h₁.symm h₂.symm
      rw [hsame] at hrest
      exact hnext a hrest

theorem reaches_left {P : Head σ → Prop} (h : e.tick goal started l s = (.error r, t)) :
    (∀ a, Relation.ReflTransGen (e.Turn goal started) (l, s) a → P a) ↔ P (l, s) := by
  refine ⟨fun hall => hall _ .refl, fun hhere a ha => ?_⟩
  rcases Relation.ReflTransGen.cases_head ha with rfl | ⟨b, hb, -⟩
  · exact hhere
  · unfold Turn at hb
    rw [h] at hb
    cases hb

theorem overdraws_iff (h : (e.tick goal started l s).1 = r) (hc : countersAfter r = some c) :
    e.Overdraws goal started (l, s) ↔ e.LastRetry l ∧ c.ticks = l.counters.ticks + 1 := by
  unfold Overdraws
  simp only [h, hc, Option.mem_some_iff, exists_eq_left']

theorem loop_overdrawn (fuel : Nat) (hspent : e.limits.maxReplans < l.counters.replans)
    (hr : l.staleRetryGranted = false) (h : e.loop goal started fuel l s = (.ok (some r), s')) :
    e.limits.maxReplans < r.counters.replans := by
  cases fuel with
  | zero => cases h
  | succ fuel =>
    have ht : Triple (e.tick goal started l) s _ _ := tick_overdrawn (Nat.le_of_lt hspent) hr
    unfold loop at h
    rcases htick : e.tick goal started l s with ⟨(x | error) | l', t⟩ <;> simp only [htick] at h
    · obtain ⟨_, t', hfinish, hsome⟩ := bind_ok.mp h
      cases hsome
      rw [(finish_counters goal x t).ok hfinish, ht.error htick x rfl]
      exact hspent
    · cases h
    · exact (ht.ok htick).elim

theorem loop_replans (fuel : Nat) (hi : e.InBudget l) (h : e.loop goal started fuel l s = (.ok (some r), s')) :
    r.counters.replans ≤ e.limits.maxReplans ↔
      ∀ a, Relation.ReflTransGen (e.Turn goal started) (l, s) a → ¬ e.Overdraws goal started a := by
  induction fuel generalizing l s with
  | zero => cases h
  | succ fuel ih =>
    have ht : Triple (e.tick goal started l) s _ _ := tick_leaving
    unfold loop at h
    rcases htick : e.tick goal started l s with ⟨(x | error) | l', t⟩ <;> simp only [htick] at h
    · obtain ⟨_, t', hfinish, hsome⟩ := bind_ok.mp h
      cases hsome
      rw [reaches_left htick, overdraws_iff (congrArg Prod.fst htick) rfl, (finish_counters goal x t).ok hfinish]
      rcases ht.error htick with hsame | hexecuted
      · rw [hsame.1, hsame.2]
        exact iff_of_true hi.within fun hover => absurd hover.2 (by omega)
      · rw [hexecuted.within_iff hi, and_iff_left hexecuted.ticks]
    · cases h
    · rw [reaches_iff htick, overdraws_iff (congrArg Prod.fst htick) rfl]
      rcases ht.ok htick with ⟨hexecuted, hstale, hgranted⟩ | hgranted
      · by_cases hlast : e.LastRetry l
        · have hout := loop_overdrawn fuel (hexecuted.exceeds hi hlast) hgranted h
          exact iff_of_false (Nat.not_le.mpr hout) fun hall => hall.1 ⟨hlast, hexecuted.ticks⟩
        · have hnext : e.InBudget l' := ⟨hstale ▸ hexecuted.replans, (hexecuted.within_iff hi).mpr hlast⟩
          rw [ih hnext h]
          exact (and_iff_right fun hover => hlast hover.1).symm
      · rw [ih (hgranted.inBudget hi) h]
        have hticks := hgranted.ticks
        exact (and_iff_right fun hover => absurd hover.2 (by omega)).symm

theorem passes_iff {P : Head σ → Prop} (hs : e.Starts goal s first) :
    (∀ a, e.Passes goal s a → P a) ↔
      ∀ a, Relation.ReflTransGen (e.Turn goal (e.clockMs s.shared.world)) first a → P a := by
  refine ⟨fun hall a ha => hall a ⟨first, hs, ha⟩, ?_⟩
  rintro hall a ⟨other, ⟨snapshot', s₁', hobs', hsink', hinit'⟩, ha⟩
  obtain ⟨snapshot, s₁, hobs, hsink, hinit⟩ := hs
  rw [hobs] at hobs'
  cases hobs'
  rw [hsink] at hsink'
  injection hsink' with _ hstate
  have hsame : other = first := Prod.ext (hinit'.trans hinit.symm) hstate.symm
  exact hall a (hsame ▸ ha)

/-- A plant far from the goal that takes every pulse but the second: a newer
world model made that one stale. -/
inductive ChangingPlant where
  | first
  | second
  | changed
  | retried
  | stopped

def ChangingPlant.version : ChangingPlant → Nat
  | .first => 8
  | .second => 9
  | .changed => 10
  | .retried => 11
  | .stopped => 12

def ChangingPlant.next : ChangingPlant → ChangingPlant
  | .first => .second
  | .second => .changed
  | .changed => .retried
  | .retried | .stopped => .stopped

def changingSnapshot (plant : ChangingPlant) : NavigationSnapshot :=
  { sampleFar with
    stateVersion := plant.version
    worldModelVersion := if plant.version < 10 then 2 else 3
    stateVersionOk := by cases plant <;> decide
    worldModelVersionOk := by cases plant <;> decide }

def changingEpisode : NavigationEpisode ChangingPlant where
  supervisor := MotionSupervisor.sampleSupervisor
  limits := { NavigationLimits.standard with maxReplans := 1, replansOk := by decide }
  plantProfile := MotionSupervisor.sampleProfile
  idleTickMs := 20
  idleTickOk := sampleTickOk
  clockMs _ := 960
  observe _ := fun s => (.ok (changingSnapshot s.world), s)
  apply _ _ := fun s =>
    let s' := { s with world := s.world.next }
    match s.world with
    | .second => (.error (.contract ⟨"stale_drive_pulse", "Drive pulse is not bound to current state"⟩), s')
    | _ => (.ok (changingSnapshot s'.world), s')
  publishLocal _ _ := pure ()
  drain s := ([], s)
  beforeArbitration _ := pure none
  observationSink _ := pure ()
  cancelled := pure false
  supervisorClock s := (.ok 960, s)
  freshId s := (.ok (["decision-8", "decision-9", "decision-10", "decision-11", "decision-12"].getD
    (s.world.version - 8) "decision"), s)

def changingState : EpisodeState ChangingPlant :=
  { shared := ⟨.first, { authority := sampleAuthority 4 8 }⟩ }

theorem changing_run : ∃ r s,
    changingEpisode.run 5 MotionSupervisor.sampleGoal changingState = (.ok (some r), s) ∧
    changingEpisode.limits.maxReplans < r.counters.replans := by
  have hover : ((changingEpisode.run 5 MotionSupervisor.sampleGoal changingState).1.toOption.any (·.any fun r =>
      (changingEpisode.limits.maxReplans < r.counters.replans : Bool))) = true := by decide +kernel
  rcases hrun : changingEpisode.run 5 MotionSupervisor.sampleGoal changingState with ⟨error | _ | r, s⟩ <;>
    rw [hrun] at hover
  · cases hover
  · cases hover
  · exact ⟨r, s, rfl, of_decide_eq_true hover⟩

end NavigationEpisode

end RobotLlm.Navigation
