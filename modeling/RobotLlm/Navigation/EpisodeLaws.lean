import RobotLlm.Navigation.Episode
import RobotLlm.Navigation.SupervisorLaws

/-!
# What a navigation episode may spend

Every way out of a tick is followed from the counters and the clock it leaves.
Only a dispatch moves the plant's own clock, and only by the time of its
pulse, so the checks before it bound the clock after it. The one pulse that
can escape the counters is one whose snapshot the reducer refuses.
-/

namespace RobotLlm.Navigation

open RobotLlm.Lib Prog

namespace NavigationEpisode

variable {σ : Type}

-- The plant contract

/-- From `w` to `w'` the clock moves by at most `cost`, apart from what others
move it. -/
def Moves (e : NavigationEpisode σ) (others : σ → Int) (cost : Int) (w w' : σ) : Prop :=
  e.clockMs w' - others w' ≤ e.clockMs w - others w + cost ∧ others w ≤ others w'

/-- The plant either raises or advances its state version, and either way
takes no longer than the pulse or the idle tick. `others` is the time that
other threads have moved the clock by; nothing else moves it. -/
structure PlantContract (e : NavigationEpisode σ) (others version : σ → Int) : Prop where
  apply_clock : ∀ pulse goal s, MotionSupervisor.WellFormed pulse →
    e.Moves others (e.dispatchCost pulse) s.world (e.apply pulse goal s).2.world
  apply_version : ∀ pulse goal s after s', e.apply pulse goal s = (.ok after, s') →
    after.stateVersion = version s'.world ∧ version s.world < version s'.world
  observe_clock : ∀ goal s, e.Moves others 0 s.world (e.observe goal s).2.world
  observe_version : ∀ goal s now s', e.observe goal s = (.ok now, s') → now.stateVersion = version s'.world
  publish_clock : ∀ goal now s, e.Moves others 0 s.world (e.publishLocal goal now s).2.world
  hook_clock : ∀ now s, e.Moves others 0 s.world (e.beforeArbitration now s).2.world
  sink_clock : ∀ now s, e.Moves others 0 s.world (e.observationSink now s).2.world
  drain_clock : ∀ s, e.Moves others 0 s.world (e.drain s).2.world
  cancelled_clock : ∀ s, e.Moves others 0 s.world (e.cancelled s).2.world
  now_clock : ∀ s, e.Moves others 0 s.world (e.supervisorClock s).2.world
  id_clock : ∀ s, e.Moves others 0 s.world (e.freshId s).2.world

theorem Moves.refl (e : NavigationEpisode σ) (others : σ → Int) (w : σ) : e.Moves others 0 w w :=
  ⟨by omega, Int.le_refl _⟩

theorem Moves.trans (h : Moves e others a w v) (h' : Moves e others b v u) :
    Moves e others (a + b) w u := by
  unfold Moves at h h' ⊢
  omega

/-- Nothing was applied, and only others moved the clock. -/
def Quiet (e : NavigationEpisode σ) (others : σ → Int) (s s' : EpisodeState σ) : Prop :=
  s'.applied = s.applied ∧ e.Moves others 0 s.shared.world s'.shared.world

theorem Quiet.refl (e : NavigationEpisode σ) (others : σ → Int) (s : EpisodeState σ) : e.Quiet others s s :=
  ⟨rfl, Moves.refl e others _⟩

theorem Quiet.trans (h : Quiet e others s t) (h' : Quiet e others t u) : Quiet e others s u :=
  ⟨h'.1.trans h.1, by simpa using h.2.trans h'.2⟩

instance (e : NavigationEpisode σ) (others : σ → Int) : IsPreorder _ (e.Quiet others) where
  refl := Quiet.refl e others
  trans _ _ _ := Quiet.trans

-- Budgets and accounts

def drives (applied : List Applied) : List Applied := applied.filter (·.pulse.kind = .drive)

/-- Counters in bounds, a clock in bounds, and every applied drive counted but
for those in `refused`. -/
structure Sound (e : NavigationEpisode σ) (others : σ → Int) (started since : Int) (c : Counters)
    (refused : List Applied) (s : EpisodeState σ) : Prop where
  ticks : c.ticks ≤ e.limits.maxTicks
  actions : c.actions ≤ e.limits.maxActions
  motion : c.totalMotionMs ≤ e.limits.maxTotalMotionMs
  clock : e.clockMs s.shared.world ≤ started + e.limits.maxElapsedMs + (others s.shared.world - since)
  counted : ∃ counted, drives s.applied = refused ++ counted ∧ c.actions = counted.length ∧
    c.totalMotionMs = (counted.map (·.pulse.durationMs)).sum
  since_le : since ≤ others s.shared.world

/-- The counters agree on everything but the proposals and replans. -/
def SameBudget (c c' : Counters) : Prop :=
  c'.ticks = c.ticks ∧ c'.actions = c.actions ∧ c'.totalMotionMs = c.totalMotionMs

theorem Sound.quiet (h : Sound e others started since c refused s) (hq : Quiet e others s s')
    (hc : SameBudget c c') : Sound e others started since c' refused s' := by
  obtain ⟨ht, ha, hm⟩ := hc
  obtain ⟨happ, hclock, hmono⟩ := hq
  refine ⟨ht ▸ h.ticks, ha ▸ h.actions, hm ▸ h.motion, ?_, ?_, ?_⟩
  · have := h.clock
    omega
  · rw [happ, ha, hm]
    exact h.counted
  · have := h.since_le
    omega

def Refused (a : Applied) : Prop := ∃ error, StateReducer.commit a.before a.after = .error error

def ExitInv (e : NavigationEpisode σ) (others : σ → Int) (started since : Int) (x : Exit)
    (s : EpisodeState σ) : Prop :=
  (x.termination = .goalReached → x.alreadyStopped = false) ∧
  ∃ refused, Sound e others started since x.counters refused s ∧ refused.length ≤ 1 ∧
    (∀ a ∈ refused, Refused a ∧ x.termination = .executionFailed)

structure LoopInv (e : NavigationEpisode σ) (others : σ → Int) (started since : Int) (l : LoopState)
    (s : EpisodeState σ) : Prop where
  sound : Sound e others started since l.counters [] s
  replans : l.counters.replans = replansOf l.staleDispatchReplans l.counters.ticks
  stale : l.staleDispatchReplans ≤ e.limits.maxReplans

-- Steps that apply nothing

section
variable {e : NavigationEpisode σ} {others version : σ → Int} {s₀ s : EpisodeState σ}

theorem onShared_keeps {x : Prog (Shared σ) Raised α} (h : ∀ s, e.Moves others 0 s.world (x s).2.world) :
    Keeps (e.Quiet others) (onShared x) := fun s => ⟨rfl, h s.shared⟩

theorem reading_keeps {f : Shared σ → α × Shared σ} (h : ∀ s, e.Moves others 0 s.world (f s).2.world) :
    Keeps (e.Quiet others) (reading f) := onShared_keeps h

theorem onSupervisor_keeps (x : MotionSupervisor.Call α) : Keeps (e.Quiet others) (onSupervisor (σ := σ) x) :=
  fun _ => ⟨rfl, Moves.refl e others _⟩

theorem forceStop_keeps (hc : e.PlantContract others version) (snapshot : NavigationSnapshot) (reason : String) :
    Keeps (e.Quiet others) (e.forceStop snapshot reason) :=
  Keeps.bind (reading_keeps hc.id_clock) fun _ => onSupervisor_keeps _

theorem decide_keeps (hc : e.PlantContract others version) (snapshot : NavigationSnapshot) (goal : WaypointGoal)
    (proposals : List StampedProposal) : Keeps (e.Quiet others) (e.decide snapshot goal proposals) :=
  Keeps.bind (reading_keeps hc.now_clock) fun _ =>
    Keeps.bind (reading_keeps hc.id_clock) fun _ => onSupervisor_keeps _

theorem arbitrate_keeps (hc : e.PlantContract others version) :
    Keeps (e.Quiet others) (e.arbitrate directive snapshot goal proposals) := by
  unfold arbitrate
  split
  · exact forceStop_keeps hc _ _
  · exact decide_keeps hc _ _ _

theorem onSupervisor_returns {x : MotionSupervisor.Call α} {P : α → Prop} (h : Returns P x) :
    Returns P (onSupervisor (σ := σ) x) := by
  unfold onSupervisor onShared
  exact Returns.onPart (Returns.onPart (Returns.mapError h _))

theorem forceStop_kind (snapshot : NavigationSnapshot) (reason : String) :
    Returns (·.kind = .stop) (e.forceStop snapshot reason) :=
  Returns.next fun _ => onSupervisor_returns MotionSupervisor.stop_kind

theorem forceStop_wellFormed (snapshot : NavigationSnapshot) (reason : String) :
    Returns MotionSupervisor.WellFormed (e.forceStop snapshot reason) :=
  Returns.next fun _ => onSupervisor_returns MotionSupervisor.stop_wellFormed

theorem arbitrate_wellFormed :
    Returns MotionSupervisor.WellFormed (e.arbitrate directive snapshot goal proposals) :=
  Returns.ite (forceStop_wellFormed _ _)
    (Returns.next fun _ => Returns.next fun _ => onSupervisor_returns MotionSupervisor.decide_wellFormed)

-- Phases of a tick

/-- A way out of a tick before anything was dispatched. -/
def Leaves (e : NavigationEpisode σ) (others : σ → Int) (s₀ : EpisodeState σ) (l : LoopState) :
    Exit ⊕ Raised → EpisodeState σ → Prop
  | .inl x, s => e.Quiet others s₀ s ∧ SameBudget l.counters x.counters ∧
      (x.termination = .goalReached → x.alreadyStopped = false)
  | .inr _, _ => True

theorem uncaught_keeps {x : Run σ α} (h : Keeps (e.Quiet others) x) (hq : e.Quiet others s₀ s) :
    Triple (uncaught x) s (fun _ s' => e.Quiet others s₀ s') (fun r _ => ∃ error, r = .inr error) := by
  refine Triple.mapError ((h.triple s).mono (fun _ _ hs => hq.trans hs) fun _ _ _ => ⟨_, rfl⟩)

theorem orExit_run {ε : Type} {r : Except ε α} {x : Exit} {f : α → Tick σ β} {Q : β → EpisodeState σ → Prop}
    {E : Exit ⊕ Raised → EpisodeState σ → Prop} (he : ∀ error, r = .error error → E (.inl x) s)
    (hf : ∀ a, r = .ok a → Triple (f a) s Q E) : Triple (orExit r x >>= f) s Q E := by
  cases r with
  | error error => exact Triple.of_run (show _ = (Except.error (.inl x), s) from rfl) (he error rfl)
  | ok a => exact Triple.step (show _ = (Except.ok a, s) from rfl) (hf a rfl)

theorem leaves_of_raised {r : Exit ⊕ Raised} (h : ∃ error, r = .inr error) : Leaves e others s₀ l r s := by
  obtain ⟨error, rfl⟩ := h
  trivial

theorem exitIfCancelled_run (hc : e.PlantContract others version) (hq : e.Quiet others s₀ s)
    (hx : SameBudget l.counters x.counters ∧ (x.termination = .goalReached → x.alreadyStopped = false)) :
    Triple (e.exitIfCancelled x) s (fun _ s' => e.Quiet others s₀ s') (Leaves e others s₀ l) := by
  refine Triple.bind ((uncaught_keeps (onShared_keeps hc.cancelled_clock) hq).mono (fun _ _ h => h)
    fun _ _ h => leaves_of_raised h) ?_
  intro cancelled s' hs'
  unfold Prog.failIf
  exact Triple.ite (fun _ => Triple.throw ⟨hs', hx⟩) fun _ => Triple.pure hs'

theorem precheck_run (hc : e.PlantContract others version) (hq : e.Quiet others s₀ s) :
    Triple (e.precheck goal started retrying l) s
      (fun _ s' => e.Quiet others s₀ s' ∧ l.counters.ticks < e.limits.maxTicks ∧
        e.clockMs s'.shared.world - started < e.limits.maxElapsedMs)
      (Leaves e others s₀ l) := by
  refine Triple.bind (exitIfCancelled_run (l := l) hc hq ⟨⟨rfl, rfl, rfl⟩, nofun⟩) ?_
  intro _ s₁ h₁
  refine Triple.step get_run (Triple.failIf (fun _ => ⟨h₁, ⟨rfl, rfl, rfl⟩, nofun⟩) fun _ => ?_)
  refine Triple.failIf (fun _ => ⟨h₁, ⟨rfl, rfl, rfl⟩, nofun⟩) fun _ => ?_
  refine Triple.step rfl ?_
  refine Triple.failIf (fun _ => ⟨h₁, ⟨rfl, rfl, rfl⟩, nofun⟩) fun hb => ?_
  unfold Prog.failIf
  refine Triple.ite (fun _ => Triple.throw ⟨h₁, ⟨rfl, rfl, rfl⟩, fun _ => rfl⟩) fun _ => ?_
  simp only [BudgetsSpent, not_or] at hb
  exact Triple.pure ⟨h₁, Nat.not_le.mp hb.1, Int.not_le.mp hb.2.2.1⟩

theorem publish_run (hc : e.PlantContract others version) (hq : e.Quiet others s₀ s) :
    Triple (e.publish goal l) s (fun _ s' => e.Quiet others s₀ s') (Leaves e others s₀ l) := by
  have hpub : Keeps (e.Quiet others) (do
      onShared (e.publishLocal goal l.reducer)
      onShared (e.beforeArbitration l.reducer) : Run σ _) :=
    Keeps.bind (onShared_keeps (hc.publish_clock goal l.reducer))
      fun _ => onShared_keeps (hc.hook_clock l.reducer)
  refine Triple.bind ((hpub.attempted s).mono (fun _ _ h => hq.trans h) fun _ _ h => h) ?_
  intro directive s' hs'
  cases directive with
  | ok directive => exact Triple.of_run rfl hs'
  | error error => exact Triple.throw ⟨hs', ⟨rfl, rfl, rfl⟩, nofun⟩

theorem revokeIf_run [Decidable c] (hq : e.Quiet others s₀ s) (hx : SameBudget l.counters x.counters)
    (hg : x.termination ≠ .goalReached) :
    Triple (revokeIf c pulse x) s (fun _ s' => e.Quiet others s₀ s' ∧ ¬ c ∧ s' = s) (Leaves e others s₀ l) := by
  unfold revokeIf
  refine Triple.ite (fun _ => ?_) fun hn => Triple.pure ⟨hq, hn, rfl⟩
  refine Triple.bind (((onSupervisor_keeps _).attempted s).mono (fun _ _ h => hq.trans h) fun _ _ h => h) ?_
  intro revoked s' hs'
  cases revoked with
  | ok _ => exact Triple.throw ⟨hs', hx, fun h => absurd h hg⟩
  | error _ => exact Triple.throw ⟨hs', hx, fun h => by cases h⟩

theorem beforeDispatch_run (hc : e.PlantContract others version) (hq : e.Quiet others s₀ s) :
    Triple (e.beforeDispatch started pulse l) s
      (fun _ s' => e.Quiet others s₀ s' ∧
        (pulse.kind = .drive → l.counters.actions + 1 ≤ e.limits.maxActions ∧
          l.counters.totalMotionMs + pulse.durationMs ≤ e.limits.maxTotalMotionMs) ∧
        e.clockMs s'.shared.world - started + e.dispatchCost pulse ≤ e.limits.maxElapsedMs)
      (Leaves e others s₀ l) := by
  refine Triple.bind ((uncaught_keeps (onShared_keeps hc.cancelled_clock) hq).mono (fun _ _ h => h)
    fun _ _ h => leaves_of_raised h) ?_
  intro cancelled s₁ h₁
  refine Triple.bind (revokeIf_run h₁ ⟨rfl, rfl, rfl⟩ fun h => by cases h) ?_
  rintro _ _ ⟨-, -, rfl⟩
  refine Triple.bind (revokeIf_run h₁ ⟨rfl, rfl, rfl⟩ fun h => by cases h) ?_
  rintro _ _ ⟨-, hbudget, rfl⟩
  refine Triple.step rfl ?_
  refine (revokeIf_run h₁ ⟨rfl, rfl, rfl⟩ (fun h => by cases h)).mono ?_ fun _ _ h => h
  rintro _ _ ⟨-, htime, rfl⟩
  refine ⟨h₁, fun hk => ?_, ?_⟩
  · simp only [hk, true_and, not_or, not_lt] at hbudget
    exact ⟨by omega, hbudget.2⟩
  · have hreserve : (0 : Int) ≤ if pulse.kind = .drive then e.idleTickMs else 0 := by
      have := e.idleTickOk.1
      split <;> omega
    omega

-- Dispatch

theorem applyPulse_run (hc : e.PlantContract others version) (before : NavigationSnapshot)
    (hw : MotionSupervisor.WellFormed pulse) (goal : WaypointGoal) : Triple (e.applyPulse before pulse goal) s
    (fun after s' => s'.applied = ⟨pulse, before, after⟩ :: s.applied ∧
      e.Moves others (e.dispatchCost pulse) s.shared.world s'.shared.world)
    (fun _ s' => s'.applied = s.applied ∧
      e.Moves others (e.dispatchCost pulse) s.shared.world s'.shared.world) := by
  have hclock := hc.apply_clock pulse goal s.shared hw
  unfold applyPulse
  rcases hr : e.apply pulse goal s.shared with ⟨error | after, shared⟩ <;> rw [hr] at hclock
  · have hrun : (onShared (e.apply pulse goal)) s = (.error error, { s with shared := shared }) := by
      simp [onShared, hr]
    have hbind : (e.applyPulse before pulse goal) s = (.error error, { s with shared := shared }) := by
      rw [applyPulse, bind_run, hrun]
    exact Triple.of_run hbind ⟨rfl, hclock⟩
  · have hrun : (onShared (e.apply pulse goal)) s = (.ok after, { s with shared := shared }) := by
      simp [onShared, hr]
    exact Triple.step hrun (Triple.step (modify_run _) (Triple.pure ⟨rfl, hclock⟩))

theorem Sound.applied {l : LoopState} {pulse : DrivePulse} {before after : NavigationSnapshot}
    (h : Sound e others started since l.counters [] s) (hticks : l.counters.ticks < e.limits.maxTicks)
    (hbudget : pulse.kind = .drive → l.counters.actions + 1 ≤ e.limits.maxActions ∧
      l.counters.totalMotionMs + pulse.durationMs ≤ e.limits.maxTotalMotionMs)
    (htime : e.clockMs s.shared.world - started + e.dispatchCost pulse ≤ e.limits.maxElapsedMs)
    (happ : s'.applied = ⟨pulse, before, after⟩ :: s.applied)
    (hm : e.Moves others (e.dispatchCost pulse) s.shared.world s'.shared.world) :
    Sound e others started since (account l pulse) [] s' ∧
    Sound e others started since l.counters (drives [⟨pulse, before, after⟩]) s' := by
  obtain ⟨counted, hcounted, hactions, hmotion⟩ := h.counted
  obtain ⟨hclock, hothers⟩ := hm
  have hsince := h.since_le
  have hdrives : drives s'.applied = drives [⟨pulse, before, after⟩] ++ counted := by
    rw [happ, drives, List.filter_cons, ← drives, hcounted, drives, List.filter_cons]
    split <;> rfl
  refine ⟨⟨?_, ?_, ?_, by omega, ?_, by omega⟩, ⟨h.ticks, h.actions, h.motion, by omega, ?_, by omega⟩⟩
  · show l.counters.ticks + 1 ≤ _
    omega
  · simp only [account]
    split
    next hk => exact (hbudget hk).1
    next => exact h.actions
  · simp only [account]
    split
    next hk => exact (hbudget hk).2
    next => exact h.motion
  · refine ⟨drives [⟨pulse, before, after⟩] ++ counted, hdrives, ?_, ?_⟩
    · simp only [account, drives, List.filter_cons]
      split <;> simp_all
    · simp only [account, drives, List.filter_cons]
      split <;> simp_all [Int.add_comm]
  · exact ⟨counted, hdrives, hactions, hmotion⟩

theorem Sound.raised {l : LoopState} {pulse : DrivePulse}
    (h : Sound e others started since l.counters [] s)
    (htime : e.clockMs s.shared.world - started + e.dispatchCost pulse ≤ e.limits.maxElapsedMs)
    (happ : s'.applied = s.applied)
    (hm : e.Moves others (e.dispatchCost pulse) s.shared.world s'.shared.world) :
    Sound e others started since l.counters [] s' := by
  obtain ⟨hclock, hothers⟩ := hm
  have hsince := h.since_le
  exact ⟨h.ticks, h.actions, h.motion, by omega, happ ▸ h.counted, by omega⟩

theorem Sound.exitInv {x : Exit} (h : Sound e others started since c [] s) (hx : SameBudget c x.counters)
    (hg : x.termination = .goalReached → x.alreadyStopped = false) :
    ExitInv e others started since x s :=
  ⟨hg, [], h.quiet (Quiet.refl e others s) hx, by simp, by simp⟩

def TickExit (e : NavigationEpisode σ) (others : σ → Int) (started since : Int) :
    Exit ⊕ Raised → EpisodeState σ → Prop
  | .inl x, s => ExitInv e others started since x s
  | .inr _, _ => True

theorem Leaves.tickExit (hs : Sound e others started since l.counters [] s₀)
    (h : Leaves e others s₀ l r s) : TickExit e others started since r s := by
  cases r with
  | inr _ => trivial
  | inl x =>
    obtain ⟨hq, hx, hg⟩ := h
    exact Sound.exitInv (hs.quiet hq ⟨rfl, rfl, rfl⟩) hx hg

def turns (l : LoopState) : Nat := l.counters.ticks + l.staleDispatchReplans

theorem verify_run (hc : e.PlantContract others version)
    (hs : Sound e others started since (account l pulse) [] s) (hstale : l.staleDispatchReplans ≤ e.limits.maxReplans) :
    Triple (e.verify goal l proposals pulse after) s
      (fun l' s' => LoopInv e others started since l' s' ∧ turns l' = turns l + 1)
      (TickExit e others started since) := by
  refine Triple.bind (((onShared_keeps (hc.sink_clock after)).attempted s).mono (fun _ _ h => h) fun _ _ h => h) ?_
  intro delivered s' hq
  have hs' := hs.quiet hq ⟨rfl, rfl, rfl⟩
  refine orExit_run (fun _ _ => hs'.exitInv ⟨rfl, rfl, rfl⟩ nofun) fun _ _ => ?_
  refine Triple.failIf (fun _ => hs'.exitInv ⟨rfl, rfl, rfl⟩ nofun) fun _ => ?_
  refine Triple.failIf (fun _ => hs'.exitInv ⟨rfl, rfl, rfl⟩ nofun) fun _ => ?_
  refine Triple.failIf (fun _ => hs'.exitInv ⟨rfl, rfl, rfl⟩ nofun) fun _ => ?_
  refine Triple.failIf (fun _ => hs'.exitInv ⟨rfl, rfl, rfl⟩ nofun) fun _ => ?_
  refine Triple.pure ⟨⟨hs', rfl, hstale⟩, ?_⟩
  show l.counters.ticks + 1 + l.staleDispatchReplans = l.counters.ticks + l.staleDispatchReplans + 1
  omega

theorem reobserve_run (hc : e.PlantContract others version) (hi : LoopInv e others started since l s) :
    Triple (e.reobserve goal l) s
      (fun l' s' => LoopInv e others started since l' s' ∧ turns l' = turns l + 1)
      (TickExit e others started since) := by
  refine Triple.bind (((onShared_keeps (hc.observe_clock goal)).attempted s).mono (fun _ _ h => h) fun _ _ h => h) ?_
  intro observed s₁ h₁
  have hs₁ := hi.sound.quiet h₁ ⟨rfl, rfl, rfl⟩
  refine orExit_run (fun _ _ => hs₁.exitInv ⟨rfl, rfl, rfl⟩ nofun) fun fresh _ => ?_
  refine orExit_run (fun _ _ => hs₁.exitInv ⟨rfl, rfl, rfl⟩ nofun) fun fresh _ => ?_
  refine Triple.failIf (fun _ => hs₁.exitInv ⟨rfl, rfl, rfl⟩ nofun) fun _ => ?_
  refine Triple.bind (((onShared_keeps (hc.sink_clock fresh)).attempted s₁).mono (fun _ _ h => h) fun _ _ h => h) ?_
  intro delivered s₂ h₂
  have hs₂ := hs₁.quiet h₂ ⟨rfl, rfl, rfl⟩
  refine orExit_run (fun _ _ => hs₂.exitInv ⟨rfl, rfl, rfl⟩ nofun) fun _ _ => ?_
  refine Triple.failIf (fun _ => hs₂.exitInv ⟨rfl, rfl, rfl⟩ nofun) fun hreplans => ?_
  refine Triple.pure ⟨⟨hs₂.quiet (Quiet.refl e others s₂) ⟨rfl, rfl, rfl⟩, rfl, ?_⟩, ?_⟩
  · -- the replans spent so far are at least the stale dispatches among them
    have hlt : l.counters.replans < e.limits.maxReplans := Nat.not_le.mp hreplans
    rw [hi.replans] at hlt
    show l.staleDispatchReplans + 1 ≤ e.limits.maxReplans
    unfold replansOf at hlt
    omega
  · show l.counters.ticks + (l.staleDispatchReplans + 1) = l.counters.ticks + l.staleDispatchReplans + 1
    omega

theorem dispatch_run (hc : e.PlantContract others version) (hi : LoopInv e others started since l s)
    (hw : MotionSupervisor.WellFormed pulse) (hticks : l.counters.ticks < e.limits.maxTicks)
    (hbudget : pulse.kind = .drive → l.counters.actions + 1 ≤ e.limits.maxActions ∧
      l.counters.totalMotionMs + pulse.durationMs ≤ e.limits.maxTotalMotionMs)
    (htime : e.clockMs s.shared.world - started + e.dispatchCost pulse ≤ e.limits.maxElapsedMs) :
    Triple (e.dispatch goal proposals pulse l) s
      (fun l' s' => LoopInv e others started since l' s' ∧ turns l' = turns l + 1)
      (TickExit e others started since) := by
  have happly : Triple (Prog.attempt (e.applyPulse l.reducer pulse goal) : Tick σ _) s
      (fun r s' => match r with
        | .ok after => Sound e others started since (account l pulse) [] s' ∧
            Sound e others started since l.counters (drives [⟨pulse, l.reducer, after⟩]) s'
        | .error _ => Sound e others started since l.counters [] s')
      (TickExit e others started since) := by
    refine Triple.attempt ((applyPulse_run hc l.reducer hw goal).mono ?_ ?_)
    · rintro after s' ⟨happ, hm⟩
      exact hi.sound.applied hticks hbudget htime happ hm
    · rintro error s' ⟨happ, hm⟩
      exact hi.sound.raised htime happ hm
  refine Triple.bind happly ?_
  rintro (error | after) s' hs'
  · cases error with
    | other => exact Triple.throw (hs'.exitInv ⟨rfl, rfl, rfl⟩ nofun)
    | contract error =>
      refine Triple.ite (fun _ => ?_) fun _ => Triple.throw (hs'.exitInv ⟨rfl, rfl, rfl⟩ nofun)
      exact reobserve_run (l := l.log "EXECUTING") hc ⟨hs', hi.replans, hi.stale⟩
  · refine orExit_run (fun error hcommit => ?_) fun committed _ => ?_
    · refine ⟨nofun, _, hs'.2, List.length_filter_le _ _, fun a ha => ⟨?_, rfl⟩⟩
      rw [List.mem_singleton.mp (List.mem_of_mem_filter ha)]
      exact ⟨error, hcommit⟩
    · exact verify_run (l := l.log "EXECUTING") hc hs'.1 hi.stale

theorem tick_run (hc : e.PlantContract others version) (hi : LoopInv e others started since l s) :
    Triple (e.tick goal started l) s
      (fun l' s' => LoopInv e others started since l' s' ∧ turns l' = turns l + 1)
      (TickExit e others started since) := by
  have hsame : SameBudget l.counters l.counters := ⟨rfl, rfl, rfl⟩
  have leave : ∀ {l' r s'}, SameBudget l.counters l'.counters → Leaves e others s l' r s' →
      TickExit e others started since r s' := fun hb h =>
    h.tickExit (hi.sound.quiet (Quiet.refl e others s) hb)
  refine Triple.bind ((precheck_run hc (Quiet.refl e others s)).mono (fun _ _ h => h)
    fun _ _ h => leave ⟨rfl, rfl, rfl⟩ h) ?_
  rintro _ s₁ ⟨h₁, hticks, -⟩
  refine Triple.bind ((publish_run hc h₁).mono (fun _ _ h => h) fun _ _ h => leave ⟨rfl, rfl, rfl⟩ h) ?_
  intro directive s₂ h₂
  refine Triple.bind ((exitIfCancelled_run hc h₂ ⟨hsame, fun h => by cases h⟩).mono (fun _ _ h => h)
    fun _ _ h => leave ⟨rfl, rfl, rfl⟩ h) ?_
  intro _ s₃ h₃
  refine Triple.bind ((uncaught_keeps (reading_keeps hc.drain_clock) h₃).mono (fun _ _ h => h)
    fun _ _ h => leave hsame (leaves_of_raised h)) ?_
  intro proposals s₄ h₄
  refine Triple.failIf (fun _ => leave hsame ⟨h₄, ⟨rfl, rfl, rfl⟩, nofun⟩) fun _ => ?_
  refine Triple.bind (((uncaught_keeps (arbitrate_keeps hc) h₄).and (arbitrate_wellFormed.mapError _ s₄)).mono
    (fun _ _ h => h) fun _ _ h => leave hsame (leaves_of_raised h.1)) ?_
  rintro pulse s₅ ⟨h₅, hw⟩
  refine Triple.bind ((beforeDispatch_run hc h₅).mono (fun _ _ h => h)
    fun _ _ h => leave ⟨rfl, rfl, rfl⟩ h) ?_
  rintro _ s₆ ⟨h₆, hbudget, htime⟩
  exact dispatch_run hc ⟨hi.sound.quiet h₆ ⟨rfl, rfl, rfl⟩, hi.replans, hi.stale⟩ hw hticks hbudget htime

-- The end of a run

/-- The newest applied pulse is a STOP, and the snapshot after it shows that
the plant moved on with its motors off. -/
def StoppedBy (s : EpisodeState σ) (final : NavigationSnapshot) : Prop :=
  ∃ stop before rest, s.applied = ⟨stop, before, final⟩ :: rest ∧ stop.kind = .stop ∧
    stop.basedOnStateVersion < final.stateVersion ∧ final.motorsRunning = false

theorem stopPlant_run (hc : e.PlantContract others version) (snapshot : NavigationSnapshot) (goal : WaypointGoal) :
    Triple (e.stopPlant snapshot goal) s
      (fun r s' => e.Moves others e.idleTickMs s.shared.world s'.shared.world ∧
        drives s'.applied = drives s.applied ∧ (r.2 = true → StoppedBy s' r.1))
      (fun _ s' => e.Moves others e.idleTickMs s.shared.world s'.shared.world ∧
        drives s'.applied = drives s.applied) := by
  have hidle := e.idleTickOk.1
  have hforce := ((forceStop_keeps hc snapshot "terminal_stop").triple s).and
    ((forceStop_kind snapshot "terminal_stop" s).and (forceStop_wellFormed snapshot "terminal_stop" s))
  refine Triple.bind (hforce.mono (fun _ _ h => h) fun _ _ h => ?_) ?_
  · obtain ⟨⟨happ, hclock, hmono⟩, -⟩ := h
    exact ⟨⟨by omega, hmono⟩, by rw [happ]⟩
  rintro stop s₁ ⟨⟨happ₁, h₁⟩, hstop, hw⟩
  have hcost : e.dispatchCost stop = e.idleTickMs := by simp [dispatchCost, hstop]
  have htotal : ∀ w, e.Moves others (e.dispatchCost stop) s₁.shared.world w →
      e.Moves others e.idleTickMs s.shared.world w := by
    intro w h
    rw [hcost] at h
    simpa using h₁.trans h
  refine Triple.bind ((applyPulse_run hc snapshot hw goal).mono (fun _ _ h => h) fun _ _ h => ?_) ?_
  · exact ⟨htotal _ h.2, by rw [h.1, happ₁]⟩
  rintro after s₂ ⟨happ₂, h₂⟩
  refine Triple.pure ⟨htotal _ h₂, ?_, fun hv => ?_⟩
  · simp [happ₂, happ₁, drives, hstop]
  · simp only [Bool.and_eq_true, Bool.not_eq_true', decide_eq_true_eq] at hv
    exact ⟨stop, snapshot, s₁.applied, happ₂, hstop, hv.2, hv.1⟩

theorem terminalStop_run (hc : e.PlantContract others version) (x : Exit) : Triple (e.terminalStop goal x) s
    (fun r s' => e.Moves others e.idleTickMs s.shared.world s'.shared.world ∧
      drives s'.applied = drives s.applied ∧ (stopped x = false → r.2 = true → StoppedBy s' r.1))
    (fun _ _ => False) := by
  have hidle := e.idleTickOk.1
  unfold terminalStop
  refine Triple.ite (fun hs => Triple.pure ⟨⟨by omega, Int.le_refl _⟩, rfl, fun hn => ?_⟩) fun _ => ?_
  · rw [hs] at hn
    cases hn
  · refine Triple.tryCatch ((stopPlant_run hc x.snapshot goal).mono ?_ fun _ _ h => h) ?_
    · exact fun _ _ h => ⟨h.1, h.2.1, fun _ => h.2.2⟩
    · exact fun _ _ h => Triple.pure ⟨h.1, h.2, nofun⟩

/-- What a result that says it completed can be relied on for. -/
structure Verified (goal : WaypointGoal) (r : NavigationResult) (s : EpisodeState σ) : Prop where
  terminalStop : r.terminalStopVerified = true
  stoppedBy : StoppedBy s r.finalSnapshot
  distance : distanceToGoalMm r.finalSnapshot goal ≤ goal.toleranceMm
  touch : r.finalSnapshot.touchPressed = false
  faults : r.finalSnapshot.activeFaults = []
  termination : r.termination = .goalReached

theorem resultOf_completed {x : Exit} (h : (resultOf goal x final verified).completed = true) :
    x.termination = .goalReached ∧ verified = true ∧ distanceToGoalMm final goal ≤ goal.toleranceMm ∧
      final.touchPressed = false ∧ final.activeFaults = [] ∧
      (resultOf goal x final verified).termination = .goalReached := by
  simp only [resultOf, Bool.and_eq_true, decide_eq_true_eq, Bool.not_eq_true', Bool.or_eq_false_iff,
    Bool.not_eq_false', List.isEmpty_iff] at h ⊢
  obtain ⟨⟨⟨ht, rfl⟩, hd⟩, hf, htouch⟩ := h
  simp only [hf, htouch, List.isEmpty_nil, Bool.not_true, Bool.or_self, Bool.false_eq_true, if_false] at ht ⊢
  simp [ht, hd]

theorem observe_quiet (others : σ → Int) (snapshot : NavigationSnapshot) :
    Triple (onSupervisor (e.supervisor.observeEmergency snapshot)) s
      (fun _ s' => e.Quiet others s s') (fun _ _ => False) := by
  unfold onSupervisor onShared
  refine Triple.onPart (Triple.onPart (Triple.mapError ?_))
  exact MotionSupervisor.observeEmergency_run.mono (fun _ _ _ => ⟨rfl, Moves.refl e others _⟩)
    fun _ _ h => h

theorem finish_run (hc : e.PlantContract others version) {x : Exit} (hx : ExitInv e others started since x s) :
    Triple (e.finish goal x) s
      (fun r s' => r.counters = x.counters ∧ drives s'.applied = drives s.applied ∧
        e.clockMs s'.shared.world ≤
          started + e.limits.maxElapsedMs + e.idleTickMs + (others s'.shared.world - since) ∧
        (r.completed = true → x.termination = .goalReached ∧ Verified goal r s'))
      (fun _ _ => False) := by
  refine Triple.bind (observe_quiet others x.snapshot) ?_
  rintro _ s₁ ⟨happ₁, hclock₁, hmono₁⟩
  refine Triple.bind (terminalStop_run hc x) ?_
  rintro ⟨final, verified⟩ s₂ ⟨⟨hclock₂, hmono₂⟩, hdrives, hstop⟩
  refine Triple.bind (observe_quiet others final) ?_
  rintro _ s₃ ⟨happ₃, hclock₃, hmono₃⟩
  obtain ⟨hg, refused, hs, -, -⟩ := hx
  have hclock := hs.clock
  refine Triple.pure ⟨rfl, ?_, by omega, fun hcompleted => ?_⟩
  · rw [happ₃, hdrives, happ₁]
  · obtain ⟨ht, hv, hd, htouch, hf, hterm⟩ := resultOf_completed hcompleted
    have hnot : stopped x = false := by simp [stopped, hg ht]
    have hby := hstop hnot hv
    refine ⟨ht, hv, ?_, hd, htouch, hf, hterm⟩
    unfold StoppedBy at hby ⊢
    rw [happ₃]
    exact hby

-- Whole runs

/-- What a finished run has spent, and what it may claim. -/
structure Bounded (e : NavigationEpisode σ) (others : σ → Int) (goal : WaypointGoal) (started since : Int)
    (r : NavigationResult) (s : EpisodeState σ) : Prop where
  ticks : r.counters.ticks ≤ e.limits.maxTicks
  actions : r.counters.actions ≤ e.limits.maxActions
  motion : r.counters.totalMotionMs ≤ e.limits.maxTotalMotionMs
  /-- Every applied drive is counted, but for one the reducer refused; then the
  run has not completed. -/
  counted : ∃ refused counted, drives s.applied = refused ++ counted ∧
    r.counters.actions = counted.length ∧
    r.counters.totalMotionMs = (counted.map (·.pulse.durationMs)).sum ∧
    refused.length ≤ 1 ∧ ∀ a ∈ refused, Refused a ∧ r.completed = false
  clock : e.clockMs s.shared.world ≤
    started + e.limits.maxElapsedMs + e.idleTickMs + (others s.shared.world - since)
  completed : r.completed = true → Verified goal r s

theorem finish_bounded (hc : e.PlantContract others version) {x : Exit}
    (hx : ExitInv e others started since x s) :
    Triple (e.finish goal x) s (fun r s' => Bounded e others goal started since r s') (fun _ _ => False) := by
  refine (finish_run hc hx).mono ?_ fun _ _ h => h
  rintro r s' ⟨hcounters, hdrives, hclock, hcompleted⟩
  obtain ⟨-, refused, hs, hlen, hrefused⟩ := hx
  obtain ⟨counted, hsplit, hactions, hmotion⟩ := hs.counted
  refine ⟨hcounters ▸ hs.ticks, hcounters ▸ hs.actions, hcounters ▸ hs.motion, ?_, hclock,
    fun h => (hcompleted h).2⟩
  refine ⟨refused, counted, hdrives.trans hsplit, hcounters ▸ hactions, hcounters ▸ hmotion, hlen, ?_⟩
  intro a ha
  refine ⟨(hrefused a ha).1, ?_⟩
  cases hr : r.completed with
  | false => rfl
  | true =>
    have := (hcompleted hr).1
    rw [(hrefused a ha).2] at this
    cases this

theorem loop_run (hc : e.PlantContract others version) (fuel : Nat) (hi : LoopInv e others started since l s)
    (hfuel : e.limits.maxTicks + e.limits.maxReplans < fuel + turns l) :
    Triple (e.loop goal started fuel l) s
      (fun r s' => ∃ result, r = some result ∧ Bounded e others goal started since result s')
      (fun _ _ => True) := by
  induction fuel generalizing l s with
  | zero =>
    have := hi.sound.ticks
    have := hi.stale
    unfold turns at hfuel
    omega
  | succ fuel ih =>
    have ht : Triple (e.tick goal started l) s _ _ := tick_run hc hi
    unfold Triple loop
    rcases hr : e.tick goal started l s with ⟨(x | error) | l', s'⟩
    · refine Triple.bind (f := fun r => pure (some r)) ((finish_bounded hc (ht.error hr)).mono (fun _ _ h => h)
        fun _ _ h => h.elim) ?_
      exact fun r s' h => Triple.pure ⟨r, rfl, h⟩
    · trivial
    · obtain ⟨hi', hturns⟩ := ht.ok hr
      exact ih hi' (by omega)

/-- Ticks and replans are enough turns for any run, and a run that returns
has kept every budget. -/
theorem run_bounded (hc : e.PlantContract others version) (goal : WaypointGoal) (shared : Shared σ) :
    Triple (e.run (e.limits.maxTicks + e.limits.maxReplans + 1) goal) { shared := shared }
      (fun r s => ∃ result, r = some result ∧
        Bounded e others goal (e.clockMs shared.world) (others shared.world) result s)
      (fun _ _ => True) := by
  have hlimits := e.limits.elapsedOk.1
  have hactions := e.limits.actionsOk.1
  have hmotion := e.limits.motionOk.1
  refine Triple.step rfl ?_
  refine Triple.bind (((onShared_keeps (hc.observe_clock goal)).triple _).mono (fun _ _ h => h)
    fun _ _ _ => trivial) ?_
  rintro snapshot s₁ ⟨happ₁, hclock₁, hmono₁⟩
  refine Triple.bind (((onShared_keeps (hc.sink_clock snapshot)).attempted s₁).mono (fun _ _ h => h)
    fun _ _ h => h) ?_
  rintro delivered s₂ ⟨happ₂, hclock₂, hmono₂⟩
  dsimp only at hclock₁ hmono₁
  have hs : Sound e others (e.clockMs shared.world) (others shared.world) {} [] s₂ := by
    refine ⟨Nat.zero_le _, Nat.zero_le _, by show (0 : Int) ≤ _; omega, ?_, ?_, ?_⟩
    · omega
    · exact ⟨[], by rw [happ₂, happ₁]; rfl, rfl, rfl⟩
    · omega
  cases delivered with
  | ok _ => exact loop_run hc _ ⟨hs, rfl, Nat.zero_le _⟩ (by simp only [turns]; omega)
  | error _ =>
    refine Triple.bind ((finish_bounded hc (hs.exitInv ⟨rfl, rfl, rfl⟩ fun h => by cases h)).mono
      (fun _ _ h => h) fun _ _ h => h.elim) ?_
    exact fun r s' h => Triple.pure ⟨r, rfl, h⟩

end

-- A plant with two states

/-- A plant that takes one pulse and then refuses every other. -/
inductive SamplePlant where
  | ready
  | moved

def SamplePlant.version : SamplePlant → Int
  | .ready => 8
  | .moved => 9

theorem sampleTickOk : Between 20 1 1000 := by decide

/-- The episode of a plant that shows `first` and, after its one pulse, `then`. -/
def sampleEpisode (first after : NavigationSnapshot) (proposals : List StampedProposal) :
    NavigationEpisode SamplePlant where
  supervisor := MotionSupervisor.sampleSupervisor
  plantProfile := MotionSupervisor.sampleProfile
  idleTickMs := 20
  idleTickOk := sampleTickOk
  clockMs _ := 960
  observe _ := fun s => match s.world with
    | .ready => (.ok first, s)
    | .moved => (.ok after, s)
  apply _ _ := fun s => match s.world with
    | .ready => (.ok after, { s with world := .moved })
    | .moved => (.error .other, s)
  publishLocal _ _ := pure ()
  drain s := (proposals, s)
  beforeArbitration _ := pure none
  observationSink _ := pure ()
  cancelled := pure false
  supervisorClock s := (.ok 960, s)
  freshId s := (.ok "decision-1", s)

theorem sampleEpisode_contract {first after : NavigationSnapshot} (hf : first.stateVersion = 8)
    (ha : after.stateVersion = 9) (proposals : List StampedProposal) :
    (sampleEpisode first after proposals).PlantContract (fun _ => 0) SamplePlant.version := by
  have still : ∀ w w', (sampleEpisode first after proposals).Moves (fun _ => 0) 0 w w' :=
    fun _ _ => ⟨by simp [sampleEpisode], Int.le_refl _⟩
  refine ⟨fun pulse _ s hw => ⟨?_, Int.le_refl _⟩, fun pulse _ s now s' h => ?_, fun _ _ => still _ _,
    fun _ s now s' h => ?_, fun _ _ _ => still _ _, fun _ _ => still _ _, fun _ _ => still _ _,
    fun _ => still _ _, fun _ => still _ _, fun _ => still _ _, fun _ => still _ _⟩
  · have hcost : 0 ≤ (sampleEpisode first after proposals).dispatchCost pulse := by
      cases hk : pulse.kind with
      | drive =>
        have := (DrivePulse.duration_ok hw hk).1
        simp only [dispatchCost, hk]
        omega
      | stop => simp [dispatchCost, hk, sampleEpisode]
    show (960 : Int) - 0 ≤ 960 - 0 + (sampleEpisode first after proposals).dispatchCost pulse
    omega
  · obtain ⟨world, supervisor⟩ := s
    cases world <;> simp only [sampleEpisode] at h <;> cases h
    exact ⟨ha, show (8 : Int) < 9 by decide⟩
  · obtain ⟨world, supervisor⟩ := s
    cases world <;> simp only [sampleEpisode] at h <;> cases h
    · exact hf
    · exact ha

def sampleShared : Shared SamplePlant := ⟨.ready, { authority := sampleAuthority 4 8 }⟩

/-- A run that starts at its goal stops there and completes. -/
theorem run_bounded_sample : ∃ r s,
    (sampleEpisode MotionSupervisor.sampleClear MotionSupervisor.sampleClearLater []).run 601
      MotionSupervisor.sampleGoal { shared := sampleShared } = (.ok (some r), s) ∧
    r.completed = true ∧ Verified MotionSupervisor.sampleGoal r s := by
  have hc : (sampleEpisode MotionSupervisor.sampleClear MotionSupervisor.sampleClearLater []).PlantContract
      (fun _ => 0) SamplePlant.version := sampleEpisode_contract rfl rfl []
  have h := run_bounded hc MotionSupervisor.sampleGoal sampleShared
  have hrun : (sampleEpisode MotionSupervisor.sampleClear MotionSupervisor.sampleClearLater []).run 601
      MotionSupervisor.sampleGoal { shared := sampleShared } = (.ok (some _), _) := rfl
  obtain ⟨r, hr, hb⟩ := h.ok hrun
  cases hr
  exact ⟨_, _, hrun, rfl, hb.completed rfl⟩

/-- Half a metre from the goal, with a metre of free space ahead. -/
def sampleFar : NavigationSnapshot :=
  { MotionSupervisor.sampleClear with
    worldModelVersion := 2
    pose := { MotionSupervisor.sampleClear.pose with xMm := 500, xOk := by decide }
    clearance := MotionSupervisor.sampleClearance 1000 (by decide)
    worldModelVersionOk := by decide
    safetyBeforeCapture := by decide }

def sampleAdvance : StampedProposal :=
  { MotionSupervisor.sampleHold with
    proposal :=
      MotionSupervisor.sampleAdvancing
        { distanceMm := 100, speedMmS := 100, distanceOk := ⟨by decide, by decide⟩ } 2 sampleFar.worldModelVersionOk }

/-- A plant that advances its state version but falls back to an older world
model has moved the robot without a counted action: the reducer refuses the
snapshot. -/
theorem refused_drive_uncounted :
    ¬ ∀ (σ : Type) (e : NavigationEpisode σ) (others version : σ → Int) (goal : WaypointGoal)
        (shared : Shared σ) (r : NavigationResult) (s : EpisodeState σ),
      e.PlantContract others version →
      e.run (e.limits.maxTicks + e.limits.maxReplans + 1) goal { shared := shared } = (.ok (some r), s) →
      r.counters.actions = (drives s.applied).length := by
  intro hall
  let e := sampleEpisode sampleFar MotionSupervisor.sampleClearLater [sampleAdvance]
  have huncounted : ((e.run 601 MotionSupervisor.sampleGoal { shared := sampleShared }).1.toOption.any (·.any fun r =>
      (r.counters.actions ≠ (drives (e.run 601 MotionSupervisor.sampleGoal { shared := sampleShared }).2.applied).length
        : Bool))) = true := by decide +kernel
  rcases hrun : e.run 601 MotionSupervisor.sampleGoal { shared := sampleShared } with ⟨error | _ | r, s⟩ <;>
    rw [hrun] at huncounted
  · cases huncounted
  · cases huncounted
  · have hcounted := hall _ e _ _ _ _ r s (sampleEpisode_contract rfl rfl _) hrun
    exact absurd hcounted (of_decide_eq_true huncounted)

end NavigationEpisode

end RobotLlm.Navigation
