import RobotLlm.Navigation.EpisodeLaws

/-!
# What an episode does to a plant nothing is promised of

The laws of a run that hold without a plant contract: whatever relation every
call of the environment keeps, the run keeps; what it applied is within its
limits, also when it raises; and a terminal STOP it reports as verified was
applied.
-/

namespace RobotLlm.Navigation

open RobotLlm.Lib Prog

/-- A run that ended in a failure of its execution or in danger. -/
def NavigationResult.Failed (r : NavigationResult) : Prop :=
  r.completed = false ∧ (r.termination = .executionFailed ∨ r.termination = .safetyStop)

namespace NavigationEpisode

variable {σ : Type}

-- What the calls of the environment keep

/-- Every call of the environment keeps `K`, and the supervisor's own state
has no part in it. -/
structure Frames (e : NavigationEpisode σ) (K : Shared σ → Shared σ → Prop) : Prop where
  observe : ∀ goal, Keeps K (e.observe goal)
  apply : ∀ pulse goal, Keeps K (e.apply pulse goal)
  publish : ∀ goal snapshot, Keeps K (e.publishLocal goal snapshot)
  hook : ∀ snapshot, Keeps K (e.beforeArbitration snapshot)
  sink : ∀ snapshot, Keeps K (e.observationSink snapshot)
  cancelled : Keeps K e.cancelled
  drain : ∀ s, K s (e.drain s).2
  now : ∀ s, K s (e.supervisorClock s).2
  id : ∀ s, K s (e.freshId s).2
  supervisor : ∀ s state, K s { s with supervisor := state }

/-- Nothing was applied, and the environment kept `K`. -/
def Still (K : Shared σ → Shared σ → Prop) (s s' : EpisodeState σ) : Prop :=
  s'.applied = s.applied ∧ K s.shared s'.shared

variable {e : NavigationEpisode σ} {K : Shared σ → Shared σ → Prop} [IsPreorder (Shared σ) K] {s₀ s s' : EpisodeState σ}

instance : IsPreorder (EpisodeState σ) (Still K) where
  refl _ := ⟨rfl, refl_of K _⟩
  trans _ _ _ h h' := ⟨h'.1.trans h.1, trans_of K h.2 h'.2⟩

omit [IsPreorder (Shared σ) K] in
theorem onShared_still {x : Prog (Shared σ) Raised α} (h : Keeps K x) : Keeps (Still K) (onShared x) :=
  fun s => ⟨rfl, h s.shared⟩

omit [IsPreorder (Shared σ) K] in
theorem reading_still {f : Shared σ → α × Shared σ} (h : ∀ s, K s (f s).2) : Keeps (Still K) (reading f) :=
  onShared_still h

omit [IsPreorder (Shared σ) K] in
theorem onSupervisor_still (hf : e.Frames K) (x : MotionSupervisor.Call α) :
    Keeps (Still K) (onSupervisor (σ := σ) x) :=
  fun s => ⟨rfl, hf.supervisor s.shared _⟩

theorem forceStop_still (hf : e.Frames K) (snapshot : NavigationSnapshot) (reason : String) :
    Keeps (Still K) (e.forceStop snapshot reason) :=
  Keeps.bind (reading_still hf.id) fun _ => onSupervisor_still hf _

theorem arbitrate_still (hf : e.Frames K) : Keeps (Still K) (e.arbitrate directive snapshot goal proposals) := by
  unfold arbitrate
  split
  · exact forceStop_still hf _ _
  · exact Keeps.bind (reading_still hf.now) fun _ => Keeps.bind (reading_still hf.id) fun _ => onSupervisor_still hf _

-- The account of a run

def motionOf (applied : List Applied) : Int := (applied.map (·.pulse.durationMs)).sum

/-- A STOP the plant took, with a newer snapshot that shows its motors off. -/
def VerifiedStop (a : Applied) : Prop :=
  a.pulse.kind = .stop ∧ a.before.stateVersion < a.after.stateVersion ∧ a.after.motorsRunning = false

/-- The last drive of `new` was followed by a verified STOP. -/
def Stopped (new : List Applied) : Prop :=
  ∃ more a rest, new = more ++ a :: rest ∧ drives more = [] ∧ VerifiedStop a

theorem VerifiedStop.stopped {a : Applied} (h : VerifiedStop a) (new : List Applied) : Stopped (a :: new) :=
  ⟨[], a, new, rfl, rfl, h⟩

theorem Stopped.append (h : Stopped more) (new : List Applied) : Stopped (more ++ new) := by
  obtain ⟨more, a, rest, rfl, hd, ha⟩ := h
  exact ⟨more, a, rest ++ new, by simp, hd, ha⟩

theorem Stopped.quiet (h : Stopped new) (hd : drives more = []) : Stopped (more ++ new) := by
  obtain ⟨more', a, rest, rfl, hd', ha⟩ := h
  refine ⟨more ++ more', a, rest, by simp, ?_, ha⟩
  rw [drives, List.filter_append]
  exact congrArg₂ (· ++ ·) hd hd'

/-- What was applied from `s₀` to `s`, and the frame kept meanwhile. -/
structure Grown (K : Shared σ → Shared σ → Prop) (s₀ : EpisodeState σ) (new : List Applied) (s : EpisodeState σ) :
    Prop where
  applied : s.applied = new ++ s₀.applied
  frame : K s₀.shared s.shared

theorem Grown.still (h : Grown K s₀ new s) (hs : Still K s s') : Grown K s₀ new s' :=
  ⟨hs.1.trans h.applied, trans_of K h.frame hs.2⟩

theorem Grown.trans {more : List Applied} (h : Grown K s₀ new s) (h' : Grown K s more s') :
    Grown K s₀ (more ++ new) s' :=
  ⟨by rw [h'.applied, h.applied, List.append_assoc], trans_of K h.frame h'.frame⟩

theorem Grown.refl (s : EpisodeState σ) : Grown K s [] s := ⟨rfl, refl_of K _⟩

/-- The counters within their limits, and all drives counted but for those in
`refused`. -/
structure Accounted (e : NavigationEpisode σ) (c : Counters) (refused new : List Applied) : Prop where
  ticks : c.ticks ≤ e.limits.maxTicks
  actions : c.actions + refused.length ≤ e.limits.maxActions
  motion : c.totalMotionMs + motionOf refused ≤ e.limits.maxTotalMotionMs
  counted : ∃ counted, drives new = refused ++ counted ∧ c.actions = counted.length ∧
    c.totalMotionMs = motionOf counted

/-- Every drive applied, counted or not, is within the limits. -/
def WithinLimits (e : NavigationEpisode σ) (new : List Applied) : Prop :=
  (drives new).length ≤ e.limits.maxActions ∧ motionOf (drives new) ≤ e.limits.maxTotalMotionMs

omit [IsPreorder (Shared σ) K] in
theorem Accounted.withinLimits (h : e.Accounted c refused new) : e.WithinLimits new := by
  obtain ⟨counted, hdrives, hactions, hmotion⟩ := h.counted
  have ha := h.actions
  have hm := h.motion
  simp only [WithinLimits, hdrives, motionOf, List.length_append, List.map_append, List.sum_append] at hm hmotion ⊢
  omega

theorem Accounted.same (h : e.Accounted c refused new) (hc : SameBudget c c') : e.Accounted c' refused new := by
  obtain ⟨ht, ha, hm⟩ := hc
  exact ⟨ht ▸ h.ticks, ha ▸ h.actions, hm ▸ h.motion, ha ▸ hm ▸ h.counted⟩

def ExitAccounted (e : NavigationEpisode σ) (x : Exit) (new : List Applied) : Prop :=
  (x.alreadyStopped = true → Stopped new) ∧ ∃ refused, e.Accounted x.counters refused new ∧
    ∀ a ∈ refused, Refused a ∧ x.termination = .executionFailed

structure LoopAccounted (e : NavigationEpisode σ) (l : LoopState) (new : List Applied) : Prop where
  accounted : e.Accounted l.counters [] new
  replans : l.counters.replans = replansOf l.staleDispatchReplans l.counters.ticks
  stale : l.staleDispatchReplans ≤ e.limits.maxReplans

def Has (K : Shared σ → Shared σ → Prop) (s₀ : EpisodeState σ) (P : List Applied → Prop) (s : EpisodeState σ) : Prop :=
  ∃ new, Grown K s₀ new s ∧ P new

theorem Has.still {P : List Applied → Prop} (h : Has K s₀ P s) (hs : Still K s s') : Has K s₀ P s' := by
  obtain ⟨new, hn, hp⟩ := h
  exact ⟨new, hn.still hs, hp⟩

omit [IsPreorder (Shared σ) K] in
theorem Has.mono {P Q : List Applied → Prop} (h : Has K s₀ P s) (hpq : ∀ new, P new → Q new) : Has K s₀ Q s := by
  obtain ⟨new, hn, hp⟩ := h
  exact ⟨new, hn, hpq new hp⟩

def TickLeft (e : NavigationEpisode σ) (K : Shared σ → Shared σ → Prop) (s₀ : EpisodeState σ) :
    Exit ⊕ Raised → EpisodeState σ → Prop
  | .inl x, s => Has K s₀ (e.ExitAccounted x) s
  | .inr _, s => Has K s₀ e.WithinLimits s

omit [IsPreorder (Shared σ) K] in
theorem Accounted.exit {x : Exit} (h : Has K s₀ (e.Accounted c []) s) (hc : SameBudget c x.counters)
    (hx : x.alreadyStopped = false) : TickLeft e K s₀ (.inl x) s :=
  h.mono fun _ h => ⟨fun ht => Bool.noConfusion (hx.symm.trans ht), [], h.same hc, by simp⟩

-- One turn of the loop

theorem uncaught_still {x : Run σ α} (h : Keeps (Still K) x) (ha : Has K s₀ (e.Accounted c []) s) :
    Triple (uncaught x) s (fun _ s' => Has K s₀ (e.Accounted c []) s') (TickLeft e K s₀) :=
  Triple.mapError ((h.triple s).mono (fun _ _ hs => ha.still hs)
    fun _ _ hs => (ha.still hs).mono fun _ h => h.withinLimits)

theorem attempt_still {x : Run σ α} {E : Exit ⊕ Raised → EpisodeState σ → Prop} (h : Keeps (Still K) x)
    {P : List Applied → Prop} (ha : Has K s₀ P s) :
    Triple (Prog.attempt x : Tick σ (Except Raised α)) s (fun _ s' => Has K s₀ P s') E :=
  (h.attempted s).mono (fun _ _ hs => ha.still hs) fun _ _ h => h

theorem exitIfCancelled_spent (hf : e.Frames K) {x : Exit} (ha : Has K s₀ (e.Accounted c []) s)
    (hc : SameBudget c x.counters) (hx : x.alreadyStopped = false) :
    Triple (e.exitIfCancelled x) s (fun _ s' => Has K s₀ (e.Accounted c []) s') (TickLeft e K s₀) := by
  refine Triple.bind (uncaught_still (onShared_still hf.cancelled) ha) fun cancelled s₁ h₁ => ?_
  exact Triple.check (fun _ => Accounted.exit h₁ hc hx) fun _ => h₁

theorem precheck_spent (hf : e.Frames K) (ha : Has K s₀ (e.Accounted l.counters []) s) :
    Triple (e.precheck goal started retrying l) s
      (fun _ s' => Has K s₀ (e.Accounted l.counters []) s' ∧ l.counters.ticks < e.limits.maxTicks)
      (TickLeft e K s₀) := by
  refine Triple.bind (exitIfCancelled_spent hf ha ⟨rfl, rfl, rfl⟩ rfl) fun _ s₁ h₁ => ?_
  have leave : ∀ termination, TickLeft e K s₀ (.inl (l.exit termination)) s₁ := fun _ =>
    Accounted.exit h₁ ⟨rfl, rfl, rfl⟩ rfl
  refine Triple.step get_run (Triple.failIf (fun _ => leave _) fun _ => ?_)
  refine Triple.failIf (fun _ => leave _) fun _ => ?_
  refine Triple.step rfl (Triple.failIf (fun _ => leave _) fun hb => ?_)
  refine Triple.check (fun _ => leave _) fun _ => ⟨h₁, ?_⟩
  simp only [BudgetsSpent, not_or] at hb
  exact Nat.not_le.mp hb.1

theorem publish_spent (hf : e.Frames K) (ha : Has K s₀ (e.Accounted l.counters []) s) :
    Triple (e.publish goal l) s (fun _ s' => Has K s₀ (e.Accounted l.counters []) s') (TickLeft e K s₀) := by
  have hpub : Keeps (Still K) (do
      onShared (e.publishLocal goal l.reducer)
      onShared (e.beforeArbitration l.reducer) : Run σ _) :=
    Keeps.bind (onShared_still (hf.publish goal l.reducer)) fun _ => onShared_still (hf.hook l.reducer)
  refine Triple.bind (attempt_still hpub ha) fun directive s₁ h₁ => ?_
  cases directive with
  | ok directive => exact Triple.of_run rfl h₁
  | error error => exact Triple.throw (Accounted.exit h₁ ⟨rfl, rfl, rfl⟩ rfl)

theorem revokeIf_spent [Decidable c] (hf : e.Frames K) {x : Exit} (ha : Has K s₀ (e.Accounted k []) s)
    (hc : SameBudget k x.counters) (hx : x.alreadyStopped = false) :
    Triple (revokeIf c pulse x) s (fun _ s' => Has K s₀ (e.Accounted k []) s' ∧ ¬ c) (TickLeft e K s₀) := by
  unfold revokeIf
  refine Triple.ite (fun _ => ?_) fun hn => Triple.pure ⟨ha, hn⟩
  refine Triple.bind (attempt_still (onSupervisor_still hf _) ha) fun revoked s₁ h₁ => ?_
  cases revoked with
  | ok _ => exact Triple.throw (Accounted.exit h₁ hc hx)
  | error _ => exact Triple.throw (Accounted.exit h₁ hc hx)

theorem beforeDispatch_spent (hf : e.Frames K) (ha : Has K s₀ (e.Accounted l.counters []) s) :
    Triple (e.beforeDispatch started pulse l) s
      (fun _ s' => Has K s₀ (e.Accounted l.counters []) s' ∧
        (pulse.kind = .drive → l.counters.actions + 1 ≤ e.limits.maxActions ∧
          l.counters.totalMotionMs + pulse.durationMs ≤ e.limits.maxTotalMotionMs))
      (TickLeft e K s₀) := by
  refine Triple.bind (uncaught_still (onShared_still hf.cancelled) ha) fun cancelled s₁ h₁ => ?_
  refine Triple.bind (revokeIf_spent hf h₁ ⟨rfl, rfl, rfl⟩ rfl) fun _ s₂ ⟨h₂, _⟩ => ?_
  refine Triple.bind (revokeIf_spent hf h₂ ⟨rfl, rfl, rfl⟩ rfl) fun _ s₃ ⟨h₃, hbudget⟩ => ?_
  refine Triple.step rfl ((revokeIf_spent hf h₃ ⟨rfl, rfl, rfl⟩ rfl).mono ?_ fun _ _ h => h)
  rintro _ s₄ ⟨h₄, -⟩
  refine ⟨h₄, fun hk => ?_⟩
  simp only [hk, true_and, not_or, not_lt] at hbudget
  exact ⟨by omega, hbudget.2⟩

theorem Accounted.applied {l : LoopState} {pulse : DrivePulse} {before after : NavigationSnapshot}
    (h : e.Accounted l.counters [] new) (hticks : l.counters.ticks < e.limits.maxTicks)
    (hbudget : pulse.kind = .drive → l.counters.actions + 1 ≤ e.limits.maxActions ∧
      l.counters.totalMotionMs + pulse.durationMs ≤ e.limits.maxTotalMotionMs) :
    e.Accounted (account l pulse) [] (⟨pulse, before, after⟩ :: new) ∧
    e.Accounted l.counters (drives [⟨pulse, before, after⟩]) (⟨pulse, before, after⟩ :: new) := by
  obtain ⟨counted, hcounted, hactions, hmotion⟩ := h.counted
  have ha := h.actions
  have hm := h.motion
  simp only [List.nil_append] at hcounted
  have hdrives : drives (⟨pulse, before, after⟩ :: new) = drives [⟨pulse, before, after⟩] ++ counted := by
    rw [drives, List.filter_cons, ← drives, hcounted, drives, List.filter_cons]
    split <;> rfl
  cases hk : pulse.kind with
  | drive =>
    obtain ⟨hb₁, hb₂⟩ := hbudget hk
    have hone : drives [⟨pulse, before, after⟩] = [⟨pulse, before, after⟩] := by simp [drives, hk]
    rw [hone] at hdrives ⊢
    refine ⟨⟨?_, ?_, ?_, [⟨pulse, before, after⟩] ++ counted, ?_⟩, ⟨h.ticks, ?_, ?_, counted, hdrives, hactions, hmotion⟩⟩
    · exact hticks
    · simpa [account, hk] using hb₁
    · simpa [account, hk, motionOf] using hb₂
    · refine ⟨hdrives, ?_, ?_⟩
      · simp [account, hk, hactions]
      · simp [account, hk, hmotion, motionOf, Int.add_comm]
    · simpa using hb₁
    · simpa [motionOf] using hb₂
  | stop =>
    have hnone : drives [⟨pulse, before, after⟩] = [] := by simp [drives, hk]
    rw [hnone] at hdrives ⊢
    refine ⟨⟨hticks, ?_, ?_, counted, hdrives, ?_, ?_⟩, ⟨h.ticks, ha, hm, counted, hdrives, hactions, hmotion⟩⟩
    · simpa [account, hk] using ha
    · simpa [account, hk] using hm
    · simpa [account, hk] using hactions
    · simpa [account, hk] using hmotion

theorem applyPulse_spent (hf : e.Frames K) (before : NavigationSnapshot) (pulse : DrivePulse) (goal : WaypointGoal)
    (hg : Grown K s₀ new s) :
    Triple (e.applyPulse before pulse goal) s
      (fun after s' => Grown K s₀ (⟨pulse, before, after⟩ :: new) s') (fun _ s' => Grown K s₀ new s') := by
  unfold applyPulse
  refine Triple.bind ((onShared_still (hf.apply pulse goal)).triple s |>.mono (fun _ _ h => h) fun _ _ h => hg.still h) ?_
  intro after s₁ h₁
  have hg₁ := hg.still h₁
  refine Triple.modify_bind (Triple.pure ⟨?_, hg₁.frame⟩)
  exact congrArg (_ :: ·) hg₁.applied

theorem verify_spent (hf : e.Frames K) (hg : Grown K s₀ (⟨pulse, l.reducer, after⟩ :: new) s)
    (ha : e.Accounted (account l pulse) [] (⟨pulse, l.reducer, after⟩ :: new))
    (hstale : l.staleDispatchReplans ≤ e.limits.maxReplans) :
    Triple (e.verify goal l proposals pulse after) s
      (fun l' s' => Has K s₀ (e.LoopAccounted l') s' ∧ turns l' = turns l + 1) (TickLeft e K s₀) := by
  refine Triple.bind ((onShared_still (hf.sink after)).attempted s |>.mono (fun _ _ h => h) fun _ _ h => h) ?_
  intro delivered s₁ h₁
  have hg₁ := hg.still h₁
  have hs₁ : Has K s₀ (e.Accounted (account l pulse) []) s₁ := ⟨_, hg₁, ha⟩
  have verified : (pulse.kind = .stop && e.verifyProgress l.reducer after pulse && !after.motorsRunning) = true →
      VerifiedStop ⟨pulse, l.reducer, after⟩ := by
    simp only [Bool.and_eq_true, decide_eq_true_eq, Bool.not_eq_true', and_imp]
    intro hk hv hm
    simp only [verifyProgress, hk, Bool.and_eq_true, decide_eq_true_eq] at hv
    exact ⟨hk, hv.1, hm⟩
  refine orExit_run (fun _ _ => Accounted.exit hs₁ ⟨rfl, rfl, rfl⟩ rfl) fun _ _ => ?_
  refine Triple.failIf (fun _ => ⟨_, hg₁, fun ht => (verified ht).stopped _, [], ha, by simp⟩) fun _ => ?_
  refine Triple.failIf (fun _ => Accounted.exit hs₁ ⟨rfl, rfl, rfl⟩ rfl) fun hprogress => ?_
  refine Triple.failIf (fun hk => ⟨_, hg₁, fun _ => (verified ?_).stopped _, [], ha, by simp⟩) fun _ => ?_
  · have hv : e.verifyProgress l.reducer after pulse = true := by simpa using hprogress
    have hm : after.motorsRunning = false := by
      simp only [verifyProgress, hk.1, Bool.and_eq_true, Bool.not_eq_true'] at hv
      exact hv.2
    simp [hk.1, hv, hm]
  refine Triple.failIf (fun _ => ⟨_, hg₁, fun ht => (verified ht).stopped _, [], ha, by simp⟩) fun _ => ?_
  refine Triple.pure ⟨⟨_, hg₁, ha, rfl, hstale⟩, ?_⟩
  show l.counters.ticks + 1 + l.staleDispatchReplans = l.counters.ticks + l.staleDispatchReplans + 1
  omega

theorem reobserve_spent (hf : e.Frames K) (hi : Has K s₀ (e.LoopAccounted l) s) :
    Triple (e.reobserve goal l) s
      (fun l' s' => Has K s₀ (e.LoopAccounted l') s' ∧ turns l' = turns l + 1) (TickLeft e K s₀) := by
  have ha : Has K s₀ (e.Accounted l.counters []) s := hi.mono fun _ h => h.accounted
  obtain ⟨_, _, hl⟩ := hi
  refine Triple.bind (attempt_still (onShared_still (hf.observe goal)) ha) fun observed s₁ h₁ => ?_
  have leave : ∀ {x : Exit}, SameBudget l.counters x.counters → x.alreadyStopped = false →
      TickLeft e K s₀ (.inl x) s₁ := fun hc hx => Accounted.exit h₁ hc hx
  refine orExit_run (fun _ _ => leave ⟨rfl, rfl, rfl⟩ rfl) fun fresh _ => ?_
  refine orExit_run (fun _ _ => leave ⟨rfl, rfl, rfl⟩ rfl) fun fresh _ => ?_
  refine Triple.failIf (fun _ => leave ⟨rfl, rfl, rfl⟩ rfl) fun _ => ?_
  refine Triple.bind (attempt_still (onShared_still (hf.sink fresh)) h₁) fun delivered s₂ h₂ => ?_
  refine orExit_run (fun _ _ => Accounted.exit h₂ ⟨rfl, rfl, rfl⟩ rfl) fun _ _ => ?_
  refine Triple.failIf (fun _ => Accounted.exit h₂ ⟨rfl, rfl, rfl⟩ rfl) fun hreplans => ?_
  refine Triple.pure ⟨h₂.mono fun _ h => ⟨h.same ⟨rfl, rfl, rfl⟩, rfl, ?_⟩, ?_⟩
  · -- the replans spent so far are at least the stale dispatches among them
    have hlt : l.counters.replans < e.limits.maxReplans := Nat.not_le.mp hreplans
    rw [hl.replans] at hlt
    show l.staleDispatchReplans + 1 ≤ e.limits.maxReplans
    unfold replansOf at hlt
    omega
  · show l.counters.ticks + (l.staleDispatchReplans + 1) = l.counters.ticks + l.staleDispatchReplans + 1
    omega

theorem dispatch_spent (hf : e.Frames K) (hi : Has K s₀ (e.LoopAccounted l) s)
    (hticks : l.counters.ticks < e.limits.maxTicks)
    (hbudget : pulse.kind = .drive → l.counters.actions + 1 ≤ e.limits.maxActions ∧
      l.counters.totalMotionMs + pulse.durationMs ≤ e.limits.maxTotalMotionMs) :
    Triple (e.dispatch goal proposals pulse l) s
      (fun l' s' => Has K s₀ (e.LoopAccounted l') s' ∧ turns l' = turns l + 1) (TickLeft e K s₀) := by
  obtain ⟨new, hg, hl⟩ := hi
  have happly : Triple (Prog.attempt (e.applyPulse l.reducer pulse goal) : Tick σ _) s
      (fun r s' => match r with
        | .ok after => Grown K s₀ (⟨pulse, l.reducer, after⟩ :: new) s'
        | .error _ => Grown K s₀ new s')
      (TickLeft e K s₀) :=
    Triple.attempt ((applyPulse_spent hf l.reducer pulse goal hg).mono (fun _ _ h => h) fun _ _ h => h)
  refine Triple.bind happly ?_
  rintro (error | after) s₁ h₁
  · have ha : Has K s₀ (e.Accounted l.counters []) s₁ := ⟨new, h₁, hl.accounted⟩
    cases error with
    | other => exact Triple.throw (Accounted.exit ha ⟨rfl, rfl, rfl⟩ rfl)
    | contract error =>
      refine Triple.ite (fun _ => ?_) fun _ => Triple.throw (Accounted.exit ha ⟨rfl, rfl, rfl⟩ rfl)
      exact reobserve_spent (l := l.log "EXECUTING") hf ⟨new, h₁, hl.accounted, hl.replans, hl.stale⟩
  · have hsettled : e.Accounted (account l pulse) [] (⟨pulse, l.reducer, after⟩ :: new) ∧
        e.Accounted l.counters (drives [⟨pulse, l.reducer, after⟩]) (⟨pulse, l.reducer, after⟩ :: new) :=
      hl.accounted.applied hticks hbudget
    obtain ⟨hcounted, hleft⟩ := hsettled
    refine orExit_run (fun error hcommit => ⟨_, h₁, nofun, _, hleft, fun a ha => ?_⟩) fun committed hcommit => ?_
    · rw [List.mem_singleton.mp (List.mem_of_mem_filter ha)]
      exact ⟨⟨error, hcommit⟩, rfl⟩
    · have h₁' : Grown K s₀ (⟨pulse, l.reducer, after⟩ :: new) s₁ := h₁
      obtain ⟨rfl, -⟩ := StateReducer.commit_ok hcommit
      exact verify_spent (l := l.log "EXECUTING") hf h₁' hcounted hl.stale

theorem tick_spent (hf : e.Frames K) (hi : Has K s₀ (e.LoopAccounted l) s) :
    Triple (e.tick goal started l) s
      (fun l' s' => Has K s₀ (e.LoopAccounted l') s' ∧ turns l' = turns l + 1) (TickLeft e K s₀) := by
  have ha : Has K s₀ (e.Accounted l.counters []) s := hi.mono fun _ h => h.accounted
  obtain ⟨_, _, hl⟩ := hi
  refine Triple.bind (precheck_spent hf (l := { l with staleRetryGranted := false }) ha) ?_
  rintro _ s₁ ⟨h₁, hticks⟩
  refine Triple.bind (publish_spent hf h₁) fun directive s₂ h₂ => ?_
  refine Triple.bind (exitIfCancelled_spent hf h₂ ⟨rfl, rfl, rfl⟩ rfl) fun _ s₃ h₃ => ?_
  refine Triple.bind (uncaught_still (reading_still hf.drain) h₃) fun proposals s₄ h₄ => ?_
  refine Triple.failIf (fun _ => Accounted.exit h₄ ⟨rfl, rfl, rfl⟩ rfl) fun _ => ?_
  refine Triple.bind (uncaught_still (arbitrate_still hf) h₄) fun pulse s₅ h₅ => ?_
  have h₅' := h₅.mono (Q := e.Accounted { l.counters with proposals := l.counters.proposals + proposals.length } [])
    fun _ h => h.same ⟨rfl, rfl, rfl⟩
  refine Triple.bind (beforeDispatch_spent hf h₅') ?_
  rintro _ s₆ ⟨h₆, hbudget⟩
  exact dispatch_spent hf (h₆.mono fun _ h => ⟨h, hl.replans, hl.stale⟩) hticks hbudget

-- The end of a run

omit [IsPreorder (Shared σ) K] in
theorem forceStop_based (snapshot : NavigationSnapshot) (reason : String) :
    Returns (·.basedOnStateVersion = snapshot.stateVersion) (e.forceStop snapshot reason) :=
  Returns.next fun _ => onSupervisor_returns MotionSupervisor.stop_based

theorem resultOf_failed {x : Exit} (h : x.termination = .executionFailed) : (resultOf goal x final verified).Failed := by
  simp only [NavigationResult.Failed, resultOf, h]
  cases verified <;> cases !final.activeFaults.isEmpty || final.touchPressed <;> simp

structure Spent (e : NavigationEpisode σ) (r : NavigationResult) (new : List Applied) : Prop where
  within : e.WithinLimits new
  /-- Every drive is counted but for those the reducer refused. -/
  counted : ∃ refused counted, drives new = refused ++ counted ∧ r.counters.actions = counted.length ∧
    r.counters.totalMotionMs = motionOf counted ∧ ∀ a ∈ refused, Refused a ∧ r.Failed
  stopped : r.terminalStopVerified = true → Stopped new

theorem stopPlant_spent (hf : e.Frames K) (snapshot : NavigationSnapshot) (goal : WaypointGoal)
    (hg : Grown K s₀ new s) :
    Triple (e.stopPlant snapshot goal) s
      (fun r s' => ∃ a, a.pulse.kind = .stop ∧ Grown K s₀ (a :: new) s' ∧ (r.2 = true → VerifiedStop a))
      (fun _ s' => Grown K s₀ new s') := by
  have hforce := ((forceStop_still hf snapshot "terminal_stop").triple s).and
    ((forceStop_kind snapshot "terminal_stop" s).and (forceStop_based snapshot "terminal_stop" s))
  refine Triple.bind (hforce.mono (fun _ _ h => h) fun _ _ h => hg.still h.1) ?_
  rintro stop s₁ ⟨h₁, hkind, hbased⟩
  refine Triple.bind (applyPulse_spent hf snapshot stop goal (hg.still h₁)) fun after s₂ h₂ => ?_
  refine Triple.pure ⟨_, hkind, h₂, fun hv => ?_⟩
  simp only [Bool.and_eq_true, Bool.not_eq_true', decide_eq_true_eq] at hv
  exact ⟨hkind, by rw [← hbased]; exact hv.2, hv.1⟩

theorem drives_stop {a : Applied} (h : a.pulse.kind = .stop) (new : List Applied) : drives (a :: new) = drives new := by
  simp [drives, h]

omit [IsPreorder (Shared σ) K] in
theorem observeEmergency_still (hf : e.Frames K) (snapshot : NavigationSnapshot) :
    Triple (onSupervisor (e.supervisor.observeEmergency snapshot)) s (fun _ s' => Still K s s') (fun _ _ => False) := by
  have hkeeps := (onSupervisor_still hf (e.supervisor.observeEmergency snapshot)).triple s
  refine (hkeeps.and (observe_quiet (e := e) (fun _ => 0) snapshot)).mono (fun _ _ h => h.1) fun _ _ h => h.2

theorem terminalStop_spent (hf : e.Frames K) {x : Exit} (hg : Grown K s₀ new s)
    (hx : x.alreadyStopped = true → Stopped new) :
    Triple (e.terminalStop goal x) s
      (fun r s' => ∃ new', Grown K s₀ new' s' ∧ drives new' = drives new ∧
        (r.2 = true → Stopped new'))
      (fun _ _ => False) := by
  unfold terminalStop
  refine Triple.ite (fun hs => Triple.pure ⟨new, hg, rfl, fun _ => hx ?_⟩) fun _ => ?_
  · exact (Bool.and_eq_true_iff.mp hs).1
  refine Triple.tryCatch ((stopPlant_spent hf x.snapshot goal hg).mono ?_ fun _ _ h => h) ?_
  · rintro r s' ⟨a, hkind, hg', hv⟩
    exact ⟨a :: new, hg', drives_stop hkind new, fun h => (hv h).stopped new⟩
  · exact fun _ _ hg' => Triple.pure ⟨new, hg', rfl, nofun⟩

theorem finish_spent (hf : e.Frames K) {x : Exit} (hx : Has K s₀ (e.ExitAccounted x) s) :
    Triple (e.finish goal x) s (fun r s' => Has K s₀ (e.Spent r) s') (fun _ _ => False) := by
  obtain ⟨new, hg, hstopped, refused, ha, hrefused⟩ := hx
  refine Triple.bind (observeEmergency_still hf x.snapshot) fun _ s₁ h₁ => ?_
  refine Triple.bind (terminalStop_spent hf (hg.still h₁) hstopped) ?_
  rintro ⟨final, verified⟩ s₂ ⟨new', hg₂, hdrives, hstop⟩
  refine Triple.bind (observeEmergency_still hf final) fun _ s₃ h₃ => ?_
  obtain ⟨counted, hsplit, hactions, hmotion⟩ := ha.counted
  have hwithin := ha.withinLimits
  refine Triple.pure ⟨new', hg₂.still h₃, ?_, ⟨refused, counted, hdrives.trans hsplit, hactions, hmotion, ?_⟩, hstop⟩
  · simpa only [WithinLimits, hdrives] using hwithin
  · intro a hmem
    obtain ⟨hr, hterm⟩ := hrefused a hmem
    exact ⟨hr, resultOf_failed hterm⟩

-- Whole runs

theorem loop_spent (hf : e.Frames K) (fuel : Nat) (hi : Has K s₀ (e.LoopAccounted l) s)
    (hfuel : e.limits.maxTicks + e.limits.maxReplans < fuel + turns l) :
    Triple (e.loop goal started fuel l) s
      (fun r s' => ∃ result, r = some result ∧ Has K s₀ (e.Spent result) s')
      (fun _ s' => Has K s₀ e.WithinLimits s') := by
  induction fuel generalizing l s with
  | zero =>
    obtain ⟨_, _, hl⟩ := hi
    have hticks := hl.accounted.ticks
    have hstale := hl.stale
    unfold turns at hfuel
    omega
  | succ fuel ih =>
    have ht : Triple (e.tick goal started l) s _ _ := tick_spent hf hi
    unfold Triple loop
    rcases hr : e.tick goal started l s with ⟨(x | error) | l', s'⟩
    · refine Triple.bind (f := fun r => pure (some r)) ((finish_spent hf (ht.error hr)).mono (fun _ _ h => h)
        fun _ _ h => h.elim) ?_
      exact fun r s' h => Triple.pure ⟨r, rfl, h⟩
    · exact ht.error hr
    · obtain ⟨hi', hturns⟩ := ht.ok hr
      exact ih hi' (by omega)

theorem run_spent (hf : e.Frames K) (goal : WaypointGoal) (s : EpisodeState σ) :
    Triple (e.run (e.limits.maxTicks + e.limits.maxReplans + 1) goal) s
      (fun r s' => ∃ result, r = some result ∧ Has K s (e.Spent result) s')
      (fun _ s' => Has K s e.WithinLimits s') := by
  have hstart : Has K s (e.Accounted {} []) s := by
    refine ⟨[], Grown.refl s, Nat.zero_le _, Nat.zero_le _, ?_, [], rfl, rfl, rfl⟩
    have := e.limits.motionOk.1
    simp only [motionOf, List.map_nil, List.sum_nil]
    omega
  refine Triple.step rfl ?_
  refine Triple.bind ((onShared_still (hf.observe goal)).triple s |>.mono (fun _ _ h => h) fun _ _ h => ?_) ?_
  · exact (hstart.still h).mono fun _ h => h.withinLimits
  intro snapshot s₁ h₁
  refine Triple.bind ((onShared_still (hf.sink snapshot)).attempted s₁ |>.mono (fun _ _ h => h) fun _ _ h => h) ?_
  intro delivered s₂ h₂
  have ha := (hstart.still h₁).still h₂
  cases delivered with
  | ok _ => exact loop_spent hf _ (ha.mono fun _ h => ⟨h, rfl, Nat.zero_le _⟩) (by simp only [turns]; omega)
  | error _ =>
    refine Triple.bind ((finish_spent hf (Accounted.exit ha ⟨rfl, rfl, rfl⟩ rfl)).mono
      (fun _ _ h => h) fun _ _ h => h.elim) ?_
    exact fun r s' h => Triple.pure ⟨r, rfl, h⟩

end NavigationEpisode

end RobotLlm.Navigation
