import RobotLlm.Navigation.Supervisor

/-!
# The emergency latch over whole runs

No call but a hazard sets the latch and no call but a successful rearm clears
it, so the latch is the past of the run in one bit. The epoch kept with it is
that of the last hazard only: it bounds the epochs of all of them as long as
hazards arrive in the order of their epochs.
-/

namespace RobotLlm.Navigation

open RobotLlm.Lib Prog

inductive SupervisorCall where
  | decide (clock : Except NavigationContractError Int) (fresh : Except NavigationContractError String)
      (snapshot : NavigationSnapshot) (goal : WaypointGoal) (proposals : List StampedProposal)
  | observeEmergency (snapshot : NavigationSnapshot)
  | requestRearm (clock : Except NavigationContractError Int) (goal : WaypointGoal)
      (snapshots : List NavigationSnapshot)
  | forceStop (fresh : Except NavigationContractError String) (snapshot : NavigationSnapshot)
      (reasonCode : String)
  /-- A call on the shared authority: the supervisor's `cancel`, or the bus. -/
  | authority (call : AuthorityCall)

inductive SupervisorAnswer where
  | pulse (r : Except NavigationContractError DrivePulse)
  | flag (r : Except NavigationContractError Bool)
  | done (r : Except NavigationContractError Unit)
deriving DecidableEq

abbrev SupervisorEvent := SupervisorCall × SupervisorAnswer

namespace MotionSupervisor

def machine (m : MotionSupervisor) : Machine State SupervisorCall SupervisorAnswer where
  step s
    | .decide clock fresh snapshot goal proposals =>
      let r := m.decide clock fresh snapshot goal proposals s
      (.pulse r.1, r.2)
    | .observeEmergency snapshot =>
      let r := m.observeEmergency snapshot s
      (.flag r.1, r.2)
    | .requestRearm clock goal snapshots =>
      let r := m.requestRearm clock goal snapshots s
      (.flag r.1, r.2)
    | .forceStop fresh snapshot reasonCode =>
      let r := m.forceStop fresh snapshot reasonCode s
      (.pulse r.1, r.2)
    | .authority call =>
      let r := onAuthority (fun a => motionAuthority.step a call) s
      (.done r.1, r.2)

/-- The hazard a call latches. A decision without a clock reading raises
before it looks. -/
def latchedBy (m : MotionSupervisor) : SupervisorCall → Option NavigationSnapshot
  | .decide clock _ snapshot _ _ =>
    if (nowMs clock).isOk ∧ m.Expects snapshot ∧ snapshot.Hazard then some snapshot else none
  | .observeEmergency snapshot => if m.Expects snapshot ∧ snapshot.Hazard then some snapshot else none
  | _ => none

def Rearmed : SupervisorEvent → Prop
  | (.requestRearm .., .flag (.ok true)) => True
  | _ => False

/-- `hazard` was latched, and no rearm has been granted since. -/
def HazardSince (m : MotionSupervisor) (hazard : NavigationSnapshot) (h : List SupervisorEvent) : Prop :=
  Since (fun e => ¬ Rearmed e) (fun e => m.latchedBy e.1 = some hazard) h

/-- The run hands hazards over in the order of their epochs: one that arrives
while another is latched is not of an older goal. -/
def HazardsInOrder (m : MotionSupervisor) (s : State) (c : SupervisorCall) : Prop :=
  ∀ hazard ∈ m.latchedBy c, s.emergencyLatched = true →
    ∀ epoch ∈ s.latchedGoalEpoch, epoch ≤ hazard.goalEpoch

instance : Decidable (HazardsInOrder m s c) :=
  inferInstanceAs (Decidable (∀ hazard ∈ m.latchedBy c, _))

-- What the parts of a call leave of the latch

def SameLatch (s s' : State) : Prop :=
  s'.emergencyLatched = s.emergencyLatched ∧ s'.latchedGoalEpoch = s.latchedGoalEpoch

def Latched (hazard : NavigationSnapshot) (s : State) : Prop :=
  s.emergencyLatched = true ∧ s.latchedGoalEpoch = some hazard.goalEpoch

@[simp] theorem SameLatch.refl (s : State) : SameLatch s s := ⟨rfl, rfl⟩

theorem SameLatch.trans (h : SameLatch s t) (h' : SameLatch t u) : SameLatch s u :=
  ⟨h'.1.trans h.1, h'.2.trans h.2⟩

theorem SameLatch.latched (h : SameLatch s t) (hl : Latched hazard s) : Latched hazard t :=
  ⟨h.1.trans hl.1, h.2.trans hl.2⟩

section
variable {m : MotionSupervisor} {s : State} {snapshot : NavigationSnapshot}

theorem onAuthority_sameLatch :
    Triple (onAuthority f) s (fun _ s' => SameLatch s s') (fun _ s' => SameLatch s s') :=
  Triple.onPart (by unfold Triple; split <;> exact ⟨rfl, rfl⟩)

theorem authorizePulse_run (pulse : DrivePulse) : Triple (authorizePulse pulse) s
    (fun p s' => p = pulse ∧ SameLatch s s') (fun _ s' => SameLatch s s') := by
  unfold authorizePulse
  refine Triple.bind onAuthority_sameLatch ?_
  intro _ s' hs
  exact Triple.pure ⟨rfl, hs⟩

theorem pulse_run (build : String → DrivePulse) : Triple
    (do let id ← Prog.ofExcept (decisionId fresh)
        let pulse ← Prog.ofExcept (DrivePulse.new (build id))
        authorizePulse pulse : Call DrivePulse) s
    (fun p s' => (∃ id, p = build id) ∧ SameLatch s s') (fun _ s' => SameLatch s s') := by
  have check : ∀ (α : Type) (r : Except NavigationContractError α),
      Triple (Prog.ofExcept r) s (fun a s' => r = .ok a ∧ s' = s) (fun _ s' => SameLatch s s') := by
    intro α r
    cases r with
    | ok a => exact Triple.of_run rfl ⟨rfl, rfl⟩
    | error e => exact Triple.of_run rfl (SameLatch.refl s)
  refine Triple.bind (check _ _) ?_
  rintro id s' ⟨-, rfl⟩
  refine Triple.bind (check _ _) ?_
  rintro pulse s' ⟨hp, rfl⟩
  obtain ⟨rfl, -⟩ := DrivePulse.new_ok hp
  exact (authorizePulse_run _).mono (fun p s' ⟨hp, hs⟩ => ⟨⟨id, hp⟩, hs⟩) fun _ _ h => h

theorem stop_run : Triple (m.stop fresh snapshot reason proposalId) s
    (fun p s' => p.kind = .stop ∧ SameLatch s s') (fun _ s' => SameLatch s s') := by
  refine (pulse_run _).mono ?_ fun _ _ h => h
  rintro p s' ⟨⟨id, rfl⟩, hs⟩
  exact ⟨rfl, hs⟩

theorem drive_run : Triple (m.drive fresh snapshot left right duration reason proposalId) s
    (fun _ s' => SameLatch s s') (fun _ s' => SameLatch s s') :=
  (pulse_run _).mono (fun _ _ h => h.2) fun _ _ h => h

theorem consumeOne_sameLatch (acc : State × List StampedProposal) (value : StampedProposal) :
    SameLatch acc.1 (m.consumeOne batch previous snapshot goal now acc value).1 := by
  unfold consumeOne
  dsimp only
  split <;> exact ⟨rfl, rfl⟩

theorem consumeAndFilter_run : Triple (m.consumeAndFilter proposals snapshot goal now) s
    (fun _ s' => SameLatch s s') (fun _ _ => False) := by
  have hfold : ∀ (values : List StampedProposal) (acc : State × List StampedProposal), SameLatch s acc.1 →
      SameLatch s (values.foldl (m.consumeOne proposals s.sourceHighWater snapshot goal now) acc).1 := by
    intro values
    induction values with
    | nil => exact fun _ h => h
    | cons v values ih => exact fun acc h => ih _ (h.trans (consumeOne_sameLatch acc v))
  exact Triple.of_run rfl (hfold proposals (s, []) (SameLatch.refl s))

theorem arbitrate_run : Triple (m.arbitrate fresh snapshot valid) s
    (fun _ s' => SameLatch s s') (fun _ s' => SameLatch s s') := by
  have hstop : ∀ reason proposalId, Triple (m.stop fresh snapshot reason proposalId) s
      (fun _ s' => SameLatch s s') (fun _ s' => SameLatch s s') :=
    fun _ _ => stop_run.mono (fun _ _ h => h.2) fun _ _ h => h
  unfold arbitrate
  dsimp only
  split
  · exact hstop _ _
  · refine Triple.ite (fun _ => hstop _ _) fun _ => ?_
    split
    · exact hstop _ _
    · exact hstop _ _
    · unfold authorizeAdvance
      split
      · exact hstop _ _
      · exact Triple.ite (fun _ => hstop _ _) fun _ => drive_run
    · exact drive_run

theorem latch_run : Triple (latch snapshot) s (fun _ s' => Latched snapshot s') (fun _ _ => False) :=
  Triple.modify ⟨rfl, rfl⟩

theorem startGoal_run : Triple (startGoal goal) s (fun _ s' => SameLatch s s') (fun _ _ => False) := by
  refine Triple.modify ?_
  split <;> exact ⟨rfl, rfl⟩

-- One call

-- The pulses a call returns

def WellFormed (p : DrivePulse) : Prop := p.postInit = .ok ()

theorem build_wellFormed (build : String → DrivePulse) : Returns WellFormed
    (do let id ← Prog.ofExcept (decisionId fresh)
        let pulse ← Prog.ofExcept (DrivePulse.new (build id))
        authorizePulse pulse : Call DrivePulse) := by
  refine Returns.next fun id => ?_
  have hnew : Returns WellFormed (Prog.ofExcept (DrivePulse.new (build id)) : Call DrivePulse) :=
    Returns.ofExcept fun p h => by
      obtain ⟨rfl, hp⟩ := DrivePulse.new_ok h
      exact hp
  exact Returns.bind hnew fun p hp => Returns.next fun _ => Returns.pure hp

theorem stop_wellFormed : Returns WellFormed (m.stop fresh snapshot reason proposalId) :=
  build_wellFormed _

theorem stop_kind : Returns (·.kind = .stop) (m.stop fresh snapshot reason proposalId) :=
  fun _ => stop_run.mono (fun _ _ h => h.1) fun _ _ _ => trivial

theorem stop_based : Returns (·.basedOnStateVersion = snapshot.stateVersion)
    (m.stop fresh snapshot reason proposalId) :=
  fun _ => (pulse_run _).mono (fun _ _ ⟨⟨_, hp⟩, _⟩ => hp ▸ rfl) fun _ _ _ => trivial

theorem drive_wellFormed : Returns WellFormed (m.drive fresh snapshot left right duration reason proposalId) :=
  build_wellFormed _

theorem arbitrate_wellFormed : Returns WellFormed (m.arbitrate fresh snapshot valid) := by
  unfold arbitrate
  dsimp only
  split
  · exact stop_wellFormed
  · refine Returns.ite stop_wellFormed ?_
    split
    · exact stop_wellFormed
    · exact stop_wellFormed
    · unfold authorizeAdvance
      split
      · exact stop_wellFormed
      · exact Returns.ite stop_wellFormed drive_wellFormed
    · exact drive_wellFormed

theorem decide_wellFormed : Returns WellFormed (m.decide clock fresh snapshot goal proposals) := by
  unfold decide
  refine Returns.next fun now => Returns.ite stop_wellFormed (Returns.ite (Returns.next fun _ => stop_wellFormed) ?_)
  split
  · exact stop_wellFormed
  · refine Returns.ite stop_wellFormed (Returns.next fun _ => Returns.ite stop_wellFormed ?_)
    refine Returns.next fun _ => Returns.next fun _ => Returns.ite stop_wellFormed ?_
    exact Returns.next fun _ => arbitrate_wellFormed

/-- What a call leaves of the latch: its hazard, or what was there. -/
def LatchStep (hazard : Option NavigationSnapshot) (s s' : State) : Prop :=
  match hazard with
  | some hazard => Latched hazard s'
  | none => SameLatch s s'

theorem latchedBy_decide_ok (hclock : nowMs clock = .ok now) :
    m.latchedBy (.decide clock fresh snapshot goal proposals) =
      if m.Expects snapshot ∧ snapshot.Hazard then some snapshot else none := by
  simp only [latchedBy, hclock, Except.isOk, Except.toBool, true_and]

theorem decide_run : Triple (m.decide clock fresh snapshot goal proposals) s
    (fun p s' => LatchStep (m.latchedBy (.decide clock fresh snapshot goal proposals)) s s' ∧
      (s.emergencyLatched = true → p.kind = .stop))
    (fun _ s' => LatchStep (m.latchedBy (.decide clock fresh snapshot goal proposals)) s s') := by
  unfold decide
  cases hclock : nowMs clock with
  | error e =>
    have hnone : m.latchedBy (.decide clock fresh snapshot goal proposals) = none := by
      simp [latchedBy, hclock, Except.isOk, Except.toBool]
    rw [hnone]
    exact Triple.of_run rfl (SameLatch.refl s)
  | ok now =>
    rw [latchedBy_decide_ok hclock]
    refine Triple.step (by rw [ofExcept_run]) ?_
    by_cases hlatch : m.Expects snapshot ∧ snapshot.Hazard
    · obtain ⟨he, hh⟩ := hlatch
      rw [if_pos (And.intro he hh)]
      refine Triple.ite (fun hn => absurd he hn) fun _ => Triple.ite (fun _ => ?_) fun hn => absurd hh hn
      refine Triple.bind (latch_run.mono (fun _ _ h => h) fun _ _ h => h.elim) ?_
      intro _ s' hl
      exact stop_run.mono (fun _ _ h => ⟨h.2.latched hl, fun _ => h.1⟩) fun _ _ h => h.latched hl
    · rw [if_neg hlatch]
      have hstop : ∀ reason, Triple (m.stop fresh snapshot reason none) s
          (fun p s' => SameLatch s s' ∧ (s.emergencyLatched = true → p.kind = .stop))
          (fun _ s' => SameLatch s s') :=
        fun _ => stop_run.mono (fun _ _ h => ⟨h.2, fun _ => h.1⟩) fun _ _ h => h
      refine Triple.ite (fun _ => hstop _) fun he => ?_
      refine Triple.ite (fun hh => absurd ⟨not_not.mp he, hh⟩ hlatch) fun _ => ?_
      split
      · exact hstop _
      · refine Triple.ite (fun _ => hstop _) fun _ => ?_
        refine Triple.step get_run (Triple.ite (fun _ => hstop _) fun _ => ?_)
        refine Triple.bind (startGoal_run.mono (fun _ _ h => h) fun _ _ h => h.elim) ?_
        intro _ s₁ h₁
        refine Triple.step get_run (Triple.ite (fun _ => ?_) fun hl => ?_)
        · exact stop_run.mono (fun _ _ h => ⟨h₁.trans h.2, fun _ => h.1⟩) fun _ _ h => h₁.trans h
        · refine Triple.bind (consumeAndFilter_run.mono (fun _ _ h => h₁.trans h) fun _ _ h => h.elim) ?_
          intro valid s₂ h₂
          refine arbitrate_run.mono (fun p s' h => ⟨h₂.trans h, fun hs => ?_⟩) fun _ _ h => h₂.trans h
          rw [h₁.1] at hl
          exact absurd hs hl

theorem observeEmergency_run : Triple (m.observeEmergency snapshot) s
    (fun _ s' => LatchStep (m.latchedBy (.observeEmergency snapshot)) s s') (fun _ _ => False) := by
  unfold observeEmergency
  have heq : m.latchedBy (.observeEmergency snapshot) =
      if m.Expects snapshot ∧ snapshot.Hazard then some snapshot else none := rfl
  rw [heq]
  by_cases hlatch : m.Expects snapshot ∧ snapshot.Hazard
  · obtain ⟨he, hh⟩ := hlatch
    rw [if_pos (And.intro he hh)]
    refine Triple.ite (fun hn => absurd he hn) fun _ => Triple.ite (fun _ => ?_) fun hn => absurd hh hn
    refine Triple.bind latch_run ?_
    intro _ s' hl
    exact Triple.pure hl
  · rw [if_neg hlatch]
    refine Triple.ite (fun _ => Triple.pure (SameLatch.refl s)) fun he => ?_
    refine Triple.ite (fun hh => absurd ⟨not_not.mp he, hh⟩ hlatch) fun _ => ?_
    exact Triple.pure (SameLatch.refl s)

/-- What a granted rearm has checked of the samples it selects. -/
structure SafeSelection (m : MotionSupervisor) (goal : WaypointGoal) (now : Int)
    (samples : List NavigationSnapshot) : Prop where
  safe : ∀ x ∈ samples, x.boundTo goal ∧ m.freshSnapshot x now = none ∧ ¬ x.Hazard
  increasing : samples.Pairwise fun x y =>
    x.stateVersion < y.stateVersion ∧ x.clearance.observedAtMs < y.clearance.observedAtMs

theorem safeSamples_ok {now version safety : Int} {samples : List NavigationSnapshot}
    (h : m.safeSamples goal now version safety samples = true) :
    SafeSelection m goal now samples ∧
      ∀ x ∈ samples, version < x.stateVersion ∧ safety < x.clearance.observedAtMs := by
  induction samples generalizing version safety with
  | nil => exact ⟨⟨by simp, .nil⟩, by simp⟩
  | cons x samples ih =>
    simp only [safeSamples] at h
    split at h
    next hx =>
      obtain ⟨hrest, hafter⟩ := ih h
      obtain ⟨hb, hf, hz, hv, ht⟩ := hx
      refine ⟨⟨?_, .cons hafter hrest.increasing⟩, ?_⟩
      · rintro y (_ | ⟨_, hy⟩)
        · exact ⟨hb, hf, hz⟩
        · exact hrest.safe y hy
      · rintro y (_ | ⟨_, hy⟩)
        · exact ⟨hv, ht⟩
        · obtain ⟨h₁, h₂⟩ := hafter y hy
          exact ⟨by omega, by omega⟩
    next => cases h

theorem requestRearm_run : Triple (m.requestRearm clock goal snapshots) s
    (fun granted s' =>
      if granted then s'.emergencyLatched = false ∧ (s.emergencyLatched = true →
        (∃ epoch, s.latchedGoalEpoch = some epoch ∧ epoch < goal.goalEpoch) ∧
        m.policy.rearmSafeSamples ≤ snapshots.length ∧
        ∃ now, nowMs clock = .ok now ∧ SafeSelection m goal now (m.rearmSelection snapshots))
      else SameLatch s s')
    (fun _ s' => SameLatch s s') := by
  unfold requestRearm
  refine Triple.step get_run ?_
  refine Triple.ite (fun hl => ?_) fun _ => Triple.ite (fun _ => ?_) fun hlen => ?_
  · exact Triple.pure ⟨by simpa using hl, fun h => absurd h hl⟩
  · exact Triple.pure (SameLatch.refl _)
  cases hepoch : s.latchedGoalEpoch with
  | none => exact Triple.pure (SameLatch.refl _)
  | some epoch =>
    refine Triple.ite (fun _ => Triple.pure (SameLatch.refl _)) fun hnewer => ?_
    cases hclock : nowMs clock with
    | error e => exact Triple.of_run rfl (SameLatch.refl _)
    | ok now =>
      refine Triple.step (by rw [ofExcept_run]) ?_
      refine Triple.ite (fun hsafe => ?_) fun _ => Triple.pure (SameLatch.refl _)
      refine Triple.step (modify_run _) (Triple.pure ⟨rfl, fun _ => ⟨⟨epoch, rfl, by omega⟩, by omega, now, rfl, ?_⟩⟩)
      exact (safeSamples_ok hsafe).1

/-- What a granted rearm has established against a latch. -/
def Granted (m : MotionSupervisor) (s : State) (clock : Except NavigationContractError Int)
    (goal : WaypointGoal) (snapshots : List NavigationSnapshot) : Prop :=
  s.emergencyLatched = true →
    (∃ epoch, s.latchedGoalEpoch = some epoch ∧ epoch < goal.goalEpoch) ∧
    m.policy.rearmSafeSamples ≤ snapshots.length ∧
    ∃ now, nowMs clock = .ok now ∧ SafeSelection m goal now (m.rearmSelection snapshots)

theorem step_cases (m : MotionSupervisor) (s : State) (c : SupervisorCall) :
    (¬ Rearmed (c, (m.machine.step s c).1) ∧ LatchStep (m.latchedBy c) s (m.machine.step s c).2) ∨
    (∃ clock goal snapshots, c = .requestRearm clock goal snapshots ∧
      (m.machine.step s c).1 = .flag (.ok true) ∧ Granted m s clock goal snapshots ∧
      (m.machine.step s c).2.emergencyLatched = false) := by
  cases c with
  | decide clock fresh snapshot goal proposals =>
    refine .inl ⟨fun h => h, ?_⟩
    exact Triple.after (decide_run.mono (fun _ _ h => h.1) fun _ _ h => h)
  | observeEmergency snapshot =>
    refine .inl ⟨fun h => h, ?_⟩
    exact Triple.after (observeEmergency_run.mono (fun _ _ h => h) fun _ _ h => h.elim)
  | forceStop fresh snapshot reasonCode =>
    refine .inl ⟨fun h => h, ?_⟩
    exact Triple.after (stop_run.mono (fun _ _ h => h.2) fun _ _ h => h)
  | authority call =>
    refine .inl ⟨fun h => h, ?_⟩
    exact Triple.after onAuthority_sameLatch
  | requestRearm clock goal snapshots =>
    have h : Triple (m.requestRearm clock goal snapshots) s _ _ := requestRearm_run
    rcases hr : m.requestRearm clock goal snapshots s with ⟨e | granted, s'⟩
    · refine .inl ⟨?_, ?_⟩ <;> simp only [machine, hr]
      · exact fun h => h
      · exact h.error hr
    · have hq := h.ok hr
      cases granted with
      | false =>
        refine .inl ⟨?_, ?_⟩ <;> simp only [machine, hr]
        · exact fun h => h
        · exact hq
      | true =>
        refine .inr ⟨clock, goal, snapshots, rfl, ?_, hq.2, ?_⟩ <;> simp only [machine, hr]
        exact hq.1

end

-- Runs

/-- The latch is the past of the run: it is set as long as some hazard has
not been rearmed, and its epoch bounds those of all of them. -/
structure LatchInv (m : MotionSupervisor) (h : List SupervisorEvent) (s : State) : Prop where
  latched : s.emergencyLatched = true ↔ ∃ hazard, m.HazardSince hazard h
  bounded : ∀ hazard, m.HazardSince hazard h →
    ∃ epoch, s.latchedGoalEpoch = some epoch ∧ hazard.goalEpoch ≤ epoch

section
variable {m : MotionSupervisor} {s : State} {h : List SupervisorEvent}

theorem latchInv_step (hi : LatchInv m h s) (c : SupervisorCall) (hok : m.HazardsInOrder s c) :
    LatchInv m ((c, (m.machine.step s c).1) :: h) (m.machine.step s c).2 := by
  rcases step_cases m s c with ⟨hn, hs⟩ | ⟨clock, goal, snapshots, rfl, ha, -, hclear⟩
  · cases hl : m.latchedBy c with
    | some hazard =>
      rw [hl] at hs
      refine ⟨⟨fun _ => ⟨hazard, .inl hl⟩, fun _ => hs.1⟩, ?_⟩
      rintro other (ho | ⟨-, ho⟩)
      · rw [hl] at ho
        cases ho
        exact ⟨_, hs.2, Int.le_refl _⟩
      · -- an older hazard is bounded by the epoch it meets, which the new one does not undercut
        obtain ⟨epoch, he, hle⟩ := hi.bounded other ho
        have := hok hazard hl (hi.latched.mpr ⟨other, ho⟩) epoch he
        exact ⟨_, hs.2, by omega⟩
    | none =>
      rw [hl] at hs
      have hsame : ∀ hazard, m.HazardSince hazard ((c, (m.machine.step s c).1) :: h) ↔ m.HazardSince hazard h := by
        intro hazard
        simp [HazardSince, Since, hl, hn]
      refine ⟨?_, fun hazard hh => ?_⟩
      · simp only [hsame, hs.1]
        exact hi.latched
      · rw [hs.2]
        exact hi.bounded hazard ((hsame hazard).mp hh)
  · have hnone : ∀ hazard, ¬ m.HazardSince hazard
        ((SupervisorCall.requestRearm clock goal snapshots,
          (m.machine.step s (.requestRearm clock goal snapshots)).1) :: h) := by
      rintro hazard (hh | ⟨hn, -⟩)
      · cases hh
      · rw [ha] at hn
        exact hn trivial
    refine ⟨?_, fun hazard hh => absurd hh (hnone hazard)⟩
    simp [hclear, hnone]

theorem latchInv_of_runs {a : MotionAuthority}
    (hr : m.machine.Runs m.HazardsInOrder { authority := a } h s) : LatchInv m h s :=
  hr.historyInvariant ⟨by simp [HazardSince, Since], by simp [HazardSince, Since]⟩
    fun _ _ c hi hok => latchInv_step hi c hok

theorem drive_unlatched {c : SupervisorCall} {p : DrivePulse}
    (ha : (m.machine.step s c).1 = .pulse (.ok p)) (hp : p.kind = .drive) : s.emergencyLatched = false := by
  cases c with
  | decide clock fresh snapshot goal proposals =>
    have h : Triple (m.decide clock fresh snapshot goal proposals) s _ _ := decide_run
    rcases hr : m.decide clock fresh snapshot goal proposals s with ⟨e | q, s'⟩ <;>
      simp only [machine, hr] at ha <;> cases ha
    have hq := (h.ok hr).2
    rw [hp] at hq
    simpa using hq
  | forceStop fresh snapshot reasonCode =>
    have h : Triple (m.forceStop fresh snapshot reasonCode) s _ _ := stop_run
    rcases hr : m.forceStop fresh snapshot reasonCode s with ⟨e | q, s'⟩ <;>
      simp only [machine, hr] at ha <;> cases ha
    have hq := (h.ok hr).1
    rw [hp] at hq
    cases hq
  | _ => simp [machine] at ha

end

/-- The emergency latch over every run in which hazards arrive in the order
of their epochs: no pulse drives while a hazard has not been rearmed, and a
rearm after hazards is for a goal newer than each of them, on enough fresh
safe samples, each newer than the one before. -/
theorem latch_holds_until_newer_goal {m : MotionSupervisor} {a : MotionAuthority} {s : State}
    {h : List SupervisorEvent} (hr : m.machine.Runs m.HazardsInOrder { authority := a } h s) :
    (∀ newer c p older, h = newer ++ (c, .pulse (.ok p)) :: older → p.kind = .drive →
      ∀ hazard, ¬ m.HazardSince hazard older) ∧
    (∀ newer clock goal snapshots older,
      h = newer ++ (.requestRearm clock goal snapshots, .flag (.ok true)) :: older →
      ∀ hazard, m.HazardSince hazard older →
        hazard.goalEpoch < goal.goalEpoch ∧ m.policy.rearmSafeSamples ≤ snapshots.length ∧
        ∃ now, nowMs clock = .ok now ∧ SafeSelection m goal now (m.rearmSelection snapshots)) := by
  constructor
  · rintro newer c p older rfl hp hazard hh
    obtain ⟨s₁, hr₁⟩ := hr.older
    obtain ⟨s₂, hr₂, -, hstep⟩ := hr₁.newest
    have hfree := drive_unlatched (by rw [hstep]) hp
    have hlatched := (latchInv_of_runs hr₂).latched.mpr ⟨hazard, hh⟩
    rw [hfree] at hlatched
    cases hlatched
  · rintro newer clock goal snapshots older rfl hazard hh
    obtain ⟨s₁, hr₁⟩ := hr.older
    obtain ⟨s₂, hr₂, -, hstep⟩ := hr₁.newest
    have hi := latchInv_of_runs hr₂
    rcases step_cases m s₂ (.requestRearm clock goal snapshots) with ⟨hn, -⟩ | ⟨_, _, _, heq, -, hg, -⟩
    · rw [hstep] at hn
      exact absurd trivial hn
    · cases heq
      obtain ⟨⟨epoch, he, hlt⟩, hlen, hsafe⟩ := hg (hi.latched.mpr ⟨hazard, hh⟩)
      obtain ⟨bound, hb, hle⟩ := hi.bounded hazard hh
      rw [he] at hb
      cases hb
      exact ⟨by omega, hlen, hsafe⟩

-- A run with a late hazard

def sampleProfile : DriveCalibrationProfile where
  calibrationId := "simulated"
  status := .simulationOnly
  surface := "floor"
  leftMotorSign := 1
  rightMotorSign := 1
  encoderMdegPerMm := some 2000
  encoderMdegPerBodyDegree := some 5000
  maxWheelSpeedDps := 600
  maxPulseMs := 120

def sampleSupervisor : MotionSupervisor where
  profile := sampleProfile
  robotId := "ev3rstorm"
  controllerInstanceId := "controller-1"
  geometry := (2000, 5000)

def sampleGoal : WaypointGoal where
  goalId := "goal-4"
  goalEpoch := 4
  planRevision := 1
  targetXMm := 0
  targetYMm := 0
  planRevisionOk := between_one_counterMax
  targetXOk := between_origin
  targetYOk := between_origin

def sampleHold : StampedProposal where
  proposal :=
    { proposalId := "hold-1", goalId := "goal-4", goalEpoch := 4, planRevision := 1,
      basedOnStateVersion := 8, basedOnWorldModelVersion := 1, decision := .hold { text := "waiting" },
      confidenceMilli := 900, goalIdOk := sampleGoal.goalIdOk, goalEpochOk := sampleGoal.goalEpochOk,
      planRevisionOk := between_one_counterMax, worldModelVersionOk := between_one_counterMax }
  sourceId := "goal-seeking"
  sourceSequence := 1
  receivedAtMs := 900
  validUntilMs := 1000
  authorityRank := 1
  priority := 1
  sourceSequenceOk := between_one_counterMax

/-- An advance of a drive, on the state of the hold and on a world model. -/
def sampleAdvancing (segment : AdvanceSegment) (worldModelVersion : Int) (h : Between worldModelVersion 1 counterMax) :
    PlannerProposal :=
  { sampleHold.proposal with
    proposalId := "proposal-1"
    basedOnWorldModelVersion := worldModelVersion
    decision := .nextSegment (.advance segment)
    proposalIdOk := by decide
    worldModelVersionOk := h }

def sampleClear : NavigationSnapshot where
  robotId := "ev3rstorm"
  controllerInstanceId := "controller-1"
  goalId := "goal-4"
  goalEpoch := 4
  planRevision := 1
  stateVersion := 8
  worldModelVersion := 1
  capturedAtHostMs := 960
  stateObservedAtMs := 960
  pose := { xMm := 0, yMm := 0, headingMdeg := 0, xOk := between_origin, yOk := between_origin }
  leftEncoderMdeg := 0
  rightEncoderMdeg := 0
  motorsRunning := false
  touchPressed := false
  activeFaults := []
  clearance := { source := .none, observedAtMs := 960, nearObstacleLatched := false }
  planRevisionOk := between_one_counterMax
  worldModelVersionOk := between_one_counterMax

def sampleClearance (forwardMm : Int) (h : Between forwardMm 0 1000000) : ClearanceEvidence :=
  { sampleClear.clearance with
    source := .simulationMetric
    forwardMm := some forwardMm
    forwardOk := by simpa using h
    objectOk := by simp [sampleClear]
    unitsOk := by simp [sampleClear] }

def sampleClearLater : NavigationSnapshot :=
  { sampleClear with
    stateVersion := 9
    capturedAtHostMs := 980
    stateObservedAtMs := 980
    clearance := { source := .none, observedAtMs := 980, nearObstacleLatched := false }
    stateVersionOk := by decide
    capturedAtOk := by decide
    stateObservedOk := by decide
    observedBeforeCapture := by decide
    safetyBeforeCapture := by decide }

/-- The touch sensor, in the epoch before the goal's and in the one after it. -/
def sampleTouchBefore : NavigationSnapshot :=
  { sampleClear with touchPressed := true, goalEpoch := 3, goalEpochOk := by decide }

def sampleTouchAfter : NavigationSnapshot :=
  { sampleClear with touchPressed := true, goalEpoch := 5, goalEpochOk := by decide }

def sampleRun (calls : List SupervisorCall) : List SupervisorEvent × State :=
  sampleSupervisor.machine.runList { authority := sampleAuthority 4 8 } calls

theorem latch_holds_until_newer_goal_sample :
    sampleTouchBefore.goalEpoch < sampleGoal.goalEpoch ∧
    (sampleRun [.observeEmergency sampleTouchBefore,
      .requestRearm (.ok 1000) sampleGoal [sampleClear, sampleClearLater]]).1 =
      [(.requestRearm (.ok 1000) sampleGoal [sampleClear, sampleClearLater], .flag (.ok true)),
        (.observeEmergency sampleTouchBefore, .flag (.ok true))] := by
  have hr : sampleSupervisor.machine.Runs sampleSupervisor.HazardsInOrder _ _ _ :=
    Machine.runs_runList (show Machine.StepsOk _ _ { authority := sampleAuthority 4 8 }
      [.observeEmergency sampleTouchBefore,
        .requestRearm (.ok 1000) sampleGoal [sampleClear, sampleClearLater]]
      from ⟨by decide, by decide, trivial⟩)
  refine ⟨?_, rfl⟩
  exact ((latch_holds_until_newer_goal hr).2 [] _ _ _ _ rfl sampleTouchBefore (.inl rfl)).1

/-- A hazard of an older goal that arrives late lowers the latched epoch, and
the goal under which the first hazard was seen is rearmed. -/
theorem rearmed_for_hazardous_goal :
    ¬ ∀ (m : MotionSupervisor) (a : MotionAuthority) (h : List SupervisorEvent) (s : State),
      m.machine.Runs Machine.always { authority := a } h s →
      ∀ newer clock goal snapshots older,
        h = newer ++ (.requestRearm clock goal snapshots, .flag (.ok true)) :: older →
        ∀ hazard, m.HazardSince hazard older → hazard.goalEpoch < goal.goalEpoch := by
  intro hall
  have hr := Machine.runs_runList <| Machine.stepsOk_always sampleSupervisor.machine
    { authority := sampleAuthority 4 8 }
    [.observeEmergency sampleTouchAfter, .observeEmergency sampleTouchBefore,
      .requestRearm (.ok 1000) sampleGoal [sampleClear, sampleClearLater]]
  have h := hall _ _ _ _ hr [] _ _ _ _ rfl sampleTouchAfter (.inr ⟨fun h => h, .inl rfl⟩)
  exact absurd h (by decide)

end MotionSupervisor

end RobotLlm.Navigation
