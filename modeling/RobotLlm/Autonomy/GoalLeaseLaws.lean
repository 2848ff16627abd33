import RobotLlm.Autonomy.GoalLease

/-!
# One goal owner at a time

What a run of the coordinator says about its leases, told from the answers of
its calls alone. `Change` is what one call can do, branch by branch; each law
is an induction over it, and `leaseCoordinator_exclusive` puts them together.
-/

namespace RobotLlm.Autonomy

open RobotLlm.Lib RobotLlm.Navigation

-- What an answer says

def Granted (l : GoalLease) : LeaseEvent → Prop
  | (.tryAcquireIdle, .idleLease (.ok (some l'))) => l' = l
  | (.activateUser _, .userLease (.ok l')) => l' = l
  | _ => False

def Activated (r : UserGoalReservation) : LeaseEvent → Prop
  | (.activateUser r', .userLease (.ok _)) => r' = r
  | _ => False

def Reserved (r : UserGoalReservation) : LeaseEvent → Prop
  | (.reserveUser _, .reservation (.ok r')) => r' = r
  | _ => False

def Withdrawn (r : UserGoalReservation) : LeaseEvent → Prop
  | (.cancelUserReservation r', .flag (.ok true)) => r' = r
  | _ => False

def Released (l : GoalLease) : LeaseEvent → Prop
  | (.release l' _ _, .flag (.ok _)) => l' = l
  | _ => False

def UnsafeRelease : LeaseEvent → Prop
  | (.release _ _ _, .flag (.ok false)) => True
  | _ => False

/-- What ends an idle lease's currency: a user reservation or a disable. -/
def Interrupts : LeaseEvent → Prop
  | (.reserveUser _, .reservation (.ok _)) => True
  | (.setIdleEnabled enabled, .done (.ok _)) => enabled = false
  | _ => False

def RearmBegun (g : IdleDutyRearmGuard) : LeaseEvent → Prop
  | (.beginIdleDutyRearm, .guard (.ok g')) => g' = g
  | _ => False

def RearmFinished (g : IdleDutyRearmGuard) : LeaseEvent → Prop
  | (.finishIdleDutyRearm g', .done (.ok _)) => g' = g
  | _ => False

def ActiveSince (l : GoalLease) (h : List LeaseEvent) : Prop := Since (¬ Released l ·) (Granted l) h

/-- Reserved, and since then neither withdrawn nor activated nor dropped by
an unsafe release. -/
def PendingSince (r : UserGoalReservation) (h : List LeaseEvent) : Prop :=
  Since (fun e => ¬ Withdrawn r e ∧ ¬ Activated r e ∧ ¬ UnsafeRelease e) (Reserved r) h

def RearmHeld (g : IdleDutyRearmGuard) (h : List LeaseEvent) : Prop :=
  Since (¬ RearmFinished g ·) (RearmBegun g) h

/-- Granted, and neither reserved over nor disabled since. -/
def UninterruptedSince (l : GoalLease) (h : List LeaseEvent) : Prop := Since (¬ Interrupts ·) (Granted l) h

section
variable {e : LeaseEvent} {h : List LeaseEvent}

@[simp] theorem activeSince_cons : ActiveSince l (e :: h) ↔ Granted l e ∨ ¬ Released l e ∧ ActiveSince l h :=
  Iff.rfl

@[simp] theorem pendingSince_cons : PendingSince r (e :: h) ↔
    Reserved r e ∨ (¬ Withdrawn r e ∧ ¬ Activated r e ∧ ¬ UnsafeRelease e) ∧ PendingSince r h := Iff.rfl

@[simp] theorem rearmHeld_cons : RearmHeld g (e :: h) ↔ RearmBegun g e ∨ ¬ RearmFinished g e ∧ RearmHeld g h :=
  Iff.rfl

@[simp] theorem uninterruptedSince_cons : UninterruptedSince l (e :: h) ↔
    Granted l e ∨ ¬ Interrupts e ∧ UninterruptedSince l h := Iff.rfl

end

/-- An answer that reports nothing: an error, no lease, or a negative. -/
structure Quiet (e : LeaseEvent) : Prop where
  granted : ¬ Granted l e
  activated : ¬ Activated r e
  reserved : ¬ Reserved r e
  withdrawn : ¬ Withdrawn r e
  released : ¬ Released l e
  unsafeRelease : ¬ UnsafeRelease e
  interrupts : ¬ Interrupts e
  begun : ¬ RearmBegun g e
  finished : ¬ RearmFinished g e

-- What one call can do

namespace GoalLeaseCoordinator

structure Next (c : GoalLeaseCoordinator) (owner : GoalOwner) (l : GoalLease) : Prop where
  owner : l.owner = owner
  generation : l.generation = c.generation + 1
  goalEpoch : l.goalEpoch = c.nextGoalEpoch
  planRevision : l.planRevision = c.nextPlanRevision

def grant (c : GoalLeaseCoordinator) (l : GoalLease) : GoalLeaseCoordinator :=
  { c with
    generation := c.generation + 1
    nextGoalEpoch := c.nextGoalEpoch + 1
    nextPlanRevision := c.nextPlanRevision + 1
    active := some l }

/-- What `c` becomes by a call that reports `e`, with what the call checked. -/
inductive Change (c : GoalLeaseCoordinator) : LeaseEvent → GoalLeaseCoordinator → Prop
  | quiet (hq : Quiet e) (hg : c.generation ≤ g) (hp : p = c.pendingUser ∨ p = none) :
      Change c e { c with generation := g, pendingUser := p, activatedUsers := a }
  | acquired (hi : c.idleEnabled = true) (hf : c.faulted = false) (ha : c.active = none) (hp : c.pendingUser = none)
      (hg : c.idleRearmGuard = none) (hl : c.Next .idleExploration l) :
      Change c (.tryAcquireIdle, .idleLease (.ok (some l))) (c.grant l)
  | activated (hf : c.faulted = false) (ha : c.active = none) (hp : c.pendingUser = some r)
      (hg : c.idleRearmGuard = none) (hl : c.Next .user l) :
      Change c (.activateUser r, .userLease (.ok l))
        { c.grant l with pendingUser := none, activatedUsers := a }
  | reserved (hp : c.pendingUser = none) (hg : c.idleRearmGuard = none) (hr : r.generation = c.generation + 1)
      (hs : c.cancelEvents ⊆ s) (hc : ∀ l, c.active = some l → l.generation ∈ s) :
      Change c (.reserveUser q, .reservation (.ok r))
        { c with generation := c.generation + 1, pendingUser := some r, cancelEvents := s }
  | reservedAgain (hp : c.pendingUser = some r) : Change c (.reserveUser q, .reservation (.ok r)) c
  | withdrawn (hp : c.pendingUser = some r) :
      Change c (.cancelUserReservation r, .flag (.ok true)) { c with pendingUser := none, cancelledUsers := a }
  | enabled (hg : c.idleRearmGuard = none) :
      Change c (.setIdleEnabled true, .done (.ok u)) { c with idleEnabled := true }
  | disabled (hs : c.cancelEvents ⊆ s)
      (hc : ∀ l, c.active = some l → l.owner = .idleExploration → l.generation ∈ s) :
      Change c (.setIdleEnabled false, .done (.ok u)) { c with idleEnabled := false, cancelEvents := s }
  | begun (hi : c.idleEnabled = false) (ha : c.active = none) (hp : c.pendingUser = none)
      (hg : c.idleRearmGuard = none) :
      Change c (.beginIdleDutyRearm, .guard (.ok g))
        { c with generation := c.generation + 1, idleRearmGuard := some g }
  | finished (hg : c.idleRearmGuard = some g) :
      Change c (.finishIdleDutyRearm g, .done (.ok u)) { c with idleRearmGuard := none }
  | released (ha : c.active = some l) :
      Change c (.release l final v, .flag (.ok true)) { c with active := none }
  | faulted (ha : c.active = some l) :
      Change c (.release l final v, .flag (.ok false)) { c with active := none, faulted := true, pendingUser := none }

variable {c c' : GoalLeaseCoordinator} {h : List LeaseEvent} {e : LeaseEvent}

/-- Its counters are past every lease handed out under smaller ones. -/
def Covers (c : GoalLeaseCoordinator) (l : GoalLease) : Prop :=
  l.generation ≤ c.generation ∧ l.goalEpoch < c.nextGoalEpoch ∧ l.planRevision < c.nextPlanRevision

theorem Next.covered {c : GoalLeaseCoordinator} {owner : GoalOwner} (hn : c.Next owner l) : (c.grant l).Covers l := by
  obtain ⟨-, hg, he, hp⟩ := hn
  simp only [Covers, grant, hg, he, hp]
  omega

theorem Change.generation_le {c c' : GoalLeaseCoordinator} (hc : c.Change e c') : c.generation ≤ c'.generation := by
  cases hc with
  | quiet _ hg => exact hg
  | acquired => exact Nat.le_succ _
  | activated => exact Nat.le_succ _
  | reserved => exact Nat.le_succ _
  | begun => exact Nat.le_succ _
  | _ => exact Nat.le_refl _

theorem Change.covers {c c' : GoalLeaseCoordinator} (hc : c.Change e c') (hl : c.Covers l) : c'.Covers l := by
  obtain ⟨h1, h2, h3⟩ := hl
  refine ⟨h1.trans hc.generation_le, ?_, ?_⟩
  all_goals
    cases hc with
    | acquired => simp only [grant]; omega
    | activated => simp only [grant]; omega
    | _ => assumption

theorem Change.granted {c c' : GoalLeaseCoordinator} (hc : c.Change e c') (hl : Granted l e) :
    c.nextGoalEpoch = l.goalEpoch ∧ c.nextPlanRevision = l.planRevision ∧ c.active = none ∧ c.faulted = false ∧
      (l.owner = .user → ∃ r, Activated r e ∧ c.pendingUser = some r) := by
  cases hc with
  | quiet hq => exact absurd hl hq.granted
  | acquired _ hf ha _ _ hn =>
    obtain rfl := hl
    exact ⟨hn.goalEpoch.symm, hn.planRevision.symm, ha, hf, fun h => by simp [hn.owner] at h⟩
  | activated hf ha hp _ hn =>
    obtain rfl := hl
    exact ⟨hn.goalEpoch.symm, hn.planRevision.symm, ha, hf, fun _ => ⟨_, rfl, hp⟩⟩
  | _ => exact hl.elim

theorem cancelActive_eq (c : GoalLeaseCoordinator) : ∃ s, c.cancelActive = { c with cancelEvents := s } ∧
    c.cancelEvents ⊆ s ∧ ∀ l, c.active = some l → l.generation ∈ s := by
  unfold cancelActive
  split
  · rename_i l hl
    exact ⟨_, rfl, Finset.subset_insert _ _, fun l' hl' => by simp_all⟩
  · rename_i hn
    exact ⟨c.cancelEvents, rfl, Finset.Subset.refl _, fun l hl => by simp_all⟩

theorem allocate_cases (c : GoalLeaseCoordinator) (owner : GoalOwner) :
    (∃ l, c.allocate owner = (.ok l, c.grant l) ∧ c.Next owner l) ∨
      ∃ e, c.allocate owner = (.error e, { c with generation := c.generation + 1 }) := by
  unfold allocate
  dsimp only
  split
  · exact .inr ⟨_, rfl⟩
  · exact .inl ⟨_, rfl, ⟨rfl, rfl, rfl, rfl⟩⟩

theorem Change.refused (hq : Quiet e) : Change c e c :=
  .quiet (a := c.activatedUsers) hq (Nat.le_refl _) (.inl rfl)

/-- The answers that report nothing whatever the call. -/
def SilentAnswer : LeaseAnswer → Prop
  | .done (.error _) | .idleLease (.error _) | .idleLease (.ok none) | .reservation (.error _)
  | .flag (.error _) | .userLease (.error _) | .guard (.error _) => True
  | _ => False

theorem quiet_of_silent {call : LeaseCall} {answer : LeaseAnswer} (hs : SilentAnswer answer) :
    Quiet (call, answer) := by
  unfold SilentAnswer at hs
  split at hs <;> first | exact hs.elim | (cases call <;> constructor <;> intros <;> exact id)

-- Every call is such a change

theorem setIdleEnabled_change (enabled : Bool) :
    Change c (.setIdleEnabled enabled, .done (c.setIdleEnabled enabled).1) (c.setIdleEnabled enabled).2 := by
  unfold setIdleEnabled
  split
  · exact .refused (quiet_of_silent trivial)
  · rename_i hg
    dsimp only
    cases enabled with
    | true => exact .enabled (by simpa using hg)
    | false =>
      split
      · obtain ⟨s, heq, hs, hc⟩ := cancelActive_eq { c with idleEnabled := false }
        rw [heq]
        exact .disabled hs fun l hl _ => hc l hl
      · rename_i hn
        exact .disabled (Finset.Subset.refl _) fun l hl ho => absurd ⟨rfl, l, hl, ho⟩ hn

theorem tryAcquireIdle_change : Change c (.tryAcquireIdle, .idleLease c.tryAcquireIdle.1) c.tryAcquireIdle.2 := by
  unfold tryAcquireIdle
  split
  · exact .refused (quiet_of_silent trivial)
  · rename_i hn
    simp only [not_or, not_not, Bool.not_eq_false, Bool.not_eq_true] at hn
    obtain ⟨hi, hf, ha, hp, hg⟩ := hn
    obtain ⟨l, heq, hl⟩ | ⟨e, heq⟩ := c.allocate_cases .idleExploration
    · simp only [heq]
      exact .acquired hi hf ha hp hg hl
    · simp only [heq]
      exact .quiet (a := c.activatedUsers) (quiet_of_silent trivial) (Nat.le_succ _) (.inl rfl)

theorem reserveUser_change (q : String) :
    Change c (.reserveUser q, .reservation (c.reserveUser q).1) (c.reserveUser q).2 := by
  unfold reserveUser
  split
  · exact .refused (quiet_of_silent trivial)
  split
  · exact .refused (quiet_of_silent trivial)
  rename_i hg
  split
  · exact .refused (quiet_of_silent trivial)
  split
  · rename_i hp
    split
    · exact .reservedAgain hp
    · exact .refused (quiet_of_silent trivial)
  · rename_i hp
    split
    · exact .refused (quiet_of_silent trivial)
    dsimp only
    split
    · exact .quiet (a := c.activatedUsers) (quiet_of_silent trivial) (Nat.le_succ _) (.inl rfl)
    · obtain ⟨s, heq, hs, hc⟩ := cancelActive_eq
        { c with generation := c.generation + 1,
                 pendingUser := some ⟨.issued (c.generation + 1), q, c.generation + 1⟩ }
      rw [heq]
      exact .reserved hp (not_not.mp hg) rfl hs hc

theorem cancelUserReservation_change (r : UserGoalReservation) :
    Change c (.cancelUserReservation r, .flag (c.cancelUserReservation r).1) (c.cancelUserReservation r).2 := by
  unfold cancelUserReservation
  split
  · exact .withdrawn ‹_›
  split
  · exact .refused (by constructor <;> intros <;> exact id)
  split <;> exact .refused (quiet_of_silent trivial)

theorem activateUser_change (r : UserGoalReservation) :
    Change c (.activateUser r, .userLease (c.activateUser r).1) (c.activateUser r).2 := by
  unfold activateUser
  split
  · exact .refused (quiet_of_silent trivial)
  rename_i hg
  split
  · exact .refused (quiet_of_silent trivial)
  rename_i hf
  split
  · exact .refused (quiet_of_silent trivial)
  rename_i hp
  split
  · exact .refused (quiet_of_silent trivial)
  rename_i ha
  obtain ⟨l, heq, hl⟩ | ⟨e, heq⟩ := allocate_cases
    { c with pendingUser := none, activatedUsers := c.activatedUsers.insert r.generation r } .user
  · rw [heq]
    exact .activated (by simpa using hf) (not_not.mp ha) (not_not.mp hp) (not_not.mp hg) ⟨hl.1, hl.2, hl.3, hl.4⟩
  · rw [heq]
    exact .quiet (quiet_of_silent trivial) (Nat.le_succ _) (.inr rfl)

theorem beginIdleDutyRearm_change :
    Change c (.beginIdleDutyRearm, .guard c.beginIdleDutyRearm.1) c.beginIdleDutyRearm.2 := by
  unfold beginIdleDutyRearm
  split
  · exact .refused (quiet_of_silent trivial)
  rename_i hn
  simp only [not_or, not_not, Bool.not_eq_true] at hn
  obtain ⟨hi, -, ha, hp, hg⟩ := hn
  dsimp only
  split
  · exact .quiet (a := c.activatedUsers) (quiet_of_silent trivial) (Nat.le_succ _) (.inl rfl)
  · exact .begun hi ha hp hg

theorem finishIdleDutyRearm_change (g : IdleDutyRearmGuard) :
    Change c (.finishIdleDutyRearm g, .done (c.finishIdleDutyRearm g).1) (c.finishIdleDutyRearm g).2 := by
  unfold finishIdleDutyRearm
  split
  · exact .refused (quiet_of_silent trivial)
  · exact .finished (not_not.mp ‹_›)

theorem release_change (l : GoalLease) (final : NavigationSnapshot) (v : Bool) :
    Change c (.release l final v, .flag (c.release l final v).1) (c.release l final v).2 := by
  unfold release
  split
  · exact .refused (quiet_of_silent trivial)
  rename_i ha
  split
  · exact .released (not_not.mp ha)
  · exact .faulted (not_not.mp ha)

end GoalLeaseCoordinator

open GoalLeaseCoordinator

theorem leaseCoordinator_change (c : GoalLeaseCoordinator) (call : LeaseCall) :
    c.Change (call, (leaseCoordinator.step c call).1) (leaseCoordinator.step c call).2 := by
  cases call with
  | setIdleEnabled enabled => exact setIdleEnabled_change enabled
  | tryAcquireIdle => exact tryAcquireIdle_change
  | reserveUser q => exact reserveUser_change q
  | cancelUserReservation r => exact cancelUserReservation_change r
  | activateUser r => exact activateUser_change r
  | beginIdleDutyRearm => exact beginIdleDutyRearm_change
  | finishIdleDutyRearm g => exact finishIdleDutyRearm_change g
  | isCurrentIdle l => exact .refused (by constructor <;> intros <;> exact id)
  | release l final v => exact release_change l final v

-- What every run keeps

/-- The coordinator against the answers it has given. -/
structure LeaseInvariant (h : List LeaseEvent) (c : GoalLeaseCoordinator) : Prop where
  active : c.active = some l ↔ ActiveSince l h
  leases : e ∈ h → Granted l e → c.Covers l
  increasing : h.Pairwise fun newer older => ∀ l l', Granted l newer → Granted l' older →
    l'.goalEpoch < l.goalEpoch ∧ l'.planRevision < l.planRevision
  reservations : e ∈ h → Reserved r e → r.generation ≤ c.generation
  pending : c.pendingUser = some r → PendingSince r h
  spent : e ∈ h → Withdrawn r e ∨ Activated r e → c.pendingUser ≠ some r ∧ r.generation ≤ c.generation
  /-- A pending reservation has cancelled whoever was active. -/
  pendingCancels : c.pendingUser ≠ none → c.active = some l → l.generation ∈ c.cancelEvents
  current : c.active = some l → l.owner = .idleExploration → l.generation ∉ c.cancelEvents →
    UninterruptedSince l h
  guard : c.idleRearmGuard = some g ↔ RearmHeld g h
  guardAlone : c.idleRearmGuard ≠ none → c.active = none ∧ c.pendingUser = none ∧ c.idleEnabled = false
  faulted : e ∈ h → UnsafeRelease e → c.faulted = true
  silenced : h.Pairwise fun newer older => UnsafeRelease older → ∀ l, ¬ Granted l newer

namespace LeaseInvariant

variable {c c' : GoalLeaseCoordinator} {h : List LeaseEvent} {e : LeaseEvent}

theorem active_step (hi : LeaseInvariant h c) (hc : c.Change e c') : c'.active = some l ↔ ActiveSince l (e :: h) := by
  have ih := hi.active (l := l)
  cases hc with
  | quiet hq => simp [hq.granted, hq.released, ih]
  | acquired _ _ ha => simp [ha, Granted, Released, grant, ← ih]
  | activated _ ha => simp [ha, Granted, Released, grant, ← ih]
  | released ha => simp +contextual [ha, Granted, Released, ← ih]
  | faulted ha => simp +contextual [ha, Granted, Released, ← ih]
  | _ => simp [Granted, Released, ih]

theorem leases_step (hi : LeaseInvariant h c) (hc : c.Change e c') (he : e' ∈ e :: h) (hl : Granted l e') :
    c'.Covers l := by
  rcases List.mem_cons.mp he with rfl | he
  · cases hc with
    | quiet hq => exact absurd hl hq.granted
    | acquired _ _ _ _ _ hn =>
      obtain rfl := hl
      exact hn.covered
    | activated _ _ _ _ hn =>
      obtain rfl := hl
      exact hn.covered
    | _ => exact hl.elim
  · exact hc.covers (hi.leases he hl)

theorem increasing_step (hi : LeaseInvariant h c) (hc : c.Change e c') :
    (e :: h).Pairwise fun newer older => ∀ l l', Granted l newer → Granted l' older →
      l'.goalEpoch < l.goalEpoch ∧ l'.planRevision < l.planRevision := by
  refine List.pairwise_cons.mpr ⟨fun older ho l l' hl hl' => ?_, hi.increasing⟩
  obtain ⟨he, hp, -⟩ := hc.granted hl
  obtain ⟨-, he', hp'⟩ := hi.leases ho hl'
  exact ⟨he ▸ he', hp ▸ hp'⟩

theorem pending_generation (hi : LeaseInvariant h c) (hp : c.pendingUser = some r) : r.generation ≤ c.generation := by
  obtain ⟨_, e, older, rfl, hr, -⟩ := since_iff_append.mp (hi.pending hp)
  exact hi.reservations (by simp) hr

theorem reservations_step (hi : LeaseInvariant h c) (hc : c.Change e c') (he : e' ∈ e :: h) (hr : Reserved r e') :
    r.generation ≤ c'.generation := by
  rcases List.mem_cons.mp he with rfl | he
  · cases hc with
    | quiet hq => exact absurd hr hq.reserved
    | reserved _ _ hg =>
      obtain rfl := hr
      exact hg.le
    | reservedAgain hp =>
      obtain rfl := hr
      exact hi.pending_generation hp
    | _ => exact hr.elim
  · exact (hi.reservations he hr).trans hc.generation_le

theorem pending_step (hi : LeaseInvariant h c) (hc : c.Change e c') (hp : c'.pendingUser = some r) :
    PendingSince r (e :: h) := by
  have ih := hi.pending (r := r)
  cases hc with
  | quiet hq _ hp' =>
    obtain rfl | rfl := hp'
    · exact .inr ⟨⟨hq.withdrawn, hq.activated, hq.unsafeRelease⟩, ih hp⟩
    · cases hp
  | reserved => exact .inl (Option.some.inj hp)
  | reservedAgain => simp_all [Reserved]
  | activated => cases hp
  | withdrawn => cases hp
  | faulted => cases hp
  | _ => exact .inr ⟨⟨id, id, id⟩, ih hp⟩

theorem spent_pending (hc : c.Change e c') (hs : Withdrawn r e ∨ Activated r e) :
    c.pendingUser = some r ∧ c'.pendingUser = none := by
  cases hc with
  | quiet hq => exact absurd hs (not_or.mpr ⟨hq.withdrawn, hq.activated⟩)
  | activated _ _ hp =>
    obtain hs | rfl := hs
    · exact hs.elim
    · exact ⟨hp, rfl⟩
  | withdrawn hp =>
    obtain rfl | hs := hs
    · exact ⟨hp, rfl⟩
    · exact hs.elim
  | _ => exact (or_self_iff.mp hs).elim

theorem pending_back (hc : c.Change e c') (hp : c'.pendingUser = some r) :
    c.pendingUser = some r ∨ r.generation = c.generation + 1 := by
  cases hc with
  | quiet _ _ hp' =>
    obtain rfl | rfl := hp'
    · exact .inl hp
    · cases hp
  | reserved _ _ hr =>
    obtain rfl := Option.some.inj hp
    exact .inr hr
  | activated => cases hp
  | withdrawn => cases hp
  | faulted => cases hp
  | _ => exact .inl hp

theorem spent_step (hi : LeaseInvariant h c) (hc : c.Change e c') (he : e' ∈ e :: h)
    (hs : Withdrawn r e' ∨ Activated r e') : c'.pendingUser ≠ some r ∧ r.generation ≤ c'.generation := by
  rcases List.mem_cons.mp he with rfl | he
  · obtain ⟨hp, hp'⟩ := spent_pending hc hs
    exact ⟨by simp [hp'], (hi.pending_generation hp).trans hc.generation_le⟩
  · obtain ⟨hne, hle⟩ := hi.spent he hs
    refine ⟨fun hp => ?_, hle.trans hc.generation_le⟩
    obtain hp | hg := pending_back hc hp
    · exact hne hp
    · omega

theorem pendingCancels_step (hi : LeaseInvariant h c) (hc : c.Change e c') (hp : c'.pendingUser ≠ none)
    (ha : c'.active = some l) : l.generation ∈ c'.cancelEvents := by
  have ih := hi.pendingCancels (l := l)
  cases hc with
  | quiet _ _ hp' =>
    obtain rfl | rfl := hp'
    · exact ih hp ha
    · exact absurd rfl hp
  | acquired _ _ _ hn => exact absurd hn hp
  | activated => exact absurd rfl hp
  | reserved _ _ _ _ hc => exact hc l ha
  | withdrawn => exact absurd rfl hp
  | disabled hs => exact hs (ih hp ha)
  | released => cases ha
  | faulted => cases ha
  | _ => exact ih hp ha

theorem current_step (hi : LeaseInvariant h c) (hc : c.Change e c') (ha : c'.active = some l)
    (ho : l.owner = .idleExploration) (hn : l.generation ∉ c'.cancelEvents) : UninterruptedSince l (e :: h) := by
  have ih := hi.current (l := l)
  cases hc with
  | quiet hq => exact .inr ⟨hq.interrupts, ih ha ho hn⟩
  | acquired => exact .inl (Option.some.inj ha)
  | activated => exact .inl (Option.some.inj ha)
  | reserved _ _ _ _ hc => exact absurd (hc l ha) hn
  | reservedAgain hp => exact absurd (hi.pendingCancels (by simp [hp]) ha) hn
  | enabled => exact .inr ⟨nofun, ih ha ho hn⟩
  | disabled _ hc => exact absurd (hc l ha ho) hn
  | released => cases ha
  | faulted => cases ha
  | _ => exact .inr ⟨id, ih ha ho hn⟩

theorem guard_step (hi : LeaseInvariant h c) (hc : c.Change e c') :
    c'.idleRearmGuard = some g ↔ RearmHeld g (e :: h) := by
  have ih := hi.guard (g := g)
  cases hc with
  | quiet hq => simp [hq.begun, hq.finished, ih]
  | begun _ _ _ hg => simp [hg, RearmBegun, RearmFinished, ← ih]
  | finished hg => simp +contextual [hg, RearmBegun, RearmFinished, ← ih]
  | _ => simp [RearmBegun, RearmFinished, grant, ih]

theorem guardAlone_step (hi : LeaseInvariant h c) (hc : c.Change e c') (hg : c'.idleRearmGuard ≠ none) :
    c'.active = none ∧ c'.pendingUser = none ∧ c'.idleEnabled = false := by
  have ih := hi.guardAlone
  cases hc with
  | quiet _ _ hp =>
    obtain ⟨h1, h2, h3⟩ := ih hg
    exact ⟨h1, hp.elim (·.trans h2) id, h3⟩
  | acquired _ _ _ _ hn => exact absurd hn hg
  | activated _ _ _ hn => exact absurd hn hg
  | reserved _ hn => exact absurd hn hg
  | enabled hn => exact absurd hn hg
  | begun hi ha hp => exact ⟨ha, hp, hi⟩
  | finished => exact absurd rfl hg
  | withdrawn => exact ⟨(ih hg).1, rfl, (ih hg).2.2⟩
  | disabled => exact ⟨(ih hg).1, (ih hg).2.1, rfl⟩
  | released => exact ⟨rfl, (ih hg).2⟩
  | faulted => exact ⟨rfl, rfl, (ih hg).2.2⟩
  | _ => exact ih hg

theorem faulted_step (hi : LeaseInvariant h c) (hc : c.Change e c') (he : e' ∈ e :: h) (hu : UnsafeRelease e') :
    c'.faulted = true := by
  rcases List.mem_cons.mp he with rfl | he
  · cases hc with
    | quiet hq => exact absurd hu hq.unsafeRelease
    | faulted => rfl
    | _ => exact hu.elim
  · have hf := hi.faulted he hu
    cases hc with
    | faulted => rfl
    | _ => exact hf

theorem silenced_step (hi : LeaseInvariant h c) (hc : c.Change e c') :
    (e :: h).Pairwise fun newer older => UnsafeRelease older → ∀ l, ¬ Granted l newer := by
  refine List.pairwise_cons.mpr ⟨fun older ho hu l hl => ?_, hi.silenced⟩
  obtain ⟨-, -, -, hf, -⟩ := hc.granted hl
  simp [hi.faulted ho hu] at hf

theorem step (hi : LeaseInvariant h c) (hc : c.Change e c') : LeaseInvariant (e :: h) c' where
  active := hi.active_step hc
  leases := hi.leases_step hc
  increasing := hi.increasing_step hc
  reservations := hi.reservations_step hc
  pending := hi.pending_step hc
  spent := hi.spent_step hc
  pendingCancels := hi.pendingCancels_step hc
  current := hi.current_step hc
  guard := hi.guard_step hc
  guardAlone := hi.guardAlone_step hc
  faulted := hi.faulted_step hc
  silenced := hi.silenced_step hc

theorem start {robot controller : String} (hn : GoalLeaseCoordinator.new robot controller epoch revision idle = .ok c) :
    LeaseInvariant [] c := by
  simp only [GoalLeaseCoordinator.new, bind_eq_ok] at hn
  obtain ⟨_, -, _, -, _, -, _, -, hn⟩ := hn
  obtain rfl := Except.ok.inj hn
  constructor <;> simp [ActiveSince, RearmHeld, Since]

end LeaseInvariant

-- One goal owner

/-- What the answers of a run and the state it reached say about ownership.
A history is newest first: in `newer ++ e :: older`, `older` came before `e`. -/
structure OneGoalOwner (h : List LeaseEvent) (c : GoalLeaseCoordinator) : Prop where
  activeState : c.active = some l ↔ ActiveSince l h
  oneActive : ActiveSince l h → ActiveSince l' h → l = l'
  grantAlone : h = newer ++ e :: older → Granted l e → ¬ ActiveSince l' older
  /-- A user lease comes from activating a reservation that is pending then,
  and was neither activated nor withdrawn before. -/
  userGrant : h = newer ++ e :: older → Granted l e → l.owner = .user →
    ∃ r, Activated r e ∧ PendingSince r older ∧ ∀ e' ∈ older, ¬ Activated r e' ∧ ¬ Withdrawn r e'
  current : h = newer ++ (.isCurrentIdle l, .flag (.ok true)) :: older → UninterruptedSince l older
  rearmAlone : RearmHeld g h → (∀ l, ¬ ActiveSince l h) ∧ c.pendingUser = none ∧ c.idleEnabled = false
  increasing : h.Pairwise fun newer older => ∀ l l', Granted l newer → Granted l' older →
    l'.goalEpoch < l.goalEpoch ∧ l'.planRevision < l.planRevision
  unsafeSilences : h.Pairwise fun newer older => UnsafeRelease older → ∀ l, ¬ Granted l newer

section
variable {robot controller : String} {c₀ c : GoalLeaseCoordinator} {h : List LeaseEvent}

theorem leaseInvariant_of_runs
    (hn : GoalLeaseCoordinator.new robot controller epoch revision idle = .ok c₀)
    (hr : leaseCoordinator.Runs Machine.always c₀ h c) : LeaseInvariant h c :=
  hr.historyInvariant (.start hn) fun _ s i hi _ => hi.step (leaseCoordinator_change s i)

/-- Every interleaving of calls on a new coordinator keeps one goal owner. -/
theorem leaseCoordinator_oneGoalOwner
    (hn : GoalLeaseCoordinator.new robot controller epoch revision idle = .ok c₀)
    (hr : leaseCoordinator.Runs Machine.always c₀ h c) : OneGoalOwner h c := by
  have hi := leaseInvariant_of_runs hn hr
  -- the state an answer of the run was given in
  have before : ∀ {newer e older}, h = newer ++ e :: older →
      ∃ s, LeaseInvariant older s ∧ (leaseCoordinator.step s e.1).1 = e.2 ∧ ∃ s', s.Change e s' := by
    rintro newer ⟨call, answer⟩ older rfl
    obtain ⟨_, ho⟩ := hr.older
    obtain ⟨s, hs, -, hstep⟩ := ho.newest
    refine ⟨s, leaseInvariant_of_runs hn hs, by simp [hstep], (leaseCoordinator.step s call).2, ?_⟩
    simpa [hstep] using leaseCoordinator_change s call
  constructor
  case activeState => exact hi.active
  case oneActive =>
    intro l l' hl hl'
    have := (hi.active.mpr hl).symm.trans (hi.active.mpr hl')
    exact Option.some.inj this
  case grantAlone =>
    intro newer e older l l' heq hl hl'
    obtain ⟨s, hs, -, _, hc⟩ := before heq
    obtain ⟨-, -, ha, -⟩ := hc.granted hl
    exact absurd (hs.active.mpr hl') (by simp [ha])
  case userGrant =>
    intro newer e older l heq hl hu
    obtain ⟨s, hs, -, _, hc⟩ := before heq
    obtain ⟨-, -, -, -, hp⟩ := hc.granted hl
    obtain ⟨r, hr, hp⟩ := hp hu
    refine ⟨r, hr, hs.pending hp, fun e' he' => ⟨fun h => ?_, fun h => ?_⟩⟩
    · exact (hs.spent he' (.inr h)).1 hp
    · exact (hs.spent he' (.inl h)).1 hp
  case current =>
    intro newer l older heq
    obtain ⟨s, hs, hans, -⟩ := before heq
    simp only [leaseCoordinator, GoalLeaseCoordinator.isCurrentIdle] at hans
    simp at hans
    obtain ⟨⟨⟨⟨⟨ha, ho⟩, -⟩, -⟩, -⟩, hn⟩ := hans
    exact hs.current ha ho hn
  case rearmAlone =>
    intro g hg
    obtain ⟨ha, hp, hi'⟩ := hi.guardAlone (by simp [hi.guard.mpr hg])
    exact ⟨fun l hl => absurd (hi.active.mpr hl) (by simp [ha]), hp, hi'⟩
  case increasing => exact hi.increasing
  case unsafeSilences => exact hi.silenced

end

/-- A user goal interrupts an idle one, is withdrawn, and idle is re-enabled. -/
def sampleCalls : List LeaseCall :=
  let lease : GoalLease := ⟨.issued 1, "idle-exploration-lease-1", .idleExploration, 1, 1, 1⟩
  [.setIdleEnabled true, .tryAcquireIdle, .isCurrentIdle lease, .reserveUser "request-1",
    .cancelUserReservation ⟨.issued 2, "request-1", 2⟩, .setIdleEnabled true, .isCurrentIdle lease]

def sampleCoordinator : GoalLeaseCoordinator :=
  ⟨"robot-1", "controller-1", 1, 1, 0, false, false, none, none, none, ∅, ∅, ∅⟩

theorem leaseCoordinator_oneGoalOwner_sample :
    OneGoalOwner (leaseCoordinator.runList sampleCoordinator sampleCalls).1
      (leaseCoordinator.runList sampleCoordinator sampleCalls).2 :=
  have hn : GoalLeaseCoordinator.new "robot-1" "controller-1" 1 1 false = .ok sampleCoordinator := rfl
  leaseCoordinator_oneGoalOwner hn (Machine.runs_runList (Machine.stepsOk_always _ _ _))

/-- The idle lease is current until the reservation, and not after it. -/
example : ((leaseCoordinator.runList sampleCoordinator sampleCalls).1.map Prod.snd).reverse =
    [.done (.ok ()), .idleLease (.ok (some ⟨.issued 1, "idle-exploration-lease-1", .idleExploration, 1, 1, 1⟩)),
      .flag (.ok true), .reservation (.ok ⟨.issued 2, "request-1", 2⟩), .flag (.ok true), .done (.ok ()),
      .flag (.ok false)] := by decide

end RobotLlm.Autonomy
