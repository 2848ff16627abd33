import RobotLlm.Autonomy.GoalLeaseLaws
import RobotLlm.Autonomy.IdleTask
import RobotLlm.Lib.Check
import RobotLlm.Navigation.MissionLaws

/-!
# How a task leaves its lease

Other holders may call the authority at any moment, but only the task has its
lease, so the lease is active until the task returns it. `Left` is what holds
wherever the task may be left: the lease was returned once, unless a call
outside of every `try` raised or the plant never showed a snapshot.
-/

namespace RobotLlm.Autonomy

open RobotLlm.Lib RobotLlm.Navigation Prog
open NavigationEpisode (Stopped VerifiedStop motionOf drives)

-- The other holders

/-- A call of the authority by anyone but the service, which alone has idle
leases and rearm guards. -/
def Foreign (call : LeaseCall) : Prop :=
  (∀ lease final verified, call = .release lease final verified → lease.owner ≠ .idleExploration) ∧
    ∀ guard, call ≠ .finishIdleDutyRearm guard

def Meanwhile : GoalLeaseCoordinator → GoalLeaseCoordinator → Prop :=
  Relation.ReflTransGen fun c c' => ∃ call, Foreign call ∧ c' = (leaseCoordinator.step c call).2

/-- What the service can rely on: an idle lease stays active, one that is not
active stays so, and a fault and a rearm guard stay. -/
structure Respects (c c' : GoalLeaseCoordinator) : Prop where
  robot : c'.robotId = c.robotId
  controller : c'.controllerInstanceId = c.controllerInstanceId
  generation : c.generation ≤ c'.generation
  faulted : c.faulted = true → c'.faulted = true
  active : ∀ lease, lease.owner = .idleExploration → c.active = some lease → c'.active = some lease
  inactive : ∀ lease, lease.generation ≤ c.generation → c.active ≠ some lease → c'.active ≠ some lease
  guard : ∀ guard, c.idleRearmGuard = some guard → c'.idleRearmGuard = some guard

instance : IsPreorder GoalLeaseCoordinator Respects where
  refl _ := ⟨rfl, rfl, Nat.le_refl _, id, fun _ _ => id, fun _ _ => id, fun _ => id⟩
  trans _ _ _ h h' :=
    ⟨h'.robot.trans h.robot, h'.controller.trans h.controller, h.generation.trans h'.generation,
      fun hf => h'.faulted (h.faulted hf), fun l ho ha => h'.active l ho (h.active l ho ha),
      fun l hl ha => h'.inactive l (hl.trans h.generation) (h.inactive l hl ha),
      fun g hg => h'.guard g (h.guard g hg)⟩

namespace GoalLeaseCoordinator

variable {c c' : GoalLeaseCoordinator} {e : LeaseEvent}

theorem Next.ne {c : GoalLeaseCoordinator} {owner : GoalOwner} {l lease : GoalLease} (hn : c.Next owner l)
    (hl : lease.generation ≤ c.generation) : some l ≠ some lease := by
  intro h
  have hg := hn.generation
  rw [Option.some.inj h] at hg
  omega

theorem Change.respects {c c' : GoalLeaseCoordinator} (hc : c.Change e c') (hf : Foreign e.1) : Respects c c' := by
  have hgen := hc.generation_le
  cases hc with
  | acquired _ _ ha _ _ hn =>
    exact ⟨rfl, rfl, hgen, id, fun l _ h => by simp [ha] at h, fun l hl _ => hn.ne hl, fun _ => id⟩
  | activated _ ha _ _ hn =>
    exact ⟨rfl, rfl, hgen, id, fun l _ h => by simp [ha] at h, fun l hl _ => hn.ne hl, fun _ => id⟩
  | begun _ _ _ hg =>
    exact ⟨rfl, rfl, hgen, id, fun _ _ => id, fun _ _ => id, fun g h => by simp [hg] at h⟩
  | finished => exact absurd rfl (hf.2 _)
  | released ha =>
    refine ⟨rfl, rfl, hgen, id, fun l ho h => ?_, fun _ _ _ => nofun, fun _ => id⟩
    rw [ha] at h
    exact absurd (Option.some.inj h ▸ ho) (hf.1 _ _ _ rfl)
  | faulted ha =>
    refine ⟨rfl, rfl, hgen, fun _ => rfl, fun l ho h => ?_, fun _ _ _ => nofun, fun _ => id⟩
    rw [ha] at h
    exact absurd (Option.some.inj h ▸ ho) (hf.1 _ _ _ rfl)
  | _ => exact ⟨rfl, rfl, hgen, id, fun _ _ => id, fun _ _ => id, fun _ => id⟩

end GoalLeaseCoordinator

theorem Meanwhile.respects (h : Meanwhile c c') : Respects c c' := by
  induction h with
  | refl => exact refl_of Respects _
  | tail _ hstep ih =>
    obtain ⟨call, hf, rfl⟩ := hstep
    exact trans_of Respects ih ((leaseCoordinator_change _ call).respects hf)

-- Numbered identifiers

theorem digit_bounds {c : Char} (h : c.isDigit) : 48 ≤ c.toNat ∧ c.toNat ≤ 57 := by
  simp only [Char.isDigit, Bool.and_eq_true, decide_eq_true_eq, ge_iff_le, UInt32.le_iff_toNat_le] at h
  exact h

theorem isSpace_digit {c : Char} (h : c.isDigit) : isSpace c = false := by
  obtain ⟨hlo, hhi⟩ := digit_bounds h
  simp only [isSpace]
  simp only [Bool.or_eq_false_iff, Bool.and_eq_false_iff, decide_eq_false_iff_not, beq_eq_false_iff_ne]
  omega

theorem dropWhile_isSpace {cs : List Char} (h : ∀ c ∈ cs, isSpace c = false) : cs.dropWhile isSpace = cs := by
  cases cs with
  | nil => rfl
  | cons c cs => simp [h c (by simp)]

theorem strip_eq {cs : List Char} (h : ∀ c ∈ cs, isSpace c = false) : strip cs = cs := by
  unfold strip
  rw [dropWhile_isSpace h, dropWhile_isSpace fun c hc => h c (List.mem_reverse.mp hc), List.reverse_reverse]

theorem identifierOk_numbered {label : String} (hlabel : label.toList ≠ [] ∧ ∀ c ∈ label.toList, isSpace c = false ∧ 32 ≤ c.toNat)
    (n : Nat) (hn : n < 10 ^ 19) (hlen : label.toList.length + 19 ≤ maximum) :
    identifierOk (label ++ toString n) maximum := by
  have hdigits : (toString n).toList = Nat.toDigits 10 n := Nat.toList_repr
  have hlength : (Nat.toDigits 10 n).length ≤ 19 := (Nat.length_toDigits_le_iff (by decide) (by decide)).mpr hn
  have hall : ∀ c ∈ (label ++ toString n).toList, isSpace c = false ∧ 32 ≤ c.toNat := by
    intro c hc
    rw [String.toList_append, List.mem_append, hdigits] at hc
    rcases hc with hc | hc
    · exact hlabel.2 c hc
    · have hd := Nat.isDigit_of_mem_toDigits (by decide) (by decide) hc
      exact ⟨isSpace_digit hd, by have := (digit_bounds hd).1; omega⟩
  simp only [identifierOk, strip_eq fun c hc => (hall c hc).1, Bool.and_eq_true, Bool.not_eq_true', List.isEmpty_eq_false_iff,
    beq_self_eq_true, decide_eq_true_eq, List.all_eq_true, and_true]
  refine ⟨⟨?_, ?_⟩, fun c hc => (hall c hc).2⟩
  · rw [String.toList_append]
    exact List.append_ne_nil_of_left_ne_nil hlabel.1 _
  · rw [String.toList_append, List.length_append, hdigits]
    omega
namespace IdleExplorationService

variable {σ : Type} {e : IdleExplorationService σ}

-- What the calls of the environment keep

structure Frames (e : IdleExplorationService σ) (K : IdleShared σ → IdleShared σ → Prop) : Prop where
  navigation : e.navigation.Frames K
  clock : Keeps K e.clockMs
  factory : ∀ x ∈ e.idFactory, Keeps K x
  capture : ∀ snapshot id captured until', Keeps K (e.capture snapshot id captured until')
  seed : ∀ snapshot, Keeps K (e.seed snapshot)
  generate : ∀ snapshot id observation, Keeps K (e.generate snapshot id observation)
  resolve : ∀ candidates id, Keeps K (e.resolve candidates id)
  selectorCall : ∀ context lease deadline, Keeps K (e.selectorCall context lease deadline)
  recordAttempt : ∀ key, Keeps K (e.recordAttempt key)
  recordCompleted : ∀ key, Keeps K (e.recordCompleted key)
  meanwhile : ∀ s, K s (e.meanwhile s)

/-- Nobody but the task returns its lease: the others' calls are foreign. -/
def Isolated (e : IdleExplorationService σ) : Prop :=
  e.Frames fun s s' => Meanwhile s.world.authority s'.world.authority

def Guards (s s' : IdleShared σ) : Prop := Respects s.world.authority s'.world.authority

instance : IsPreorder (IdleShared σ) Guards where
  refl _ := refl_of Respects _
  trans _ _ _ h h' := trans_of Respects h h'

theorem Isolated.guards (h : e.Isolated) : e.Frames Guards where
  navigation :=
    { observe := fun goal s => (h.navigation.observe goal s).respects
      apply := fun pulse goal s => (h.navigation.apply pulse goal s).respects
      publish := fun goal snapshot s => (h.navigation.publish goal snapshot s).respects
      hook := fun snapshot s => (h.navigation.hook snapshot s).respects
      sink := fun snapshot s => (h.navigation.sink snapshot s).respects
      cancelled := fun s => (h.navigation.cancelled s).respects
      drain := fun s => (h.navigation.drain s).respects
      now := fun s => (h.navigation.now s).respects
      id := fun s => (h.navigation.id s).respects
      supervisor := fun s state => (h.navigation.supervisor s state).respects }
  clock s := (h.clock s).respects
  factory x hx s := (h.factory x hx s).respects
  capture snapshot id captured until' s := (h.capture snapshot id captured until' s).respects
  seed snapshot s := (h.seed snapshot s).respects
  generate snapshot id observation s := (h.generate snapshot id observation s).respects
  resolve candidates id s := (h.resolve candidates id s).respects
  selectorCall context lease deadline s := (h.selectorCall context lease deadline s).respects
  recordAttempt key s := (h.recordAttempt key s).respects
  recordCompleted key s := (h.recordCompleted key s).respects
  meanwhile s := (h.meanwhile s).respects

-- Steps that leave the lease alone

abbrev authorityOf (s : TaskState σ) : GoalLeaseCoordinator := s.episode.shared.world.authority

/-- A step that neither returns the lease nor drives, and keeps the books. -/
structure Rest (s s' : TaskState σ) : Prop where
  authority : Respects (authorityOf s) (authorityOf s')
  applied : ∃ new, s'.episode.applied = new ++ s.episode.applied ∧ drives new = []
  plannerCalls : s'.plannerCalls = s.plannerCalls
  staleReplans : s'.staleReplans = s.staleReplans
  snapshot : s'.snapshot = s.snapshot
  acquired : s'.acquired = s.acquired
  returned : s'.returned = s.returned
  escaped : s'.escaped = s.escaped
  shown : s'.shown = s.shown
  missionsRaised : s'.missionsRaised = s.missionsRaised

instance : IsPreorder (TaskState σ) Rest where
  refl _ := ⟨refl_of Respects _, ⟨[], rfl, rfl⟩, rfl, rfl, rfl, rfl, rfl, rfl, rfl, rfl⟩
  trans _ _ _ h h' := by
    obtain ⟨new, happ, hd⟩ := h.applied
    obtain ⟨new', happ', hd'⟩ := h'.applied
    refine ⟨trans_of Respects h.authority h'.authority, ⟨new' ++ new, ?_, ?_⟩, h'.plannerCalls.trans h.plannerCalls,
      h'.staleReplans.trans h.staleReplans, h'.snapshot.trans h.snapshot, h'.acquired.trans h.acquired,
      h'.returned.trans h.returned, h'.escaped.trans h.escaped, h'.shown.trans h.shown,
      h'.missionsRaised.trans h.missionsRaised⟩
    · rw [happ', happ, List.append_assoc]
    · rw [MissionRunner.drives_append, hd, hd', List.append_nil]

theorem ask_rest {x : Prog (IdleShared σ) Raised α} (h : Keeps Guards x) : Keeps Rest (ask x : Task σ α) :=
  fun s => ⟨h s.episode.shared, ⟨[], rfl, rfl⟩, rfl, rfl, rfl, rfl, rfl, rfl, rfl, rfl⟩

theorem log_rest (entry : String) : Keeps Rest (log entry : Task σ Unit) :=
  fun _ => ⟨refl_of Respects _, ⟨[], rfl, rfl⟩, rfl, rfl, rfl, rfl, rfl, rfl, rfl, rfl⟩

theorem log_bind {f : Unit → Task σ α} {Q : α → TaskState σ → Prop} {E : Raised → TaskState σ → Prop} {s : TaskState σ}
    (h : ∀ s', Rest s s' → Triple (f ()) s' Q E) : Triple (log entry >>= f) s Q E :=
  Triple.step (show log entry s = _ from rfl) (h _ (log_rest entry s))

theorem checked_rest (x : Except NavigationContractError α) : Keeps Rest (checked x : Task σ α) := Keeps.ofExcept _

theorem nowShared_guards (hf : e.Frames Guards) : Keeps Guards e.nowShared :=
  Keeps.bind hf.clock fun _ => Keeps.ofExcept _

theorem nowMs_rest (hf : e.Frames Guards) : Keeps Rest e.nowMs := ask_rest (nowShared_guards hf)

theorem idSuffix_rest (hf : e.Frames Guards) (sequence : Nat) : Keeps Rest (e.idSuffix sequence) := by
  unfold idSuffix
  split
  · exact Keeps.pure _
  next factory hfactory =>
    refine Keeps.bind (ask_rest (hf.factory factory hfactory)) fun external => ?_
    exact Keeps.bind (checked_rest _) fun _ => Keeps.pure _

theorem newId_rest (hf : e.Frames Guards) (kind : String) : Keeps Rest (e.newId kind) := by
  refine Keeps.bind Keeps.get fun s => Keeps.bind ?_ fun _ => ?_
  · exact Keeps.modify fun _ => ⟨refl_of Respects _, ⟨[], rfl, rfl⟩, rfl, rfl, rfl, rfl, rfl, rfl, rfl, rfl⟩
  · exact Keeps.bind (idSuffix_rest hf _) fun _ => checked_rest _

theorem offerObservation_rest (hf : e.Frames Guards) (snapshot : NavigationSnapshot) :
    Keeps Rest (e.offerObservation snapshot) :=
  ask_rest (Keeps.tryCatch (hf.navigation.sink snapshot) fun _ => Keeps.pure ())

theorem isCurrentIdle_rest (hf : e.Frames Guards) (lease : GoalLease) : Keeps Rest (e.isCurrentIdle lease) :=
  fun s => ⟨hf.meanwhile s.episode.shared, ⟨[], rfl, rfl⟩, rfl, rfl, rfl, rfl, rfl, rfl, rfl, rfl⟩

theorem isCurrentIdle_bind (hf : e.Frames Guards) {f : Bool → Task σ α} {Q : α → TaskState σ → Prop}
    {E : Raised → TaskState σ → Prop} {s : TaskState σ} (h : ∀ current s', Rest s s' → Triple (f current) s' Q E) :
    Triple (e.isCurrentIdle lease >>= f) s Q E :=
  Triple.step (show e.isCurrentIdle lease s = _ from rfl) (h _ _ (isCurrentIdle_rest hf lease s))

theorem stopPlant_rest (hf : e.Frames Guards) (goal : WaypointGoal) (s : TaskState σ) :
    Triple (onEpisode (e.stopPlant goal)) s
      (fun r s' => Rest s s' ∧ (r.2 = true → ∃ a rest, s'.episode.applied = a :: rest ++ s.episode.applied ∧ VerifiedStop a))
      (fun _ s' => Rest s s') := by
  have hrest : ∀ {new : List Applied} {t : EpisodeState (IdleWorld σ)},
      NavigationEpisode.Grown Guards s.episode new t → drives new = [] → Rest s { s with episode := t } :=
    fun hg hd => ⟨hg.frame, ⟨_, hg.applied, hd⟩, rfl, rfl, rfl, rfl, rfl, rfl, rfl, rfl⟩
  refine Triple.onPart ?_
  have hg := NavigationEpisode.Grown.refl (K := Guards) s.episode
  refine Triple.bind ((NavigationEpisode.onShared_still (hf.navigation.observe goal)).triple s.episode |>.mono
    (fun _ _ h => h) fun _ _ h => hrest (hg.still h) rfl) ?_
  intro current t₁ h₁
  have hg₁ := hg.still h₁
  have hforce := ((NavigationEpisode.forceStop_still hf.navigation current "idle_terminal_stop").triple t₁).and
    (NavigationEpisode.forceStop_kind (e := e.navigation) current "idle_terminal_stop" t₁)
  refine Triple.bind (hforce.mono (fun _ _ h => h) fun _ _ h => hrest (hg₁.still h.1) rfl) ?_
  rintro stop t₂ ⟨h₂, hkind⟩
  have happly := NavigationEpisode.applyPulse_spent hf.navigation current stop goal (hg₁.still h₂)
  refine Triple.bind (happly.mono (fun _ _ h => h) fun _ _ h => hrest h rfl) ?_
  intro after t₃ h₃
  refine Triple.pure ⟨hrest h₃ (NavigationEpisode.drives_stop hkind []), fun hv => ?_⟩
  simp only [Bool.and_eq_true, Bool.not_eq_true', decide_eq_true_eq] at hv
  exact ⟨_, [], h₃.applied, hkind, hv.1, hv.2⟩

structure SameBooks (s s' : TaskState σ) : Prop where
  applied : ∃ new, s'.episode.applied = new ++ s.episode.applied ∧ drives new = []
  plannerCalls : s'.plannerCalls = s.plannerCalls
  staleReplans : s'.staleReplans = s.staleReplans
  acquired : s'.acquired = s.acquired
  missionsRaised : s'.missionsRaised = s.missionsRaised

theorem Rest.sameBooks {s s' : TaskState σ} (h : Rest s s') : SameBooks s s' :=
  ⟨h.applied, h.plannerCalls, h.staleReplans, h.acquired, h.missionsRaised⟩

-- The lease and the books of a task

def staleAllowed (e : IdleExplorationService σ) (b : TaskBudget) : Nat :=
  min e.maxStaleReplansPerTask b.remainingStaleReplans

def WithinBudget (b : TaskBudget) (new : List Applied) : Prop :=
  (drives new).length ≤ b.remainingActions ∧ (drives new ≠ [] → motionOf (drives new) ≤ b.remainingMotionMs)

/-- What a task may have used, from the pulses applied before it. -/
structure Used (e : IdleExplorationService σ) (b : TaskBudget) (before : List Applied) (s : TaskState σ) : Prop where
  planner : s.plannerCalls ≤ b.remainingPlannerCalls
  stale : s.staleReplans ≤ e.staleAllowed b
  within : ∃ new, s.episode.applied = new ++ before ∧ WithinBudget b new

structure Held (lease : GoalLease) (s : TaskState σ) : Prop where
  active : (authorityOf s).active = some lease
  acquired : s.acquired = some lease
  returned : s.returned = []

/-- No call outside of every `try` raised, and the plant showed a snapshot. -/
structure Clean (s : TaskState σ) : Prop where
  escaped : s.escaped = []
  shown : s.shown = true

/-- The lease was returned once: safely with a snapshot of its own goal after
a STOP that was verified and after which nothing drove, or else the authority
is faulted. -/
structure Ended (lease : GoalLease) (before : List Applied) (s : TaskState σ) : Prop where
  acquired : s.acquired = some lease
  inactive : (authorityOf s).active ≠ some lease
  once : ∃ r, s.returned = [r] ∧ r.lease = lease ∧
    if r.safe then (authorityOf s).SafeReturn lease r.final r.stopVerified ∧
      ∃ new, s.episode.applied = new ++ before ∧ Stopped new
    else (authorityOf s).faulted = true

structure Left (e : IdleExplorationService σ) (b : TaskBudget) (lease : GoalLease) (before : List Applied)
    (s : TaskState σ) : Prop where
  used : Used e b before s
  lease : (Ended lease before s ∧ Clean s ∧ lease.generation ≤ (authorityOf s).generation) ∨ (Held lease s ∧ ¬ Clean s)

/-- The lease was returned, though the task may still run. -/
structure Returned (e : IdleExplorationService σ) (b : TaskBudget) (lease : GoalLease) (before : List Applied)
    (s : TaskState σ) : Prop where
  used : Used e b before s
  ended : Ended lease before s
  clean : Clean s
  generation : lease.generation ≤ (authorityOf s).generation

/-- No pulse since `before` drove, if no mission raised. -/
def Quiet (before : List Applied) (s : TaskState σ) : Prop :=
  s.missionsRaised = 0 → ∃ new, s.episode.applied = new ++ before ∧ drives new = []

/-- While the task has its lease and nothing went wrong with it. -/
structure Closing (e : IdleExplorationService σ) (b : TaskBudget) (lease : GoalLease) (before : List Applied)
    (s : TaskState σ) : Prop where
  used : Used e b before s
  held : Held lease s
  generation : lease.generation ≤ (authorityOf s).generation
  escaped : s.escaped = []
  shown : s.shown = s.snapshot.isSome
  quiet : Quiet before s

structure Going (e : IdleExplorationService σ) (b : TaskBudget) (lease : GoalLease) (before : List Applied)
    (s : TaskState σ) : Prop extends Closing e b lease before s where
  unraised : s.missionsRaised = 0

variable {b : TaskBudget} {lease : GoalLease} {before : List Applied} {s s' : TaskState σ}

theorem Used.rest (h : Used e b before s) (hr : Rest s s') : Used e b before s' := by
  obtain ⟨new, happ, hw⟩ := h.within
  obtain ⟨more, happ', hd⟩ := hr.applied
  refine ⟨hr.plannerCalls ▸ h.planner, hr.staleReplans ▸ h.stale, more ++ new, ?_, ?_⟩
  · rw [happ', happ, List.append_assoc]
  · simpa only [WithinBudget, MissionRunner.drives_append, hd, List.nil_append] using hw

theorem Used.rest' (h : Used e b before s) (happ : s'.episode.applied = s.episode.applied)
    (hp : s'.plannerCalls = s.plannerCalls) (hs : s'.staleReplans = s.staleReplans) : Used e b before s' :=
  ⟨hp ▸ h.planner, hs ▸ h.stale, happ ▸ h.within⟩

theorem Held.rest (hl : lease.owner = .idleExploration) (h : Held lease s) (hr : Rest s s') : Held lease s' :=
  ⟨hr.authority.active lease hl h.active, hr.acquired ▸ h.acquired, hr.returned ▸ h.returned⟩

theorem Clean.rest (h : Clean s) (hr : Rest s s') : Clean s' := ⟨hr.escaped ▸ h.escaped, hr.shown ▸ h.shown⟩

theorem SameBooks.trans {t : TaskState σ} (h : SameBooks s s') (h' : SameBooks s' t) : SameBooks s t := by
  obtain ⟨new, happ, hd⟩ := h.applied
  obtain ⟨more, happ', hd'⟩ := h'.applied
  refine ⟨⟨more ++ new, by rw [happ', happ, List.append_assoc], ?_⟩, h'.plannerCalls.trans h.plannerCalls,
    h'.staleReplans.trans h.staleReplans, h'.acquired.trans h.acquired, h'.missionsRaised.trans h.missionsRaised⟩
  rw [MissionRunner.drives_append, hd, hd', List.append_nil]

theorem Quiet.books (hq : Quiet before s) (hb : SameBooks s s') : Quiet before s' := by
  intro hm
  obtain ⟨new, happ, hd⟩ := hq (hb.missionsRaised ▸ hm)
  obtain ⟨more, happ', hd'⟩ := hb.applied
  refine ⟨more ++ new, by rw [happ', happ, List.append_assoc], ?_⟩
  rw [MissionRunner.drives_append, hd, hd', List.append_nil]

theorem Closing.rest (hl : lease.owner = .idleExploration) (h : Closing e b lease before s) (hr : Rest s s') :
    Closing e b lease before s' :=
  ⟨h.used.rest hr, h.held.rest hl hr, h.generation.trans hr.authority.generation, hr.escaped ▸ h.escaped,
    by rw [hr.shown, hr.snapshot, h.shown], h.quiet.books hr.sameBooks⟩

theorem Going.rest (hl : lease.owner = .idleExploration) (h : Going e b lease before s) (hr : Rest s s') :
    Going e b lease before s' :=
  ⟨h.toClosing.rest hl hr, hr.missionsRaised.trans h.unraised⟩

theorem Going.update (h : Going e b lease before s) (hepisode : s'.episode = s.episode)
    (hlease : s'.acquired = s.acquired ∧ s'.returned = s.returned ∧ s'.escaped = s.escaped ∧
      s'.missionsRaised = s.missionsRaised)
    (hplanner : s'.plannerCalls ≤ b.remainingPlannerCalls) (hstale : s'.staleReplans ≤ e.staleAllowed b)
    (hshown : s'.shown = s'.snapshot.isSome) : Going e b lease before s' := by
  obtain ⟨hacquired, hreturned, hescaped, hraised⟩ := hlease
  refine ⟨⟨⟨hplanner, hstale, hepisode ▸ h.used.within⟩, ⟨?_, hacquired ▸ h.held.acquired,
    hreturned ▸ h.held.returned⟩, ?_, hescaped ▸ h.escaped, hshown, ?_⟩, hraised.trans h.unraised⟩
  · rw [authorityOf, hepisode]; exact h.held.active
  · rw [authorityOf, hepisode]; exact h.generation
  · rw [Quiet, hepisode, hraised]; exact h.quiet

theorem safeReturn_respects {c c' : GoalLeaseCoordinator} (h : Respects c c') :
    c'.SafeReturn lease final verified ↔ c.SafeReturn lease final verified := by
  simp only [GoalLeaseCoordinator.SafeReturn, h.robot, h.controller]

theorem Ended.rest (hgen : lease.generation ≤ (authorityOf s).generation) (h : Ended lease before s) (hr : Rest s s') :
    Ended lease before s' := by
  obtain ⟨r, hreturned, hlease, hsafe⟩ := h.once
  refine ⟨hr.acquired ▸ h.acquired, hr.authority.inactive lease hgen h.inactive, r, hr.returned ▸ hreturned, hlease, ?_⟩
  split at hsafe
  next hs =>
    obtain ⟨hreturn, new, happ, hstop⟩ := hsafe
    obtain ⟨more, happ', hd⟩ := hr.applied
    rw [if_pos hs]
    refine ⟨(safeReturn_respects hr.authority).mpr hreturn, more ++ new, ?_, hstop.quiet hd⟩
    rw [happ', happ, List.append_assoc]
  next hs =>
    rw [if_neg hs]
    exact hr.authority.faulted hsafe

theorem Returned.rest (h : Returned e b lease before s) (hr : Rest s s') : Returned e b lease before s' :=
  ⟨h.used.rest hr, h.ended.rest h.generation hr, h.clean.rest hr, h.generation.trans hr.authority.generation⟩

theorem Returned.left (h : Returned e b lease before s) : Left e b lease before s :=
  ⟨h.used, .inl ⟨h.ended, h.clean, h.generation⟩⟩

theorem Left.rest (hl : lease.owner = .idleExploration) (h : Left e b lease before s) (hr : Rest s s') :
    Left e b lease before s' := by
  refine ⟨h.used.rest hr, ?_⟩
  rcases h.lease with ⟨hended, hclean, hgen⟩ | ⟨hheld, hnot⟩
  · exact .inl ⟨hended.rest hgen hr, hclean.rest hr, hgen.trans hr.authority.generation⟩
  · exact .inr ⟨hheld.rest hl hr, fun hclean => hnot ⟨hr.escaped ▸ hclean.escaped, hr.shown ▸ hclean.shown⟩⟩

theorem exposed_run {x : Task σ α} (hl : lease.owner = .idleExploration) (hg : Going e b lease before s)
    (hx : Keeps Rest x) (site : Site) :
    Triple (exposed site x) s (fun _ s' => Rest s s') (fun _ s' => Left e b lease before s') := by
  refine Triple.tryCatch ((hx.triple s).mono (fun _ _ h => h) fun _ _ h => h) ?_
  intro error s₁ h₁
  refine Triple.modify_bind (Triple.throw ?_)
  have hg₁ := hg.rest hl h₁
  exact ⟨⟨hg₁.used.planner, hg₁.used.stale, hg₁.used.within⟩,
    .inr ⟨⟨hg₁.held.active, hg₁.held.acquired, hg₁.held.returned⟩, fun h => nomatch h.escaped⟩⟩

-- Returning the lease

theorem release_active {c : GoalLeaseCoordinator} (ha : c.active = some lease) (final : NavigationSnapshot) (v : Bool) :
    (c.SafeReturn lease final v ∧ c.release lease final v = (.ok true, { c with active := none })) ∨
      c.release lease final v = (.ok false, { c with active := none, faulted := true, pendingUser := none }) := by
  unfold GoalLeaseCoordinator.release
  rw [if_neg (not_not.mpr ha)]
  split
  next h => exact .inl ⟨h, rfl⟩
  next => exact .inr rfl

/-- A stop that was reported as verified was applied since `before`. -/
def StopSince (before : List Applied) (s : TaskState σ) (verified : Bool) : Prop :=
  verified = true → ∃ new, s.episode.applied = new ++ before ∧ Stopped new

/-- The state after a call of the authority: others had their turn, and the
authority is what the call made of it. -/
def afterCall (e : IdleExplorationService σ) (s : TaskState σ) (c : GoalLeaseCoordinator) : TaskState σ :=
  let shared := e.meanwhile s.episode.shared
  { s with episode := { s.episode with shared := { shared with world := { shared.world with authority := c } } } }

theorem onAuthority_run (f : GoalLeaseCoordinator → α × GoalLeaseCoordinator) (s : TaskState σ) :
    e.onAuthority f s = (.ok (f (e.meanwhile s.episode.shared).world.authority).1,
      e.afterCall s (f (e.meanwhile s.episode.shared).world.authority).2) := rfl

theorem release_ends (hf : e.Frames Guards) (hl : lease.owner = .idleExploration) (hu : Used e b before s)
    (hh : Held lease s) (hc : Clean s) (hgen : lease.generation ≤ (authorityOf s).generation)
    (hstop : StopSince before s verified) :
    Triple (e.release lease final verified) s
      (fun _ s' => Returned e b lease before s' ∧ SameBooks s s') (fun _ _ => False) := by
  have hmean := hf.meanwhile s.episode.shared
  have hactive := hmean.active lease hl hh.active
  have hgen' := hgen.trans hmean.generation
  unfold release
  refine Triple.step (onAuthority_run _ s) ?_
  obtain ⟨hsafe, hrel⟩ | hrel := release_active hactive final verified <;> rw [hrel]
  · refine Triple.modify_bind (Triple.pure ⟨⟨hu.rest' rfl rfl rfl, ⟨hh.acquired, nofun, ⟨lease, final, verified, true⟩, ?_, rfl, ?_⟩,
      ⟨hc.escaped, hc.shown⟩, hgen'⟩, ⟨⟨[], rfl, rfl⟩, rfl, rfl, rfl, rfl⟩⟩)
    · exact congrArg (_ :: ·) hh.returned
    · exact ⟨hsafe, hstop hsafe.1⟩
  · refine Triple.modify_bind (Triple.pure ⟨⟨hu.rest' rfl rfl rfl, ⟨hh.acquired, nofun, ⟨lease, final, verified, false⟩, ?_, rfl, rfl⟩,
      ⟨hc.escaped, hc.shown⟩, hgen'⟩, ⟨⟨[], rfl, rfl⟩, rfl, rfl, rfl, rfl⟩⟩)
    exact congrArg (_ :: ·) hh.returned

theorem release_again (hf : e.Frames Guards) (hgen : lease.generation ≤ (authorityOf s).generation)
    (hi : (authorityOf s).active ≠ some lease) :
    Triple (e.release lease final verified) s (fun safe s' => safe = false ∧ Rest s s') (fun _ _ => False) := by
  have hmean := hf.meanwhile s.episode.shared
  have hactive := hmean.inactive lease hgen hi
  unfold release
  refine Triple.step (onAuthority_run _ s) ?_
  rw [GoalLeaseCoordinator.release, if_pos hactive]
  exact Triple.pure ⟨rfl, hmean, ⟨[], rfl, rfl⟩, rfl, rfl, rfl, rfl, rfl, rfl, rfl, rfl⟩

-- The end of a task without a mission

def GoesOn (r : IdleTaskResult) : Prop := r.termination = .taskCompleted ∨ r.termination = .missionStale

/-- The result counts every drive but those the reducer refused. -/
def Charged (r : IdleTaskResult) (new : List Applied) : Prop :=
  ∃ refused counted, drives new = refused ++ counted ∧ r.missionActions = counted.length ∧
    r.missionMotionMs = motionOf counted ∧ ∀ a ∈ refused, NavigationEpisode.Refused a ∧ ¬ GoesOn r

structure Reports (lease : GoalLease) (before : List Applied) (r : IdleTaskResult) (s : TaskState σ) : Prop where
  generation : r.leaseGeneration = some lease.generation
  plannerCalls : r.plannerCalls = s.plannerCalls
  staleReplans : r.staleReplans = s.staleReplans
  charged : s.missionsRaised = 0 → ∃ new, s.episode.applied = new ++ before ∧ Charged r new
  raised : s.missionsRaised ≠ 0 → ¬ GoesOn r ∧ r.mission = none

theorem offerObservation_run (hf : e.Frames Guards) (snapshot : NavigationSnapshot) (s : TaskState σ) :
    Triple (e.offerObservation snapshot) s (fun _ s' => Rest s s') (fun _ _ => False) := by
  unfold offerObservation ask onEpisode NavigationEpisode.onShared
  refine Triple.onPart (Triple.onPart (Triple.tryCatch (((hf.navigation.sink snapshot).triple _).mono ?_
    fun _ _ h => h) ?_))
  · exact fun _ _ h => ⟨h, ⟨[], rfl, rfl⟩, rfl, rfl, rfl, rfl, rfl, rfl, rfl, rfl⟩
  · exact fun _ _ h => Triple.pure ⟨h, ⟨[], rfl, rfl⟩, rfl, rfl, rfl, rfl, rfl, rfl, rfl, rfl⟩

def seen (s : TaskState σ) : TaskState σ := { s with shown := true }

theorem Rest.seen (h : Rest s s') : Rest (seen s) (seen s') :=
  ⟨h.authority, h.applied, h.plannerCalls, h.staleReplans, h.snapshot, h.acquired, h.returned, h.escaped, rfl,
    h.missionsRaised⟩

theorem seen_eq (h : s.shown = true) : seen s = s := by
  unfold IdleExplorationService.seen
  rw [← h]

theorem verifiedStop_run (hf : e.Frames Guards) (hs : s.snapshot ≠ none → s.shown = true) (goal : WaypointGoal) :
    Triple (e.verifiedStop goal) s
      (fun r s' => (r.1 = none ∧ s.snapshot = none ∧ Rest s s') ∨
        (r.1 ≠ none ∧ Rest (seen s) s' ∧ StopSince s.episode.applied s' r.2))
      (fun _ _ => False) := by
  unfold verifiedStop
  refine Triple.bind (Triple.attempt (P := fun r s' => match r with
    | .ok x => Rest s s' ∧ (x.2 = true → ∃ a rest, s'.episode.applied = a :: rest ++ s.episode.applied ∧ VerifiedStop a)
    | .error _ => Rest s s') (stopPlant_rest hf goal s)) ?_
  rintro (error | ⟨after, stopped⟩) s₁ h₁
  · refine Triple.step get_run (Triple.pure ?_)
    have hrest : Rest s s₁ := h₁
    by_cases hsnap : s.snapshot = none
    · exact .inl ⟨hrest.snapshot.trans hsnap, hsnap, hrest⟩
    · refine .inr ⟨fun h => hsnap (hrest.snapshot ▸ h), ?_, nofun⟩
      rwa [seen_eq (hs hsnap)]
  · obtain ⟨hrest, hstop⟩ := h₁
    refine Triple.modify_bind (Triple.bind (offerObservation_run hf after _) fun _ s₂ h₂ => ?_)
    refine Triple.pure (.inr ⟨nofun, trans_of Rest hrest.seen h₂, fun hv => ?_⟩)
    obtain ⟨a, rest, happ, ha⟩ := hstop hv
    obtain ⟨more, happ', hd⟩ := h₂.applied
    refine ⟨more ++ a :: rest, ?_, (ha.stopped rest).quiet hd⟩
    rw [happ']
    show more ++ s₁.episode.applied = _
    rw [happ]
    simp

theorem seedIf_rest (hf : e.Frames Guards) (safe : Bool) (final : NavigationSnapshot) :
    Keeps Rest (e.seedIf safe final) :=
  Keeps.ite (ask_rest (hf.seed final)) (Keeps.pure ())

theorem returnLease_run (hf : e.Frames Guards) (hl : lease.owner = .idleExploration) (hu : Used e b before s)
    (hh : Held lease s) (hc : Clean s) (hgen : lease.generation ≤ (authorityOf s).generation)
    (hstop : StopSince before s verified) (final : NavigationSnapshot) :
    Settles (e.returnLease lease (some final, verified)) s
      (fun s' => Returned e b lease before s' ∧ SameBooks s s') := by
  refine Triple.bind ((release_ends hf hl hu hh hc hgen hstop).mono (fun _ _ h => h) fun _ _ h => h.elim) ?_
  rintro safe s₁ ⟨hret, hbooks⟩
  refine Triple.frame_bind (seedIf_rest hf safe final) (fun _ _ h => ⟨hret.rest h, hbooks.trans h.sameBooks⟩)
    fun _ s₂ h₂ => ?_
  exact Triple.pure ⟨hret.rest h₂, hbooks.trans h₂.sameBooks⟩

theorem returnLease_again (hf : e.Frames Guards) (h : Returned e b lease before s)
    (stop : Option NavigationSnapshot × Bool) :
    Triple (e.returnLease lease stop) s (fun safe s' => safe = false ∧ Rest s s') (fun _ _ => False) := by
  obtain ⟨_ | final, verified⟩ := stop
  · exact Triple.pure ⟨rfl, refl_of Rest s⟩
  · refine Triple.bind (release_again hf h.generation h.ended.inactive) ?_
    rintro _ s₁ ⟨rfl, h₁⟩
    exact Triple.pure ⟨rfl, h₁⟩

theorem finish_reports (termination : IdleTermination) (hn : termination ≠ .taskCompleted ∧ termination ≠ .missionStale)
    (safe : Bool) (stop : Option NavigationSnapshot)
    (hq : Quiet before s) (h : Left e b lease before s) (hl : lease.owner = .idleExploration) :
    Triple (do
      log (if safe then "VERIFIED_STOP" else "STOP_UNVERIFIED")
      let s ← get
      return {
        termination := if safe then termination else .stopUnverified
        leaseGeneration := some lease.generation
        plannerCalls := s.plannerCalls
        staleReplans := s.staleReplans
        selectedCandidateId := s.selectedCandidateId
        observation := s.observation
        candidates := s.candidates.map (·.view)
        finalSnapshot := stop
        terminalStopVerified := safe
        trace := s.trace } : Task σ IdleTaskResult) s
      (fun r s' => Left e b lease before s' ∧ Reports lease before r s' ∧ ¬ GoesOn r) (fun _ _ => False) := by
  have hnot : ¬ (if safe then termination else .stopUnverified) = IdleTermination.taskCompleted ∧
      ¬ (if safe then termination else .stopUnverified) = IdleTermination.missionStale := by
    cases safe <;> simp [hn]
  have hends : ∀ r : IdleTaskResult, r.termination = (if safe then termination else .stopUnverified) → ¬ GoesOn r := by
    intro r hr hgo
    rcases hgo with hgo | hgo <;> rw [hr] at hgo
    · exact hnot.1 hgo
    · exact hnot.2 hgo
  refine log_bind fun s₁ h₁ => Triple.step get_run (Triple.pure ⟨h.rest hl h₁, ⟨rfl, rfl, rfl, fun hm => ?_, fun _ => ⟨hends _ rfl, rfl⟩⟩,
    hends _ rfl⟩)
  obtain ⟨new, happ, hd⟩ := hq.books h₁.sameBooks hm
  exact ⟨new, happ, [], [], hd, rfl, rfl, by simp⟩

/-- How a task that ends without a mission leaves: it can raise only after its
lease was returned. -/
abbrev Ends (e : IdleExplorationService σ) (b : TaskBudget) (lease : GoalLease) (before : List Applied)
    (x : Task σ IdleTaskResult) (s : TaskState σ) : Prop :=
  Triple x s (fun r s' => Left e b lease before s' ∧ Reports lease before r s' ∧ ¬ GoesOn r)
    (fun _ s' => Returned e b lease before s' ∧ Quiet before s')

theorem finishState_run (hf : e.Frames Guards) (hl : lease.owner = .idleExploration) (goal : WaypointGoal)
    {termination : IdleTermination} (hn : termination ≠ .taskCompleted ∧ termination ≠ .missionStale)
    (hg : Closing e b lease before s) : Ends e b lease before (e.finishState lease goal termination) s := by
  have hsnap : s.snapshot ≠ none → s.shown = true := fun h => by
    rw [hg.shown]
    exact Option.isSome_iff_ne_none.mpr h
  refine Triple.bind ((verifiedStop_run hf hsnap goal).mono (fun _ _ h => h) fun _ _ h => h.elim) ?_
  rintro ⟨stop, verified⟩ s₁ (⟨hnone, hsnapshot, h₁⟩ | ⟨hsome, h₁, hstop⟩)
  · -- no snapshot, no return
    obtain rfl : stop = none := hnone
    have hg₁ := hg.rest hl h₁
    have hleft : Left e b lease before s₁ := by
      refine ⟨hg₁.used, .inr ⟨hg₁.held, fun hc => ?_⟩⟩
      have hshown := hg₁.shown
      rw [hc.shown, h₁.snapshot, hsnapshot] at hshown
      cases hshown
    have hreturn : e.returnLease lease (none, verified) s₁ = (.ok false, s₁) := rfl
    exact Triple.step hreturn ((finish_reports termination hn false none hg₁.quiet hleft hl).mono
      (fun _ _ h => h) fun _ _ h => h.elim)
  · cases stop with
    | none => exact absurd rfl hsome
    | some final =>
      have hused : Used e b before s₁ := Used.rest (s := seen s) ⟨hg.used.planner, hg.used.stale, hg.used.within⟩ h₁
      have hheld : Held lease s₁ := Held.rest (s := seen s) hl ⟨hg.held.active, hg.held.acquired, hg.held.returned⟩ h₁
      have hclean : Clean s₁ := Clean.rest (s := seen s) ⟨hg.escaped, rfl⟩ h₁
      have hquiet : Quiet before s₁ := Quiet.books (s := seen s) hg.quiet h₁.sameBooks
      have hsince : StopSince before s₁ verified := fun hv => by
        obtain ⟨more, happ, hstop⟩ := hstop hv
        obtain ⟨new, happ', -⟩ := hg.used.within
        exact ⟨more ++ new, by rw [happ, happ', List.append_assoc], hstop.append new⟩
      have hreturn := returnLease_run hf hl hused hheld hclean (hg.generation.trans h₁.authority.generation) hsince final
      refine Triple.bind (hreturn.mono (fun _ _ h => h) fun _ _ ⟨h₂, hbooks⟩ => ⟨h₂, hquiet.books hbooks⟩) ?_
      rintro safe s₂ ⟨h₂, hbooks⟩
      exact (finish_reports termination hn safe (some final) (hquiet.books hbooks) h₂.left hl).mono
        (fun _ _ h => h) fun _ _ h => h.elim

theorem finishState_again (hf : e.Frames Guards) (hl : lease.owner = .idleExploration) (goal : WaypointGoal)
    {termination : IdleTermination} (hn : termination ≠ .taskCompleted ∧ termination ≠ .missionStale)
    (h : Returned e b lease before s) (hq : Quiet before s) :
    Ends e b lease before (e.finishState lease goal termination) s := by
  refine Triple.bind ((verifiedStop_run hf (fun _ => h.clean.shown) goal).mono (fun _ _ h => h) fun _ _ h => h.elim) ?_
  intro stop s₁ hstop
  have h₁ : Rest s s₁ := by
    rcases hstop with ⟨-, -, h₁⟩ | ⟨-, h₁, -⟩
    · exact h₁
    · rwa [seen_eq h.clean.shown] at h₁
  have hret := h.rest h₁
  refine Triple.bind ((returnLease_again hf hret stop).mono (fun _ _ h => h) fun _ _ h => h.elim) ?_
  rintro safe s₂ ⟨-, h₂⟩
  have hquiet := (hq.books h₁.sameBooks).books h₂.sameBooks
  exact (finish_reports termination hn safe stop.1 hquiet (hret.rest h₂).left hl).mono
    (fun _ _ h => h) fun _ _ h => h.elim

-- Selection

/-- What a step leads to that began with `k` stale replans. -/
def TurnLeft (e : IdleExplorationService σ) (b : TaskBudget) (lease : GoalLease) (before : List Applied) (k : Nat)
    (P : α → TaskState σ → Prop) : Turn α → TaskState σ → Prop
  | .go a, s => Going e b lease before s ∧ s.staleReplans = k ∧ P a s
  | .retry, s => Going e b lease before s ∧ s.staleReplans = k + 1
  | .done r, s => Left e b lease before s ∧ Reports lease before r s ∧ ¬ GoesOn r

abbrev Steps (e : IdleExplorationService σ) (b : TaskBudget) (lease : GoalLease) (before : List Applied)
    (x : Task σ (Turn α)) (s : TaskState σ) (P : α → TaskState σ → Prop) : Prop :=
  Triple x s (TurnLeft e b lease before s.staleReplans P) (fun _ s' => Left e b lease before s')

variable {goal : WaypointGoal}

theorem finishBecause_ends (hf : e.Frames Guards) (hl : lease.owner = .idleExploration) (entry : String)
    {termination : IdleTermination} (hn : termination ≠ .taskCompleted ∧ termination ≠ .missionStale)
    (hg : Closing e b lease before s) :
    Triple (e.finishBecause lease goal entry termination : Task σ (Turn α)) s
      (fun t s' => ∃ r, t = .done r ∧ Left e b lease before s' ∧ Reports lease before r s' ∧ ¬ GoesOn r)
      (fun _ s' => Returned e b lease before s' ∧ Quiet before s') := by
  refine log_bind fun s₁ h₁ => Triple.bind (finishState_run hf hl goal hn (hg.rest hl h₁)) fun r s₂ h₂ => ?_
  exact Triple.pure ⟨r, rfl, h₂⟩

theorem finishBecause_run (hf : e.Frames Guards) (hl : lease.owner = .idleExploration) (entry : String)
    {termination : IdleTermination} (hn : termination ≠ .taskCompleted ∧ termination ≠ .missionStale)
    (hg : Going e b lease before s) {P : α → TaskState σ → Prop} :
    Triple (e.finishBecause lease goal entry termination) s (TurnLeft e b lease before k P)
      (fun _ s' => Left e b lease before s') := by
  refine (finishBecause_ends hf hl entry hn hg.toClosing).mono ?_ fun _ _ h => h.1.left
  rintro _ s' ⟨r, rfl, h⟩
  exact h

theorem retryBecause_run (hf : e.Frames Guards) (hl : lease.owner = .idleExploration) (entry : String)
    (hg : Going e b lease before s) (hk : s.staleReplans = k) {P : α → TaskState σ → Prop} :
    Triple (e.retryBecause b lease goal entry) s (TurnLeft e b lease before k P)
      (fun _ s' => Left e b lease before s') := by
  refine log_bind fun s₁ h₁ => ?_
  have hg₁ := hg.rest hl h₁
  refine Triple.step get_run (Triple.ite (fun _ => ?_) fun hmore => ?_)
  · refine Triple.bind ((finishState_run hf hl goal (by simp) hg₁.toClosing).mono (fun _ _ h => h)
      fun _ _ h => h.1.left) fun r s₂ h₂ => Triple.pure h₂
  · refine Triple.modify_bind (Triple.pure ⟨hg₁.update rfl ⟨rfl, rfl, rfl, rfl⟩ hg₁.used.planner ?_ hg₁.shown, ?_⟩)
    · show s₁.staleReplans + 1 ≤ min _ _
      omega
    · show s₁.staleReplans + 1 = k + 1
      rw [h₁.staleReplans, hk]

structure Selecting (e : IdleExplorationService σ) (b : TaskBudget) (lease : GoalLease) (before : List Applied)
    (k n : Nat) (s : TaskState σ) : Prop where
  going : Going e b lease before s
  stale : s.staleReplans = k
  calls : s.plannerCalls = n
  snapshot : s.snapshot ≠ none

theorem Selecting.rest (hl : lease.owner = .idleExploration) (h : Selecting e b lease before k n s)
    (hr : Rest s s') : Selecting e b lease before k n s' :=
  ⟨h.going.rest hl hr, hr.staleReplans.trans h.stale, hr.plannerCalls.trans h.calls, hr.snapshot ▸ h.snapshot⟩

abbrev Chooses (e : IdleExplorationService σ) (b : TaskBudget) (lease : GoalLease) (before : List Applied)
    (k n : Nat) (x : Task σ (Turn α)) (s : TaskState σ) : Prop :=
  Triple x s (TurnLeft e b lease before k fun _ s' => s'.plannerCalls = n ∧ s'.snapshot ≠ none)
    (fun _ s' => Left e b lease before s')

theorem generateMenu_rest (hf : e.Frames Guards) (snapshot : NavigationSnapshot) (captured until' : Int) :
    Keeps Rest (e.generateMenu snapshot captured until') := by
  refine Keeps.bind (newId_rest hf _) fun id => Keeps.bind (ask_rest (hf.capture _ _ _ _)) fun observation => ?_
  refine Keeps.bind (Keeps.modify fun _ => ?_) fun _ => Keeps.bind (newId_rest hf _) fun id => ?_
  · exact ⟨refl_of Respects _, ⟨[], rfl, rfl⟩, rfl, rfl, rfl, rfl, rfl, rfl, rfl, rfl⟩
  refine Keeps.bind (ask_rest (hf.generate _ _ _)) fun candidates => Keeps.bind (Keeps.modify fun _ => ?_) fun _ =>
    Keeps.pure _
  exact ⟨refl_of Respects _, ⟨[], rfl, rfl⟩, rfl, rfl, rfl, rfl, rfl, rfl, rfl, rfl⟩

theorem observeMenu_run (hf : e.Frames Guards) (hl : lease.owner = .idleExploration)
    (hg : Going e b lease before s) :
    Triple (e.observeMenu b lease goal) s
      (TurnLeft e b lease before s.staleReplans fun _ s' => s'.plannerCalls = s.plannerCalls ∧ s'.snapshot ≠ none)
      (fun _ s' => Going e b lease before s' ∨ Returned e b lease before s' ∧ Quiet before s') := by
  refine Triple.frame_bind (ask_rest (hf.navigation.observe goal)) (fun _ _ h => .inl (hg.rest hl h)) fun snapshot s₁ h₁ => ?_
  have hg₁ := hg.rest hl h₁
  refine Triple.modify_bind ?_
  have hs₂ : Selecting e b lease before s.staleReplans s.plannerCalls
      { s₁ with snapshot := some snapshot, shown := true } :=
    ⟨hg₁.update rfl ⟨rfl, rfl, rfl, rfl⟩ hg₁.used.planner hg₁.used.stale rfl, h₁.staleReplans, h₁.plannerCalls, nofun⟩
  refine Triple.frame_bind (offerObservation_rest hf snapshot) (fun _ _ h => .inl (hs₂.rest hl h).going) fun _ s₃ h₃ => ?_
  have hs₃ := hs₂.rest hl h₃
  refine Triple.failIf (fun _ => .inl hs₃.going) fun _ => ?_
  refine Triple.frame_bind (nowMs_rest hf) (fun _ _ h => .inl (hs₃.rest hl h).going) fun captured s₄ h₄ => ?_
  have hs₄ := hs₃.rest hl h₄
  refine Triple.ite (fun _ => ?_) fun _ => ?_
  · refine (finishBecause_ends hf hl _ (by simp) hs₄.going.toClosing).mono ?_ fun _ _ h => .inr h
    rintro _ s' ⟨r, rfl, h⟩
    exact h
  · refine Triple.bind (f := fun menu => pure (Turn.go menu)) ((generateMenu_rest hf snapshot _ _).triple s₄ |>.mono
      (fun _ _ h => h) fun _ _ h => .inl (hs₄.rest hl h).going) fun menu s₅ h₅ => Triple.pure ?_
    have hs₅ := hs₄.rest hl h₅
    exact ⟨hs₅.going, hs₅.stale, hs₅.calls, hs₅.snapshot⟩

theorem contextFrom_run (hf : e.Frames Guards) (hl : lease.owner = .idleExploration)
    (h : Selecting e b lease before k n s) (menu : Menu) :
    Chooses e b lease before k n (e.contextFrom b lease goal menu) s := by
  refine Triple.step get_run (Triple.ite (fun _ => finishBecause_run hf hl _ (by simp) h.going) fun _ => ?_)
  refine Triple.bind (exposed_run hl h.going (newId_rest hf _) _) fun id s₁ h₁ => ?_
  have hs₁ := h.rest hl h₁
  refine Triple.step get_run (Triple.bind (f := fun context => pure (Turn.go context))
    (exposed_run hl hs₁.going (checked_rest _) _) fun context s₂ h₂ => Triple.pure ?_)
  have hs₂ := hs₁.rest hl h₂
  exact ⟨hs₂.going, hs₂.stale, hs₂.calls, hs₂.snapshot⟩

theorem buildSelectionContext_run (hf : e.Frames Guards) (hl : lease.owner = .idleExploration)
    (hg : Going e b lease before s) :
    Chooses e b lease before s.staleReplans s.plannerCalls (e.buildSelectionContext b lease goal) s := by
  refine Triple.bind (Triple.attempt (P := fun r s' => match r with
    | .ok t => TurnLeft e b lease before s.staleReplans
        (fun _ s' => s'.plannerCalls = s.plannerCalls ∧ s'.snapshot ≠ none) t s'
    | .error _ => Going e b lease before s' ∨ Returned e b lease before s' ∧ Quiet before s')
    (observeMenu_run hf hl hg)) ?_
  rintro (error | menu | _ | r) s₁ h₁
  · rcases h₁ with hg₁ | ⟨hret, hquiet⟩
    · exact finishBecause_run hf hl _ (by simp) hg₁
    · refine log_bind fun s₂ h₂ => Triple.bind ((finishState_again hf hl goal (by simp) (hret.rest h₂)
        (hquiet.books h₂.sameBooks)).mono (fun _ _ h => h) fun _ _ h => h.1.left) fun r s₃ h₃ => Triple.pure h₃
  · obtain ⟨hg₁, hk, hplanner, hsnap⟩ := h₁
    exact contextFrom_run hf hl ⟨hg₁, hk, hplanner, hsnap⟩ menu
  · exact Triple.pure h₁
  · exact Triple.pure h₁

/-- What a step of the selection leaves, with the snapshot it has seen. -/
abbrev Selects (e : IdleExplorationService σ) (b : TaskBudget) (lease : GoalLease) (before : List Applied)
    (k : Nat) (x : Task σ (Turn α)) (s : TaskState σ) : Prop :=
  Triple x s (TurnLeft e b lease before k fun _ s' => s'.snapshot ≠ none) (fun _ s' => Left e b lease before s')

theorem acceptSelection_rest (hf : e.Frames Guards) (context : InterestSelectionContext) (payload : List UInt8) :
    Keeps Rest (e.acceptSelection context payload) :=
  Keeps.bind (Keeps.ofExcept _) fun _ => Keeps.bind (nowMs_rest hf) fun _ => Keeps.bind (checked_rest _) fun _ =>
    Keeps.pure _

theorem completedSelection_run (hf : e.Frames Guards) (hl : lease.owner = .idleExploration)
    (h : Selecting e b lease before k n s) (context : InterestSelectionContext) (payload : List UInt8) :
    Selects e b lease before k (e.completedSelection b lease goal context payload) s := by
  refine Triple.bind ((acceptSelection_rest hf context payload).attempted s) fun accepted s₁ h₁ => ?_
  have hs₁ := h.rest hl h₁
  match accepted with
  | .ok selection => exact Triple.pure ⟨hs₁.going, hs₁.stale, hs₁.snapshot⟩
  | .error (.contract error) =>
    refine Triple.ite (fun _ => ?_) fun _ => ?_
    · exact retryBecause_run hf hl _ hs₁.going hs₁.stale
    · exact finishBecause_run hf hl _ (by simp) hs₁.going
  | .error .other => exact finishBecause_run hf hl _ (by simp) hs₁.going

theorem requestSelection_run (hf : e.Frames Guards) (hl : lease.owner = .idleExploration)
    (h : Selecting e b lease before k n s) (hn : n < b.remainingPlannerCalls) (context : InterestSelectionContext) :
    Selects e b lease before k (e.requestSelection b lease goal context) s := by
  refine log_bind fun s₁ h₁ => Triple.modify_bind ?_
  have hs₁ := h.rest hl h₁
  have hg₁ := hs₁.going
  have hs₂ : Selecting e b lease before k (n + 1) { s₁ with plannerCalls := s₁.plannerCalls + 1 } := by
    refine ⟨hg₁.update rfl ⟨rfl, rfl, rfl, rfl⟩ ?_ hg₁.used.stale hg₁.shown, hs₁.stale,
      congrArg (· + 1) hs₁.calls, hs₁.snapshot⟩
    show s₁.plannerCalls + 1 ≤ _
    rw [hs₁.calls]
    exact hn
  refine Triple.bind (exposed_run hl hs₂.going (ask_rest (hf.selectorCall _ _ _)) _) fun outcome s₃ h₃ => ?_
  have hs₃ := hs₂.rest hl h₃
  cases outcome with
  | cancelled => exact finishBecause_run hf hl _ (by simp) hs₃.going
  | deadlineExpired => exact retryBecause_run hf hl _ hs₃.going hs₃.stale
  | busy => exact finishBecause_run hf hl _ (by simp) hs₃.going
  | failed => exact finishBecause_run hf hl _ (by simp) hs₃.going
  | completed payload => exact completedSelection_run hf hl hs₃ context payload

theorem freshSelectionSnapshot_run (hf : e.Frames Guards) (hl : lease.owner = .idleExploration)
    (hg : Going e b lease before s) (context : InterestSelectionContext) :
    Triple (e.freshSelectionSnapshot goal context) s (fun _ s' => Rest s s') (fun _ s' => Left e b lease before s') := by
  refine Triple.bind (exposed_run hl hg (nowMs_rest hf) _) fun now s₁ h₁ => ?_
  refine Triple.ite (fun _ => Triple.pure h₁) fun _ => ?_
  refine Triple.bind ((ask_rest (hf.navigation.observe goal)).attempted s₁) fun observed s₂ h₂ => ?_
  have hr₂ := trans_of Rest h₁ h₂
  cases observed with
  | error error => exact Triple.pure hr₂
  | ok snapshot =>
    refine Triple.bind ((offerObservation_run hf snapshot s₂).mono (fun _ _ h => h) fun _ _ h => h.elim) ?_
    exact fun _ s₃ h₃ => Triple.pure (trans_of Rest hr₂ h₃)

theorem ifFresh_run (hf : e.Frames Guards) (hl : lease.owner = .idleExploration)
    (h : Selecting e b lease before k n s) (context : InterestSelectionContext) (preempted stale : String)
    {next : Task σ (Turn α)} (hnext : ∀ s', Selecting e b lease before k n s' → Selects e b lease before k next s') :
    Selects e b lease before k (e.ifFresh b lease goal context preempted stale next) s := by
  refine isCurrentIdle_bind hf fun current s₁ h₁ => ?_
  have hs₁ := h.rest hl h₁
  refine Triple.ite (fun _ => ?_) fun _ => finishBecause_run hf hl _ (by simp) hs₁.going
  refine Triple.bind (freshSelectionSnapshot_run hf hl hs₁.going context) fun fresh s₂ h₂ => ?_
  have hs₂ := hs₁.rest hl h₂
  cases fresh with
  | none => exact retryBecause_run hf hl _ hs₂.going hs₂.stale
  | some fresh =>
    have hg₂ := hs₂.going
    refine Triple.modify_bind (hnext _ ⟨hg₂.update rfl ⟨rfl, rfl, rfl, rfl⟩ hg₂.used.planner hg₂.used.stale ?_,
      hs₂.stale, hs₂.calls, nofun⟩)
    show s₂.shown = true
    rw [hg₂.shown]
    exact Option.isSome_iff_ne_none.mpr hs₂.snapshot

theorem budgetSpent_run (hf : e.Frames Guards) (hl : lease.owner = .idleExploration)
    (hg : Going e b lease before s) :
    Triple (e.budgetSpent b) s (fun _ s' => Rest s s') (fun _ s' => Left e b lease before s') := by
  refine Triple.ite (fun _ => Triple.pure (refl_of Rest s)) fun _ => ?_
  exact Triple.bind (exposed_run hl hg (nowMs_rest hf) _) fun _ _ h => Triple.pure h

theorem attemptCandidate_run (hf : e.Frames Guards) (hl : lease.owner = .idleExploration)
    (h : Selecting e b lease before k n s) (context : InterestSelectionContext)
    (selected : ResolvedExplorationCandidate) :
    Selects e b lease before k (e.attemptCandidate b lease goal context selected) s := by
  refine Triple.bind (budgetSpent_run hf hl h.going) fun spent s₁ h₁ => ?_
  have hs₁ := h.rest hl h₁
  refine Triple.ite (fun _ => finishBecause_run hf hl _ (by simp) hs₁.going) fun _ => ?_
  refine Triple.bind (exposed_run hl hs₁.going (ask_rest (hf.recordAttempt _)) _) fun _ s₂ h₂ => ?_
  exact ifFresh_run hf hl (hs₁.rest hl h₂) context _ _ fun s' hs' => Triple.pure ⟨hs'.going, hs'.stale, hs'.snapshot⟩

theorem resolveSelected_run (hf : e.Frames Guards) (hl : lease.owner = .idleExploration)
    (h : Selecting e b lease before k n s) (context : InterestSelectionContext) (candidateId : String) :
    Selects e b lease before k (e.resolveSelected b lease goal context candidateId) s := by
  have hmark : Rest s { s with selectedCandidateId := some candidateId } :=
    ⟨refl_of Respects _, ⟨[], rfl, rfl⟩, rfl, rfl, rfl, rfl, rfl, rfl, rfl, rfl⟩
  have hs₁ := h.rest hl hmark
  refine Triple.modify_bind (Triple.step get_run ?_)
  refine Triple.bind ((ask_rest (hf.resolve _ candidateId)).attempted _) fun resolved s₂ h₂ => ?_
  have hs₂ := hs₁.rest hl h₂
  match resolved with
  | .ok selected => exact attemptCandidate_run hf hl hs₂ context selected
  | .error (.contract _) => exact finishBecause_run hf hl _ (by simp) hs₂.going
  | .error .other =>
    have hraise : Triple (throw .other : Task σ (Turn SelectedTask)) s₂ (fun _ _ => False) (fun _ s' => s' = s₂) :=
      Triple.throw rfl
    refine Triple.tryCatch (hraise.mono (fun _ _ h => h.elim) fun _ _ h => h) ?_
    rintro error _ rfl
    refine Triple.modify_bind (Triple.throw ⟨⟨hs₂.going.used.planner, hs₂.going.used.stale, hs₂.going.used.within⟩,
      .inr ⟨⟨hs₂.going.held.active, hs₂.going.held.acquired, hs₂.going.held.returned⟩, fun h => nomatch h.escaped⟩⟩)

theorem follow_run (hf : e.Frames Guards) (hl : lease.owner = .idleExploration)
    (h : Selecting e b lease before k n s) (context : InterestSelectionContext) (decision : InterestDecision) :
    Selects e b lease before k (e.follow b lease goal context decision) s := by
  cases decision with
  | hold => exact finishBecause_run hf hl _ (by simp) h.going
  | abort => exact finishBecause_run hf hl _ (by simp) h.going
  | select candidateId => exact resolveSelected_run hf hl h context candidateId

theorem selectFrom_run (hf : e.Frames Guards) (hl : lease.owner = .idleExploration)
    (h : Selecting e b lease before k n s) (hn : n < b.remainingPlannerCalls) (context : InterestSelectionContext) :
    Selects e b lease before k (e.selectFrom b lease goal context) s := by
  refine Triple.bind (requestSelection_run hf hl h hn context) fun selection s₁ h₁ => ?_
  cases selection with
  | retry => exact Triple.pure h₁
  | done r => exact Triple.pure h₁
  | go selection =>
    obtain ⟨hg₁, hk₁, hsnap⟩ := h₁
    refine ifFresh_run hf hl ⟨hg₁, hk₁, rfl, hsnap⟩ context _ _ fun s' hs' => ?_
    exact follow_run hf hl hs' context selection.decision

theorem selectionSpent_run (hf : e.Frames Guards) (hl : lease.owner = .idleExploration)
    (hg : Going e b lease before s) :
    Triple (e.selectionSpent b) s
      (fun spent s' => Rest s s' ∧ (spent = false → s'.plannerCalls < b.remainingPlannerCalls))
      (fun _ s' => Left e b lease before s') := by
  refine Triple.bind (exposed_run hl hg (nowMs_rest hf) _) fun now s₁ h₁ => ?_
  refine Triple.step get_run (Triple.pure ⟨h₁, fun hspent => ?_⟩)
  simp only [Bool.or_eq_false_iff, decide_eq_false_iff_not, Nat.not_le] at hspent
  exact hspent.2

theorem selectTurn_run (hf : e.Frames Guards) (hl : lease.owner = .idleExploration)
    (hg : Going e b lease before s) :
    Selects e b lease before s.staleReplans (e.selectTurn b lease goal) s := by
  refine isCurrentIdle_bind hf fun current s₁ h₁ => ?_
  have hg₁ := hg.rest hl h₁
  refine Triple.ite (fun _ => ?_) fun _ => finishBecause_run hf hl _ (by simp) hg₁
  refine Triple.bind (selectionSpent_run hf hl hg₁) ?_
  rintro spent s₂ ⟨h₂, hspent⟩
  have hg₂ := hg₁.rest hl h₂
  refine Triple.ite (fun _ => finishBecause_run hf hl _ (by simp) hg₂) fun hmore => ?_
  have hstale : s₂.staleReplans = s.staleReplans := h₂.staleReplans.trans h₁.staleReplans
  refine Triple.bind (buildSelectionContext_run hf hl hg₂) fun context s₃ h₃ => ?_
  rw [← hstale]
  cases context with
  | retry => exact Triple.pure h₃
  | done r => exact Triple.pure h₃
  | go context =>
    obtain ⟨hg₃, hk₃, hcalls, hsnap⟩ := h₃
    exact selectFrom_run hf hl ⟨hg₃, hk₃, hcalls, hsnap⟩ (hspent (by simpa using hmore)) context

theorem selectTask_run (hf : e.Frames Guards) (hl : lease.owner = .idleExploration) (turns : Nat)
    (hg : Going e b lease before s) (ht : e.staleAllowed b < s.staleReplans + turns) :
    Triple (e.selectTask b lease goal turns) s
      (fun t s' => match t with
        | .inl _ => Going e b lease before s' ∧ s'.snapshot ≠ none
        | .inr r => Left e b lease before s' ∧ Reports lease before r s' ∧ ¬ GoesOn r)
      (fun _ s' => Left e b lease before s') := by
  induction turns generalizing s with
  | zero =>
    have := hg.used.stale
    omega
  | succ turns ih =>
    refine Triple.bind (selectTurn_run hf hl hg) fun turn s₁ h₁ => ?_
    cases turn with
    | go selected => exact Triple.pure ⟨h₁.1, h₁.2.2⟩
    | done r => exact Triple.pure h₁
    | retry =>
      obtain ⟨hg₁, hk⟩ := h₁
      exact ih hg₁ (by omega)

-- Mission

theorem missionRunner_frames (hf : e.Frames Guards) {r : MissionRunner (IdleWorld σ)}
    (h : e.missionRunner lease limits deadline = .ok r) : r.navigation.Frames Guards ∧ r.missionLimits = limits := by
  unfold missionRunner at h
  split at h
  · cases h
    refine ⟨⟨hf.navigation.observe, hf.navigation.apply, hf.navigation.publish, hf.navigation.hook, ?_, ?_,
      hf.navigation.drain, hf.navigation.now, hf.navigation.id, hf.navigation.supervisor⟩, rfl⟩
    · exact fun snapshot => Keeps.tryCatch (hf.navigation.sink snapshot) fun _ => Keeps.pure ()
    · refine Keeps.bind Keeps.get fun s => Keeps.ite (Keeps.pure _) ?_
      exact Keeps.bind (nowShared_guards hf) fun _ => Keeps.pure _
  · cases h

/-- A mission that returned, with the books as it left them. -/
structure Executed (e : IdleExplorationService σ) (b : TaskBudget) (lease : GoalLease) (before : List Applied)
    (m : MissionResult) (s : TaskState σ) : Prop where
  used : Used e b before s
  held : Held lease s
  clean : Clean s
  generation : lease.generation ≤ (authorityOf s).generation
  unraised : s.missionsRaised = 0
  charged : ∃ new, s.episode.applied = new ++ before ∧ ∃ refused counted, drives new = refused ++ counted ∧
    m.totals.actions = counted.length ∧ m.totals.totalMotionMs = motionOf counted ∧
    ∀ a ∈ refused, NavigationEpisode.Refused a ∧ m.completed = false ∧ MissionRunner.Broken m.termination
  stopped : StopSince before s m.terminalStopVerified

theorem Going.moved {new : List Applied} {t : EpisodeState (IdleWorld σ)} (hl : lease.owner = .idleExploration)
    (hg : Going e b lease before s) (ht : NavigationEpisode.Grown Guards s.episode new t) (hw : WithinBudget b new) :
    Used e b before { s with episode := t } ∧ Held lease { s with episode := t } ∧
      lease.generation ≤ (authorityOf { s with episode := t }).generation ∧
      ∃ all, t.applied = all ++ before ∧ drives all = drives new ∧ ∃ quiet, all = new ++ quiet := by
  obtain ⟨quiet, happ, hd⟩ := hg.quiet hg.unraised
  have hall : drives (new ++ quiet) = drives new := by rw [MissionRunner.drives_append, hd, List.append_nil]
  have happ' : t.applied = (new ++ quiet) ++ before := by rw [ht.applied, happ, List.append_assoc]
  refine ⟨⟨hg.used.planner, hg.used.stale, new ++ quiet, happ', ?_⟩,
    ⟨ht.frame.active lease hl hg.held.active, hg.held.acquired, hg.held.returned⟩,
    hg.generation.trans ht.frame.generation, new ++ quiet, happ', hall, quiet, rfl⟩
  simpa only [WithinBudget, hall] using hw

theorem runMission_run (hf : e.Frames Guards) (hl : lease.owner = .idleExploration)
    (hg : Going e b lease before s) (hsnap : s.snapshot ≠ none) (plan : MissionPlan) (deadline : Int)
    (ha : 0 < b.remainingActions) (hm : 0 < b.remainingMotionMs) :
    Triple (e.runMission b lease plan deadline ha hm) s (fun m s' => Executed e b lease before m s')
      (fun _ s' => Closing e b lease before { s' with missionsRaised := s'.missionsRaised + 1 }) := by
  have raised : ∀ {t : TaskState σ}, Going e b lease before t →
      Closing e b lease before { t with missionsRaised := t.missionsRaised + 1 } := fun h =>
    ⟨⟨h.used.planner, h.used.stale, h.used.within⟩, ⟨h.held.active, h.held.acquired, h.held.returned⟩,
      h.generation, h.escaped, h.shown, fun h => absurd h (Nat.succ_ne_zero _)⟩
  have hdrain : Keeps Rest (onEpisode (NavigationEpisode.reading e.navigation.drain) : Task σ _) :=
    fun t => ⟨hf.navigation.drain t.episode.shared, ⟨[], rfl, rfl⟩, rfl, rfl, rfl, rfl, rfl, rfl, rfl, rfl⟩
  refine Triple.frame_bind hdrain (fun _ _ h => raised (hg.rest hl h)) fun _ s₁ h₁ => ?_
  refine Triple.frame_bind (nowMs_rest hf) (fun _ _ h => raised ((hg.rest hl h₁).rest hl h)) fun now s₂ h₂ => ?_
  have hg₂ := (hg.rest hl h₁).rest hl h₂
  have hsnap₂ : s₂.snapshot ≠ none := by rwa [h₂.snapshot, h₁.snapshot]
  rcases hrunner : e.missionRunner lease (e.remainingMissionLimits b.remainingActions b.remainingMotionMs
      (max 1 (deadline - now)) ha hm) deadline with error | runner
  · exact Triple.of_run (by simp only [hrunner, checked]; rfl) (raised hg₂)
  obtain ⟨hframes, hlimits⟩ := missionRunner_frames hf hrunner
  have hwithin : ∀ {new : List Applied}, runner.WithinLimits new → WithinBudget b new := by
    rintro new ⟨hA, hM⟩
    rw [hlimits] at hA hM
    simp only [remainingMissionLimits] at hA hM
    exact ⟨by omega, fun _ => by omega⟩
  refine Triple.step (a := runner) (by simp only [hrunner, checked]; rfl) (log_bind fun s₃ h₃ => ?_)
  have hg₃ := hg₂.rest hl h₃
  have hrun : Triple (onEpisode (runner.run plan) : Task σ _) s₃
      (fun m s' => ∃ t new, s' = { s₃ with episode := t } ∧ NavigationEpisode.Grown Guards s₃.episode new t ∧
        runner.Spent m new)
      (fun _ s' => ∃ t new, s' = { s₃ with episode := t } ∧ NavigationEpisode.Grown Guards s₃.episode new t ∧
        runner.WithinLimits new) := by
    refine Triple.onPart ((MissionRunner.run_spent hframes plan s₃.episode).mono ?_ ?_)
    · rintro m t ⟨new, hgrown, hspent⟩
      exact ⟨t, new, rfl, hgrown, hspent⟩
    · rintro _ t ⟨new, hgrown, hspent⟩
      exact ⟨t, new, rfl, hgrown, hspent⟩
  refine Triple.bind (hrun.mono (fun _ _ h => h) ?_) ?_
  · rintro _ _ ⟨t, new, rfl, hgrown, hw⟩
    obtain ⟨hused, hheld, hgen, -⟩ := hg₃.moved hl hgrown (hwithin hw)
    exact ⟨⟨hused.planner, hused.stale, hused.within⟩, ⟨hheld.active, hheld.acquired, hheld.returned⟩, hgen,
      hg₃.escaped, hg₃.shown, fun h => absurd h (Nat.succ_ne_zero _)⟩
  rintro m _ ⟨t, new, rfl, hgrown, hspent⟩
  obtain ⟨hused, hheld, hgen, all, happ, hdrives, hall⟩ := hg₃.moved hl hgrown (hwithin hspent.within)
  have hclean : Clean { s₃ with episode := t } := by
    refine ⟨hg₃.escaped, ?_⟩
    show s₃.shown = true
    rw [hg₃.shown]
    exact Option.isSome_iff_ne_none.mpr (by rwa [h₃.snapshot])
  refine log_bind fun s₄ h₄ => Triple.pure ⟨hused.rest h₄, hheld.rest hl h₄, hclean.rest h₄,
    hgen.trans h₄.authority.generation, h₄.missionsRaised.trans hg₃.unraised, ?_, fun hv => ?_⟩
  · obtain ⟨more, happ₄, hd₄⟩ := h₄.applied
    refine ⟨more ++ all, ?_, ?_⟩
    · rw [happ₄]
      exact (congrArg (more ++ ·) happ).trans (List.append_assoc ..).symm
    · rw [MissionRunner.drives_append, hd₄, List.nil_append, hdrives]
      exact hspent.counted
  · obtain ⟨quiet, rfl⟩ := hall
    obtain ⟨more, happ₄, hd₄⟩ := h₄.applied
    refine ⟨more ++ (new ++ quiet), ?_, ((hspent.stopped hv).append quiet).quiet hd₄⟩
    rw [happ₄]
    exact (congrArg (more ++ ·) happ).trans (List.append_assoc ..).symm

def Dispatched (e : IdleExplorationService σ) (b : TaskBudget) (lease : GoalLease) (before : List Applied) :
    Turn MissionExecution → TaskState σ → Prop
  | .go execution, s => Executed e b lease before execution.mission s
  | .retry, _ => False
  | .done r, s => Left e b lease before s ∧ Reports lease before r s ∧ ¬ GoesOn r

theorem finishBecause_dispatched (hf : e.Frames Guards) (hl : lease.owner = .idleExploration) (entry : String)
    {termination : IdleTermination} (hn : termination ≠ .taskCompleted ∧ termination ≠ .missionStale)
    (hc : Closing e b lease before s) :
    Triple (e.finishBecause lease goal entry termination) s (Dispatched e b lease before)
      (fun _ s' => Left e b lease before s') := by
  refine (finishBecause_ends hf hl entry hn hc).mono ?_ fun _ _ h => h.1.left
  rintro _ s' ⟨r, rfl, h⟩
  exact h

theorem executePlan_run (hf : e.Frames Guards) (hl : lease.owner = .idleExploration)
    (hg : Going e b lease before s) (hsnap : s.snapshot ≠ none) (selected : SelectedTask)
    (snapshot : NavigationSnapshot) (ha : 0 < b.remainingActions) (hm : 0 < b.remainingMotionMs) :
    Triple (e.executePlan b lease goal selected snapshot ha hm) s (Dispatched e b lease before)
      (fun _ s' => Left e b lease before s') := by
  refine Triple.bind (exposed_run hl hg (newId_rest hf _) _) fun planId s₁ h₁ => ?_
  have hg₁ := hg.rest hl h₁
  refine Triple.bind (exposed_run hl hg₁ (checked_rest _) _) fun plan s₂ h₂ => ?_
  have hg₂ := hg₁.rest hl h₂
  have hsnap₂ : s₂.snapshot ≠ none := by rwa [h₂.snapshot, h₁.snapshot]
  refine Triple.bind (Triple.attempt (P := fun r s' => Prog.Ended (fun m => Executed e b lease before m s')
    (fun _ => Closing e b lease before { s' with missionsRaised := s'.missionsRaised + 1 }) r)
    (runMission_run hf hl hg₂ hsnap₂ plan _ ha hm)) ?_
  rintro (error | mission) s₃ h₃
  · exact Triple.modify_bind (finishBecause_dispatched hf hl _ (by simp) h₃)
  · exact Triple.pure h₃

theorem dispatchMission_run (hf : e.Frames Guards) (hl : lease.owner = .idleExploration)
    (hg : Going e b lease before s) (hsnap : s.snapshot ≠ none) (selected : SelectedTask) :
    Triple (e.dispatchMission b lease goal selected) s (Dispatched e b lease before)
      (fun _ s' => Left e b lease before s') := by
  unfold dispatchMission
  split
  next h =>
    refine Triple.bind (Q := fun _ s' => Rest s s') ?_ fun late s₁ h₁ => ?_
    · refine Triple.bind (exposed_run hl hg (nowMs_rest hf) _) fun now s₁ h₁ => ?_
      refine Triple.ite (fun _ => Triple.pure h₁) fun _ => ?_
      refine Triple.bind (exposed_run hl (hg.rest hl h₁) (nowMs_rest hf) _) fun _ s₂ h₂ => ?_
      exact Triple.pure (trans_of Rest h₁ h₂)
    have hg₁ := hg.rest hl h₁
    refine Triple.ite (fun _ => finishBecause_dispatched hf hl _ (by simp) hg₁.toClosing) fun _ => ?_
    refine Triple.step get_run ?_
    cases hsnap₁ : s₁.snapshot with
    | none => exact absurd (h₁.snapshot ▸ hsnap₁) hsnap
    | some snapshot => exact executePlan_run hf hl hg₁ (by simp [hsnap₁]) selected snapshot h.1 h.2
  next => exact finishBecause_dispatched hf hl _ (by simp) hg.toClosing

-- The end of a task with a mission

theorem terminationOf_broken {m : MissionResult} (h : MissionRunner.Broken m.termination) (plan : MissionPlan) :
    (terminationOf plan m).1 ≠ .taskCompleted ∧ (terminationOf plan m).1 ≠ .missionStale := by
  rcases h with h | h <;> simp [terminationOf, RejectedAsStale, h]

theorem classify_run (hf : e.Frames Guards) (selected : SelectedTask) (execution : MissionExecution) :
    Triple (e.classify lease selected execution) s
      (fun v s' => Rest s s' ∧ (execution.mission.completed = false → MissionRunner.Broken execution.mission.termination →
        v.1 ≠ .taskCompleted ∧ v.1 ≠ .missionStale))
      (fun _ s' => Rest s s') := by
  refine Triple.ite (fun hcompleted => ?_) fun _ => Triple.ite (fun haborted => ?_) fun _ => ?_
  · refine Triple.frame_bind (ask_rest (hf.recordCompleted _)) (fun _ _ h => h) fun _ s₁ h₁ => ?_
    refine Triple.frame_bind (ask_rest (hf.seed _)) (fun _ _ h => trans_of Rest h₁ h) fun _ s₂ h₂ => ?_
    refine Triple.pure ⟨trans_of Rest h₁ h₂, fun hnot _ => ?_⟩
    rw [hcompleted.1] at hnot
    cases hnot
  · have hbroken : ¬ MissionRunner.Broken execution.mission.termination := by
      rw [haborted]
      rintro (h | h) <;> cases h
    refine Triple.step get_run (Triple.ite (fun _ => ?_) fun _ => ?_)
    · exact Triple.pure ⟨refl_of Rest s, fun _ h => absurd h hbroken⟩
    · refine Triple.frame_bind (nowMs_rest hf) (fun _ _ h => h) fun now s₁ h₁ => ?_
      exact Triple.ite (fun _ => Triple.pure ⟨h₁, fun _ h => absurd h hbroken⟩)
        fun _ => Triple.pure ⟨h₁, fun _ h => absurd h hbroken⟩
  · exact Triple.pure ⟨refl_of Rest s, fun _ h => terminationOf_broken h _⟩

theorem classifyMission_run (hf : e.Frames Guards) (hl : lease.owner = .idleExploration) (selected : SelectedTask)
    (execution : MissionExecution) (h : Executed e b lease before execution.mission s) :
    Triple (e.classifyMission lease selected execution) s
      (fun r s' => Left e b lease before s' ∧ Reports lease before r s') (fun _ s' => Left e b lease before s') := by
  refine Triple.bind ((release_ends hf hl h.used h.held h.clean h.generation h.stopped).mono (fun _ _ h => h)
    fun _ _ h => h.elim) ?_
  rintro safe s₁ ⟨hret, hbooks⟩
  have hverdict : Triple (e.verdictOf safe lease selected execution) s₁
      (fun v s' => Rest s₁ s' ∧ (execution.mission.completed = false → MissionRunner.Broken execution.mission.termination →
        v.1 ≠ .taskCompleted ∧ v.1 ≠ .missionStale))
      (fun _ s' => Rest s₁ s') :=
    Triple.ite (fun _ => classify_run hf selected execution)
      fun _ => Triple.pure ⟨refl_of Rest s₁, fun _ _ => ⟨nofun, nofun⟩⟩
  refine Triple.bind (hverdict.mono (fun _ _ h => h) fun _ _ hr => (hret.rest hr).left) ?_
  rintro verdict s₂ ⟨h₂, hbroken⟩
  refine log_bind fun s₃ h₃ => Triple.step get_run (Triple.pure ⟨((hret.rest h₂).rest h₃).left, rfl, rfl, rfl,
    fun _ => ?_, fun hraised => ?_⟩)
  · obtain ⟨new, happ, refused, counted, hsplit, hA, hM, hrefused⟩ := h.charged
    obtain ⟨more, happ', hd⟩ := (hbooks.trans (trans_of Rest h₂ h₃).sameBooks).applied
    refine ⟨more ++ new, by rw [happ', happ, List.append_assoc], refused, counted, ?_, hA, hM, fun a ha => ?_⟩
    · rw [MissionRunner.drives_append, hd, List.nil_append, hsplit]
    · obtain ⟨hr, hcompleted, hbr⟩ := hrefused a ha
      obtain ⟨hn₁, hn₂⟩ := hbroken hcompleted hbr
      exact ⟨hr, fun hgo => hgo.elim hn₁ hn₂⟩
  · rw [h₃.missionsRaised, h₂.missionsRaised, hbooks.missionsRaised] at hraised
    exact absurd h.unraised hraised

-- The task

theorem boundaryGoal_ok {generation : Nat} (h : GoalLeaseCoordinator.checkLease generation lease.goalEpoch
    lease.planRevision = .ok ()) (hg : lease.generation = generation) : ∃ goal, boundaryGoal lease = .ok goal := by
  simp only [GoalLeaseCoordinator.checkLease, bind_eq_ok] at h
  obtain ⟨_, hgen, _, hepoch, _, hrevision, -⟩ := h
  have hbound := (integer_ok hgen).2
  have hid : identifierOk ("idle-boundary-" ++ toString lease.generation) := by
    refine identifierOk_numbered (by decide) _ ?_ (by decide)
    simp only [Between, counterMax] at hbound
    omega
  unfold boundaryGoal
  rw [dif_pos hid, dif_pos (integer_ok hepoch).2, dif_pos (integer_ok hrevision).2]
  exact ⟨_, rfl⟩

theorem tryAcquireIdle_lease {c : GoalLeaseCoordinator} (h : c.tryAcquireIdle.1 = .ok (some lease)) :
    lease.owner = .idleExploration ∧ c.tryAcquireIdle.2.active = some lease ∧
      lease.generation ≤ c.tryAcquireIdle.2.generation ∧ ∃ goal, boundaryGoal lease = .ok goal := by
  unfold GoalLeaseCoordinator.tryAcquireIdle at h ⊢
  split at h
  · cases h
  next hn =>
    rw [if_neg hn]
    simp only [GoalLeaseCoordinator.allocate] at h ⊢
    split at h
    · cases h
    next hcheck =>
      cases h
      refine ⟨rfl, rfl, Nat.le_refl _, ?_⟩
      exact boundaryGoal_ok hcheck rfl

theorem withLease_run (hf : e.Frames Guards) (hl : lease.owner = .idleExploration)
    (hgoal : ∃ goal, boundaryGoal lease = .ok goal) (hg : Going e b lease before s) (hs : s.staleReplans = 0) :
    Triple (e.withLease b lease) s (fun r s' => Left e b lease before s' ∧ Reports lease before r s')
      (fun _ s' => Left e b lease before s') := by
  obtain ⟨goal, hgoal⟩ := hgoal
  have hrun : (checked (boundaryGoal lease) : Task σ _) s = (.ok goal, s) := by rw [hgoal]; rfl
  refine Triple.step hrun ?_
  have hturns : e.staleAllowed b < s.staleReplans + e.selectionTurns b := by
    simp only [staleAllowed, selectionTurns]
    omega
  refine Triple.bind (selectTask_run hf hl _ hg hturns) fun t s₁ h₁ => ?_
  cases t with
  | inr r => exact Triple.pure ⟨h₁.1, h₁.2.1⟩
  | inl selected =>
    refine Triple.bind (dispatchMission_run hf hl h₁.1 h₁.2 selected) fun turn s₂ h₂ => ?_
    cases turn with
    | go execution => exact classifyMission_run hf hl selected execution h₂
    | retry => exact h₂.elim
    | done r => exact Triple.pure ⟨h₂.1, h₂.2.1⟩

structure Fresh (s : TaskState σ) : Prop where
  plannerCalls : s.plannerCalls = 0
  staleReplans : s.staleReplans = 0
  snapshot : s.snapshot = none
  acquired : s.acquired = none
  returned : s.returned = []
  escaped : s.escaped = []
  shown : s.shown = false
  missionsRaised : s.missionsRaised = 0

structure Unstarted (s s' : TaskState σ) : Prop where
  applied : s'.episode.applied = s.episode.applied
  acquired : s'.acquired = none
  plannerCalls : s'.plannerCalls = 0
  staleReplans : s'.staleReplans = 0

theorem runTask_run (hf : e.Frames Guards) (hs : Fresh s) :
    Triple (e.runTask b) s
      (fun r s' => (Unstarted s s' ∧ r = { termination := .unavailable, trace := ["IDLE_UNAVAILABLE"] }) ∨
        ∃ lease, Left e b lease s.episode.applied s' ∧ Reports lease s.episode.applied r s')
      (fun _ s' => Unstarted s s' ∨ ∃ lease, Left e b lease s.episode.applied s') := by
  refine Triple.step (onAuthority_run _ s) ?_
  have hunstarted : ∀ c, Unstarted s (e.afterCall s c) := fun _ => ⟨rfl, hs.acquired, hs.plannerCalls, hs.staleReplans⟩
  rcases hacquire : (e.meanwhile s.episode.shared).world.authority.tryAcquireIdle.1 with error | _ | lease
  · exact Triple.of_run rfl (.inl (hunstarted _))
  · exact Triple.of_run rfl (.inl ⟨hunstarted _, rfl⟩)
  obtain ⟨hl, hactive, hgen, hgoal⟩ := tryAcquireIdle_lease hacquire
  have hchecked : ∀ t : TaskState σ, (checked (.ok (some lease)) : Task σ _) t = (.ok (some lease), t) := fun _ => rfl
  have hgoing : Going e b lease s.episode.applied { e.afterCall s
      (e.meanwhile s.episode.shared).world.authority.tryAcquireIdle.2 with acquired := some lease } := by
    have hused : Used e b s.episode.applied { e.afterCall s
        (e.meanwhile s.episode.shared).world.authority.tryAcquireIdle.2 with acquired := some lease } :=
      ⟨hs.plannerCalls.trans_le (Nat.zero_le _), hs.staleReplans.trans_le (Nat.zero_le _), [], rfl,
        Nat.zero_le _, fun h => absurd rfl h⟩
    refine ⟨⟨hused, ⟨hactive, rfl, hs.returned⟩, hgen, hs.escaped, ?_, fun _ => ⟨[], rfl, rfl⟩⟩, hs.missionsRaised⟩
    exact hs.shown.trans (congrArg Option.isSome hs.snapshot).symm
  refine Triple.step (hchecked _) (Triple.modify_bind ?_)
  refine (withLease_run hf hl hgoal hgoing hs.staleReplans).mono ?_ ?_
  · exact fun r s' h => .inr ⟨lease, h⟩
  · exact fun _ s' h => .inr ⟨lease, h⟩

/-- A task ends its lease exactly in the runs in which no call outside of every
`try` raises and the plant shows it a snapshot. -/
theorem runTask_ends_lease (h : e.Isolated) (hs : Fresh s) (b : TaskBudget) {r : Except Raised IdleTaskResult}
    (hrun : e.runTask b s = (r, s')) (hacquired : s'.acquired = some lease) :
    Ended lease s.episode.applied s' ↔ Clean s' := by
  have htask := runTask_run (b := b) h.guards hs
  have hleft : Unstarted s s' ∨ ∃ l, Left e b l s.episode.applied s' := by
    cases r with
    | ok result => exact (htask.ok hrun).imp And.left fun ⟨l, hl⟩ => ⟨l, hl.1⟩
    | error => exact htask.error hrun
  rcases hleft with hnone | ⟨l, hused, ⟨hended, hclean, -⟩ | ⟨hheld, hnot⟩⟩
  · rw [hnone.acquired] at hacquired
    cases hacquired
  · have hl : l = lease := Option.some.inj (hended.acquired.symm.trans hacquired)
    exact ⟨fun _ => hclean, fun _ => hl ▸ hended⟩
  · have hl : l = lease := Option.some.inj (hheld.acquired.symm.trans hacquired)
    exact ⟨fun hended => absurd (hl ▸ hheld.active) hended.inactive, fun hclean => absurd hclean hnot⟩

section

def sampleService (observe apply : Prog (IdleShared Unit) Raised NavigationSnapshot) : IdleExplorationService Unit where
  navigation :=
    { supervisor := MotionSupervisor.sampleSupervisor
      plantProfile := MotionSupervisor.sampleProfile
      idleTickMs := 20
      idleTickOk := NavigationEpisode.sampleTickOk
      clockMs _ := 960
      observe _ := observe
      apply _ _ := apply
      publishLocal _ _ := pure ()
      drain s := ([], s)
      beforeArbitration _ := pure none
      observationSink _ := pure ()
      cancelled := pure false
      supervisorClock s := (.ok 960, s)
      freshId s := (.ok "decision-1", s) }
  sessionId := "session-1"
  clockMs := pure 960
  capture _ _ _ _ := pure none
  seed _ := pure ()
  generate _ _ _ := pure []
  resolve _ _ := throw .other
  selectorCall _ _ _ := throw .other
  decodeInterestSelection _ := .error .other
  recordAttempt _ := pure ()
  recordCompleted _ := pure ()

theorem sampleService_isolated (observe apply : Except Raised NavigationSnapshot) :
    (sampleService (Prog.ofExcept observe) (Prog.ofExcept apply)).Isolated where
  navigation :=
    { observe := fun _ _ => by cases observe <;> exact .refl
      apply := fun _ _ _ => by cases apply <;> exact .refl
      publish := fun _ _ _ => .refl
      hook := fun _ _ => .refl
      sink := fun _ _ => .refl
      cancelled := fun _ => .refl
      drain := fun _ => .refl
      now := fun _ => .refl
      id := fun _ => .refl
      supervisor := fun _ _ => .refl }
  clock _ := .refl
  factory _ h := by cases h
  capture _ _ _ _ _ := .refl
  seed _ _ := .refl
  generate _ _ _ _ := .refl
  resolve _ _ _ := .refl
  selectorCall _ _ _ _ := .refl
  recordAttempt _ _ := .refl
  recordCompleted _ _ := .refl
  meanwhile _ := .refl

def sampleTask : TaskState Unit where
  episode :=
    { shared :=
        { world :=
            { outside := ()
              authority :=
                { robotId := "ev3rstorm", controllerInstanceId := "controller-1", nextGoalEpoch := 4,
                  nextPlanRevision := 1, idleEnabled := true } }
          supervisor := { authority := sampleAuthority 4 8 } } }
  nextId := 1

theorem sampleTask_fresh : Fresh sampleTask := ⟨rfl, rfl, rfl, rfl, rfl, rfl, rfl, rfl⟩

def sampleBudget : TaskBudget := ⟨1, 1, 0, 1, 120, 10000⟩

/-- A task that finds nothing to do returns its lease safely. -/
theorem runTask_ends_lease_sample : ∃ (lease : GoalLease) (s' : TaskState Unit), Ended lease [] s' ∧ (authorityOf s').faulted = false := by
  have hrun : (sampleService (Prog.ofExcept (.ok MotionSupervisor.sampleClear))
      (Prog.ofExcept (.ok MotionSupervisor.sampleClearLater))).runTask sampleBudget sampleTask = (_, _) := rfl
  have hi := sampleService_isolated (.ok MotionSupervisor.sampleClear) (.ok MotionSupervisor.sampleClearLater)
  exact ⟨_, _, (runTask_ends_lease hi sampleTask_fresh sampleBudget hrun rfl).mpr ⟨rfl, rfl⟩, rfl⟩

/-- A plant that raises whenever it is observed leaves the lease active under
an authority that is not faulted. -/
theorem blind_task_keeps_lease :
    ¬ ∀ (σ : Type) (e : IdleExplorationService σ) (b : TaskBudget) (s s' : TaskState σ)
        (r : Except Raised IdleTaskResult) (lease : GoalLease),
      e.Isolated → Fresh s → e.runTask b s = (r, s') → s'.acquired = some lease →
      Ended lease s.episode.applied s' := by
  intro hall
  have hi := sampleService_isolated (.error .other) (.error .other)
  have hrun : (sampleService (Prog.ofExcept (.error .other)) (Prog.ofExcept (.error .other))).runTask sampleBudget
      sampleTask = (_, _) := rfl
  have hended := hall _ _ _ _ _ _ _ hi sampleTask_fresh hrun rfl
  exact hended.inactive rfl

end

end IdleExplorationService

end RobotLlm.Autonomy
