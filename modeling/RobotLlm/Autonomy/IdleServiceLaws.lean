import RobotLlm.Autonomy.IdleService
import RobotLlm.Autonomy.IdleTaskLaws

/-!
# What the idle service spends

The ledgers count what the tasks used, the books what their results say. A
session's books never fall behind its ledger, since a session goes on only
after a task whose result counts everything. The duty cycle's do as soon as a
task is not settled: it raised, its mission raised, or a drive was refused.
-/

namespace RobotLlm.Autonomy

open RobotLlm.Lib RobotLlm.Navigation Prog
open NavigationEpisode (motionOf drives Refused)
open IdleExplorationService (Guards GoesOn Fresh Unstarted Left Reports Charged runTask_run)

-- Measures

namespace TaskRun

variable {σ : Type} (run : TaskRun σ)

def leases : Nat := if run.left.acquired = none then 0 else 1

def actions : Nat := (drives run.left.episode.applied).length

def motionMs : Int := motionOf (drives run.left.episode.applied)

/-- Everything the task used is in its result: it did not raise once it had a
lease, its mission did not raise once it had driven, and the reducer took
every snapshot the plant returned for a drive. -/
structure Settled : Prop where
  returned : run.left.acquired ≠ none → ∃ r, run.outcome = .ok r
  mission : run.left.missionsRaised ≠ 0 → drives run.left.episode.applied = []
  taken : ∀ a ∈ drives run.left.episode.applied, ¬ Refused a

structure Within (b : TaskBudget) : Prop where
  leases : run.leases ≤ 1
  plannerCalls : run.left.plannerCalls ≤ b.remainingPlannerCalls
  staleReplans : run.left.staleReplans ≤ b.remainingStaleReplans
  actions : run.actions ≤ b.remainingActions
  motion : run.motionMs ≤ b.remainingMotionMs

structure Told (r : IdleTaskResult) : Prop where
  plannerCalls : run.left.plannerCalls = r.plannerCalls
  staleReplans : run.left.staleReplans = r.staleReplans
  actions : run.actions = r.missionActions
  motion : run.motionMs = r.missionMotionMs

structure Idle : Prop where
  leases : run.leases = 0
  plannerCalls : run.left.plannerCalls = 0
  staleReplans : run.left.staleReplans = 0
  actions : run.actions = 0
  motion : run.motionMs = 0

end TaskRun

structure Allowance where
  tasks : Nat
  plannerCalls : Nat
  staleReplans : Nat
  actions : Nat
  motionMs : Int

def IdleDutyCycleLimits.allowance (limits : IdleDutyCycleLimits) : Allowance :=
  ⟨limits.maxTaskAttempts, limits.maxPlannerCalls, limits.maxStaleReplans, limits.maxActions, limits.maxTotalMotionMs⟩

def IdleSessionLimits.allowance (limits : IdleSessionLimits) : Allowance :=
  ⟨limits.maxTasks, limits.maxPlannerCalls, limits.maxStaleReplans, limits.maxActions, limits.maxTotalMotionMs⟩

def DutyCycle.allowance (duty : DutyCycle) : Allowance :=
  ⟨duty.taskAttempts, duty.plannerCalls, duty.staleReplans, duty.actions, duty.totalMotionMs⟩

def SessionBooks.allowance (books : SessionBooks) : Allowance :=
  ⟨books.tasks.length, books.plannerCalls, books.staleReplans, books.actions, books.totalMotionMs⟩

namespace Ledger

variable {σ : Type} (l : Ledger σ)

def leases : Nat := (l.tasks.map (·.leases)).sum

def selectorCalls : Nat := (l.tasks.map (·.left.plannerCalls)).sum

def staleReplans : Nat := (l.tasks.map (·.left.staleReplans)).sum + l.replans

def actions : Nat := (l.tasks.map (·.actions)).sum

def motionMs : Int := (l.tasks.map (·.motionMs)).sum

/-- The leases that were acquired, the selector calls, the stale replans, the
drives that were applied and their motion. -/
structure Within (a : Allowance) : Prop where
  leases : l.leases ≤ a.tasks
  selectorCalls : l.selectorCalls ≤ a.plannerCalls
  staleReplans : l.staleReplans ≤ a.staleReplans
  actions : l.actions ≤ a.actions
  motion : l.motionMs ≤ a.motionMs

def Settled : Prop := ∀ run ∈ l.tasks, run.Settled

variable {l} {a : Allowance} {run : TaskRun σ}

theorem Within.idle (h : l.Within a) (hrun : run.Idle) : (l.record run).Within a := by
  obtain ⟨h₁, h₂, h₃, h₄, h₅⟩ := h
  obtain ⟨r₁, r₂, r₃, r₄, r₅⟩ := hrun
  constructor <;> simp only [Ledger.leases, Ledger.selectorCalls, Ledger.staleReplans, Ledger.actions,
    Ledger.motionMs, record, List.map_cons, List.sum_cons] at * <;> omega

theorem Within.record {a' : Allowance} (h : l.Within a) (htasks : a.tasks + run.leases ≤ a'.tasks)
    (hplanner : a.plannerCalls + run.left.plannerCalls ≤ a'.plannerCalls)
    (hstale : l.staleReplans + run.left.staleReplans ≤ a'.staleReplans)
    (hactions : a.actions + run.actions ≤ a'.actions) (hmotion : a.motionMs + run.motionMs ≤ a'.motionMs) :
    (l.record run).Within a' := by
  obtain ⟨h₁, h₂, h₃, h₄, h₅⟩ := h
  constructor <;> simp only [Ledger.leases, Ledger.selectorCalls, Ledger.staleReplans, Ledger.actions,
    Ledger.motionMs, Ledger.record, List.map_cons, List.sum_cons] at * <;> omega

theorem Within.replan {a' : Allowance} (h : l.Within a) (htasks : a'.tasks = a.tasks)
    (hplanner : a'.plannerCalls = a.plannerCalls) (hstale : l.staleReplans + 1 ≤ a'.staleReplans)
    (hactions : a'.actions = a.actions) (hmotion : a'.motionMs = a.motionMs) :
    ({ l with replans := l.replans + 1 } : Ledger σ).Within a' := by
  obtain ⟨h₁, h₂, h₃, h₄, h₅⟩ := h
  constructor <;> simp only [Ledger.leases, Ledger.selectorCalls, Ledger.staleReplans, Ledger.actions,
    Ledger.motionMs] at * <;> omega

theorem Settled.of_record (h : (l.record run).Settled) : run.Settled ∧ l.Settled :=
  ⟨h run List.mem_cons_self, fun r hr => h r (List.mem_cons_of_mem _ hr)⟩

theorem empty_within (h : 0 ≤ a.motionMs) : ({} : Ledger σ).Within a :=
  ⟨Nat.zero_le _, Nat.zero_le _, Nat.zero_le _, Nat.zero_le _, h⟩

end Ledger

namespace IdleDutyService

variable {σ : Type} {e : IdleDutyService σ} {s : ServiceState σ} {b : TaskBudget}

-- One task

/-- What a run of the task leaves: it stays within its budget, and its result
tells what was used if the run is settled or the session goes on. -/
structure TaskDone (b : TaskBudget) (run : TaskRun σ) : Prop where
  within : run.Within b
  idle : run.left.acquired = none → run.Idle
  told : ∀ r, run.outcome = .ok r → (r.leaseGeneration = none ↔ run.left.acquired = none) ∧
    (run.Settled ∨ GoesOn r → run.Told r)

theorem start_fresh (s : ServiceState σ) : Fresh (startOf s) := ⟨rfl, rfl, rfl, rfl, rfl, rfl, rfl, rfl⟩

theorem unstarted_idle {run : TaskRun σ} (h : Unstarted (startOf s) run.left) : run.Idle := by
  have happ : run.left.episode.applied = [] := h.applied
  refine ⟨by simp [TaskRun.leases, h.acquired], h.plannerCalls, h.staleReplans, ?_, ?_⟩
  · simp [TaskRun.actions, happ, drives]
  · simp [TaskRun.motionMs, happ, drives, motionOf]

theorem Idle.within {run : TaskRun σ} (h : run.Idle) (hb : 0 ≤ b.remainingMotionMs) : run.Within b := by
  obtain ⟨h₁, h₂, h₃, h₄, h₅⟩ := h
  constructor <;> omega

theorem left_within {run : TaskRun σ} {lease : GoalLease} (h : Left e.toIdleExplorationService b lease [] run.left)
    (hb : 0 ≤ b.remainingMotionMs) : run.Within b := by
  obtain ⟨hused, -⟩ := h
  obtain ⟨new, happ, hactions, hmotion⟩ := hused.within
  have happ : run.left.episode.applied = new := by simpa using happ
  refine ⟨?_, hused.planner, hused.stale.trans (Nat.min_le_right _ _), ?_, ?_⟩
  · unfold TaskRun.leases
    split <;> omega
  · rwa [TaskRun.actions, happ]
  · rw [TaskRun.motionMs, happ]
    by_cases hd : drives new = []
    · rw [hd]
      simpa [motionOf] using hb
    · exact hmotion hd

theorem left_acquired {t : TaskState σ} {lease : GoalLease} {before : List Applied}
    (h : Left e.toIdleExplorationService b lease before t) : t.acquired = some lease := by
  rcases h.lease with ⟨hended, -⟩ | ⟨hheld, -⟩
  · exact hended.acquired
  · exact hheld.acquired

theorem charged_told {run : TaskRun σ} {r : IdleTaskResult} {new : List Applied}
    (happ : run.left.episode.applied = new) (h : Charged r new)
    (hnone : (∀ a ∈ drives new, ¬ Refused a) ∨ GoesOn r) :
    run.actions = r.missionActions ∧ run.motionMs = r.missionMotionMs := by
  obtain ⟨refused, counted, hsplit, hactions, hmotion, hrefused⟩ := h
  have hempty : refused = [] := by
    refine List.eq_nil_iff_forall_not_mem.mpr fun a ha => ?_
    obtain ⟨hr, hstop⟩ := hrefused a ha
    rcases hnone with hnone | hgo
    · exact hnone a (by simp [hsplit, ha]) hr
    · exact hstop hgo
  subst hempty
  rw [TaskRun.actions, TaskRun.motionMs, happ, hsplit, hactions, hmotion]
  exact ⟨rfl, rfl⟩

theorem reports_told {run : TaskRun σ} {r : IdleTaskResult} {lease : GoalLease} (h : Reports lease [] r run.left)
    (hs : run.Settled ∨ GoesOn r) : run.Told r := by
  have hmission : run.actions = r.missionActions ∧ run.motionMs = r.missionMotionMs := by
    by_cases hraised : run.left.missionsRaised = 0
    · obtain ⟨new, happ, hcharged⟩ := h.charged hraised
      have happ : run.left.episode.applied = new := by simpa using happ
      exact charged_told happ hcharged (hs.imp (fun hs => happ ▸ hs.taken) id)
    · obtain ⟨hnot, hnone⟩ := h.raised hraised
      have hd := (hs.resolve_right hnot).mission hraised
      simp only [TaskRun.actions, TaskRun.motionMs, hd, IdleTaskResult.missionActions,
        IdleTaskResult.missionMotionMs, hnone]
      exact ⟨rfl, rfl⟩
  exact ⟨h.plannerCalls.symm, h.staleReplans.symm, hmission.1, hmission.2⟩

theorem taskDone (h : e.toIdleExplorationService.Isolated) (hb : 0 ≤ b.remainingMotionMs) {run : TaskRun σ}
    (hrun : e.runTask b (startOf s) = (run.outcome, run.left)) : TaskDone b run := by
  have htask := runTask_run (b := b) h.guards (start_fresh s)
  have hleft : ∀ {lease : GoalLease}, Left e.toIdleExplorationService b lease [] run.left →
      run.Within b ∧ run.left.acquired = some lease := fun hl => ⟨left_within hl hb, left_acquired hl⟩
  cases hout : run.outcome with
  | error error =>
    rw [hout] at hrun
    rcases htask.error hrun with hnone | ⟨lease, hl⟩
    · have hidle := unstarted_idle hnone
      exact ⟨Idle.within hidle hb, fun _ => hidle, fun r hr => by cases hout.symm.trans hr⟩
    · obtain ⟨hwithin, hacquired⟩ := hleft hl
      refine ⟨hwithin, fun hnone => ?_, fun r hr => by cases hout.symm.trans hr⟩
      cases hnone.symm.trans hacquired
  | ok r =>
    rw [hout] at hrun
    rcases htask.ok hrun with ⟨hnone, rfl⟩ | ⟨lease, hl, hreports⟩
    · have hidle := unstarted_idle hnone
      refine ⟨Idle.within hidle hb, fun _ => hidle, fun r hr => ?_⟩
      cases hout.symm.trans hr
      exact ⟨⟨fun _ => hnone.acquired, fun _ => rfl⟩, fun _ =>
        ⟨hidle.plannerCalls, hidle.staleReplans, hidle.actions, hidle.motion⟩⟩
    · obtain ⟨hwithin, hacquired⟩ := hleft hl
      refine ⟨hwithin, fun hnone => ?_, fun r' hr => ?_⟩
      · cases hnone.symm.trans hacquired
      · cases hout.symm.trans hr
        refine ⟨⟨fun hg => ?_, fun hnone => ?_⟩, fun hs => reports_told hreports hs⟩
        · cases hreports.generation.symm.trans hg
        · cases hnone.symm.trans hacquired

-- Charging

/-- While every task since the last rearm is settled, the duty cycle's books
cover what was used, which is within its limits. -/
structure Solvent (e : IdleDutyService σ) (s : ServiceState σ) : Prop where
  booked : s.sinceRearm.Settled → s.sinceRearm.Within s.duty.allowance
  within : s.sinceRearm.Settled → s.sinceRearm.Within e.dutyCycleLimits.allowance

def Aside (s s' : ServiceState σ) : Prop := s' = { s with shared := s'.shared }

theorem ask_aside (x : Prog (IdleShared σ) Raised α) : Keeps Aside (ask x) := fun _ => rfl

theorem nowMs_aside (e : IdleDutyService σ) : Keeps Aside e.nowMs := ask_aside _

theorem Solvent.aside {s' : ServiceState σ} (h : Solvent e s) (ha : Aside s s') : Solvent e s' := by
  rw [ha]
  exact ⟨h.booked, h.within⟩

/-- The budget leaves the duty cycle within its limits. -/
structure Affordable (e : IdleDutyService σ) (duty : DutyCycle) (b : TaskBudget) : Prop where
  tasks : duty.taskAttempts + 1 ≤ e.dutyCycleLimits.maxTaskAttempts
  plannerCalls : duty.plannerCalls + b.remainingPlannerCalls ≤ e.dutyCycleLimits.maxPlannerCalls
  staleReplans : b.remainingStaleReplans ≤ e.dutyCycleLimits.maxStaleReplans - duty.staleReplans
  actions : duty.actions + b.remainingActions ≤ e.dutyCycleLimits.maxActions
  motion : duty.totalMotionMs + b.remainingMotionMs ≤ e.dutyCycleLimits.maxTotalMotionMs

theorem affordable_of_remaining {d : DutyCycle} {now : Int} (hspent : ¬ (d.remaining e.dutyCycleLimits now).Spent)
    (hplanner : b.remainingPlannerCalls ≤ (d.remaining e.dutyCycleLimits now).plannerCalls)
    (hstale : b.remainingStaleReplans ≤ (d.remaining e.dutyCycleLimits now).staleReplans)
    (hactions : b.remainingActions ≤ (d.remaining e.dutyCycleLimits now).actions)
    (hmotion : b.remainingMotionMs ≤ (d.remaining e.dutyCycleLimits now).motionMs) : Affordable e d b := by
  simp only [DutyRemaining.Spent, not_or] at hspent
  obtain ⟨h₁, h₂, h₃, h₄⟩ := hspent
  simp only [DutyCycle.remaining] at *
  constructor <;> omega

theorem TaskDone.idle_of_error {run : TaskRun σ} {error : Raised} (h : TaskDone b run) (hs : run.Settled)
    (hout : run.outcome = .error error) : run.Idle := by
  refine h.idle (not_not.mp fun hacquired => ?_)
  obtain ⟨r, hr⟩ := hs.returned hacquired
  cases hout.symm.trans hr

/-- The run of a task, and what it does to the ledgers. -/
def Recorded (b : TaskBudget) (s s' : ServiceState σ) (run : TaskRun σ) : Prop :=
  TaskDone b run ∧ s'.session = s.session.record run ∧ s'.sessionLimits = s.sessionLimits

theorem chargedTask_run (h : e.toIdleExplorationService.Isolated) (hb : 0 ≤ b.remainingMotionMs)
    (hafford : Affordable e s.duty b) (hs : Solvent e s) (startedAtMs : Int) :
    Triple (e.chargedTask b startedAtMs) s
      (fun r s' => Solvent e s' ∧ ∃ run, run.outcome = .ok r ∧ Recorded b s s' run)
      (fun _ s' => Solvent e s' ∧ ∃ run, Recorded b s s' run) := by
  obtain ⟨a₁, a₂, a₃, a₄, a₅⟩ := hafford
  rcases hrun : e.runTask b (startOf s) with ⟨outcome, left⟩
  have hdone : TaskDone b ⟨outcome, left⟩ := taskDone h hb hrun
  have htask : e.task b s = (outcome, { s with
      shared := left.episode.shared, nextId := left.nextId, sinceRearm := s.sinceRearm.record ⟨outcome, left⟩,
      session := s.session.record ⟨outcome, left⟩ }) := by
    simp only [task, hrun]
  have idle : ∀ {t : ServiceState σ}, t.sinceRearm = s.sinceRearm.record ⟨outcome, left⟩ → t.duty = s.duty →
      (TaskRun.Settled ⟨outcome, left⟩ → TaskRun.Idle ⟨outcome, left⟩) → Solvent e t := by
    intro t hl hd hidle
    constructor <;> intro hsettled <;> rw [hl] at hsettled ⊢ <;> obtain ⟨hr, hold⟩ := hsettled.of_record
    · exact hd ▸ (hs.booked hold).idle (hidle hr)
    · exact (hs.within hold).idle (hidle hr)
  cases outcome with
  | error error =>
    refine Triple.bind (Q := fun _ _ => False) (Triple.of_run htask
      ⟨idle rfl rfl fun hr => hdone.idle_of_error hr rfl, _, hdone, rfl, rfl⟩) fun _ _ h => h.elim
  | ok r =>
    obtain ⟨hlease, htold⟩ := hdone.told r rfl
    refine Triple.step htask (Triple.bind (Q := fun _ s' => Solvent e s' ∧ Recorded b s s' ⟨.ok r, left⟩) ?_ ?_)
    · refine Triple.ite (fun hnone => Triple.pure ⟨idle rfl rfl fun _ => hdone.idle (hlease.mp hnone), hdone, rfl, rfl⟩)
        fun _ => ?_
      refine Triple.modify_bind (Triple.modify ⟨⟨fun hsettled => ?_, fun hsettled => ?_⟩, hdone, rfl, rfl⟩)
      all_goals
        obtain ⟨hr, hold⟩ := hsettled.of_record
        obtain ⟨t₁, t₂, t₃, t₄⟩ := htold (.inl hr)
        obtain ⟨w₁, w₂, w₃, w₄, w₅⟩ := hdone.within
        have hbooked := hs.booked hold
      · have hstale := hbooked.staleReplans
        refine hbooked.record ?_ ?_ ?_ ?_ ?_ <;> simp only [DutyCycle.allowance] at * <;> omega
      · have hstale := hbooked.staleReplans
        have hlimit := (hs.within hold).staleReplans
        refine hbooked.record ?_ ?_ ?_ ?_ ?_ <;>
          simp only [DutyCycle.allowance, IdleDutyCycleLimits.allowance] at * <;> omega
    · rintro _ s' ⟨hsolvent, hrecorded⟩
      exact Triple.pure ⟨hsolvent, _, rfl, hrecorded⟩

-- Calls

/-- The duty cycle and the session are within their limits. -/
structure Sound (e : IdleDutyService σ) (s : ServiceState σ) : Prop extends Solvent e s where
  session : s.session.Within s.sessionLimits.allowance

theorem beginSession_run (hs : Solvent e s) (limits : IdleSessionLimits) :
    Triple (beginSession limits) s
      (fun _ s' => Solvent e s' ∧ s'.session = {} ∧ s'.sessionLimits = limits) (fun _ _ => False) :=
  Triple.modify ⟨⟨hs.booked, hs.within⟩, rfl, rfl⟩

theorem runOnce_run (h : e.toIdleExplorationService.Isolated) (hs : Solvent e s) (limits : IdleSessionLimits) :
    Settles (e.runOnce limits) s (Sound e) := by
  have hmotion := limits.motionOk.1
  refine Triple.bind ((beginSession_run hs limits).mono (fun _ _ h => h) fun _ _ h => h.elim) ?_
  rintro _ s₁ ⟨hs₁, hsession, hlimits⟩
  have hempty : ∀ {t : ServiceState σ}, Solvent e t → t.session = {} → t.sessionLimits = limits → Sound e t := by
    intro t ht hsession hlimits
    refine ⟨ht, ?_⟩
    rw [hsession, hlimits]
    exact Ledger.empty_within (by simp only [IdleSessionLimits.allowance]; omega)
  have haside : ∀ {t : ServiceState σ}, Aside s₁ t → Solvent e t ∧ t.session = {} ∧ t.sessionLimits = limits := by
    intro t ha
    refine ⟨hs₁.aside ha, ?_⟩
    rw [ha]
    exact ⟨hsession, hlimits⟩
  refine Triple.frame_bind (nowMs_aside e) (fun _ t ha => ?_) fun started s₂ ha => ?_
  · obtain ⟨ht, hsession, hlimits⟩ := haside ha
    exact hempty ht hsession hlimits
  obtain ⟨hs₂, hsession, hlimits⟩ := haside ha
  refine Triple.get_bind (Triple.ite (fun _ => Triple.pure (hempty hs₂ hsession hlimits)) fun hroom => ?_)
  have hspent := (not_or.mp hroom).2
  have hafford := affordable_of_remaining (b := onceBudget limits (s₂.duty.remaining e.dutyCycleLimits started) started)
    hspent (Nat.min_le_right _ _) (Nat.min_le_right _ _) (Nat.min_le_right _ _) (Int.min_le_right _ _)
  have hb : 0 ≤ (onceBudget limits (s₂.duty.remaining e.dutyCycleLimits started) started).remainingMotionMs := by
    simp only [DutyRemaining.Spent, not_or] at hspent
    simp only [onceBudget]
    omega
  have hrecord : ∀ {s' : ServiceState σ} {run : TaskRun σ}, Recorded (onceBudget limits (s₂.duty.remaining e.dutyCycleLimits started) started) s₂ s' run →
      s'.session.Within s'.sessionLimits.allowance := by
    rintro s' run ⟨hdone, hsession', hlimits'⟩
    rw [hsession', hlimits', hsession, hlimits]
    obtain ⟨w₁, w₂, w₃, w₄, w₅⟩ := hdone.within
    have htasks := limits.tasksOk.1
    refine (Ledger.empty_within (a := ⟨0, 0, 0, 0, 0⟩) (Int.le_refl 0)).record ?_ ?_ ?_ ?_ ?_ <;>
      simp only [IdleSessionLimits.allowance, onceBudget, Ledger.staleReplans, List.map_nil, List.sum_nil] at * <;> omega
  refine (chargedTask_run h hb hafford hs₂ started).mono ?_ ?_
  · rintro r s' ⟨hsolvent, run, -, hrecorded⟩
    exact ⟨hsolvent, hrecord hrecorded⟩
  · rintro _ s' ⟨hsolvent, run, hrecorded⟩
    exact ⟨hsolvent, hrecord hrecorded⟩

/-- While a session runs, its books cover what it used. -/
structure InSession (e : IdleDutyService σ) (limits : IdleSessionLimits) (books : SessionBooks) (s : ServiceState σ) :
    Prop extends Solvent e s where
  bound : s.sessionLimits = limits
  covered : s.session.Within books.allowance
  session : s.session.Within limits.allowance

variable {limits : IdleSessionLimits} {books : SessionBooks} {s' : ServiceState σ}

theorem InSession.sound (h : InSession e limits books s) : Sound e s := ⟨h.toSolvent, h.bound ▸ h.session⟩

theorem InSession.aside (h : InSession e limits books s) (ha : Aside s s') : InSession e limits books s' := by
  have hs := h.toSolvent.aside ha
  rw [ha] at hs ⊢
  exact ⟨hs, h.bound, h.covered, h.session⟩

structure Remains (limits : IdleSessionLimits) (books : SessionBooks) (b : TaskBudget) : Prop where
  tasks : books.tasks.length + 1 ≤ limits.maxTasks
  plannerCalls : books.plannerCalls + b.remainingPlannerCalls ≤ limits.maxPlannerCalls
  staleReplans : b.remainingStaleReplans ≤ limits.maxStaleReplans - books.staleReplans
  actions : books.actions + b.remainingActions ≤ limits.maxActions
  motion : books.totalMotionMs + b.remainingMotionMs ≤ limits.maxTotalMotionMs

theorem InSession.recorded {run : TaskRun σ} (h : InSession e limits books s) (hs : Solvent e s')
    (hr : Recorded b s s' run) (hremains : Remains limits books b) :
    Sound e s' ∧ ∀ r, run.outcome = .ok r → GoesOn r → InSession e limits (books.add r) s' := by
  obtain ⟨hdone, hsession, hlimits⟩ := hr
  obtain ⟨w₁, w₂, w₃, w₄, w₅⟩ := hdone.within
  obtain ⟨r₁, r₂, r₃, r₄, r₅⟩ := hremains
  have hstale := h.covered.staleReplans
  have hlimit := h.session.staleReplans
  have hwithin : s'.session.Within limits.allowance := by
    rw [hsession]
    refine h.covered.record ?_ ?_ ?_ ?_ ?_ <;>
      simp only [SessionBooks.allowance, IdleSessionLimits.allowance] at * <;> omega
  refine ⟨⟨hs, by rw [hlimits, h.bound]; exact hwithin⟩, fun r hout hgo => ⟨hs, hlimits.trans h.bound, ?_, hwithin⟩⟩
  obtain ⟨t₁, t₂, t₃, t₄⟩ := (hdone.told r hout).2 (.inr hgo)
  rw [hsession]
  refine h.covered.record ?_ ?_ ?_ ?_ ?_ <;>
    simp only [SessionBooks.allowance, SessionBooks.add, List.length_append, List.length_singleton] at * <;> omega

theorem grantReplan_run (hs : InSession e limits books s) :
    Triple (e.grantReplan limits books) s
      (fun r s' => Sound e s' ∧ ∀ books', r = some books' → books'.tasks = books.tasks ∧ InSession e limits books' s')
      (fun _ s' => Sound e s') := by
  refine Triple.frame_bind (nowMs_aside e) (fun _ t ha => (hs.aside ha).sound) fun now s₁ ha => ?_
  have hs₁ := hs.aside ha
  refine Triple.get_bind (Triple.ite (fun hleft => ?_) fun _ => Triple.pure ⟨hs₁.sound, nofun⟩)
  obtain ⟨hbooks, hduty⟩ := hleft
  have hstale := hs₁.covered.staleReplans
  have hin : InSession e limits { books with staleReplans := books.staleReplans + 1 }
      { s₁ with
        duty := { s₁.duty with staleReplans := s₁.duty.staleReplans + 1 }
        sinceRearm := { s₁.sinceRearm with replans := s₁.sinceRearm.replans + 1 }
        session := { s₁.session with replans := s₁.session.replans + 1 } } := by
    refine ⟨⟨fun hsettled => ?_, fun hsettled => ?_⟩, hs₁.bound, ?_, ?_⟩
    · have hold := hs₁.toSolvent.booked hsettled
      have hle := hold.staleReplans
      refine hold.replan rfl rfl ?_ rfl rfl
      simp only [DutyCycle.allowance] at *
      omega
    · have hold := hs₁.toSolvent.booked hsettled
      have hle := hold.staleReplans
      refine (hs₁.within hsettled).replan rfl rfl ?_ rfl rfl
      simp only [DutyCycle.allowance, IdleDutyCycleLimits.allowance, DutyCycle.remaining] at *
      omega
    · refine hs₁.covered.replan rfl rfl ?_ rfl rfl
      simp only [SessionBooks.allowance] at *
      omega
    · refine hs₁.session.replan rfl rfl ?_ rfl rfl
      simp only [SessionBooks.allowance, IdleSessionLimits.allowance] at *
      omega
  refine Triple.modify_bind (Triple.pure ⟨hin.sound, fun books' h => ?_⟩)
  cases h
  exact ⟨rfl, hin⟩

theorem goOn_run {r : IdleTaskResult} (hs : Sound e s) (hgo : GoesOn r → InSession e limits books s) :
    Triple (e.goOn limits books r) s
      (fun next s' => Sound e s' ∧ ∀ books', next = some books' → books'.tasks = books.tasks ∧ InSession e limits books' s')
      (fun _ s' => Sound e s') := by
  refine Triple.ite (fun hcompleted => Triple.pure ⟨hs, fun books' h => ?_⟩) fun _ =>
    Triple.ite (fun hstale => grantReplan_run (hgo (.inr hstale))) fun _ => Triple.pure ⟨hs, nofun⟩
  cases h
  refine ⟨rfl, hgo (.inl ?_)⟩
  simp only [IdleTaskResult.completed, Bool.and_eq_true, decide_eq_true_eq] at hcompleted
  exact hcompleted.1.1

theorem sessionLoop_run (h : e.toIdleExplorationService.Isolated) (deadline : Int) (left : Nat)
    (hs : InSession e limits books s) (hleft : books.tasks.length + left = limits.maxTasks) :
    Settles (e.sessionLoop limits deadline left books) s (Sound e) := by
  induction left generalizing books s with
  | zero => exact Triple.pure hs.sound
  | succ left ih =>
    refine Triple.frame_bind (nowMs_aside e) (fun _ t ha => (hs.aside ha).sound) fun now s₁ ha => ?_
    have hs₁ := hs.aside ha
    refine Triple.get_bind (Triple.ite (fun _ => Triple.pure hs₁.sound) fun hroom => ?_)
    have hunspent : ¬ sessionSpent limits books (s₁.duty.remaining e.dutyCycleLimits now) deadline now :=
      (not_or.mp hroom).2
    simp only [sessionSpent, not_or] at hunspent
    obtain ⟨-, hplanner, hactions, hmotion, hspent⟩ := hunspent
    have hafford := affordable_of_remaining
      (b := sessionBudget limits books (s₁.duty.remaining e.dutyCycleLimits now) deadline)
      hspent (Nat.min_le_right _ _) (Nat.min_le_right _ _) (Nat.min_le_right _ _) (Int.min_le_right _ _)
    have hb : 0 ≤ (sessionBudget limits books (s₁.duty.remaining e.dutyCycleLimits now) deadline).remainingMotionMs := by
      simp only [DutyRemaining.Spent, not_or] at hspent
      simp only [sessionBudget]
      omega
    have hremains : Remains limits books (sessionBudget limits books (s₁.duty.remaining e.dutyCycleLimits now) deadline) := by
      refine ⟨by omega, ?_, ?_, ?_, ?_⟩ <;> simp only [sessionBudget] <;> omega
    refine Triple.bind ((chargedTask_run h hb hafford hs₁.toSolvent now).mono (fun _ _ h => h) ?_) ?_
    · rintro _ s' ⟨hsolvent, run, hrecorded⟩
      exact (hs₁.recorded hsolvent hrecorded hremains).1
    rintro r s₂ ⟨hsolvent, run, hout, hrecorded⟩
    obtain ⟨hsound, hgo⟩ := hs₁.recorded hsolvent hrecorded hremains
    refine Triple.bind (goOn_run hsound fun hr => hgo r hout hr) ?_
    rintro (_ | books') s₃ ⟨hsound₃, hnext⟩
    · exact Triple.pure hsound₃
    · obtain ⟨htasks, hin⟩ := hnext books' rfl
      refine ih hin ?_
      simp only [htasks, SessionBooks.add, List.length_append, List.length_singleton]
      omega

theorem runSession_run (h : e.toIdleExplorationService.Isolated) (hs : Solvent e s) (limits : IdleSessionLimits) :
    Settles (e.runSession limits) s (Sound e) := by
  have hmotion := limits.motionOk.1
  refine Triple.bind ((beginSession_run hs limits).mono (fun _ _ h => h) fun _ _ h => h.elim) ?_
  rintro _ s₁ ⟨hs₁, hsession, hlimits⟩
  have hin : InSession e limits {} s₁ := by
    refine ⟨hs₁, hlimits, ?_, ?_⟩ <;> rw [hsession]
    · exact Ledger.empty_within (Int.le_refl 0)
    · exact Ledger.empty_within (by simp only [IdleSessionLimits.allowance]; omega)
  refine Triple.frame_bind (nowMs_aside e) (fun _ t ha => (hin.aside ha).sound) fun started s₂ ha => ?_
  refine Triple.bind (sessionLoop_run h _ _ (hin.aside ha) (Nat.zero_add _)) ?_
  rintro ⟨termination, books⟩ s₃ hs₃
  have haside : ∀ {t : ServiceState σ}, Aside s₃ t → Sound e t := fun ha => by
    have ht := hs₃.toSolvent.aside ha
    rw [ha] at ht ⊢
    exact ⟨ht, hs₃.session⟩
  exact Triple.frame_bind (nowMs_aside e) (fun _ t ha => haside ha) fun now s₄ ha => Triple.pure (haside ha)

-- Rearming

def Guarded (guard : IdleDutyRearmGuard) (s : ServiceState σ) : Prop :=
  s.shared.world.authority.idleRearmGuard = some guard

theorem ask_guarded {x : Prog (IdleShared σ) Raised α} (h : Keeps Guards x) {guard : IdleDutyRearmGuard}
    (hg : Guarded guard s) : Settles (ask x) s (fun s' => Aside s s' ∧ Guarded guard s') :=
  Triple.onPart ((h.triple s.shared).mono (fun _ _ hk => ⟨rfl, hk.guard guard hg⟩) fun _ _ hk => ⟨rfl, hk.guard guard hg⟩)

theorem beginIdleDutyRearm_guarded {c : GoalLeaseCoordinator} {guard : IdleDutyRearmGuard}
    (h : c.beginIdleDutyRearm.1 = .ok guard) : c.beginIdleDutyRearm.2.idleRearmGuard = some guard := by
  unfold GoalLeaseCoordinator.beginIdleDutyRearm at h ⊢
  split at h
  · cases h
  next hc =>
    rw [if_neg hc]
    dsimp only at h ⊢
    split at h
    · cases h
    · cases h
      rfl

theorem onAuthority_run (e : IdleDutyService σ)
    {f : GoalLeaseCoordinator → Except NavigationContractError α × GoalLeaseCoordinator}
    {r : Except NavigationContractError α} {c : GoalLeaseCoordinator} (h : f (e.meanwhile s.shared).world.authority = (r, c)) :
    e.onAuthority f s = (r.mapError .contract, { s with shared := { e.meanwhile s.shared with
      world := { (e.meanwhile s.shared).world with authority := c } } }) := by
  unfold onAuthority ask Prog.onPart
  dsimp only
  rw [h]

theorem begin_run (e : IdleDutyService σ) (s : ServiceState σ) :
    Triple (e.onAuthority (·.beginIdleDutyRearm)) s (fun guard s' => Aside s s' ∧ Guarded guard s')
      (fun _ s' => Aside s s') := by
  rcases h : (e.meanwhile s.shared).world.authority.beginIdleDutyRearm with ⟨error | guard, c⟩
  · exact Triple.of_run (onAuthority_run e h) rfl
  · have hbegun : (e.meanwhile s.shared).world.authority.beginIdleDutyRearm.1 = .ok guard := by rw [h]
    have hguard := beginIdleDutyRearm_guarded hbegun
    rw [h] at hguard
    exact Triple.of_run (onAuthority_run e h) ⟨rfl, hguard⟩

theorem finish_run (hf : e.toIdleExplorationService.Frames Guards) {guard : IdleDutyRearmGuard} (hg : Guarded guard s) :
    Triple (e.onAuthority (·.finishIdleDutyRearm guard)) s (fun _ s' => Aside s s') (fun _ _ => False) := by
  have hheld := (hf.meanwhile s.shared).guard guard hg
  have hfinish : (e.meanwhile s.shared).world.authority.finishIdleDutyRearm guard =
      (.ok (), { (e.meanwhile s.shared).world.authority with idleRearmGuard := none }) := by
    simp [GoalLeaseCoordinator.finishIdleDutyRearm, hheld]
  exact Triple.of_run (onAuthority_run e hfinish) rfl

theorem resetDuty_run (hf : e.toIdleExplorationService.Frames Guards) {guard : IdleDutyRearmGuard} (hg : Guarded guard s) :
    Triple e.resetDuty s
      (fun generation s' => Aside { s with duty := { generation := generation } } s' ∧ Guarded guard s')
      (fun _ s' => Aside s s' ∧ Guarded guard s') := by
  have hread : Keeps Guards (fun shared => ((rearmProbe (e.meanwhile shared).world.authority).mapError Raised.contract,
      e.meanwhile shared) : Prog (IdleShared σ) Raised WaypointGoal) := fun shared => hf.meanwhile shared
  refine Triple.bind (ask_guarded hread hg) ?_
  rintro probe s₁ ⟨h₁, hg₁⟩
  refine Triple.bind ((ask_guarded (hf.navigation.observe probe) hg₁).mono (fun _ _ h => h) ?_) ?_
  · rintro _ s₂ ⟨h₂, hg₂⟩
    exact ⟨by rw [h₂, h₁]; rfl, hg₂⟩
  rintro snapshot s₂ ⟨h₂, hg₂⟩
  have haside : Aside s s₂ := by rw [h₂, h₁]; rfl
  refine Triple.failIf (fun _ => ⟨haside, hg₂⟩) fun _ => Triple.get_bind (Triple.modify_bind (Triple.pure ⟨?_, hg₂⟩))
  rw [haside]
  rfl

theorem rearm_run (h : e.toIdleExplorationService.Isolated) (hs : Sound e s) :
    Settles e.rearmIdleDutyCycle s (Sound e) := by
  have hf := h.guards
  have aside : ∀ {t t' : ServiceState σ}, Sound e t → Aside t t' → Sound e t' := fun ht ha => by
    rw [ha]
    exact ⟨⟨ht.booked, ht.within⟩, ht.session⟩
  refine Triple.frame_bind (ask_aside _) (fun _ _ ha => aside hs ha) fun busy s₁ h₁ => ?_
  have hs₁ := aside hs h₁
  refine Triple.failIf (fun _ => hs₁) fun _ => ?_
  refine Triple.bind ((begin_run e s₁).mono (fun _ _ h => h) fun _ _ ha => aside hs₁ ha) ?_
  rintro guard s₂ ⟨h₂, hg₂⟩
  have hs₂ := aside hs₁ h₂
  refine Triple.bind (Triple.attempt (P := fun r s' => Guarded guard s' ∧ match r with
    | .ok generation => Aside { s₂ with duty := { generation := generation } } s'
    | .error _ => Aside s₂ s') ((resetDuty_run hf hg₂).mono (fun _ _ h => ⟨h.2, h.1⟩) fun _ _ h => ⟨h.2, h.1⟩)) ?_
  rintro reset s₃ ⟨hg₃, h₃⟩
  refine Triple.bind ((finish_run hf hg₃).mono (fun _ _ h => h) fun _ _ h => h.elim) fun _ s₄ h₄ => ?_
  cases reset with
  | error error => exact Triple.of_run rfl (aside (aside hs₂ h₃) h₄)
  | ok generation =>
    refine Triple.step rfl (Triple.modify_bind (Triple.pure ?_))
    have hempty : ∀ a : Allowance, 0 ≤ a.motionMs → ({} : Ledger σ).Within a := fun _ => Ledger.empty_within
    have hmotion := e.dutyCycleLimits.motionOk.1
    rw [h₄, h₃]
    exact ⟨⟨fun _ => hempty _ (Int.le_refl 0), fun _ => hempty _ (by simp only [IdleDutyCycleLimits.allowance]; omega)⟩,
      hs₂.session⟩

-- Runs

theorem step_sound (h : e.toIdleExplorationService.Isolated) (hs : Sound e s) (call : IdleCall σ) :
    Sound e (e.idleService.step s call).2 := by
  cases call with
  | runOnce limits => exact (runOnce_run h hs.toSolvent limits).after
  | runSession limits => exact (runSession_run h hs.toSolvent limits).after
  | rearmIdleDutyCycle => exact (rearm_run h hs).after
  | elsewhere shared => exact ⟨⟨hs.booked, hs.within⟩, hs.session⟩

def Unused (s : ServiceState σ) : Prop := s.duty = {} ∧ s.sinceRearm = {} ∧ s.session = {}

section

/-- A simulator, by the pulses it applied and the ids it gave out. -/
structure SampleRoam where
  pulses : Fin 8
  ids : Nat

def SampleRoam.snapshot (w : SampleRoam) (goal : WaypointGoal) : NavigationSnapshot :=
  { NavigationEpisode.sampleFar with
    goalId := goal.goalId
    goalEpoch := goal.goalEpoch
    planRevision := goal.planRevision
    stateVersion := 8 + w.pulses
    pose := { MotionSupervisor.sampleClear.pose with
              xMm := 500 + 20 * w.pulses
              xOk := by have := w.pulses.isLt; unfold Between; omega }
    leftEncoderMdeg := 40000 * w.pulses
    rightEncoderMdeg := 40000 * w.pulses
    goalIdOk := goal.goalIdOk
    goalEpochOk := goal.goalEpochOk
    planRevisionOk := goal.planRevisionOk
    stateVersionOk := by have := w.pulses.isLt; unfold Between counterMax; omega
    leftEncoderOk := by have := w.pulses.isLt; unfold Between counterMax; omega
    rightEncoderOk := by have := w.pulses.isLt; unfold Between counterMax; omega }

def sampleSelection (proposalId candidateSetId : String) (leaseGeneration stateVersion : Int) : InterestSelectionProposal where
  proposalId := proposalId
  robotId := "ev3rstorm"
  controllerInstanceId := "controller-1"
  autonomySessionId := "session-1"
  leaseGeneration := leaseGeneration
  candidateSetId := candidateSetId
  basedOnStateVersion := stateVersion
  basedOnWorldModelVersion := 2
  decision := .select "candidate-1"

/-- What the local behavior proposes before the first and the third pulse. -/
def sampleProposals : Nat → List StampedProposal
  | 0 => [{ NavigationEpisode.sampleAdvance with
      proposal := { NavigationEpisode.sampleAdvance.proposal with goalId := "candidate-1", goalIdOk := by decide } }]
  | 2 => [{ NavigationEpisode.sampleAdvance with
      proposal :=
        { NavigationEpisode.sampleAdvance.proposal with
          proposalId := "proposal-2", goalId := "candidate-1", goalEpoch := 5, planRevision := 2,
          basedOnStateVersion := 10, proposalIdOk := by decide, goalIdOk := by decide, goalEpochOk := ⟨by decide, by decide⟩,
          planRevisionOk := NavigationEpisode.sampleFar.worldModelVersionOk, stateVersionOk := by decide }
      sourceSequence := 2
      sourceSequenceOk := NavigationEpisode.sampleFar.worldModelVersionOk }]
  | _ => []

/-- A service whose clock raises once the simulator has driven, until it is
stopped. -/
def sampleRoaming : IdleDutyService SampleRoam where
  navigation :=
    { supervisor := MotionSupervisor.sampleSupervisor
      plantProfile := MotionSupervisor.sampleProfile
      idleTickMs := 20
      idleTickOk := NavigationEpisode.sampleTickOk
      clockMs _ := 960
      observe goal s := (.ok (s.world.outside.snapshot goal), s)
      apply _ goal s :=
        let w := { s.world.outside with pulses := s.world.outside.pulses + 1 }
        (.ok (w.snapshot goal), { s with world := { s.world with outside := w } })
      publishLocal _ _ := pure ()
      drain s := (sampleProposals s.world.outside.pulses, s)
      beforeArbitration _ := pure none
      observationSink _ := pure ()
      cancelled := pure false
      supervisorClock s := (.ok 960, s)
      freshId s := (.ok ("decision-" ++ toString s.world.outside.ids), { s with
        world := { s.world with outside := { s.world.outside with ids := s.world.outside.ids + 1 } } }) }
  sessionId := "session-1"
  clockMs s := (if s.world.outside.pulses.val % 2 = 1 then .error .other else .ok 960, s)
  capture _ _ _ _ := pure none
  seed _ := pure ()
  generate _ _ _ := pure [{ view := { candidateId := "candidate-1" }, targetXMm := 0, targetYMm := 0,
                            toleranceMm := 35, memoryKey := (0, 0), targetXOk := between_origin,
                            targetYOk := between_origin, toleranceOk := MotionSupervisor.sampleGoal.toleranceOk }]
  resolve candidates _ := Prog.ofExcept (candidates.head?.elim (.error .other) .ok)
  selectorCall _ _ _ s := (.ok (.completed [UInt8.ofNat s.world.outside.pulses]), s)
  decodeInterestSelection
    | [0] => .ok (sampleSelection "interest-proposal-3" "candidate-set-2" 1 8)
    | _ => .ok (sampleSelection "interest-proposal-7" "candidate-set-6" 2 10)
  recordAttempt _ := pure ()
  recordCompleted _ := pure ()
  dutyCycleLimits := { maxActions := 1 }
  selectorBusy := pure false

def sampleState (pulses : Fin 8) : ServiceState SampleRoam where
  shared :=
    { world :=
        { outside := ⟨pulses, 1⟩
          authority :=
            { robotId := "ev3rstorm", controllerInstanceId := "controller-1", nextGoalEpoch := 4,
              nextPlanRevision := 1, idleEnabled := true } }
      supervisor := { authority := sampleAuthority 8 8 } }

theorem sampleRoaming_isolated : sampleRoaming.toIdleExplorationService.Isolated where
  navigation :=
    { observe := fun _ _ => .refl
      apply := fun _ _ _ => .refl
      publish := fun _ _ _ => .refl
      hook := fun _ _ => .refl
      sink := fun _ _ => .refl
      cancelled := fun _ => .refl
      drain := fun _ => .refl
      now := fun _ => .refl
      id := fun _ => .refl
      supervisor := fun _ _ => .refl }
  clock _ := .refl
  factory _ h := by cases h
  capture _ _ _ _ _ := .refl
  seed _ _ := .refl
  generate _ _ _ _ := .refl
  resolve _ _ _ := .refl
  selectorCall _ _ _ _ := .refl
  recordAttempt _ _ := .refl
  recordCompleted _ _ := .refl
  meanwhile _ := .refl

end

end IdleDutyService

end RobotLlm.Autonomy
