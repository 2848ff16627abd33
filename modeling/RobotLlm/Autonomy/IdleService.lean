import RobotLlm.Autonomy.IdleTask

/-!
# The idle service

Tasks one after the other, under the limits of a session and under those of
the duty cycle, which only a rearm resets. The service charges a task by the
result it returned; the ledgers, which are not in the code, keep the tasks as
they were left.
-/

namespace RobotLlm.Autonomy

open RobotLlm.Lib RobotLlm.Navigation

-- Limits

structure IdleDutyCycleLimits where
  maxTaskAttempts : Nat := 32
  maxPlannerCalls : Nat := 64
  maxStaleReplans : Nat := 16
  maxElapsedMs : Int := 900000
  maxActions : Nat := 5000
  maxTotalMotionMs : Int := 300000
  taskAttemptsOk : Between maxTaskAttempts 1 100000 := by decide
  plannerCallsOk : Between maxPlannerCalls 1 100000 := by decide
  staleReplansOk : Between maxStaleReplans 0 100000 := by decide
  elapsedOk : Between maxElapsedMs 1 86400000 := by decide
  actionsOk : Between maxActions 1 1000000 := by decide
  motionOk : Between maxTotalMotionMs 1 86400000 := by decide

structure IdleSessionLimits where
  maxTasks : Nat := 4
  maxPlannerCalls : Nat := 8
  maxStaleReplans : Nat := 3
  maxElapsedMs : Int := 90000
  maxActions : Nat := 320
  maxTotalMotionMs : Int := 40000
  tasksOk : Between maxTasks 1 1000 := by decide
  plannerCallsOk : Between maxPlannerCalls 1 10000 := by decide
  staleReplansOk : Between maxStaleReplans 0 10000 := by decide
  elapsedOk : Between maxElapsedMs 1 3600000 := by decide
  actionsOk : Between maxActions 1 100000 := by decide
  motionOk : Between maxTotalMotionMs 1 3600000 := by decide

/-- The `_duty_` fields. -/
structure DutyCycle where
  generation : Nat := 1
  startedAtMs : Option Int := none
  taskAttempts : Nat := 0
  plannerCalls : Nat := 0
  staleReplans : Nat := 0
  actions : Nat := 0
  totalMotionMs : Int := 0
deriving DecidableEq

/-- `_duty_exhausted_unlocked`. -/
def DutyCycle.exhausted (duty : DutyCycle) (limits : IdleDutyCycleLimits) (nowMs : Int) : Bool :=
  (match duty.startedAtMs with
    | some startedAtMs => nowMs - startedAtMs ≥ limits.maxElapsedMs
    | none => false) ||
  duty.taskAttempts ≥ limits.maxTaskAttempts || duty.plannerCalls ≥ limits.maxPlannerCalls ||
  duty.actions ≥ limits.maxActions || duty.totalMotionMs ≥ limits.maxTotalMotionMs

structure DutyRemaining where
  tasks : Nat
  plannerCalls : Nat
  staleReplans : Nat
  actions : Nat
  motionMs : Int
  deadlineMs : Int

/-- `_duty_remaining_unlocked`. -/
def DutyCycle.remaining (duty : DutyCycle) (limits : IdleDutyCycleLimits) (nowMs : Int) : DutyRemaining where
  tasks := limits.maxTaskAttempts - duty.taskAttempts
  plannerCalls := limits.maxPlannerCalls - duty.plannerCalls
  staleReplans := limits.maxStaleReplans - duty.staleReplans
  actions := limits.maxActions - duty.actions
  motionMs := max 0 (limits.maxTotalMotionMs - duty.totalMotionMs)
  deadlineMs := duty.startedAtMs.getD nowMs + limits.maxElapsedMs

def DutyRemaining.Spent (d : DutyRemaining) : Prop :=
  d.tasks = 0 ∨ d.plannerCalls = 0 ∨ d.actions = 0 ∨ d.motionMs ≤ 0

instance (d : DutyRemaining) : Decidable d.Spent := inferInstanceAs (Decidable (_ ∨ _ ∨ _ ∨ _))

-- The service

/-- A task that was run: how it ended, and what it left. -/
structure TaskRun (σ : Type) where
  outcome : Except Raised IdleTaskResult
  left : TaskState σ

/-- The tasks run since some moment, the newest first, and how many of the
replans between them were granted. -/
structure Ledger (σ : Type) where
  tasks : List (TaskRun σ) := []
  replans : Nat := 0

def Ledger.record (l : Ledger σ) (run : TaskRun σ) : Ledger σ := { l with tasks := run :: l.tasks }

/-- The service's state. The last three fields are not in the code: what was
run since the last rearm that returned, what was run in the last session, and
the limits of that session. -/
structure ServiceState (σ : Type) where
  shared : IdleShared σ
  nextId : Nat := 1
  duty : DutyCycle := {}
  sinceRearm : Ledger σ := {}
  session : Ledger σ := {}
  sessionLimits : IdleSessionLimits := {}

structure IdleSessionResult where
  sessionId : String
  termination : IdleTermination
  tasks : List IdleTaskResult
  plannerCalls : Nat
  staleReplans : Nat
  tasksCompleted : Nat
  actions : Nat
  totalMotionMs : Int
  elapsedMs : Int
  finalSnapshot : Option NavigationSnapshot
  terminalStopVerified : Bool

/-- The variables of `run_session`. -/
structure SessionBooks where
  tasks : List IdleTaskResult := []
  plannerCalls : Nat := 0
  staleReplans : Nat := 0
  actions : Nat := 0
  totalMotionMs : Int := 0

def SessionBooks.add (books : SessionBooks) (task : IdleTaskResult) : SessionBooks where
  tasks := books.tasks ++ [task]
  plannerCalls := books.plannerCalls + task.plannerCalls
  staleReplans := books.staleReplans + task.staleReplans
  actions := books.actions + task.missionActions
  totalMotionMs := books.totalMotionMs + task.missionMotionMs

/-- The service under the limits of its duty cycle. -/
structure IdleDutyService (σ : Type) extends IdleExplorationService σ where
  dutyCycleLimits : IdleDutyCycleLimits := {}
  /-- `selector_gate.busy`. -/
  selectorBusy : Prog (IdleShared σ) Raised Bool

namespace IdleDutyService

variable {σ : Type} (e : IdleDutyService σ)

abbrev Service (σ : Type) := Prog (ServiceState σ) Raised

def ask (x : Prog (IdleShared σ) Raised α) : Service σ α :=
  Prog.onPart ServiceState.shared (fun shared s => { s with shared := shared }) x

def nowMs : Service σ Int := ask e.nowShared

def onAuthority (f : GoalLeaseCoordinator → Except NavigationContractError α × GoalLeaseCoordinator) : Service σ α :=
  ask fun shared =>
    let shared := e.meanwhile shared
    let r := f shared.world.authority
    (r.1.mapError .contract, { shared with world := { shared.world with authority := r.2 } })

-- Rearming

def unsafeIdleDutyRearm (message : String) : Raised := .contract ⟨"unsafe_idle_duty_rearm", message⟩

/-- The goal under which a rearm observes the plant, from what
`authority.state` shows of the counters. -/
def rearmProbe (c : GoalLeaseCoordinator) : Except NavigationContractError WaypointGoal :=
  if hepoch : Between (c.nextGoalEpoch - 1) 0 counterMax then
    if hrevision : Between (c.nextPlanRevision - 1) 0 counterMax then
      .ok { goalId := "idle-duty-rearm-probe"
            goalEpoch := max 1 (c.nextGoalEpoch - 1)
            planRevision := max 1 (c.nextPlanRevision - 1)
            targetXMm := 0
            targetYMm := 0
            toleranceMm := 1
            targetXOk := between_origin
            targetYOk := between_origin
            toleranceOk := ⟨by decide, by decide⟩
            goalEpochOk := by simp only [Between, counterMax] at hepoch ⊢; omega
            planRevisionOk := by simp only [Between, counterMax] at hrevision ⊢; omega }
    else .error ⟨"invalid_integer", "last_allocated_plan_revision is invalid"⟩
  else .error ⟨"invalid_integer", "last_allocated_goal_epoch is invalid"⟩

/-- The `try` of `rearm_idle_duty_cycle`. -/
def resetDuty : Service σ Nat := do
  let probe ← e.onAuthority fun c => (rearmProbe c, c)
  let snapshot ← ask (e.navigation.observe probe)
  Prog.failIf snapshot.Hazard (unsafeIdleDutyRearm "Idle duty cycle can only re-arm from a safe stop")
  let generation := (← get).duty.generation + 1
  modify fun s => { s with duty := { generation := generation } }
  return generation

def rearmIdleDutyCycle : Service σ Nat := do
  let busy ← ask e.selectorBusy
  Prog.failIf (busy = true) (unsafeIdleDutyRearm "Wait for the outstanding selector before re-arming")
  let guard ← e.onAuthority (·.beginIdleDutyRearm)
  let reset ← Prog.attempt e.resetDuty
  e.onAuthority (·.finishIdleDutyRearm guard)
  let generation ← Prog.ofExcept reset
  modify fun s => { s with sinceRearm := {} }
  return generation

-- Tasks

def startOf (s : ServiceState σ) : TaskState σ := { episode := { shared := s.shared }, nextId := s.nextId }

/-- One `_run_task`, recorded. -/
def task (b : TaskBudget) : Service σ IdleTaskResult := fun s =>
  let run : TaskRun σ := ⟨(e.runTask b (startOf s)).1, (e.runTask b (startOf s)).2⟩
  (run.outcome, { s with
    shared := run.left.episode.shared
    nextId := run.left.nextId
    sinceRearm := s.sinceRearm.record run
    session := s.session.record run })

def startDuty (startedAtMs : Int) : Service σ Unit :=
  modify fun s => { s with duty := { s.duty with startedAtMs := s.duty.startedAtMs.or (some startedAtMs) } }

/-- `_account_duty_task_unlocked`, for a cycle that has started. -/
def accountDutyTask (task : IdleTaskResult) : Service σ Unit :=
  modify fun s => { s with duty := { s.duty with
    taskAttempts := s.duty.taskAttempts + 1
    plannerCalls := s.duty.plannerCalls + task.plannerCalls
    staleReplans := s.duty.staleReplans + task.staleReplans
    actions := s.duty.actions + task.missionActions
    totalMotionMs := s.duty.totalMotionMs + task.missionMotionMs } }

def charge (startedAtMs : Int) (task : IdleTaskResult) : Service σ Unit :=
  if task.leaseGeneration = none then pure ()
  else do
    startDuty startedAtMs
    accountDutyTask task

def chargedTask (b : TaskBudget) (startedAtMs : Int) : Service σ IdleTaskResult := do
  let task ← e.task b
  charge startedAtMs task
  return task

def beginSession (limits : IdleSessionLimits) : Service σ Unit :=
  modify fun s => { s with session := {}, sessionLimits := limits }

def onceBudget (limits : IdleSessionLimits) (duty : DutyRemaining) (startedAtMs : Int) : TaskBudget where
  remainingTasks := 1
  remainingPlannerCalls := min limits.maxPlannerCalls duty.plannerCalls
  remainingStaleReplans := min limits.maxStaleReplans duty.staleReplans
  remainingActions := min limits.maxActions duty.actions
  remainingMotionMs := min limits.maxTotalMotionMs duty.motionMs
  sessionDeadlineMs := min (startedAtMs + limits.maxElapsedMs) duty.deadlineMs

def emptyTask : IdleTaskResult :=
  { termination := .sessionBudgetExhausted, trace := ["DUTY_CYCLE_BUDGET_EXHAUSTED"] }

def runOnce (limits : IdleSessionLimits) : Service σ IdleTaskResult := do
  beginSession limits
  let started ← e.nowMs
  let duty := (← get).duty
  if duty.exhausted e.dutyCycleLimits started = true ∨ (duty.remaining e.dutyCycleLimits started).Spent then
    return emptyTask
  else e.chargedTask (onceBudget limits (duty.remaining e.dutyCycleLimits started) started) started

-- Sessions

def sessionBudget (limits : IdleSessionLimits) (books : SessionBooks) (duty : DutyRemaining) (deadlineMs : Int) :
    TaskBudget where
  remainingTasks := limits.maxTasks - books.tasks.length
  remainingPlannerCalls := min (limits.maxPlannerCalls - books.plannerCalls) duty.plannerCalls
  remainingStaleReplans := min (limits.maxStaleReplans - books.staleReplans) duty.staleReplans
  remainingActions := min (limits.maxActions - books.actions) duty.actions
  remainingMotionMs := min (limits.maxTotalMotionMs - books.totalMotionMs) duty.motionMs
  sessionDeadlineMs := min deadlineMs duty.deadlineMs

/-- Whether the budget of the session or of the duty cycle is used up. -/
def sessionSpent (limits : IdleSessionLimits) (books : SessionBooks) (duty : DutyRemaining) (deadlineMs nowMs : Int) :
    Prop :=
  nowMs ≥ deadlineMs ∨ books.plannerCalls ≥ limits.maxPlannerCalls ∨ books.actions ≥ limits.maxActions ∨
    books.totalMotionMs ≥ limits.maxTotalMotionMs ∨ duty.Spent

instance {now : Int} : Decidable (sessionSpent limits books duty deadlineMs now) :=
  inferInstanceAs (Decidable (_ ∨ _ ∨ _ ∨ _ ∨ _))

/-- Charge the replan after a stale mission, if there is one left. -/
def grantReplan (limits : IdleSessionLimits) (books : SessionBooks) : Service σ (Option SessionBooks) := do
  let now ← e.nowMs
  if books.staleReplans < limits.maxStaleReplans ∧
      0 < ((← get).duty.remaining e.dutyCycleLimits now).staleReplans then
    modify fun s => { s with
      duty := { s.duty with staleReplans := s.duty.staleReplans + 1 }
      sinceRearm := { s.sinceRearm with replans := s.sinceRearm.replans + 1 }
      session := { s.session with replans := s.session.replans + 1 } }
    return some { books with staleReplans := books.staleReplans + 1 }
  else return none

/-- The books to go on with after a task, if the session goes on. -/
def goOn (limits : IdleSessionLimits) (books : SessionBooks) (task : IdleTaskResult) :
    Service σ (Option SessionBooks) :=
  if task.completed = true then pure (some books)
  else if task.termination = .missionStale then e.grantReplan limits books
  else pure none

/-- The loop of `run_session`, for the number of tasks that are left. -/
def sessionLoop (e : IdleDutyService σ) (limits : IdleSessionLimits) (deadlineMs : Int) :
    Nat → SessionBooks → Service σ (IdleTermination × SessionBooks)
  | 0, books => return (.sessionBudgetExhausted, books)
  | left + 1, books => do
    let now ← e.nowMs
    let duty := (← get).duty
    if duty.exhausted e.dutyCycleLimits now = true ∨
        sessionSpent limits books (duty.remaining e.dutyCycleLimits now) deadlineMs now then
      return (.sessionBudgetExhausted, books)
    else
      let task ← e.chargedTask (sessionBudget limits books (duty.remaining e.dutyCycleLimits now) deadlineMs) now
      match ← e.goOn limits (books.add task) task with
      | some books => e.sessionLoop limits deadlineMs left books
      | none => return (task.termination, books.add task)

def runSession (limits : IdleSessionLimits) : Service σ IdleSessionResult := do
  beginSession limits
  let started ← e.nowMs
  let (termination, books) ← e.sessionLoop limits (started + limits.maxElapsedMs) limits.maxTasks {}
  let now ← e.nowMs
  let last := books.tasks.getLast?
  let final := last.bind (·.finalSnapshot)
  return {
    sessionId := e.sessionId
    termination := termination
    tasks := books.tasks
    plannerCalls := books.plannerCalls
    staleReplans := books.staleReplans
    tasksCompleted := (books.tasks.filter (·.completed)).length
    actions := books.actions
    totalMotionMs := books.totalMotionMs
    elapsedMs := max 0 (now - started)
    finalSnapshot := final
    terminalStopVerified := last.any (·.terminalStopVerified) && final.any fun snapshot => !snapshot.motorsRunning }

-- Calls

inductive IdleCall (σ : Type) where
  | runOnce (limits : IdleSessionLimits)
  | runSession (limits : IdleSessionLimits)
  | rearmIdleDutyCycle
  /-- What the world and the other threads made of it between two calls. -/
  | elsewhere (shared : IdleShared σ)

inductive IdleAnswer where
  | task (r : Except Raised IdleTaskResult)
  | session (r : Except Raised IdleSessionResult)
  | generation (r : Except Raised Nat)
  | silence

/-- The service as its callers see it, one call under its lock after the
other. -/
def idleService : Machine (ServiceState σ) (IdleCall σ) IdleAnswer where
  step s
    | .runOnce limits => (.task (e.runOnce limits s).1, (e.runOnce limits s).2)
    | .runSession limits => (.session (e.runSession limits s).1, (e.runSession limits s).2)
    | .rearmIdleDutyCycle => (.generation (e.rearmIdleDutyCycle s).1, (e.rearmIdleDutyCycle s).2)
    | .elsewhere shared => (.silence, { s with shared := shared })

end IdleDutyService

end RobotLlm.Autonomy
