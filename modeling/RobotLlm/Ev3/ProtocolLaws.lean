import RobotLlm.Ev3.GrowthLaws
import RobotLlm.Ev3.MotorOwnerLaws
import RobotLlm.Ev3.Protocol
import RobotLlm.Ev3.SupervisorLaws

/-!
# What a stop request is answered

A stop or shutdown that is answered with success has stopped the motors, or
found the supervisor closed. Whatever it is answered, nothing is under way
afterwards, if the request was for this controller and came to its thread.
-/

namespace RobotLlm.Ev3

open RobotLlm.Lib Prog

/-- The stop in the record was confirmed, and found nothing wrong. -/
def Fault.Clean (fault : Fault) : Prop := fault.stopConfirmed = true ∧ fault.stopErrors = [] ∧ fault.faultTokens = []

namespace EV3Supervisor

variable {c : SupervisorConfig} {s s' : EV3Supervisor} {h₀ : Hardware} {code detail event : String}

/-- A supervisor that booted, after any of its calls. -/
def Reachable (c : SupervisorConfig) (s : EV3Supervisor) : Prop :=
  ∃ (hw : Hardware) (maximumEvents : Nat) (s₀ : EV3Supervisor) (h : List (SupervisorCall × Except PyError Reply)),
    boot c (booting hw maximumEvents) = (.ok (), s₀) ∧ (ev3Supervisor c).Runs Machine.always s₀ h s

theorem Reachable.consistent (hr : Reachable c s) : Consistent False s := by
  obtain ⟨hw, maximumEvents, s₀, h, hb, hr⟩ := hr
  exact runs_consistent (fun _ _ _ h => h.elim) ((boot_run (booting_consistent hw maximumEvents) rfl).ok hb) hr

-- What the answer of a stop can be believed

/-- If `stop` was confirmed without errors, the motors were verified to stand. -/
def Proves (before : List Happening) (stop : StopResult) (s : EV3Supervisor) : Prop :=
  stop.stopConfirmed = true → stop.errors = [] → StopProved before s.owner.hw.log

theorem Proves.seen {before : List Happening} {stop : StopResult} (h : Proves before stop s) (hs : s.Seen s') :
    Proves before stop s' := fun hc he => (h hc he).read hs.read

theorem finishActiveStop_proves (hl : h₀.Later s.owner.hw) :
    Triple (finishActiveStop c) s (Proves h₀.log) (fun _ _ => True) :=
  Triple.bind (Triple.onPart ((MotorOwner.finishActive_proved hl false).mono (fun _ _ h => h) fun _ _ h => h))
    fun _ _ h => Triple.pure h

theorem combined_errors (e : PyError) (phase : String) (retry : StopResult) :
    (MotorOwner.combineStopResults [(phase, MotorOwner.failedStopResult e), (phase ++ "_retry", retry)]).errors ≠ [] := by
  simp [MotorOwner.combineStopResults, MotorOwner.failedStopResult]

theorem finishActiveWithRetry_proves (hl : h₀.Later s.owner.hw) (phase : String) {E : PyError → EV3Supervisor → Prop} :
    Triple (finishActiveWithRetry c phase) s (fun r => Proves h₀.log r.1) E := by
  refine Triple.bind (Triple.attempt (P := fun r s' => ∀ stop, r = .ok stop → Proves h₀.log stop s')
    ((finishActiveStop_proves hl).mono (fun _ _ h stop hs => by cases hs; exact h) fun _ _ _ _ hs => by cases hs)) ?_
  intro r s₁ h₁
  cases r with
  | ok stop => exact Triple.pure (h₁ stop rfl)
  | error e =>
    refine Triple.bind (Triple.attempt (P := fun _ _ => True) (Triple.unknown _ _)) fun retry s₂ _ =>
      Triple.pure fun _ he => ?_
    exact absurd he (combined_errors e phase _)

-- What the state can be believed

/-- Where the state says that the motors stand, they were verified to. -/
structure Backed (before : List Happening) (s : EV3Supervisor) : Prop where
  isOpen : s.state ≠ .closed
  disarmed : s.state = .disarmed → StopProved before s.owner.hw.log
  fault : ∀ fault ∈ s.fault, fault.Clean → StopProved before s.owner.hw.log

theorem Backed.seen {before : List Happening} (hb : Backed before s) (h : s.Seen s') : Backed before s' where
  isOpen := by rw [h.state]; exact hb.isOpen
  disarmed hs := (hb.disarmed (h.state.symm.trans hs)).read h.read
  fault fault hf hc := (hb.fault fault (h.fault ▸ hf) hc).read h.read

theorem updateFault_backed {before : List Happening} (hs : s.state = .faultLatched) {f : Fault → Fault}
    (hf : ∀ fault, (f fault).Clean → StopProved before s.owner.hw.log) :
    Triple (updateFault f) s (fun _ => Backed before) (fun e _ => e.code = none) := by
  refine Triple.get_bind (Triple.failIf (fun _ => rfl) fun _ => Triple.modify ?_)
  refine ⟨by simp [hs], by simp [hs], fun fault hfault => ?_⟩
  obtain ⟨fault', -, rfl⟩ := Option.mem_map.mp hfault
  exact hf fault'

theorem finishActiveWithRetry_view (phase : String) : Keeps ViewKept (finishActiveWithRetry c phase) := by
  refine .bind (.attempt finishActiveStop_view) fun r => ?_
  cases r with
  | ok stop => exact .pure _
  | error e => exact .bind (.attempt finishActiveStop_view) fun _ => .pure _

theorem faultRetry_backed (hs : s.state = .faultLatched) (hl : h₀.Later s.owner.hw) :
    Triple (faultRetry c) s (fun _ => Backed h₀.log) (fun e _ => e.code = none) := by
  refine Triple.bind (Triple.attempt (P := fun r s' => s'.state = .faultLatched ∧ ∀ stop, r = .ok stop → Proves h₀.log stop s')
    (((finishActiveStop_proves hl).and (finishActiveStop_view.triple s)).mono ?_ ?_)) ?_
  · rintro stop s₁ ⟨hp, hv⟩
    exact ⟨(congrArg View.state hv).trans hs, fun stop hs => by cases hs; exact hp⟩
  · rintro e s₁ ⟨-, hv⟩
    exact ⟨(congrArg View.state hv).trans hs, fun stop hs => by cases hs⟩
  · rintro retry s₁ ⟨hs₁, hp⟩
    cases retry with
    | ok stop => exact updateFault_backed hs₁ fun _ hc => hp stop rfl hc.1 hc.2.1
    | error e => exact updateFault_backed hs₁ fun _ hc => absurd hc.2.1 (by simp [Fault.retried, MotorOwner.failedStopResult])

theorem emit_seen : Triple (emit c event) s (fun _ => s.Seen) (fun _ _ => True) :=
  emit_triple (fun _ _ _ => trivial) fun _ _ _ => Triple.unknown _ _

theorem latched_backed {stop : StopResult} (hp : Proves h₀.log stop s) :
    Backed h₀.log (latched code detail stop s) := by
  refine ⟨by simp [latched], by simp [latched], fun fault hf hc => ?_⟩
  obtain rfl : faultOf code detail stop = fault := by simpa [latched] using hf
  exact hp hc.1 hc.2.1

theorem enterFault_backed {stop : StopResult} (hn : s.state ≠ .faultLatched) (hl : h₀.Later s.owner.hw)
    (hp : Proves h₀.log stop s) :
    Triple (enterFault c code detail (some stop)) s (fun _ => Backed h₀.log) (fun _ _ => True) := by
  refine Triple.get_bind (Triple.ite (fun hs => absurd hs hn) fun _ => Triple.step rfl (Triple.modify_bind ?_))
  have hb : Backed h₀.log (latched code detail stop s) := latched_backed hp
  refine Triple.tryCatch (F := fun e s' => e.code.isSome = true → Backed h₀.log s')
    (Triple.mono (E := fun e s' => e.code.isSome = true → Backed h₀.log s')
      (emit_triple (fun _ _ h _ => hb.seen h) fun s₁ h₁ _ => ?_) (fun _ _ h => hb.seen h) fun _ _ h => h) ?_
  · have hs₁ : s₁.state = .faultLatched := h₁.state
    refine Triple.get_bind (Triple.ite (fun _ => ?_) fun hn₁ => absurd hs₁ hn₁)
    exact (faultRetry_backed hs₁ (hl.trans h₁.read.later)).mono (fun _ _ h _ => h) fun e _ he hc => by simp [he] at hc
  · intro e s₁ h₁
    exact Triple.ite (fun hc => Triple.pure (h₁ hc)) fun _ => Triple.throw trivial

theorem stopFaulted_backed {stop : StopResult} (hp : Proves h₀.log stop s) :
    Triple (stopFaulted c stop) s (fun _ => Backed h₀.log) (fun _ _ => True) := by
  refine Triple.modify_bind (Triple.bind (Q := fun _ => Backed h₀.log) ?_ fun _ s₁ h₁ =>
    emit_seen.mono (fun _ _ h => h₁.seen h) fun _ _ h => h)
  have hf (fault : Fault) (hc : Fault.Clean { fault with
      stopConfirmed := stop.stopConfirmed, stopErrors := stop.errors, faultTokens := stop.faultTokens }) :
      StopProved h₀.log s.owner.hw.log := hp hc.1 hc.2.1
  exact (updateFault_backed (s := { s with state := .faultLatched }) rfl hf).mono (fun _ _ h => h) fun _ _ _ => trivial

theorem stopUnfaulted_backed {stop : StopResult} {error : Option PyError} (hn : s.state ≠ .faultLatched)
    (hl : h₀.Later s.owner.hw) (hp : Proves h₀.log stop s) :
    Triple (stopUnfaulted c stop error) s (fun _ => Backed h₀.log) (fun _ _ => True) := by
  refine Triple.ite (fun hc => Triple.modify_bind (emit_seen.mono (fun _ _ h => Backed.seen ?_ h) fun _ _ h => h))
    fun _ => enterFault_backed hn hl hp
  exact ⟨by simp, fun _ => hp hc.2.1 hc.2.2, by simp⟩

theorem recordStop_backed {r : StopResult × Option PyError} (wasFaulted : Bool)
    (hw : wasFaulted = false → s.state ≠ .faultLatched) (hl : h₀.Later s.owner.hw) (hp : Proves h₀.log r.1 s) :
    Triple (recordStop c wasFaulted r) s (fun _ => Backed h₀.log) (fun _ _ => True) :=
  Triple.ite (fun _ => stopFaulted_backed hp) fun hn => stopUnfaulted_backed (hw (by simpa using hn)) hl hp

theorem Backed.verified {before : List Happening} (hb : Backed before s) {now : Int}
    (hv : SupervisorProtocol.statusIsVerified (s.statusAt c now) = true) : StopProved before s.owner.hw.log := by
  unfold SupervisorProtocol.statusIsVerified at hv
  split at hv
  next hs => exact absurd hs hb.isOpen
  split at hv
  next => simp at hv
  split at hv
  next hs => exact hb.disarmed hs
  rw [Bool.and_eq_true] at hv
  cases hf : s.fault with
  | none => simp [statusAt, hf] at hv
  | some fault =>
    simp only [statusAt, hf, Bool.and_eq_true, List.isEmpty_iff] at hv
    exact hb.fault fault hf ⟨hv.2.1.1, hv.2.1.2, hv.2.2⟩

theorem stop_backed (hl : h₀.Later s.owner.hw) :
    Triple (stop c) s
      (fun reply s' => SupervisorProtocol.stopIsVerified reply = true →
        s.isClosed = true ∨ StopProved h₀.log s'.owner.hw.log)
      (fun _ _ => True) := by
  refine Triple.bind (Q := fun _ s' => s' = s) (Triple.get_bind (Triple.check (fun _ => trivial) fun _ => rfl)) ?_
  rintro _ s rfl
  refine Triple.get_bind (Triple.ite (fun hc => Triple.pure fun _ => .inl hc) fun _ => Triple.get_bind ?_)
  refine Triple.bind (((finishActiveWithRetry_proves (E := fun _ _ => True) hl _).and
    (((finishActiveWithRetry_view _).triple s).and ((finishActiveWithRetry_grows _).triple s))).mono
    (fun _ _ h => h) fun _ _ _ => trivial) ?_
  rintro r s₁ ⟨hp, hv, hg⟩
  refine Triple.modify_bind (Triple.bind (recordStop_backed _ ?_ (hl.trans hg.hw) hp) ?_)
  · intro hw hs
    have hs₁ : s₁.state = s.state := congrArg View.state hv
    exact absurd (hs₁.symm.trans hs) (by simpa using hw)
  · intro _ s₂ hb
    refine Triple.bind (Q := fun status (s' : EV3Supervisor) => SupervisorProtocol.statusIsVerified status = true →
      StopProved h₀.log s'.owner.hw.log) ?_ fun status s' h => Triple.pure fun hv => .inr (h hv)
    refine Triple.bind ((nowMs_seen.triple s₂).mono (fun _ _ h => hb.seen h) fun _ _ _ => trivial) ?_
    exact fun now s₃ hb₃ => Triple.get_bind (Triple.pure fun hv => hb₃.verified hv)

-- What a stop leaves

structure Cleared (s : EV3Supervisor) : Prop where
  session : s.sessionId = none
  command : s.activeCommandId = none
  motion : s.owner.active = none

variable {strict : Prop}

theorem Cleared.same (h : s.Cleared) (hs : s.Same s') : s'.Cleared :=
  ⟨hs.sessionId.trans h.session, hs.activeCommandId.trans h.command, hs.owner.active_none h.motion⟩

theorem Faulted.cleared (h : s.Faulted) : s.Cleared := by
  obtain ⟨code, hl⟩ := h
  exact ⟨hl.session, hl.command, hl.motion⟩

theorem Consistent.cleared_of_closed (hc : Consistent strict s) (h : s.isClosed = true) : s.Cleared := by
  obtain ⟨hm, hcommand⟩ := hc.idle (by simp [hc.closed.mp h])
  exact ⟨hc.closedSession h, hcommand, hm⟩

theorem emit_cleared (hr : s.Ready) (h : s.Cleared) : Settles (emit c event) s Cleared :=
  (emit_triple (fun _ _ hs => h.same hs.toSame) fun _ hs _ =>
    (enterFaultSilently_run (hr.same hs.toSame) (.inl rfl)).mono (fun _ _ h => h.cleared) fun _ _ h => h.cleared).mono
    (fun _ _ hs => h.same hs.toSame) fun _ _ h => h

theorem stopUnfaulted_cleared (hr : s.Ready) (h : s.Halted s') (stop : StopResult) (error : Option PyError) :
    Settles (stopUnfaulted c stop error) { s'.invalidateSession with activeCommandId := none } Cleared := by
  refine Triple.ite (fun _ => Triple.modify_bind (emit_cleared ?_ ⟨rfl, rfl, h.owner.1⟩)) fun _ => ?_
  · have hd : Consistent True _ := h.disarmed hr.isOpen
    exact hd.ready (hr.halted h).isOpen
  · exact (enterFault_run (hr.invalidated h) (.inr h.owner.1)).mono (fun _ _ h => h.cleared) fun _ _ h => h.cleared

theorem stop_cleared (hc : Consistent strict s) (hthread : s.OnDispatchThread) : Settles (stop c) s Cleared := by
  by_cases hs : s.state = .faultLatched
  · obtain ⟨code, hl⟩ := hc.faulted_of_state hs
    exact (stop_kept (latched_kept c code) hl).mono (fun _ _ h => Faulted.cleared ⟨code, h⟩) fun _ _ h => Faulted.cleared ⟨code, h⟩
  refine Triple.bind (Q := fun _ s' => s' = s)
    (Triple.get_bind (Triple.check (fun hn => absurd hthread hn) fun _ => rfl)) ?_
  rintro _ s rfl
  refine Triple.get_bind (Triple.ite (fun h => Triple.pure (hc.cleared_of_closed h)) fun hopen => Triple.get_bind ?_)
  refine Triple.bind (finishActiveWithRetry_run hc.ownerClosed _) fun r s₁ h₁ => Triple.modify_bind ?_
  simp only [recordStop, hs, decide_false]
  refine Triple.bind (stopUnfaulted_cleared (hc.ready (by simpa using hopen)) h₁ r.1 r.2) fun _ s₂ h₂ => ?_
  exact Triple.frame_bind status_same (fun _ _ h => h₂.same h) fun _ _ h => Triple.pure (h₂.same h)

end EV3Supervisor

-- The protocol

namespace SupervisorProtocol

open EV3Supervisor

variable {c : ProtocolConfig} {p : SupervisorProtocol} {request : SupervisorRequest} {h₀ : Hardware}

theorem onSupervisor_triple {x : Sup α} {Q : α → EV3Supervisor → Prop} {E : PyError → EV3Supervisor → Prop}
    (h : Triple x p.supervisor Q E) :
    Triple (onSupervisor x) p (fun a p' => Q a p'.supervisor) (fun e p' => E e p'.supervisor) :=
  Triple.onPart (h.mono (fun _ _ h => h) fun _ _ h => h)

theorem dispatch_stop (hs : request.operation.isStop = true) (cancellation : Option Cancellation) :
    dispatch c request cancellation = dispatchStop c := by
  unfold dispatch
  cases h : request.operation <;> simp_all [Operation.isStop]

theorem answer_stop (hs : request.operation.isStop = true) (cancellation : Option Cancellation)
    (hl : h₀.Later p.supervisor.owner.hw) :
    Triple (answer c request cancellation) p
      (fun response p' => response.ok = true →
        p.supervisor.isClosed = true ∨ StopProved h₀.log p'.supervisor.owner.hw.log)
      (fun _ _ => True) := by
  refine Triple.tryCatch (F := fun _ _ => True) ?_ fun e p' _ => ?_
  · rw [dispatch_stop hs]
    refine Triple.bind ?_ fun _ _ h => Triple.pure fun _ => h
    refine Triple.bind (onSupervisor_triple (stop_backed hl)) fun reply p₁ h => ?_
    exact Triple.failIf (fun _ => trivial) fun hv => Triple.pure (h (by simpa using hv))
  · exact Triple.ite (fun _ => Triple.pure fun h => by simp [errorResponse, Response.ok] at h) fun _ => Triple.throw trivial

theorem answer_cleared (hs : request.operation.isStop = true) (cancellation : Option Cancellation) {strict : Prop}
    (hc : Consistent strict p.supervisor) (hthread : p.supervisor.OnDispatchThread) :
    Settles (answer c request cancellation) p fun p' => p'.supervisor.Cleared := by
  refine Triple.tryCatch (F := fun _ p' => p'.supervisor.Cleared) ?_ fun e p' h => ?_
  · rw [dispatch_stop hs]
    refine Triple.bind ?_ fun _ _ h => Triple.pure h
    refine Triple.bind (onSupervisor_triple (stop_cleared hc hthread)) fun reply p₁ h => ?_
    exact Triple.failIf (fun _ => h) fun _ => Triple.pure h
  · exact Triple.ite (fun _ => Triple.pure h) fun _ => Triple.throw h

def Looked (p p' : SupervisorProtocol) : Prop := p.supervisor.Seen p'.supervisor

instance : IsPreorder SupervisorProtocol Looked where
  refl p := refl_of Seen p.supervisor
  trans _ _ _ := trans_of Seen

theorem dispatchTime_looked (dispatchAtMs : Option Int) : Keeps Looked (dispatchTime dispatchAtMs) := by
  cases dispatchAtMs with
  | some at_ => exact .pure _
  | none => exact .onPart (fun _ _ h => h) nowMs_seen

/-- The request is for this controller, came to its thread, and the clock can
be read. -/
structure Admitted (c : ProtocolConfig) (p : SupervisorProtocol) (request : SupervisorRequest)
    (dispatchAtMs : Option Int) : Prop where
  controller : request.controllerId = c.controllerId
  thread : p.supervisor.OnDispatchThread
  time : ∃ now p₁, dispatchTime dispatchAtMs p = (.ok now, p₁) ∧ 0 ≤ now

theorem execute_stop (hs : request.operation.isStop = true) (dispatchAtMs : Option Int)
    (cancellation : Option Cancellation) :
    Triple (execute c request dispatchAtMs cancellation) p
      (fun response p' => response.ok = true →
        p.supervisor.isClosed = true ∨ StopProved p.supervisor.owner.hw.log p'.supervisor.owner.hw.log)
      (fun _ _ => True) := by
  refine Triple.ite (fun _ => Triple.pure fun h => by simp [errorResponse, Response.ok] at h) fun _ => ?_
  refine Triple.frame_bind (dispatchTime_looked dispatchAtMs) (fun _ _ _ => trivial) fun now p₁ h₁ => ?_
  refine Triple.failIf (fun _ => trivial) fun _ => ?_
  rw [if_neg (by simp [hs])]
  exact (answer_stop hs cancellation h₁.read.later).mono (fun _ _ h hok => (h hok).imp h₁.isClosed.symm.trans id) fun _ _ h => h

theorem execute_cleared (hs : request.operation.isStop = true) {dispatchAtMs : Option Int}
    (cancellation : Option Cancellation) {strict : Prop} (hc : Consistent strict p.supervisor)
    (ha : Admitted c p request dispatchAtMs) :
    Settles (execute c request dispatchAtMs cancellation) p fun p' => p'.supervisor.Cleared := by
  obtain ⟨now, p₁, htime, hnow⟩ := ha.time
  have h₁ : p.supervisor.Seen p₁.supervisor := by
    have h := dispatchTime_looked dispatchAtMs p
    rwa [htime] at h
  refine Triple.ite (fun h => absurd ha.controller h) fun _ => Triple.step htime ?_
  refine Triple.failIf (fun h => absurd hnow (by omega)) fun _ => ?_
  rw [if_neg (by simp [hs])]
  refine answer_cleared hs cancellation (hc.same h₁.toSame) ?_
  have ht : p.supervisor.OnDispatchThread := ha.thread
  unfold OnDispatchThread at ht ⊢
  rw [h₁.read.thread, ← ht]
  exact congrArg View.dispatchThreadId h₁.view

/-- What a stop or shutdown is answered, at any time after the start. -/
theorem stop_request_answered (hr : Reachable c.toSupervisorConfig p.supervisor)
    (hs : request.operation.isStop = true) (dispatchAtMs : Option Int) (cancellation : Option Cancellation) :
    Triple (execute c request dispatchAtMs cancellation) p
      (fun response p' => response.ok = true →
        p.supervisor.isClosed = true ∨ StopProved p.supervisor.owner.hw.log p'.supervisor.owner.hw.log)
      (fun _ _ => True) ∧
    (Admitted c p request dispatchAtMs →
      Settles (execute c request dispatchAtMs cancellation) p fun p' => p'.supervisor.Cleared) :=
  ⟨execute_stop hs dispatchAtMs cancellation, execute_cleared hs cancellation hr.consistent⟩

/-- `config/ev3rstorm.json`, in a process without motion. -/
def ev3rstormProtocol : ProtocolConfig where
  toSupervisorConfig := ev3rstorm
  controllerId := "ev3"
  robotId := "robot"
  controllerInstanceId := "instance"
  allowMotion := false
  irRoamer := false
  experimentMaxAbsSpeedDps := 300
  experimentMaxDurationMs := 600
  profileOk := by decide

def stopRequest (controllerId : String) : SupervisorRequest := ⟨controllerId, "request", .stop, 1000, 0⟩

def claimed (hw : Hardware) : SupervisorProtocol :=
  .start ev3rstormProtocol ((ev3Supervisor ev3rstorm).runList (booted hw) [.claim "owner"]).2

/-- A motor still runs at the first reading of the stop, and stands at the second. -/
def slowToStop : Hardware :=
  answering (bootAnswers ++ [named 0 "session"] ++ [quiet 0, quiet 0] ++ (stopAnswers 0).set 10 (named 0 "running")) 0

theorem claimed_reachable {hw : Hardware} (hb : (boot ev3rstorm (booting hw 512)).1 = .ok ()) :
    Reachable ev3rstormProtocol.toSupervisorConfig (claimed hw).supervisor :=
  ⟨hw, 512, booted hw, ((ev3Supervisor ev3rstorm).runList (booted hw) [.claim "owner"]).1, Prod.ext hb rfl,
    Machine.runs_runList (Machine.stepsOk_always (ev3Supervisor ev3rstorm) (booted hw) [.claim "owner"])⟩

theorem stop_request_answered_sample :
    Triple (execute ev3rstormProtocol (stopRequest "ev3") (some 0) none) (claimed slowToStop)
      (fun response p' => response.ok = true → (claimed slowToStop).supervisor.isClosed = true ∨
        StopProved (claimed slowToStop).supervisor.owner.hw.log p'.supervisor.owner.hw.log)
      (fun _ _ => True) ∧
    (Admitted ev3rstormProtocol (claimed slowToStop) (stopRequest "ev3") (some 0) →
      Settles (execute ev3rstormProtocol (stopRequest "ev3") (some 0) none) (claimed slowToStop)
        fun p' => p'.supervisor.Cleared) :=
  stop_request_answered (claimed_reachable (by decide +kernel)) rfl _ _

def StillTwice (r : StopRecord) : Prop :=
  ∃ last older, r.rounds = last :: older ∧ Still last.states ∧
    ∃ earlier ∈ older, earlier.Complete r.paths ∧ Still earlier.states ∧ earlier.positions = last.positions

theorem lastStop_append (h : lastStop newer = some record) (older : List Happening) :
    lastStop (newer ++ older) = some record := by
  induction newer with
  | nil => simp [lastStop] at h
  | cons e newer ih =>
    cases e with
    | stopEnded r => exact h
    | _ => exact ih h

theorem not_still_of_running {path : String} (hp : (path, "running") ∈ states) : ¬ Still states := by
  intro hs
  obtain ⟨tokens, ht, ha, -⟩ := hs _ hp
  have hrunning : stateTokens "running" = .ok [.running] := by decide +kernel
  rw [hrunning] at ht
  cases ht
  simp [MotorToken.Active] at ha

/-- The first of the two readings may see a motor run, and a stop for another
controller leaves the session. -/
theorem stop_answer_overstated :
    (¬ ∀ (c : ProtocolConfig) (p p' : SupervisorProtocol) (request : SupervisorRequest) (dispatchAtMs : Option Int)
        (cancellation : Option Cancellation) (response : Response),
      Reachable c.toSupervisorConfig p.supervisor → request.operation.isStop = true →
      execute c request dispatchAtMs cancellation p = (.ok response, p') → response.ok = true →
      p.supervisor.isClosed = true ∨ ∃ newer record,
        p'.supervisor.owner.hw.log = newer ++ p.supervisor.owner.hw.log ∧ lastStop newer = some record ∧ StillTwice record) ∧
    ¬ ∀ (c : ProtocolConfig) (p p' : SupervisorProtocol) (request : SupervisorRequest) (dispatchAtMs : Option Int)
        (cancellation : Option Cancellation) (response : Response),
      Reachable c.toSupervisorConfig p.supervisor → request.operation.isStop = true →
      execute c request dispatchAtMs cancellation p = (.ok response, p') → p'.supervisor.Cleared := by
  have hr : Reachable ev3rstormProtocol.toSupervisorConfig (claimed slowToStop).supervisor :=
    claimed_reachable (by decide +kernel)
  constructor
  · intro hall
    have hok : (execute ev3rstormProtocol (stopRequest "ev3") (some 0) none (claimed slowToStop)).1.map Response.ok =
        .ok true := by decide +kernel
    have hopen : (claimed slowToStop).supervisor.isClosed = false := by decide +kernel
    have hseen : (lastStop (execute ev3rstormProtocol (stopRequest "ev3") (some 0) none
        (claimed slowToStop)).2.supervisor.owner.hw.log).map (fun r => r.rounds.map StopRound.states) =
        some [[("motor0", ""), ("motor1", ""), ("motor2", "")],
          [("motor0", "running"), ("motor1", ""), ("motor2", "")]] := by decide +kernel
    rcases hrun : execute ev3rstormProtocol (stopRequest "ev3") (some 0) none (claimed slowToStop) with
      ⟨_ | response, p'⟩ <;> rw [hrun] at hok hseen
    · simp [Except.map] at hok
    have h := hall _ _ p' _ _ _ response hr rfl hrun (by simpa [Except.map] using hok)
    obtain ⟨newer, record, hlog, hlast, last, older, hrounds, -, earlier, he, -, hstill, -⟩ :=
      h.resolve_left (by simp [hopen])
    rw [hlog, lastStop_append hlast, Option.map_some, hrounds] at hseen
    have hstates := List.mem_map_of_mem (f := StopRound.states) he
    simp only [List.map_cons, Option.some.injEq, List.cons.injEq] at hseen
    rw [hseen.2, List.mem_singleton] at hstates
    have hrunning : ("motor0", "running") ∈ earlier.states := by simp [hstates]
    exact not_still_of_running hrunning hstill
  · intro hall
    have hsession : (execute ev3rstormProtocol (stopRequest "other") (some 0) none
        (claimed slowToStop)).2.supervisor.sessionId = some "session" := by decide +kernel
    have hrun : execute ev3rstormProtocol (stopRequest "other") (some 0) none (claimed slowToStop) =
      (.ok _, claimed slowToStop) := rfl
    rw [hrun] at hsession
    have h := hall _ _ _ _ _ _ _ hr rfl hrun
    simp [h.session] at hsession

end SupervisorProtocol

end RobotLlm.Ev3
