import RobotLlm.Ev3.Protocol
import RobotLlm.Ev3.StartLaws

/-!
# Starts are paid for

A process has a budget of motor starts, and the roamer's one of their
duration too. A drive pays before it is tried and is never paid back; a
session takes each sequence number and each command id once. So the starts of
a run stay within the budgets, whatever happens to the sessions meanwhile.
-/

namespace RobotLlm.Ev3

open RobotLlm.Lib Hardware Happening

namespace SupervisorProtocol

open EV3Supervisor

-- Runs of a process

/-- What the process does with its supervisor: a request is executed, or the
dispatch loop polls it, drains its audit or closes it. -/
inductive ProcessInput where
  | execute (request : SupervisorRequest) (dispatchAtMs : Option Int) (cancellation : Option Cancellation)
  | poll
  | drainAuditEvents
  | close

/-- The sequence number of a request, if its operation has one. -/
def ProcessInput.sequenceId? : ProcessInput → Option Int
  | .execute request _ _ =>
    match request.operation with
    | .heartbeat _ sequenceId | .arm _ sequenceId | .release _ sequenceId | .drivePulse _ sequenceId _ _ _ => some sequenceId
    | .driveTimed command => some command.sequenceId
    | .status | .describe | .claim _ | .stop | .shutdown => none
  | .poll | .drainAuditEvents | .close => none

/-- The command id and the duration that a drive commands. -/
def ProcessInput.command? : ProcessInput → Option (String × Int)
  | .execute request _ _ =>
    match request.operation with
    | .driveTimed command => some (command.commandId, command.durationMs)
    | .drivePulse _ _ commandId _ _ => some (commandId, drivePulseDurationMs)
    | _ => none
  | .poll | .drainAuditEvents | .close => none

/-- A protocol with the number of sessions that began. -/
structure Process extends SupervisorProtocol where
  sessions : Nat := 0

/-- What came of an input: the response to a request and the number of the
session, whether the session took a sequence number, and whether motors were
started meanwhile. -/
structure Handled where
  response : Option Response
  session : Nat
  advanced : Bool
  started : Bool

/-- Whether a session goes on with another sequence number. -/
def advancedSince (s s' : EV3Supervisor) : Bool := s'.sessionId.isSome && s'.lastSequenceId != s.lastSequenceId

def startedSince (h h' : Hardware) : Bool := (h'.log.take (h'.log.length - h.log.length)).any isStart

def handle (c : ProtocolConfig) : ProcessInput → Prot (Option Response)
  | .execute request dispatchAtMs cancellation => do return some (← execute c request dispatchAtMs cancellation)
  | .poll => do
    let _ ← onSupervisor (pollOnce c.toSupervisorConfig)
    return none
  | .drainAuditEvents => do
    let _ ← onSupervisor (modify fun s => { s with audit := { s.audit with events := [] } })
    return none
  | .close => do
    let _ ← onSupervisor (EV3Supervisor.close c.toSupervisorConfig)
    return none

def sessionsAfter (p : Process) (p' : SupervisorProtocol) : Nat :=
  if p.supervisor.sessionId = none ∧ p'.supervisor.sessionId ≠ none then p.sessions + 1 else p.sessions

def process (c : ProtocolConfig) : Machine Process ProcessInput Handled where
  step p i :=
    let r := handle c i p.toSupervisorProtocol
    ({ response := r.1.toOption.join
       session := sessionsAfter p r.2
       advanced := advancedSince p.supervisor r.2.supervisor
       started := startedSince p.supervisor.owner.hw r.2.supervisor.owner.hw },
      { r.2 with sessions := sessionsAfter p r.2 })

abbrev ProcessHistory := List (ProcessInput × Handled)

-- What one input can do

def Free (p p' : SupervisorProtocol) : Prop :=
  p'.remainingMotionBudget = p.remainingMotionBudget ∧ p'.remainingMotionDurationMs = p.remainingMotionDurationMs

/-- One start was paid for, and its duration by the roamer. -/
structure Paid (c : ProtocolConfig) (durationMs : Int) (p p' : SupervisorProtocol) : Prop where
  budget : p'.remainingMotionBudget = p.remainingMotionBudget - 1
  left : 0 < p.remainingMotionBudget
  duration : p'.remainingMotionDurationMs = if c.irRoamer then p.remainingMotionDurationMs - durationMs else p.remainingMotionDurationMs
  durationLeft : c.irRoamer = true → 0 ≤ durationMs ∧ durationMs ≤ p.remainingMotionDurationMs

variable {c : ProtocolConfig} {p p₁ p' : SupervisorProtocol}

/-- What an input comes to; `ok` where it was answered with success. -/
inductive Outcome (c : ProtocolConfig) (i : ProcessInput) (ok : Prop) (p p' : SupervisorProtocol) : Prop
  | rested (h : p.supervisor.Rests p'.supervisor) (hb : Free p p' ∨ ∃ durationMs, Paid c durationMs p p')
      (hok : ok → i.sequenceId? = none)
  | claimed (h : p.supervisor.Claimed p'.supervisor) (hb : Free p p') (hi : i.sequenceId? = none)
  | took {sessionId : String} (hi : i.sequenceId? = some sequenceId) (h : Took Calm sessionId sequenceId [] p.supervisor p'.supervisor)
      (hb : Free p p')
  | accepted (hi : i.sequenceId? = some d.sequenceId) (hd : i.command? = some (d.commandId, d.durationMs))
      (h : Accepted c.toSupervisorConfig d p.supervisor p'.supervisor) (hb : Paid c d.durationMs p p')

theorem Free.refl (p : SupervisorProtocol) : Free p p := ⟨rfl, rfl⟩

theorem onSupervisor_run {x : Sup α} {Q : α → EV3Supervisor → Prop} {E : PyError → EV3Supervisor → Prop}
    (h : Prog.Triple x p.supervisor Q E) :
    Prog.Triple (onSupervisor x) p (fun a p' => Q a p'.supervisor ∧ Free p p') (fun e p' => E e p'.supervisor ∧ Free p p') :=
  Prog.Triple.onPart (h.mono (fun _ _ h => ⟨h, rfl, rfl⟩) fun _ _ h => ⟨h, rfl, rfl⟩)

variable {i : ProcessInput}

theorem rests_outcome {x : Sup α} (hx : Prog.Keeps Rests x) (hi : i.sequenceId? = none) :
    Prog.Triple (onSupervisor x) p (fun _ => Outcome c i True p) (fun _ => Outcome c i False p) :=
  (onSupervisor_run ((hx.triple p.supervisor))).mono (fun _ _ h => .rested h.1 (.inl h.2) fun _ => hi)
    fun _ _ h => .rested h.1 (.inl h.2) False.elim

theorem took_outcome {x : Sup α} {sessionId : String} {sequenceId : Int} (hi : i.sequenceId? = some sequenceId)
    (hx : Prog.Triple x p.supervisor (fun _ => Took Calm sessionId sequenceId [] p.supervisor)
      (fun _ => Tried Calm sessionId sequenceId [] p.supervisor)) :
    Prog.Triple (onSupervisor x) p (fun _ => Outcome c i True p) (fun _ => Outcome c i False p) :=
  (onSupervisor_run hx).mono (fun _ _ h => .took hi h.1 h.2)
    fun _ _ h => h.1.elim (fun hr => .rested hr (.inl h.2) False.elim) fun ht => .took hi ht h.2

theorem drive_outcome {request : SupervisorRequest} {cancellation : Option Cancellation} {d : DriveCommand}
    (hi : i.sequenceId? = some d.sequenceId) (hd : i.command? = some (d.commandId, d.durationMs))
    (hs : p₁.supervisor = p.supervisor) (hb : Paid c d.durationMs p p₁) :
    Prog.Triple (dispatchDrive c request cancellation d) p₁ (fun _ => Outcome c i True p) (fun _ => Outcome c i False p) := by
  have hpaid {p' : SupervisorProtocol} (hf : Free p₁ p') : Paid c d.durationMs p p' :=
    ⟨hf.1.trans hb.budget, hb.left, hf.2.trans hb.duration, hb.durationLeft⟩
  have hdrive := startDrive_accepted (c := c.toSupervisorConfig) (s := p₁.supervisor) d
    ⟨requestGuard request.deadlineMs cancellation, requestGuard_reads _ _⟩
  refine Prog.Triple.bind ((onSupervisor_run hdrive).mono (fun _ p' h => ?_) fun _ p' h => ?_) fun _ _ h => Prog.Triple.pure h
  · exact .accepted hi hd (hs ▸ h.1) (hpaid h.2)
  · exact h.1.elim (fun hr => .rested (hs ▸ hr) (.inr ⟨_, hpaid h.2⟩) False.elim)
      fun ha => .accepted hi hd (hs ▸ ha) (hpaid h.2)

theorem Outcome.mono {ok ok' : Prop} (h : Outcome c i ok p p') (hok : ok' → ok) : Outcome c i ok' p p' := by
  cases h with
  | rested h hb hi => exact .rested h hb fun hk => hi (hok hk)
  | claimed h hb hi => exact .claimed h hb hi
  | took hi h hb => exact .took hi h hb
  | accepted hi hd h hb => exact .accepted hi hd h hb

theorem Outcome.spends {ok : Prop} (h : Outcome c i ok p p') : Free p p' ∨ ∃ durationMs, Paid c durationMs p p' := by
  cases h with
  | rested h hb hok => exact hb
  | claimed h hb hi => exact .inl hb
  | took hi h hb => exact .inl hb
  | accepted hi hd h hb => exact .inr ⟨_, hb⟩

theorem Outcome.after {ok : Prop} (h : Outcome c i ok p₁ p') (hf : Free p p₁)
    (hw : p.supervisor.owner.hw.Grew Calm p₁.supervisor.owner.hw) (hm : p.supervisor.Minds p₁.supervisor) :
    Outcome c i ok p p' := by
  obtain ⟨hs, hn, -, hids⟩ := memory_eq hm
  have hfree (hb : Free p₁ p') : Free p p' := ⟨hb.1.trans hf.1, hb.2.trans hf.2⟩
  have hpaid {durationMs : Int} (hb : Paid c durationMs p₁ p') : Paid c durationMs p p' :=
    ⟨hf.1 ▸ hb.budget, hf.1 ▸ hb.left, hf.2 ▸ hb.duration, hf.2 ▸ hb.durationLeft⟩
  have htook {P : Happening → Prop} [Admits P] {sessionId : String} {sequenceId : Int} {ids : List String}
      (h : Took P sessionId sequenceId ids p₁.supervisor p'.supervisor) : Took P sessionId sequenceId ids p.supervisor p'.supervisor :=
    ⟨(hw.mono Admits.calm).trans h.hw, hs ▸ h.session, hn ▸ h.next, hids ▸ h.memory⟩
  cases h with
  | rested h hb hi => exact .rested ⟨hw.trans h.hw, h.memory.imp_left fun he => he.trans hm⟩ (hb.imp hfree fun ⟨ms, hb⟩ => ⟨ms, hpaid hb⟩) hi
  | claimed h hb hi => exact .claimed ⟨hw.trans h.hw, hs ▸ h.unclaimed, hids ▸ h.memory⟩ (hfree hb) hi
  | took hi h hb => exact .took hi (htook h) (hfree hb)
  | accepted hi hd h hb => exact .accepted hi hd ⟨htook h.took, hids ▸ h.unseen, hids ▸ h.room⟩ (hpaid hb)

theorem driveTimed_outcome {request : SupervisorRequest} {dispatchAtMs : Option Int} (cancellation : Option Cancellation)
    {d : DriveCommand} (ho : request.operation = .driveTimed d) :
    Prog.Triple (dispatchDriveTimed c request cancellation d) p
      (fun _ => Outcome c (.execute request dispatchAtMs cancellation) True p)
      (fun _ => Outcome c (.execute request dispatchAtMs cancellation) False p) := by
  have hrest : Outcome c (.execute request dispatchAtMs cancellation) False p p :=
    .rested (refl_of Rests _) (.inl (.refl p)) False.elim
  refine Prog.Triple.failIf (fun _ => hrest) fun henabled => Prog.Triple.get_bind ?_
  refine Prog.Triple.failIf (fun _ => hrest) fun hleft => Prog.Triple.failIf (fun _ => hrest) fun _ => ?_
  refine Prog.Triple.failIf (fun _ => hrest) fun _ => Prog.Triple.modify_bind ?_
  have hroamer : c.irRoamer = false := by simpa using (not_or.mp henabled).2
  refine drive_outcome (by simp [ProcessInput.sequenceId?, ho]) (by simp [ProcessInput.command?, ho]) rfl ⟨rfl, by omega, ?_, ?_⟩
  · simp [hroamer]
  · simp [hroamer]

theorem drivePulse_outcome {request : SupervisorRequest} {dispatchAtMs : Option Int} (cancellation : Option Cancellation)
    {sessionId commandId action : String} {sequenceId reference : Int}
    (ho : request.operation = .drivePulse sessionId sequenceId commandId reference action) :
    Prog.Triple (dispatchDrivePulse c request cancellation sessionId sequenceId commandId reference action) p
      (fun _ => Outcome c (.execute request dispatchAtMs cancellation) True p)
      (fun _ => Outcome c (.execute request dispatchAtMs cancellation) False p) := by
  have hrest : Outcome c (.execute request dispatchAtMs cancellation) False p p :=
    .rested (refl_of Rests _) (.inl (.refl p)) False.elim
  refine Prog.Triple.failIf (fun _ => hrest) fun hroamer => Prog.Triple.get_bind ?_
  refine Prog.Triple.failIf (fun _ => hrest) fun hleft => Prog.Triple.failIf (fun _ => hrest) fun hduration => ?_
  refine Prog.Triple.ofExcept_bind (fun _ _ => hrest) fun speeds _ => Prog.Triple.modify_bind ?_
  have hroamer : c.irRoamer = true := by simpa using hroamer
  refine drive_outcome (by simp [ProcessInput.sequenceId?, ho]) (by simp [ProcessInput.command?, ho]) rfl ⟨rfl, by omega, ?_, fun _ => ?_⟩
  · simp [hroamer]
  · exact ⟨show 0 ≤ drivePulseDurationMs by decide, show drivePulseDurationMs ≤ p.remainingMotionDurationMs by omega⟩

theorem dispatch_outcome (request : SupervisorRequest) (dispatchAtMs : Option Int) (cancellation : Option Cancellation) :
    Prog.Triple (dispatch c request cancellation) p
      (fun _ => Outcome c (.execute request dispatchAtMs cancellation) True p)
      (fun _ => Outcome c (.execute request dispatchAtMs cancellation) False p) := by
  unfold dispatch
  cases ho : request.operation with
  | describe => exact .rested (refl_of Rests _) (.inl (.refl p)) fun _ => by simp [ProcessInput.sequenceId?, ho]
  | status =>
    exact Prog.Triple.bind (rests_outcome status_rests (by simp [ProcessInput.sequenceId?, ho])) fun _ _ h => Prog.Triple.pure h
  | claim ownerId =>
    have hi : ProcessInput.sequenceId? (.execute request dispatchAtMs cancellation) = none := by
      simp [ProcessInput.sequenceId?, ho]
    have hclaim {ok : Prop} {p' : SupervisorProtocol}
        (h : (p.supervisor.Rests p'.supervisor ∨ p.supervisor.Claimed p'.supervisor) ∧ Free p p') :
        Outcome c (.execute request dispatchAtMs cancellation) ok p p' :=
      h.1.elim (fun hr => .rested hr (.inl h.2) fun _ => hi) fun hcl => .claimed hcl h.2 hi
    exact Prog.Triple.bind ((onSupervisor_run (claim_claims ownerId)).mono (fun _ _ h => hclaim h) fun _ _ h => hclaim h)
      fun _ _ h => Prog.Triple.pure h
  | heartbeat sessionId sequenceId =>
    exact Prog.Triple.bind (took_outcome (by simp [ProcessInput.sequenceId?, ho]) heartbeat_took) fun _ _ h => Prog.Triple.pure h
  | arm sessionId sequenceId =>
    exact Prog.Triple.bind (took_outcome (by simp [ProcessInput.sequenceId?, ho]) arm_took) fun _ _ h => Prog.Triple.pure h
  | driveTimed d => exact driveTimed_outcome cancellation ho
  | drivePulse sessionId sequenceId commandId reference action => exact drivePulse_outcome cancellation ho
  | release sessionId sequenceId =>
    exact Prog.Triple.bind (took_outcome (by simp [ProcessInput.sequenceId?, ho]) release_took) fun _ _ h => Prog.Triple.pure h
  | stop =>
    refine Prog.Triple.bind (rests_outcome stop_rests (by simp [ProcessInput.sequenceId?, ho])) fun _ _ h => ?_
    exact Prog.Triple.failIf (fun _ => h.mono False.elim) fun _ => Prog.Triple.pure h
  | shutdown =>
    refine Prog.Triple.bind (rests_outcome stop_rests (by simp [ProcessInput.sequenceId?, ho])) fun _ _ h => ?_
    exact Prog.Triple.failIf (fun _ => h.mono False.elim) fun _ => Prog.Triple.pure h

theorem answer_outcome (request : SupervisorRequest) (dispatchAtMs : Option Int) (cancellation : Option Cancellation) :
    Prog.Triple (answer c request cancellation) p
      (fun response => Outcome c (.execute request dispatchAtMs cancellation) (response.ok = true) p)
      (fun _ => Outcome c (.execute request dispatchAtMs cancellation) False p) := by
  refine Prog.Triple.tryCatch (F := fun _ => Outcome c (.execute request dispatchAtMs cancellation) False p) ?_ fun e p' h => ?_
  · exact Prog.Triple.bind (dispatch_outcome request dispatchAtMs cancellation) fun _ _ h => Prog.Triple.pure (h.mono fun _ => trivial)
  · exact Prog.Triple.ite (fun _ => Prog.Triple.pure (h.mono fun hok => by simp [errorResponse, Response.ok] at hok)) fun _ => Prog.Triple.throw h

theorem execute_outcome (request : SupervisorRequest) (dispatchAtMs : Option Int) (cancellation : Option Cancellation) :
    Prog.Triple (execute c request dispatchAtMs cancellation) p
      (fun response => Outcome c (.execute request dispatchAtMs cancellation) (response.ok = true) p)
      (fun _ => Outcome c (.execute request dispatchAtMs cancellation) False p) := by
  have hrest {e : PyError} {p₁ : SupervisorProtocol} (hf : Free p p₁)
      (hw : p.supervisor.owner.hw.Grew Calm p₁.supervisor.owner.hw) (hm : p.supervisor.Minds p₁.supervisor) :
      Outcome c (.execute request dispatchAtMs cancellation) ((errorResponse c request e).ok = true) p p₁ :=
    .rested ⟨hw, .inl hm⟩ (.inl hf) fun hok => by simp [errorResponse, Response.ok] at hok
  refine Prog.Triple.ite (fun _ => Prog.Triple.pure (hrest (.refl p) (Grew.refl _ _) rfl)) fun _ => ?_
  have htime : Prog.Triple (dispatchTime dispatchAtMs) p
      (fun _ p' => Free p p' ∧ p.supervisor.owner.hw.Grew Calm p'.supervisor.owner.hw ∧ p.supervisor.Minds p'.supervisor)
      (fun _ p' => Free p p' ∧ p.supervisor.owner.hw.Grew Calm p'.supervisor.owner.hw ∧ p.supervisor.Minds p'.supervisor) := by
    cases dispatchAtMs with
    | some at_ => exact ⟨.refl p, Grew.refl _ _, rfl⟩
    | none =>
      have hnow := onOwner_memory (MotorOwner.ask_same Answer.clock)
      exact (onSupervisor_run (hnow.triple p.supervisor)).mono (fun _ _ h => ⟨h.2, h.1⟩) fun _ _ h => ⟨h.2, h.1⟩
  refine Prog.Triple.bind (htime.mono (fun _ _ h => h) fun _ _ h => .rested ⟨h.2.1, .inl h.2.2⟩ (.inl h.1) False.elim) ?_
  rintro now p₁ ⟨hf, hw, hm⟩
  refine Prog.Triple.failIf (fun _ => .rested ⟨hw, .inl hm⟩ (.inl hf) False.elim) fun _ => ?_
  refine Prog.Triple.ite (fun _ => Prog.Triple.pure (hrest hf hw hm)) fun _ => ?_
  exact (answer_outcome request dispatchAtMs cancellation).mono (fun _ _ h => h.after hf hw hm) fun _ _ h => h.after hf hw hm

theorem handle_outcome (i : ProcessInput) :
    Prog.Triple (handle c i) p (fun response => Outcome c i (∃ r ∈ response, r.ok = true) p) (fun _ => Outcome c i False p) := by
  cases i with
  | execute request dispatchAtMs cancellation =>
    exact Prog.Triple.bind (execute_outcome request dispatchAtMs cancellation) fun _ _ h => Prog.Triple.pure (h.mono fun hok => by simpa using hok)
  | poll => exact Prog.Triple.bind (rests_outcome pollOnce_rests rfl) fun _ _ h => Prog.Triple.pure (h.mono fun _ => trivial)
  | drainAuditEvents =>
    exact Prog.Triple.bind (rests_outcome (modify_rests (fun _ => rfl) fun _ => rfl) rfl) fun _ _ h =>
      Prog.Triple.pure (h.mono fun _ => trivial)
  | close => exact Prog.Triple.bind (rests_outcome close_rests rfl) fun _ _ h => Prog.Triple.pure (h.mono fun _ => trivial)

theorem process_outcome (p : Process) (i : ProcessInput) :
    Outcome c i (∃ r ∈ ((process c).step p i).1.response, r.ok = true) p.toSupervisorProtocol
      ((process c).step p i).2.toSupervisorProtocol := by
  have h := handle_outcome (c := c) (p := p.toSupervisorProtocol) i
  show Outcome c i (∃ r ∈ (handle c i p.toSupervisorProtocol).1.toOption.join, r.ok = true) p.toSupervisorProtocol
    (handle c i p.toSupervisorProtocol).2
  rcases hr : handle c i p.toSupervisorProtocol with ⟨e | response, p'⟩
  · exact (h.error hr).mono (by simp [Except.toOption])
  · exact (h.ok hr).mono (by simp [Except.toOption])

-- The ledger of a run

structure Start where
  session : Nat
  commandId : String
  durationMs : Int

def startOf (x : ProcessInput × Handled) : Option Start :=
  if x.2.started then x.1.command?.map fun d => ⟨x.2.session, d.1, d.2⟩ else none

def starts (h : ProcessHistory) : List Start := h.filterMap startOf

/-- The command ids that started motors in a session. -/
def startedIds (k : Nat) (h : ProcessHistory) : List String := ((starts h).filter (·.session = k)).map Start.commandId

/-- The request was answered with success, or its number was taken or motors
were started before it failed. -/
def Handled.Accepted (o : Handled) : Prop := (∃ r ∈ o.response, r.ok = true) ∨ o.advanced = true ∨ o.started = true

instance (o : Handled) : Decidable o.Accepted :=
  match hr : o.response with
  | none => decidable_of_iff (o.advanced = true ∨ o.started = true) (by simp [Handled.Accepted, hr])
  | some r => decidable_of_iff (r.ok = true ∨ o.advanced = true ∨ o.started = true) (by simp [Handled.Accepted, hr])

/-- The sequence numbers accepted in a session, newest first. -/
def sequences (k : Nat) (h : ProcessHistory) : List Int :=
  h.filterMap fun x => if x.2.session = k ∧ x.2.Accepted then x.1.sequenceId? else none

section
variable {x : ProcessInput × Handled} {h : ProcessHistory} {k : Nat}

theorem sequences_cons : sequences k (x :: h) = sequences k h ∨
    ∃ n, x.1.sequenceId? = some n ∧ x.2.session = k ∧ x.2.Accepted ∧ sequences k (x :: h) = n :: sequences k h := by
  unfold sequences
  rw [List.filterMap_cons]
  split
  next => exact .inl rfl
  next n hn =>
    split at hn
    next hc => exact .inr ⟨n, hn, hc.1, hc.2, rfl⟩
    next => cases hn

theorem starts_cons : starts (x :: h) = starts h ∨
    ∃ id ms, x.2.started = true ∧ x.1.command? = some (id, ms) ∧ starts (x :: h) = ⟨x.2.session, id, ms⟩ :: starts h := by
  unfold starts startOf
  rw [List.filterMap_cons]
  split
  next => exact .inl rfl
  next start hstart =>
    split at hstart
    next hs =>
      obtain ⟨d, hd, rfl⟩ := Option.map_eq_some_iff.mp hstart
      exact .inr ⟨d.1, d.2, hs, hd, rfl⟩
    next => cases hstart

theorem sequences_nil (hk : ∀ x ∈ h, x.2.session ≠ k) : sequences k h = [] := by
  refine List.filterMap_eq_nil_iff.mpr fun x hx => ?_
  simp [hk x hx]

theorem starts_session {start : Start} (hs : start ∈ starts h) : ∃ x ∈ h, start.session = x.2.session := by
  obtain ⟨x, hx, hstart⟩ := List.mem_filterMap.mp hs
  unfold startOf at hstart
  split at hstart
  · obtain ⟨d, -, rfl⟩ := Option.map_eq_some_iff.mp hstart
    exact ⟨x, hx, rfl⟩
  · cases hstart

theorem startedIds_nil (hk : ∀ x ∈ h, x.2.session ≠ k) : startedIds k h = [] := by
  unfold startedIds
  rw [List.map_eq_nil_iff, List.filter_eq_nil_iff]
  rintro start hs
  obtain ⟨x, hx, hsession⟩ := starts_session hs
  simpa [hsession] using hk x hx

end

structure Effect (c : ProtocolConfig) (p p' : Process) (x : ProcessInput × Handled) : Prop where
  session : x.2.session = p'.sessions
  fresh : p'.supervisor.sessionId = none → p'.supervisor.memory = forgotten
  sessions : p'.sessions = p.sessions ∨ p'.sessions = p.sessions + 1
  goesOn : p'.supervisor.sessionId.isSome = true → p'.sessions = p.sessions →
    p.supervisor.sessionId.isSome = true ∧ p.supervisor.lastSequenceId ≤ p'.supervisor.lastSequenceId ∧
      p.supervisor.seenCommandIds ⊆ p'.supervisor.seenCommandIds
  sequence : ∀ n, x.1.sequenceId? = some n → x.2.Accepted →
    p'.sessions = p.sessions ∧ p.supervisor.sessionId.isSome = true ∧ p.supervisor.lastSequenceId < n ∧
      (p'.supervisor.sessionId.isSome = true → p'.supervisor.lastSequenceId = n)
  start : x.2.started = true → ∃ id ms, x.1.command? = some (id, ms) ∧ p'.sessions = p.sessions ∧
    p.supervisor.sessionId.isSome = true ∧ id ∉ p.supervisor.seenCommandIds ∧
    p.supervisor.seenCommandIds.length < c.limits.maxCommandsPerSession ∧
    (p'.supervisor.sessionId.isSome = true → id ∈ p'.supervisor.seenCommandIds) ∧
    Paid c ms p.toSupervisorProtocol p'.toSupervisorProtocol
  budget : Free p.toSupervisorProtocol p'.toSupervisorProtocol ∨
    ∃ ms, Paid c ms p.toSupervisorProtocol p'.toSupervisorProtocol

theorem startedSince_calm {h h' : Hardware} (hg : h.Grew Calm h') : startedSince h h' = false := by
  obtain ⟨newer, hl, hcalm, -⟩ := hg.log
  unfold startedSince
  rw [hl, List.length_append, Nat.add_sub_cancel, List.take_left', List.any_eq_false]
  · exact fun e he => by simp [(hcalm e he).2]
  · rfl

theorem advancedSince_rests {s s' : EV3Supervisor} (h : s.Rests s') : advancedSince s s' = false := by
  unfold advancedSince
  cases hs : s'.sessionId with
  | none => rfl
  | some sessionId =>
    have hm := h.remembers (.inl (by simp [hs]))
    simp [(memory_eq hm).2.1]

theorem process_effect {p : Process} (hfresh : p.supervisor.sessionId = none → p.supervisor.memory = forgotten) (i : ProcessInput) :
    Effect c p ((process c).step p i).2 (i, ((process c).step p i).1) := by
  have ho := process_outcome (c := c) p i
  have hsession : ((process c).step p i).1.session = ((process c).step p i).2.sessions := rfl
  have hsessions : ((process c).step p i).2.sessions = sessionsAfter p ((process c).step p i).2.toSupervisorProtocol := rfl
  have hstarted : ((process c).step p i).1.started =
      startedSince p.supervisor.owner.hw ((process c).step p i).2.supervisor.owner.hw := rfl
  have hadvanced : ((process c).step p i).1.advanced = advancedSince p.supervisor ((process c).step p i).2.supervisor := rfl
  revert ho hsession hsessions hstarted hadvanced
  rcases (process c).step p i with ⟨o, p'⟩
  intro ho hsession hsessions hstarted hadvanced
  dsimp only at ho hsession hsessions hstarted hadvanced ⊢
  have hsame (hs : p.supervisor.sessionId.isSome = true ∨ p'.supervisor.sessionId = none) : p'.sessions = p.sessions := by
    rw [hsessions, sessionsAfter, if_neg]
    rintro ⟨hn, hn'⟩
    obtain hs | hs := hs
    · simp [hn] at hs
    · exact hn' hs
  have hover (hm : p'.supervisor.memory = forgotten) : p'.supervisor.sessionId = none := congrArg Memory.sessionId hm
  cases ho with
  | rested h hb hok =>
    have hcalm : o.started = false := hstarted.trans (startedSince_calm h.hw)
    refine ⟨hsession, fun hn => ?_, .inl (hsame ?_), fun hs _ => ?_, fun n hi ha => ?_, by simp [hcalm], hb⟩
    · obtain hm | hm := h.memory
      · exact hm.trans (hfresh ((memory_eq hm).1.symm.trans hn))
      · exact hm
    · obtain hm | hm := h.memory
      · rw [(memory_eq hm).1]
        cases p.supervisor.sessionId <;> simp
      · exact .inr (hover hm)
    · obtain ⟨hs', hn, -, hids⟩ := memory_eq (h.remembers (.inl hs))
      exact ⟨hs' ▸ hs, Int.le_of_eq hn.symm, fun id hid => hids ▸ hid⟩
    · obtain hok' | hs | hs := ha
      · rw [hok hok'] at hi
        cases hi
      · rw [hadvanced, advancedSince_rests h] at hs
        cases hs
      · rw [hcalm] at hs
        cases hs
  | claimed h hb hi =>
    have hcalm : o.started = false := hstarted.trans (startedSince_calm h.hw)
    refine ⟨hsession, fun hn => ?_, ?_, fun hs heq => ?_, by simp [hi], by simp [hcalm], .inl hb⟩
    · exact h.memory.resolve_right fun hnew => by simp [hn] at hnew
    · rw [hsessions, sessionsAfter]
      split <;> simp
    · have hnew : p'.sessions = p.sessions + 1 := by
        rw [hsessions, sessionsAfter, if_pos ⟨h.unclaimed, by rintro hn; simp [hn] at hs⟩]
      omega
  | @took sequenceId sessionId hi h hb =>
    have hcalm : o.started = false := hstarted.trans (startedSince_calm h.hw)
    have hsome : p.supervisor.sessionId.isSome = true := by rw [h.session]; rfl
    have hkept (hs : p'.supervisor.sessionId.isSome = true) := h.memory.resolve_left fun hm => by simp [hover hm] at hs
    refine ⟨hsession, fun hn => ?_, .inl (hsame (.inl hsome)), fun hs _ => ?_, fun n hi' _ => ?_, by simp [hcalm], .inl hb⟩
    · exact h.memory.resolve_right fun hm => by simp [hn] at hm
    · obtain ⟨-, hn, hids⟩ := hkept hs
      exact ⟨hsome, hn ▸ Int.le_of_lt h.next, fun id hid => hids ▸ hid⟩
    · cases hi.symm.trans hi'
      exact ⟨hsame (.inl hsome), hsome, h.next, fun hs => (hkept hs).2.1⟩
  | @accepted d hi hd h hb =>
    have hsome : p.supervisor.sessionId.isSome = true := by rw [h.took.session]; rfl
    have hkept (hs : p'.supervisor.sessionId.isSome = true) := h.took.memory.resolve_left fun hm => by simp [hover hm] at hs
    refine ⟨hsession, fun hn => ?_, .inl (hsame (.inl hsome)), fun hs _ => ?_, fun n hi' _ => ?_, fun _ => ?_, .inr ⟨_, hb⟩⟩
    · exact h.took.memory.resolve_right fun hm => by simp [hn] at hm
    · obtain ⟨-, hn, hids⟩ := hkept hs
      exact ⟨hsome, hn ▸ Int.le_of_lt h.took.next, fun id hid => hids ▸ List.mem_cons_of_mem _ hid⟩
    · cases hi.symm.trans hi'
      exact ⟨hsame (.inl hsome), hsome, h.took.next, fun hs => (hkept hs).2.1⟩
    · exact ⟨d.commandId, d.durationMs, hd, hsame (.inl hsome), hsome, h.unseen, h.room,
        fun hs => (hkept hs).2.2 ▸ List.mem_cons_self, hb⟩

structure Ledger (c : ProtocolConfig) (h : ProcessHistory) (p : Process) : Prop where
  fresh : p.supervisor.sessionId = none → p.supervisor.memory = forgotten
  known : ∀ x ∈ h, x.2.session ≤ p.sessions
  sorted : ∀ k, (sequences k h).Pairwise (· > ·)
  latest : p.supervisor.sessionId.isSome = true → ∀ n ∈ sequences p.sessions h, n ≤ p.supervisor.lastSequenceId
  distinct : ∀ k, (startedIds k h).Nodup
  seen : p.supervisor.sessionId.isSome = true → startedIds p.sessions h ⊆ p.supervisor.seenCommandIds
  room : ∀ k, (startedIds k h).length ≤ c.limits.maxCommandsPerSession
  drives : ∀ x ∈ h, x.2.started = true → x.1.command?.isSome = true
  budget : (starts h).length + p.remainingMotionBudget ≤ c.motionBudget ∧ 0 ≤ p.remainingMotionBudget
  duration : 0 ≤ p.remainingMotionDurationMs ∧ (c.irRoamer = true →
    ((starts h).map Start.durationMs).sum + p.remainingMotionDurationMs ≤ c.motionDurationBudget)

variable {h : ProcessHistory} {p p' : Process} {x : ProcessInput × Handled}

theorem Ledger.numbers (hl : Ledger c h p) (he : Effect c p p' x) :
    (∀ k, (sequences k (x :: h)).Pairwise (· > ·)) ∧
      (p'.supervisor.sessionId.isSome = true → ∀ n ∈ sequences p'.sessions (x :: h), n ≤ p'.supervisor.lastSequenceId) := by
  refine ⟨fun k => ?_, fun hs n hn => ?_⟩
  · obtain hsame | ⟨n, hn, rfl, ha, hcons⟩ := sequences_cons (x := x) (h := h) (k := k)
    · exact hsame ▸ hl.sorted k
    · obtain ⟨hk, hsome, hlt, -⟩ := he.sequence n hn ha
      rw [hcons]
      refine List.Pairwise.cons (fun m hm => ?_) (hl.sorted _)
      rw [he.session, hk] at hm
      have := hl.latest hsome m hm
      omega
  · obtain hsame | ⟨m, hm, hk, ha, hcons⟩ := sequences_cons (x := x) (h := h) (k := p'.sessions)
    · rw [hsame] at hn
      obtain hk | hk := he.sessions
      · obtain ⟨hsome, hle, -⟩ := he.goesOn hs hk
        rw [hk] at hn
        exact Int.le_trans (hl.latest hsome n hn) hle
      · rw [sequences_nil fun y hy => by have := hl.known y hy; omega] at hn
        cases hn
    · obtain ⟨hk, hsome, hlt, hlast⟩ := he.sequence m hm ha
      rw [hlast hs]
      rw [hcons, List.mem_cons, hk] at hn
      obtain rfl | hn := hn
      · exact Int.le_refl _
      · have := hl.latest hsome n hn
        omega

theorem startedIds_cons {k : Nat} : startedIds k (x :: h) = startedIds k h ∨
    ∃ id ms, x.2.started = true ∧ x.1.command? = some (id, ms) ∧ x.2.session = k ∧
      startedIds k (x :: h) = id :: startedIds k h := by
  unfold startedIds
  obtain hsame | ⟨id, ms, hs, hd, hcons⟩ := starts_cons (x := x) (h := h)
  · exact .inl (by rw [hsame])
  · rw [hcons, List.filter_cons]
    split
    next hk => exact .inr ⟨id, ms, hs, hd, by simpa using hk, rfl⟩
    next => exact .inl rfl

theorem Ledger.commands (hl : Ledger c h p) (he : Effect c p p' x) :
    (∀ k, (startedIds k (x :: h)).Nodup ∧ (startedIds k (x :: h)).length ≤ c.limits.maxCommandsPerSession) ∧
      (p'.supervisor.sessionId.isSome = true → startedIds p'.sessions (x :: h) ⊆ p'.supervisor.seenCommandIds) := by
  refine ⟨fun k => ?_, fun hs id hid => ?_⟩
  · obtain hsame | ⟨id, ms, hs, hd, rfl, hcons⟩ := startedIds_cons (x := x) (h := h) (k := k)
    · rw [hsame]
      exact ⟨hl.distinct k, hl.room k⟩
    · obtain ⟨id', ms', hd', hk, hsome, hunseen, hroom, -⟩ := he.start hs
      cases hd.symm.trans hd'
      rw [hcons, he.session, hk]
      have hseen := hl.seen hsome
      refine ⟨List.nodup_cons.mpr ⟨fun hid => hunseen (hseen hid), hl.distinct _⟩, ?_⟩
      have hle := List.Nodup.length_le_of_subset (hl.distinct p.sessions) hseen
      rw [List.length_cons]
      omega
  · obtain hsame | ⟨id', ms, hst, hd, hk, hcons⟩ := startedIds_cons (x := x) (h := h) (k := p'.sessions)
    · rw [hsame] at hid
      obtain hk | hk := he.sessions
      · obtain ⟨hsome, -, hsub⟩ := he.goesOn hs hk
        rw [hk] at hid
        exact hsub (hl.seen hsome hid)
      · rw [startedIds_nil fun y hy => by have := hl.known y hy; omega] at hid
        cases hid
    · obtain ⟨id'', ms', hd', hk, hsome, -, -, hmem, -⟩ := he.start hst
      cases hd.symm.trans hd'
      rw [hcons, List.mem_cons, hk] at hid
      obtain rfl | hid := hid
      · exact hmem hs
      · exact (he.goesOn hs hk).2.2 (hl.seen hsome hid)

theorem Ledger.budgets (hl : Ledger c h p) (he : Effect c p p' x) :
    ((starts (x :: h)).length + p'.remainingMotionBudget ≤ c.motionBudget ∧ 0 ≤ p'.remainingMotionBudget) ∧
      0 ≤ p'.remainingMotionDurationMs ∧ (c.irRoamer = true →
        ((starts (x :: h)).map Start.durationMs).sum + p'.remainingMotionDurationMs ≤ c.motionDurationBudget) := by
  have hb := hl.budget
  have hd := hl.duration
  obtain hsame | ⟨id, ms, hs, hcmd, hcons⟩ := starts_cons (x := x) (h := h)
  · rw [hsame]
    obtain hfree | ⟨ms, hpaid⟩ := he.budget
    · obtain ⟨hf, hf'⟩ := hfree
      exact ⟨⟨by omega, by omega⟩, by omega, fun hr => by have := hd.2 hr; omega⟩
    · have h₁ := hpaid.budget
      have h₂ := hpaid.left
      have h₃ := hpaid.duration
      refine ⟨⟨by omega, by omega⟩, ?_, fun hr => ?_⟩
      · split at h₃
        next hr => have := hpaid.durationLeft hr; omega
        next => omega
      · rw [if_pos hr] at h₃
        have h₄ := hpaid.durationLeft hr
        have h₅ := hd.2 hr
        omega
  · obtain ⟨id', ms', hcmd', -, -, -, -, -, hpaid⟩ := he.start hs
    cases hcmd.symm.trans hcmd'
    have h₁ := hpaid.budget
    have h₂ := hpaid.left
    have h₃ := hpaid.duration
    rw [hcons]
    simp only [List.length_cons, List.map_cons, List.sum_cons]
    refine ⟨⟨by omega, by omega⟩, ?_, fun hr => ?_⟩
    · split at h₃
      next hr => have := hpaid.durationLeft hr; omega
      next => omega
    · rw [if_pos hr] at h₃
      have h₅ := hd.2 hr
      omega

theorem Ledger.step (hl : Ledger c h p) (he : Effect c p p' x) : Ledger c (x :: h) p' where
  fresh := he.fresh
  known := by
    intro y hy
    obtain rfl | hy := List.mem_cons.mp hy
    · exact Nat.le_of_eq he.session
    · have := hl.known y hy
      obtain hk | hk := he.sessions <;> omega
  sorted := (hl.numbers he).1
  latest := (hl.numbers he).2
  distinct k := ((hl.commands he).1 k).1
  seen := (hl.commands he).2
  room k := ((hl.commands he).1 k).2
  drives := by
    intro y hy hs
    obtain rfl | hy := List.mem_cons.mp hy
    · obtain ⟨id, ms, hd, -⟩ := he.start hs
      rw [hd]
      rfl
    · exact hl.drives y hy hs
  budget := (hl.budgets he).1
  duration := (hl.budgets he).2

-- Runs

def Process.start (c : ProtocolConfig) (supervisor : EV3Supervisor) : Process :=
  { SupervisorProtocol.start c supervisor with }

variable {h newer : ProcessHistory} {p q : Process}

theorem budgets_nonneg (c : ProtocolConfig) : 0 ≤ c.motionBudget ∧ 0 ≤ c.motionDurationBudget := by
  unfold ProtocolConfig.motionBudget ProtocolConfig.motionDurationBudget
  refine ⟨?_, by split <;> decide⟩
  split
  · decide
  · split <;> decide

theorem Ledger.start {supervisor : EV3Supervisor} (hm : supervisor.memory = forgotten) :
    Ledger c [] (Process.start c supervisor) where
  fresh _ := hm
  known := by simp
  sorted := by simp [sequences]
  latest := by simp [sequences]
  distinct := by simp [startedIds, starts]
  seen := by simp [startedIds, starts]
  room := by simp [startedIds, starts]
  drives := by simp
  budget := by simpa [starts, Process.start, SupervisorProtocol.start] using (budgets_nonneg c).1
  duration := by simpa [starts, Process.start, SupervisorProtocol.start] using (budgets_nonneg c).2

theorem ledger_of_runs (hl : Ledger c h q) (hr : (process c).Runs Machine.always q newer p) :
    Ledger c (newer ++ h) p := by
  induction hr with
  | nil => exact hl
  | cons _ _ ih => exact ih.step (process_effect ih.fresh _)

theorem budgets_fall (hr : (process c).Runs Machine.always q h p) :
    p.remainingMotionBudget ≤ q.remainingMotionBudget ∧ p.remainingMotionDurationMs ≤ q.remainingMotionDurationMs := by
  refine hr.invariant (I := fun p : Process => p.remainingMotionBudget ≤ q.remainingMotionBudget ∧
    p.remainingMotionDurationMs ≤ q.remainingMotionDurationMs) ⟨Int.le_refl _, Int.le_refl _⟩ fun p i hp _ => ?_
  obtain ⟨hf, hf'⟩ | ⟨ms, hpaid⟩ := (process_outcome p i).spends
  · exact ⟨hf ▸ hp.1, hf' ▸ hp.2⟩
  · have hb := hpaid.budget
    have hd := hpaid.duration
    refine ⟨by omega, ?_⟩
    split at hd
    next hr => have := hpaid.durationLeft hr; omega
    next => omega

/-- What a run of a process keeps to: its sequence numbers, its commands and
its budgets. -/
structure WithinBudget (c : ProtocolConfig) (supervisor : EV3Supervisor) (h : ProcessHistory) (p : Process) : Prop where
  sequences : ∀ k, (sequences k h).Pairwise (· > ·)
  commands : ∀ k, (startedIds k h).Nodup
  perSession : ∀ k, (startedIds k h).length ≤ c.limits.maxCommandsPerSession
  drives : ∀ x ∈ h, x.2.started = true → x.1.command?.isSome = true
  starts : (starts h).length ≤ c.motionBudget
  duration : c.irRoamer = true → ((SupervisorProtocol.starts h).map Start.durationMs).sum ≤ c.motionDurationBudget
  left : 0 ≤ p.remainingMotionBudget ∧ 0 ≤ p.remainingMotionDurationMs
  unrefunded : ∀ newer older q, h = newer ++ older → (process c).Runs Machine.always (Process.start c supervisor) older q →
    p.remainingMotionBudget ≤ q.remainingMotionBudget ∧ p.remainingMotionDurationMs ≤ q.remainingMotionDurationMs

theorem starts_within_budget {hw : Hardware} {maximumEvents : Nat} {supervisor : EV3Supervisor}
    (hb : boot c.toSupervisorConfig (booting hw maximumEvents) = (.ok (), supervisor))
    (hr : (process c).Runs Machine.always (Process.start c supervisor) h p) : WithinBudget c supervisor h p := by
  have hrests : Rests (booting hw maximumEvents) supervisor := (boot_rests.triple _).ok hb
  have hm : supervisor.memory = forgotten := hrests.memory.elim id id
  have hl : Ledger c h p := by simpa using ledger_of_runs (Ledger.start hm) hr
  refine ⟨hl.sorted, hl.distinct, hl.room, hl.drives, ?_, fun hroamer => ?_, ⟨hl.budget.2, hl.duration.1⟩, ?_⟩
  · have := hl.budget
    omega
  · have := hl.duration.2 hroamer
    have := hl.duration.1
    omega
  · rintro newer older q rfl hq
    obtain ⟨q', hq', hnewer⟩ := hr.split
    cases hq.unique hq'
    exact budgets_fall hnewer

/-- `config/ev3rstorm.json`, in a process of the roamer. -/
def ev3rstormRoamer : ProtocolConfig where
  toSupervisorConfig := ev3rstorm
  controllerId := "ev3"
  robotId := "robot"
  controllerInstanceId := "instance"
  allowMotion := true
  irRoamer := true
  experimentMaxAbsSpeedDps := 300
  experimentMaxDurationMs := 600
  profileOk := by decide

def asked (operation : Operation) : ProcessInput := .execute ⟨"ev3", "request", operation, 1000, 0⟩ (some 0) none

def turning : List ProcessInput :=
  [asked (.claim "owner"), asked (.heartbeat "session" 1), .poll, .poll, asked (.arm "session" 2),
    asked (.drivePulse "session" 3 "command" 1 "TURN_LEFT"), asked .stop]

def turningAnswers : List Answer :=
  named 0 "session" :: List.replicate 162 (quiet 0) ++ stopAnswers 0 ++ List.replicate 6 (quiet 0)

def turningTwice : Hardware := answering (bootAnswers ++ turningAnswers ++ turningAnswers) 0

def turningStart : Process :=
  .start ev3rstormRoamer (boot ev3rstormRoamer.toSupervisorConfig (booting turningTwice 512)).2

def turningRun : ProcessHistory × Process := (process ev3rstormRoamer).runList turningStart (turning ++ turning)

theorem starts_within_budget_sample :
    WithinBudget ev3rstormRoamer turningStart.supervisor turningRun.1 turningRun.2 :=
  starts_within_budget (Prod.ext (by decide +kernel) rfl) (Machine.runs_runList (Machine.stepsOk_always _ _ _))

/-- The next session knows nothing of the commands of the last one. -/
theorem command_starts_again :
    ¬ ∀ (c : ProtocolConfig) (hw : Hardware) (maximumEvents : Nat) (supervisor : EV3Supervisor) (h : ProcessHistory)
      (p : Process), boot c.toSupervisorConfig (booting hw maximumEvents) = (.ok (), supervisor) →
      (process c).Runs Machine.always (Process.start c supervisor) h p → ((starts h).map Start.commandId).Nodup := by
  intro hall
  have hn : ((starts turningRun.1).map Start.commandId).Nodup :=
    hall ev3rstormRoamer turningTwice 512 turningStart.supervisor _ turningRun.2 (Prod.ext (by decide +kernel) rfl)
      (Machine.runs_runList (Machine.stepsOk_always _ _ (turning ++ turning)))
  have hids : (starts turningRun.1).map Start.commandId = ["command", "command"] := by decide +kernel
  rw [hids] at hn
  simp at hn

end SupervisorProtocol

end RobotLlm.Ev3
