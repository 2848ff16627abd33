import RobotLlm.Ev3.FrameLaws

/-!
# The supervisor knows what moves

Between two calls the owner has a motion exactly when the supervisor says so,
an armed supervisor has a session with a heartbeat, and a latched fault has
neither. A completion whose readings fail with an error the poll does not
catch is the one way out of this.
-/

namespace RobotLlm.Ev3

open RobotLlm.Lib Prog

-- What the owner forgets

namespace MotorOwner

variable {c : RobotConfig} {o : MotorOwner}

/-- No motion is known any more; whether the owner is closed did not change. -/
def Forgot (o o' : MotorOwner) : Prop := o'.active = none ∧ o'.closed = o.closed

theorem SameBy.active_none {P : Happening → Prop} {o' : MotorOwner} (h : o.SameBy P o') (ho : o.active = none) : o'.active = none := by
  have hs := h.active
  rw [ho] at hs
  simpa using hs

theorem finishMotion_run (active : ActiveMotion) (verifyMotion : Bool) :
    Settles (finishMotion c active verifyMotion) o o.Forgot := by
  refine Triple.modify_bind (Triple.frame_bind (K := Same) (stopAllVerified_same c) ?_ ?_)
  · exact fun _ _ h => ⟨h.active_none rfl, h.closed⟩
  · intro stop o₁ h₁
    refine Triple.frame_bind (K := Same) (onHw_same (readFinishedMotors_grew active.motors)) ?_ ?_
    · exact fun _ _ h => ⟨h.active_none (h₁.active_none rfl), h.closed.trans h₁.closed⟩
    · exact fun _ _ h => Triple.pure ⟨h.active_none (h₁.active_none rfl), h.closed.trans h₁.closed⟩

theorem finishActive_run (ho : o.closed = true → o.active = none) (verifyMotion : Bool) :
    Settles (finishActive c verifyMotion) o o.Forgot := by
  refine Triple.bind (Q := fun _ o' => o' = o) (Triple.get_bind ?_) ?_
  · exact Triple.check (fun h => ⟨ho h, rfl⟩) fun _ => rfl
  · rintro _ _ rfl
    refine Triple.get_bind ?_
    split
    next ha =>
      refine Triple.frame_bind (K := Same) (stopAllVerified_same c) ?_ ?_
      · exact fun _ _ h => ⟨h.active_none ha, h.closed⟩
      · exact fun _ _ h => Triple.pure ⟨h.active_none ha, h.closed⟩
    next active ha => exact finishMotion_run active verifyMotion

theorem requireOpen_run : Triple requireOpen o (fun _ o' => o' = o ∧ o.closed = false) (fun _ o' => o' = o) :=
  Triple.get_bind (Triple.check (fun _ => rfl) fun h => ⟨rfl, by simpa using h⟩)

theorem driveMotors_run (left right durationMs : Int) :
    Triple (driveMotors c left right durationMs) o (fun _ o' => o.Same o' ∧ o.closed = false) (fun _ => o.Same) := by
  refine Triple.bind (requireOpen_run.mono (fun _ _ h => h) fun _ _ h => h ▸ refl_of Same o) ?_
  rintro _ _ ⟨rfl, hclosed⟩
  refine Triple.frame (K := Same) (.bind .get fun _ => .bind (.failIf _ _) fun _ => .bind (validateDrive_same _ _ _ _) fun _ =>
    .bind (pathForRole_same _) fun _ => .bind (pathForRole_same _) fun _ => .bind (.failIf _ _) fun _ => .pure _)
    (fun _ _ h => ⟨h, hclosed⟩) fun _ _ h => h

theorem unlock_run (ho : o.active = none) (result : StopResult) :
    Settles (unlock result) o fun o' => o'.active = none := by
  refine Triple.frame_bind (K := Same) (.attempt (ask_same _)) (fun _ _ h => h.active_none ho) fun _ o₁ h₁ => ?_
  have ho₁ := h₁.active_none ho
  refine Triple.frame_bind (K := Same) (.attempt (ask_same _)) (fun _ _ h => h.active_none ho₁) fun _ o₂ h₂ => ?_
  have ho₂ := h₂.active_none ho₁
  refine Triple.frame_bind (K := Same) (ask_same _) (fun _ _ h => h.active_none ho₂) fun _ o₃ h₃ => ?_
  have ho₃ := h₃.active_none ho₂
  refine Triple.frame_bind (K := Same) released_same (fun _ _ h => h.active_none ho₃) fun _ o₄ h₄ => Triple.modify_bind ?_
  refine Triple.ofExcept ?_
  split <;> exact h₄.active_none ho₃

theorem close_run (ho : o.closed = true → o.active = none) : Settles (close c) o fun o' => o'.active = none := by
  refine Triple.get_bind (Triple.ite (fun hc => Triple.pure (ho hc)) fun _ => ?_)
  refine Triple.bind ((finishActive_run ho false).mono (fun _ _ h => h.1) fun _ _ h => h.1) fun finished o₁ h₁ => ?_
  exact Triple.ite (fun _ => unlock_run h₁ _) fun _ => Triple.pure h₁

end MotorOwner

namespace EV3Supervisor

variable {c : SupervisorConfig} {s s' : EV3Supervisor} {code code' detail event : String} {made : Option StopResult}

-- The invariant

structure Latched (code : String) (s : EV3Supervisor) : Prop where
  state : s.state = .faultLatched
  fault : s.fault.map Fault.code = some code
  session : s.sessionId = none
  heartbeat : s.lastHeartbeatMs = none
  command : s.activeCommandId = none
  motion : s.owner.active = none
  isOpen : s.isClosed = false

/-- What holds between two calls. The clause `moving` is the only one that
may fail, and is asked for only where `strict`. -/
structure Consistent (strict : Prop) (s : EV3Supervisor) : Prop where
  /-- The owner has no motion unless the supervisor runs one. -/
  motion : s.owner.active.isSome = true → s.state = .running
  /-- A supervisor that runs a motion has one. -/
  moving : strict → s.state = .running → s.owner.active.isSome = true
  /-- It has a command exactly then. -/
  command : s.activeCommandId.isSome = true ↔ s.state = .running
  /-- A supervisor that may move has a session with a heartbeat. -/
  armed : s.state = .armedIdle ∨ s.state = .running → s.sessionId.isSome = true ∧ s.lastHeartbeatMs.isSome = true
  /-- A latched fault has a record and nothing else. -/
  faulted : s.state = .faultLatched → s.sessionId = none ∧ s.fault.isSome = true
  /-- A heartbeat belongs to a session. -/
  heartbeat : s.lastHeartbeatMs.isSome = true → s.sessionId.isSome = true
  /-- An owner that gave up its lock had stopped. -/
  ownerClosed : s.owner.closed = true → s.owner.active = none
  closed : s.isClosed = true ↔ s.state = .closed
  closedSession : s.isClosed = true → s.sessionId = none

def Faulted (s : EV3Supervisor) : Prop := ∃ code, s.Latched code

/-- What entering a fault asks of the state it finds. -/
structure Ready (s : EV3Supervisor) : Prop where
  latched : s.state = .faultLatched → s.Faulted
  ownerClosed : s.owner.closed = true → s.owner.active = none
  isOpen : s.isClosed = false

variable {strict : Prop}

theorem Latched.consistent (h : s.Latched code) : Consistent strict s := by
  obtain ⟨hst, hf, hs, hh, hc, hm, ho⟩ := h
  have hsome : s.fault.isSome = true := by
    cases hfault : s.fault <;> simp_all
  constructor <;> simp_all

theorem Faulted.consistent (h : s.Faulted) : Consistent strict s := by
  obtain ⟨_, h⟩ := h
  exact h.consistent

theorem Consistent.idle (h : Consistent strict s) (hs : s.state ≠ .running) :
    s.owner.active = none ∧ s.activeCommandId = none := by
  have hm := mt h.motion hs
  have hc := mt h.command.mp hs
  exact ⟨by simpa using hm, by simpa using hc⟩

theorem Consistent.open_of_state (h : Consistent strict s) (hs : s.state ≠ .closed) : s.isClosed = false := by
  have hn := mt h.closed.mp hs
  simpa using hn

theorem Consistent.faulted_of_state (h : Consistent strict s) (hs : s.state = .faultLatched) : s.Faulted := by
  obtain ⟨hsession, hfault⟩ := h.faulted hs
  obtain ⟨hm, hc⟩ := h.idle (by simp [hs])
  obtain ⟨fault, hf⟩ := Option.isSome_iff_exists.mp hfault
  refine ⟨fault.code, hs, by simp [hf], hsession, ?_, hc, hm, h.open_of_state (by simp [hs])⟩
  by_contra hne
  have hsome := h.heartbeat (by simpa [Option.isSome_iff_ne_none] using hne)
  simp [hsession] at hsome

theorem Consistent.ready (h : Consistent strict s) (ho : s.isClosed = false) : s.Ready :=
  ⟨h.faulted_of_state, h.ownerClosed, ho⟩

-- Steps that change nothing of it

theorem Same.state (h : s.Same s') : s'.state = s.state := congrArg View.state h.view

theorem Same.fault (h : s.Same s') : s'.fault = s.fault := congrArg View.fault h.view

theorem Same.sessionId (h : s.Same s') : s'.sessionId = s.sessionId := congrArg View.sessionId h.view

theorem Same.lastHeartbeatMs (h : s.Same s') : s'.lastHeartbeatMs = s.lastHeartbeatMs :=
  congrArg View.lastHeartbeatMs h.view

theorem Same.activeCommandId (h : s.Same s') : s'.activeCommandId = s.activeCommandId :=
  congrArg View.activeCommandId h.view

theorem Same.isClosed (h : s.Same s') : s'.isClosed = s.isClosed := congrArg View.isClosed h.view

theorem Same.ownerClosed (h : s.Same s') (ho : s.owner.closed = true → s.owner.active = none) :
    s'.owner.closed = true → s'.owner.active = none := fun hc =>
  h.owner.active_none (ho (h.owner.closed.symm.trans hc))

theorem Latched.same (hl : s.Latched code) (h : s.Same s') : s'.Latched code where
  state := h.state.trans hl.state
  fault := by rw [h.fault, hl.fault]
  session := h.sessionId.trans hl.session
  heartbeat := h.lastHeartbeatMs.trans hl.heartbeat
  command := h.activeCommandId.trans hl.command
  motion := h.owner.active_none hl.motion
  isOpen := h.isClosed.trans hl.isOpen

theorem Consistent.same (hc : Consistent strict s) (h : s.Same s') : Consistent strict s' where
  motion := by rw [h.owner.active, h.state]; exact hc.motion
  moving := by rw [h.owner.active, h.state]; exact hc.moving
  command := by rw [h.activeCommandId, h.state, hc.command]
  armed := by rw [h.state, h.sessionId, h.lastHeartbeatMs]; exact hc.armed
  faulted := by rw [h.state, h.sessionId, h.fault]; exact hc.faulted
  heartbeat := by rw [h.sessionId, h.lastHeartbeatMs]; exact hc.heartbeat
  ownerClosed := h.ownerClosed hc.ownerClosed
  closed := by rw [h.isClosed, h.state, hc.closed]
  closedSession := by rw [h.isClosed, h.sessionId]; exact hc.closedSession

theorem Ready.same (hr : s.Ready) (h : s.Same s') : s'.Ready where
  latched hs := by
    obtain ⟨code, hl⟩ := hr.latched (h.state.symm.trans hs)
    exact ⟨code, hl.same h⟩
  ownerClosed := h.ownerClosed hr.ownerClosed
  isOpen := h.isClosed.trans hr.isOpen

/-- The motion was given up, and nothing else changed. -/
structure Halted (s s' : EV3Supervisor) : Prop where
  view : s'.view = s.view
  owner : s.owner.Forgot s'.owner

theorem Halted.state (h : s.Halted s') : s'.state = s.state := congrArg View.state h.view

theorem Latched.halted (hl : s.Latched code) (h : s.Halted s') : s'.Latched code where
  state := h.state.trans hl.state
  fault := (congrArg (fun v => v.fault.map Fault.code) h.view).trans hl.fault
  session := (congrArg View.sessionId h.view).trans hl.session
  heartbeat := (congrArg View.lastHeartbeatMs h.view).trans hl.heartbeat
  command := (congrArg View.activeCommandId h.view).trans hl.command
  motion := h.owner.1
  isOpen := (congrArg View.isClosed h.view).trans hl.isOpen

theorem Ready.halted (hr : s.Ready) (h : s.Halted s') : s'.Ready where
  latched hs := by
    obtain ⟨code, hl⟩ := hr.latched (h.state.symm.trans hs)
    exact ⟨code, hl.halted h⟩
  ownerClosed _ := h.owner.1
  isOpen := (congrArg View.isClosed h.view).trans hr.isOpen

-- Faults

theorem finishActiveStop_run (ho : s.owner.closed = true → s.owner.active = none) :
    Settles (finishActiveStop c) s s.Halted := by
  refine Triple.bind (Triple.onPart ((MotorOwner.finishActive_run ho false).mono ?_ ?_)) fun _ _ h => Triple.pure h
  · exact fun _ _ h => ⟨rfl, h⟩
  · exact fun _ _ h => ⟨rfl, h⟩

theorem onOwner_view (x : MotorOwner.Own α) (s : EV3Supervisor) : (onOwner x s).2.view = s.view := rfl

def ViewKept (s s' : EV3Supervisor) : Prop := s'.view = s.view

instance : IsPreorder EV3Supervisor ViewKept where
  refl _ := rfl
  trans _ _ _ h h' := Eq.trans h' h

theorem finishActiveStop_view : Keeps ViewKept (finishActiveStop c) := .bind (onOwner_view _) fun _ => .pure _

/-- What every step respects that is taken while a fault is latched. -/
structure FaultKept (c : SupervisorConfig) (L : EV3Supervisor → Prop) : Prop where
  state {s : EV3Supervisor} : L s → s.state = .faultLatched
  same {s s' : EV3Supervisor} : L s → s.Same s' → L s'
  stopped {s : EV3Supervisor} : L s → Settles (finishActiveStop c) s L
  updated {s : EV3Supervisor} {f : Fault → Fault} : L s → (∀ fault, (f fault).code = fault.code) → L { s with fault := s.fault.map f }
  cleared {s : EV3Supervisor} : L s → L { s.invalidateSession with activeCommandId := none }

theorem map_code {f : Fault → Fault} (hf : ∀ fault, (f fault).code = fault.code) (fault : Option Fault) :
    (fault.map f).map Fault.code = fault.map Fault.code := by
  cases fault <;> simp [hf]

theorem latched_kept (c : SupervisorConfig) (code : String) : FaultKept c (Latched code) where
  state h := h.state
  same := Latched.same
  stopped hl := (finishActiveStop_run fun _ => hl.motion).mono (fun _ _ h => hl.halted h) fun _ _ h => hl.halted h
  updated hl hf := ⟨hl.state, (map_code hf _).trans hl.fault, hl.session, hl.heartbeat, hl.command, hl.motion, hl.isOpen⟩
  cleared hl := ⟨hl.state, hl.fault, rfl, rfl, rfl, hl.motion, hl.isOpen⟩

section
variable {L : EV3Supervisor → Prop}

theorem updateFault_kept (hL : FaultKept c L) (hl : L s) {f : Fault → Fault} (hf : ∀ fault, (f fault).code = fault.code) :
    Settles (updateFault f) s L :=
  Triple.get_bind (Triple.failIf (fun _ => hl) fun _ => Triple.modify (hL.updated hl hf))

theorem faultRetry_kept (hL : FaultKept c L) (hl : L s) : Settles (faultRetry c) s L := by
  refine Triple.bind (Triple.attempt (P := fun _ => L) (hL.stopped hl)) fun retry s₁ h₁ => ?_
  cases retry with
  | ok retry => exact updateFault_kept hL h₁ fun _ => rfl
  | error e => exact updateFault_kept hL h₁ fun _ => rfl

end

theorem stopForFault_run {E : PyError → EV3Supervisor → Prop} (ho : s.owner.closed = true → s.owner.active = none)
    (hstop : made = none ∨ s.owner.active = none) :
    Triple (stopForFault c made) s (fun _ => s.Halted) E := by
  cases made with
  | some stop => exact Triple.pure ⟨rfl, by simpa using hstop, rfl⟩
  | none =>
    exact Triple.bind (Triple.attempt (P := fun _ => s.Halted) (finishActiveStop_run ho)) fun _ _ h => Triple.pure h

theorem Ready.latch (hr : s.Ready) (detail : String) (stop : StopResult) (h : s.Halted s') :
    Latched code (EV3Supervisor.latched code detail stop s') :=
  ⟨rfl, rfl, rfl, rfl, rfl, h.owner.1, (hr.halted h).isOpen⟩

theorem enterFaultSilently_kept {L : EV3Supervisor → Prop} (hL : FaultKept c L) (hl : L s) :
    Settles (enterFaultSilently c code detail made) s L :=
  Triple.get_bind (Triple.ite (fun _ => faultRetry_kept hL hl) fun hn => absurd (hL.state hl) hn)

theorem enterFaultSilently_run (hr : s.Ready) (hstop : made = none ∨ s.owner.active = none) :
    Settles (enterFaultSilently c code detail made) s Faulted := by
  refine Triple.get_bind (Triple.ite (fun hs => ?_) fun _ => ?_)
  · obtain ⟨code', hl⟩ := hr.latched hs
    exact (faultRetry_kept (latched_kept c code') hl).mono (fun _ _ h => ⟨code', h⟩) fun _ _ h => ⟨code', h⟩
  · exact Triple.bind (stopForFault_run hr.ownerClosed hstop) fun stop s₁ h₁ =>
      Triple.modify ⟨code, hr.latch detail stop h₁⟩

theorem audit_seen (buffer : AuditBuffer) : s.Seen { s with audit := buffer } :=
  ⟨⟨refl_of MotorOwner.Same s.owner, rfl⟩, .refl _ s.owner.hw⟩

theorem eventSequence_seen : s.Seen { s with eventSequence := s.eventSequence + 1 } :=
  ⟨⟨refl_of MotorOwner.Same s.owner, rfl⟩, .refl _ s.owner.hw⟩

theorem emit_triple {E : PyError → EV3Supervisor → Prop} (hseen : ∀ e s', s.Seen s' → E e s')
    (hfull : ∀ s₁, s.Seen s₁ → s₁.state ≠ .shuttingDown ∧ s₁.state ≠ .closed →
      Triple (enterFaultSilently c "audit_failure" "Audit sink failed: Audit buffer is full" none) s₁
        (fun _ => E auditFailure) E) :
    Triple (emit c event) s (fun _ => s.Seen) E := by
  refine Triple.modify_bind (Triple.frame_bind nowMs_seen ?_ ?_)
  · exact fun _ _ h => hseen _ _ (trans_of Seen eventSequence_seen h)
  · intro _ s₁ h₁
    have h₁' := trans_of Seen eventSequence_seen h₁
    refine Triple.get_bind ?_
    split
    next buffer _ => exact Triple.modify (trans_of Seen h₁' (audit_seen buffer))
    next =>
      refine Triple.get_bind (Triple.ite (fun _ => Triple.throw (hseen _ _ h₁')) fun hn => ?_)
      exact Triple.bind (hfull s₁ h₁' (not_or.mp hn)) fun _ _ h => Triple.throw h

theorem emit_kept {L : EV3Supervisor → Prop} (hL : FaultKept c L) (hl : L s) : Settles (emit c event) s L :=
  (emit_triple (fun _ _ h => hL.same hl h.toSame) fun _ h _ =>
    enterFaultSilently_kept hL (hL.same hl h.toSame)).mono (fun _ _ h => hL.same hl h.toSame) fun _ _ h => h

theorem emit_run (hc : Consistent strict s) :
    Triple (emit c event) s (fun _ => s.Same) (fun _ s' => Consistent strict s' ∧ s'.isClosed = s.isClosed) := by
  refine (emit_triple (fun _ _ h => ⟨hc.same h.toSame, h.isClosed⟩) fun s₁ h hn => ?_).mono (fun _ _ h => h.toSame) fun _ _ h => h
  have hopen := (hc.same h.toSame).open_of_state hn.2
  have hfaulted {s'} (hf : Faulted s') : Consistent strict s' ∧ s'.isClosed = s.isClosed := by
    obtain ⟨code, hl⟩ := hf
    exact ⟨hl.consistent, by rw [hl.isOpen, ← h.isClosed, hopen]⟩
  exact (enterFaultSilently_run ((hc.same h.toSame).ready hopen) (.inl rfl)).mono (fun _ _ h => hfaulted h)
    fun _ _ h => hfaulted h

theorem emit_consistent (hc : Consistent strict s) : Settles (emit c event) s (Consistent strict) :=
  (emit_run hc).mono (fun _ _ h => hc.same h) fun _ _ h => h.1

structure Alive (strict : Prop) (s : EV3Supervisor) : Prop where
  consistent : Consistent strict s
  isOpen : s.isClosed = false

theorem Alive.ready (ha : Alive strict s) : s.Ready := ha.consistent.ready ha.isOpen

theorem Alive.same (ha : Alive strict s) (h : s.Same s') : Alive strict s' :=
  ⟨ha.consistent.same h, h.isClosed.trans ha.isOpen⟩

theorem Faulted.alive (hf : s.Faulted) : Alive strict s := by
  obtain ⟨code, hl⟩ := hf
  exact ⟨hl.consistent, hl.isOpen⟩

theorem emit_alive (ha : Alive strict s) : Settles (emit c event) s (Alive strict) :=
  (emit_run ha.consistent).mono (fun _ _ h => ha.same h) fun _ _ h => ⟨h.1, h.2.trans ha.isOpen⟩

theorem enterFault_run (hr : s.Ready) (hstop : made = none ∨ s.owner.active = none) :
    Settles (enterFault c code detail made) s Faulted := by
  refine Triple.get_bind (Triple.ite (fun hs => ?_) fun _ => ?_)
  · obtain ⟨code', hl⟩ := hr.latched hs
    exact (faultRetry_kept (latched_kept c code') hl).mono (fun _ _ h => ⟨code', h⟩) fun _ _ h => ⟨code', h⟩
  · refine Triple.bind (stopForFault_run hr.ownerClosed hstop) fun stop s₁ h₁ => Triple.modify_bind ?_
    have hl : Latched code (EV3Supervisor.latched code detail stop s₁) := hr.latch detail stop h₁
    refine Triple.tryCatch ((emit_kept (latched_kept c code) hl).mono (fun _ _ h => ⟨code, h⟩) fun _ _ h => h) ?_
    intro e s₂ h₂
    exact Triple.ite (fun _ => Triple.pure ⟨code, h₂⟩) fun _ => Triple.throw ⟨code, h₂⟩

-- Giving up a motion

theorem Halted.trans {s'' : EV3Supervisor} (h : s.Halted s') (h' : s'.Halted s'') : s.Halted s'' :=
  ⟨h'.view.trans h.view, h'.owner.1, h'.owner.2.trans h.owner.2⟩

theorem finishActiveWithRetry_run {E : PyError → EV3Supervisor → Prop}
    (ho : s.owner.closed = true → s.owner.active = none) (phase : String) :
    Triple (finishActiveWithRetry c phase) s (fun _ => s.Halted) E := by
  refine Triple.bind (Triple.attempt (P := fun _ => s.Halted) (finishActiveStop_run ho)) fun r s₁ h₁ => ?_
  cases r with
  | ok stop => exact Triple.pure h₁
  | error e =>
    refine Triple.bind (Triple.attempt (P := fun _ => s₁.Halted) (finishActiveStop_run fun _ => h₁.owner.1)) ?_
    exact fun _ _ h₂ => Triple.pure (h₁.trans h₂)

theorem Consistent.open_of_armed (hc : Consistent strict s) (ha : s.state = .armedIdle ∨ s.state = .running) :
    s.isClosed = false := hc.open_of_state (by rcases ha with ha | ha <;> simp [ha])

theorem Consistent.backToIdle (hc : Consistent strict s) (ha : s.state = .armedIdle ∨ s.state = .running)
    (hv : s'.view = s.view) (hm : s'.owner.active = none) :
    Alive strict { s' with activeCommandId := none, state := .armedIdle } := by
  have hsession : s'.sessionId = s.sessionId := congrArg View.sessionId hv
  have hheartbeat : s'.lastHeartbeatMs = s.lastHeartbeatMs := congrArg View.lastHeartbeatMs hv
  have hopen : s'.isClosed = false := (congrArg View.isClosed hv).trans (hc.open_of_armed ha)
  refine ⟨?_, hopen⟩
  constructor
  case armed => rw [hsession, hheartbeat]; exact fun _ => hc.armed ha
  case heartbeat => rw [hsession, hheartbeat]; exact hc.heartbeat
  all_goals simp [hm, hopen]

theorem emitStatus_run (ha : Alive strict s) :
    Settles (do emit c event; status c : Sup SupervisorStatus) s (Alive strict) :=
  Triple.bind (emit_alive ha) fun _ _ h => Triple.frame status_same (fun _ _ hs => h.same hs) fun _ _ hs => h.same hs

theorem enterFaultStatus_run (hr : s.Ready) (hmade : made = none ∨ s.owner.active = none) :
    Settles (do enterFault c code detail made; status c : Sup SupervisorStatus) s (Alive strict) := by
  refine Triple.bind ((enterFault_run hr hmade).mono (fun _ _ h => h) fun _ _ h => h.alive) fun _ s₁ h₁ => ?_
  have ha₁ : Alive strict s₁ := h₁.alive
  exact Triple.frame status_same (fun _ _ h => ha₁.same h) fun _ _ h => ha₁.same h

theorem stopForwardForInfrared_run (hc : Consistent strict s) (hs : s.state = .running) :
    Settles (stopForwardForInfrared c) s (Alive strict) := by
  have ha : Alive strict s := ⟨hc, hc.open_of_armed (.inr hs)⟩
  refine Triple.frame_bind checkedNowMs_same (fun _ _ h => ha.same h) fun _ s₁ h₁ => ?_
  have ha₁ := ha.same h₁
  refine Triple.bind (finishActiveWithRetry_run ha₁.consistent.ownerClosed _) fun r s₂ h₂ => Triple.modify_bind ?_
  refine Triple.ite (fun _ => Triple.modify_bind (emitStatus_run ?_)) fun _ => enterFaultStatus_run ?_ (.inr h₂.owner.1)
  · have hidle := ha₁.consistent.backToIdle (.inr (h₁.state.trans hs)) h₂.view h₂.owner.1
    exact hidle
  · have hready := ha₁.ready.halted h₂
    exact ⟨fun hf => by simp [h₂.state.trans (h₁.state.trans hs)] at hf, hready.ownerClosed, hready.isOpen⟩

/-- What the poll makes of an error: a fault, or the state is as it should be. -/
structure Recoverable (strict : Prop) (e : PyError) (s : EV3Supervisor) : Prop where
  ready : s.Ready
  escapes : ¬ e.IsPollError → Consistent strict s

theorem Alive.recoverable (ha : Alive strict s) : Recoverable strict e s := ⟨ha.ready, fun _ => ha.consistent⟩

theorem Consistent.lostCompletion (hc : Consistent strict s) (hn : ¬ strict) (h : s.Halted s') : Consistent strict s' := by
  have hst : s'.state = s.state := h.state
  have hcommand : s'.activeCommandId = s.activeCommandId := congrArg View.activeCommandId h.view
  have hsession : s'.sessionId = s.sessionId := congrArg View.sessionId h.view
  have hheartbeat : s'.lastHeartbeatMs = s.lastHeartbeatMs := congrArg View.lastHeartbeatMs h.view
  have hfault : s'.fault = s.fault := congrArg View.fault h.view
  have hclosed : s'.isClosed = s.isClosed := congrArg View.isClosed h.view
  refine ⟨by simp [h.owner.1], fun hs => absurd hs hn, ?_, ?_, ?_, ?_, fun _ => h.owner.1, ?_, ?_⟩
  · rw [hcommand, hst]; exact hc.command
  · rw [hst, hsession, hheartbeat]; exact hc.armed
  · rw [hst, hsession, hfault]; exact hc.faulted
  · rw [hsession, hheartbeat]; exact hc.heartbeat
  · rw [hclosed, hst]; exact hc.closed
  · rw [hclosed, hsession]; exact hc.closedSession

theorem completeMotion_run (hc : Consistent strict s) (hs : s.state = .running)
    (hcaught : ∀ e o, MotorOwner.finishActive c.toRobotConfig true s.owner = (.error e, o) → strict → e.IsPollError) :
    Triple (completeMotion c) s (fun _ => Alive strict) (Recoverable strict) := by
  have hready : s.Ready := hc.ready (hc.open_of_armed (.inr hs))
  have hfinish : Triple (onOwner (MotorOwner.finishActive c.toRobotConfig true)) s (fun _ => s.Halted)
      fun e s' => s.Halted s' ∧ (strict → e.IsPollError) := by
    refine Triple.onPart (((MotorOwner.finishActive_run hc.ownerClosed true).and (Triple.run _ _)).mono ?_ ?_)
    · exact fun _ _ h => ⟨rfl, h.1⟩
    · exact fun e o h => ⟨⟨rfl, h.1⟩, hcaught e o h.2⟩
  refine Triple.bind (hfinish.mono (fun _ _ h => h) fun e _ h => ⟨hready.halted h.1, fun hn => ?_⟩) ?_
  · exact hc.lostCompletion (fun hstrict => hn (h.2 hstrict)) h.1
  intro result s₁ h₁
  refine Triple.ite (fun _ => ?_) fun _ => Triple.modify_bind ?_
  · exact (enterFault_run (hready.halted h₁) (.inr h₁.owner.1)).mono (fun _ _ h => h.alive)
      fun _ _ h => Alive.recoverable h.alive
  · exact (emit_alive (hc.backToIdle (.inr hs) h₁.view h₁.owner.1)).mono (fun _ _ h => h) fun _ _ h => h.recoverable

-- Polling

/-- What the completion of a poll raises, where the poll comes so far. -/
def completionError (c : SupervisorConfig) (s : EV3Supervisor) : Option PyError :=
  match pollSensors c s with
  | (.error _, _) => none
  | (.ok _, s₁) =>
    match pollMotion c s₁ with
    | (.ok .complete, s₂) =>
      match MotorOwner.finishActive c.toRobotConfig true s₂.owner with
      | (.error e, _) => some e
      | (.ok _, _) => none
    | _ => none

def OnDispatchThread (s : EV3Supervisor) : Prop := s.dispatchThreadId = s.owner.hw.thread

instance : Decidable s.OnDispatchThread := inferInstanceAs (Decidable (_ = _))

/-- If the motion is completed now, the poll catches what goes wrong. -/
def CompletionCaught (c : SupervisorConfig) (s : EV3Supervisor) : Prop :=
  s.OnDispatchThread → s.state = .running → ∀ e ∈ completionError c s, e.IsPollError

instance : Decidable (CompletionCaught c s) := inferInstanceAs (Decidable (_ → _ → _))

theorem pollRunning_run (ha : Alive strict s) (hs : s.state = .running)
    (hcaught : ∀ s₁ e o, pollMotion c s = (.ok .complete, s₁) →
      MotorOwner.finishActive c.toRobotConfig true s₁.owner = (.error e, o) → strict → e.IsPollError) :
    Triple (pollRunning c) s (fun _ => Alive strict) (Recoverable strict) := by
  refine Triple.bind ((((pollMotion_same (c := c)).triple s).and (Triple.run _ _)).mono (fun _ _ h => h)
    fun _ _ h => (ha.same h.1).recoverable) ?_
  rintro poll s₁ ⟨h₁, hrun⟩
  have ha₁ := ha.same h₁
  have hs₁ := h₁.state.trans hs
  cases poll with
  | obstacle =>
    refine Triple.bind ((stopForwardForInfrared_run ha₁.consistent hs₁).mono (fun _ _ h => h)
      fun _ _ h => h.recoverable) ?_
    exact fun _ _ h => Triple.pure h
  | complete =>
    refine Triple.bind (completeMotion_run ha₁.consistent hs₁ fun e o he => hcaught s₁ e o hrun he) ?_
    exact fun _ _ h => Triple.pure h
  | goOn => exact Triple.pure ha₁

theorem Alive.expired (ha : Alive strict s) (hs : s.state = .disarmed) : Alive strict s.invalidateSession := by
  obtain ⟨hm, hcommand⟩ := ha.consistent.idle (by simp [hs])
  refine ⟨?_, ha.isOpen⟩
  constructor <;> simp [invalidateSession, hs, hm, hcommand, ha.isOpen]

theorem expireLease_run (ha : Alive strict s) (now : Int) : Settles (expireLease c now) s (Alive strict) := by
  refine Triple.get_bind (Triple.ite (fun he => Triple.modify_bind (emit_alive (ha.expired ?_))) fun _ => Triple.pure ha)
  simp only [leaseExpired, Bool.and_eq_true, decide_eq_true_eq] at he
  exact he.1.1

theorem pollIdle_run (ha : Alive strict s) : Settles (pollIdle c) s (Alive strict) := by
  refine Triple.frame_bind checkIdleMotors_same (fun _ _ h => ha.same h) fun _ s₁ h₁ => ?_
  have ha₁ := ha.same h₁
  refine Triple.frame_bind checkedNowMs_same (fun _ _ h => ha₁.same h) fun now s₂ h₂ => Triple.get_bind ?_
  have ha₂ := ha₁.same h₂
  exact Triple.failIf (fun _ => ha₂) fun _ => Triple.failIf (fun _ => ha₂) fun _ => expireLease_run ha₂ now

theorem pollUnfaulted_run (ha : Alive strict s)
    (hcaught : strict → s.state = .running → ∀ e ∈ completionError c s, e.IsPollError) :
    Triple (pollUnfaulted c) s (fun _ => Alive strict) (Recoverable strict) := by
  refine Triple.bind ((((pollSensors_same (c := c)).triple s).and (Triple.run _ _)).mono (fun _ _ h => h)
    fun _ _ h => (ha.same h.1).recoverable) ?_
  rintro _ s₁ ⟨h₁, hrun⟩
  have ha₁ := ha.same h₁
  have hidle : Triple (do pollIdle c; return none : Sup (Option SupervisorStatus)) s₁ (fun _ => Alive strict)
      (Recoverable strict) :=
    Triple.bind ((pollIdle_run ha₁).mono (fun _ _ h => h) fun _ _ h => h.recoverable) fun _ _ h => Triple.pure h
  refine Triple.get_bind ?_
  split
  next hs₁ =>
    refine pollRunning_run ha₁ hs₁ fun s₂ e o hpoll hfinish hstrict =>
      hcaught hstrict (h₁.state.symm.trans hs₁) e ?_
    simp [completionError, hrun, hpoll, hfinish]
  next => exact hidle
  next => exact hidle
  next => exact Triple.pure ha₁

theorem pollFailed_run (h : Recoverable strict e s) :
    Triple (pollFailed c e) s (fun _ => Alive strict) (fun _ => Consistent strict) := by
  refine Triple.ite (fun _ => ?_) fun hn => Triple.throw (h.escapes hn)
  exact Triple.bind ((enterFault_run h.ready (.inl rfl)).mono (fun _ _ h => h.alive) fun _ _ h => h.consistent)
    fun _ _ h => Triple.pure h

theorem retryInFault_kept {L : EV3Supervisor → Prop} (hL : FaultKept c L) (hl : L s) : Settles (retryInFault c) s L := by
  refine Triple.bind (Triple.attempt (P := fun _ => L) (hL.stopped hl)) fun retry s₁ h₁ => ?_
  cases retry with
  | ok retry => exact updateFault_kept hL h₁ fun _ => rfl
  | error e => exact updateFault_kept hL h₁ fun _ => rfl

theorem FaultKept.looking {L : EV3Supervisor → Prop} (hL : FaultKept c L) (hl : L s) {x : Sup α} (hx : Keeps Same x)
    {f : α → Sup β} {K : EV3Supervisor → Prop} (hk : ∀ s, L s → K s) (hf : ∀ a s', L s' → Settles (f a) s' K) :
    Settles (x >>= f) s K :=
  Triple.frame_bind hx (fun _ _ h => hk _ (hL.same hl h)) fun a s' h => hf a s' (hL.same hl h)

theorem pollFault_kept {L : EV3Supervisor → Prop} (hL : FaultKept c L) (hl : L s) : Settles (pollFault c) s L := by
  refine hL.looking hl secondaryClockError_same (fun _ h => h) fun _ s₁ h₁ => ?_
  refine Triple.bind (retryInFault_kept hL h₁) fun _ s₂ h₂ => ?_
  refine hL.looking h₂ secondarySensorErrors_same (fun _ h => h) fun _ s₃ h₃ => ?_
  refine Triple.bind (updateFault_kept hL h₃ fun fault => ?_) fun _ s₄ h₄ => ?_
  · split <;> rfl
  · exact Triple.frame status_same (fun _ _ h => hL.same h₄ h) fun _ _ h => hL.same h₄ h

theorem pollOnce_kept {L : EV3Supervisor → Prop} (hL : FaultKept c L) (hl : L s) : Settles (pollOnce c) s L := by
  refine hL.looking hl requireDispatchThread_same (fun _ h => h) fun _ s₁ h₁ => Triple.get_bind ?_
  exact Triple.failIf (fun _ => h₁) fun _ =>
    Triple.ite (fun _ => pollFault_kept hL h₁) fun hn => absurd (hL.state h₁) hn

theorem requireDispatchThread_run :
    Triple requireDispatchThread s (fun _ s' => s' = s ∧ s.OnDispatchThread) (fun _ s' => s' = s) :=
  Triple.get_bind (Triple.check (fun _ => rfl) fun h => ⟨rfl, not_not.mp h⟩)

theorem pollOnce_run (hc : Consistent strict s) (hcaught : strict → CompletionCaught c s) :
    Settles (pollOnce c) s (Consistent strict) := by
  refine Triple.bind (requireDispatchThread_run.mono (fun _ _ h => h) fun _ _ h => h ▸ hc) ?_
  rintro _ _ ⟨rfl, hthread⟩
  refine Triple.get_bind (Triple.failIf (fun _ => hc) fun hopen => Triple.ite (fun hs => ?_) fun _ => ?_)
  · obtain ⟨code, hl⟩ := hc.faulted_of_state hs
    exact (pollFault_kept (latched_kept c code) hl).mono (fun _ _ h => h.consistent) fun _ _ h => h.consistent
  · have ha : Alive strict _ := ⟨hc, by simpa using hopen⟩
    refine Triple.bind (Triple.tryCatch (pollUnfaulted_run ha fun hstrict => hcaught hstrict hthread)
      fun _ _ h => pollFailed_run h) ?_
    intro answer s₁ h₁
    cases answer with
    | some answer => exact Triple.pure h₁.consistent
    | none => exact Triple.frame status_same (fun _ _ h => (h₁.same h).consistent) fun _ _ h => (h₁.same h).consistent

-- Sessions

theorem requireState_run (states : List SupervisorState) :
    Triple (requireState states) s (fun _ s' => s' = s ∧ s.state ∈ states) (fun _ s' => s' = s) :=
  Triple.get_bind (Triple.check (fun _ => rfl) fun h => ⟨rfl, not_not.mp h⟩)

theorem requireSession_run (sessionId : String) :
    Triple (requireSession sessionId) s (fun _ s' => s' = s ∧ s.sessionId = some sessionId) (fun _ s' => s' = s) := by
  unfold requireSession
  cases validateIdentifier "session_id" sessionId 128 with
  | error e => exact Triple.of_run (show _ = (Except.error e, s) from rfl) rfl
  | ok u =>
    exact Triple.step (show _ = (Except.ok u, s) from rfl)
      (Triple.get_bind (Triple.check (fun _ => rfl) fun h => ⟨rfl, not_not.mp h⟩))

theorem requireHeartbeat_run (now : Int) (e : PyError) :
    Triple (requireHeartbeat c now e) s (fun _ s' => s' = s ∧ s.lastHeartbeatMs.isSome = true) (fun _ s' => s' = s) := by
  refine Triple.get_bind (Triple.check (fun _ => rfl) fun h => ⟨rfl, ?_⟩)
  unfold heartbeatIsFresh heartbeatAgeMs at h
  cases hh : s.lastHeartbeatMs with
  | none => simp [hh] at h
  | some at_ => rfl

theorem guarded {x : Sup Unit} {f : Unit → Sup α} {P : Prop} {K : EV3Supervisor → Prop}
    (hx : Triple x s (fun _ s' => s' = s ∧ P) (fun _ s' => s' = s)) (hk : K s) (hf : P → Settles (f ()) s K) :
    Settles (x >>= f) s K := by
  refine Triple.bind (hx.mono (fun _ _ h => h) fun _ _ h => h ▸ hk) ?_
  rintro _ _ ⟨rfl, hp⟩
  exact hf hp

theorem dispatched {f : Unit → Sup α} {K : EV3Supervisor → Prop} (hk : K s) (hf : Settles (f ()) s K) :
    Settles (requireDispatchThread >>= f) s K :=
  guarded requireDispatchThread_run hk fun _ => hf

theorem looking {x : Sup α} {f : α → Sup β} {Q : β → EV3Supervisor → Prop} (hx : Keeps Same x) (hc : Consistent strict s)
    (hf : ∀ a s', s.Same s' → Consistent strict s' → Triple (f a) s' Q fun _ => Consistent strict) :
    Triple (x >>= f) s Q fun _ => Consistent strict :=
  Triple.frame_bind hx (fun _ _ h => hc.same h) fun a s' h => hf a s' h (hc.same h)

theorem claim_run (hc : Consistent strict s) (ownerId : String) : Settles (claim c ownerId) s (Consistent strict) := by
  refine dispatched hc (guarded (requireState_run _) hc fun hs => Triple.get_bind ?_)
  replace hs : s.state = .disarmed := by simpa using hs
  refine Triple.failIf (fun _ => hc) fun _ => looking (.ofExcept _) hc fun _ s₁ h₁ hc₁ => ?_
  refine looking (io_same (Hardware.ask_later _)) hc₁ fun sessionId s₂ h₂ hc₂ => ?_
  refine looking (.ofExcept _) hc₂ fun _ s₃ h₃ hc₃ => Triple.modify_bind ?_
  have hs₃ : s₃.state = .disarmed := (h₃.state.trans (h₂.state.trans h₁.state)).trans hs
  have hclaimed : Consistent strict { s₃ with
      ownerId := some ownerId, sessionId := some sessionId, lastSequenceId := 0
      lastHeartbeatMs := none, lastHeartbeatSequence := none } :=
    by constructor <;> simp [hs₃, hc₃.idle (by simp [hs₃]), hc₃.open_of_state (by simp [hs₃])]
  refine looking checkedNowMs_same hclaimed fun _ s₄ _ hc₄ => ?_
  refine looking (modify_same (fun _ => rfl) fun _ => rfl) hc₄ fun _ _ _ hc₅ => ?_
  exact Triple.bind (emit_consistent hc₅) fun _ _ h => Triple.pure h

theorem heartbeat_run (hc : Consistent strict s) (sessionId : String) (sequenceId : Int) :
    Settles (heartbeat c sessionId sequenceId) s (Consistent strict) := by
  refine dispatched hc (guarded (requireState_run _) hc fun hs => guarded (requireSession_run _) hc fun hsession => ?_)
  replace hs : s.state ≠ .faultLatched := by rintro h; simp [h] at hs
  refine looking (consumeSequence_same _) hc fun _ s₁ h₁ hc₁ => looking nowMs_same hc₁ fun _ s₂ h₂ hc₂ => ?_
  have hsome : s₂.sessionId.isSome = true := by rw [h₂.sessionId, h₁.sessionId, hsession]; rfl
  have hs₂ : s₂.state ≠ .faultLatched := by rwa [h₂.state, h₁.state]
  refine Triple.modify_bind (Triple.bind (emit_consistent ?_) fun _ _ h => Triple.pure h)
  exact ⟨hc₂.motion, hc₂.moving, hc₂.command, fun _ => ⟨hsome, rfl⟩, fun hf => absurd hf hs₂, fun _ => hsome,
    hc₂.ownerClosed, hc₂.closed, hc₂.closedSession⟩

theorem revalidateHardwareTopology_run (ha : Alive strict s) (phase : String) :
    Triple (revalidateHardwareTopology c phase) s (fun _ => s.Same) (fun _ => Consistent strict) := by
  refine Triple.tryCatch ((onOwner_same MotorOwner.revalidateTopology_same).triple s) fun e s₁ h₁ => ?_
  refine Triple.ite (fun _ => ?_) fun _ => Triple.throw (ha.same h₁).consistent
  exact Triple.bind ((enterFault_run (ha.same h₁).ready (.inl rfl)).mono (fun _ _ h => h) fun _ _ h => h.consistent)
    fun _ _ h => Triple.throw h.consistent

theorem not_running_caught (hs : s.state ≠ .running) : CompletionCaught c s := fun _ h => absurd h hs

theorem Consistent.arm (hc : Consistent strict s) (hs : s.state = .disarmed) (hh : s.lastHeartbeatMs.isSome = true) :
    Consistent strict { s with state := .armedIdle } := by
  have hsession := hc.heartbeat hh
  constructor <;> simp [hc.idle (by simp [hs]), hc.open_of_state (by simp [hs]), hh, hsession]

theorem arm_run (hc : Consistent strict s) (sessionId : String) (sequenceId : Int) :
    Settles (arm c sessionId sequenceId) s (Consistent strict) := by
  refine dispatched hc (guarded (requireState_run _) hc fun hs => guarded (requireSession_run _) hc fun _ => ?_)
  replace hs : s.state = .disarmed := by simpa using hs
  refine looking (validateSequence_same _) hc fun _ s₁ h₁ hc₁ => ?_
  have hs₁ : s₁.state = .disarmed := h₁.state.trans hs
  refine Triple.bind (revalidateHardwareTopology_run ⟨hc₁, hc₁.open_of_state (by simp [hs₁])⟩ "arm") fun _ s₂ h₂ => ?_
  have hs₂ : s₂.state = .disarmed := h₂.state.trans hs₁
  refine Triple.bind (pollOnce_run (hc₁.same h₂) fun _ => not_running_caught (by simp [hs₂])) fun _ s₃ hc₃ => ?_
  refine guarded (requireState_run _) hc₃ fun hs₃ => looking checkedNowMs_same hc₃ fun _ s₄ h₄ hc₄ => ?_
  replace hs₃ : s₃.state = .disarmed := by simpa using hs₃
  refine guarded (requireHeartbeat_run _ _) hc₄ fun _ => looking (requireTouchStable_same _) hc₄ fun _ s₅ h₅ hc₅ => ?_
  refine looking checkIdleMotors_same hc₅ fun _ s₆ h₆ hc₆ => looking checkedNowMs_same hc₆ fun _ s₇ h₇ hc₇ => ?_
  refine guarded (requireHeartbeat_run _ _) hc₇ fun hh => looking (consumeSequence_same _) hc₇ fun _ s₈ h₈ hc₈ => ?_
  have hs₈ : s₈.state = .disarmed := by rw [h₈.state, h₇.state, h₆.state, h₅.state, h₄.state, hs₃]
  refine Triple.modify_bind (Triple.bind (emit_consistent (hc₈.arm hs₈ (by rwa [h₈.lastHeartbeatMs]))) ?_)
  exact fun _ _ h => looking status_same h fun _ _ _ h => Triple.pure h

-- Driving

theorem checkDrive_run (d : DriveCommand) :
    Triple (checkDrive c d) s (fun _ s' => s.Same s' ∧ s.state = .armedIdle) (fun _ => s.Same) := by
  have hrefl := refl_of Same s
  refine Triple.bind (requireDispatchThread_run.mono (fun _ _ h => h) fun _ _ h => h ▸ hrefl) ?_
  rintro _ _ ⟨rfl, -⟩
  refine Triple.bind ((requireState_run _).mono (fun _ _ h => h) fun _ _ h => h ▸ hrefl) ?_
  rintro _ _ ⟨rfl, hs⟩
  refine Triple.frame (.bind (requireSession_same _) fun _ => .bind (validateSequence_same _) fun _ =>
    .bind (.ofExcept _) fun _ => .bind .get fun _ => .bind (.failIf _ _) fun _ => .bind (.failIf _ _) fun _ =>
      .bind (.ofExcept _) fun _ => .bind (.failIf _ _) fun _ => .bind (.failIf _ _) fun _ =>
        .mapError (onOwner_same (MotorOwner.validateDrive_same _ _ _ _)) _) (fun _ _ h => ⟨h, by simpa using hs⟩)
    fun _ _ h => h

structure Armed (strict : Prop) (s : EV3Supervisor) : Prop where
  consistent : Consistent strict s
  state : s.state = .armedIdle

theorem Armed.alive (ha : Armed strict s) : Alive strict s :=
  ⟨ha.consistent, ha.consistent.open_of_armed (.inl ha.state)⟩

theorem Armed.same (ha : Armed strict s) (h : s.Same s') : Armed strict s' := ⟨ha.consistent.same h, h.state.trans ha.state⟩

theorem Armed.looking {x : Sup α} {f : α → Sup β} {Q : β → EV3Supervisor → Prop} (ha : Armed strict s) (hx : Keeps Same x)
    (hf : ∀ a s', Armed strict s' → Triple (f a) s' Q fun _ => Consistent strict) : Triple (x >>= f) s Q fun _ => Consistent strict :=
  Triple.frame_bind hx (fun _ _ h => (ha.same h).consistent) fun a s' h => hf a s' (ha.same h)

theorem acceptDrive_run (ha : Armed strict s) (d : DriveCommand) (guard : StartGuard) :
    Triple (acceptDrive c d guard) s (fun _ => Armed strict) (fun _ => Consistent strict) := by
  refine Triple.bind (revalidateHardwareTopology_run ha.alive "drive") fun _ s₁ h₁ => ?_
  have ha₁ := ha.same h₁
  refine Triple.bind (pollOnce_run ha₁.consistent fun _ => not_running_caught (by simp [ha₁.state])) fun _ s₂ hc₂ => ?_
  refine Triple.bind ((requireState_run _).mono (fun _ _ h => h) fun _ _ h => h ▸ hc₂) ?_
  rintro _ _ ⟨rfl, hs₂⟩
  have ha₂ : Armed strict _ := ⟨hc₂, by simpa using hs₂⟩
  refine ha₂.looking checkedNowMs_same fun _ _ ha => ha.looking (requireHeartbeat_same _ _) fun _ _ ha => ?_
  refine ha.looking (requireTouchReleased_same _) fun _ _ ha => ha.looking (requireInfraredIf_same _) fun _ _ ha => ?_
  refine ha.looking (guard_same guard) fun _ _ ha => ha.looking (consumeSequence_same _) fun _ _ ha => ?_
  refine ha.looking (modify_same (fun _ => rfl) fun _ => rfl) fun _ _ ha => ?_
  exact (emit_run ha.consistent).mono (fun _ _ h => ha.same h) fun _ _ h => h.1

theorem prestartFailed_run (ha : Armed strict s) (e : PyError) :
    Triple (prestartFailed c e) s (fun _ => Armed strict) (fun _ => Consistent strict) := by
  refine Triple.ite (fun _ => ?_) fun _ => ?_
  · refine ha.looking checkedNowMs_same fun _ s₁ ha₁ => ?_
    exact Triple.bind (emit_consistent ha₁.consistent) fun _ _ h => Triple.throw h
  · exact Triple.bind ((enterFault_run ha.alive.ready (.inl rfl)).mono (fun _ _ h => h.consistent)
      fun _ _ h => h.consistent) fun _ _ h => Triple.throw h

/-- The motors may be running, and the supervisor does not say so yet. -/
structure Starting (s s' : EV3Supervisor) : Prop where
  view : s'.view = s.view
  ownerClosed : s'.owner.closed = true → s'.owner.active = none

theorem startBoundMotors_run (hopen : s.owner.closed = false) {guard : List MotorOwner.StartWindow → Sup Unit}
    (hg : ∀ windows, Keeps Same (guard windows)) (motors : List Motor) (durationMs : Int) (forward : Bool) :
    Triple (MotorOwner.startBoundMotors ownerPart c.toRobotConfig motors durationMs guard forward) s
      (fun _ s' => s.Starting s' ∧ s'.owner.active.isSome = true) (fun _ => s.Starting) := by
  have hstart : Keeps Same (tryCatch (MotorOwner.tryStart ownerPart c.toRobotConfig motors durationMs guard)
      (MotorOwner.startFailed ownerPart c.toRobotConfig)) := .tryCatch (tryStart_same hg _ _) startFailed_same
  have hstarting {s'} (hv : s'.view = s.view) (hc : s'.owner.closed = s.owner.closed) : s.Starting s' :=
    ⟨hv, fun h => by simp [hc, hopen] at h⟩
  refine Triple.frame_bind hstart (fun _ _ h => hstarting h.view h.owner.closed) fun started s₁ h₁ => ?_
  -- from here on the owner has the motion
  refine Triple.step (show _ = (Except.ok (), { s₁ with owner := { s₁.owner with active := some _ } }) from rfl) ?_
  refine Triple.frame (onOwner_same MotorOwner.activeSnapshot_same) (fun _ s₂ h₂ => ⟨?_, ?_⟩) fun _ s₂ h₂ => ?_
  · exact hstarting (h₂.view.trans h₁.view) (h₂.owner.closed.trans h₁.owner.closed)
  · exact h₂.owner.active
  · exact hstarting (h₂.view.trans h₁.view) (h₂.owner.closed.trans h₁.owner.closed)

theorem startMotion_run (ha : Armed strict s) (d : DriveCommand) (guard : StartGuard) :
    Triple (startMotion c d guard) s (fun _ s' => s.Starting s' ∧ s'.owner.active.isSome = true)
      (fun _ => s.Starting) := by
  have hclosed := ha.consistent.ownerClosed
  have hmotors : Triple (onOwner (MotorOwner.driveMotors c.toRobotConfig d.leftSpeedDps d.rightSpeedDps d.durationMs)) s
      (fun _ s' => s.Same s' ∧ s.owner.closed = false) (fun _ => s.Same) :=
    Triple.onPart ((MotorOwner.driveMotors_run _ _ _).mono (fun _ _ h => ⟨⟨h.1, rfl⟩, h.2⟩) fun _ _ h => ⟨h, rfl⟩)
  refine Triple.bind (Triple.bind (hmotors.mono (fun _ _ h => h) fun _ _ h => ⟨h.view, h.ownerClosed hclosed⟩) ?_)
    fun _ _ h => Triple.pure h
  rintro motors s₁ ⟨h₁, hopen⟩
  refine (startBoundMotors_run (h₁.owner.closed.trans hopen) (guardMotorStart_same d guard) motors _ _).mono ?_ ?_
  · exact fun _ _ h => ⟨⟨h.1.view.trans h₁.view, h.1.ownerClosed⟩, h.2⟩
  · exact fun _ _ h => ⟨h.view.trans h₁.view, h.ownerClosed⟩

theorem Starting.ready (ha : Armed strict s) (h : s.Starting s') : s'.Ready := by
  have hs : s'.state = s.state := congrArg View.state h.view
  refine ⟨fun hf => ?_, h.ownerClosed, (congrArg View.isClosed h.view).trans ha.alive.isOpen⟩
  simp [hs, ha.state] at hf

theorem enterFault_throw (hr : s.Ready) (hmade : made = none ∨ s.owner.active = none) {e : PyError}
    {Q : α → EV3Supervisor → Prop} :
    Triple (do enterFault c code detail made; throw e : Sup α) s Q fun _ => Consistent strict :=
  Triple.bind ((enterFault_run hr hmade).mono (fun _ _ h => h.consistent) fun _ _ h => h.consistent)
    fun _ _ h => Triple.throw h

theorem motorStartFailed_run (ha : Armed strict s) (h : s.Starting s') {Q : Unit → EV3Supervisor → Prop} (e : PyError) :
    Triple (motorStartFailed c e) s' Q (fun _ => Consistent strict) := by
  refine Triple.bind (Triple.attempt (P := fun _ => s'.Halted) (finishActiveStop_run h.ownerClosed)) fun retry s₁ h₁ => ?_
  refine Triple.ite (fun _ => Triple.modify_bind (looking checkedNowMs_same ?_ fun _ _ _ hc => ?_)) fun _ => ?_
  · exact (ha.consistent.backToIdle (.inl ha.state) (h₁.view.trans h.view) h₁.owner.1).consistent
  · exact Triple.bind (emit_consistent hc) fun _ _ h => Triple.throw h
  · exact enterFault_throw ((h.ready ha).halted h₁) (.inr h₁.owner.1)

theorem stopForObstacle_run (hc : Consistent strict s) (hs : s.state = .running) :
    Settles (stopForObstacle c) s (Alive strict) :=
  Triple.bind (stopForwardForInfrared_run hc hs) fun _ _ h => Triple.throw h

structure Moving (strict : Prop) (s : EV3Supervisor) : Prop where
  consistent : Consistent strict s
  state : s.state = .running

theorem Moving.same (hm : Moving strict s) (h : s.Same s') : Moving strict s' :=
  ⟨hm.consistent.same h, h.state.trans hm.state⟩

theorem Moving.alive (hm : Moving strict s) : Alive strict s :=
  ⟨hm.consistent, hm.consistent.open_of_armed (.inr hm.state)⟩

theorem Moving.of_starting (ha : Armed strict s) (h : s.Starting s') (hm : s'.owner.active.isSome = true) (commandId : String) :
    Moving strict { s' with activeCommandId := some commandId, state := .running } := by
  have hsession : s'.sessionId = s.sessionId := congrArg View.sessionId h.view
  have hheartbeat : s'.lastHeartbeatMs = s.lastHeartbeatMs := congrArg View.lastHeartbeatMs h.view
  have hopen : s'.isClosed = false := (congrArg View.isClosed h.view).trans ha.alive.isOpen
  have harmed := ha.consistent.armed (.inl ha.state)
  refine ⟨?_, rfl⟩
  constructor
  case ownerClosed => exact h.ownerClosed
  all_goals simp [hm, hsession, hheartbeat, hopen, harmed]

theorem poststart_run (hm : Moving strict s) (d : DriveCommand) (startSkewMs : Int) (guard : StartGuard) :
    Settles (poststart c d startSkewMs guard) s (Alive strict) := by
  refine Triple.frame_bind readInfrared_same (fun _ _ h => (hm.same h).alive) fun _ s₁ h₁ => Triple.get_bind ?_
  have hm₁ := hm.same h₁
  refine Triple.ite (fun _ => stopForObstacle_run hm₁.consistent hm₁.state) fun _ => ?_
  exact Triple.frame (checkStarted_same _ _) (fun _ _ h => (hm₁.same h).alive) fun _ _ h => (hm₁.same h).alive

theorem poststartFailed_run (ha : Alive strict s) (e : PyError) {Q : Unit → EV3Supervisor → Prop} :
    Triple (poststartFailed c e) s Q fun _ => Consistent strict :=
  Triple.get_bind (Triple.ite (fun _ => Triple.throw ha.consistent) fun _ => enterFault_throw ha.ready (.inl rfl))

theorem startDrive_run (hc : Consistent strict s) (d : DriveCommand) (guard : StartGuard) :
    Settles (startDrive c d guard) s (Consistent strict) := by
  refine Triple.bind ((checkDrive_run d).mono (fun _ _ h => h) fun _ _ h => hc.same h) ?_
  rintro _ s₁ ⟨h₁, hs⟩
  have ha₁ : Armed strict s₁ := ⟨hc.same h₁, h₁.state.trans hs⟩
  refine Triple.bind (acceptDrive_run ha₁ d guard) fun _ s₂ ha₂ => ?_
  refine Triple.bind (Triple.tryCatch (((prestart_same d guard).triple s₂).mono (fun _ _ h => ha₂.same h)
    fun _ _ h => ha₂.same h) fun e _ ha => prestartFailed_run ha e) fun _ s₃ ha₃ => ?_
  refine Triple.bind (Triple.tryCatch (startMotion_run ha₃ d guard) fun e _ h => motorStartFailed_run ha₃ h e) ?_
  rintro _ s₄ ⟨h₄, hm₄⟩
  have hmoving := Moving.of_starting ha₃ h₄ hm₄ d.commandId
  refine Triple.modify_bind (looking activeMotion_same hmoving.consistent fun active s₅ h₅ _ => ?_)
  refine Triple.bind (Triple.tryCatch (poststart_run (hmoving.same h₅) d _ guard) fun e _ h => poststartFailed_run h e) ?_
  intro _ s₆ ha₆
  exact Triple.bind (emit_consistent ha₆.consistent) fun _ _ h => looking status_same h fun _ _ _ h => Triple.pure h

-- Stopping, releasing, resetting, closing

theorem Halted.disarmed (h : s.Halted s') (ho : s.isClosed = false) :
    Consistent strict { s'.invalidateSession with activeCommandId := none, fault := none, state := .disarmed } := by
  have hopen : s'.isClosed = false := (congrArg View.isClosed h.view).trans ho
  constructor <;> simp [invalidateSession, h.owner.1, hopen]

theorem Ready.invalidated (hr : s.Ready) (h : s.Halted s') :
    EV3Supervisor.Ready { s'.invalidateSession with activeCommandId := none } := by
  refine ⟨fun hf => ?_, fun _ => h.owner.1, (hr.halted h).isOpen⟩
  obtain ⟨code, hl⟩ := (hr.halted h).latched hf
  exact ⟨code, hl.state, hl.fault, rfl, rfl, rfl, hl.motion, hl.isOpen⟩

theorem stopUnfaulted_run (hr : s.Ready) (h : s.Halted s') (stop : StopResult) (error : Option PyError) :
    Settles (stopUnfaulted c stop error) { s'.invalidateSession with activeCommandId := none } (Consistent strict) := by
  refine Triple.ite (fun _ => Triple.modify_bind (emit_consistent (h.disarmed hr.isOpen))) fun _ => ?_
  exact (enterFault_run (hr.invalidated h) (.inr h.owner.1)).mono (fun _ _ h => h.consistent) fun _ _ h => h.consistent

theorem stopFaulted_kept {L : EV3Supervisor → Prop} (hL : FaultKept c L) (hl : L s) (stop : StopResult) :
    Settles (stopFaulted c stop) s L := by
  have hself : { s with state := .faultLatched } = s := by rw [← hL.state hl]
  refine Triple.modify_bind (Triple.bind (updateFault_kept hL ?_ fun _ => rfl) fun _ _ h => emit_kept hL h)
  rwa [hself]

theorem finishActiveWithRetry_kept {L : EV3Supervisor → Prop} (hL : FaultKept c L) (hl : L s) (phase : String) :
    Settles (finishActiveWithRetry c phase) s L := by
  refine Triple.bind (Triple.attempt (P := fun _ => L) (hL.stopped hl)) fun r s₁ h₁ => ?_
  cases r with
  | ok stop => exact Triple.pure h₁
  | error e => exact Triple.bind (Triple.attempt (P := fun _ => L) (hL.stopped h₁)) fun _ _ h₂ => Triple.pure h₂

theorem stop_kept {L : EV3Supervisor → Prop} (hL : FaultKept c L) (hl : L s) : Settles (stop c) s L := by
  refine dispatched hl (Triple.get_bind (Triple.ite (fun _ => Triple.pure hl) fun _ => Triple.get_bind ?_))
  refine Triple.bind (finishActiveWithRetry_kept hL hl _) fun r s₁ h₁ => Triple.modify_bind ?_
  simp only [recordStop, hL.state hl, decide_true, if_true]
  refine Triple.bind (stopFaulted_kept hL (hL.cleared h₁) r.1) fun _ s₂ h₂ => ?_
  exact hL.looking h₂ status_same (fun _ h => h) fun _ _ h => Triple.pure h

theorem stop_run (hc : Consistent strict s) : Settles (stop c) s (Consistent strict) := by
  by_cases hs : s.state = .faultLatched
  · obtain ⟨code, hl⟩ := hc.faulted_of_state hs
    exact (stop_kept (latched_kept c code) hl).mono (fun _ _ h => h.consistent) fun _ _ h => h.consistent
  refine dispatched hc (Triple.get_bind (Triple.ite (fun _ => Triple.pure hc) fun hopen => Triple.get_bind ?_))
  refine Triple.bind (finishActiveWithRetry_run hc.ownerClosed _) fun r s₁ h₁ => Triple.modify_bind ?_
  simp only [recordStop, hs, decide_false]
  refine Triple.bind (stopUnfaulted_run (hc.ready (by simpa using hopen)) h₁ r.1 r.2) fun _ s₂ hc₂ => ?_
  exact looking status_same hc₂ fun _ _ _ h => Triple.pure h

theorem release_run (hc : Consistent strict s) (sessionId : String) (sequenceId : Int) :
    Settles (release c sessionId sequenceId) s (Consistent strict) := by
  refine dispatched hc (guarded (requireState_run _) hc fun hs => guarded (requireSession_run _) hc fun _ => ?_)
  have hopen : s.isClosed = false := hc.open_of_state (by rintro h; simp [h] at hs)
  refine looking (consumeSequence_same _) hc fun _ s₁ h₁ hc₁ => ?_
  have hopen₁ := h₁.isClosed.trans hopen
  refine Triple.bind (finishActiveWithRetry_run hc₁.ownerClosed _) fun r s₂ h₂ => Triple.modify_bind ?_
  refine Triple.ite (fun _ => Triple.modify_bind ?_) fun _ => ?_
  · refine Triple.bind (emit_consistent (h₂.disarmed hopen₁)) fun _ _ h => ?_
    exact looking status_same h fun _ _ _ h => Triple.pure h
  · have hready := (hc₁.ready hopen₁).invalidated h₂
    refine Triple.bind ((enterFault_run hready (.inr h₂.owner.1)).mono (fun _ _ h => h) fun _ _ h => h.consistent) ?_
    exact fun _ _ h => looking status_same h.consistent fun _ _ _ h => Triple.pure h

theorem Latched.reset (hl : s.Latched code) :
    Consistent strict { s with fault := none, state := .disarmed } :=
  by constructor <;> simp [hl.motion, hl.command, hl.heartbeat, hl.isOpen]

theorem resetFault_run (hc : Consistent strict s) : Settles (resetFault c) s (Consistent strict) := by
  refine dispatched hc (guarded (requireState_run _) hc fun hs => Triple.get_bind (Triple.failIf (fun _ => hc) fun _ => ?_))
  obtain ⟨code, hl⟩ := hc.faulted_of_state (by simpa using hs)
  have hL := latched_kept c code
  have hk (s) (h : Latched code s) : Consistent strict s := h.consistent
  refine Triple.bind ((pollOnce_kept hL hl).mono (fun _ _ h => h) fun _ _ h => h.consistent) fun _ s₁ h₁ => ?_
  refine guarded (requireState_run _) h₁.consistent fun _ => Triple.get_bind (Triple.failIf (fun _ => h₁.consistent) fun _ => ?_)
  refine hL.looking h₁ verifyHardware_same hk fun _ s₂ h₂ => hL.looking h₂ (requireTouchStable_same _) hk fun _ s₃ h₃ => ?_
  refine hL.looking h₃ (onOwner_same (MotorOwner.stopAllVerified_same _)) hk fun stop s₄ h₄ => ?_
  refine Triple.failIf (fun _ => h₄.consistent) fun _ => Triple.modify_bind (Triple.bind (emit_consistent h₄.reset) ?_)
  exact fun _ _ h => looking status_same h fun _ _ _ h => Triple.pure h

theorem finalizeClosed_run (hm : s.owner.active = none) (cleanupErrors : List String) :
    Settles (finalizeClosed c cleanupErrors) s (Consistent strict) := by
  refine Triple.modify_bind ?_
  have hc : Consistent strict { s.invalidateSession with activeCommandId := none, isClosed := true, state := .closed } :=
    by constructor <;> simp [invalidateSession, hm]
  refine Triple.bind (Triple.attempt (P := fun _ => Consistent strict) (emit_consistent hc)) fun _ s₁ hc₁ => ?_
  refine looking status_same hc₁ fun _ s₂ _ hc₂ => ?_
  exact looking (modify_same (fun _ => rfl) fun _ => rfl) hc₂ fun _ _ _ hc₃ => Triple.pure hc₃

theorem shutdownFailed_run (hr : s.Ready) (hm : s.owner.active = none) (detail : String) (stop : StopResult) :
    Settles (shutdownFailed c detail stop) s (Consistent strict) :=
  (enterFaultStatus_run hr (.inr hm)).mono (fun _ _ h => h.consistent) fun _ _ h => h.consistent

/-- On its way out, with an owner that may have closed already. -/
structure Leaving (s : EV3Supervisor) : Prop where
  state : s.state = .shuttingDown
  motion : s.owner.active = none
  isOpen : s.isClosed = false

theorem Leaving.ready (h : s.Leaving) : s.Ready :=
  ⟨fun hf => by simp [h.state] at hf, fun _ => h.motion, h.isOpen⟩

theorem ownerClose_run (hs : s.state = .shuttingDown) (ho : s.owner.closed = true → s.owner.active = none)
    (hopen : s.isClosed = false) {F : PyError → EV3Supervisor → Prop} :
    Triple (attempt (onOwner (MotorOwner.close c.toRobotConfig))) s (fun _ => Leaving) F :=
  Triple.attempt (P := fun _ => Leaving)
    (Triple.onPart ((MotorOwner.close_run ho).mono (fun _ _ h => ⟨hs, h, hopen⟩) fun _ _ h => ⟨hs, h, hopen⟩))

theorem closeAgain_run (h : s.Leaving) (first : PyError) : Settles (closeAgain c first) s (Consistent strict) := by
  refine Triple.bind (ownerClose_run h.state (fun _ => h.motion) h.isOpen) fun retry s₁ h₁ => Triple.get_bind ?_
  cases retry with
  | ok result => exact Triple.ite (fun _ => finalizeClosed_run h₁.motion _) fun _ => shutdownFailed_run h₁.ready h₁.motion _ _
  | error e => exact shutdownFailed_run h₁.ready h₁.motion _ _

theorem closeOpen_run (ha : Alive strict s) : Settles (closeOpen c) s (Consistent strict) := by
  refine Triple.modify_bind (Triple.bind (ownerClose_run (s := { s with state := .shuttingDown }) rfl
    ha.consistent.ownerClosed ha.isOpen) fun result s₁ h₁ => ?_)
  cases result with
  | ok result => exact Triple.ite (fun _ => finalizeClosed_run h₁.motion _) fun _ => shutdownFailed_run h₁.ready h₁.motion _ _
  | error e => exact closeAgain_run h₁ e

theorem close_run (hc : Consistent strict s) : Settles (close c) s (Consistent strict) := by
  refine dispatched hc (Triple.get_bind (Triple.ite (fun _ => Triple.pure hc) fun hopen => ?_))
  exact Triple.bind (closeOpen_run ⟨hc, by simpa using hopen⟩) fun _ _ h => Triple.pure h

-- Runs

theorem booting_consistent (hw : Hardware) (maximumEvents : Nat) : Consistent strict (booting hw maximumEvents) := by
  constructor <;> simp [booting]

theorem boot_run (hc : Consistent strict s) (hs : s.state = .booting) : Settles (boot c) s (Consistent strict) := by
  refine looking (onOwner_same (MotorOwner.stopAllVerified_same _)) hc fun stop s₁ h₁ hc₁ => ?_
  refine looking inventoryErrors_same hc₁ fun inventory s₂ h₂ hc₂ => ?_
  have hs₂ : s₂.state = .booting := (h₂.state.trans h₁.state).trans hs
  obtain ⟨hm, hcommand⟩ := hc₂.idle (by simp [hs₂])
  have hopen := hc₂.open_of_state (by simp [hs₂])
  refine Triple.ite (fun _ => ?_) fun _ => Triple.modify_bind (emit_consistent ?_)
  · refine Triple.bind ((enterFaultSilently_run (hc₂.ready hopen) (.inr hm)).mono (fun _ _ h => h)
      fun _ _ h => h.consistent) ?_
    exact fun _ _ h => emit_consistent h.consistent
  · constructor
    case heartbeat => exact hc₂.heartbeat
    all_goals simp [hm, hcommand, hopen]

/-- The call is no poll that completes a motion and lets an error through. -/
def Caught (c : SupervisorConfig) (s : EV3Supervisor) : SupervisorCall → Prop
  | .pollOnce => CompletionCaught c s
  | _ => True

instance (c : SupervisorConfig) (s : EV3Supervisor) : (call : SupervisorCall) → Decidable (Caught c s call)
  | .pollOnce => inferInstanceAs (Decidable (CompletionCaught c s))
  | .claim _ | .heartbeat _ _ | .arm _ _ | .startDrive _ _ | .stop | .release _ _ | .resetFault | .close
  | .drainAuditEvents => .isTrue trivial

theorem perform_run (hc : Consistent strict s) (call : SupervisorCall) (hcaught : strict → Caught c s call) :
    Settles (perform c call) s (Consistent strict) := by
  cases call with
  | claim ownerId => exact claim_run hc ownerId
  | heartbeat sessionId sequenceId => exact heartbeat_run hc sessionId sequenceId
  | arm sessionId sequenceId => exact arm_run hc sessionId sequenceId
  | startDrive command guard => exact startDrive_run hc command guard
  | stop => exact stop_run hc
  | release sessionId sequenceId => exact release_run hc sessionId sequenceId
  | resetFault => exact resetFault_run hc
  | pollOnce => exact Triple.bind (pollOnce_run hc hcaught) fun _ _ h => Triple.pure h
  | close => exact Triple.bind (close_run hc) fun _ _ h => Triple.pure h
  | drainAuditEvents =>
    refine looking (modify_same (fun _ => rfl) fun _ => rfl) hc fun _ _ _ hc => ?_
    exact looking status_same hc fun _ _ _ h => Triple.pure h

theorem runs_consistent {ok : EV3Supervisor → SupervisorCall → Prop} {h : List (SupervisorCall × Except PyError Reply)}
    (hok : ∀ s call, ok s call → strict → Caught c s call) (hc : Consistent strict s)
    (hr : (ev3Supervisor c).Runs ok s h s') : Consistent strict s' :=
  hr.invariant hc fun _ call hi hstep => (perform_run hi call (hok _ call hstep)).after

/-- The supervisor knows what moves, who may move it and what went wrong. -/
structure Accounted (s : EV3Supervisor) : Prop where
  motion : s.owner.active ≠ none ↔ s.state = .running
  command : s.state = .running ↔ s.activeCommandId ≠ none
  armed : s.state = .armedIdle ∨ s.state = .running → s.sessionId ≠ none ∧ s.lastHeartbeatMs ≠ none
  faulted : s.state = .faultLatched →
    s.sessionId = none ∧ s.activeCommandId = none ∧ s.owner.active = none ∧ s.fault ≠ none

theorem Consistent.accounted (hc : Consistent True s) : s.Accounted where
  motion := by rw [← Option.isSome_iff_ne_none]; exact ⟨hc.motion, hc.moving trivial⟩
  command := by rw [← Option.isSome_iff_ne_none, hc.command]
  armed ha := by simpa [Option.isSome_iff_ne_none] using hc.armed ha
  faulted hs := by
    obtain ⟨hsession, hfault⟩ := hc.faulted hs
    obtain ⟨hm, hcommand⟩ := hc.idle (by simp [hs])
    exact ⟨hsession, hcommand, hm, Option.isSome_iff_ne_none.mp hfault⟩

/-- In every run of a supervisor that booted, unless a completion's error gets
through the poll. -/
theorem accounted_in_runs {hw : Hardware} {maximumEvents : Nat} {s₀ : EV3Supervisor}
    {h : List (SupervisorCall × Except PyError Reply)} (hb : boot c (booting hw maximumEvents) = (.ok (), s₀))
    (hr : (ev3Supervisor c).Runs (Caught c) s₀ h s) : s.Accounted :=
  (runs_consistent (fun _ _ h _ => h) ((boot_run (booting_consistent hw maximumEvents) rfl).ok hb) hr).accounted

-- A run on the robot

def ev3rstorm : SupervisorConfig where
  motorRoles := ["arm", "drive_b", "drive_c"]
  leftMotorRole := "drive_b"
  rightMotorRole := "drive_c"
  leftForwardSign := 1
  rightForwardSign := 1
  drive := { maxAbsSpeedDps := 800, maxDurationMs := 800 }
  limits := {
    pollIntervalMs := 20
    maxPollLatenessMs := 20
    touchReleaseSamples := 3
    minAbsDriveSpeedDps := 50
    stallStartupGraceMs := 100
    stallWindowMs := 200
    stallMinProgressDegrees := 3
    stallMinProgressRatioPercent := 10
    minCompletionRatioPercent := 25
    maxStartSkewMs := 25
    stopVerifyTimeoutMs := 200
    stopPollIntervalMs := 10
    maxCommandsPerSession := 64
    heartbeatTimeoutMs := 500 }
  gatePolicy := {
    immediateEnterMax := 16
    enterMax := 35
    exitMin := 40
    medianWindow := 3
    enterConsecutive := 2
    exitConsecutive := 3 }

/-- Nothing moves, nothing is touched, and three motors are there. -/
def quiet (clock : Int) : Answer := { clock := .ok clock, paths := .ok ["motor0", "motor1", "motor2"] }

def named (clock : Int) (text : String) : Answer := { quiet clock with text := .ok text }

def rolePaths (clock : Int) : List Answer := ["motor0", "motor1", "motor2"].map (named clock)

/-- What a stop asks that is confirmed at its second round. -/
def stopAnswers (clock : Int) : List Answer := quiet clock :: rolePaths clock ++ List.replicate 25 (quiet clock)

def bootAnswers : List Answer :=
  stopAnswers 0 ++ (rolePaths 0).flatMap (fun path => [path, quiet 0]) ++ List.replicate 10 (quiet 0)

/-- The hardware that gives these answers, and goes on with the last clock. -/
def answering (answers : List Answer) (clock : Int) : Hardware := { tape := fun n => answers.getD n (quiet clock) }

def booted (hw : Hardware) : EV3Supervisor := (boot ev3rstorm (booting hw 512)).2

def turn : DriveCommand := ⟨"session", 3, "turn", 1, -100, 100, 290⟩

def uncheckedStart : StartGuard := ⟨pure (), .pure _⟩

def turnCalls : List SupervisorCall :=
  [.claim "owner", .heartbeat "session" 1, .pollOnce, .pollOnce, .arm "session" 2, .startDrive turn uncheckedStart, .pollOnce]

/-- The position of the first motor cannot be read after the stop of the turn. -/
def turnHardware (kind : ErrorKind) : Hardware :=
  answering
    (bootAnswers ++ [named 0 "session"] ++ List.replicate 157 (quiet 0) ++ List.replicate 18 (quiet 290) ++
      stopAnswers 290 ++ [{ quiet 290 with number := .error { kind := kind, message := "Cannot allocate memory" } }])
    290

/-- An `OSError` there is caught. -/
theorem accounted_in_runs_sample :
    Accounted ((ev3Supervisor ev3rstorm).runList (booted (turnHardware .os)) turnCalls).2 :=
  accounted_in_runs (Prod.ext (by decide +kernel) rfl) (Machine.runs_runList (by decide +kernel))

/-- A `MemoryError` is not: the motors stand, and the supervisor says that it
drives. -/
theorem unaccounted_completion :
    ¬ ∀ (c : SupervisorConfig) (hw : Hardware) (maximumEvents : Nat) (s₀ s : EV3Supervisor)
      (h : List (SupervisorCall × Except PyError Reply)),
      boot c (booting hw maximumEvents) = (.ok (), s₀) → (ev3Supervisor c).Runs Machine.always s₀ h s → s.Accounted := by
  intro hall
  have hs := hall ev3rstorm (turnHardware .other) 512 (booted (turnHardware .other)) _ _
    (Prod.ext (by decide +kernel) rfl) (Machine.runs_runList (Machine.stepsOk_always _ _ turnCalls))
  have hrun : ((ev3Supervisor ev3rstorm).runList (booted (turnHardware .other)) turnCalls).2.state = .running := by
    decide +kernel
  exact hs.motion.mpr hrun (by decide +kernel)

end EV3Supervisor

end RobotLlm.Ev3
