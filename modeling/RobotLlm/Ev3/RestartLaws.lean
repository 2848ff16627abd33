import RobotLlm.Ev3.SupervisorLaws

/-!
# Hardware faults need a restart

A fault that says the hardware is not what was bound at startup stays latched
until the supervisor is closed. The code of its record is what says so: a
close that does not verify its stop replaces the record.
-/

namespace RobotLlm.Ev3

open RobotLlm.Lib Prog

namespace EV3Supervisor

variable {c : SupervisorConfig} {s s' : EV3Supervisor}

def HardwareFaulted (s : EV3Supervisor) : Prop :=
  s.state = .faultLatched ∧ ∃ code ∈ s.fault.map Fault.code, isHardwareBinding code = true

def Ended (s : EV3Supervisor) : Prop := s.isClosed = true ∧ s.state = .closed

instance : Decidable s.HardwareFaulted := inferInstanceAs (Decidable (_ ∧ _))

theorem HardwareFaulted.same (h : s.HardwareFaulted) (hs : s.Same s') : s'.HardwareFaulted :=
  ⟨hs.state.trans h.1, by rw [hs.fault]; exact h.2⟩

theorem Ended.same (h : s.Ended) (hs : s.Same s') : s'.Ended := ⟨hs.isClosed.trans h.1, hs.state.trans h.2⟩

theorem HardwareFaulted.of_view (h : s.HardwareFaulted) (hv : s'.view = s.view) : s'.HardwareFaulted := by
  have hst : s'.state = s.state := congrArg View.state hv
  have hf : s'.fault = s.fault := congrArg View.fault hv
  exact ⟨hst.trans h.1, by rw [hf]; exact h.2⟩

theorem hardwareFaulted_kept (c : SupervisorConfig) : FaultKept c HardwareFaulted where
  state h := h.1
  same := HardwareFaulted.same
  stopped h := (finishActiveStop_view.triple _).mono (fun _ _ hv => h.of_view hv) fun _ _ hv => h.of_view hv
  updated h hf := ⟨h.1, by rw [map_code hf]; exact h.2⟩
  cleared h := h

-- The calls that a latched fault refuses

theorem refused {f : Unit → Sup α} {K : EV3Supervisor → Prop} (hk : K s) (states : List SupervisorState)
    (hs : s.state ∉ states) : Settles (do requireDispatchThread; requireState states >>= f) s K :=
  dispatched hk (guarded (requireState_run states) hk fun h => absurd h hs)

theorem resetFault_refused (h : s.HardwareFaulted) : Settles (resetFault c) s HardwareFaulted := by
  refine dispatched h (guarded (requireState_run _) h fun _ => Triple.get_bind (Triple.failIf (fun _ => h) fun hn => ?_))
  obtain ⟨code, hc, hb⟩ := h.2
  obtain ⟨fault, hf, rfl⟩ := Option.map_eq_some_iff.mp hc
  exact absurd ⟨fault, hf, hb⟩ hn

theorem hardwareFaulted_perform (h : s.HardwareFaulted) (call : SupervisorCall) (hn : call ≠ .close) :
    Settles (perform c call) s HardwareFaulted := by
  have hk := hardwareFaulted_kept c
  cases call with
  | claim ownerId => exact refused h _ (by simp [h.1])
  | heartbeat sessionId sequenceId => exact refused h _ (by simp [h.1])
  | arm sessionId sequenceId => exact refused h _ (by simp [h.1])
  | startDrive command guard =>
    refine Triple.bind ((checkDrive_run command).mono (fun _ _ hs => hs) fun _ _ hs => h.same hs) ?_
    rintro _ _ ⟨-, hs⟩
    simp [h.1] at hs
  | stop => exact stop_kept hk h
  | release sessionId sequenceId => exact refused h _ (by simp [h.1])
  | resetFault => exact resetFault_refused h
  | pollOnce => exact Triple.bind (pollOnce_kept hk h) fun _ _ h => Triple.pure h
  | close => exact absurd rfl hn
  | drainAuditEvents =>
    have hdrained : HardwareFaulted { s with audit := { s.audit with events := [] } } := h
    exact Triple.modify_bind (hk.looking hdrained status_same (fun _ h => h) fun _ _ h => Triple.pure h)

-- Closing

/-- Whether the owner's stop of a shutdown, or its one retry, is verified. -/
def shutdownVerified (c : SupervisorConfig) (s : EV3Supervisor) : Bool :=
  match MotorOwner.close c.toRobotConfig s.owner with
  | (.ok result, _) => decide (MotorOwner.StopResult.Clean result.toStopResult)
  | (.error _, o) =>
    match MotorOwner.close c.toRobotConfig o with
    | (.ok result, o) => o.closed && decide (MotorOwner.StopResult.Clean result.toStopResult)
    | (.error _, _) => false

theorem finalizeClosed_ended (cleanupErrors : List String) : Settles (finalizeClosed c cleanupErrors) s Ended := by
  refine Triple.modify_bind ?_
  have hended : Ended { s.invalidateSession with activeCommandId := none, isClosed := true, state := .closed } := ⟨rfl, rfl⟩
  refine Triple.bind (Triple.attempt (P := fun _ => Ended) ?_) fun _ s₁ h₁ => ?_
  · exact (emit_triple (fun _ _ h => hended.same h.toSame) fun _ h hn => absurd (hended.same h.toSame).2 hn.2).mono
      (fun _ _ h => hended.same h.toSame) fun _ _ h => h
  · refine Triple.frame_bind status_same (fun _ _ h => h₁.same h) fun _ s₂ h₂ => ?_
    have hended₂ := h₁.same h₂
    exact Triple.modify_bind (Triple.pure hended₂)

theorem attempt_onOwner (x : MotorOwner.Own α) (s : EV3Supervisor) :
    (attempt (onOwner x) : Sup _) s = (.ok (x s.owner).1, { s with owner := (x s.owner).2 }) := rfl

theorem closeOpen_ended (hv : shutdownVerified c s = true) : Settles (closeOpen c) s Ended := by
  unfold shutdownVerified at hv
  refine Triple.modify_bind (Triple.step (attempt_onOwner _ _) ?_)
  dsimp only
  generalize MotorOwner.close c.toRobotConfig s.owner = closed at hv ⊢
  rcases closed with ⟨e | result, o⟩
  · refine Triple.step (attempt_onOwner _ _) (Triple.get_bind ?_)
    dsimp only at hv ⊢
    generalize MotorOwner.close c.toRobotConfig o = retried at hv ⊢
    rcases retried with ⟨e' | result, o'⟩
    · simp at hv
    · simp only [Bool.and_eq_true, decide_eq_true_eq] at hv
      exact Triple.ite (fun _ => finalizeClosed_ended _) fun hn => absurd hv hn
  · exact Triple.ite (fun _ => finalizeClosed_ended _) fun hn => absurd (by simpa using hv) hn

theorem ended_perform (h : s.Ended) (call : SupervisorCall) : Settles (perform c call) s Ended := by
  cases call with
  | claim ownerId => exact refused h _ (by simp [h.2])
  | heartbeat sessionId sequenceId => exact refused h _ (by simp [h.2])
  | arm sessionId sequenceId => exact refused h _ (by simp [h.2])
  | startDrive command guard =>
    refine Triple.bind ((checkDrive_run command).mono (fun _ _ hs => hs) fun _ _ hs => h.same hs) ?_
    rintro _ _ ⟨-, hs⟩
    simp [h.2] at hs
  | stop => exact dispatched h (Triple.get_bind (Triple.ite (fun _ => Triple.pure h) fun hn => absurd h.1 hn))
  | release sessionId sequenceId => exact refused h _ (by simp [h.2])
  | resetFault => exact refused h _ (by simp [h.2])
  | pollOnce =>
    refine Triple.bind (dispatched h (Triple.get_bind (Triple.failIf (fun _ => h) fun hn => absurd h.1 hn))) ?_
    exact fun _ _ h => Triple.pure h
  | close =>
    refine Triple.bind (dispatched h (Triple.get_bind (Triple.ite (fun _ => Triple.pure h) fun hn => absurd h.1 hn))) ?_
    exact fun _ _ h => Triple.pure h
  | drainAuditEvents =>
    have hdrained : Ended { s with audit := { s.audit with events := [] } } := h
    refine Triple.modify_bind (Triple.frame_bind status_same (fun _ _ hs => hdrained.same hs) fun _ _ hs => ?_)
    exact Triple.pure (hdrained.same hs)

-- Runs

/-- The call is no close that replaces the record of a hardware fault. -/
def KeepsCause (c : SupervisorConfig) (s : EV3Supervisor) : SupervisorCall → Prop
  | .close => s.HardwareFaulted → s.OnDispatchThread → s.isClosed = true ∨ shutdownVerified c s = true
  | _ => True

instance (c : SupervisorConfig) (s : EV3Supervisor) : (call : SupervisorCall) → Decidable (KeepsCause c s call)
  | .close => inferInstanceAs (Decidable (_ → _ → _))
  | .claim _ | .heartbeat _ _ | .arm _ _ | .startDrive _ _ | .stop | .release _ _ | .resetFault | .pollOnce
  | .drainAuditEvents => .isTrue trivial

theorem perform_keepsCause (h : s.HardwareFaulted ∨ s.Ended) (call : SupervisorCall) (hk : KeepsCause c s call) :
    Settles (perform c call) s fun s' => s'.HardwareFaulted ∨ s'.Ended := by
  obtain h | h := h
  · by_cases hn : call = .close
    · subst hn
      refine Triple.bind (guarded requireDispatchThread_run (.inl h) fun hthread =>
        Triple.get_bind (Triple.ite (fun _ => Triple.pure (.inl h)) fun hopen => ?_)) ?_
      · have hended := closeOpen_ended ((hk h hthread).resolve_left hopen)
        refine Triple.bind (hended.mono (fun _ _ h => ?_) fun _ _ h => ?_) fun _ _ h => Triple.pure h
        · exact .inr h
        · exact .inr h
      · exact fun _ _ h => Triple.pure h
    · exact (hardwareFaulted_perform h call hn).mono (fun _ _ h => .inl h) fun _ _ h => .inl h
  · exact (ended_perform h call).mono (fun _ _ h => .inr h) fun _ _ h => .inr h

/-- From a latched hardware fault on, the supervisor only ever stays there or
closes, as long as no close replaces the record of the fault. -/
theorem hardware_fault_final {h : List (SupervisorCall × Except PyError Reply)} (hf : s.HardwareFaulted)
    (hr : (ev3Supervisor c).Runs (KeepsCause c) s h s') :
    s'.state = .faultLatched ∨ s'.state = .shuttingDown ∨ s'.state = .closed := by
  have hend : s'.HardwareFaulted ∨ s'.Ended :=
    hr.invariant (.inl hf) fun _ call hi hk => (perform_keepsCause hi call hk).after
  obtain hend | hend := hend
  · exact .inl hend.1
  · exact .inr (.inr hend.2)

/-- The infrared sensor answers out of range once. The shutdown after that
finds the motors listed as given. -/
def restartHardware (listed : Except PyError (List String)) : Hardware :=
  answering
    (bootAnswers ++ List.replicate 6 (quiet 0) ++ [{ quiet 0 with number := .ok 200 }] ++ stopAnswers 0 ++
      List.replicate 2 (quiet 0) ++ [{ quiet 0 with paths := listed }] ++ rolePaths 0 ++
      List.replicate 28 (quiet 0) ++ stopAnswers 0 ++ List.replicate 15 (quiet 0) ++ stopAnswers 0)
    0

def listing : Except PyError (List String) := .ok ["motor0", "motor1", "motor2"]

def unlisted : Except PyError (List String) := .error { kind := .os, message := "Input/output error" }

/-- The supervisor after the poll that reads the sensor. -/
def hardwareFaulted (listed : Except PyError (List String)) : EV3Supervisor :=
  ((ev3Supervisor ev3rstorm).runList (booted (restartHardware listed)) [.pollOnce]).2

def restarted : EV3Supervisor := ((ev3Supervisor ev3rstorm).runList (hardwareFaulted listing) [.resetFault, .close]).2

theorem hardware_fault_final_sample :
    restarted.state = .faultLatched ∨ restarted.state = .shuttingDown ∨ restarted.state = .closed := by
  have hok : (ev3Supervisor ev3rstorm).StepsOk (KeepsCause ev3rstorm) (hardwareFaulted listing) [.resetFault, .close] := by
    decide +kernel
  have hf : (hardwareFaulted listing).HardwareFaulted := by decide +kernel
  unfold restarted
  exact hardware_fault_final hf (Machine.runs_runList hok)

/-- A shutdown that cannot list the motors hides the cause, and the reset is
granted. -/
theorem hardware_fault_reset :
    ¬ ∀ (c : SupervisorConfig) (hw : Hardware) (maximumEvents : Nat) (s₀ s s' : EV3Supervisor)
      (h h' : List (SupervisorCall × Except PyError Reply)),
      boot c (booting hw maximumEvents) = (.ok (), s₀) → (ev3Supervisor c).Runs Machine.always s₀ h s →
      s.HardwareFaulted → (ev3Supervisor c).Runs Machine.always s h' s' →
      s'.state = .faultLatched ∨ s'.state = .shuttingDown ∨ s'.state = .closed := by
  intro hall
  have hr := Machine.runs_runList (Machine.stepsOk_always (ev3Supervisor ev3rstorm) (booted (restartHardware unlisted))
    [.pollOnce])
  have hr' := Machine.runs_runList (Machine.stepsOk_always (ev3Supervisor ev3rstorm) (hardwareFaulted unlisted)
    [.close, .resetFault])
  have hf : (hardwareFaulted unlisted).HardwareFaulted := by decide +kernel
  have hdisarmed : ((ev3Supervisor ev3rstorm).runList (hardwareFaulted unlisted) [.close, .resetFault]).2.state =
      .disarmed := by decide +kernel
  unfold hardwareFaulted at hr' hf hdisarmed
  have hs := hall _ _ _ _ _ _ _ _ (Prod.ext (by decide +kernel) rfl) hr hf hr'
  simp [hdisarmed] at hs

end EV3Supervisor

end RobotLlm.Ev3
