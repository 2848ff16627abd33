import RobotLlm.Ev3.FrameLaws

/-!
# Nothing is taken back

Whatever a public call does to the supervisor, the log of the environment only
grows, with nothing but the supervisor's own happenings and the requests of
other threads, and the dispatch thread stays the same. Neither the owner nor
the supervisor closes unless the log says that the lock was given up.
-/

namespace RobotLlm.Ev3

open RobotLlm.Lib Hardware

theorem Hardware.Grew.mem {P : Happening → Prop} {h h' : Hardware} {e : Happening} (hg : h.Grew P h') (he : e ∈ h.log) :
    e ∈ h'.log := by
  obtain ⟨newer, hl, -⟩ := hg.log
  rw [hl]
  exact List.mem_append_right _ he

-- The motor owner

namespace MotorOwner

structure Grows (o o' : MotorOwner) : Prop where
  hw : Later o.hw o'.hw
  closed : o'.closed = true → o.closed = true ∨ .released ∈ o'.hw.log

instance : IsPreorder MotorOwner Grows where
  refl o := ⟨Grew.refl _ o.hw, .inl⟩
  trans _ _ _ h h' := ⟨h.hw.trans h'.hw, fun hc =>
    (h'.closed hc).elim (fun hc => (h.closed hc).imp_right h'.hw.mem) .inr⟩

variable {c : RobotConfig} {o : MotorOwner}

theorem Same.grows {x : Own α} (h : Prog.Keeps Same x) : Prog.Keeps Grows x :=
  h.mono fun _ _ h => ⟨h.hw, fun hc => .inl (h.closed.symm.trans hc)⟩

theorem onHw_grows {x : Io α} (h : Prog.Keeps Later x) : Prog.Keeps Grows (onHw x) := Same.grows (onHw_same h)

theorem modify_grows {f : MotorOwner → MotorOwner} (hw : ∀ o, (f o).hw = o.hw) (hc : ∀ o, (f o).closed = o.closed) :
    Prog.Keeps Grows (modify f : Own Unit) :=
  .modify fun o => ⟨by rw [hw]; exact Grew.refl _ o.hw, fun h => .inl ((hc o).symm.trans h)⟩

theorem finishActive_grows (verifyMotion : Bool) : Prog.Keeps Grows (finishActive c verifyMotion) := by
  refine .bind (Same.grows requireOpen_same) fun _ => .bind .get fun o => ?_
  have hstop : Prog.Keeps Grows (stopAllVerified c) := Same.grows (stopAllVerified_same c)
  split
  next => exact .bind hstop fun _ => .pure _
  next active _ =>
    exact .bind (modify_grows (fun _ => rfl) fun _ => rfl) fun _ => .bind hstop fun _ =>
      .bind (onHw_grows (readFinishedMotors_grew active.motors)) fun _ => .pure _

theorem releaseLock_grows (result : CloseResult) :
    Prog.Keeps Grows (do onHw (note .released); modify fun o => { o with closed := true, closeResult := result } : Own Unit) :=
  fun o => ⟨(released_same o).hw, fun _ => .inr List.mem_cons_self⟩

theorem unlock_grows (result : StopResult) : Prog.Keeps Grows (unlock result) :=
  .bind (.attempt (onHw_grows (ask_later _))) fun _ => .bind (.attempt (onHw_grows (ask_later _))) fun _ =>
    .bind (onHw_grows (ask_later _)) fun _ =>
      show Prog.Keeps Grows ((do onHw (note .released); modify _ : Own Unit) >>= fun _ => Prog.ofExcept _) from
        .bind (releaseLock_grows _) fun _ => .ofExcept _

theorem close_grows : Prog.Keeps Grows (close c) :=
  .bind .get fun _ => .ite (.pure _) (.bind (finishActive_grows false) fun _ => .ite (unlock_grows _) (.pure _))

theorem unlock_closes (result : StopResult) : Prog.Triple (unlock result) o (fun _ o' => o'.closed = true) (fun _ _ => True) := by
  refine .bind (.unknown _ _) fun _ _ _ => .bind (.unknown _ _) fun _ _ _ => .bind (.unknown _ _) fun _ _ _ =>
    .bind (.unknown _ _) fun _ _ _ => .modify_bind (.ofExcept ?_)
  split
  · rfl
  · trivial

theorem close_closes : Prog.Triple (close c) o (fun result o' => StopResult.Clean result.toStopResult → o'.closed = true)
    (fun _ _ => True) := by
  refine .get_bind (.ite (fun hc => .pure fun _ => hc) fun _ => .bind (.unknown _ _) fun finished o₁ _ => .ite (fun _ => ?_) fun hn => ?_)
  · exact (unlock_closes _).mono (fun _ _ h _ => h) fun _ _ h => h
  · exact .pure fun hc => absurd hc hn

end MotorOwner

-- Faults

namespace EV3Supervisor

def Shut (s : EV3Supervisor) : Prop := s.isClosed = true ∨ s.owner.closed = true

structure Grows (s s' : EV3Supervisor) : Prop where
  hw : Later s.owner.hw s'.owner.hw
  dispatchThreadId : s'.dispatchThreadId = s.dispatchThreadId
  shut : s'.Shut → s.Shut ∨ .released ∈ s'.owner.hw.log

instance : IsPreorder EV3Supervisor Grows where
  refl s := ⟨.refl _ s.owner.hw, rfl, .inl⟩
  trans _ _ _ h h' := ⟨h.hw.trans h'.hw, h'.dispatchThreadId.trans h.dispatchThreadId, fun hs =>
    (h'.shut hs).elim (fun hs => (h.shut hs).imp_right h'.hw.mem) .inr⟩

variable {c : SupervisorConfig} {s s' : EV3Supervisor} {code detail event : String} {made : Option StopResult}

theorem Same.grown (h : s.Same s') : s.Grows s' :=
  ⟨h.owner.hw, congrArg View.dispatchThreadId h.view,
    fun hs => .inl (hs.imp (congrArg View.isClosed h.view).symm.trans h.owner.closed.symm.trans)⟩

theorem Same.grows {x : Sup α} (h : Prog.Keeps Same x) : Prog.Keeps Grows x := h.mono fun _ _ => Same.grown

theorem onOwner_grows {x : MotorOwner.Own α} (h : Prog.Keeps MotorOwner.Grows x) : Prog.Keeps Grows (onOwner x) :=
  .onPart (fun _ _ hg => ⟨hg.hw, rfl, fun hs => hs.elim (fun hs => .inl (.inl hs)) fun hs => (hg.closed hs).imp_left .inr⟩) h

theorem modify_grows {f : EV3Supervisor → EV3Supervisor} (ho : ∀ s, (f s).owner = s.owner)
    (hf : ∀ s, (f s).dispatchThreadId = s.dispatchThreadId ∧ (f s).isClosed = s.isClosed) :
    Prog.Keeps Grows (modify f : Sup Unit) :=
  .modify fun s => ⟨by rw [ho]; exact Grew.refl _ s.owner.hw, (hf s).1, fun hs => .inl (by
    unfold Shut at hs ⊢
    rwa [ho, (hf s).2] at hs)⟩

theorem status_grows : Prog.Keeps Grows (status c) := Same.grows status_same

theorem checkedNowMs_grows : Prog.Keeps Grows checkedNowMs := Same.grows checkedNowMs_same

theorem updateFault_grows (f : Fault → Fault) : Prog.Keeps Grows (updateFault f) :=
  .bind .get fun _ => .bind (.failIf _ _) fun _ => modify_grows (fun _ => rfl) fun _ => ⟨rfl, rfl⟩

theorem finishActiveStop_grows : Prog.Keeps Grows (finishActiveStop c) :=
  .bind (onOwner_grows (MotorOwner.finishActive_grows false)) fun _ => .pure _

theorem faultRetry_grows : Prog.Keeps Grows (faultRetry c) := by
  refine .bind (.attempt finishActiveStop_grows) fun retry => ?_
  cases retry <;> exact updateFault_grows _

theorem stopForFault_grows : Prog.Keeps Grows (stopForFault c made) := by
  cases made with
  | some stop => exact .pure _
  | none => exact .bind (.attempt finishActiveStop_grows) fun _ => .pure _

theorem latch_grows (stop : StopResult) : Prog.Keeps Grows (modify (latched code detail stop) : Sup Unit) :=
  modify_grows (fun _ => rfl) fun _ => ⟨rfl, rfl⟩

theorem enterFaultSilently_grows : Prog.Keeps Grows (enterFaultSilently c code detail made) :=
  .bind .get fun _ => .ite faultRetry_grows (.bind stopForFault_grows fun stop => latch_grows stop)

theorem emit_grows : Prog.Keeps Grows (emit c event) := by
  refine .bind (modify_grows (fun _ => rfl) fun _ => ⟨rfl, rfl⟩) fun _ => .bind (Same.grows nowMs_same) fun _ =>
    .bind .get fun _ => ?_
  split
  · exact modify_grows (fun _ => rfl) fun _ => ⟨rfl, rfl⟩
  · exact .bind .get fun _ => .ite (.throw _) (.bind enterFaultSilently_grows fun _ => .throw _)

theorem enterFault_grows : Prog.Keeps Grows (enterFault c code detail made) :=
  .bind .get fun _ => .ite faultRetry_grows
    (.bind stopForFault_grows fun stop => .bind (latch_grows stop) fun _ =>
      .tryCatch emit_grows fun _ => .ite (.pure _) (.throw _))

theorem finishActiveWithRetry_grows (phase : String) : Prog.Keeps Grows (finishActiveWithRetry c phase) := by
  refine .bind (.attempt finishActiveStop_grows) fun r => ?_
  cases r with
  | ok stop => exact .pure _
  | error e => exact .bind (.attempt finishActiveStop_grows) fun _ => .pure _

-- Polling

theorem stopForwardForInfrared_grows : Prog.Keeps Grows (stopForwardForInfrared c) :=
  .bind checkedNowMs_grows fun _ => .bind (finishActiveWithRetry_grows _) fun _ =>
    .bind (modify_grows (fun _ => rfl) fun _ => ⟨rfl, rfl⟩) fun _ =>
      .ite
        (.bind (modify_grows (fun _ => rfl) fun _ => ⟨rfl, rfl⟩) fun _ => .bind emit_grows fun _ => status_grows)
        (.bind enterFault_grows fun _ => status_grows)

theorem completeMotion_grows : Prog.Keeps Grows (completeMotion c) :=
  .bind (onOwner_grows (MotorOwner.finishActive_grows true)) fun _ =>
    .ite enterFault_grows (.bind (modify_grows (fun _ => rfl) fun _ => ⟨rfl, rfl⟩) fun _ => emit_grows)

theorem pollRunning_grows : Prog.Keeps Grows (pollRunning c) := by
  refine .bind (Same.grows pollMotion_same) fun poll => ?_
  cases poll with
  | obstacle => exact .bind stopForwardForInfrared_grows fun _ => .pure _
  | complete => exact .bind completeMotion_grows fun _ => .pure _
  | goOn => exact .pure _

theorem pollIdle_grows : Prog.Keeps Grows (pollIdle c) :=
  .bind (Same.grows checkIdleMotors_same) fun _ => .bind checkedNowMs_grows fun _ => .bind .get fun _ =>
    .bind (.failIf _ _) fun _ => .bind (.failIf _ _) fun _ => .bind .get fun _ =>
      .ite (.bind (modify_grows (fun _ => rfl) fun _ => ⟨rfl, rfl⟩) fun _ => emit_grows) (.pure _)

theorem pollUnfaulted_grows : Prog.Keeps Grows (pollUnfaulted c) := by
  refine .bind (Same.grows pollSensors_same) fun _ => .bind .get fun _ => ?_
  split
  · exact pollRunning_grows
  · exact .bind pollIdle_grows fun _ => .pure _
  · exact .bind pollIdle_grows fun _ => .pure _
  · exact .pure _

theorem pollFault_grows : Prog.Keeps Grows (pollFault c) := by
  refine .bind (Same.grows secondaryClockError_same) fun _ => .bind ?_ fun _ =>
    .bind (Same.grows secondarySensorErrors_same) fun _ => .bind (updateFault_grows _) fun _ => status_grows
  refine .bind (.attempt finishActiveStop_grows) fun retry => ?_
  cases retry <;> exact updateFault_grows _

theorem pollOnce_grows : Prog.Keeps Grows (pollOnce c) := by
  refine .bind (Same.grows requireDispatchThread_same) fun _ => .bind .get fun _ => .bind (.failIf _ _) fun _ =>
    .ite pollFault_grows (.bind (.tryCatch pollUnfaulted_grows fun _ => ?_) fun answer => ?_)
  · exact .ite (.bind enterFault_grows fun _ => .pure _) (.throw _)
  · cases answer with
    | some answer => exact .pure _
    | none => exact status_grows

-- The operations

theorem emitStatus_grows : Prog.Keeps Grows (do emit c event; return .status (← status c) : Sup Reply) :=
  .bind emit_grows fun _ => .bind status_grows fun _ => .pure _

theorem claim_grows (ownerId : String) : Prog.Keeps Grows (claim c ownerId) :=
  .bind (Same.grows requireDispatchThread_same) fun _ => .bind (Same.grows (requireState_same _)) fun _ =>
    .bind .get fun _ => .bind (.failIf _ _) fun _ => .bind (.ofExcept _) fun _ =>
      .bind (Same.grows (io_same (ask_later _))) fun _ => .bind (.ofExcept _) fun _ =>
        .bind (modify_grows (fun _ => rfl) fun _ => ⟨rfl, rfl⟩) fun _ => .bind checkedNowMs_grows fun _ =>
          .bind (modify_grows (fun _ => rfl) fun _ => ⟨rfl, rfl⟩) fun _ => .bind emit_grows fun _ => .pure _

theorem heartbeat_grows (sessionId : String) (sequenceId : Int) : Prog.Keeps Grows (heartbeat c sessionId sequenceId) :=
  .bind (Same.grows requireDispatchThread_same) fun _ => .bind (Same.grows (requireState_same _)) fun _ =>
    .bind (Same.grows (requireSession_same _)) fun _ => .bind (Same.grows (consumeSequence_same _)) fun _ =>
      .bind (Same.grows nowMs_same) fun _ => .bind (modify_grows (fun _ => rfl) fun _ => ⟨rfl, rfl⟩) fun _ =>
        .bind emit_grows fun _ => .pure _

theorem revalidate_grows (phase : String) : Prog.Keeps Grows (revalidateHardwareTopology c phase) :=
  .tryCatch (Same.grows (onOwner_same MotorOwner.revalidateTopology_same)) fun _ =>
    .ite (.bind enterFault_grows fun _ => .throw _) (.throw _)

theorem arm_grows (sessionId : String) (sequenceId : Int) : Prog.Keeps Grows (arm c sessionId sequenceId) :=
  .bind (Same.grows requireDispatchThread_same) fun _ => .bind (Same.grows (requireState_same _)) fun _ =>
    .bind (Same.grows (requireSession_same _)) fun _ => .bind (Same.grows (validateSequence_same _)) fun _ =>
      .bind (revalidate_grows _) fun _ => .bind pollOnce_grows fun _ => .bind (Same.grows (requireState_same _)) fun _ =>
        .bind checkedNowMs_grows fun _ => .bind (Same.grows (requireHeartbeat_same _ _)) fun _ =>
          .bind (Same.grows (requireTouchStable_same _)) fun _ => .bind (Same.grows checkIdleMotors_same) fun _ =>
            .bind checkedNowMs_grows fun _ => .bind (Same.grows (requireHeartbeat_same _ _)) fun _ =>
              .bind (Same.grows (consumeSequence_same _)) fun _ =>
                .bind (modify_grows (fun _ => rfl) fun _ => ⟨rfl, rfl⟩) fun _ => emitStatus_grows

theorem acceptDrive_grows (d : DriveCommand) (guard : StartGuard) : Prog.Keeps Grows (acceptDrive c d guard) :=
  .bind (revalidate_grows _) fun _ => .bind pollOnce_grows fun _ => .bind (Same.grows (requireState_same _)) fun _ =>
    .bind checkedNowMs_grows fun _ => .bind (Same.grows (requireHeartbeat_same _ _)) fun _ =>
      .bind (Same.grows (requireTouchReleased_same _)) fun _ => .bind (Same.grows (requireInfraredIf_same _)) fun _ =>
        .bind (Same.grows (guard_same guard)) fun _ => .bind (Same.grows (consumeSequence_same _)) fun _ =>
          .bind (modify_grows (fun _ => rfl) fun _ => ⟨rfl, rfl⟩) fun _ => emit_grows

theorem prestartFailed_grows (e : PyError) : Prog.Keeps Grows (prestartFailed c e) :=
  .ite (.bind checkedNowMs_grows fun _ => .bind emit_grows fun _ => .throw _) (.bind enterFault_grows fun _ => .throw _)

theorem startMotion_grows (d : DriveCommand) (guard : StartGuard) : Prog.Keeps Grows (startMotion c d guard) :=
  .bind
    (.bind (Same.grows (onOwner_same (MotorOwner.driveMotors_same _ _ _ _))) fun _ =>
      .bind (.tryCatch (Same.grows (tryStart_same (guardMotorStart_same d guard) _ _)) fun e =>
          Same.grows (startFailed_same e)) fun _ =>
        .bind (onOwner_grows (MotorOwner.modify_grows (fun _ => rfl) fun _ => rfl)) fun _ =>
          Same.grows (onOwner_same MotorOwner.activeSnapshot_same))
    fun _ => .pure _

theorem motorStartFailed_grows (e : PyError) : Prog.Keeps Grows (motorStartFailed c e) :=
  .bind (.attempt finishActiveStop_grows) fun _ =>
    .ite
      (.bind (modify_grows (fun _ => rfl) fun _ => ⟨rfl, rfl⟩) fun _ => .bind checkedNowMs_grows fun _ =>
        .bind emit_grows fun _ => .throw _)
      (.bind enterFault_grows fun _ => .throw _)

theorem poststart_grows (d : DriveCommand) (startSkewMs : Int) (guard : StartGuard) :
    Prog.Keeps Grows (poststart c d startSkewMs guard) :=
  .bind (Same.grows readInfrared_same) fun _ => .bind .get fun _ =>
    .ite (.bind stopForwardForInfrared_grows fun _ => .throw _) (Same.grows (checkStarted_same startSkewMs guard))

theorem poststartFailed_grows (e : PyError) : Prog.Keeps Grows (poststartFailed c e) :=
  .bind .get fun _ => .ite (.throw _) (.bind enterFault_grows fun _ => .throw _)

theorem startDrive_grows (d : DriveCommand) (guard : StartGuard) : Prog.Keeps Grows (startDrive c d guard) :=
  .bind (Same.grows (checkDrive_same d)) fun _ => .bind (acceptDrive_grows d guard) fun _ =>
    .bind (.tryCatch (Same.grows (prestart_same d guard)) fun _ => prestartFailed_grows _) fun _ =>
      .bind (.tryCatch (startMotion_grows d guard) fun _ => motorStartFailed_grows _) fun _ =>
        .bind (modify_grows (fun _ => rfl) fun _ => ⟨rfl, rfl⟩) fun _ => .bind (Same.grows activeMotion_same) fun _ =>
          .bind (.tryCatch (poststart_grows d _ guard) fun _ => poststartFailed_grows _) fun _ => emitStatus_grows

theorem recordStop_grows (wasFaulted : Bool) (r : StopResult × Option PyError) :
    Prog.Keeps Grows (recordStop c wasFaulted r) :=
  .ite
    (.bind (modify_grows (fun _ => rfl) fun _ => ⟨rfl, rfl⟩) fun _ => .bind (updateFault_grows _) fun _ => emit_grows)
    (.ite (.bind (modify_grows (fun _ => rfl) fun _ => ⟨rfl, rfl⟩) fun _ => emit_grows) enterFault_grows)

theorem stop_grows : Prog.Keeps Grows (stop c) :=
  .bind (Same.grows requireDispatchThread_same) fun _ => .bind .get fun _ =>
    .ite (.pure _)
      (.bind .get fun _ => .bind (finishActiveWithRetry_grows _) fun _ =>
        .bind (modify_grows (fun _ => rfl) fun _ => ⟨rfl, rfl⟩) fun _ => .bind (recordStop_grows _ _) fun _ =>
          .bind status_grows fun _ => .pure _)

theorem release_grows (sessionId : String) (sequenceId : Int) : Prog.Keeps Grows (release c sessionId sequenceId) :=
  .bind (Same.grows requireDispatchThread_same) fun _ => .bind (Same.grows (requireState_same _)) fun _ =>
    .bind (Same.grows (requireSession_same _)) fun _ => .bind (Same.grows (consumeSequence_same _)) fun _ =>
      .bind (finishActiveWithRetry_grows _) fun _ => .bind (modify_grows (fun _ => rfl) fun _ => ⟨rfl, rfl⟩) fun _ =>
        .ite (.bind (modify_grows (fun _ => rfl) fun _ => ⟨rfl, rfl⟩) fun _ => emitStatus_grows)
          (.bind enterFault_grows fun _ => .bind status_grows fun _ => .pure _)

theorem resetFault_grows : Prog.Keeps Grows (resetFault c) :=
  .bind (Same.grows requireDispatchThread_same) fun _ => .bind (Same.grows (requireState_same _)) fun _ =>
    .bind .get fun _ => .bind (.failIf _ _) fun _ => .bind pollOnce_grows fun _ =>
      .bind (Same.grows (requireState_same _)) fun _ => .bind .get fun _ => .bind (.failIf _ _) fun _ =>
        .bind (Same.grows verifyHardware_same) fun _ => .bind (Same.grows (requireTouchStable_same _)) fun _ =>
          .bind (Same.grows (onOwner_same (MotorOwner.stopAllVerified_same _))) fun _ => .bind (.failIf _ _) fun _ =>
            .bind (modify_grows (fun _ => rfl) fun _ => ⟨rfl, rfl⟩) fun _ => emitStatus_grows

theorem finalizeClosed_grows (hc : s.owner.closed = true) (cleanupErrors : List String) :
    Prog.Settles (finalizeClosed c cleanupErrors) s s.Grows := by
  refine Prog.Triple.modify_bind (Prog.Keeps.triple_from ?_ (.bind (.attempt emit_grows) fun _ => .bind status_grows fun _ =>
    .bind (modify_grows (fun _ => rfl) fun _ => ⟨rfl, rfl⟩) fun _ => .pure _))
  exact ⟨Grew.refl _ s.owner.hw, rfl, fun _ => .inl (.inr hc)⟩

theorem shutdownFailed_grows (stop : StopResult) : Prog.Keeps Grows (shutdownFailed c detail stop) :=
  .bind enterFault_grows fun _ => status_grows

theorem ownerClose_grows {F : PyError → EV3Supervisor → Prop} :
    Prog.Triple (Prog.attempt (onOwner (MotorOwner.close c.toRobotConfig))) s
      (fun r s' => s.Grows s' ∧ ∀ result : CloseResult, r = .ok result → MotorOwner.StopResult.Clean result.toStopResult →
        s'.owner.closed = true) F := by
  refine .attempt (P := fun r s' => s.Grows s' ∧ ∀ result : CloseResult, r = .ok result →
    MotorOwner.StopResult.Clean result.toStopResult → s'.owner.closed = true) ?_
  have hclose : Prog.Triple (onOwner (MotorOwner.close c.toRobotConfig)) s
      (fun result s' => MotorOwner.StopResult.Clean result.toStopResult → s'.owner.closed = true) (fun _ _ => True) :=
    .onPart (MotorOwner.close_closes.mono (fun _ _ h => h) fun _ _ h => h)
  refine (((onOwner_grows MotorOwner.close_grows).triple s).and hclose).mono ?_ fun _ _ h => ⟨h.1, fun _ hr => by cases hr⟩
  exact fun _ _ h => ⟨h.1, fun _ hr => by cases hr; exact h.2⟩

theorem closeAgain_grows (first : PyError) : Prog.Settles (closeAgain c first) s s.Grows := by
  refine .bind ownerClose_grows fun retry s₁ h₁ => .get_bind ?_
  cases retry with
  | ok result =>
    refine .ite (fun hc => ?_) fun _ => (shutdownFailed_grows _).triple_from h₁.1
    exact (finalizeClosed_grows hc.1 _).mono (fun _ _ h => trans_of Grows h₁.1 h) fun _ _ h => trans_of Grows h₁.1 h
  | error e => exact (shutdownFailed_grows _).triple_from h₁.1

theorem closeOpen_grows : Prog.Settles (closeOpen c) s s.Grows := by
  have hshut : s.Grows { s with state := .shuttingDown } := ⟨Grew.refl _ s.owner.hw, rfl, .inl⟩
  refine .modify_bind (.bind ownerClose_grows fun result s₁ h₁ => ?_)
  have hg : s.Grows s₁ := trans_of Grows hshut h₁.1
  cases result with
  | ok result =>
    refine .ite (fun hc => ?_) fun _ => (shutdownFailed_grows _).triple_from hg
    exact (finalizeClosed_grows (h₁.2 result rfl hc) _).mono (fun _ _ h => trans_of Grows hg h) fun _ _ h => trans_of Grows hg h
  | error e => exact (closeAgain_grows e).mono (fun _ _ h => trans_of Grows hg h) fun _ _ h => trans_of Grows hg h

theorem close_grows : Prog.Keeps Grows (close c) :=
  .bind (Same.grows requireDispatchThread_same) fun _ => .bind .get fun _ => .ite (.pure _)
    (.bind (fun _ => closeOpen_grows.after) fun _ => .pure _)

theorem boot_grows : Prog.Keeps Grows (boot c) :=
  .bind (Same.grows (onOwner_same (MotorOwner.stopAllVerified_same _))) fun _ =>
    .bind (Same.grows inventoryErrors_same) fun _ =>
      .ite (.bind enterFaultSilently_grows fun _ => emit_grows)
        (.bind (modify_grows (fun _ => rfl) fun _ => ⟨rfl, rfl⟩) fun _ => emit_grows)

theorem perform_grows (call : SupervisorCall) : Prog.Keeps Grows (perform c call) := by
  cases call with
  | claim ownerId => exact claim_grows ownerId
  | heartbeat sessionId sequenceId => exact heartbeat_grows sessionId sequenceId
  | arm sessionId sequenceId => exact arm_grows sessionId sequenceId
  | startDrive command guard => exact startDrive_grows command guard
  | stop => exact stop_grows
  | release sessionId sequenceId => exact release_grows sessionId sequenceId
  | resetFault => exact resetFault_grows
  | pollOnce => exact .bind pollOnce_grows fun _ => .pure _
  | close => exact .bind close_grows fun _ => .pure _
  | drainAuditEvents =>
    exact .bind (modify_grows (fun _ => rfl) fun _ => ⟨rfl, rfl⟩) fun _ => .bind status_grows fun _ => .pure _

end EV3Supervisor

end RobotLlm.Ev3
