import RobotLlm.Ev3.GrowthLaws
import RobotLlm.Ev3.SupervisorLaws

/-!
# Which operations start motors

Only a drive does, once its command is accepted. Every other step of the
supervisor adds nothing to the log that makes a motor run, and leaves what is
remembered of the session as it was, or forgets it whole.
-/

namespace RobotLlm.Ev3

open RobotLlm.Lib Hardware Happening

-- The motor owner

namespace MotorOwner

def Calms (o o' : MotorOwner) : Prop := o.hw.Grew Calm o'.hw

/-- No motor was started, and no other motion is known than before. -/
structure Idles (o o' : MotorOwner) : Prop where
  calms : o.Calms o'
  motion : o'.active = none ∨ o'.roles = o.roles

instance : IsPreorder MotorOwner Idles where
  refl o := ⟨Grew.refl _ o.hw, .inr rfl⟩
  trans _ o' o'' h h' := by
    refine ⟨Grew.trans h.calms h'.calms, h'.motion.elim .inl fun hr' => h.motion.imp (fun hn => ?_) hr'.trans⟩
    simpa [roles, hn] using hr'

variable {c : RobotConfig}

theorem SameBy.idles {x : Own α} (h : Prog.Keeps (SameBy Calm) x) : Prog.Keeps Idles x :=
  h.mono fun _ _ h => ⟨h.hw, .inr h.roles⟩

theorem modify_idles {f : MotorOwner → MotorOwner} (hw : ∀ o, (f o).hw = o.hw)
    (hm : ∀ o, (f o).active = none ∨ (f o).roles = o.roles) : Prog.Keeps Idles (modify f : Own Unit) := by
  refine .modify fun o => ⟨?_, hm o⟩
  show o.hw.Grew Calm (f o).hw
  rw [hw]
  exact Grew.refl _ o.hw

theorem finishActive_idles (verifyMotion : Bool) : Prog.Keeps Idles (finishActive c verifyMotion) := by
  refine .bind (SameBy.idles requireOpen_same) fun _ => .bind .get fun o => ?_
  have hstop : Prog.Keeps Idles (stopAllVerified c) := SameBy.idles (stopAllVerified_same c)
  split
  next => exact .bind hstop fun _ => .pure _
  next active _ =>
    exact .bind (modify_idles (fun _ => rfl) fun _ => .inl rfl) fun _ => .bind hstop fun _ =>
      .bind (SameBy.idles (onHw_same (readFinishedMotors_grew active.motors))) fun _ => .pure _

theorem close_idles : Prog.Keeps Idles (close c) := by
  refine .bind .get fun _ => .ite (.pure _) (.bind (finishActive_idles false) fun _ => .ite ?_ (.pure _))
  exact .bind (.attempt (SameBy.idles (ask_same _))) fun _ => .bind (.attempt (SameBy.idles (ask_same _))) fun _ =>
    .bind (SameBy.idles (ask_same _)) fun _ => .bind (SameBy.idles released_same) fun _ =>
      .bind (modify_idles (fun _ => rfl) fun _ => .inr rfl) fun _ => .ofExcept _

end MotorOwner

-- The supervisor

namespace EV3Supervisor

structure Memory where
  sessionId : Option String
  lastSequenceId : Int
  lastHeartbeatMs : Option Int
  seenCommandIds : List String

def memory (s : EV3Supervisor) : Memory := ⟨s.sessionId, s.lastSequenceId, s.lastHeartbeatMs, s.seenCommandIds⟩

def forgotten : Memory := ⟨none, 0, none, []⟩

/-- No motor was started, and the session is remembered as before or not at all. -/
structure Rests (s s' : EV3Supervisor) : Prop where
  hw : s.owner.hw.Grew Calm s'.owner.hw
  memory : s'.memory = s.memory ∨ s'.memory = forgotten

instance : IsPreorder EV3Supervisor Rests where
  refl s := ⟨Grew.refl _ s.owner.hw, .inl rfl⟩
  trans _ _ _ h h' := ⟨h.hw.trans h'.hw, h'.memory.elim (fun he => he ▸ h.memory) .inr⟩

structure SessionRecord where
  ownerId : Option String
  sessionId : Option String
  lastSequenceId : Int
  lastHeartbeatMs : Option Int
  lastHeartbeatSequence : Option Int
  claimedAtMs : Option Int
  seenCommandIds : List String

def session (s : EV3Supervisor) : SessionRecord :=
  ⟨s.ownerId, s.sessionId, s.lastSequenceId, s.lastHeartbeatMs, s.lastHeartbeatSequence, s.claimedAtMs, s.seenCommandIds⟩

def SessionRecord.over : SessionRecord := ⟨none, none, 0, none, none, none, []⟩

/-- A relation that every step respects which starts no motor and takes no
request of a session, but may end it. -/
class Bystander (K : EV3Supervisor → EV3Supervisor → Prop) : Prop extends IsPreorder EV3Supervisor K where
  owner (s : EV3Supervisor) (o : MotorOwner) : s.owner.Idles o → K s { s with owner := o }
  session (s s' : EV3Supervisor) : s'.owner = s.owner → s'.session = s.session ∨ s'.session = .over → K s s'

instance : Bystander Rests where
  owner _ _ h := ⟨h.calms, .inl rfl⟩
  session s s' ho hs := by
    refine ⟨by rw [ho]; exact Grew.refl _ s.owner.hw, ?_⟩
    let memoryOf (r : SessionRecord) : Memory := ⟨r.sessionId, r.lastSequenceId, r.lastHeartbeatMs, r.seenCommandIds⟩
    exact hs.imp (congrArg memoryOf) (congrArg memoryOf)

variable {c : SupervisorConfig} {s s' : EV3Supervisor} {code detail event : String} {made : Option StopResult}

section
variable {K : EV3Supervisor → EV3Supervisor → Prop} [Bystander K]

theorem onOwner_rests {x : MotorOwner.Own α} (h : Prog.Keeps MotorOwner.Idles x) : Prog.Keeps K (onOwner x) :=
  .onPart (fun s o ho => Bystander.owner s o ho) h

theorem onOwner_same_rests {x : MotorOwner.Own α} (h : Prog.Keeps (MotorOwner.SameBy Calm) x) :
    Prog.Keeps K (onOwner x) := onOwner_rests (MotorOwner.SameBy.idles h)

theorem io_rests {x : Io α} (h : Prog.Keeps (Grew Calm) x) : Prog.Keeps K (io x) :=
  onOwner_same_rests (MotorOwner.onHw_same h)

theorem modify_rests {f : EV3Supervisor → EV3Supervisor} (ho : ∀ s, (f s).owner = s.owner)
    (hm : ∀ s, (f s).session = s.session) : Prog.Keeps K (modify f : Sup Unit) :=
  .modify fun s => Bystander.session s _ (ho s) (.inl (hm s))

theorem forget_rests {f : EV3Supervisor → EV3Supervisor} (ho : ∀ s, (f s).owner = s.owner)
    (hm : ∀ s, (f s).session = .over) : Prog.Keeps K (modify f : Sup Unit) :=
  .modify fun s => Bystander.session s _ (ho s) (.inr (hm s))

theorem requireDispatchThread_rests : Prog.Keeps K requireDispatchThread := .bind .get fun _ => .failIf _ _

theorem requireState_rests (states : List SupervisorState) : Prog.Keeps K (requireState states) :=
  .bind .get fun _ => .failIf _ _

theorem requireSession_rests (sessionId : String) : Prog.Keeps K (requireSession sessionId) :=
  .bind (.ofExcept _) fun _ => .bind .get fun _ => .failIf _ _

theorem validateSequence_rests (sequenceId : Int) : Prog.Keeps K (validateSequence sequenceId) :=
  .bind (.ofExcept _) fun _ => .bind .get fun _ => .failIf _ _

theorem nowMs_rests : Prog.Keeps K nowMs := io_rests (ask_grew _)

theorem status_rests : Prog.Keeps K (status c) := .bind nowMs_rests fun _ => .bind .get fun _ => .pure _

theorem checkedNowMs_rests : Prog.Keeps K checkedNowMs :=
  .bind nowMs_rests fun _ => .bind .get fun _ => .bind (.failIf _ _) fun _ =>
    .bind (modify_rests (fun _ => rfl) fun _ => rfl) fun _ => .pure _

theorem requireHeartbeat_rests (now : Int) (e : PyError) : Prog.Keeps K (requireHeartbeat c now e) :=
  .bind .get fun _ => .failIf _ _

theorem readTouch_rests : Prog.Keeps K readTouch :=
  .bind (onOwner_same_rests MotorOwner.readTouchValue_same) fun _ => .bind (.failIf _ _) fun _ =>
    .bind (modify_rests (fun _ => rfl) fun _ => rfl) fun _ => .bind nowMs_rests fun _ => .pure _

theorem readInfrared_rests : Prog.Keeps K (readInfrared c) :=
  .bind checkedNowMs_rests fun _ =>
    .bind (.tryCatch (onOwner_same_rests MotorOwner.readInfraredValue_same) fun _ =>
        .bind (modify_rests (fun _ => rfl) fun _ => rfl) fun _ => .throw _) fun _ =>
      .bind .get fun _ => .bind (modify_rests (fun _ => rfl) fun _ => rfl) fun _ => .ofExcept _

theorem requireInfraredIf_rests (forward : Bool) : Prog.Keeps K (requireInfraredIf c forward) :=
  .ite (.bind checkedNowMs_rests fun _ => .bind .get fun _ => .bind (.failIf _ _) fun _ => .failIf _ _) (.pure _)

theorem requireTouchReleased_rests (message : String) : Prog.Keeps K (requireTouchReleased message) :=
  .bind .get fun _ => .failIf _ _

theorem requireTouchStable_rests (message : String) : Prog.Keeps K (requireTouchStable c message) :=
  .bind .get fun _ => .failIf _ _

theorem checkIdleMotors_rests : Prog.Keeps K checkIdleMotors :=
  .bind (onOwner_same_rests (MotorOwner.dynamicMotorSnapshots_same _)) fun _ => .ofExcept _

theorem checkRunningMotors_rests (running : RunningMotion) (now : Int) (motors : List RunningMotor) :
    Prog.Keeps K (checkRunningMotors c running now motors) := by
  induction motors with
  | nil => exact .pure _
  | cons motor motors ih =>
    refine .bind (.ofExcept _) fun _ => .bind ?_ fun _ => ih
    exact .bind (onOwner_same_rests (MotorOwner.progressCheckpoint_same _)) fun _ =>
      .ite (onOwner_same_rests (MotorOwner.updateProgressCheckpoint_same _ _ _)) (.failIf _ _)

theorem activeMotion_rests : Prog.Keeps K activeMotion := by
  refine .bind .get fun s => ?_
  split
  · exact .pure _
  · exact .throw _

theorem checkRunningMotion_rests : Prog.Keeps K (checkRunningMotion c) :=
  .bind activeMotion_rests fun _ => .bind (onOwner_same_rests (MotorOwner.dynamicMotorSnapshots_same _)) fun _ =>
    .bind (onOwner_same_rests (MotorOwner.activeSnapshotOf_same _)) fun _ => .bind checkedNowMs_rests fun _ =>
      .bind (.ofExcept _) fun _ => .bind .get fun _ => .bind (.failIf _ _) fun _ =>
        .bind (requireHeartbeat_rests _ _) fun _ => .bind (checkRunningMotors_rests _ _ _) fun _ => .pure _

-- Faults

theorem updateFault_rests (f : Fault → Fault) : Prog.Keeps K (updateFault f) :=
  .bind .get fun _ => .bind (.failIf _ _) fun _ => modify_rests (fun _ => rfl) fun _ => rfl

theorem finishActiveStop_rests : Prog.Keeps K (finishActiveStop c) :=
  .bind (onOwner_rests (MotorOwner.finishActive_idles false)) fun _ => .pure _

theorem faultRetry_rests : Prog.Keeps K (faultRetry c) := by
  refine .bind (.attempt finishActiveStop_rests) fun retry => ?_
  cases retry <;> exact updateFault_rests _

theorem stopForFault_rests : Prog.Keeps K (stopForFault c made) := by
  cases made with
  | some stop => exact .pure _
  | none => exact .bind (.attempt finishActiveStop_rests) fun _ => .pure _

theorem latch_rests (stop : StopResult) : Prog.Keeps K (modify (latched code detail stop) : Sup Unit) :=
  forget_rests (fun _ => rfl) fun _ => rfl

theorem enterFaultSilently_rests : Prog.Keeps K (enterFaultSilently c code detail made) :=
  .bind .get fun _ => .ite faultRetry_rests (.bind stopForFault_rests fun stop => latch_rests stop)

theorem emit_rests : Prog.Keeps K (emit c event) := by
  refine .bind (modify_rests (fun _ => rfl) fun _ => rfl) fun _ => .bind nowMs_rests fun _ => .bind .get fun _ => ?_
  split
  · exact modify_rests (fun _ => rfl) fun _ => rfl
  · exact .bind .get fun _ => .ite (.throw _) (.bind enterFaultSilently_rests fun _ => .throw _)

theorem enterFault_rests : Prog.Keeps K (enterFault c code detail made) :=
  .bind .get fun _ => .ite faultRetry_rests
    (.bind stopForFault_rests fun stop => .bind (latch_rests stop) fun _ =>
      .tryCatch emit_rests fun _ => .ite (.pure _) (.throw _))

theorem finishActiveWithRetry_rests (phase : String) : Prog.Keeps K (finishActiveWithRetry c phase) := by
  refine .bind (.attempt finishActiveStop_rests) fun r => ?_
  cases r with
  | ok stop => exact .pure _
  | error e => exact .bind (.attempt finishActiveStop_rests) fun _ => .pure _

-- Polling

theorem stopForwardForInfrared_rests : Prog.Keeps K (stopForwardForInfrared c) :=
  .bind checkedNowMs_rests fun _ => .bind (finishActiveWithRetry_rests _) fun _ =>
    .bind (modify_rests (fun _ => rfl) fun _ => rfl) fun _ =>
      .ite
        (.bind (modify_rests (fun _ => rfl) fun _ => rfl) fun _ => .bind emit_rests fun _ => status_rests)
        (.bind enterFault_rests fun _ => status_rests)

theorem completeMotion_rests : Prog.Keeps K (completeMotion c) :=
  .bind (onOwner_rests (MotorOwner.finishActive_idles true)) fun _ =>
    .ite enterFault_rests (.bind (modify_rests (fun _ => rfl) fun _ => rfl) fun _ => emit_rests)

theorem pollRunning_rests : Prog.Keeps K (pollRunning c) := by
  refine .bind (.bind .get fun _ => .ite (.pure _) (.bind checkRunningMotion_rests fun _ => .pure _)) fun poll => ?_
  cases poll with
  | obstacle => exact .bind stopForwardForInfrared_rests fun _ => .pure _
  | complete => exact .bind completeMotion_rests fun _ => .pure _
  | goOn => exact .pure _

theorem pollIdle_rests : Prog.Keeps K (pollIdle c) :=
  .bind checkIdleMotors_rests fun _ => .bind checkedNowMs_rests fun _ => .bind .get fun _ =>
    .bind (.failIf _ _) fun _ => .bind (.failIf _ _) fun _ => .bind .get fun _ =>
      .ite (.bind (forget_rests (fun _ => rfl) fun _ => rfl) fun _ => emit_rests) (.pure _)

theorem pollUnfaulted_rests : Prog.Keeps K (pollUnfaulted c) := by
  refine .bind (.bind checkedNowMs_rests fun _ => .bind readTouch_rests fun _ => .bind readInfrared_rests fun _ =>
    .bind checkedNowMs_rests fun _ => .pure _) fun _ => .bind .get fun _ => ?_
  split
  · exact pollRunning_rests
  · exact .bind pollIdle_rests fun _ => .pure _
  · exact .bind pollIdle_rests fun _ => .pure _
  · exact .pure _

theorem pollFault_rests : Prog.Keeps K (pollFault c) := by
  refine .bind (.tryCatch (.bind checkedNowMs_rests fun _ => .pure _) fun _ => .ite (.pure _) (.throw _)) fun _ =>
    .bind ?_ fun _ => .bind ?_ fun _ => .bind (updateFault_rests _) fun _ => status_rests
  · refine .bind (.attempt finishActiveStop_rests) fun retry => ?_
    cases retry <;> exact updateFault_rests _
  · exact .bind (.attempt (.bind readTouch_rests fun _ => .bind readInfrared_rests fun _ =>
      .bind checkedNowMs_rests fun _ => .pure _)) fun _ => .pure _

theorem pollOnce_rests : Prog.Keeps K (pollOnce c) := by
  refine .bind requireDispatchThread_rests fun _ => .bind .get fun _ => .bind (.failIf _ _) fun _ =>
    .ite pollFault_rests (.bind (.tryCatch pollUnfaulted_rests fun _ => ?_) fun answer => ?_)
  · exact .ite (.bind enterFault_rests fun _ => .pure _) (.throw _)
  · cases answer with
    | some answer => exact .pure _
    | none => exact status_rests

-- Stopping and closing

theorem emitStatus_rests : Prog.Keeps K (do emit c event; return .status (← status c) : Sup Reply) :=
  .bind emit_rests fun _ => .bind status_rests fun _ => .pure _

theorem stop_rests : Prog.Keeps K (stop c) := by
  refine .bind requireDispatchThread_rests fun _ => .bind .get fun _ =>
    .ite (.pure _)
      (.bind .get fun _ => .bind (finishActiveWithRetry_rests _) fun _ =>
        .bind (forget_rests (fun _ => rfl) fun _ => rfl) fun _ => .bind ?_ fun _ =>
          .bind status_rests fun _ => .pure _)
  exact .ite
    (.bind (modify_rests (fun _ => rfl) fun _ => rfl) fun _ => .bind (updateFault_rests _) fun _ => emit_rests)
    (.ite (.bind (modify_rests (fun _ => rfl) fun _ => rfl) fun _ => emit_rests) enterFault_rests)

theorem finalizeClosed_rests (cleanupErrors : List String) : Prog.Keeps K (finalizeClosed c cleanupErrors) :=
  .bind (forget_rests (fun _ => rfl) fun _ => rfl) fun _ => .bind (.attempt emit_rests) fun _ =>
    .bind status_rests fun _ => .bind (modify_rests (fun _ => rfl) fun _ => rfl) fun _ => .pure _

theorem shutdownFailed_rests (stop : StopResult) : Prog.Keeps K (shutdownFailed c detail stop) :=
  .bind enterFault_rests fun _ => status_rests

theorem close_rests : Prog.Keeps K (close c) := by
  refine .bind requireDispatchThread_rests fun _ => .bind .get fun _ => .ite (.pure _) (.bind ?_ fun _ => .pure _)
  refine .bind (modify_rests (fun _ => rfl) fun _ => rfl) fun _ =>
    .bind (.attempt (onOwner_rests MotorOwner.close_idles)) fun result => ?_
  cases result with
  | ok result => exact .ite (finalizeClosed_rests _) (shutdownFailed_rests _)
  | error e =>
    refine .bind (.attempt (onOwner_rests MotorOwner.close_idles)) fun retry => .bind .get fun _ => ?_
    cases retry with
    | ok result => exact .ite (finalizeClosed_rests _) (shutdownFailed_rests _)
    | error e => exact shutdownFailed_rests _

theorem inventoryErrors_rests : Prog.Keeps K (inventoryErrors c) :=
  .tryCatch
    (.bind (.bind (onOwner_same_rests (MotorOwner.bindTopology_same _)) fun _ =>
      .bind (onOwner_same_rests (MotorOwner.dynamicMotorSnapshots_same _)) fun _ => .ofExcept _) fun _ => .pure _)
    fun _ => .ite (.pure _) (.throw _)

theorem boot_rests : Prog.Keeps K (boot c) :=
  .bind (onOwner_same_rests (MotorOwner.stopAllVerified_same _)) fun _ => .bind inventoryErrors_rests fun _ =>
    .ite (.bind enterFaultSilently_rests fun _ => emit_rests)
      (.bind (modify_rests (fun _ => rfl) fun _ => rfl) fun _ => emit_rests)

end

-- Sequenced operations

/-- A request of this session came with the next sequence number; the session
remembers the number and the command ids, or is over. -/
structure Took (P : Happening → Prop) (sessionId : String) (sequenceId : Int) (ids : List String)
    (s s' : EV3Supervisor) : Prop where
  hw : s.owner.hw.Grew P s'.owner.hw
  session : s.sessionId = some sessionId
  next : s.lastSequenceId < sequenceId
  memory : s'.memory = forgotten ∨
    s'.sessionId = some sessionId ∧ s'.lastSequenceId = sequenceId ∧ s'.seenCommandIds = ids ++ s.seenCommandIds

variable {P : Happening → Prop} {sessionId : String} {sequenceId : Int} {ids : List String}

theorem memory_eq {s s' : EV3Supervisor} (h : s'.memory = s.memory) :
    s'.sessionId = s.sessionId ∧ s'.lastSequenceId = s.lastSequenceId ∧ s'.lastHeartbeatMs = s.lastHeartbeatMs ∧
      s'.seenCommandIds = s.seenCommandIds :=
  ⟨congrArg Memory.sessionId h, congrArg Memory.lastSequenceId h, congrArg Memory.lastHeartbeatMs h,
    congrArg Memory.seenCommandIds h⟩

theorem Took.rests [Admits P] {s₁ : EV3Supervisor} (h : Took P sessionId sequenceId ids s s₁) (hr : s₁.Rests s') :
    Took P sessionId sequenceId ids s s' where
  hw := h.hw.trans (hr.hw.mono Admits.calm)
  session := h.session
  next := h.next
  memory := by
    obtain hsame | hover := hr.memory
    · obtain hover | ⟨hs, hn, hids⟩ := h.memory
      · exact .inl (hsame.trans hover)
      · obtain ⟨hs', hn', -, hids'⟩ := memory_eq hsame
        exact .inr ⟨hs'.trans hs, hn'.trans hn, hids'.trans hids⟩
    · exact .inl hover

theorem Rests.remembers {s₁ : EV3Supervisor} (hr : s.Rests s₁) (h : s₁.sessionId.isSome = true ∨ s₁.lastHeartbeatMs.isSome = true) :
    s₁.memory = s.memory := by
  refine hr.memory.resolve_right fun hover => ?_
  rw [show s₁.sessionId = none from congrArg Memory.sessionId hover,
    show s₁.lastHeartbeatMs = none from congrArg Memory.lastHeartbeatMs hover] at h
  simp at h

theorem Rests.took [Admits P] {s₁ : EV3Supervisor} (hr : s.Rests s₁) (hs : s₁.sessionId = some sessionId)
    (hn : s₁.lastSequenceId < sequenceId) (hw : s₁.owner.hw.Grew P s'.owner.hw)
    (hm : s'.sessionId = some sessionId ∧ s'.lastSequenceId = sequenceId ∧ s'.seenCommandIds = ids ++ s₁.seenCommandIds) :
    Took P sessionId sequenceId ids s s' := by
  obtain ⟨hs', hn', -, hids⟩ := memory_eq (hr.remembers (.inl (by rw [hs]; rfl)))
  exact ⟨(hr.hw.mono Admits.calm).trans hw, hs'.symm.trans hs, hn' ▸ hn, .inr (hids ▸ hm)⟩

def Tried (P : Happening → Prop) (sessionId : String) (sequenceId : Int) (ids : List String) (s s' : EV3Supervisor) : Prop :=
  s.Rests s' ∨ Took P sessionId sequenceId ids s s'

theorem Took.settles [Admits P] {x : Sup α} {s₁ : EV3Supervisor} (h : Took P sessionId sequenceId ids s s₁) (hx : Prog.Keeps Rests x) :
    Prog.Triple x s₁ (fun _ => Took P sessionId sequenceId ids s) (fun _ => Tried P sessionId sequenceId ids s) :=
  (hx.triple s₁).mono (fun _ _ hr => h.rests hr) fun _ _ hr => .inr (h.rests hr)

theorem resting {x : Sup α} {f : α → Sup β} {Q : β → EV3Supervisor → Prop} {s₁ : EV3Supervisor} (hr : s.Rests s₁)
    (hx : Prog.Keeps Rests x)
    (hf : ∀ a s₂, s.Rests s₂ → Prog.Triple (f a) s₂ Q (fun _ => Tried P sessionId sequenceId ids s)) :
    Prog.Triple (x >>= f) s₁ Q (fun _ => Tried P sessionId sequenceId ids s) :=
  Prog.Triple.frame_bind hx (fun _ _ h => .inl (trans_of Rests hr h)) fun a s₂ h => hf a s₂ (trans_of Rests hr h)

theorem checked {x : Sup Unit} {f : Unit → Sup β} {Q : β → EV3Supervisor → Prop} {K : Prop} {s₁ : EV3Supervisor}
    (hr : s.Rests s₁) (hx : Prog.Triple x s₁ (fun _ s' => s' = s₁ ∧ K) (fun _ s' => s' = s₁))
    (hf : K → Prog.Triple (f ()) s₁ Q (fun _ => Tried P sessionId sequenceId ids s)) :
    Prog.Triple (x >>= f) s₁ Q (fun _ => Tried P sessionId sequenceId ids s) := by
  refine Prog.Triple.bind (hx.mono (fun _ _ h => h) fun _ _ h => h ▸ .inl hr) ?_
  rintro _ _ ⟨rfl, hk⟩
  exact hf hk

theorem validateSequence_run (sequenceId : Int) :
    Prog.Triple (validateSequence sequenceId) s (fun _ s' => s' = s ∧ s.lastSequenceId < sequenceId) (fun _ s' => s' = s) :=
  Prog.Triple.ofExcept_bind (fun _ _ => rfl) fun _ _ =>
    Prog.Triple.get_bind (Prog.Triple.check (fun _ => rfl) fun h => ⟨rfl, by omega⟩)

theorem consumeSequence_run (sequenceId : Int) :
    Prog.Triple (consumeSequence sequenceId) s
      (fun _ s' => s' = { s with lastSequenceId := sequenceId } ∧ s.lastSequenceId < sequenceId) (fun _ s' => s' = s) := by
  refine Prog.Triple.bind ((validateSequence_run sequenceId).mono (fun _ _ h => h) fun _ _ h => h) ?_
  rintro _ _ ⟨rfl, hn⟩
  exact Prog.Triple.modify ⟨rfl, hn⟩

theorem consuming {f : Unit → Sup β} {Q : β → EV3Supervisor → Prop} {s₁ : EV3Supervisor} (hr : s.Rests s₁)
    (hf : s₁.lastSequenceId < sequenceId → Prog.Triple (f ()) { s₁ with lastSequenceId := sequenceId } Q
      (fun _ => Tried P sessionId sequenceId ids s)) :
    Prog.Triple (consumeSequence sequenceId >>= f) s₁ Q (fun _ => Tried P sessionId sequenceId ids s) := by
  refine Prog.Triple.bind ((consumeSequence_run sequenceId).mono (fun _ _ h => h) fun _ _ h => h ▸ .inl hr) ?_
  rintro _ _ ⟨rfl, hn⟩
  exact hf hn

theorem onOwner_memory {x : MotorOwner.Own α} (h : Prog.Keeps (MotorOwner.SameBy Calm) x) :
    Prog.Keeps (fun s s' => s.owner.hw.Grew Calm s'.owner.hw ∧ s'.memory = s.memory) (onOwner x) :=
  .onPart (fun _ _ ho => ⟨ho.hw, rfl⟩) h

theorem heartbeat_took : Prog.Triple (heartbeat c sessionId sequenceId) s (fun _ => Took Calm sessionId sequenceId [] s)
    (fun _ => Tried Calm sessionId sequenceId [] s) := by
  have hr := refl_of Rests s
  refine resting hr requireDispatchThread_rests fun _ s₁ h₁ => resting h₁ (requireState_rests _) fun _ s₂ h₂ => ?_
  refine checked h₂ (requireSession_run _) fun hs => consuming h₂ fun hn => ?_
  have htook {t : EV3Supervisor} (hw : s₂.owner.hw.Grew Calm t.owner.hw)
      (hm : t.sessionId = some sessionId ∧ t.lastSequenceId = sequenceId ∧ t.seenCommandIds = s₂.seenCommandIds) :
      Took Calm sessionId sequenceId [] s t := h₂.took hs hn hw hm
  have hnow : Prog.Keeps (fun s s' => s.owner.hw.Grew Calm s'.owner.hw ∧ s'.memory = s.memory) nowMs :=
    onOwner_memory (MotorOwner.ask_same _)
  refine Prog.Triple.frame_bind hnow (fun _ s₃ h => .inr (htook h.1 ?_)) fun now s₃ h₃ => Prog.Triple.modify_bind ?_
  · obtain ⟨hs', hn', -, hids⟩ := memory_eq h.2
    exact ⟨hs'.trans hs, hn', hids⟩
  · obtain ⟨hs', hn', -, hids⟩ := memory_eq h₃.2
    exact (htook (t := { s₃ with lastHeartbeatMs := some now, lastHeartbeatSequence := some sequenceId }) h₃.1
      ⟨hs'.trans hs, hn', hids⟩).settles (.bind emit_rests fun _ => .pure _)

theorem revalidate_rests {K : EV3Supervisor → EV3Supervisor → Prop} [Bystander K] (phase : String) : Prog.Keeps K (revalidateHardwareTopology c phase) :=
  .tryCatch (onOwner_same_rests MotorOwner.revalidateTopology_same) fun _ =>
    .ite (.bind enterFault_rests fun _ => .throw _) (.throw _)

theorem Rests.session {s₁ : EV3Supervisor} (hr : s.Rests s₁) (hs : s.sessionId = some sessionId)
    (h : s₁.lastHeartbeatMs.isSome = true) : s₁.sessionId = some sessionId :=
  (memory_eq (hr.remembers (.inr h))).1.trans hs

theorem arm_took : Prog.Triple (arm c sessionId sequenceId) s (fun _ => Took Calm sessionId sequenceId [] s)
    (fun _ => Tried Calm sessionId sequenceId [] s) := by
  have hr := refl_of Rests s
  refine checked hr (requireDispatchThread_run.mono (fun _ _ h => h) fun _ _ h => h) fun _ => ?_
  refine checked hr (requireState_run _) fun _ => checked hr (requireSession_run _) fun hs => ?_
  refine resting hr (validateSequence_rests _) fun _ s₁ h₁ => resting h₁ (revalidate_rests _) fun _ s₂ h₂ => ?_
  refine resting h₂ pollOnce_rests fun _ s₃ h₃ => resting h₃ (requireState_rests _) fun _ s₄ h₄ => ?_
  refine resting h₄ checkedNowMs_rests fun _ s₅ h₅ => resting h₅ (requireHeartbeat_rests _ _) fun _ s₆ h₆ => ?_
  refine resting h₆ (requireTouchStable_rests _) fun _ s₇ h₇ => resting h₇ checkIdleMotors_rests fun _ s₈ h₈ => ?_
  refine resting h₈ checkedNowMs_rests fun now s₉ h₉ => checked h₉ (requireHeartbeat_run _ _) fun hb => ?_
  refine consuming h₉ fun hn => Prog.Triple.modify_bind ?_
  have hs₉ := h₉.session hs hb
  have htook : Took Calm sessionId sequenceId [] s
      { s₉ with lastSequenceId := sequenceId, state := .armedIdle } := h₉.took hs₉ hn (Grew.refl _ _) ⟨hs₉, rfl, rfl⟩
  exact htook.settles emitStatus_rests

theorem release_took : Prog.Triple (release c sessionId sequenceId) s (fun _ => Took Calm sessionId sequenceId [] s)
    (fun _ => Tried Calm sessionId sequenceId [] s) := by
  have hr := refl_of Rests s
  refine resting hr requireDispatchThread_rests fun _ s₁ h₁ => resting h₁ (requireState_rests _) fun _ s₂ h₂ => ?_
  refine checked h₂ (requireSession_run _) fun hs => consuming h₂ fun hn => ?_
  have htook : Took Calm sessionId sequenceId [] s { s₂ with lastSequenceId := sequenceId } :=
    h₂.took hs hn (Grew.refl _ _) ⟨hs, rfl, rfl⟩
  refine htook.settles (.bind (finishActiveWithRetry_rests _) fun _ => .bind (forget_rests (fun _ => rfl) fun _ => rfl) fun _ => ?_)
  exact .ite (.bind (modify_rests (fun _ => rfl) fun _ => rfl) fun _ => emitStatus_rests)
    (.bind enterFault_rests fun _ => .bind status_rests fun _ => .pure _)

-- Claims and drives

/-- A session began, where there was none; it remembers nothing yet, or is over. -/
structure Claimed (s s' : EV3Supervisor) : Prop where
  hw : s.owner.hw.Grew Calm s'.owner.hw
  unclaimed : s.sessionId = none
  memory : s'.memory = forgotten ∨
    s'.sessionId.isSome = true ∧ s'.lastSequenceId = 0 ∧ (s'.seenCommandIds = s.seenCommandIds ∨ s'.seenCommandIds = [])

theorem Claimed.rests {s₁ : EV3Supervisor} (h : s.Claimed s₁) (hr : s₁.Rests s') : s.Claimed s' where
  hw := h.hw.trans hr.hw
  unclaimed := h.unclaimed
  memory := by
    obtain hsame | hover := hr.memory
    · obtain ⟨hs, hn, -, hids⟩ := memory_eq hsame
      exact h.memory.imp hsame.trans fun ⟨hs', hn', hids'⟩ => ⟨hs ▸ hs', hn.trans hn', hids'.imp hids.trans hids.trans⟩
    · exact .inl hover

theorem claim_claims (ownerId : String) : Prog.Settles (claim c ownerId) s fun s' => s.Rests s' ∨ s.Claimed s' := by
  have hr := refl_of Rests s
  refine guarded requireDispatchThread_run (.inl hr) fun _ => guarded (requireState_run _) (.inl hr) fun _ => ?_
  refine Prog.Triple.get_bind (Prog.Triple.failIf (fun _ => .inl hr) fun hn => ?_)
  refine Prog.Triple.ofExcept_bind (fun _ _ => .inl hr) fun _ _ => ?_
  refine Prog.Triple.frame_bind (onOwner_memory (MotorOwner.ask_same _))
    (fun _ _ h => .inl ⟨h.1, .inl h.2⟩) fun sessionId s₁ h₁ => ?_
  refine Prog.Triple.ofExcept_bind (fun _ _ => .inl ⟨h₁.1, .inl h₁.2⟩) fun _ _ => Prog.Triple.modify_bind ?_
  have h₂ : s.Claimed { s₁ with
      ownerId := some ownerId, sessionId := some sessionId, lastSequenceId := 0, lastHeartbeatMs := none
      lastHeartbeatSequence := none } :=
    ⟨h₁.1, not_not.mp hn, .inr ⟨rfl, rfl, .inl (memory_eq h₁.2).2.2.2⟩⟩
  refine Prog.Triple.frame_bind checkedNowMs_rests (fun _ _ h => .inr (h₂.rests h)) fun now s₃ h₃ => ?_
  have h₃ := h₂.rests h₃
  have h₄ : s.Claimed { s₃ with claimedAtMs := some now, seenCommandIds := [] } := by
    refine ⟨h₃.hw, h₃.unclaimed, h₃.memory.imp (fun hover => ?_) fun hnew => ⟨hnew.1, hnew.2.1, .inr rfl⟩⟩
    exact congrArg (fun m : Memory => { m with seenCommandIds := [] }) hover
  exact Prog.Triple.modify_bind (Prog.Triple.frame (.bind emit_rests fun _ => .pure _) (fun _ _ h => .inr (h₄.rests h))
    fun _ _ h => .inr (h₄.rests h))

/-- What every step of the owner, and every look of the supervisor, leaves alone. -/
def Minds (s s' : EV3Supervisor) : Prop := s'.memory = s.memory

instance : IsPreorder EV3Supervisor Minds where
  refl _ := rfl
  trans _ _ _ h h' := h'.trans h

/-- A relation that every step respects which leaves the session alone. -/
class Onlooker (K : EV3Supervisor → EV3Supervisor → Prop) : Prop extends IsPreorder EV3Supervisor K where
  owner (s : EV3Supervisor) (o : MotorOwner) : K s { s with owner := o }
  session (s s' : EV3Supervisor) : s'.owner = s.owner → s'.session = s.session → K s s'

instance : Onlooker Minds where
  owner _ _ := rfl
  session _ _ _ h := congrArg (fun r : SessionRecord => Memory.mk r.sessionId r.lastSequenceId r.lastHeartbeatMs r.seenCommandIds) h

section
variable {K : EV3Supervisor → EV3Supervisor → Prop} [Onlooker K]

theorem onOwner_minds (x : MotorOwner.Own α) : Prog.Keeps K (onOwner x) := fun s => Onlooker.owner s (x s.owner).2

theorem modify_minds {f : EV3Supervisor → EV3Supervisor} (ho : ∀ s, (f s).owner = s.owner)
    (hm : ∀ s, (f s).session = s.session) : Prog.Keeps K (modify f : Sup Unit) :=
  .modify fun s => Onlooker.session s _ (ho s) (hm s)

theorem checkedNowMs_minds : Prog.Keeps K checkedNowMs :=
  .bind (onOwner_minds _) fun _ => .bind .get fun _ => .bind (.failIf _ _) fun _ => .bind (modify_minds (fun _ => rfl) fun _ => rfl) fun _ => .pure _

theorem requireInfraredIf_minds (forward : Bool) : Prog.Keeps K (requireInfraredIf c forward) :=
  .ite (.bind checkedNowMs_minds fun _ => .bind .get fun _ => .bind (.failIf _ _) fun _ => .failIf _ _) (.pure _)

theorem guardMotorStart_minds (d : DriveCommand) (guard : StartGuard) (windows : List MotorOwner.StartWindow) :
    Prog.Keeps K (guardMotorStart c d guard windows) := by
  have htouch : Prog.Keeps K readTouch :=
    .bind (onOwner_minds _) fun _ => .bind (.failIf _ _) fun _ => .bind (modify_minds (fun _ => rfl) fun _ => rfl) fun _ =>
      .bind (onOwner_minds _) fun _ => .pure _
  have hinfrared : Prog.Keeps K (readInfrared c) :=
    .bind checkedNowMs_minds fun _ =>
      .bind (.tryCatch (onOwner_minds _) fun _ => .bind (modify_minds (fun _ => rfl) fun _ => rfl) fun _ => .throw _) fun _ =>
        .bind .get fun _ => .bind (modify_minds (fun _ => rfl) fun _ => rfl) fun _ => .ofExcept _
  refine .bind (.ite (.bind htouch fun _ => .bind hinfrared fun _ => .bind (onOwner_minds _) fun _ => .ofExcept _) (.pure _))
    fun _ => .bind checkedNowMs_minds fun _ => .bind (.bind .get fun _ => .failIf _ _) fun _ => ?_
  exact .bind (.bind .get fun _ => .failIf _ _) fun _ => .bind (requireInfraredIf_minds _) fun _ =>
    .bind (.failIf _ _) fun _ => onOwner_minds _

theorem startMotors_minds {guard : List MotorOwner.StartWindow → Sup Unit} (hg : ∀ windows, Prog.Keeps K (guard windows))
    (windows : List MotorOwner.StartWindow) (motors : List Motor) :
    Prog.Keeps K (MotorOwner.startMotors ownerPart c.toRobotConfig guard windows motors) := by
  induction motors generalizing windows with
  | nil => exact .pure _
  | cons motor motors ih =>
    exact .bind (hg _) fun _ => .bind (onOwner_minds _) fun _ => .bind (.failIf _ _) fun _ => .bind (onOwner_minds _) fun _ =>
      .bind (onOwner_minds _) fun _ => .bind (.failIf _ _) fun _ => .bind (.failIf _ _) fun _ => ih _

theorem readStartPositions_minds (motors : List Motor) :
    Prog.Keeps K (MotorOwner.readStartPositions ownerPart motors) := by
  induction motors with
  | nil => exact .pure _
  | cons motor motors ih => exact .bind (onOwner_minds _) fun _ => .bind ih fun _ => .pure _

theorem stageMotors_minds (durationMs : Int) (motors : List Motor) :
    Prog.Keeps K (MotorOwner.stageMotors ownerPart durationMs motors) := by
  induction motors with
  | nil => exact .pure _
  | cons motor motors ih =>
    exact .bind (onOwner_minds _) fun _ => .bind (onOwner_minds _) fun _ => .bind (onOwner_minds _) fun _ => ih

theorem startMotion_minds (d : DriveCommand) (guard : StartGuard) : Prog.Keeps K (startMotion c d guard) := by
  refine .bind (.bind (onOwner_minds _) fun motors => .bind (.tryCatch ?_ fun e => ?_) fun _ =>
    .bind (onOwner_minds _) fun _ => onOwner_minds _) fun _ => .pure _
  · exact .bind (readStartPositions_minds _) fun _ => .bind (stageMotors_minds _ _) fun _ =>
      .bind (startMotors_minds (guardMotorStart_minds d guard) _ _) fun _ => .pure _
  · refine .bind (.attempt (onOwner_minds _)) fun cleanup => .bind (.attempt (onOwner_minds _)) fun _ => ?_
    cases cleanup <;> exact .throw _

end

/-- The drive was accepted: a new command within the session's number of them. -/
structure Accepted (c : SupervisorConfig) (d : DriveCommand) (s s' : EV3Supervisor) : Prop where
  took : Took Own d.sessionId d.sequenceId [d.commandId] s s'
  unseen : d.commandId ∉ s.seenCommandIds
  room : s.seenCommandIds.length < c.limits.maxCommandsPerSession

theorem checkDrive_checks (d : DriveCommand) :
    Prog.Triple (checkDrive c d) s
      (fun _ s' => s.Rests s' ∧ s.sessionId = some d.sessionId ∧ d.commandId ∉ s.seenCommandIds ∧
        s.seenCommandIds.length < c.limits.maxCommandsPerSession)
      (fun _ s' => s.Rests s') := by
  have hr := refl_of Rests s
  refine Prog.Triple.bind (requireDispatchThread_run.mono (fun _ _ h => h) fun _ _ h => h ▸ hr) ?_
  rintro _ _ ⟨rfl, -⟩
  refine Prog.Triple.bind ((requireState_run _).mono (fun _ _ h => h) fun _ _ h => h ▸ hr) ?_
  rintro _ _ ⟨rfl, -⟩
  refine Prog.Triple.bind ((requireSession_run _).mono (fun _ _ h => h) fun _ _ h => h ▸ hr) ?_
  rintro _ _ ⟨rfl, hs⟩
  refine Prog.Triple.bind ((validateSequence_run _).mono (fun _ _ h => h) fun _ _ h => h ▸ hr) ?_
  rintro _ s ⟨rfl, -⟩
  refine Prog.Triple.ofExcept_bind (fun _ _ => hr) fun _ _ => Prog.Triple.get_bind ?_
  refine Prog.Triple.failIf (fun _ => hr) fun hunseen => Prog.Triple.failIf (fun _ => hr) fun hroom => ?_
  refine Prog.Triple.frame (K := Rests) (.bind (.ofExcept _) fun _ => .bind (.failIf _ _) fun _ => .bind (.failIf _ _) fun _ =>
    .mapError (onOwner_same_rests (MotorOwner.validateDrive_same _ _ _ _)) _) (fun _ _ h => ⟨h, hs, hunseen, ?_⟩) fun _ _ h => h
  omega

theorem looking_on {x : Sup α} {f : α → Sup β} {Q : β → EV3Supervisor → Prop} {s₁ : EV3Supervisor} (hr : s.Rests s₁)
    (hs : s₁.sessionId = some sessionId) (hx : Prog.Keeps Rests x) (hm : Prog.Keeps Minds x)
    (hf : ∀ a s₂, s.Rests s₂ → s₂.sessionId = some sessionId → Prog.Triple (f a) s₂ Q (fun _ => Tried P sessionId sequenceId ids s)) :
    Prog.Triple (x >>= f) s₁ Q (fun _ => Tried P sessionId sequenceId ids s) :=
  Prog.Triple.bind (((hx.triple s₁).and (hm.triple s₁)).mono (fun _ _ h => h) fun _ _ h => .inl (trans_of Rests hr h.1))
    fun a s₂ h => hf a s₂ (trans_of Rests hr h.1) ((memory_eq h.2).1.trans hs)

theorem acceptDrive_accepts {s₁ : EV3Supervisor} (d : DriveCommand) (guard : StartGuard) (hr : s.Rests s₁)
    (hs : s.sessionId = some d.sessionId) :
    Prog.Triple (acceptDrive c d guard) s₁ (fun _ => Took Calm d.sessionId d.sequenceId [d.commandId] s)
      (fun _ => Tried Calm d.sessionId d.sequenceId [d.commandId] s) := by
  refine resting hr (revalidate_rests _) fun _ s₂ h₂ => resting h₂ pollOnce_rests fun _ s₃ h₃ => ?_
  refine resting h₃ (requireState_rests _) fun _ s₄ h₄ => resting h₄ checkedNowMs_rests fun now s₅ h₅ => ?_
  refine checked h₅ (requireHeartbeat_run _ _) fun hb => ?_
  have hs₅ := h₅.session hs hb
  refine checked h₅ (K := True) (Prog.Triple.get_bind (Prog.Triple.check (fun _ => rfl) fun _ => ⟨rfl, trivial⟩)) fun _ => ?_
  refine looking_on h₅ hs₅ (requireInfraredIf_rests _) (requireInfraredIf_minds _) fun _ s₆ h₆ hs₆ => ?_
  refine looking_on h₆ hs₆ (io_rests (Grew.keeps_grew guard.reads)) (onOwner_minds _) fun _ s₇ h₇ hs₇ => ?_
  refine consuming h₇ fun hn => Prog.Triple.modify_bind ?_
  have htook : Took Calm d.sessionId d.sequenceId [d.commandId] s
      { s₇ with lastSequenceId := d.sequenceId, seenCommandIds := d.commandId :: s₇.seenCommandIds } :=
    h₇.took hs₇ hn (Grew.refl _ _) ⟨hs₇, rfl, rfl⟩
  exact htook.settles emit_rests

theorem Took.follows {s₁ : EV3Supervisor} (h : Took Own sessionId sequenceId ids s s₁) (hl : s₁.owner.hw.Grew Own s'.owner.hw)
    (hm : s₁.Minds s') : Took Own sessionId sequenceId ids s s' := by
  obtain ⟨hs, hn, -, hids⟩ := memory_eq hm
  exact ⟨h.hw.trans hl, h.session, h.next, h.memory.imp hm.trans fun ⟨hs', hn', hids'⟩ => ⟨hs.trans hs', hn.trans hn', hids.trans hids'⟩⟩

theorem prestart_rests {K : EV3Supervisor → EV3Supervisor → Prop} [Bystander K] (d : DriveCommand) (guard : StartGuard) : Prog.Keeps K (prestart c d guard) :=
  .bind readTouch_rests fun _ => .bind readInfrared_rests fun _ => .bind checkIdleMotors_rests fun _ =>
    .bind checkedNowMs_rests fun _ => .bind (requireTouchReleased_rests _) fun _ =>
      .bind (requireHeartbeat_rests _ _) fun _ => .bind (requireInfraredIf_rests _) fun _ =>
        io_rests (Grew.keeps_grew guard.reads)

theorem prestartFailed_rests {K : EV3Supervisor → EV3Supervisor → Prop} [Bystander K] (e : PyError) : Prog.Keeps K (prestartFailed c e) :=
  .ite (.bind checkedNowMs_rests fun _ => .bind emit_rests fun _ => .throw _) (.bind enterFault_rests fun _ => .throw _)

theorem motorStartFailed_rests {K : EV3Supervisor → EV3Supervisor → Prop} [Bystander K] (e : PyError) : Prog.Keeps K (motorStartFailed c e) :=
  .bind (.attempt finishActiveStop_rests) fun _ =>
    .ite
      (.bind (modify_rests (fun _ => rfl) fun _ => rfl) fun _ => .bind checkedNowMs_rests fun _ =>
        .bind emit_rests fun _ => .throw _)
      (.bind enterFault_rests fun _ => .throw _)

theorem poststart_rests {K : EV3Supervisor → EV3Supervisor → Prop} [Bystander K] (d : DriveCommand) (startSkewMs : Int) (guard : StartGuard) :
    Prog.Keeps K (poststart c d startSkewMs guard) := by
  refine .bind readInfrared_rests fun _ => .bind .get fun _ => .ite (.bind stopForwardForInfrared_rests fun _ => .throw _) ?_
  exact .bind readTouch_rests fun _ => .bind checkRunningMotion_rests fun _ => .bind (.failIf _ _) fun _ =>
    .bind (requireTouchReleased_rests _) fun _ => .bind (requireHeartbeat_rests _ _) fun _ =>
      io_rests (Grew.keeps_grew guard.reads)

theorem poststartFailed_rests {K : EV3Supervisor → EV3Supervisor → Prop} [Bystander K] (e : PyError) : Prog.Keeps K (poststartFailed c e) :=
  .bind .get fun _ => .ite (.throw _) (.bind enterFault_rests fun _ => .throw _)

theorem startDrive_accepted (d : DriveCommand) (guard : StartGuard) :
    Prog.Triple (startDrive c d guard) s (fun _ => Accepted c d s) (fun _ s' => s.Rests s' ∨ Accepted c d s s') := by
  refine Prog.Triple.bind ((checkDrive_checks d).mono (fun _ _ h => h) fun _ _ h => .inl h) ?_
  rintro _ s₁ ⟨h₁, hs, hunseen, hroom⟩
  have haccepted {s'} (h : Took Own d.sessionId d.sequenceId [d.commandId] s s') : Accepted c d s s' := ⟨h, hunseen, hroom⟩
  have hown {s'} (h : Took Calm d.sessionId d.sequenceId [d.commandId] s s') :
      Took Own d.sessionId d.sequenceId [d.commandId] s s' := ⟨h.hw.mono fun _ h => h.1, h.session, h.next, h.memory⟩
  refine Prog.Triple.bind ((acceptDrive_accepts d guard h₁ hs).mono (fun _ _ h => hown h)
    fun _ _ h => h.imp id fun h => haccepted (hown h)) fun _ s₂ h₂ => ?_
  -- what follows may fail, but the command was accepted
  refine Prog.Triple.mono (Q := fun _ => Took Own d.sessionId d.sequenceId [d.commandId] s)
    (E := fun _ => Took Own d.sessionId d.sequenceId [d.commandId] s) ?_ (fun _ _ h => haccepted h) fun _ _ h => .inr (haccepted h)
  have hrest {α : Type} {x : Sup α} {s₃ : EV3Supervisor} (h₃ : Took Own d.sessionId d.sequenceId [d.commandId] s s₃)
      (hx : Prog.Keeps Rests x) : Prog.Settles x s₃ (Took Own d.sessionId d.sequenceId [d.commandId] s) :=
    (hx.triple s₃).mono (fun _ _ h => h₃.rests h) fun _ _ h => h₃.rests h
  refine Prog.Triple.bind (Prog.Triple.tryCatch (hrest h₂ (prestart_rests d guard)) fun e _ h => hrest h (prestartFailed_rests e))
    fun _ s₃ h₃ => ?_
  refine Prog.Triple.bind (Prog.Triple.tryCatch (F := fun _ => Took Own d.sessionId d.sequenceId [d.commandId] s) ?_
    fun e _ h => hrest h (motorStartFailed_rests e)) fun _ s₄ h₄ => Prog.Triple.modify_bind ?_
  · exact (((startMotion_grows d guard).triple s₃).and ((startMotion_minds d guard).triple s₃)).mono
      (fun _ _ h => h₃.follows h.1.hw h.2) fun _ _ h => h₃.follows h.1.hw h.2
  have h₅ : Took Own d.sessionId d.sequenceId [d.commandId] s { s₄ with activeCommandId := some d.commandId, state := .running } :=
    h₄.follows (Grew.refl _ _) rfl
  refine Prog.Triple.bind (hrest h₅ activeMotion_rests) fun active s₆ h₆ => ?_
  refine Prog.Triple.bind (Prog.Triple.tryCatch (hrest h₆ (poststart_rests d _ guard)) fun e _ h => hrest h (poststartFailed_rests e))
    fun _ s₇ h₇ => hrest h₇ emitStatus_rests

end EV3Supervisor

end RobotLlm.Ev3
