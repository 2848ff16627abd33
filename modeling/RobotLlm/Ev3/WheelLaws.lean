import RobotLlm.Ev3.CallLaws
import RobotLlm.Ev3.StopLaws
import RobotLlm.Lib.Grown

/-!
# Wheels start guarded

A drive starts its two motors one after the other. Each start comes right after
a guard of its own let it pass, and all of them after the command was accepted
in the same call. A drive that raises after a start has stopped all motors, but
for one whose motion was found good and whose answer could not be made.
-/

namespace RobotLlm.Ev3

open RobotLlm.Lib Prog

namespace Hardware

theorem write_run (path file value : String) (h : Hardware) :
    Triple (write path file value) h
      (fun _ h' => ∃ requests, h'.log = .wrote path file value :: (requests ++ h.log) ∧ ∀ e ∈ requests, e.isRequest = true)
      (fun _ => h.Read) := by
  have hask : Keeps Read (ask Answer.done) := ask_read _
  refine Triple.frame_bind hask (fun _ _ hr => hr) fun _ h₁ hr => Triple.modify ?_
  obtain ⟨requests, hlog, hrequests, -⟩ := hr.log
  exact ⟨requests, congrArg _ hlog, hrequests⟩

end Hardware

namespace EV3Supervisor

variable {c : SupervisorConfig} {d : DriveCommand} {guard : StartGuard} {s s' t t' : EV3Supervisor}
  {windows : List MotorOwner.StartWindow}

-- The way to a start

/-- What a drive must name, as the supervisor remembers it. -/
structure Accepts (s : EV3Supervisor) (d : DriveCommand) : Prop where
  session : s.sessionId = some d.sessionId
  sequence : s.lastSequenceId < d.sequenceId
  command : d.commandId ∉ s.seenCommandIds
  reference : s.lastHeartbeatSequence = some d.referenceHeartbeatSequence

def stageDrive (c : SupervisorConfig) (d : DriveCommand) (guard : StartGuard) : Sup (List Motor) := do
  checkDrive c d
  acceptDrive c d guard
  prestart c d guard
  let motors ← onOwner (MotorOwner.driveMotors c.toRobotConfig d.leftSpeedDps d.rightSpeedDps d.durationMs)
  let motors ← MotorOwner.readStartPositions ownerPart motors
  MotorOwner.stageMotors ownerPart d.durationMs motors
  return motors

/-- The start of one motor, after those of the windows. -/
def startWheel (c : SupervisorConfig) (d : DriveCommand) (guard : StartGuard) (windows : List MotorOwner.StartWindow)
    (motor : Motor) : Sup MotorOwner.StartWindow := do
  guardMotorStart c d guard windows
  let beginMs ← nowMs
  Prog.failIf (∃ first ∈ windows.head?, beginMs - first.beginMs > c.limits.maxStartSkewMs)
    (MotorOwner.startSkew "Second motor start missed the local skew limit")
  io (Hardware.write motor.path "command" "run-timed")
  let endMs ← nowMs
  Prog.failIf (endMs < beginMs)
    (supervisorError "clock_rollback" "Monotonic clock moved backwards during motor start")
  Prog.failIf (windows.length = 1 ∧ ∃ first ∈ windows.head?, endMs - first.beginMs > c.limits.maxStartSkewMs)
    (MotorOwner.startSkew "Motor command-write window exceeded local limit")
  return ⟨motor.side, motor.role, beginMs, endMs⟩

theorem startMotors_cons (motor : Motor) (motors : List Motor) :
    MotorOwner.startMotors ownerPart c.toRobotConfig (guardMotorStart c d guard) windows (motor :: motors) =
      startWheel c d guard windows motor >>= fun window =>
        MotorOwner.startMotors ownerPart c.toRobotConfig (guardMotorStart c d guard) (windows ++ [window]) motors := by
  unfold startWheel
  simp only [bind_bind]
  rfl

/-- The states of the call before, between and after the starts. -/
inductive Between (c : SupervisorConfig) (d : DriveCommand) (guard : StartGuard) (s : EV3Supervisor) :
    List MotorOwner.StartWindow → EV3Supervisor → Prop
  | staged {motors : List Motor} {staged : EV3Supervisor} (h : stageDrive c d guard s = (.ok motors, staged)) :
      Between c d guard s [] staged
  | started {started : List MotorOwner.StartWindow} {before after : EV3Supervisor} {motor : Motor}
      {window : MotorOwner.StartWindow} (hb : Between c d guard s started before)
      (h : startWheel c d guard started motor before = (.ok window, after)) : Between c d guard s (started ++ [window]) after

/-- What the guard of a motor saw: the state with its readings, the one after
its look at the infrared gate, and the one it left. -/
structure Vetted (c : SupervisorConfig) (d : DriveCommand) (guard : StartGuard) (windows : List MotorOwner.StartWindow)
    (now : Int) (seen looked passed : EV3Supervisor) : Prop where
  touch : seen.touchValue = some 0
  heartbeat : seen.heartbeatIsFresh c now = true
  infrared : d.forward = true → ∃ later, checkedNowMs seen = (.ok later, looked) ∧
    (looked.infraredStatus c later).fresh = true ∧ (looked.infraredStatus c later).blocked = false
  skew : ∀ first ∈ windows.head?, now - first.beginMs ≤ c.limits.maxStartSkewMs
  external : guard.check looked.owner.hw = (.ok (), passed.owner.hw)

/-- A motor may be started in a state of the hardware with this log: the command
was accepted, and just now the guard of this start let it pass. -/
structure Admitted (c : SupervisorConfig) (d : DriveCommand) (guard : StartGuard) (s : EV3Supervisor) (log : List Happening) :
    Prop where
  accepted : s.Accepts d
  guarded : ∃ windows before now seen looked passed, Between c d guard s windows before ∧
    guardMotorStart c d guard windows before = (.ok (), passed) ∧
    (do firstStartCheck c windows; checkedNowMs : Sup Int) before = (.ok now, seen) ∧
    Vetted c d guard windows now seen looked passed ∧
    ∃ requests, log = requests ++ passed.owner.hw.log ∧ ∀ e ∈ requests, e.isRequest = true

-- Acceptance and guards

theorem validateSequence_newer (sequenceId : Int) :
    Triple (validateSequence sequenceId) s (fun _ s' => s' = s ∧ s.lastSequenceId < sequenceId) (fun _ _ => True) :=
  Triple.ofExcept_bind (fun _ _ => trivial) fun _ _ => Triple.get_bind (Triple.check (fun _ => trivial) fun h => ⟨rfl, not_le.mp h⟩)

theorem requireSession_names (sessionId : String) :
    Triple (requireSession sessionId) s (fun _ s' => s' = s ∧ s.sessionId = some sessionId) (fun _ _ => True) :=
  Triple.ofExcept_bind (fun _ _ => trivial) fun _ _ => Triple.get_bind (Triple.check (fun _ => trivial) fun h => ⟨rfl, not_not.mp h⟩)

theorem checkDrive_accepts : Triple (checkDrive c d) s (fun _ _ => s.Accepts d) (fun _ _ => True) := by
  refine Triple.bind (requireDispatchThread_run.mono (fun _ _ h => h) fun _ _ _ => trivial) ?_
  rintro _ s ⟨rfl, -⟩
  refine Triple.bind ((requireState_run _).mono (fun _ _ h => h) fun _ _ _ => trivial) ?_
  rintro _ s ⟨rfl, -⟩
  refine Triple.bind (requireSession_names _) ?_
  rintro _ s ⟨rfl, hsession⟩
  refine Triple.bind (validateSequence_newer _) ?_
  rintro _ s ⟨rfl, hsequence⟩
  refine Triple.ofExcept_bind (fun _ _ => trivial) fun _ _ => Triple.get_bind ?_
  refine Triple.failIf (fun _ => trivial) fun hcommand => Triple.failIf (fun _ => trivial) fun _ => ?_
  refine Triple.ofExcept_bind (fun _ _ => trivial) fun _ _ => Triple.failIf (fun _ => trivial) fun hreference => ?_
  exact (Triple.unknown _ s).mono (fun _ _ _ => ⟨hsession, hsequence, hcommand, not_not.mp hreference⟩) fun _ _ h => h

theorem requireTouchReleased_released (message : String) :
    Triple (requireTouchReleased message) s (fun _ s' => s' = s ∧ s.touchValue = some 0) (fun _ _ => True) :=
  Triple.get_bind (Triple.check (fun _ => trivial) fun h => ⟨rfl, not_not.mp h⟩)

theorem requireInfraredIf_clear (forward : Bool) :
    Triple (requireInfraredIf c forward) s
      (fun _ s' => forward = true → ∃ later, checkedNowMs s = (.ok later, s') ∧
        (s'.infraredStatus c later).fresh = true ∧ (s'.infraredStatus c later).blocked = false)
      (fun _ _ => True) := by
  refine Triple.ite (fun _ => ?_) fun hn => Triple.pure fun hforward => absurd hforward hn
  refine Triple.bind ((Triple.run checkedNowMs s).mono (fun _ _ h => h) fun _ _ _ => trivial) fun later s₁ h₁ => Triple.get_bind ?_
  refine Triple.failIf (fun _ => trivial) fun hfresh => Triple.check (fun _ => trivial) fun hblocked _ => ?_
  exact ⟨later, h₁, by simpa using hfresh, by simpa using hblocked⟩

theorem guardMotorStart_vets (c : SupervisorConfig) (d : DriveCommand) (guard : StartGuard)
    (windows : List MotorOwner.StartWindow) :
    Triple (guardMotorStart c d guard windows) s
      (fun _ passed => ∃ now seen looked, (do firstStartCheck c windows; checkedNowMs : Sup Int) s = (.ok now, seen) ∧
        Vetted c d guard windows now seen looked passed)
      (fun _ _ => True) := by
  refine Triple.bind ((Triple.run (firstStartCheck c windows) s).mono (fun _ _ h => h) fun _ _ _ => trivial) fun _ s₁ h₁ => ?_
  refine Triple.bind ((Triple.run checkedNowMs s₁).mono (fun _ _ h => h) fun _ _ _ => trivial) fun now s₂ h₂ => ?_
  refine Triple.bind (requireTouchReleased_released _) ?_
  rintro _ s₂ ⟨rfl, htouch⟩
  refine Triple.bind (Q := fun _ s' => s' = s₂ ∧ s₂.heartbeatIsFresh c now = true) ?_ ?_
  · exact Triple.get_bind (Triple.check (fun _ => trivial) fun h => ⟨rfl, by simpa using h⟩)
  rintro _ s₂ ⟨rfl, hheartbeat⟩
  refine Triple.bind (requireInfraredIf_clear d.forward) fun _ s₃ hinfrared => ?_
  refine Triple.failIf (fun _ => trivial) fun hskew => ?_
  refine Triple.onPart (Triple.onPart ((Triple.run guard.check _).mono (fun _ hw hcheck => ?_) fun _ _ _ => trivial))
  refine ⟨now, s₂, s₃, bind_ok.mpr ⟨(), s₁, h₁, h₂⟩, htouch, hheartbeat, hinfrared, fun first hfirst => ?_, hcheck⟩
  exact not_lt.mp fun hlate => hskew ⟨first, hfirst, hlate⟩

-- Nothing else starts a motor

instance : Attendant Idle where
  consumes s _ := refl_of MotorOwner.Idles s.owner
  beats s _ _ := refl_of MotorOwner.Idles s.owner
  remembers s _ := refl_of MotorOwner.Idles s.owner

def Permitted (c : SupervisorConfig) (d : DriveCommand) (guard : StartGuard) (s t : EV3Supervisor) : Prop :=
  Grown (fun log e => e.isStart = true → Admitted c d guard s log) s.owner.hw.log t.owner.hw.log

theorem Permitted.calm (h : Permitted c d guard s t) (hg : t.owner.hw.Grew Happening.Calm t'.owner.hw) :
    Permitted c d guard s t' := by
  obtain ⟨newer, hlog, hcalm, -⟩ := hg.log
  show Grown _ _ _
  rw [hlog]
  exact h.append fun e he _ hstart => by simp [(hcalm e he).2] at hstart

theorem Permitted.idle (h : Permitted c d guard s t) (hi : t.Idle t') : Permitted c d guard s t' := h.calm hi.calms

theorem Permitted.then (h : Permitted c d guard s t) {x : Sup α} (hx : Keeps Idle x) : Settles x t (Permitted c d guard s) :=
  (hx.triple t).mono (fun _ _ hi => h.idle hi) fun _ _ hi => h.idle hi

theorem guardMotorStart_rests {K : EV3Supervisor → EV3Supervisor → Prop} [Bystander K] (d : DriveCommand) (guard : StartGuard)
    (windows : List MotorOwner.StartWindow) : Keeps K (guardMotorStart c d guard windows) :=
  .bind (.ite (.bind readTouch_rests fun _ => .bind readInfrared_rests fun _ => checkIdleMotors_rests) (.pure _)) fun _ =>
    .bind checkedNowMs_rests fun _ => .bind (requireTouchReleased_rests _) fun _ => .bind (requireHeartbeat_rests _ _) fun _ =>
      .bind (requireInfraredIf_rests _) fun _ => .bind (.failIf _ _) fun _ => io_rests (Hardware.Grew.keeps_grew guard.reads)

theorem startWheel_permits (hs : s.Accepts d) (hb : Between c d guard s windows t) (hp : Permitted c d guard s t) (motor : Motor) :
    Settles (startWheel c d guard windows motor) t (Permitted c d guard s) := by
  have hguard := ((guardMotorStart_rests (K := Idle) d guard windows).triple t).and
    ((guardMotorStart_vets c d guard windows).and (Triple.run _ t))
  refine Triple.bind (hguard.mono (fun _ _ h => h) fun _ _ h => hp.idle h.1) ?_
  rintro _ passed ⟨hidle, ⟨now, seen, looked, hseen, hvetted⟩, hpassed⟩
  have hp₁ := hp.idle hidle
  refine Triple.frame_bind nowMs_seen (fun _ _ h => hp₁.calm (.of_read h.read)) fun beginMs s₂ h₂ => ?_
  have hp₂ : Permitted c d guard s s₂ := hp₁.calm (.of_read h₂.read)
  refine Triple.failIf (fun _ => hp₂) fun _ => ?_
  have hwrite : Settles (io (Hardware.write motor.path "command" "run-timed")) s₂ (Permitted c d guard s) := by
    refine Triple.onPart (Triple.onPart ((Hardware.write_run motor.path "command" "run-timed" s₂.owner.hw).mono ?_ ?_))
    · rintro _ hw ⟨requests, hlog, hrequests⟩
      obtain ⟨asked, hlog₂, hasked, -⟩ := h₂.read.log
      have hall : ∀ e ∈ requests ++ asked, e.isRequest = true := fun e he => (List.mem_append.mp he).elim (hrequests e) (hasked e)
      have hbefore : requests ++ s₂.owner.hw.log = (requests ++ asked) ++ passed.owner.hw.log := by
        rw [hlog₂, List.append_assoc]
      show Grown _ _ hw.log
      rw [hlog]
      refine .next (hp₂.append fun e he _ hstart => ?_) fun _ => ⟨hs, ?_⟩
      · simp [(Happening.calm_of_isRequest (hrequests e he)).2] at hstart
      · exact ⟨windows, t, now, seen, looked, passed, hb, hpassed, hseen, hvetted, requests ++ asked, hbefore, hall⟩
    · exact fun _ hw hr => hp₂.calm (.of_read hr)
  refine Triple.bind hwrite fun _ s₃ hp₃ => hp₃.then ?_
  exact .bind nowMs_rests fun _ => .bind (.failIf _ _) fun _ => .bind (.failIf _ _) fun _ => .pure _

theorem startMotors_permits (hs : s.Accepts d) (hb : Between c d guard s windows t) (hp : Permitted c d guard s t)
    (motors : List Motor) :
    Settles (MotorOwner.startMotors ownerPart c.toRobotConfig (guardMotorStart c d guard) windows motors) t
      (Permitted c d guard s) := by
  induction motors generalizing windows t with
  | nil => exact Triple.pure hp
  | cons motor motors ih =>
    rw [startMotors_cons]
    refine Triple.bind (((startWheel_permits hs hb hp motor).and (Triple.run _ _)).mono (fun _ _ h => h) fun _ _ h => h.1) ?_
    exact fun window s₁ h₁ => ih (.started hb h₁.2) h₁.1

theorem readStartPositions_rests {K : EV3Supervisor → EV3Supervisor → Prop} [Bystander K] (motors : List Motor) :
    Keeps K (MotorOwner.readStartPositions ownerPart motors) := by
  induction motors with
  | nil => exact .pure _
  | cons motor motors ih => exact .bind (io_rests (Hardware.ask_grew _)) fun _ => .bind ih fun _ => .pure _

theorem stageMotors_rests {K : EV3Supervisor → EV3Supervisor → Prop} [Bystander K] (durationMs : Int) (motors : List Motor) :
    Keeps K (MotorOwner.stageMotors ownerPart durationMs motors) := by
  induction motors with
  | nil => exact .pure _
  | cons motor motors ih =>
    exact .bind (io_rests (write_calm _ rfl)) fun _ => .bind (io_rests (write_calm _ rfl)) fun _ =>
      .bind (io_rests (write_calm _ rfl)) fun _ => ih

theorem startFailed_rests {K : EV3Supervisor → EV3Supervisor → Prop} [Bystander K] (e : PyError) :
    Keeps K (MotorOwner.startFailed ownerPart c.toRobotConfig e) := by
  refine .bind (.attempt (onOwner_same_rests (MotorOwner.stopAllVerified_same _))) fun cleanup =>
    .bind (.attempt nowMs_rests) fun _ => ?_
  cases cleanup <;> exact .throw _

theorem startMotion_permits (hs : s.Accepts d) (hp : Permitted c d guard s t)
    (hrun : (do checkDrive c d; acceptDrive c d guard; prestart c d guard : Sup Unit) s = (.ok (), t)) :
    Settles (startMotion c d guard) t (Permitted c d guard s) := by
  refine Triple.bind ?_ fun _ _ h => Triple.pure h
  have hdrive : Keeps Idle (onOwner (MotorOwner.driveMotors c.toRobotConfig d.leftSpeedDps d.rightSpeedDps d.durationMs)) :=
    onOwner_same_rests (MotorOwner.driveMotors_same _ _ _ _)
  refine Triple.bind (((hdrive.triple t).and (Triple.run _ t)).mono (fun _ _ h => h) fun _ _ h => hp.idle h.1) ?_
  rintro motors t₁ ⟨h₁, hmotors⟩
  have htry : Settles (MotorOwner.tryStart ownerPart c.toRobotConfig motors d.durationMs (guardMotorStart c d guard)) t₁
      (Permitted c d guard s) := by
    have hp₁ := hp.idle h₁
    refine Triple.bind ((((readStartPositions_rests (K := Idle) motors).triple t₁).and (Triple.run _ t₁)).mono (fun _ _ h => h)
      fun _ _ h => hp₁.idle h.1) ?_
    rintro started t₂ ⟨h₂, hread⟩
    have hp₂ := hp₁.idle h₂
    refine Triple.bind ((((stageMotors_rests (K := Idle) d.durationMs started).triple t₂).and (Triple.run _ t₂)).mono
      (fun _ _ h => h) fun _ _ h => hp₂.idle h.1) ?_
    rintro _ t₃ ⟨h₃, hstage⟩
    obtain ⟨_, s₁, hcheck, hrest⟩ := bind_ok.mp hrun
    obtain ⟨_, s₂, haccept, hprestart⟩ := bind_ok.mp hrest
    have hstaged : stageDrive c d guard s = (.ok started, t₃) :=
      bind_ok.mpr ⟨_, s₁, hcheck, bind_ok.mpr ⟨_, s₂, haccept, bind_ok.mpr ⟨_, t, hprestart, bind_ok.mpr ⟨_, t₁, hmotors,
        bind_ok.mpr ⟨_, t₂, hread, bind_ok.mpr ⟨_, t₃, hstage, rfl⟩⟩⟩⟩⟩⟩
    exact Triple.bind (startMotors_permits hs (.staged hstaged) (hp₂.idle h₃) started) fun _ _ h => Triple.pure h
  refine Triple.bind (Triple.tryCatch htry fun e _ h => h.then (startFailed_rests e)) fun started t₂ hp₂ => ?_
  refine Triple.step (show _ = (Except.ok (), { t₂ with owner := { t₂.owner with active := some _ } }) from rfl) ?_
  have hp₃ : Permitted c d guard s { t₂ with owner := { t₂.owner with
      active := some (MotorOwner.motionOf c.toRobotConfig d.durationMs (d.leftSpeedDps > 0 ∧ d.rightSpeedDps > 0) started) } } := hp₂
  exact hp₃.then (onOwner_same_rests MotorOwner.activeSnapshot_same)

theorem prestartFailed_throws (e : PyError) : Throws (prestartFailed c e) :=
  .ite (.next fun _ => .next fun _ => .throw _) (.next fun _ => .throw _)

theorem startDrive_permits : Settles (startDrive c d guard) s (Permitted c d guard s) := by
  have hp : Permitted c d guard s s := .none
  refine Triple.bind (((((checkDrive_attends (K := Idle) d).triple s).and checkDrive_accepts).and (Triple.run _ s)).mono
    (fun _ _ h => h) fun _ _ h => hp.idle h.1.1) ?_
  rintro _ s₁ ⟨⟨h₁, hs⟩, hcheck⟩
  have hp₁ := hp.idle h₁
  refine Triple.bind ((((acceptDrive_attends (K := Idle) d guard).triple s₁).and (Triple.run _ s₁)).mono (fun _ _ h => h)
    fun _ _ h => hp₁.idle h.1) ?_
  rintro _ s₂ ⟨h₂, haccept⟩
  have hp₂ := hp₁.idle h₂
  have hprestart : Triple (prestart c d guard) s₂ (fun _ s' => s₂.Idle s' ∧ prestart c d guard s₂ = (.ok (), s')) (fun _ => s₂.Idle) :=
    (((prestart_rests d guard).triple s₂).and (Triple.run _ s₂)).mono (fun _ _ h => h) fun _ _ h => h.1
  refine Triple.bind (Throws.caught prestartFailed_throws hprestart fun e s' h =>
    ((hp₂.idle h).then (prestartFailed_rests e)).mono (fun _ _ _ => trivial) fun _ _ h => h) ?_
  rintro _ s₃ ⟨h₃, hrun⟩
  have hstart := startMotion_permits hs (hp₂.idle h₃) (bind_ok.mpr ⟨_, s₁, hcheck, bind_ok.mpr ⟨_, s₂, haccept, hrun⟩⟩)
  refine Triple.bind (Triple.tryCatch hstart fun e _ h => h.then (motorStartFailed_rests e)) fun _ s₄ hp₄ => hp₄.then ?_
  exact .bind (modify_rests (fun _ => rfl) fun _ => rfl) fun _ => .bind activeMotion_rests fun _ =>
    .bind (.tryCatch (poststart_rests d _ guard) fun _ => poststartFailed_rests _) fun _ => emitStatus_rests

-- A drive that raises

/-- A later state of the call with an owner that can stop the motors. -/
structure Opened (s t : EV3Supervisor) : Prop where
  isOpen : t.owner.closed = false
  later : s.owner.hw.Later t.owner.hw

theorem Opened.same (h : s.Opened t) (hs : t.Same t') : s.Opened t' :=
  ⟨hs.owner.closed.trans h.isOpen, h.later.trans hs.owner.hw⟩

theorem startMotion_opens : Triple (startMotion c d guard) s
    (fun _ s' => s.Opened s' ∧ s'.owner.active.isSome = true) (fun _ s' => s.Idle s' ∨ s.Opened s') := by
  have hmotors : Triple (onOwner (MotorOwner.driveMotors c.toRobotConfig d.leftSpeedDps d.rightSpeedDps d.durationMs)) s
      (fun _ s' => s.Opened s') (fun _ s' => s.Idle s') := by
    have hidle : Keeps Idle (onOwner (MotorOwner.driveMotors c.toRobotConfig d.leftSpeedDps d.rightSpeedDps d.durationMs)) :=
      onOwner_same_rests (MotorOwner.driveMotors_same _ _ _ _)
    have hopen : Triple (onOwner (MotorOwner.driveMotors c.toRobotConfig d.leftSpeedDps d.rightSpeedDps d.durationMs)) s
        (fun _ s' => s.Opened s') (fun _ _ => True) :=
      Triple.onPart ((MotorOwner.driveMotors_run _ _ _).mono (fun _ _ h => ⟨h.1.closed.trans h.2, h.1.hw⟩) fun _ _ _ => trivial)
    exact (hopen.and (hidle.triple s)).mono (fun _ _ h => h.1) fun _ _ h => h.2
  refine Triple.bind (Triple.bind (hmotors.mono (fun _ _ h => h) fun _ _ h => .inl h) fun motors s₁ h₁ => ?_) fun _ _ h => Triple.pure h
  have hstart : Keeps Same (tryCatch (MotorOwner.tryStart ownerPart c.toRobotConfig motors d.durationMs (guardMotorStart c d guard))
      (MotorOwner.startFailed ownerPart c.toRobotConfig)) := .tryCatch (tryStart_same (guardMotorStart_same d guard) _ _) startFailed_same
  refine Triple.frame_bind hstart (fun _ _ h => .inr (h₁.same h)) fun started s₂ h₂ => ?_
  -- from here on the owner has the motion
  refine Triple.step (show _ = (Except.ok (), { s₂ with owner := { s₂.owner with active := some _ } }) from rfl) ?_
  have h₃ : s.Opened { s₂ with owner := { s₂.owner with
      active := some (MotorOwner.motionOf c.toRobotConfig d.durationMs (d.leftSpeedDps > 0 ∧ d.rightSpeedDps > 0) started) } } :=
    ⟨(h₁.same h₂).isOpen, (h₁.same h₂).later⟩
  exact Triple.frame (onOwner_same MotorOwner.activeSnapshot_same) (fun _ _ h => ⟨h₃.same h, h.owner.active⟩)
    fun _ _ h => .inr (h₃.same h)

theorem motorStartFailed_throws (e : PyError) : Throws (motorStartFailed c e) :=
  .next fun _ => .ite (.next fun _ => .next fun _ => .next fun _ => .throw _) (.next fun _ => .throw _)

theorem motorStartFailed_halts (ho : s.owner.closed = false) (e : PyError) : Settles (motorStartFailed c e) s s.Halts := by
  refine Triple.bind (Triple.attempt (P := fun _ => s.Halts) (finishActiveStop_halts ho)) fun retry _ h => h.then ?_
  exact .ite (.bind (modify_rests (fun _ => rfl) fun _ => rfl) fun _ => .bind checkedNowMs_rests fun _ =>
    .bind emit_rests fun _ => .throw _) (.bind enterFault_rests fun _ => .throw _)

theorem stopForwardForInfrared_halts (ho : s.owner.closed = false) :
    Triple (stopForwardForInfrared c) s (fun _ => s.Halts) (fun _ s' => s.Same s' ∨ s.Halts s') := by
  refine Triple.frame_bind checkedNowMs_same (fun _ _ h => .inl h) fun _ s₁ h₁ => ?_
  refine Triple.bind (finishActiveWithRetry_halts (h₁.owner.closed.trans ho) _) fun r s₂ h₂ => ?_
  refine (h₂.then ?_).mono (fun _ _ h => h.after h₁) fun _ _ h => .inr (h.after h₁)
  exact .bind (modify_rests (fun _ => rfl) fun _ => rfl) fun _ =>
    .ite (.bind (modify_rests (fun _ => rfl) fun _ => rfl) fun _ => .bind emit_rests fun _ => status_rests)
      (.bind enterFault_rests fun _ => status_rests)

theorem poststart_halts (ho : s.owner.closed = false) (startSkewMs : Int) :
    Triple (poststart c d startSkewMs guard) s (fun _ => s.Same) (fun _ s' => s.Same s' ∨ s.Halts s') := by
  refine Triple.frame_bind readInfrared_same (fun _ _ h => .inl h) fun _ s₁ h₁ => Triple.get_bind (Triple.ite (fun _ => ?_) fun _ => ?_)
  · refine Triple.bind ((stopForwardForInfrared_halts (h₁.owner.closed.trans ho)).mono (fun _ _ h => h.after h₁) ?_) ?_
    · exact fun _ _ h => h.imp (trans_of Same h₁) fun h => h.after h₁
    · exact fun _ _ h => Triple.throw (.inr h)
  · exact Triple.frame (checkStarted_same _ _) (fun _ _ h => trans_of Same h₁ h) fun _ _ h => .inl (trans_of Same h₁ h)

theorem poststartFailed_throws (e : PyError) : Throws (poststartFailed c e) :=
  .next fun _ => .ite (.throw _) (.next fun _ => .throw _)

theorem poststartFailed_halts (ho : s.owner.closed = false) (hs : s.state = .running) (h : s.Same s' ∨ s.Halts s') (e : PyError) :
    Triple (poststartFailed c e) s' (fun _ _ => True) (fun _ => s.Halts) := by
  refine Triple.get_bind (Triple.ite (fun hdenied => Triple.throw ?_) fun _ => Triple.bind (Q := fun _ => s.Halts) ?_ fun _ _ h => Triple.throw h)
  · exact h.resolve_left fun hsame => by simp [hsame.state.trans hs] at hdenied
  · rcases h with h | h
    · exact (enterFault_halts (h.owner.closed.trans ho)).mono (fun _ _ hh => hh.after h) fun _ _ hh => hh.after h
    · exact h.then enterFault_rests

theorem poststart_settles (ho : s.owner.closed = false) (hs : s.state = .running) (startSkewMs : Int) :
    Triple (tryCatch (poststart c d startSkewMs guard) (poststartFailed c)) s (fun _ => s.Same) (fun _ => s.Halts) :=
  Throws.caught poststartFailed_throws (poststart_halts ho startSkewMs) fun e _ h => poststartFailed_halts ho hs h e

def launch (c : SupervisorConfig) (d : DriveCommand) (guard : StartGuard) : Sup Unit := do
  checkDrive c d
  acceptDrive c d guard
  tryCatch (prestart c d guard) (prestartFailed c)
  tryCatch (startMotion c d guard) (motorStartFailed c)
  modify fun s => { s with activeCommandId := some d.commandId, state := .running }
  let active ← activeMotion
  tryCatch (poststart c d active.startWriteWindowMs guard) (poststartFailed c)

theorem startDrive_eq : startDrive c d guard = launch c d guard >>= fun _ =>
    (do emit c "motion_started"; return .status (← status c) : Sup Reply) := by
  unfold launch
  simp only [bind_bind]
  rfl

theorem activeMotion_run (h : s.owner.active.isSome = true) : ∃ active, activeMotion s = (.ok active, s) := by
  obtain ⟨active, ha⟩ := Option.isSome_iff_exists.mp h
  exact ⟨active, by simp [activeMotion, bind_run, ha]⟩

theorem launch_run : Triple (launch c d guard) s (fun _ t => t.state = .running ∧ t.owner.active.isSome = true ∧ s.Opened t)
    (fun _ s' => s.Idle s' ∨ s.Halts s') := by
  refine Triple.frame_bind (checkDrive_attends (K := Idle) d) (fun _ _ h => .inl h) fun _ s₁ h₁ => ?_
  refine Triple.frame_bind (acceptDrive_attends (K := Idle) d guard) (fun _ _ h => .inl (trans_of Idle h₁ h)) fun _ s₂ h₂ => ?_
  have h₂ := trans_of Idle h₁ h₂
  have hprestart : Keeps Idle (tryCatch (prestart c d guard) (prestartFailed c)) :=
    .tryCatch (prestart_rests d guard) fun _ => prestartFailed_rests _
  refine Triple.frame_bind hprestart (fun _ _ h => .inl (trans_of Idle h₂ h)) fun _ s₃ h₃ => ?_
  have h₃ := trans_of Idle h₂ h₃
  have hbefore : s.owner.hw.Later s₃.owner.hw := h₃.calms.mono fun _ h => h.1
  have hstart : Triple (tryCatch (startMotion c d guard) (motorStartFailed c)) s₃
      (fun _ s' => s₃.Opened s' ∧ s'.owner.active.isSome = true) (fun _ s' => s.Idle s' ∨ s.Halts s') := by
    refine Throws.caught motorStartFailed_throws startMotion_opens fun e s' h => ?_
    rcases h with h | h
    · exact Triple.frame (motorStartFailed_rests (K := Idle) e) (fun _ _ _ => trivial) fun _ _ hi => .inl (trans_of Idle (trans_of Idle h₃ h) hi)
    · exact (motorStartFailed_halts h.isOpen e).mono (fun _ _ _ => trivial) fun _ _ hh => .inr (hh.since (hbefore.trans h.later))
  refine Triple.bind hstart ?_
  rintro _ s₄ ⟨h₄, hactive⟩
  refine Triple.modify_bind ?_
  obtain ⟨active, ha⟩ := activeMotion_run (s := { s₄ with activeCommandId := some d.commandId, state := .running }) hactive
  refine Triple.step ha ?_
  refine (poststart_settles (s := { s₄ with activeCommandId := some d.commandId, state := .running }) h₄.isOpen rfl _).mono ?_ ?_
  · exact fun _ t h => ⟨h.state, h.owner.active.trans hactive, h.owner.closed.trans h₄.isOpen,
      hbefore.trans (h₄.later.trans h.owner.hw)⟩
  · exact fun _ _ h => .inr (h.since (hbefore.trans h₄.later))

/-- The motion was found good, and only the answer could not be made: it goes on. -/
structure Launched (c : SupervisorConfig) (d : DriveCommand) (guard : StartGuard) (s : EV3Supervisor) (e : PyError)
    (s' : EV3Supervisor) : Prop where
  launched : ∃ t, launch c d guard s = (.ok (), t) ∧
    (do emit c "motion_started"; return .status (← status c) : Sup Reply) t = (.error e, s')
  state : s'.state = .running
  motion : s'.owner.active.isSome = true

theorem emit_halts (ho : s.owner.closed = false) {event : String} :
    Triple (emit c event) s (fun _ => s.Same) (fun _ s' => s.Same s' ∨ s.Halts s') := by
  refine (emit_triple (fun _ _ h => .inl h.toSame) fun s₁ h _ => ?_).mono (fun _ _ h => h.toSame) fun _ _ h => h
  exact (enterFaultSilently_halts (h.owner.closed.trans ho)).mono (fun _ _ hh => .inr (hh.after h.toSame))
    fun _ _ hh => .inr (hh.after h.toSame)

theorem startDrive_stops : Triple (startDrive c d guard) s (fun _ _ => True)
    (fun e s' => s.Idle s' ∨ s.Halts s' ∨ Launched c d guard s e s') := by
  rw [startDrive_eq]
  refine Triple.bind ((launch_run.and (Triple.run _ s)).mono (fun _ _ h => h) fun _ _ h => h.1.imp_right .inl) ?_
  rintro _ t ⟨⟨hs, hactive, hopened⟩, hlaunch⟩
  have hreport : Triple (do emit c "motion_started"; return .status (← status c) : Sup Reply) t (fun _ _ => True)
      (fun _ s' => t.Same s' ∨ t.Halts s') := by
    refine Triple.bind (emit_halts hopened.isOpen) fun _ s₁ h₁ => Triple.frame_bind status_same (fun _ _ h => .inl (trans_of Same h₁ h)) ?_
    exact fun _ _ _ => Triple.pure trivial
  refine (hreport.and (Triple.run _ t)).mono (fun _ _ _ => trivial) fun e s' h => ?_
  rcases h.1 with hsame | hhalts
  · exact .inr (.inr ⟨⟨t, hlaunch, h.2⟩, hsame.state.trans hs, hsame.owner.active.trans hactive⟩)
  · exact .inr (.inl (hhalts.since hopened.later))

structure Guarded (c : SupervisorConfig) (d : DriveCommand) (guard : StartGuard) (s : EV3Supervisor) : Prop where
  /-- A motor is started only where it was admitted. -/
  starts : ∀ r s', startDrive c d guard s = (r, s') → ∀ newer older e,
    s'.owner.hw.log = newer ++ e :: (older ++ s.owner.hw.log) → e.isStart = true → Admitted c d guard s (older ++ s.owner.hw.log)
  /-- A call that raises started no motor, or has stopped them since, but for a
  motion that was found good. -/
  stops : ∀ e s', startDrive c d guard s = (.error e, s') →
    (∀ newer, s'.owner.hw.log = newer ++ s.owner.hw.log → ∀ e ∈ newer, e.isStart = false) ∨ s.Halts s' ∨ Launched c d guard s e s'

theorem startDrive_guarded (c : SupervisorConfig) (d : DriveCommand) (guard : StartGuard) (s : EV3Supervisor) : s.Guarded c d guard := by
  refine ⟨fun r s' hrun newer older e hlog hstart => ?_, fun e s' hrun => ?_⟩
  · have hp : Permitted c d guard s (startDrive c d guard s).2 := startDrive_permits.after
    rw [hrun] at hp
    exact hp.allowed_at hlog hstart
  · rcases startDrive_stops.error hrun with hidle | hhalts | hlaunched
    · refine .inl fun newer hlog e he => ?_
      obtain ⟨calm, hcalmLog, hcalm, -⟩ := hidle.calms.log
      rw [List.append_cancel_right (hcalmLog.symm.trans hlog)] at hcalm
      exact (hcalm e he).2
    · exact .inr (.inl hhalts)
    · exact .inr (.inr hlaunched)

/-- The drive before which the supervisor has been armed. -/
def armed (hw : Hardware) : EV3Supervisor := ((ev3Supervisor ev3rstorm).runList (booted hw) (turnCalls.take 5)).2

theorem armed_runs (hw : Hardware) : (ev3Supervisor ev3rstorm).Runs Machine.always (booted hw)
    ((ev3Supervisor ev3rstorm).runList (booted hw) (turnCalls.take 5)).1 (armed hw) :=
  Machine.runs_runList (Machine.stepsOk_always _ _ (turnCalls.take 5))

def lost : PyError := { kind := .os, message := "No such device" }

/-- Once both motors of the turn were started, nothing can be read or written. -/
def lostHardware : Hardware where
  tape n := (bootAnswers ++ [named 0 "session"] ++ List.replicate 130 (quiet 0)).getD n
    { clock := .error lost, done := .error lost, text := .error lost, number := .error lost, paths := .error lost }

/-- The clock cannot be read for the status of the turn. -/
def muteHardware : Hardware :=
  answering (bootAnswers ++ [named 0 "session"] ++ List.replicate 156 (quiet 0) ++ [{ quiet 0 with clock := .error lost }]) 0

/-- Whether a call raised that started the motor of the path and has not written
stop to it since. -/
def unstopped (path : String) (s : EV3Supervisor) (x : Except PyError Reply × EV3Supervisor) : Bool :=
  let newer := x.2.owner.hw.log.take (x.2.owner.hw.log.length - s.owner.hw.log.length)
  x.1.toOption.isNone && x.2.owner.hw.log = newer ++ s.owner.hw.log && newer.contains (.wrote path "command" "run-timed") &&
    !(newer.takeWhile (· ≠ .wrote path "command" "run-timed")).contains (.wrote path "command" "stop")

theorem unstopped_raised {path : String} {x : Except PyError Reply × EV3Supervisor} (h : unstopped path s x = true) :
    ∃ e s' newer, x = (.error e, s') ∧ s'.owner.hw.log = newer ++ s.owner.hw.log ∧
      Happening.wrote path "command" "run-timed" ∈ newer ∧
      Happening.wrote path "command" "stop" ∉ newer.takeWhile (· ≠ .wrote path "command" "run-timed") := by
  obtain ⟨r, s'⟩ := x
  simp only [unstopped, Bool.and_eq_true, decide_eq_true_eq, List.contains_iff_mem, Bool.not_eq_true', Bool.eq_false_iff,
    ne_eq] at h
  obtain ⟨⟨⟨hraised, hlog⟩, hstarted⟩, hstopped⟩ := h
  cases r with
  | ok reply => cases hraised
  | error e => exact ⟨e, s', _, rfl, hlog, hstarted, hstopped⟩

/-- On this hardware, a drive that raises has written stop to every motor it
started. -/
def StopsWheels (hw : Hardware) : Prop :=
  ∀ (c : SupervisorConfig) (maximumEvents : Nat) (s₀ s s' : EV3Supervisor) (h : List (SupervisorCall × Except PyError Reply))
    (d : DriveCommand) (guard : StartGuard) (e : PyError) (path : String) (newer : List Happening),
    boot c (booting hw maximumEvents) = (.ok (), s₀) → (ev3Supervisor c).Runs Machine.always s₀ h s →
      startDrive c d guard s = (.error e, s') → s'.owner.hw.log = newer ++ s.owner.hw.log →
        Happening.wrote path "command" "run-timed" ∈ newer →
          Happening.wrote path "command" "stop" ∈ newer.takeWhile (· ≠ .wrote path "command" "run-timed")

theorem unstopped_of_raised {hw : Hardware} (hboot : boot ev3rstorm (booting hw 512) = (.ok (), booted hw))
    (hraised : unstopped "motor1" (armed hw) (startDrive ev3rstorm turn ⟨pure (), .pure _⟩ (armed hw)) = true) :
    ¬ StopsWheels hw := by
  intro hall
  obtain ⟨e, s', newer, hdrive, hlog, hstarted, hstopped⟩ := unstopped_raised hraised
  exact hstopped (hall ev3rstorm 512 (booted hw) (armed hw) s' _ turn _ e "motor1" newer hboot (armed_runs hw) hdrive hlog hstarted)

/-- The motors are lost after their start, so that the stop that follows knows
none of them; and a good motion goes on though its status cannot be made. -/
theorem drive_unstopped : ¬ StopsWheels lostHardware ∧ ¬ StopsWheels muteHardware :=
  ⟨unstopped_of_raised (Prod.ext (by decide +kernel) rfl) (by decide +kernel),
    unstopped_of_raised (Prod.ext (by decide +kernel) rfl) (by decide +kernel)⟩

end EV3Supervisor

end RobotLlm.Ev3
