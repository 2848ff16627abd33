import RobotLlm.Ev3.SupervisorCommands

/-!
# What most steps leave alone

Most of the supervisor reads clocks, sensors and motor states, or writes to
the motors. Such a step adds to the log, and changes neither which motion the
owner knows of nor the session or the fault.
-/

namespace RobotLlm.Ev3

open RobotLlm.Lib Hardware

variable {P : Happening → Prop} [Happening.Admits P]

theorem write_calm (path : String) {file value : String} (h : Happening.isStart (.wrote path file value) = false) :
    Prog.Keeps (Grew P) (write path file value) := write_grew _ _ _ (Happening.Admits.calm _ ⟨trivial, h⟩)

-- Stopping

theorem stopMotor_grew (attempt : Nat) (path : String) : Prog.Keeps (Grew P) (stopMotor attempt path) :=
  .bind (.attempt (write_calm _ rfl)) fun _ => .bind (.attempt (write_calm _ rfl)) fun _ => .pure _

theorem stopMotors_grew (attempt : Nat) (paths : List String) : Prog.Keeps (Grew P) (stopMotors attempt paths) := by
  induction paths with
  | nil => exact .pure _
  | cons path paths ih => exact .bind (stopMotor_grew _ _) fun _ => .bind ih fun _ => .pure _

theorem readMotor_grew (r : StopReading) (path : String) : Prog.Keeps (Grew P) (readMotor r path) := by
  refine .bind (.attempt (.bind (ask_grew _) fun _ => .bind (.ofExcept _) fun _ => .pure _)) fun state => ?_
  cases state with
  | error e => exact .pure _
  | ok state => exact .bind (.attempt (ask_grew _)) fun _ => .pure _

theorem readMotors_grew (r : StopReading) (paths : List String) : Prog.Keeps (Grew P) (readMotors r paths) := by
  induction paths generalizing r with
  | nil => exact .pure _
  | cons path paths ih => exact .bind (readMotor_grew _ _) fun r => ih r

theorem roundErrors_grew (isLast : Bool) (errors readErrors : List String) :
    Prog.Keeps (Grew P) (roundErrors isLast errors readErrors) := by
  refine .ite (.pure _) (.bind (.attempt (ask_grew _)) fun slept => ?_)
  cases slept <;> exact .pure _

theorem stopRound_grew (paths : List String) (attempt maximumAttempts : Nat) (l : StopLoop) :
    Prog.Keeps (Grew P) (stopRound paths attempt maximumAttempts l) :=
  .bind (stopMotors_grew _ _) fun _ => .bind (readMotors_grew _ _) fun _ =>
    .ite (.pure _) (.bind (roundErrors_grew _ _ _) fun _ => .pure _)

theorem stopRounds_grew (paths : List String) (maximumAttempts remaining attempt : Nat) (l : StopLoop) :
    Prog.Keeps (Grew P) (stopRounds paths maximumAttempts remaining attempt l) := by
  induction remaining generalizing attempt l with
  | zero => exact .pure _
  | succ remaining ih => exact .bind (stopRound_grew _ _ _ _) fun l => .ite (.pure _) (ih _ _)

theorem configuredPathsFrom_grew (paths roles : List String) :
    Prog.Keeps (Grew P) (configuredPathsFrom paths roles) := by
  induction roles generalizing paths with
  | nil => exact .pure _
  | cons role roles ih => exact .bind (ask_grew _) fun _ => .bind (.failIf _ _) fun _ => ih _

theorem stopAll_grew (c : RobotConfig) : Prog.Keeps (Grew P) (stopAll c) :=
  .bind (note_grew (Happening.Admits.calm _ ⟨trivial, rfl⟩) rfl) fun _ => .bind (.attempt discoveredMotorPaths_grew) fun _ =>
    .bind (.attempt (configuredPathsFrom_grew _ _)) fun _ => .bind (stopRounds_grew _ _ _ _ _) fun _ =>
      .bind (note_grew (Happening.Admits.calm _ ⟨trivial, rfl⟩) rfl) fun _ => .pure _

theorem readFinishedMotors_grew (motors : List Motor) : Prog.Keeps (Grew P) (MotorOwner.readFinishedMotors motors) := by
  induction motors with
  | nil => exact .pure _
  | cons motor motors ih =>
    refine .bind (.attempt (.bind (ask_grew _) fun _ => .bind (ask_grew _) fun _ => .pure _)) fun receipt => ?_
    cases receipt with
    | ok receipt => exact .bind ih fun _ => .pure _
    | error e => exact .bind (.failIf _ _) fun _ => .bind ih fun _ => .pure _

-- The motor owner

namespace MotorOwner

def roles (o : MotorOwner) : Option (List String) := o.active.map fun active => active.motors.map Motor.role

theorem roles_withCheckpoint (role : String) (position nowMs : Int) (motors : List Motor) :
    (withCheckpoint role position nowMs motors).map Motor.role = motors.map Motor.role := by
  induction motors with
  | nil => rfl
  | cons motor motors ih =>
    unfold withCheckpoint
    split
    · rfl
    · rw [List.map_cons, List.map_cons, ih]

/-- The owner did such things in the environment, and knows of a motion as before. -/
structure SameBy (P : Happening → Prop) (o o' : MotorOwner) : Prop where
  hw : o.hw.Grew P o'.hw
  roles : o'.roles = o.roles
  closed : o'.closed = o.closed
  closeResult : o'.closeResult = o.closeResult

theorem SameBy.active {P : Happening → Prop} {o o' : MotorOwner} (h : o.SameBy P o') : o'.active.isSome = o.active.isSome := by
  have hs := congrArg Option.isSome h.roles
  simpa [MotorOwner.roles] using hs

abbrev Same (o o' : MotorOwner) : Prop := SameBy Happening.Own o o'

instance (P : Happening → Prop) : IsPreorder MotorOwner (SameBy P) where
  refl o := ⟨.refl _ o.hw, rfl, rfl, rfl⟩
  trans _ _ _ h h' :=
    ⟨h.hw.trans h'.hw, h'.roles.trans h.roles, h'.closed.trans h.closed, h'.closeResult.trans h.closeResult⟩

omit [Happening.Admits P] in
theorem onHw_same {x : Io α} (h : Prog.Keeps (Grew P) x) : Prog.Keeps (SameBy P) (onHw x) :=
  .onPart (fun _ _ hr => ⟨hr, rfl, rfl, rfl⟩) h

theorem ask_same (f : Answer → Except PyError α) : Prog.Keeps (SameBy P) (onHw (ask f)) := onHw_same (ask_grew f)

theorem released_same : Prog.Keeps (SameBy P) (onHw (note .released)) := onHw_same (note_grew (Happening.Admits.calm _ ⟨trivial, rfl⟩) rfl)

theorem requireOpen_same : Prog.Keeps (SameBy P) requireOpen := .bind .get fun _ => .failIf _ _

theorem requireBoundTopology_same : Prog.Keeps (SameBy P) requireBoundTopology := by
  refine .bind .get fun o => ?_
  split
  · exact .throw _
  · exact .pure _

theorem bindMotors_same (bound : List MotorBinding) (roles : List String) :
    Prog.Keeps (SameBy P) (bindMotors bound roles) := by
  induction roles generalizing bound with
  | nil => exact .pure _
  | cons role roles ih =>
    exact .bind (ask_same _) fun _ => .bind (.failIf _ _) fun _ =>
      .bind (ask_same _) fun _ => ih _

theorem bindChecked_same (c : RobotConfig) : Prog.Keeps (SameBy P) (bindChecked c) :=
  .bind (bindMotors_same _ _) fun _ => .bind (onHw_same discoveredMotorPaths_grew) fun _ =>
    .bind (.failIf _ _) fun _ => .bind (ask_same _) fun _ => .modify fun o => ⟨.refl _ o.hw, rfl, rfl, rfl⟩

theorem bindTopology_same (c : RobotConfig) : Prog.Keeps (SameBy P) (bindTopology c) :=
  .bind requireOpen_same fun _ => .bind .get fun _ => .bind (.failIf _ _) fun _ => (bindChecked_same c).mapError _

theorem revalidateTopology_same : Prog.Keeps (SameBy P) revalidateTopology :=
  .bind requireOpen_same fun _ => .bind requireBoundTopology_same fun _ => ask_same _

theorem pathForRole_same (role : String) : Prog.Keeps (SameBy P) (pathForRole role) := by
  refine .bind requireBoundTopology_same fun bindings => ?_
  split
  · exact .pure _
  · exact .throw _

theorem readTouchValue_same : Prog.Keeps (SameBy P) readTouchValue :=
  .bind requireOpen_same fun _ => .bind requireBoundTopology_same fun _ => .bind (ask_same _) fun _ =>
    ask_same _

theorem readInfraredValue_same : Prog.Keeps (SameBy P) readInfraredValue :=
  .bind requireOpen_same fun _ => .bind requireBoundTopology_same fun _ => .bind (ask_same _) fun _ =>
    .bind (ask_same _) fun _ => .bind (.failIf _ _) fun _ => .pure _

theorem readPositionIf_grew (wanted : Bool) : Prog.Keeps (Grew P) (readPositionIf wanted) :=
  .ite (.bind (ask_grew _) fun _ => .pure _) (.pure _)

theorem snapshotMotors_same (positionRoles : List String) (bindings : List MotorBinding) :
    Prog.Keeps (SameBy P) (snapshotMotors positionRoles bindings) := by
  induction bindings with
  | nil => exact .pure _
  | cons binding bindings ih =>
    exact .bind (ask_same _) fun _ => .bind (ask_same _) fun _ =>
      .bind (onHw_same (readPositionIf_grew _)) fun _ => .bind ih fun _ => .pure _

theorem dynamicMotorSnapshots_same (positionRoles : List String) :
    Prog.Keeps (SameBy P) (dynamicMotorSnapshots positionRoles) :=
  .bind requireOpen_same fun _ => .bind requireBoundTopology_same fun _ => .bind (.failIf _ _) fun _ =>
    .bind (onHw_same discoveredMotorPaths_grew) fun _ => .bind (.failIf _ _) fun _ => snapshotMotors_same _ _

theorem requireActive_same : Prog.Keeps (SameBy P) requireActive := by
  refine .bind .get fun o => ?_
  split
  · exact .pure _
  · exact .throw _

theorem activeSnapshotOf_same (observations : List MotorSnapshot) : Prog.Keeps (SameBy P) (activeSnapshotOf observations) :=
  .bind requireOpen_same fun _ => .bind requireActive_same fun _ => .bind (.ofExcept _) fun _ => .pure _

theorem activeSnapshot_same : Prog.Keeps (SameBy P) activeSnapshot :=
  .bind requireOpen_same fun _ => .bind requireActive_same fun _ =>
    .bind (dynamicMotorSnapshots_same _) fun _ => activeSnapshotOf_same _

theorem progressCheckpoint_same (role : String) : Prog.Keeps (SameBy P) (progressCheckpoint role) := by
  refine .bind requireActive_same fun active => ?_
  split
  · exact .pure _
  · exact .throw _

theorem updateProgressCheckpoint_same (role : String) (position nowMs : Int) :
    Prog.Keeps (SameBy P) (updateProgressCheckpoint role position nowMs) :=
  .bind .get fun _ => .bind (.failIf _ _) fun _ => .modify fun o =>
    ⟨.refl _ o.hw, by simp [roles, Option.map_map, Function.comp_def, roles_withCheckpoint], rfl, rfl⟩

theorem validateDrive_same (c : RobotConfig) (left right durationMs : Int) :
    Prog.Keeps (SameBy P) (validateDrive c left right durationMs) :=
  .bind requireOpen_same fun _ => .bind (.ofExcept _) fun _ => .ofExcept _

theorem driveMotors_same (c : RobotConfig) (left right durationMs : Int) :
    Prog.Keeps (SameBy P) (driveMotors c left right durationMs) :=
  .bind requireOpen_same fun _ => .bind .get fun _ => .bind (.failIf _ _) fun _ =>
    .bind (validateDrive_same _ _ _ _) fun _ => .bind (pathForRole_same _) fun _ =>
      .bind (pathForRole_same _) fun _ => .bind (.failIf _ _) fun _ => .pure _

theorem stopAllVerified_same (c : RobotConfig) : Prog.Keeps (SameBy P) (stopAllVerified c) :=
  .bind requireOpen_same fun _ => .bind (onHw_same (stopAll_grew c)) fun _ => .pure _

end MotorOwner

-- The supervisor

namespace EV3Supervisor

/-- What the laws of the supervisor speak of, the owner apart. -/
structure View where
  state : SupervisorState
  fault : Option Fault
  sessionId : Option String
  lastHeartbeatMs : Option Int
  activeCommandId : Option String
  isClosed : Bool
  dispatchThreadId : Nat

def view (s : EV3Supervisor) : View :=
  ⟨s.state, s.fault, s.sessionId, s.lastHeartbeatMs, s.activeCommandId, s.isClosed, s.dispatchThreadId⟩

/-- The supervisor as before, but for the environment and its readings. -/
structure Same (s s' : EV3Supervisor) : Prop where
  owner : s.owner.Same s'.owner
  view : s'.view = s.view

instance : IsPreorder EV3Supervisor Same where
  refl s := ⟨refl_of MotorOwner.Same s.owner, rfl⟩
  trans _ _ _ h h' := ⟨trans_of MotorOwner.Same h.owner h'.owner, h'.view.trans h.view⟩

variable {c : SupervisorConfig} {s : EV3Supervisor}

theorem onOwner_same {x : MotorOwner.Own α} (h : Prog.Keeps MotorOwner.Same x) : Prog.Keeps Same (onOwner x) :=
  .onPart (fun _ _ ho => ⟨ho, rfl⟩) h

theorem io_same {x : Io α} (h : Prog.Keeps Later x) : Prog.Keeps Same (io x) :=
  onOwner_same (MotorOwner.onHw_same h)

theorem modify_same {f : EV3Supervisor → EV3Supervisor} (ho : ∀ s, (f s).owner = s.owner)
    (hv : ∀ s, (f s).view = s.view) : Prog.Keeps Same (modify f : Sup Unit) :=
  .modify fun s => ⟨by rw [ho]; exact refl_of MotorOwner.Same s.owner, hv s⟩

theorem requireDispatchThread_same : Prog.Keeps Same requireDispatchThread := .bind .get fun _ => .failIf _ _

theorem requireState_same (states : List SupervisorState) : Prog.Keeps Same (requireState states) :=
  .bind .get fun _ => .failIf _ _

theorem requireSession_same (sessionId : String) : Prog.Keeps Same (requireSession sessionId) :=
  .bind (.ofExcept _) fun _ => .bind .get fun _ => .failIf _ _

theorem validateSequence_same (sequenceId : Int) : Prog.Keeps Same (validateSequence sequenceId) :=
  .bind (.ofExcept _) fun _ => .bind .get fun _ => .failIf _ _

theorem consumeSequence_same (sequenceId : Int) : Prog.Keeps Same (consumeSequence sequenceId) :=
  .bind (validateSequence_same _) fun _ => modify_same (fun _ => rfl) fun _ => rfl

theorem nowMs_same : Prog.Keeps Same nowMs := io_same (ask_later _)

theorem checkedNowMs_same : Prog.Keeps Same checkedNowMs :=
  .bind nowMs_same fun _ => .bind .get fun _ => .bind (.failIf _ _) fun _ =>
    .bind (modify_same (fun _ => rfl) fun _ => rfl) fun _ => .pure _

theorem requireHeartbeat_same (now : Int) (e : PyError) : Prog.Keeps Same (requireHeartbeat c now e) :=
  .bind .get fun _ => .failIf _ _

structure Seen (s s' : EV3Supervisor) : Prop extends Same s s' where
  read : Hardware.Read s.owner.hw s'.owner.hw

instance : IsPreorder EV3Supervisor Seen where
  refl s := ⟨refl_of Same s, .refl _ s.owner.hw⟩
  trans _ _ _ h h' := ⟨trans_of Same h.toSame h'.toSame, h.read.trans h'.read⟩

theorem io_seen {x : Io α} (h : Prog.Keeps Hardware.Read x) : Prog.Keeps Seen (io x) := fun s =>
  ⟨io_same (Grew.keeps_later h) s, h s.owner.hw⟩

theorem nowMs_seen : Prog.Keeps Seen nowMs := io_seen nowMs_read

theorem status_same : Prog.Keeps Same (status c) := .bind nowMs_same fun _ => .bind .get fun _ => .pure _

-- Sensors

theorem readTouch_same : Prog.Keeps Same readTouch :=
  .bind (onOwner_same MotorOwner.readTouchValue_same) fun _ => .bind (.failIf _ _) fun _ =>
    .bind (modify_same (fun _ => rfl) fun _ => rfl) fun _ => .bind nowMs_same fun _ => .pure _

theorem observeInfrared_same (observedMs value : Int) : Prog.Keeps Same (observeInfrared c observedMs value) :=
  .bind .get fun _ => .bind (modify_same (fun _ => rfl) fun _ => rfl) fun _ => .ofExcept _

theorem infraredFailed_same (observedMs : Int) (e : PyError) : Prog.Keeps Same (infraredFailed observedMs e) :=
  .bind (modify_same (fun _ => rfl) fun _ => rfl) fun _ => .throw _

theorem readInfrared_same : Prog.Keeps Same (readInfrared c) :=
  .bind checkedNowMs_same fun _ =>
    .bind (.tryCatch (onOwner_same MotorOwner.readInfraredValue_same) fun _ => infraredFailed_same _ _) fun _ =>
      observeInfrared_same _ _

theorem requireInfraredIf_same (forward : Bool) : Prog.Keeps Same (requireInfraredIf c forward) :=
  .ite (.bind checkedNowMs_same fun _ => .bind .get fun _ => .bind (.failIf _ _) fun _ => .failIf _ _) (.pure _)

theorem requireTouchReleased_same (message : String) : Prog.Keeps Same (requireTouchReleased message) :=
  .bind .get fun _ => .failIf _ _

theorem requireTouchStable_same (message : String) : Prog.Keeps Same (requireTouchStable c message) :=
  .bind .get fun _ => .failIf _ _

theorem pollSensors_same : Prog.Keeps Same (pollSensors c) :=
  .bind checkedNowMs_same fun _ => .bind readTouch_same fun _ => .bind readInfrared_same fun _ =>
    .bind checkedNowMs_same fun _ => .pure _

theorem secondaryClockError_same : Prog.Keeps Same secondaryClockError :=
  .tryCatch (.bind checkedNowMs_same fun _ => .pure _) fun _ => .ite (.pure _) (.throw _)

theorem secondarySensorErrors_same : Prog.Keeps Same (secondarySensorErrors c) :=
  .bind (.attempt (.bind readTouch_same fun _ => .bind readInfrared_same fun _ =>
    .bind checkedNowMs_same fun _ => .pure _)) fun _ => .pure _

theorem verifyHardware_same : Prog.Keeps Same (verifyHardware c) :=
  .tryCatch
    (.bind (onOwner_same MotorOwner.revalidateTopology_same) fun _ => .bind readTouch_same fun _ => readInfrared_same)
    fun _ => .ite (.throw _) (.throw _)

-- Motors

theorem checkIdleMotors_same : Prog.Keeps Same checkIdleMotors :=
  .bind (onOwner_same (MotorOwner.dynamicMotorSnapshots_same _)) fun _ => .ofExcept _

theorem checkProgress_same (now : Int) (motor : RunningMotor) : Prog.Keeps Same (checkProgress c now motor) :=
  .bind (onOwner_same (MotorOwner.progressCheckpoint_same _)) fun _ =>
    .ite (onOwner_same (MotorOwner.updateProgressCheckpoint_same _ _ _)) (.failIf _ _)

theorem checkRunningMotors_same (running : RunningMotion) (now : Int) (motors : List RunningMotor) :
    Prog.Keeps Same (checkRunningMotors c running now motors) := by
  induction motors with
  | nil => exact .pure _
  | cons motor motors ih => exact .bind (.ofExcept _) fun _ => .bind (checkProgress_same _ _) fun _ => ih

theorem activeMotion_same : Prog.Keeps Same activeMotion := by
  refine .bind .get fun s => ?_
  split
  · exact .pure _
  · exact .throw _

theorem checkRunningMotion_same : Prog.Keeps Same (checkRunningMotion c) :=
  .bind activeMotion_same fun _ => .bind (onOwner_same (MotorOwner.dynamicMotorSnapshots_same _)) fun _ =>
    .bind (onOwner_same (MotorOwner.activeSnapshotOf_same _)) fun _ => .bind checkedNowMs_same fun _ =>
      .bind (.ofExcept _) fun _ => .bind .get fun _ => .bind (.failIf _ _) fun _ =>
        .bind (requireHeartbeat_same _ _) fun _ => .bind (checkRunningMotors_same _ _ _) fun _ => .pure _

theorem pollMotion_same : Prog.Keeps Same (pollMotion c) :=
  .bind .get fun _ => .ite (.pure _) (.bind checkRunningMotion_same fun _ => .pure _)

theorem inventoryErrors_same : Prog.Keeps Same (inventoryErrors c) :=
  .tryCatch
    (.bind (.bind (onOwner_same (MotorOwner.bindTopology_same _)) fun _ =>
      .bind (onOwner_same (MotorOwner.dynamicMotorSnapshots_same _)) fun _ => .ofExcept _) fun _ => .pure _)
    fun _ => .ite (.pure _) (.throw _)

-- A drive, until its motion is recorded

theorem checkDrive_same (d : DriveCommand) : Prog.Keeps Same (checkDrive c d) :=
  .bind requireDispatchThread_same fun _ => .bind (requireState_same _) fun _ => .bind (requireSession_same _) fun _ =>
    .bind (validateSequence_same _) fun _ => .bind (.ofExcept _) fun _ => .bind .get fun _ =>
      .bind (.failIf _ _) fun _ => .bind (.failIf _ _) fun _ => .bind (.ofExcept _) fun _ =>
        .bind (.failIf _ _) fun _ => .bind (.failIf _ _) fun _ =>
          .mapError (onOwner_same (MotorOwner.validateDrive_same _ _ _ _)) _

theorem guard_same (guard : StartGuard) : Prog.Keeps Same (io guard.check) := io_same (Grew.keeps_later guard.reads)

theorem prestart_same (d : DriveCommand) (guard : StartGuard) : Prog.Keeps Same (prestart c d guard) :=
  .bind readTouch_same fun _ => .bind readInfrared_same fun _ => .bind checkIdleMotors_same fun _ =>
    .bind checkedNowMs_same fun _ => .bind (requireTouchReleased_same _) fun _ =>
      .bind (requireHeartbeat_same _ _) fun _ => .bind (requireInfraredIf_same _) fun _ => guard_same guard

theorem guardMotorStart_same (d : DriveCommand) (guard : StartGuard) (windows : List MotorOwner.StartWindow) :
    Prog.Keeps Same (guardMotorStart c d guard windows) :=
  .bind
    (.ite (.bind readTouch_same fun _ => .bind readInfrared_same fun _ => checkIdleMotors_same) (.pure _))
    fun _ => .bind checkedNowMs_same fun _ => .bind (requireTouchReleased_same _) fun _ =>
      .bind (requireHeartbeat_same _ _) fun _ => .bind (requireInfraredIf_same _) fun _ =>
        .bind (.failIf _ _) fun _ => guard_same guard

theorem readStartPositions_same (motors : List Motor) :
    Prog.Keeps Same (MotorOwner.readStartPositions ownerPart motors) := by
  induction motors with
  | nil => exact .pure _
  | cons motor motors ih => exact .bind (io_same (ask_later _)) fun _ => .bind ih fun _ => .pure _

theorem stageMotors_same (durationMs : Int) (motors : List Motor) :
    Prog.Keeps Same (MotorOwner.stageMotors ownerPart durationMs motors) := by
  induction motors with
  | nil => exact .pure _
  | cons motor motors ih =>
    exact .bind (io_same (write_later _ _ _)) fun _ => .bind (io_same (write_later _ _ _)) fun _ =>
      .bind (io_same (write_later _ _ _)) fun _ => ih

theorem startMotors_same {guard : List MotorOwner.StartWindow → Sup Unit} (hg : ∀ windows, Prog.Keeps Same (guard windows))
    (windows : List MotorOwner.StartWindow) (motors : List Motor) :
    Prog.Keeps Same (MotorOwner.startMotors ownerPart c.toRobotConfig guard windows motors) := by
  induction motors generalizing windows with
  | nil => exact .pure _
  | cons motor motors ih =>
    exact .bind (hg _) fun _ => .bind nowMs_same fun _ => .bind (.failIf _ _) fun _ =>
      .bind (io_same (write_later _ _ _)) fun _ => .bind nowMs_same fun _ => .bind (.failIf _ _) fun _ =>
        .bind (.failIf _ _) fun _ => ih _

theorem tryStart_same {guard : List MotorOwner.StartWindow → Sup Unit} (hg : ∀ windows, Prog.Keeps Same (guard windows))
    (motors : List Motor) (durationMs : Int) :
    Prog.Keeps Same (MotorOwner.tryStart ownerPart c.toRobotConfig motors durationMs guard) :=
  .bind (readStartPositions_same _) fun _ => .bind (stageMotors_same _ _) fun _ =>
    .bind (startMotors_same hg _ _) fun _ => .pure _

theorem startFailed_same (e : PyError) : Prog.Keeps Same (MotorOwner.startFailed ownerPart c.toRobotConfig e) := by
  refine .bind (.attempt (onOwner_same (MotorOwner.stopAllVerified_same _))) fun cleanup =>
    .bind (.attempt nowMs_same) fun _ => ?_
  cases cleanup <;> exact .throw _

theorem checkStarted_same (startSkewMs : Int) (guard : StartGuard) :
    Prog.Keeps Same (checkStarted c startSkewMs guard) :=
  .bind readTouch_same fun _ => .bind checkRunningMotion_same fun _ => .bind (.failIf _ _) fun _ =>
    .bind (requireTouchReleased_same _) fun _ => .bind (requireHeartbeat_same _ _) fun _ => guard_same guard

end EV3Supervisor

end RobotLlm.Ev3
