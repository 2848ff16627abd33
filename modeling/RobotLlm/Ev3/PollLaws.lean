import Mathlib.Algebra.Order.Ring.Int
import RobotLlm.Ev3.CallLaws
import RobotLlm.Ev3.StopLaws
import RobotLlm.Lib.Check

/-!
# What a poll leaves running

A poll that lets a motion run on has looked at everything that may go wrong
with it, at one moment. Whatever it finds otherwise, and whatever fails
meanwhile, a stop of all motors has run before it is over.
-/

namespace RobotLlm.Ev3

open RobotLlm.Lib Prog

-- The motors of a motion

namespace MotorOwner

variable {c : RobotConfig} {o : MotorOwner}

def boundPath (o : MotorOwner) (role : String) : Option String :=
  o.bindings.bind fun bindings => (bindings.find? (·.role = role)).map MotorBinding.path

theorem pathForRole_run (role : String) :
    Triple (pathForRole role) o (fun path o' => o' = o ∧ o.boundPath role = some path) (fun _ _ => True) := by
  unfold pathForRole requireBoundTopology
  refine Triple.bind (Q := fun bindings o' => o' = o ∧ o.bindings = some bindings) (Triple.get_bind ?_) ?_
  · split
    next => trivial
    next bindings hb => exact ⟨rfl, hb⟩
  · rintro bindings o ⟨rfl, hb⟩
    split
    next binding hfind => exact ⟨rfl, by simp [boundPath, hb, hfind]⟩
    next => trivial

theorem driveMotors_distinct (left right durationMs : Int) :
    Triple (driveMotors c left right durationMs) o (fun motors _ => (motors.map Motor.role).Nodup) (fun _ _ => True) := by
  refine Triple.bind (Triple.unknown _ _ |>.mono (fun _ _ h => h) fun _ _ h => h) fun _ o₁ _ => Triple.get_bind ?_
  refine Triple.failIf (fun _ => trivial) fun _ => Triple.bind (Triple.unknown _ _) fun _ o₂ _ => ?_
  refine Triple.bind (pathForRole_run c.leftMotorRole) ?_
  rintro leftPath o ⟨rfl, hleft⟩
  refine Triple.bind (pathForRole_run c.rightMotorRole) ?_
  rintro rightPath o ⟨rfl, hright⟩
  refine Triple.failIf (fun _ => trivial) fun hne => Triple.pure ?_
  have hroles : c.leftMotorRole ≠ c.rightMotorRole := by
    intro hsame
    rw [hsame, hright] at hleft
    exact hne (Option.some.inj hleft).symm
  simp [hroles]

end MotorOwner

namespace EV3Supervisor

variable {c : SupervisorConfig} {s s' s'' : EV3Supervisor} {code detail : String}

def Distinct (s : EV3Supervisor) : Prop := ∀ roles ∈ s.owner.roles, roles.Nodup

def Pairs (s s' : EV3Supervisor) : Prop := s.Distinct → s'.Distinct

theorem Distinct.idles (hd : s.Distinct) (h : s.owner.Idles s'.owner) : s'.Distinct := by
  obtain hnone | hsame := h.motion
  · intro roles hr
    simp [MotorOwner.roles, hnone] at hr
  · intro roles hr
    exact hd roles (hsame ▸ hr)

theorem Distinct.same (hd : s.Distinct) (h : s.Same s') : s'.Distinct := fun roles hr => hd roles (h.owner.roles ▸ hr)

instance : IsPreorder EV3Supervisor Pairs where
  refl _ h := h
  trans _ _ _ h h' hd := h' (h hd)

instance : Attendant Pairs where
  owner _ _ h hd := hd.idles h
  session _ _ ho _ hd roles hr := hd roles (ho ▸ hr)
  consumes _ _ h := h
  beats _ _ _ h := h
  remembers _ _ h := h

theorem readStartPositions_roles (motors : List Motor) :
    Returns (fun read => read.map Motor.role = motors.map Motor.role) (MotorOwner.readStartPositions ownerPart motors) := by
  induction motors with
  | nil => exact .pure rfl
  | cons motor motors ih => exact .next fun position => .bind ih fun rest hrest => .pure (by simp [hrest])

theorem tryStart_roles (motors : List Motor) (durationMs : Int) (guard : List MotorOwner.StartWindow → Sup Unit) :
    Returns (fun started => started.1.map Motor.role = motors.map Motor.role)
      (MotorOwner.tryStart ownerPart c.toRobotConfig motors durationMs guard) :=
  .bind (readStartPositions_roles motors) fun _ hread => .next fun _ => .next fun _ => .pure hread

theorem startFailed_throws (e : PyError) {P : List Motor × List MotorOwner.StartWindow → Prop} :
    Returns P (MotorOwner.startFailed ownerPart c.toRobotConfig e) := by
  refine .next fun cleanup => .next fun _ => ?_
  cases cleanup <;> exact fun _ => trivial

theorem motionOf_roles (durationMs : Int) (forward : Bool) (started : List Motor × List MotorOwner.StartWindow) :
    (MotorOwner.motionOf c.toRobotConfig durationMs forward started).motors.map Motor.role = started.1.map Motor.role := by
  simp [MotorOwner.motionOf, Function.comp_def]

theorem startMotion_pairs (d : DriveCommand) (guard : StartGuard) : Keeps Pairs (startMotion c d guard) := by
  intro s hd
  have hrun : Settles (startMotion c d guard) s Distinct := by
    refine Triple.bind (Q := fun _ => Distinct) ?_ fun _ _ h => Triple.pure h
    have hdrive := (onOwner_same (MotorOwner.driveMotors_same c.toRobotConfig d.leftSpeedDps d.rightSpeedDps d.durationMs)).triple s
    have hroles : Triple (onOwner (MotorOwner.driveMotors c.toRobotConfig d.leftSpeedDps d.rightSpeedDps d.durationMs)) s
        (fun motors _ => (motors.map Motor.role).Nodup) (fun _ _ => True) :=
      Triple.onPart ((MotorOwner.driveMotors_distinct _ _ _).mono (fun _ _ h => h) fun _ _ h => h)
    refine Triple.bind ((hdrive.and hroles).mono (fun _ _ h => h) fun _ _ h => hd.same h.1) ?_
    rintro motors s₁ ⟨h₁, hnodup⟩
    have hstart : Keeps Same (tryCatch (MotorOwner.tryStart ownerPart c.toRobotConfig motors d.durationMs (guardMotorStart c d guard))
        (MotorOwner.startFailed ownerPart c.toRobotConfig)) := .tryCatch (tryStart_same (guardMotorStart_same d guard) _ _) startFailed_same
    have hkept : Triple (tryCatch (MotorOwner.tryStart ownerPart c.toRobotConfig motors d.durationMs (guardMotorStart c d guard))
        (MotorOwner.startFailed ownerPart c.toRobotConfig)) s₁ (fun started _ => started.1.map Motor.role = motors.map Motor.role)
        (fun _ _ => True) :=
      Triple.tryCatch (tryStart_roles motors d.durationMs _ s₁) fun e s₂ _ => startFailed_throws e s₂
    refine Triple.bind (((hstart.triple s₁).and hkept).mono (fun _ _ h => h) fun _ _ h => (hd.same h₁).same h.1) ?_
    rintro started s₂ ⟨_, hstarted⟩
    refine Triple.step (show _ = (Except.ok (), { s₂ with owner := { s₂.owner with active := some _ } }) from rfl) ?_
    have hnew : Distinct { s₂ with owner := { s₂.owner with
        active := some (MotorOwner.motionOf c.toRobotConfig d.durationMs (d.leftSpeedDps > 0 ∧ d.rightSpeedDps > 0) started) } } := by
      rintro roles hr
      simp only [MotorOwner.roles, Option.map_some, Option.mem_def, Option.some.injEq] at hr
      rw [← hr, motionOf_roles, hstarted]
      exact hnodup
    exact Triple.frame (onOwner_same MotorOwner.activeSnapshot_same) (fun _ _ h => hnew.same h) fun _ _ h => hnew.same h
  exact hrun.after

theorem claim_pairs (ownerId : String) : Keeps Pairs (claim c ownerId) :=
  .bind requireDispatchThread_rests fun _ => .bind (requireState_rests _) fun _ => .bind .get fun _ => .bind (.failIf _ _) fun _ =>
    .bind (.ofExcept _) fun _ => .bind (io_rests (Hardware.ask_grew _)) fun _ => .bind (.ofExcept _) fun _ =>
      .bind (.modify fun _ h => h) fun _ => .bind checkedNowMs_rests fun _ => .bind (.modify fun _ h => h) fun _ =>
        .bind emit_rests fun _ => .pure _

theorem perform_pairs (call : SupervisorCall) : Keeps Pairs (perform c call) := by
  cases call with
  | claim ownerId => exact claim_pairs ownerId
  | startDrive command guard => exact startDrive_attends command guard (startMotion_pairs command guard)
  | _ => exact perform_attends trivial

theorem runs_distinct {hw : Hardware} {maximumEvents : Nat} {s₀ : EV3Supervisor} {h : List (SupervisorCall × Except PyError Reply)}
    (hb : boot c (booting hw maximumEvents) = (.ok (), s₀)) (hr : (ev3Supervisor c).Runs Machine.always s₀ h s) : s.Distinct := by
  have hbooted : Pairs (booting hw maximumEvents) s₀ := (boot_rests.triple _).ok hb
  exact hr.invariant (hbooted fun roles hr => by simp [MotorOwner.roles, booting] at hr) fun s call hd _ => perform_pairs call s hd

end EV3Supervisor

namespace EV3Supervisor

variable {c : SupervisorConfig} {s s' s'' : EV3Supervisor} {code detail : String}

-- The look at a motion

structure MotionObservation where
  all : List MotorSnapshot
  running : RunningMotion
  now : Int

def observeMotion : Sup MotionObservation := do
  let active ← activeMotion
  let all ← onOwner (MotorOwner.dynamicMotorSnapshots (active.motors.map Motor.role))
  let running ← onOwner (MotorOwner.activeSnapshotOf all)
  let now ← checkedNowMs
  return ⟨all, running, now⟩

def judgeMotion (c : SupervisorConfig) (o : MotionObservation) : Sup (RunningMotion × Int) := do
  Prog.ofExcept (o.all.forM (checkObservedMotor (o.running.motors.map RunningMotor.path)))
  let s ← get
  Prog.failIf (s.touchValue = some 1) (supervisorError "touch_pressed" "Touch stop input is pressed")
  requireHeartbeat c o.now (supervisorError "heartbeat_timeout" "Heartbeat expired during motion")
  checkRunningMotors c o.running o.now o.running.motors
  return (o.running, o.now)

theorem checkRunningMotion_eq : checkRunningMotion c = observeMotion >>= judgeMotion c := by
  unfold checkRunningMotion observeMotion
  simp only [bind_bind]
  rfl

/-- Where a motor was last known to make progress, and when. -/
def checkpointOf (s : EV3Supervisor) (role : String) : Option (Int × Int) :=
  s.owner.active.bind fun active =>
    (active.motors.find? (·.role = role)).map fun motor => (motor.checkpointPosition, motor.checkpointAtMs)

/-- The motor made its progress since the checkpoint, or still has time to. -/
def Progressed (c : SupervisorConfig) (now : Int) (motor : RunningMotor) (checkpoint : Int × Int) : Prop :=
  ((motor.position - checkpoint.1) * motor.physicalSpeedDps > 0 ∧
      (motor.position - checkpoint.1).natAbs ≥ requiredProgress c motor) ∨
    now < checkpoint.2 ∨ now - checkpoint.2 < c.limits.stallWindowMs

/-- Nothing that was seen of the motion speaks against it. -/
structure SafelyRunning (c : SupervisorConfig) (s : EV3Supervisor) (o : MotionObservation) : Prop where
  touch : s.touchValue = some 0
  heartbeat : ∃ age ∈ s.heartbeatAgeMs o.now, 0 ≤ age ∧ age < c.limits.heartbeatTimeoutMs
  deadline : o.now < o.running.deadlineMs
  motors : ∀ motor ∈ o.all, ∃ tokens, stateTokens motor.state = .ok tokens ∧ tokens.any MotorToken.Fault = false ∧
    (tokens.any MotorToken.Active = true → motor.path ∈ o.running.motors.map RunningMotor.path)
  direction : ∀ motor ∈ o.running.motors, 0 ≤ (motor.position - motor.positionBefore) * motor.physicalSpeedDps
  progress : ∀ motor ∈ o.running.motors, ∃ checkpoint ∈ s.checkpointOf motor.role, Progressed c o.now motor checkpoint
  clear : ∀ active ∈ s.owner.active, active.forwardMotion = true → s.gate.blocked = false

theorem checkRunningMotor_direction {running : RunningMotion} {now : Int} {motor : RunningMotor}
    (h : checkRunningMotor c running now motor = .ok ()) : 0 ≤ (motor.position - motor.positionBefore) * motor.physicalSpeedDps := by
  by_contra hneg
  rw [not_le] at hneg
  have hmoved : 1 ≤ (motor.position - motor.positionBefore).natAbs := by
    by_contra hstill
    have hzero : motor.position - motor.positionBefore = 0 := by omega
    rw [hzero, zero_mul] at hneg
    exact absurd hneg (lt_irrefl 0)
  obtain ⟨tokens, _, h⟩ := bind_ok_iff.mp h
  split at h
  next => cases h
  next =>
    split at h
    next => cases h
    next =>
      rw [if_pos ⟨hmoved, hneg⟩] at h
      cases h

theorem checkObservedMotor_ok {paths : List String} {motor : MotorSnapshot} (h : checkObservedMotor paths motor = .ok ()) :
    ∃ tokens, stateTokens motor.state = .ok tokens ∧ tokens.any MotorToken.Fault = false ∧
      (tokens.any MotorToken.Active = true → motor.path ∈ paths) := by
  obtain ⟨tokens, htokens, h⟩ := bind_ok_iff.mp h
  split at h
  next => cases h
  next hfault =>
    split at h
    next => cases h
    next houtside =>
      exact ⟨tokens, htokens, by simpa using hfault, fun hactive => not_not.mp fun hn => houtside ⟨hactive, hn⟩⟩

theorem find_withCheckpoint {role other : String} (hne : other ≠ role) (position now : Int) (motors : List Motor) :
    (MotorOwner.withCheckpoint role position now motors).find? (·.role = other) = motors.find? (·.role = other) := by
  induction motors with
  | nil => rfl
  | cons motor motors ih =>
    unfold MotorOwner.withCheckpoint
    split
    next hrole =>
      have hother : (Decidable.decide (motor.role = other)) = false := by simpa [hrole] using Ne.symm hne
      rw [List.find?_cons_of_neg (by simpa using hother), List.find?_cons_of_neg (by simpa using hother)]
    next => rw [List.find?_cons, List.find?_cons, ih]

theorem progressCheckpoint_run (role : String) :
    Triple (onOwner (MotorOwner.progressCheckpoint role)) s (fun checkpoint s' => s' = s ∧ checkpoint ∈ s.checkpointOf role)
      (fun _ _ => True) := by
  refine Triple.onPart ?_
  unfold MotorOwner.progressCheckpoint MotorOwner.requireActive
  refine Triple.bind (Q := fun active o => o = s.owner ∧ s.owner.active = some active) (Triple.get_bind ?_) ?_
  · split
    next active ha => exact ⟨rfl, ha⟩
    next => trivial
  · rintro active o ⟨rfl, ha⟩
    split
    next motor hfind => exact ⟨rfl, by simp [checkpointOf, ha, hfind]⟩
    next => trivial

theorem checkProgress_run (now : Int) (motor : RunningMotor) :
    Triple (checkProgress c now motor) s
      (fun _ s' => (∃ checkpoint ∈ s.checkpointOf motor.role, Progressed c now motor checkpoint) ∧
        ∀ role ≠ motor.role, s'.checkpointOf role = s.checkpointOf role)
      (fun _ _ => True) := by
  refine Triple.bind (progressCheckpoint_run motor.role) ?_
  rintro checkpoint s ⟨rfl, hcheckpoint⟩
  refine Triple.ite (fun hprogress => ?_) fun _ => ?_
  · refine Triple.onPart (Triple.get_bind (Triple.failIf (fun _ => trivial) fun _ => Triple.modify ⟨?_, fun role hne => ?_⟩))
    · exact ⟨checkpoint, hcheckpoint, .inl hprogress⟩
    · cases ha : s.owner.active with
      | none => simp [checkpointOf, ownerPart, ha]
      | some active => simp [checkpointOf, ownerPart, ha, find_withCheckpoint hne]
  · refine Triple.check (fun _ => trivial) fun hstall => ⟨⟨checkpoint, hcheckpoint, .inr ?_⟩, fun _ _ => rfl⟩
    omega

theorem checkRunningMotors_run {running : RunningMotion} {now : Int} {motors : List RunningMotor}
    (hd : (motors.map RunningMotor.role).Nodup) :
    Triple (checkRunningMotors c running now motors) s
      (fun _ _ => ∀ motor ∈ motors, 0 ≤ (motor.position - motor.positionBefore) * motor.physicalSpeedDps ∧
        ∃ checkpoint ∈ s.checkpointOf motor.role, Progressed c now motor checkpoint)
      (fun _ _ => True) := by
  induction motors generalizing s with
  | nil => exact Triple.pure fun motor hm => by cases hm
  | cons motor motors ih =>
    obtain ⟨hother, hrest⟩ := List.nodup_cons.mp hd
    refine Triple.ofExcept_bind (fun _ _ => trivial) fun _ hok => ?_
    refine Triple.bind (checkProgress_run now motor) fun _ s₁ h₁ => (ih hrest).mono (fun _ _ hmotors m hm => ?_) fun _ _ h => h
    rcases List.mem_cons.mp hm with rfl | hm
    · exact ⟨checkRunningMotor_direction hok, h₁.1⟩
    · have hne : m.role ≠ motor.role := fun hsame => hother (hsame ▸ List.mem_map_of_mem hm)
      rw [← h₁.2 m.role hne]
      exact hmotors m hm

end EV3Supervisor

namespace MotorOwner

variable {o : MotorOwner}

def Knows (o o' : MotorOwner) : Prop := o'.active = o.active

instance : IsPreorder MotorOwner Knows where
  refl _ := rfl
  trans _ _ _ h h' := Eq.trans h' h

theorem onHw_knows (x : Io α) : Keeps Knows (onHw x) := fun _ => rfl

theorem snapshotMotors_knows (positionRoles : List String) (bindings : List MotorBinding) :
    Keeps Knows (snapshotMotors positionRoles bindings) := by
  induction bindings with
  | nil => exact .pure _
  | cons binding bindings ih =>
    exact .bind (onHw_knows _) fun _ => .bind (onHw_knows _) fun _ => .bind (onHw_knows _) fun _ => .bind ih fun _ => .pure _

theorem requireBoundTopology_knows : Keeps Knows requireBoundTopology := by
  refine .bind .get fun o => ?_
  split
  · exact .throw _
  · exact .pure _

theorem dynamicMotorSnapshots_knows (positionRoles : List String) : Keeps Knows (dynamicMotorSnapshots positionRoles) :=
  .bind (.bind .get fun _ => .failIf _ _) fun _ => .bind requireBoundTopology_knows fun _ => .bind (.failIf _ _) fun _ =>
    .bind (onHw_knows _) fun _ => .bind (.failIf _ _) fun _ => snapshotMotors_knows _ _

theorem observeMotor_role {observations : List MotorSnapshot} {motor : Motor} {running : RunningMotor}
    (h : observeMotor observations motor = .ok running) : running.role = motor.role := by
  unfold observeMotor at h
  split at h
  · cases h
    rfl
  · cases h

theorem observeMotors_roles {observations : List MotorSnapshot} {motors : List Motor} {running : List RunningMotor}
    (h : List.Forall₂ (fun motor seen => observeMotor observations motor = .ok seen) motors running) :
    running.map RunningMotor.role = motors.map Motor.role := by
  induction h with
  | nil => rfl
  | cons hmotor _ ih => rw [List.map_cons, List.map_cons, observeMotor_role hmotor, ih]

theorem activeSnapshotOf_run (observations : List MotorSnapshot) :
    Triple (activeSnapshotOf observations) o
      (fun running o' => o' = o ∧ o.roles = some (running.motors.map RunningMotor.role)) (fun _ _ => True) := by
  refine Triple.bind (requireOpen_run.mono (fun _ _ h => h) fun _ _ _ => trivial) ?_
  rintro _ o ⟨rfl, -⟩
  refine Triple.bind (Q := fun active o' => o' = o ∧ o.active = some active) (Triple.get_bind ?_) ?_
  · split
    next active ha => exact ⟨rfl, ha⟩
    next => trivial
  rintro active o ⟨rfl, ha⟩
  refine Triple.ofExcept_bind (fun _ _ => trivial) fun motors hmotors => Triple.pure ⟨rfl, ?_⟩
  simp [roles, ha, observeMotors_roles (mapM_ok_forall₂ hmotors)]

end MotorOwner

namespace EV3Supervisor

variable {c : SupervisorConfig} {s s' s'' : EV3Supervisor} {code detail : String} {made : Option StopResult}

/-- A look at the motors changes nothing of what a poll looks at. -/
structure Looks (s s' : EV3Supervisor) : Prop where
  gate : s'.gate = s.gate
  touch : s'.touchValue = s.touchValue
  active : s'.owner.active = s.owner.active

instance : IsPreorder EV3Supervisor Looks where
  refl _ := ⟨rfl, rfl, rfl⟩
  trans _ _ _ h h' := ⟨h'.gate.trans h.gate, h'.touch.trans h.touch, h'.active.trans h.active⟩

theorem checkedNowMs_looks : Keeps Looks checkedNowMs :=
  .bind (fun _ => ⟨rfl, rfl, rfl⟩) fun _ => .bind .get fun _ => .bind (.failIf _ _) fun _ =>
    .bind (.modify fun _ => ⟨rfl, rfl, rfl⟩) fun _ => .pure _

theorem observeMotion_run : Triple observeMotion s
    (fun o s' => s.Looks s' ∧ s.Same s' ∧ s.owner.roles = some (o.running.motors.map RunningMotor.role)) (fun _ => s.Same) := by
  have hactive : Keeps Looks activeMotion := by
    refine .bind .get fun s => ?_
    split
    · exact .pure _
    · exact .throw _
  refine Triple.bind (((hactive.triple s).and (activeMotion_same.triple s)).mono (fun _ _ h => h) fun _ _ h => h.2) ?_
  rintro active s₁ ⟨hl₁, h₁⟩
  have hsnapshots : Keeps Looks (onOwner (MotorOwner.dynamicMotorSnapshots (active.motors.map Motor.role))) :=
    .onPart (fun _ _ ho => ⟨rfl, rfl, ho⟩) (MotorOwner.dynamicMotorSnapshots_knows _)
  refine Triple.bind (((hsnapshots.triple s₁).and
    ((onOwner_same (MotorOwner.dynamicMotorSnapshots_same _)).triple s₁)).mono (fun _ _ h => h)
      fun _ _ h => trans_of Same h₁ h.2) ?_
  rintro all s₂ ⟨hl₂, h₂⟩
  have hs₂ := trans_of Same h₁ h₂
  have hrunning : Triple (onOwner (MotorOwner.activeSnapshotOf all)) s₂
      (fun running s' => s' = s₂ ∧ s₂.owner.roles = some (running.motors.map RunningMotor.role)) (fun _ _ => True) :=
    Triple.onPart ((MotorOwner.activeSnapshotOf_run all).mono
      (fun _ _ h => ⟨congrArg (fun owner => { s₂ with owner := owner }) h.1, h.2⟩) fun _ _ h => h)
  refine Triple.bind ((hrunning.and ((onOwner_same (MotorOwner.activeSnapshotOf_same all)).triple s₂)).mono (fun _ _ h => h.1)
    fun _ _ h => trans_of Same hs₂ h.2) ?_
  rintro running s₂ ⟨rfl, hroles⟩
  refine Triple.bind (((checkedNowMs_looks.triple s₂).and (checkedNowMs_same.triple s₂)).mono (fun _ _ h => h)
    fun _ _ h => trans_of Same hs₂ h.2) fun now s₃ h₃ => ?_
  refine Triple.pure ⟨trans_of Looks (trans_of Looks hl₁ hl₂) h₃.1, trans_of Same hs₂ h₃.2, ?_⟩
  rw [← hs₂.owner.roles, hroles]

theorem requireHeartbeat_fresh (now : Int) (e : PyError) :
    Triple (requireHeartbeat c now e) s
      (fun _ s' => s' = s ∧ ∃ age ∈ s.heartbeatAgeMs now, 0 ≤ age ∧ age < c.limits.heartbeatTimeoutMs) (fun _ _ => True) := by
  refine Triple.get_bind (Triple.check (fun _ => trivial) fun h => ⟨rfl, ?_⟩)
  unfold heartbeatIsFresh at h
  cases hage : s.heartbeatAgeMs now with
  | none => simp [hage] at h
  | some age =>
    simp only [hage, Bool.and_eq_false_iff, decide_eq_false_iff_not, not_or, not_not] at h
    exact ⟨age, rfl, h⟩

theorem judgeMotion_run {o : MotionObservation} (hd : (o.running.motors.map RunningMotor.role).Nodup)
    (ht : s.touchValue = some 0 ∨ s.touchValue = some 1) :
    Triple (judgeMotion c o) s
      (fun r _ => r = (o.running, o.now) ∧
        (o.now < o.running.deadlineMs → (∀ active ∈ s.owner.active, active.forwardMotion = true → s.gate.blocked = false) →
          SafelyRunning c s o))
      (fun _ _ => True) := by
  refine Triple.ofExcept_bind (fun _ _ => trivial) fun _ hall => Triple.get_bind (Triple.failIf (fun _ => trivial) fun htouch => ?_)
  refine Triple.bind (requireHeartbeat_fresh _ _) ?_
  rintro _ s ⟨rfl, hheartbeat⟩
  refine Triple.bind (checkRunningMotors_run hd) fun _ s₁ hmotors => Triple.pure ⟨rfl, fun hdeadline hclear => ?_⟩
  exact {
    touch := ht.resolve_right htouch
    heartbeat := hheartbeat
    deadline := hdeadline
    motors := fun motor hm => checkObservedMotor_ok (forM_ok hall motor hm)
    direction := fun motor hm => (hmotors motor hm).1
    progress := fun motor hm => (hmotors motor hm).2
    clear := hclear }

theorem readTouch_touch : Triple readTouch s (fun _ s' => s'.touchValue = some 0 ∨ s'.touchValue = some 1) (fun _ _ => True) := by
  refine Triple.bind (Triple.unknown _ _) fun value s₁ _ => Triple.failIf (fun _ => trivial) fun hvalue => ?_
  refine Triple.modify_bind (Triple.frame_bind (K := Looks) (fun _ => ⟨rfl, rfl, rfl⟩) (fun _ _ _ => trivial) ?_)
  intro _ s₂ h₂
  have htouch : s₂.touchValue = some value := h₂.touch
  refine Triple.pure ?_
  rw [htouch]
  rcases not_and_or.mp hvalue with h | h
  · exact .inl (congrArg some (not_not.mp h))
  · exact .inr (congrArg some (not_not.mp h))

/-- A look at the sensors that says something of the touch sensor. -/
def Touches (s s' : EV3Supervisor) : Prop := s'.touchValue = s.touchValue

instance : IsPreorder EV3Supervisor Touches where
  refl _ := rfl
  trans _ _ _ h h' := Eq.trans h' h

theorem checkedNowMs_touches : Keeps Touches checkedNowMs := checkedNowMs_looks.mono fun _ _ h => h.touch

theorem readInfrared_touches : Keeps Touches (readInfrared c) :=
  .bind checkedNowMs_touches fun _ =>
    .bind (.tryCatch (fun _ => rfl) fun _ => .bind (.modify fun _ => rfl) fun _ => .throw _) fun _ =>
      .bind .get fun _ => .bind (.modify fun _ => rfl) fun _ => .ofExcept _

theorem pollSensors_run : Triple (pollSensors c) s
    (fun _ s' => s.Same s' ∧ (s'.touchValue = some 0 ∨ s'.touchValue = some 1)) (fun _ => s.Same) := by
  have htouch : Triple (pollSensors c) s (fun _ s' => s'.touchValue = some 0 ∨ s'.touchValue = some 1) (fun _ _ => True) := by
    refine Triple.bind (Triple.unknown _ _) fun _ s₁ _ => Triple.bind readTouch_touch fun _ s₂ h₂ => ?_
    have hrest : Keeps Touches (do readInfrared c; let _ ← checkedNowMs; return () : Sup Unit) :=
      .bind readInfrared_touches fun _ => .bind checkedNowMs_touches fun _ => .pure _
    exact Triple.frame hrest (fun _ s₃ h₃ => by rwa [show s₃.touchValue = s₂.touchValue from h₃]) fun _ _ _ => trivial
  exact ((pollSensors_same.triple s).and htouch).mono (fun _ _ h => h) fun _ _ h => h.1

-- Polls

def Watched (c : SupervisorConfig) (s : EV3Supervisor) : Prop :=
  ∃ o s₁, (do pollSensors c; observeMotion : Sup MotionObservation) s = (.ok o, s₁) ∧ SafelyRunning c s₁ o

theorem pollMotion_run (hd : s.Distinct) (ht : s.touchValue = some 0 ∨ s.touchValue = some 1) :
    Triple (pollMotion c) s
      (fun r s' => s.Same s' ∧ (r = .goOn → ∃ o s₁, observeMotion s = (.ok o, s₁) ∧ SafelyRunning c s₁ o)) (fun _ => s.Same) := by
  suffices hwatched : Triple (pollMotion c) s
      (fun r _ => r = .goOn → ∃ o s₁, observeMotion s = (.ok o, s₁) ∧ SafelyRunning c s₁ o) (fun _ _ => True) from
    ((pollMotion_same.triple s).and hwatched).mono (fun _ _ h => h) fun _ _ h => h.1
  refine Triple.get_bind (Triple.ite (fun _ => Triple.pure (by simp)) fun hclear => ?_)
  rw [checkRunningMotion_eq, bind_bind]
  refine Triple.bind (((observeMotion_run (s := s)).and (Triple.run _ _)).mono (fun _ _ h => h) fun _ _ _ => trivial) ?_
  rintro o s₁ ⟨⟨hlooks, hsame, hroles⟩, hrun⟩
  have hnodup : (o.running.motors.map RunningMotor.role).Nodup := hd _ hroles
  refine Triple.bind (judgeMotion_run hnodup (by rwa [hlooks.touch])) ?_
  rintro _ s₂ ⟨rfl, hsafe⟩
  refine Triple.pure fun hgoes => ⟨o, s₁, hrun, hsafe ?_ ?_⟩
  · by_contra hover
    rw [if_pos (show o.now ≥ o.running.deadlineMs by omega)] at hgoes
    cases hgoes
  · intro active ha hforward
    rw [hlooks.active] at ha
    rw [hlooks.gate]
    simpa using fun hblocked => hclear ⟨⟨active, ha, hforward⟩, hblocked⟩

/-- The motion is not run any more, and was ended by a stop. -/
structure Stopped (s s' : EV3Supervisor) : Prop where
  state : s'.state ≠ .running
  ended : s.MotionEnded s'

theorem MotionEnded.idle (h : s.MotionEnded s') (hi : s'.Idle s'') : s.MotionEnded s'' := fun hm => (h hm).idle hi

theorem MotionEnded.after (h : s'.MotionEnded s'') (hs : s.Same s') : s.MotionEnded s'' := fun hm =>
  (h (hs.owner.active.trans hm)).after hs

theorem MotionEnded.of_halts {x : Sup α} {Q : α → EV3Supervisor → Prop} {E : PyError → EV3Supervisor → Prop} (hr : s.Ready)
    (hx : Triple x s Q E) (hh : s.owner.closed = false → Settles x s s.Halts) :
    Triple x s (fun a s' => Q a s' ∧ s.MotionEnded s') (fun e s' => E e s' ∧ s.MotionEnded s') := by
  cases ho : s.owner.closed with
  | false => exact (hx.and (hh ho)).mono (fun _ _ h => ⟨h.1, fun _ => h.2⟩) fun _ _ h => ⟨h.1, fun _ => h.2⟩
  | true =>
    have hnone : s.owner.active = none := hr.ownerClosed ho
    exact hx.mono (fun _ _ h => ⟨h, fun hm => by simp [hnone] at hm⟩) fun _ _ h => ⟨h, fun hm => by simp [hnone] at hm⟩

theorem Faulted.not_running (h : s.Faulted) : s.state ≠ .running := by
  obtain ⟨_, hl⟩ := h
  simp [hl.state]

theorem enterFault_stops (hr : s.Ready) : Settles (enterFault c code detail none) s s.Stopped :=
  (MotionEnded.of_halts hr (enterFault_run hr (.inl rfl)) enterFault_halts).mono (fun _ _ h => ⟨h.1.not_running, h.2⟩)
    fun _ _ h => ⟨h.1.not_running, h.2⟩

theorem MotionEnded.fault (h : s.MotionEnded s') (hr : s'.Ready) (hmade : made = none ∨ s'.owner.active = none) :
    Settles (enterFault c code detail made) s' s.Stopped :=
  ((enterFault_run hr hmade).and (enterFault_rests.triple s')).mono (fun _ _ hf => ⟨hf.1.not_running, h.idle hf.2⟩)
    fun _ _ hf => ⟨hf.1.not_running, h.idle hf.2⟩

theorem MotionEnded.of_owner (h : s.MotionEnded s') (ho : s''.owner = s'.owner) : s.MotionEnded s'' := fun hm =>
  ⟨ho ▸ (h hm).forgotten, ho ▸ (h hm).stopped⟩

theorem MotionEnded.then (h : s.MotionEnded s') {x : Sup α} (hx : Keeps Idle x) : Settles x s' s.MotionEnded :=
  (hx.triple s').mono (fun _ _ hi => h.idle hi) fun _ _ hi => h.idle hi

theorem Stopped.emits (h : s.Stopped s') (ha : Alive False s') {event : String} :
    Triple (emit c event) s' (fun _ => s.Stopped) (fun _ => s.MotionEnded) :=
  ((emit_run ha.consistent).and (h.ended.then emit_rests)).mono
    (fun _ _ hs => ⟨by rw [hs.1.state]; exact h.state, hs.2⟩) fun _ _ he => he.2

theorem Stopped.answers (h : s.Stopped s') : Settles (status c) s' s.Stopped :=
  ((status_same.triple s').and (h.ended.then status_rests)).mono (fun _ _ hs => ⟨by rw [hs.1.state]; exact h.state, hs.2⟩)
    fun _ _ hs => ⟨by rw [hs.1.state]; exact h.state, hs.2⟩

theorem stopForwardForInfrared_stops (ha : Alive False s) (hs : s.state = .running) :
    Triple (stopForwardForInfrared c) s (fun _ => s.Stopped) (fun _ s' => s.Same s' ∨ s.MotionEnded s') := by
  refine Triple.frame_bind checkedNowMs_same (fun _ _ h => .inl h) fun _ s₁ h₁ => ?_
  have ha₁ := ha.same h₁
  have hs₁ : s₁.state = .running := h₁.state.trans hs
  have hstop : Triple (finishActiveWithRetry c "infrared_obstacle_stop") s₁ (fun _ s' => s₁.Halted s' ∧ s₁.MotionEnded s')
      (fun _ s' => s₁.Halted s' ∧ s₁.MotionEnded s') :=
    MotionEnded.of_halts ha₁.ready (finishActiveWithRetry_run ha₁.consistent.ownerClosed _) fun ho => finishActiveWithRetry_halts ho _
  refine Triple.bind (hstop.mono (fun _ _ h => h) fun _ _ h => .inr (h.2.after h₁)) ?_
  rintro r s₂ ⟨h₂, hended⟩
  have hended := hended.after h₁
  refine Triple.modify_bind (Triple.ite (fun _ => Triple.modify_bind ?_) fun _ => ?_)
  · have hidle := ha₁.consistent.backToIdle (.inr hs₁) h₂.view h₂.owner.1
    have hstopped : s.Stopped { s₂ with activeCommandId := none, state := .armedIdle } := ⟨nofun, hended.of_owner rfl⟩
    refine Triple.bind ((hstopped.emits hidle).mono (fun _ _ h => h) fun _ _ h => .inr h) fun _ _ h => ?_
    exact h.answers.mono (fun _ _ h => h) fun _ _ h => .inr h.ended
  · have hready : Ready { s₂ with activeCommandId := none } :=
      ⟨fun hf => by simp [h₂.state.trans hs₁] at hf, (ha₁.ready.halted h₂).ownerClosed, (ha₁.ready.halted h₂).isOpen⟩
    have hended : s.MotionEnded { s₂ with activeCommandId := none } := hended.of_owner rfl
    refine Triple.bind ((hended.fault hready (.inr h₂.owner.1)).mono (fun _ _ h => h) fun _ _ h => .inr h.ended) fun _ _ h => ?_
    exact h.answers.mono (fun _ _ h => h) fun _ _ h => .inr h.ended

theorem completeMotion_stops (ha : Alive False s) (hs : s.state = .running) :
    Triple (completeMotion c) s (fun _ => s.Stopped) (fun _ => s.MotionEnded) := by
  have hforgot : Settles (onOwner (MotorOwner.finishActive c.toRobotConfig true)) s s.Halted :=
    Triple.onPart ((MotorOwner.finishActive_run ha.ready.ownerClosed true).mono (fun _ _ h => ⟨rfl, h⟩) fun _ _ h => ⟨rfl, h⟩)
  refine Triple.bind ((MotionEnded.of_halts ha.ready hforgot fun ho => finishActive_halts ho true).mono (fun _ _ h => h)
    fun _ _ h => h.2) ?_
  rintro result s₁ ⟨h₁, hended⟩
  refine Triple.ite (fun _ => ?_) fun _ => Triple.modify_bind ?_
  · exact (hended.fault (ha.ready.halted h₁) (.inr h₁.owner.1)).mono (fun _ _ h => h) fun _ _ h => h.ended
  · have hstopped : s.Stopped { s₁ with activeCommandId := none, state := .armedIdle } := ⟨nofun, hended.of_owner rfl⟩
    exact hstopped.emits (ha.consistent.backToIdle (.inr hs) h₁.view h₁.owner.1)

theorem Stopped.after (h : s'.Stopped s'') (hs : s.Same s') : s.Stopped s'' := ⟨h.state, h.ended.after hs⟩

theorem pollRunning_polls (ha : Alive False s) (hs : s.state = .running) (hd : s.Distinct)
    (ht : s.touchValue = some 0 ∨ s.touchValue = some 1) :
    Triple (pollRunning c) s
      (fun _ s' => (s.Same s' ∧ ∃ o s₁, observeMotion s = (.ok o, s₁) ∧ SafelyRunning c s₁ o) ∨ s.Stopped s')
      (fun _ s' => s.Same s' ∨ s.MotionEnded s') := by
  refine Triple.bind ((pollMotion_run hd ht).mono (fun _ _ h => h) fun _ _ h => .inl h) ?_
  rintro poll s₁ ⟨h₁, hsafe⟩
  have ha₁ := ha.same h₁
  have hs₁ : s₁.state = .running := h₁.state.trans hs
  cases poll with
  | obstacle =>
    refine Triple.bind ((stopForwardForInfrared_stops ha₁ hs₁).mono (fun _ _ h => h) ?_) ?_
    · exact fun _ _ h => h.imp (trans_of Same h₁) fun h => h.after h₁
    · exact fun status s' h => Triple.pure (.inr (h.after h₁))
  | complete =>
    refine Triple.bind ((completeMotion_stops ha₁ hs₁).mono (fun _ _ h => h) fun _ _ h => .inr (h.after h₁)) ?_
    exact fun _ _ h => Triple.pure (.inr (h.after h₁))
  | goOn => exact Triple.pure (.inl ⟨h₁, hsafe rfl⟩)

theorem pollUnfaulted_polls (ha : Alive False s) (hs : s.state = .running) (hd : s.Distinct) :
    Triple (pollUnfaulted c) s (fun _ s' => (s.Same s' ∧ s.Watched c) ∨ s.Stopped s') (fun _ s' => s.Same s' ∨ s.MotionEnded s') := by
  refine Triple.bind ((pollSensors_run.and (Triple.run _ _)).mono (fun _ _ h => h) fun _ _ h => .inl h.1) ?_
  rintro _ s₁ ⟨⟨h₁, htouch⟩, hrun⟩
  refine Triple.get_bind ?_
  rw [show s₁.state = .running from h₁.state.trans hs]
  refine (pollRunning_polls (ha.same h₁) (h₁.state.trans hs) (hd.same h₁) htouch).mono (fun answer s' h => ?_) fun _ _ h => ?_
  · rcases h with ⟨h, o, s₂, hobserve, hsafe⟩ | h
    · exact .inl ⟨trans_of Same h₁ h, o, s₂, by rw [bind_run, hrun]; exact hobserve, hsafe⟩
    · exact .inr (h.after h₁)
  · exact h.imp (trans_of Same h₁) fun h => h.after h₁

theorem pollFailed_stops {e : PyError} (hr : s'.Ready) (h : s.Same s' ∨ s.MotionEnded s') :
    Triple (pollFailed c e) s' (fun _ => s.Stopped) (fun e s'' => s.MotionEnded s'' ∨ e.kind = .other) := by
  refine Triple.ite (fun _ => ?_) fun hn => Triple.throw (.inr (not_not.mp hn))
  have hfault : Settles (enterFault c (e.codeOr "poll_failure") e.message none) s' s.Stopped := by
    rcases h with h | h
    · exact (enterFault_stops hr).mono (fun _ _ hs => hs.after h) fun _ _ hs => hs.after h
    · exact h.fault hr (.inl rfl)
  exact Triple.bind (hfault.mono (fun _ _ h => h) fun _ _ h => .inl h.ended) fun _ _ h => Triple.pure h

-- Answers

def Tells (x : Sup SupervisorStatus) : Prop := ∀ s, Triple x s (fun status s' => status.state = s'.state) (fun _ _ => True)

theorem Tells.next {x : Sup α} {f : α → Sup SupervisorStatus} (hf : ∀ a, Tells (f a)) : Tells (x >>= f) := fun s =>
  Triple.bind (Triple.unknown x s) fun a s' _ => hf a s'

theorem Tells.ite {p : Prop} [Decidable p] {x y : Sup SupervisorStatus} (hx : Tells x) (hy : Tells y) :
    Tells (if p then x else y) := fun s => Triple.ite (fun _ => hx s) fun _ => hy s

theorem status_tells : Tells (status c) := fun s =>
  Triple.bind (Triple.unknown _ s) fun _ _ _ => Triple.get_bind (Triple.pure rfl)

theorem stopForwardForInfrared_tells : Tells (stopForwardForInfrared c) :=
  .next fun _ => .next fun _ => .next fun _ => .ite (.next fun _ => .next fun _ => status_tells) (.next fun _ => status_tells)

theorem pollFault_tells : Tells (pollFault c) :=
  .next fun _ => .next fun _ => .next fun _ => .next fun _ => status_tells

theorem pollRunning_tells :
    Triple (pollRunning c) s (fun answer s' => ∀ status ∈ answer, status.state = s'.state) (fun _ _ => True) := by
  refine Triple.bind (Triple.unknown _ _) fun poll s₁ _ => ?_
  cases poll with
  | obstacle => exact Triple.bind (stopForwardForInfrared_tells s₁) fun _ _ h => Triple.pure (by simpa using h)
  | complete => exact Triple.bind (Triple.unknown _ _) fun _ _ _ => Triple.pure (by simp)
  | goOn => exact Triple.pure (by simp)

theorem pollUnfaulted_tells :
    Triple (pollUnfaulted c) s (fun answer s' => ∀ status ∈ answer, status.state = s'.state) (fun _ _ => True) := by
  refine Triple.bind (Triple.unknown _ _) fun _ s₁ _ => Triple.get_bind ?_
  have hnone {x : Sup Unit} : Triple (do x; return none : Sup (Option SupervisorStatus)) s₁
      (fun answer s' => ∀ status ∈ answer, status.state = s'.state) (fun _ _ => True) :=
    Triple.bind (Triple.unknown _ _) fun _ _ _ => Triple.pure (by simp)
  split
  next => exact pollRunning_tells
  next => exact hnone
  next => exact hnone
  next => exact Triple.pure (by simp)

theorem pollOnce_tells : Tells (pollOnce c) := by
  refine .next fun _ => .next fun s => .next fun _ => .ite pollFault_tells fun s₁ => ?_
  have hfailed (e : PyError) (s₂ : EV3Supervisor) : Triple (pollFailed c e) s₂
      (fun answer s' => ∀ status ∈ answer, status.state = s'.state) (fun _ _ => True) :=
    Triple.ite (fun _ => Triple.bind (Triple.unknown _ _) fun _ _ _ => Triple.pure (by simp)) fun _ => Triple.throw trivial
  refine Triple.bind (Triple.tryCatch pollUnfaulted_tells fun e s₂ _ => hfailed e s₂) fun answer s₂ h₂ => ?_
  cases answer with
  | some status => exact Triple.pure (h₂ status rfl)
  | none => exact status_tells s₂

-- Every poll

theorem MotionEnded.of_none (h : s.owner.active = none) : s.MotionEnded s' := fun hm => by simp [h] at hm

theorem pollOnce_stays (hc : Consistent False s) (hs : s.state ≠ .running) :
    Triple (pollOnce c) s (fun _ s' => s'.state ≠ .running) (fun _ _ => True) := by
  have hstrict : Consistent True s := { hc with moving := fun _ h => absurd h hs }
  have hidle : Keeps Idle (pollOnce c) := pollOnce_rests
  refine ((pollOnce_run hstrict fun _ => not_running_caught hs).and (hidle.triple s)).mono ?_ fun _ _ _ => trivial
  rintro status s' ⟨hc', hi⟩ hrunning
  have hmoving := hc'.moving trivial hrunning
  rcases hi.motion with hnone | hsame
  · simp [hnone] at hmoving
  · simp [MotorOwner.roles, (hc.idle hs).1] at hsame
    simp [hsame] at hmoving

/-- What is promised of a poll on the dispatch thread. -/
structure Supervised (c : SupervisorConfig) (s : EV3Supervisor) : Prop where
  /-- It answers that the motion runs only after it saw that it is safe, and
  everything else after the motion is over. -/
  answers : ∀ status s', pollOnce c s = (.ok status, s') →
    (status.state = .running ∧ s.Watched c) ∨ (status.state ≠ .running ∧ s.MotionEnded s')
  /-- An error it catches ends the motion; one of the clock read for the answer
  comes after a look at the motion. -/
  errors : ∀ e s', pollOnce c s = (.error e, s') → e.IsPollError →
    s.MotionEnded s' ∨ (s.Watched c ∧ ∃ s₁, status c s₁ = (.error e, s'))

theorem pollOnce_polls (hc : Consistent False s) (hd : s.Distinct) (hthread : s.OnDispatchThread) :
    Triple (pollOnce c) s
      (fun status s' => (status.state = .running ∧ s.Watched c) ∨ (status.state ≠ .running ∧ s.MotionEnded s'))
      (fun e s' => s.MotionEnded s' ∨ (s.Watched c ∧ ∃ s₁, status c s₁ = (.error e, s')) ∨ e.kind = .other) := by
  by_cases hs : s.state = .running
  case neg =>
    have hended {s'} : s.MotionEnded s' := .of_none (hc.idle hs).1
    refine ((pollOnce_stays hc hs).and (pollOnce_tells s)).mono (fun status s' hp => .inr ⟨?_, hended⟩) fun _ _ _ => .inl hended
    rw [hp.2]
    exact hp.1
  have ha : Alive False s := ⟨hc, hc.open_of_armed (.inr hs)⟩
  suffices hpoll : Triple (pollOnce c) s (fun _ s' => (s.Same s' ∧ s.Watched c) ∨ s.Stopped s')
      (fun e s' => s.MotionEnded s' ∨ (s.Watched c ∧ ∃ s₁, status c s₁ = (.error e, s')) ∨ e.kind = .other) by
    refine (hpoll.and (pollOnce_tells s)).mono (fun status s' hp => ?_) fun _ _ hp => hp.1
    rw [hp.2]
    rcases hp.1 with ⟨hsame, hwatched⟩ | hstopped
    · exact .inl ⟨hsame.state.trans hs, hwatched⟩
    · exact .inr ⟨hstopped.state, hstopped.ended⟩
  refine Triple.step (requireDispatchThread_ok hthread) (Triple.get_bind ?_)
  refine Triple.failIf (fun hclosed => by simp [ha.isOpen] at hclosed) fun _ => ?_
  refine Triple.ite (fun hf => by simp [hs] at hf) fun _ => ?_
  have hunfaulted : Triple (pollUnfaulted c) s (fun _ s' => (s.Same s' ∧ s.Watched c) ∨ s.Stopped s')
      (fun e s' => Recoverable False e s' ∧ (s.Same s' ∨ s.MotionEnded s')) :=
    ((pollUnfaulted_run ha fun hn => hn.elim).and (pollUnfaulted_polls ha hs hd)).mono
      (fun _ _ hp => hp.2) fun _ _ hp => hp
  have hhandled : Triple (tryCatch (pollUnfaulted c) (pollFailed c)) s (fun _ s' => (s.Same s' ∧ s.Watched c) ∨ s.Stopped s')
      (fun e s' => s.MotionEnded s' ∨ e.kind = .other) :=
    Triple.tryCatch hunfaulted fun e s₁ hp => (pollFailed_stops hp.1.ready hp.2).mono (fun _ _ hstopped => .inr hstopped) fun _ _ he => he
  refine Triple.bind (hhandled.mono (fun _ _ hp => hp) fun _ _ he => he.imp_right .inr) fun answer s₁ hp => ?_
  cases answer with
  | some status => exact Triple.pure hp
  | none =>
    rcases hp with ⟨hsame, hwatched⟩ | hstopped
    · exact ((status_same.triple s₁).and (Triple.run _ _)).mono (fun _ _ ha => .inl ⟨trans_of Same hsame ha.1, hwatched⟩)
        fun _ _ he => .inr (.inl ⟨hwatched, s₁, he.2⟩)
    · exact hstopped.answers.mono (fun _ _ ha => .inr ha) fun _ _ he => .inl he.ended

def turningCalls (durationMs : Int) : List SupervisorCall :=
  turnCalls.take 5 ++ [.startDrive { turn with durationMs := durationMs } uncheckedStart]

def turning (durationMs : Int) (hw : Hardware) : EV3Supervisor :=
  ((ev3Supervisor ev3rstorm).runList (booted hw) (turningCalls durationMs)).2

theorem turning_runs (durationMs : Int) (hw : Hardware) : (ev3Supervisor ev3rstorm).Runs Machine.always (booted hw)
    ((ev3Supervisor ev3rstorm).runList (booted hw) (turningCalls durationMs)).1 (turning durationMs hw) :=
  Machine.runs_runList (Machine.stepsOk_always _ _ (turningCalls durationMs))

/-- The same supervisor, called from the given thread. -/
def calledFrom (thread : Nat) (s : EV3Supervisor) : EV3Supervisor :=
  { s with owner := { s.owner with hw := { s.owner.hw with thread := thread } } }

theorem pollOnce_refused (h : ¬ s.OnDispatchThread) :
    pollOnce c s = (.error (supervisorError "wrong_dispatch_thread" "Mutation must run on the supervisor dispatch thread"), s) := by
  have hthread : s.dispatchThreadId ≠ s.owner.hw.thread := h
  simp [pollOnce, requireDispatchThread, bind_run, failIf, hthread]

def running (position : Int) : Answer := { quiet 310 with text := .ok "running", number := .ok position }

/-- The first poll of the turn finds its progress 310 ms after it began. -/
def lateHardware : Hardware :=
  answering
    (bootAnswers ++ [named 0 "session"] ++ List.replicate 157 (quiet 0) ++ List.replicate 12 (quiet 310) ++
      [running (-20), running (-20), quiet 310, running 20, running 20])
    310

/-- Whether a motor was seen whose checkpoint is older than a stall window. -/
def overdue (c : SupervisorConfig) : Except PyError MotionObservation × EV3Supervisor → Bool
  | (.ok o, s) => o.running.motors.any fun motor => (s.checkpointOf motor.role).any fun checkpoint =>
      c.limits.stallWindowMs < o.now - checkpoint.2
  | (.error _, _) => false

theorem overdue_seen {x : Except PyError MotionObservation × EV3Supervisor} (h : overdue c x = true) :
    ∃ o s, x = (.ok o, s) ∧ ∃ motor ∈ o.running.motors, ∃ checkpoint ∈ s.checkpointOf motor.role,
      c.limits.stallWindowMs < o.now - checkpoint.2 := by
  obtain ⟨_ | o, s⟩ := x
  · cases h
  · simp only [overdue, List.any_eq_true, Option.any_eq_true, decide_eq_true_eq] at h
    exact ⟨o, s, rfl, h⟩

theorem answered_of_state {x : Except PyError SupervisorStatus × EV3Supervisor} {state : SupervisorState}
    (h : x.1.toOption.map SupervisorStatus.state = some state) : ∃ status s, x = (.ok status, s) ∧ status.state = state := by
  obtain ⟨_ | status, s⟩ := x
  · cases h
  · exact ⟨status, s, rfl, Option.some.inj h⟩

end EV3Supervisor

end RobotLlm.Ev3
