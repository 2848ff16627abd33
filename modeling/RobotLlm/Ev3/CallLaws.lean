import RobotLlm.Ev3.StartLaws

/-!
# What the calls leave alone

A relation that the looks of the supervisor respect, its stops and its faults,
and the few things a request changes of its session, is respected by every
call but two: a claim names a session, and a drive starts a motion.
-/

namespace RobotLlm.Ev3

open RobotLlm.Lib Prog

namespace EV3Supervisor

/-- A relation that the requests of a session respect too. -/
class Attendant (K : EV3Supervisor → EV3Supervisor → Prop) : Prop extends Bystander K where
  consumes (s : EV3Supervisor) (sequenceId : Int) : K s { s with lastSequenceId := sequenceId }
  beats (s : EV3Supervisor) (now sequenceId : Int) :
    K s { s with lastHeartbeatMs := some now, lastHeartbeatSequence := some sequenceId }
  remembers (s : EV3Supervisor) (commandIds : List String) : K s { s with seenCommandIds := commandIds }

variable {c : SupervisorConfig} {K : EV3Supervisor → EV3Supervisor → Prop} [Attendant K]

theorem consumeSequence_attends (sequenceId : Int) : Keeps K (consumeSequence sequenceId) :=
  .bind (validateSequence_rests _) fun _ => .modify fun s => Attendant.consumes s sequenceId

theorem heartbeat_attends (sessionId : String) (sequenceId : Int) : Keeps K (heartbeat c sessionId sequenceId) :=
  .bind requireDispatchThread_rests fun _ => .bind (requireState_rests _) fun _ => .bind (requireSession_rests _) fun _ =>
    .bind (consumeSequence_attends _) fun _ => .bind nowMs_rests fun _ => .bind (.modify fun s => Attendant.beats s _ _) fun _ =>
      .bind emit_rests fun _ => .pure _

theorem arm_attends (sessionId : String) (sequenceId : Int) : Keeps K (arm c sessionId sequenceId) :=
  .bind requireDispatchThread_rests fun _ => .bind (requireState_rests _) fun _ => .bind (requireSession_rests _) fun _ =>
    .bind (validateSequence_rests _) fun _ => .bind (revalidate_rests _) fun _ => .bind pollOnce_rests fun _ =>
      .bind (requireState_rests _) fun _ => .bind checkedNowMs_rests fun _ => .bind (requireHeartbeat_rests _ _) fun _ =>
        .bind (requireTouchStable_rests _) fun _ => .bind checkIdleMotors_rests fun _ => .bind checkedNowMs_rests fun _ =>
          .bind (requireHeartbeat_rests _ _) fun _ => .bind (consumeSequence_attends _) fun _ =>
            .bind (modify_rests (fun _ => rfl) fun _ => rfl) fun _ => emitStatus_rests

theorem acceptDrive_attends (d : DriveCommand) (guard : StartGuard) : Keeps K (acceptDrive c d guard) :=
  .bind (revalidate_rests _) fun _ => .bind pollOnce_rests fun _ => .bind (requireState_rests _) fun _ =>
    .bind checkedNowMs_rests fun _ => .bind (requireHeartbeat_rests _ _) fun _ => .bind (requireTouchReleased_rests _) fun _ =>
      .bind (requireInfraredIf_rests _) fun _ => .bind (io_rests (Hardware.Grew.keeps_grew guard.reads)) fun _ =>
        .bind (consumeSequence_attends _) fun _ => .bind (.modify fun s => Attendant.remembers s _) fun _ => emit_rests

theorem checkDrive_attends (d : DriveCommand) : Keeps K (checkDrive c d) :=
  .bind requireDispatchThread_rests fun _ => .bind (requireState_rests _) fun _ => .bind (requireSession_rests _) fun _ =>
    .bind (validateSequence_rests _) fun _ => .bind (.ofExcept _) fun _ => .bind .get fun _ => .bind (.failIf _ _) fun _ =>
      .bind (.failIf _ _) fun _ => .bind (.ofExcept _) fun _ => .bind (.failIf _ _) fun _ => .bind (.failIf _ _) fun _ =>
        .mapError (onOwner_same_rests (MotorOwner.validateDrive_same _ _ _ _)) _

theorem startDrive_attends (d : DriveCommand) (guard : StartGuard) (hstart : Keeps K (startMotion c d guard)) :
    Keeps K (startDrive c d guard) :=
  .bind (checkDrive_attends d) fun _ => .bind (acceptDrive_attends d guard) fun _ =>
    .bind (.tryCatch (prestart_rests d guard) fun _ => prestartFailed_rests _) fun _ =>
      .bind (.tryCatch hstart fun _ => motorStartFailed_rests _) fun _ =>
        .bind (modify_rests (fun _ => rfl) fun _ => rfl) fun _ => .bind activeMotion_rests fun _ =>
          .bind (.tryCatch (poststart_rests d _ guard) fun _ => poststartFailed_rests _) fun _ => emitStatus_rests

theorem release_attends (sessionId : String) (sequenceId : Int) : Keeps K (release c sessionId sequenceId) :=
  .bind requireDispatchThread_rests fun _ => .bind (requireState_rests _) fun _ => .bind (requireSession_rests _) fun _ =>
    .bind (consumeSequence_attends _) fun _ => .bind (finishActiveWithRetry_rests _) fun _ =>
      .bind (forget_rests (fun _ => rfl) fun _ => rfl) fun _ =>
        .ite (.bind (modify_rests (fun _ => rfl) fun _ => rfl) fun _ => emitStatus_rests)
          (.bind enterFault_rests fun _ => .bind status_rests fun _ => .pure _)

theorem resetFault_attends : Keeps K (resetFault c) := by
  refine .bind requireDispatchThread_rests fun _ => .bind (requireState_rests _) fun _ => .bind .get fun _ =>
    .bind (.failIf _ _) fun _ => .bind pollOnce_rests fun _ => .bind (requireState_rests _) fun _ => .bind .get fun _ =>
      .bind (.failIf _ _) fun _ => .bind ?_ fun _ => .bind (requireTouchStable_rests _) fun _ =>
        .bind (onOwner_same_rests (MotorOwner.stopAllVerified_same _)) fun _ => .bind (.failIf _ _) fun _ =>
          .bind (modify_rests (fun _ => rfl) fun _ => rfl) fun _ => emitStatus_rests
  exact .tryCatch
    (.bind (onOwner_same_rests MotorOwner.revalidateTopology_same) fun _ => .bind readTouch_rests fun _ => readInfrared_rests)
    fun _ => .ite (.throw _) (.throw _)

/-- The calls that neither name a session nor start a motion. -/
def Plain : SupervisorCall → Prop
  | .claim _ | .startDrive _ _ => False
  | _ => True

theorem perform_attends {call : SupervisorCall} (hcall : Plain call) : Keeps K (perform c call) := by
  cases call with
  | claim ownerId => exact hcall.elim
  | heartbeat sessionId sequenceId => exact heartbeat_attends sessionId sequenceId
  | arm sessionId sequenceId => exact arm_attends sessionId sequenceId
  | startDrive command guard => exact hcall.elim
  | stop => exact stop_rests
  | release sessionId sequenceId => exact release_attends sessionId sequenceId
  | resetFault => exact resetFault_attends
  | pollOnce => exact .bind pollOnce_rests fun _ => .pure _
  | close => exact .bind close_rests fun _ => .pure _
  | drainAuditEvents => exact .bind (modify_rests (fun _ => rfl) fun _ => rfl) fun _ => .bind status_rests fun _ => .pure _

end EV3Supervisor

end RobotLlm.Ev3
