import Mathlib.Algebra.Group.Int.Defs
import Mathlib.Algebra.Group.Prod
import Mathlib.Algebra.Order.Ring.Rat
import RobotLlm.Blast.MotionExecution
import RobotLlm.Blast.MotionResultLaws

/-!
# No encoder motion is lost

Over the calls of an executor, the anchor stands where the last call that
returned left the encoders, and the motions integrated add up to the way the
anchor went. A call that raises leaves the anchor where it was, unless it
raises after the anchor moved: in the fusion of the IMU's heading.
-/

namespace RobotLlm.Blast

open RobotLlm.Lib RobotLlm.Odometry RobotLlm.Hazard

-- What a call integrates

def encoderDeltas (motion : VerifiedMotion) : Angles := (motion.leftEncoderDeltaDegrees, motion.rightEncoderDeltaDegrees)

/-- The final encoder angles of the last result of a call. -/
def MotionExecution.finalAngles (x : MotionExecution) : Option Angles :=
  x.controllerResults.getLast?.bind fun last => (finalAnglesOf last).toOption

abbrev MotionHistory := List (MotionCall × Except Fault MotionExecution)

/-- Where the last call that returned left the encoders. -/
def lastReturned (start : Angles) : MotionHistory → Option Angles
  | [] => some start
  | (_, .ok x) :: _ => x.finalAngles
  | (_, .error _) :: h => lastReturned start h

/-- The encoder deltas that the calls of a history integrated. -/
def integrated : MotionHistory → Angles
  | [] => 0
  | (_, .ok x) :: h => encoderDeltas x.motion + integrated h
  | (_, .error _) :: h => integrated h

/-- The last answer that the controller gives in a call of so many commands,
before a cancellation, an error or a stop. -/
def MotionCall.lastAnswer (call : MotionCall) : (commands index : Nat) → (latest : Option Json) → Option Json
  | 0, _, latest => latest
  | commands + 1, index, latest =>
    match call.cancelRequested index, call.command index with
    | .ok false, .ok (.obj fields) =>
      match call.continueRequested index with
      | .ok true => call.lastAnswer commands (index + 1) (some (.obj fields))
      | _ => some (.obj fields)
    | _, _ => latest

section
variable (F : Type) [PyFloat F]

/-- The heading of the last answer can be read, and its change since the
snapshot is a number. -/
def MotionCall.HeadingFuses (call : MotionCall) : Prop :=
  ∀ commands pulses snapshot start answer, blastNavigationCommands call.action = some commands →
    callCommands call commands = .ok pulses → call.snapshot = .ok snapshot → headingOf F snapshot = .ok start →
    call.lastAnswer pulses.length 0 none = some answer →
    ∃ heading, headingOf F answer = .ok heading ∧
      ∀ delta, scanHeadingDelta F heading start = some delta → ∃ mdeg, deltaMdeg F delta = .ok mdeg

variable {F}

theorem finalAnglesOf_encoderAngles {last : Json} (h : encoderAngles (last.get? "observation") = .ok final) :
    finalAnglesOf last = .ok final := by
  unfold encoderAngles at h
  unfold finalAnglesOf
  split at h
  next fields heq =>
    rw [heq]
    split at h
    next hangles => cases h; exact hangles
    next => cases h
  next => cases h

theorem validatedResult_ok {s : MotionExecutor} {results : List Json}
    (h : validatedResult F s action results = .ok (final, motion, pose)) :
    ∃ last, results.getLast? = some last ∧ finalAnglesOf last = .ok final ∧
      encoderDeltas motion = final - s.expectedStartAngles := by
  unfold validatedResult at h
  cases hl : results.getLast? with
  | none => rw [hl] at h; cases h
  | some last =>
    rw [hl] at h
    obtain ⟨found, hfound, h⟩ := bind_ok_iff.mp h
    obtain ⟨canonical, -, h⟩ := bind_ok_iff.mp h
    obtain ⟨built, hbuilt, h⟩ := bind_ok_iff.mp h
    obtain ⟨read, hread, h⟩ := bind_ok_iff.mp h
    obtain ⟨moved, -, h⟩ := bind_ok_iff.mp h
    cases h
    obtain ⟨motion', start, last', final', hm, hstart, hl', hf, hd⟩ := verifiedMotion_of_build hbuilt
    have hfinal := finalAnglesOf_encoderAngles hfound
    have hs : angles true (some (anglesJson s.expectedStartAngles)) = .ok s.expectedStartAngles := by
      simp [angles, anglesJson, Json.HasKeys, driveRoles, List.lookup_cons, List.lookup_nil]
    rw [hl] at hl'
    cases hl'
    rw [hm] at hread
    rw [hs] at hstart
    rw [hfinal] at hf
    cases hread
    cases hstart
    cases hf
    exact ⟨last, rfl, hfinal, hd⟩

-- One call

theorem runPulses_last {s : MotionExecutor} {call : MotionCall} {commands : List PulseCommand} {results : List Json}
    (h : validatedResult F s call.action (runPulses F s call commands index results).results = .ok v) :
    (runPulses F s call commands index results).results.getLast? =
      call.lastAnswer commands.length index results.getLast? := by
  induction commands generalizing index results with
  | nil => rfl
  | cons command commands ih =>
    rw [List.length_cons]
    simp only [runPulses, MotionCall.lastAnswer] at h ⊢
    cases hcancel : call.cancelRequested index with
    | error e => rfl
    | ok cancelled =>
      cases cancelled with
      | true => dsimp only; split <;> rfl
      | false =>
        cases hcommand : call.command index with
        | error e => rfl
        | ok answer =>
          cases answer with
          | obj fields =>
            simp only [hcancel, hcommand] at h ⊢
            by_cases hlast : commands = []
            · subst hlast
              simp only [if_true, List.length_nil, MotionCall.lastAnswer]
              cases hc : call.continueRequested index with
              | error e => simp
              | ok more => cases more <;> simp
            · simp only [if_neg hlast] at h ⊢
              cases hv : validatedResult F s call.action (results ++ [.obj fields]) with
              | error e =>
                simp only [hv] at h
                cases h
              | ok v' =>
                simp only [hv] at h ⊢
                cases hc : call.continueRequested index with
                | error e => simp
                | ok more =>
                  cases more with
                  | false => simp
                  | true =>
                    simp only [hc] at h ⊢
                    simpa using ih h
          | _ => rfl

theorem recover_triple (attempted : Bool) (results : List Json)
    (validated : Except Fault (Angles × VerifiedMotion × PhysicalPose)) (e : Fault) (s : MotionExecutor) :
    Prog.Triple (recover attempted results validated e) s (fun v s' => s' = s ∧ validated = .ok v)
      (fun _ s' => s'.expectedStartAngles = s.expectedStartAngles) := by
  have hraise : ∀ e : Fault, Prog.Triple (do
      if attempted then modify fun s : MotionExecutor => { s with localizationValid := false }
      throw e : Prog MotionExecutor Fault (Angles × VerifiedMotion × PhysicalPose)) s
      (fun v s' => s' = s ∧ validated = .ok v) (fun _ s' => s'.expectedStartAngles = s.expectedStartAngles) := by
    intro e
    cases attempted with
    | true => exact Prog.Triple.modify_bind rfl
    | false => exact rfl
  cases e with
  | controller code message motionStarted =>
    refine Prog.Triple.ite (fun _ => ?_) fun _ => hraise _
    refine Prog.Triple.ite (fun _ => rfl) fun _ => ?_
    refine Prog.Triple.ofExcept ?_
    cases validated with
    | ok v => exact ⟨rfl, rfl⟩
    | error _ => rfl
  | contract code message => exact hraise _
  | python error => exact hraise _

theorem acceptPulses_triple (pulses : PulsesEnd) (validated : Except Fault (Angles × VerifiedMotion × PhysicalPose))
    (s : MotionExecutor) :
    Prog.Triple (acceptPulses pulses validated) s (fun v s' => s' = s ∧ validated = .ok v)
      (fun _ s' => s'.expectedStartAngles = s.expectedStartAngles) := by
  unfold acceptPulses
  split
  next accepted _ => exact ⟨rfl, rfl⟩
  next e _ => exact recover_triple _ _ _ _ s
  next e _ => exact recover_triple _ _ _ _ s

theorem normalizeHeadingMdeg_range (value : Int) :
    -180000 ≤ Odometry.normalizeHeadingMdeg value ∧ Odometry.normalizeHeadingMdeg value ≤ 179999 := by
  unfold Odometry.normalizeHeadingMdeg
  omega

theorem reanchorHeading_triple (value : Int) (s : MotionExecutor) :
    Prog.Triple (reanchorHeading (Odometry.normalizeHeadingMdeg value)) s
      (fun _ s' => s'.expectedStartAngles = s.expectedStartAngles) (fun _ _ => False) := by
  refine Prog.Triple.get_bind ?_
  obtain ⟨pose, hpose⟩ : ∃ pose, newPose s.pose.xMm s.pose.yMm (Odometry.normalizeHeadingMdeg value) s.pose.verifiedMotionCount
      s.pose.totalForwardMm s.pose.totalTurnMdeg = .ok pose := by
    simp [newPose, PhysicalPose.new, normalizeHeadingMdeg_range, s.pose.totals_valid, Except.mapError]
  rw [hpose]
  exact rfl

theorem fuseHeading_triple {startImu heading : Option F} {startHeading : Int} {last : Json} {motion : VerifiedMotion}
    (hheading : headingOf F last = .ok heading)
    (hdelta : ∀ delta, scanHeadingDelta F heading startImu = some delta → ∃ mdeg, deltaMdeg F delta = .ok mdeg)
    (s : MotionExecutor) :
    Prog.Triple (fuseHeading F startImu startHeading last motion) s
      (fun _ s' => s'.expectedStartAngles = s.expectedStartAngles) (fun _ _ => False) := by
  unfold fuseHeading
  rw [hheading]
  refine Prog.Triple.step rfl ?_
  split
  next delta hd =>
    obtain ⟨mdeg, hm⟩ := hdelta delta hd
    rw [hm]
    exact Prog.Triple.ite (fun _ => Prog.Triple.step rfl (reanchorHeading_triple _ s)) fun _ => rfl
  next => exact rfl

theorem commit_triple {startImu heading : Option F} {startHeading : Int} {results : List Json} {last : Json}
    {motion : VerifiedMotion} (hl : results.getLast? = some last) (hheading : headingOf F last = .ok heading)
    (hdelta : ∀ delta, scanHeadingDelta F heading startImu = some delta → ∃ mdeg, deltaMdeg F delta = .ok mdeg)
    (s : MotionExecutor) :
    Prog.Triple (commit F startImu startHeading results (final, motion, pose)) s
      (fun x s' => x.controllerResults = results ∧ x.motion = motion ∧ s'.expectedStartAngles = final)
      (fun _ _ => False) := by
  refine Prog.Triple.modify_bind ?_
  rw [hl]
  refine Prog.Triple.bind (fuseHeading_triple hheading hdelta _) fun _ s' hs' => ?_
  exact Prog.Triple.get_bind (Prog.Triple.pure ⟨rfl, rfl, hs'⟩)

theorem execute_triple (call : MotionCall) (hf : call.HeadingFuses F) (s : MotionExecutor) :
    Prog.Triple (execute F call) s
      (fun x s' => x.finalAngles = some s'.expectedStartAngles ∧
        encoderDeltas x.motion = s'.expectedStartAngles - s.expectedStartAngles)
      (fun _ s' => s'.expectedStartAngles = s.expectedStartAngles) := by
  unfold execute
  refine Prog.Triple.get_bind ?_
  cases hcommands : blastNavigationCommands call.action with
  | none => exact rfl
  | some commands =>
    refine Prog.Triple.failIf (fun _ => rfl) fun _ => ?_
    cases hsnapshot : call.snapshot with
    | error e => exact rfl
    | ok snapshot =>
      refine Prog.Triple.step rfl ?_
      cases himu : headingOf F snapshot with
      | error e => exact rfl
      | ok startImu =>
        refine Prog.Triple.step rfl ?_
        cases encoderAngles (snapshot.get? "observation") with
        | error e => exact rfl
        | ok observedStart =>
          refine Prog.Triple.step rfl ?_
          refine Prog.Triple.ite (fun _ => rfl) fun _ => ?_
          cases hpulses : callCommands call commands with
          | error e => exact rfl
          | ok pulses =>
            refine Prog.Triple.step rfl ?_
            refine Prog.Triple.bind (acceptPulses_triple _ _ s) ?_
            rintro ⟨final, motion, pose⟩ s' ⟨hs', hvalidated⟩
            rw [hs']
            obtain ⟨last, hlast, hfinal, hdeltas⟩ := validatedResult_ok hvalidated
            have hanswer := (runPulses_last hvalidated).symm.trans hlast
            obtain ⟨heading, hheading, hdelta⟩ := hf commands pulses snapshot startImu last hcommands hpulses hsnapshot himu
              hanswer
            refine (commit_triple hlast hheading hdelta s).mono ?_ fun _ _ h => h.elim
            rintro x s'' ⟨hresults, rfl, hanchor⟩
            refine ⟨?_, hanchor ▸ hdeltas⟩
            simp [MotionExecution.finalAngles, hresults, hlast, hfinal, hanchor, Except.toOption]

theorem runs_conserve {s₀ s : MotionExecutor} {h : MotionHistory}
    (hr : (executorMachine F).Runs (fun _ call => call.HeadingFuses F) s₀ h s) :
    lastReturned s₀.expectedStartAngles h = some s.expectedStartAngles ∧
      integrated h = s.expectedStartAngles - s₀.expectedStartAngles := by
  refine hr.historyInvariant (I := fun h s => lastReturned s₀.expectedStartAngles h = some s.expectedStartAngles ∧
    integrated h = s.expectedStartAngles - s₀.expectedStartAngles) ⟨rfl, (sub_self _).symm⟩ ?_
  rintro h s call ⟨hreturned, hsum⟩ hok
  have ht := execute_triple call hok s
  simp only [executorMachine]
  rcases hx : execute F call s with ⟨e | x, s'⟩
  · have hanchor := ht.error hx
    simp only [lastReturned, integrated, hanchor]
    exact ⟨hreturned, hsum⟩
  · obtain ⟨hfinal, hdeltas⟩ := ht.ok hx
    refine ⟨hfinal, ?_⟩
    rw [integrated, hdeltas, hsum]
    exact sub_add_sub_cancel _ _ _

/-- While the localization is valid, the anchor is where the last call that
returned left the encoders, and the integrated motions lead there. -/
def MotionConserved (start : Angles) (h : MotionHistory) (s : MotionExecutor) : Prop :=
  s.localizationValid = true →
    lastReturned start h = some s.expectedStartAngles ∧ integrated h = s.expectedStartAngles - start

end

/-- Fractions as floats, for the arithmetic of a straight drive: exact, and as
wide as a double. -/
abbrev Exact := Rat

instance : PyFloat Exact where
  ofInt n := n
  nano := 1 / 1000000000
  sub := (· - ·)
  mul := (· * ·)
  div := (· / ·)
  min := min
  radians x := x
  degrees x := x
  cos _ := 1
  sin _ := 0
  asin x := x
  atan2 _ _ := 0
  hypot x _ := x
  round x := (x + 1 / 2).floor
  ceil x := x.ceil
  le x y := x ≤ y
  lt x y := x < y
  add := (· + ·)
  neg x := -x
  ofText text := if text = "0.5" then 1 / 2 else 0
  ofInt? n := if n.natAbs < 2 ^ 1024 then some n else none
  isFinite _ := true
  fmod x y := x - y * (x / y).floor
  round? x := some (x + 1 / 2).floor

def observationAt (imu : Json) (a : Angles) : Json :=
  .obj [("motion_active", .bool false), ("motor_angles_deg", anglesJson a), ("imu", imu)]

def driveForwardResult (imu : Json) (before after : Angles) : Json :=
  .obj [("schema", .str commandResultSchema), ("robot_id", .str robotId), ("controller_id", .str controllerId),
    ("command", .str "drive_forward"), ("accepted", .bool true), ("completed", .bool true),
    ("receipt", .obj [("accepted", .bool true), ("direction", .str "forward"), ("speed_dps", .int driveSpeedDps),
      ("angle_deg", .int driveEncoderDegrees), ("before_angles_deg", anglesJson before)]),
    ("observation", observationAt imu after), ("observation_settled", .bool true)]

/-- A drive forward from rest at zero, with what the IMU says at its end. -/
def driveCall (imu : Json) : MotionCall where
  action := .advance
  trimTurn := false
  snapshot := .ok (.obj [("observation", observationAt .null (0, 0))])
  cancelRequested _ := .ok false
  command _ := .ok (driveForwardResult imu (0, 0) (90, 92))
  continueRequested _ := .ok true

end RobotLlm.Blast
