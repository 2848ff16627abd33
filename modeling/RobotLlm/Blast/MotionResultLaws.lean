import RobotLlm.Blast.MotionResult

/-!
# A built result is read back

What `buildBlastNavigationMotionResult` writes, `verifiedMotionFromResult`
accepts, and the encoder motion it reads is the motion from the expected start
to the last receipt: each slice carries the motion between two receipts, and
these telescope.
-/

namespace RobotLlm.Blast

open RobotLlm.Lib RobotLlm.Odometry

-- Reading what was written

@[simp] theorem stopVerified_cleanStop : stopVerified (some cleanStop) = true := by
  simp [stopVerified, cleanStop, List.lookup_cons, List.lookup_nil, Json.IsTrue, emptyOrNone, emptyTokens]

@[simp] theorem cleanedUp_cleanStop : cleanedUp (some cleanStop) = true := by
  simp [cleanedUp, cleanStop, Json.get?, List.lookup_cons, List.lookup_nil]

@[simp] theorem passedFlag_encoderVerification (verified : Bool) (error : String) (checks : Bool × Bool) :
    passedFlag (some (encoderVerification verified error checks)) = some verified := by
  simp [passedFlag, encoderVerification, Json.get?, List.lookup_cons, List.lookup_nil]

theorem motorDelta_left {receipt : List (String × Json)} (h : receipt.lookup "motors" = some (motors before after)) :
    motorDelta receipt "left_drive" "left" = .ok (after.1 - before.1) := by
  simp [motorDelta, h, motors, motorReceipt, hasRole, List.lookup_cons, List.lookup_nil, Json.IsStr, Json.HasKeys, motorFields, require]

theorem motorDelta_right {receipt : List (String × Json)} (h : receipt.lookup "motors" = some (motors before after)) :
    motorDelta receipt "right_drive" "right" = .ok (after.2 - before.2) := by
  simp [motorDelta, h, motors, motorReceipt, hasRole, List.lookup_cons, List.lookup_nil, Json.IsStr, Json.HasKeys, motorFields, require]

/-- What a segment between two readings of the encoders stands for. -/
def encoderSegment (kind : String) (before after : Angles) (verified : Bool) : EncoderMotionSegment where
  leftEncoderDeltaDegrees := after.1 - before.1
  rightEncoderDeltaDegrees := after.2 - before.2
  commandVerified := verified
  status := some (.str "completed")
  kind := .str kind

theorem temporalSegment_segment (kind : String) (sides : List String) (before after : Angles) (checks : Bool × Bool)
    (verified : Bool) (error reason : String) :
    temporalSegment .default (segment kind sides before after checks verified error reason) =
      .ok (encoderSegment kind before after verified) := by
  simp only [temporalSegment, segment, List.lookup_cons, List.lookup_nil, String.reduceBEq, stopVerified_cleanStop,
    passedFlag_encoderVerification, DriveMotorRoles.default]
  have hmotors : ([("kind", .str kind), ("commanded_sides", .arr (sides.map .str)), ("status", .str "completed"),
      ("reason", .str reason), ("motors", motors before after),
      ("encoder_verification", encoderVerification verified error checks), ("stop", cleanStop)] :
        List (String × Json)).lookup "motors" = some (motors before after) := by
    simp [List.lookup_cons, List.lookup_nil]
  rw [motorDelta_left hmotors, motorDelta_right hmotors]
  rfl

theorem temporalSegment_whole {receipt : List (String × Json)} {checks : Bool × Bool} {error : String}
    (hm : receipt.lookup "motors" = some (motors before after)) (hs : receipt.lookup "stop" = some cleanStop)
    (hv : receipt.lookup "encoder_verification" = some (encoderVerification verified error checks))
    (ht : receipt.lookup "status" = some (.str "completed")) (hk : receipt.lookup "kind" = none) :
    temporalSegment .default (.obj receipt) = .ok (encoderSegment "commanded" before after verified) := by
  simp only [temporalSegment, hs, hv, ht, hk, stopVerified_cleanStop, passedFlag_encoderVerification,
    DriveMotorRoles.default, motorDelta_left hm, motorDelta_right hm]
  rfl

/-- The segments of a slice: the command, and before it what the encoders moved
on their own. -/
def sliceSegments (before commandBefore after : Angles) (verified : Bool) (settlingKind : String) :
    List EncoderMotionSegment :=
  if commandBefore = before then [encoderSegment "commanded" before after verified]
  else [encoderSegment settlingKind before commandBefore false, encoderSegment "commanded" commandBefore after verified]

def deltaSum (segments : List EncoderMotionSegment) : Angles :=
  ((segments.map (·.leftEncoderDeltaDegrees)).sum, (segments.map (·.rightEncoderDeltaDegrees)).sum)

theorem deltaSum_append (first second : List EncoderMotionSegment) :
    deltaSum (first ++ second) = deltaSum first + deltaSum second := by
  simp [deltaSum]

theorem deltaSum_sliceSegments (before commandBefore after : Angles) (verified : Bool) (kind : String) :
    deltaSum (sliceSegments before commandBefore after verified kind) = after - before := by
  unfold sliceSegments
  split
  · ext <;> simp [deltaSum, encoderSegment]
  · ext <;> simp [deltaSum, encoderSegment]

theorem readReceipt_motors {receipt : List (String × Json)} {temporal : List Json} {checks : Bool × Bool} {error : String}
    (hm : receipt.lookup "motors" = some (motors before after)) (hs : receipt.lookup "stop" = some cleanStop)
    (hv : receipt.lookup "encoder_verification" = some (encoderVerification verified error checks))
    (ht : temporalSegments receipt = .ok temporal) (ha : temporal.mapM (temporalSegment .default) = .ok added)
    (hsum : deltaSum added = after - before) : readReceipt .default receipt = .ok (some (added, verified)) := by
  have hl : (added.map (·.leftEncoderDeltaDegrees)).sum = after.1 - before.1 := congrArg Prod.fst hsum
  have hr : (added.map (·.rightEncoderDeltaDegrees)).sum = after.2 - before.2 := congrArg Prod.snd hsum
  have hdl : motorDelta receipt DriveMotorRoles.default.left "left" = .ok (after.1 - before.1) := motorDelta_left hm
  have hdr : motorDelta receipt DriveMotorRoles.default.right "right" = .ok (after.2 - before.2) := motorDelta_right hm
  simp only [readReceipt, hv, hs, passedFlag_encoderVerification, stopVerified_cleanStop, hm, hdl, hdr, ht, ha, motors,
    ok_bind, require_bind (And.intro hl hr)]

theorem slice_read (index count durationMs : Int) (before commandBefore after : Angles) (checks settlingChecks : Bool × Bool)
    (kind : String) :
    ∃ receipt, slice index count durationMs before commandBefore after checks settlingChecks kind = .obj receipt ∧
      receipt.lookup "slice_index" = some (.int index) ∧ receipt.lookup "slice_count" = some (.int count) ∧
      receipt.lookup "status" = some (.str "completed") ∧
      receipt.lookup "encoder_verification" =
        some (encoderVerification (checks.1 && checks.2) "encoder direction missing" checks) ∧
      readReceipt .default receipt =
        .ok (some (sliceSegments before commandBefore after (checks.1 && checks.2) kind, checks.1 && checks.2)) := by
  have hsum := deltaSum_sliceSegments before commandBefore after (checks.1 && checks.2) kind
  unfold slice
  unfold sliceSegments at hsum ⊢
  by_cases hc : commandBefore = before
  · simp only [if_pos hc] at hsum ⊢
    refine ⟨_, rfl, rfl, rfl, rfl, rfl, readReceipt_motors rfl rfl rfl rfl ?_ hsum⟩
    rw [List.mapM_cons, temporalSegment_whole rfl rfl rfl rfl rfl]
    rfl
  · simp only [if_neg hc] at hsum ⊢
    refine ⟨_, rfl, rfl, rfl, rfl, rfl, readReceipt_motors rfl rfl rfl rfl ?_ hsum⟩
    rw [List.mapM_cons, temporalSegment_segment, List.mapM_cons, temporalSegment_segment]
    rfl

theorem slicePassed_slice (index count durationMs : Int) (before commandBefore after : Angles)
    (checks settlingChecks : Bool × Bool) (kind : String) :
    slicePassed (slice index count durationMs before commandBefore after checks settlingChecks kind) =
      (checks.1 && checks.2) := by
  obtain ⟨receipt, hslice, -, -, -, hv, -⟩ :=
    slice_read index count durationMs before commandBefore after checks settlingChecks kind
  rw [hslice]
  simp [slicePassed, Json.get?, hv]

-- The loop

section
variable {F : Type} [PyFloat F] {action : Action} {count : Nat} {allow : Bool}

theorem buildSlice_ok (h : buildSlice F action count allow index previous command result = .ok (item, after)) :
    ∃ command' evidence durationMs settlingChecks kind, decodeResult F command' result = .ok evidence ∧
      after = evidence.after ∧
      item = slice index count durationMs previous evidence.before evidence.after evidence.checks settlingChecks kind := by
  obtain ⟨command', -, h⟩ := bind_ok_iff.mp h
  obtain ⟨evidence, hd, h⟩ := bind_ok_iff.mp h
  obtain ⟨-, h⟩ := require_bind_ok_iff.mp h
  cases h
  exact ⟨command', evidence, _, _, _, hd, rfl, rfl⟩

theorem readSlices_buildSlices {pairs : List (PulseCommand × Json)}
    (h : buildSlices F action count allow index previous pairs = .ok (slices, final)) :
    ∃ segments, readSlices F count .default index slices = .ok (segments, slices.countP slicePassed) ∧
      deltaSum segments = final - previous := by
  induction pairs generalizing index previous slices final with
  | nil =>
    cases h
    exact ⟨[], rfl, by ext <;> simp [deltaSum]⟩
  | cons pair rest ih =>
    obtain ⟨⟨item, after⟩, hitem, h⟩ := bind_ok_iff.mp h
    obtain ⟨⟨items, last⟩, hrest, h⟩ := bind_ok_iff.mp h
    cases h
    obtain ⟨-, evidence, durationMs, settlingChecks, kind, -, rfl, rfl⟩ := buildSlice_ok hitem
    obtain ⟨segments, hread, hsum⟩ := ih hrest
    obtain ⟨receipt, hslice, hi, hn, hs, -, hr⟩ :=
      slice_read index count durationMs previous evidence.before evidence.after evidence.checks settlingChecks kind
    have hpassed := slicePassed_slice index count durationMs previous evidence.before evidence.after evidence.checks
      settlingChecks kind
    rw [hslice] at hpassed ⊢
    refine ⟨sliceSegments previous evidence.before evidence.after (evidence.checks.1 && evidence.checks.2) kind ++ segments,
      ?_, ?_⟩
    · have hcontiguous : Json.IsNumber F (index : Int) (receipt.lookup "slice_index") ∧
          Json.IsNumber F (count : Int) (receipt.lookup "slice_count") := by
        simp [hi, hn, Json.IsNumber]
      have hstatus : Json.IsStr "completed" (receipt.lookup "status") := by simp [hs, Json.IsStr]
      push_cast at hread
      simp only [readSlices, require_bind hcontiguous, hr, ok_bind, if_pos hstatus, hread]
      rw [List.countP_cons, hpassed]
      congr 2
      cases evidence.checks.1 && evidence.checks.2 <;> simp [Bool.toInt]
      omega
    · rw [deltaSum_append, deltaSum_sliceSegments, hsum]
      ext <;> simp

theorem length_buildSlices {pairs : List (PulseCommand × Json)}
    (h : buildSlices F action count allow index previous pairs = .ok (slices, final)) : slices.length = pairs.length := by
  induction pairs generalizing index previous slices final with
  | nil => cases h; rfl
  | cons pair rest ih =>
    obtain ⟨⟨item, after⟩, -, h⟩ := bind_ok_iff.mp h
    obtain ⟨⟨items, last⟩, hrest, h⟩ := bind_ok_iff.mp h
    cases h
    simp [ih hrest]

def finalAnglesOf (result : Json) : Except Fault Angles :=
  angles false ((result.get? "observation").bind (Json.get? "motor_angles_deg"))

theorem finalAnglesOf_decodeResult {command : PulseCommand} {evidence : CommandEvidence}
    (h : decodeResult F command result = .ok evidence) : finalAnglesOf result = .ok evidence.after := by
  cases result with
  | obj fields =>
    obtain ⟨-, h⟩ := require_bind_ok_iff.mp h
    obtain ⟨-, h⟩ := require_bind_ok_iff.mp h
    obtain ⟨before, -, h⟩ := bind_ok_iff.mp h
    obtain ⟨-, h⟩ := require_bind_ok_iff.mp h
    obtain ⟨after, hafter, h⟩ := bind_ok_iff.mp h
    obtain ⟨-, h⟩ := require_bind_ok_iff.mp h
    cases h
    exact hafter
  | _ => cases h

theorem buildSlices_final {pairs : List (PulseCommand × Json)}
    (h : buildSlices F action count allow index previous pairs = .ok (slices, final))
    (hl : (pairs.map Prod.snd).getLast? = some last) : finalAnglesOf last = .ok final := by
  induction pairs generalizing index previous slices final with
  | nil => cases hl
  | cons pair rest ih =>
    obtain ⟨⟨item, after⟩, hitem, h⟩ := bind_ok_iff.mp h
    obtain ⟨⟨items, reached⟩, hrest, h⟩ := bind_ok_iff.mp h
    cases h
    cases rest with
    | nil =>
      cases hrest
      cases hl
      obtain ⟨_, evidence, _, _, _, hd, rfl, -⟩ := buildSlice_ok hitem
      exact finalAnglesOf_decodeResult hd
    | cons next rest => exact ih hrest (by simpa using hl)

-- The result

theorem blastNavigationCommands_some (h : blastNavigationCommands action = some commands) :
    action.IsMotion ∧ 0 < commands.length := by
  cases action <;> cases h <;> exact ⟨trivial, by decide⟩

theorem motionOutcomeOf_reads (action : Action) {requested : Nat} {slices : List Json} (hr : 0 < requested)
    (hl : slices.length ≤ requested) :
    ∃ outcome status, motionOutcomeOf action requested slices = .obj outcome ∧
      outcome.lookup "action" = some (.str action.text) ∧ motionStatus outcome = .ok status ∧
      sliceCounts outcome = .ok (requested, slices.countP slicePassed) ∧
      outcomeSlices outcome requested = .ok slices ∧
      checkOutcome F outcome status requested (slices.countP slicePassed) (slices.countP slicePassed) = .ok () := by
  have hc : slices.countP slicePassed ≤ slices.length := List.countP_le_length
  have hcounts : ∀ outcome : List (String × Json), outcome.lookup "requested_slice_count" = some (.int requested) →
      outcome.lookup "completed_slice_count" = some (.int (slices.countP slicePassed)) →
      sliceCounts outcome = .ok (requested, slices.countP slicePassed) := by
    intro outcome h h'
    simp only [sliceCounts, h, h']
    exact if_pos ⟨by omega, by omega, by omega⟩
  have hslices : ∀ outcome : List (String × Json), outcome.lookup "slices" = some (.arr slices) →
      outcomeSlices outcome requested = .ok slices := by
    intro outcome h
    simp only [outcomeSlices, h]
    exact if_pos (by omega)
  have hcheck : ∀ (outcome : List (String × Json)) (status : MotionStatus),
      outcome.lookup "encoder_verification" = some (.obj [("passed", .bool (slices.countP slicePassed = requested)),
        ("verified_slice_count", .int (slices.countP slicePassed)), ("requested_slice_count", .int requested)]) →
      (status = .completed → slices.countP slicePassed = requested) →
      checkOutcome F outcome status requested (slices.countP slicePassed) (slices.countP slicePassed) = .ok () := by
    intro outcome status h hs
    unfold checkOutcome
    rw [require_bind (le_refl _), require_bind]
    · refine require_pos fun hst => ?_
      simp [h, passedFlag, Json.get?, List.lookup_cons, List.lookup_nil, hs hst]
    · simp [h, Json.get?, List.lookup_cons, List.lookup_nil, Json.IsNumber]
  unfold motionOutcomeOf
  by_cases hv : slices.countP slicePassed ≠ slices.length
  · simp only [if_pos hv]
    exact ⟨_, .verificationFailed, rfl, rfl, rfl, hcounts _ rfl rfl, hslices _ rfl, hcheck _ _ rfl (by simp)⟩
  · simp only [if_neg hv]
    by_cases hn : slices.length = requested
    · simp only [if_pos hn]
      exact ⟨_, .completed, rfl, rfl, rfl, hcounts _ rfl rfl, hslices _ rfl, hcheck _ _ rfl fun _ => by omega⟩
    · simp only [if_neg hn]
      exact ⟨_, .interrupted, rfl, rfl, rfl, hcounts _ rfl rfl, hslices _ rfl, hcheck _ _ rfl (by simp)⟩

theorem verifiedMotion_of_build {results : List Json} {expected canonical built : Json}
    (h : buildBlastNavigationMotionResult F action results expected canonical allow = .ok built) :
    ∃ motion start last final, verifiedMotionFromResult F action built .default = .ok motion ∧
      angles true (some expected) = .ok start ∧ results.getLast? = some last ∧ finalAnglesOf last = .ok final ∧
      (motion.leftEncoderDeltaDegrees, motion.rightEncoderDeltaDegrees) = final - start := by
  unfold buildBlastNavigationMotionResult at h
  cases hcmd : blastNavigationCommands action with
  | none => rw [hcmd] at h; cases h
  | some commands =>
    rw [hcmd] at h
    obtain ⟨⟨hlow, hhigh, -⟩, h⟩ := require_bind_ok_iff.mp h
    obtain ⟨start, hstart, h⟩ := bind_ok_iff.mp h
    obtain ⟨⟨slices, final⟩, hslices, h⟩ := bind_ok_iff.mp h
    obtain ⟨observation, -, h⟩ := bind_ok_iff.mp h
    cases h
    obtain ⟨hmotion, hpos⟩ := blastNavigationCommands_some hcmd
    have hlen : slices.length = results.length := by
      rw [length_buildSlices hslices, List.length_zip, Nat.min_eq_right hhigh]
    obtain ⟨last, hlast⟩ : ∃ last, results.getLast? = some last :=
      ⟨_, List.getLast?_eq_some_getLast (List.ne_nil_of_length_pos hlow)⟩
    have hlastPair : ((commands.zip results).map Prod.snd).getLast? = some last := by
      rw [List.map_snd_zip hhigh]
      exact hlast
    have hfinal := buildSlices_final hslices hlastPair
    obtain ⟨segments, hread, hsum⟩ := readSlices_buildSlices hslices
    obtain ⟨outcome, status, hout, haction, hstatus, hcounts, houtSlices, hcheck⟩ :=
      motionOutcomeOf_reads (F := F) action hpos (hlen ▸ hhigh)
    rw [hout]
    have hkeys : ∀ observation, Json.HasKeys [("action", .str action.text), ("outcome", .obj outcome),
        ("observation", observation), ("stop", cleanStop)] resultFields := by
      intro observation
      simp [Json.HasKeys, resultFields]
    have hoa : Json.IsStr action.text (outcome.lookup "action") := by simp [haction, Json.IsStr]
    refine ⟨⟨action, (deltaSum segments).1, (deltaSum segments).2, slices.countP slicePassed, commands.length, status,
      segments⟩, start, last, final, ?_, hstart, hlast, hfinal, hsum⟩
    unfold verifiedMotionFromResult
    rw [require_bind hmotion]
    dsimp only
    rw [require_bind ⟨hkeys _, rfl⟩, require_bind ⟨stopVerified_cleanStop, cleanedUp_cleanStop⟩]
    simp only [motionOutcome, List.lookup_cons, List.lookup_nil, String.reduceBEq, if_pos hoa, ok_bind, hstatus, hcounts, houtSlices]
    rw [show (1 : Int) = ((1 : Nat) : Int) from rfl, hread]
    simp only [ok_bind, hcheck, deltaSum]

end

end RobotLlm.Blast
