import RobotLlm.Memory.StoreLaws

/-!
# What odometry takes from a motion

The motion that is read from a result is what its drives recorded in the observable prefix
of the slices. The prefix ends before a slice without a clean stop, a verification or motors,
and after a slice that was not completed; a completed result has nothing behind it.
-/

namespace RobotLlm.Odometry

open RobotLlm.Lib RobotLlm.Hazard

def slicesOf (result : Json) : List Json :=
  match (Json.get? "outcome" result).bind (Json.get? "slices") with
  | some (.arr slices) => slices
  | _ => []

def motorsOf (slice : Json) : List Json := ((Json.toArr? (Json.get? "motors" slice))).getD []

/-- What the motor receipts of the slices say of the motor of a role. -/
def recordedDelta (role : String) (slices : List Json) : Int :=
  (((slices.flatMap motorsOf).filter (hasRole role)).map fun motor => (Json.toInt? (Json.get? "position_delta" motor)).getD 0).sum

/-- The slice has a verification, a clean stop and motors. -/
def isObservable (slice : Json) : Bool :=
  (passedFlag (Json.get? "encoder_verification" slice)).isSome && stopVerified (Json.get? "stop" slice) && !(motorsOf slice).isEmpty

def observablePrefix : List Json → List Json
  | [] => []
  | slice :: slices =>
    if isObservable slice then
      slice :: if Json.IsStr "completed" (Json.get? "status" slice) then observablePrefix slices else []
    else []

theorem recordedDelta_cons (role : String) (slice : Json) (slices : List Json) :
    recordedDelta role (slice :: slices) = recordedDelta role [slice] + recordedDelta role slices := by
  simp [recordedDelta]

/-- A prefix that is as long as the slices is all of them. -/
theorem observablePrefix_eq_self {slices : List Json} (h : slices.length ≤ (observablePrefix slices).length) :
    observablePrefix slices = slices := by
  induction slices with
  | nil => rfl
  | cons slice slices ih =>
    rw [observablePrefix] at h ⊢
    split_ifs at h ⊢ with hobservable hcompleted
    · rw [ih (by simpa using h)]
    · obtain rfl : slices = [] := by simpa using h
      rfl
    · simp at h

-- Reading the slices

variable {F : Type} [PyFloat F] {receipt : List (String × Json)} {roles : DriveMotorRoles}

theorem motorDelta_ok {role side : String} {delta : Int} (h : motorDelta receipt role side = .ok delta) :
    recordedDelta role [.obj receipt] = delta ∧ motorsOf (.obj receipt) ≠ [] := by
  unfold motorDelta at h
  split at h
  next motors hmotors =>
    have hof : motorsOf (.obj receipt) = motors := by
      simp [motorsOf, Json.get?, hmotors]
    split at h
    next motor hfilter =>
      simp only [require_bind_ok_iff] at h
      obtain ⟨-, -, h⟩ := h
      split at h
      next before after delta' _ _ hdelta =>
        by_cases hsame : after - before = delta'
        swap
        · rw [if_neg hsame] at h
          cases h
        rw [if_pos hsame] at h
        obtain rfl := Except.ok.inj h
        constructor
        · simp [recordedDelta, hof, hfilter, Json.get?, hdelta]
        · rw [hof]
          rintro rfl
          cases hfilter
      next => cases h
    next => cases h
  next => cases h

theorem readReceipt_ok {read : Option (List EncoderMotionSegment × Bool)} (h : readReceipt roles receipt = .ok read) :
    (read = none → isObservable (.obj receipt) = false) ∧ ∀ added verified, read = some (added, verified) →
      isObservable (.obj receipt) = true ∧
      (added.map (·.leftEncoderDeltaDegrees)).sum = recordedDelta roles.left [.obj receipt] ∧
      (added.map (·.rightEncoderDeltaDegrees)).sum = recordedDelta roles.right [.obj receipt] := by
  unfold readReceipt at h
  split at h
  next passed hpassed hstop =>
    split at h
    next hmotors =>
      rw [require_bind_ok_iff] at h
      obtain rfl := Except.ok.inj h.2
      refine ⟨fun _ => ?_, fun _ _ hsome => by cases hsome⟩
      simp [isObservable, motorsOf, Json.get?, hmotors]
    next =>
      simp only [bind_ok_iff] at h
      obtain ⟨left, hleft, right, hright, temporal, -, added, -, _, hsums, h⟩ := h
      rw [require_ok_iff] at hsums
      obtain rfl := Except.ok.inj h
      refine ⟨fun hnone => (by cases hnone), fun added' verified hsome => ?_⟩
      obtain ⟨rfl, rfl⟩ := Prod.mk.inj (Option.some.inj hsome)
      obtain ⟨hrecorded, hsome⟩ := motorDelta_ok hleft
      refine ⟨?_, hsums.1.trans hrecorded.symm, hsums.2.trans (motorDelta_ok hright).1.symm⟩
      simpa [isObservable, Json.get?, hpassed, hstop] using hsome
  next hnot =>
    obtain rfl := Except.ok.inj h
    refine ⟨fun _ => ?_, fun _ _ hsome => by cases hsome⟩
    by_contra hobservable
    rw [Bool.not_eq_false, isObservable, Bool.and_eq_true, Bool.and_eq_true] at hobservable
    obtain ⟨passed, hpassed⟩ := Option.isSome_iff_exists.mp hobservable.1.1
    exact hnot passed hpassed hobservable.1.2

theorem toInt_le_one (b : Bool) : 0 ≤ b.toInt ∧ b.toInt ≤ 1 := by cases b <;> decide

/-- The segments that the loop reads are what its prefix recorded, and no more commands are verified than it has slices. -/
theorem readSlices_ok {requested : Int} {slices : List Json} : ∀ {index : Int} {segments : List EncoderMotionSegment} {verified : Int},
    readSlices F requested roles index slices = .ok (segments, verified) →
    (segments.map (·.leftEncoderDeltaDegrees)).sum = recordedDelta roles.left (observablePrefix slices) ∧
      (segments.map (·.rightEncoderDeltaDegrees)).sum = recordedDelta roles.right (observablePrefix slices) ∧
      verified ≤ (observablePrefix slices).length := by
  induction slices with
  | nil =>
    rintro index segments verified h
    cases h
    exact ⟨rfl, rfl, le_rfl⟩
  | cons slice slices ih =>
    intro index segments verified h
    cases slice with
    | obj receipt =>
      rw [readSlices, require_bind_ok_iff, bind_ok_iff] at h
      obtain ⟨-, read, hread, h⟩ := h
      obtain ⟨hnone, hsome⟩ := readReceipt_ok hread
      cases read with
      | none =>
        cases h
        rw [observablePrefix, if_neg (by rw [hnone rfl]; decide)]
        exact ⟨rfl, rfl, le_rfl⟩
      | some pair =>
        obtain ⟨added, passed⟩ := pair
        obtain ⟨hobservable, hleft, hright⟩ := hsome added passed rfl
        have hone := (toInt_le_one passed).2
        rw [observablePrefix, if_pos hobservable]
        dsimp only at h
        split_ifs at h with hcompleted
        · rw [bind_ok_iff] at h
          obtain ⟨⟨rest, count⟩, hrest, h⟩ := h
          cases h
          obtain ⟨hl, hr, hcount⟩ := ih hrest
          rw [if_pos (show Json.IsStr "completed" (Json.get? "status" (.obj receipt)) from hcompleted), recordedDelta_cons roles.left,
            recordedDelta_cons roles.right, List.map_append, List.map_append, List.sum_append, List.sum_append, hleft, hright, hl, hr,
            List.length_cons]
          refine ⟨rfl, rfl, ?_⟩
          push_cast
          omega
        · cases h
          rw [if_neg (show ¬ Json.IsStr "completed" (Json.get? "status" (.obj receipt)) from hcompleted)]
          exact ⟨hleft, hright, by simpa using hone⟩
    | _ => cases h

theorem outcomeSlices_ok {action : Action} {fields outcome : List (String × Json)} {requested : Int} {slices : List Json}
    (houtcome : motionOutcome action fields = .ok outcome) (hslices : outcomeSlices outcome requested = .ok slices) :
    slicesOf (.obj fields) = slices ∧ (slices.length : Int) ≤ requested := by
  unfold motionOutcome at houtcome
  unfold outcomeSlices at hslices
  split at houtcome
  next found hfound =>
    split_ifs at houtcome
    swap
    · cases houtcome
    obtain rfl := Except.ok.inj houtcome
    split at hslices
    next items hitems =>
      split_ifs at hslices with hlength
      swap
      · cases hslices
      obtain rfl := Except.ok.inj hslices
      exact ⟨by simp [slicesOf, Json.get?, hfound, hitems], hlength⟩
    next => cases hslices
  next => cases houtcome

/-- The returned deltas are what the drives recorded in the observable prefix; of a completed motion that is every slice. -/
theorem verifiedMotion_observable (F : Type) [PyFloat F] (action : Action) (result : Json) (roles : DriveMotorRoles)
    (motion : VerifiedMotion) (h : verifiedMotionFromResult F action result roles = .ok motion) :
    motion.leftEncoderDeltaDegrees = recordedDelta roles.left (observablePrefix (slicesOf result)) ∧
      motion.rightEncoderDeltaDegrees = recordedDelta roles.right (observablePrefix (slicesOf result)) ∧
      (motion.status = .completed → observablePrefix (slicesOf result) = slicesOf result) := by
  unfold verifiedMotionFromResult at h
  rw [require_bind_ok_iff] at h
  obtain ⟨-, h⟩ := h
  cases result with
  | obj fields =>
    dsimp only at h
    simp only [bind_ok_iff] at h
    obtain ⟨_, -, _, -, outcome, houtcome, status, -, ⟨requested, completed⟩, -, slices, hslices, ⟨segments, verified⟩, hread, _, hcheck, h⟩ := h
    obtain rfl := Except.ok.inj h
    have hof := outcomeSlices_ok houtcome hslices
    obtain ⟨hleft, hright, hcount⟩ := readSlices_ok hread
    rw [hof.1]
    refine ⟨hleft, hright, fun hcompleted => observablePrefix_eq_self ?_⟩
    simp only [checkOutcome, require_bind_ok_iff, require_ok_iff] at hcheck
    have hall := (hcheck.2.2 hcompleted).2.1
    omega
  | _ => cases h

/-- One slice of a drive, with what its wheels did. -/
def driveSlice (left right : Int) : List (String × Json) :=
  [("slice_index", .int 1), ("slice_count", .int 1), ("status", .str "completed"),
    ("encoder_verification", .obj [("passed", .bool true)]), ("stop", .obj [("stop_confirmed", .bool true)]),
    ("motors", .arr (["left", "right"].map fun side => .obj [("side", .str side), ("role", .str (side ++ "_drive")),
      ("position_before", .int 0), ("position_after", .int (if side = "left" then left else right)),
      ("position_delta", .int (if side = "left" then left else right)), ("state", .str "")]))]

def driveResult (left right : Int) : Json :=
  .obj [("action", .str "ADVANCE"), ("observation", .null), ("stop", .obj [("stop_confirmed", .bool true)]),
    ("outcome", .obj [("action", .str "ADVANCE"), ("status", .str "completed"), ("requested_slice_count", .int 1),
      ("completed_slice_count", .int 1), ("slices", .arr [.obj (driveSlice left right)]),
      ("encoder_verification", .obj [("passed", .bool true), ("requested_slice_count", .int 1), ("verified_slice_count", .int 1)])])]

theorem verifiedMotion_observable_drive : ∃ motion : VerifiedMotion,
    motion.leftEncoderDeltaDegrees = recordedDelta "left_drive" (observablePrefix (slicesOf (driveResult 90 92))) ∧
      motion.rightEncoderDeltaDegrees = recordedDelta "right_drive" (observablePrefix (slicesOf (driveResult 90 92))) ∧
      (motion.status = .completed → observablePrefix (slicesOf (driveResult 90 92)) = slicesOf (driveResult 90 92)) := by
  obtain ⟨motion, h⟩ : ∃ motion, verifiedMotionFromResult Grid .advance (driveResult 90 92) .default = .ok motion := ⟨_, rfl⟩
  exact ⟨motion, verifiedMotion_observable Grid .advance (driveResult 90 92) .default motion h⟩

end RobotLlm.Odometry
