import Mathlib.Data.Rat.Floor
import RobotLlm.Blast.ScanBuild
import RobotLlm.Lib.Check

/-!
# Built scans and their contract

Builder and contract compute the same numbers, but the builder rounds a bearing
before it judges it, and the contract does not.
-/

set_option linter.unusedSectionVars false

namespace RobotLlm.Blast.Scan

open RobotLlm.Lib
open RobotLlm.Lib.PyValue (field)

variable {R : Type} [Field R] [LinearOrder R] [IsStrictOrderedRing R] [FloorRing R]

-- Fields

section
variable {A : Type}

theorem field_cons (key name : String) (value : PyValue A) (fields : PyDict A) :
    field ((key, value) :: fields) name = if name = key then value else field fields name := by
  by_cases h : name = key
  · simp [field, List.lookup_cons, List.lookup_nil, h]
  · have hne : (name == key) = false := by simpa using h
    simp [field, List.lookup_cons, List.lookup_nil, hne, h]

theorem lookup_cons_key (key name : String) (value : PyValue A) (fields : PyDict A) :
    List.lookup name ((key, value) :: fields) = if name = key then some value else List.lookup name fields := by
  by_cases h : name = key
  · simp [List.lookup_cons, List.lookup_nil, h]
  · have hne : (name == key) = false := by simpa using h
    simp [List.lookup_cons, List.lookup_nil, hne, h]

end

-- Bearings

section
variable {current start : DriveAngles} {heading startImu : Option R}

theorem wrapDegrees_unwound (encoder : R) (measured : Option R) :
    wrapDegrees (unwound encoder measured) = wrapDegrees (measured.getD encoder) := by
  cases measured with
  | none => rfl
  | some m => exact wrapDegrees_add_turns m _

theorem scanHeadingDelta_mem {m : R} (h : scanHeadingDelta heading startImu = some m) : wrapDegrees m = m := by
  cases heading <;> cases startImu <;> simp only [scanHeadingDelta, Option.bind_none, Option.bind_some, Option.map_none, Option.map_some,
    reduceCtorEq, Option.some.injEq] at h
  rw [← h, wrapDegrees_wrapDegrees]

/-- The bearing before it is rounded: measured, or else by the encoders. -/
def rawBearing (current start : DriveAngles) (heading startImu : Option R) : R :=
  match scanHeadingDelta heading startImu with
  | some measured => measured
  | none => wrapDegrees (encoderSweepBearing R current start)

theorem scanRelativeBearing_eq : scanRelativeBearing current start heading startImu = roundDigits 6 (rawBearing current start heading startImu) := by
  rw [scanRelativeBearing, scanSweepBearing, wrapDegrees_unwound, rawBearing]
  cases h : scanHeadingDelta heading startImu with
  | none => rfl
  | some m => rw [Option.getD_some, scanHeadingDelta_mem h]

theorem scanRelativeBearing_mem :
    -180 ≤ scanRelativeBearing current start heading startImu ∧ scanRelativeBearing current start heading startImu ≤ 180 :=
  roundDigits_wrapDegrees_mem 6 _

theorem isClose_rounded (x : R) : isClose (roundDigits 6 x) x anglePrecisionDeg = true := by
  have h := abs_roundDigits_sub_le 6 x
  rw [isClose, decide_eq_true_iff, anglePrecisionDeg]
  refine le_max_of_le_right (h.trans ?_)
  norm_num

theorem isClose_self (x : R) {tolerance : R} (h : 0 ≤ tolerance) : isClose x x tolerance = true := by
  rw [isClose, decide_eq_true_iff, sub_self, abs_zero]
  exact le_max_of_le_right h

theorem scanRelativeBearing_start : scanRelativeBearing (R := R) start start startImu startImu = 0 := by
  have hencoder : encoderSweepBearing R start start = 0 := by simp [encoderSweepBearing, encoderBearing, DriveAngles.since]
  rw [scanRelativeBearing_eq, rawBearing, hencoder]
  cases startImu <;> simp [scanHeadingDelta]

end

-- Rays

section
variable {side : String} {observation : PyDict R} {current start : DriveAngles} {settled : Bool} {evidenceUse : String} {startImu : Option R}

theorem finiteNumber_ofOption (value : Option R) : finiteNumber (.ofOption .float value : PyValue R) = value := by
  cases value <;> rfl

theorem exactDriveAngles_toDict (angles : DriveAngles) : exactDriveAngles (.dict angles.toDict : PyValue R) = some angles := by
  simp [exactDriveAngles, PyValue.dict?, DriveAngles.toDict, PyValue.hasKeys, driveAnglesIn, field_cons]

def UsedAsSettled (settled : Bool) (evidenceUse : String) : Prop := evidenceUse = if settled then settledRange else sweepContinuationOnly

theorem rayFields_lookup (name : String) : field (rayFields side observation current start settled evidenceUse startImu) name =
    if name = "side" then .str side
    else if name = "distance_mm" then .ofOption .float (finiteNumber (field observation "distance_mm"))
    else if name = "range_state" then .str (blastRangeState (.ofOption .float (finiteNumber (field observation "distance_mm"))))
    else if name = "body_motor_angle_deg" then .ofOption .int (bodyMotorAngle observation)
    else if name = "heading_deg" then .float (scanRelativeBearing current start (scanHeading observation) startImu)
    else if name = "relative_heading_deg" then .float (scanRelativeBearing current start (scanHeading observation) startImu)
    else if name = "imu_heading_deg" then .ofOption .float (scanHeading observation)
    else if name = "drive_encoder_delta_deg" then .dict (current.since start).toDict
    else if name = "observation_settled" then .bool settled
    else if name = "evidence_use" then .str evidenceUse
    else if name = "observed_at_ms" then observedAtMs observation
    else .none := by
  simp only [rayFields, field_cons]
  rfl

theorem rayFields_expected : expectedBearing true startImu (rayFields side observation current start settled evidenceUse startImu) =
    some (rawBearing current start (scanHeading observation) startImu) := by
  simp only [expectedBearing, rayFields_lookup, String.reduceEq, if_true, if_false, exactDriveAngles_toDict, Option.map_some, finiteNumber_ofOption]
  rfl

theorem rayFields_ok (huse : UsedAsSettled settled evidenceUse) :
    rayOk true startImu (.dict (rayFields side observation current start settled evidenceUse startImu)) = true := by
  have hclose := isClose_rounded (rawBearing current start (scanHeading observation) startImu)
  rw [← scanRelativeBearing_eq] at hclose
  have hevidence : evidenceUseOk (rayFields side observation current start settled evidenceUse startImu) = true := by
    cases settled <;> simpa [evidenceUseOk, rayFields, field_cons, lookup_cons_key, PyValue.isStr, UsedAsSettled] using huse
  have hbody : bodyMotorAngleOk (rayFields side observation current start settled evidenceUse startImu) = true := by
    cases h : bodyMotorAngle observation <;> simp [bodyMotorAngleOk, rayFields, lookup_cons_key, PyValue.ofOption, h]
  simp only [rayOk, hevidence, hbody, rayFields_expected, rayFields_lookup, String.reduceEq, if_true, if_false, finiteNumber, hclose]
  simp [PyValue.isStr]

theorem rayFields_side : sideOf (.dict (rayFields side observation current start settled evidenceUse startImu)) = some side := by
  simp [sideOf, PyValue.dict?, rayFields_lookup, PyValue.str?]

theorem rayFields_relative : relativeHeadingOf (.dict (rayFields side observation current start settled evidenceUse startImu)) =
    some (scanRelativeBearing current start (scanHeading observation) startImu) := by
  simp [relativeHeadingOf, PyValue.dict?, rayFields_lookup, finiteNumber]

theorem rayFields_heading : (finiteNumber (field (rayFields side observation current start settled evidenceUse startImu) "heading_deg")).isSome = true := by
  simp [rayFields_lookup, finiteNumber]

end

-- Rays compared

section
variable {side : String} {observation : PyDict R} {current start : DriveAngles} {settled : Bool} {evidenceUse : String} {startImu : Option R}

theorem equals_ofOption_float (value : Option R) : (PyValue.ofOption .float value).equals (.ofOption .float value) = true := by
  cases value <;> simp [PyValue.ofOption, PyValue.equals, PyValue.number?]

theorem equals_ofOption_int (value : Option Int) : (PyValue.ofOption .int value : PyValue R).equals (.ofOption .int value) = true := by
  cases value <;> simp [PyValue.ofOption, PyValue.equals, PyValue.number?]

theorem equals_observedAtMs : (observedAtMs observation).equals (observedAtMs observation) = true := by
  unfold observedAtMs
  split <;> simp [PyValue.equals, PyValue.number?]

theorem rayFields_sameRay (other : String) : sameRay (.dict (withSide other (rayFields side observation current start settled evidenceUse startImu)))
    (.dict (rayFields side observation current start settled evidenceUse startImu)) = true := by
  simp [sameRay, withoutSide, withSide, rayFields, PyValue.equals, PyValue.equalsFields, lookup_cons_key, equals_ofOption_float,
    equals_ofOption_int, equals_observedAtMs, PyValue.number?, DriveAngles.toDict]

theorem rayFields_sameRay_self : sameRay (.dict (rayFields side observation current start settled evidenceUse startImu))
    (.dict (rayFields side observation current start settled evidenceUse startImu)) = true := by
  simp [sameRay, withoutSide, rayFields, PyValue.equals, PyValue.equalsFields, lookup_cons_key, equals_ofOption_float,
    equals_ofOption_int, equals_observedAtMs, PyValue.number?, DriveAngles.toDict]

theorem rayFields_equals : (PyValue.dict (rayFields side observation current start settled evidenceUse startImu)).equals
    (.dict (rayFields side observation current start settled evidenceUse startImu)) = true := by
  simp [rayFields, PyValue.equals, PyValue.equalsFields, lookup_cons_key, equals_ofOption_float, equals_ofOption_int, equals_observedAtMs,
    PyValue.number?, DriveAngles.toDict]

theorem equalsItems_self {items : List (PyValue R)} (h : ∀ item ∈ items, item.equals item = true) : PyValue.equalsItems items items = true := by
  induction items with
  | nil => rfl
  | cons item items ih =>
    rw [PyValue.equalsItems, Bool.and_eq_true]
    exact ⟨h item List.mem_cons_self, ih fun other hother => h other (List.mem_cons_of_mem _ hother)⟩

end

-- The rays of a scan

section
variable {start : DriveAngles} {startImu : Option R}

def anglesOf (sample : Sample R) : DriveAngles := (driveEncoderAngles sample.observation).getD ⟨0, 0⟩

/-- What the scan loops hand over: encoders, and evidence used as it settled. -/
structure SampleOk (sample : Sample R) : Prop where
  encoders : (driveEncoderAngles sample.observation).isSome = true
  use : UsedAsSettled sample.settled sample.evidenceUse

theorem SampleOk.angles {sample : Sample R} (h : SampleOk sample) : driveEncoderAngles sample.observation = some (anglesOf sample) := by
  obtain ⟨angles, hangles⟩ := Option.isSome_iff_exists.mp h.encoders
  rw [anglesOf, hangles, Option.getD_some]

def sampleBearing (start : DriveAngles) (startImu : Option R) (sample : Sample R) : R :=
  scanRelativeBearing (anglesOf sample) start (scanHeading sample.observation) startImu

def rayOf (start : DriveAngles) (startImu : Option R) (side : String) (sample : Sample R) : PyDict R :=
  rayFields side sample.observation (anglesOf sample) start sample.settled sample.evidenceUse startImu

theorem scanRay_eq {sample : Sample R} (h : SampleOk sample) (side : String) :
    scanRay side sample start startImu = .ok (rayOf start startImu side sample) := by
  rw [scanRay, h.angles]
  rfl

def sideRayList (start : DriveAngles) (startImu : Option R) (label : String) (samples : List (Sample R)) : List (PyDict R) :=
  samples.zipIdx.map fun sample => rayOf start startImu (label ++ toString (sample.2 + 1)) sample.1

theorem sideRays_eq {samples : List (Sample R)} (h : ∀ sample ∈ samples, SampleOk sample) (label : String) :
    sideRays label samples start startImu = .ok (sideRayList start startImu label samples) :=
  mapM_ok fun _ hsample => scanRay_eq (h _ (List.fst_mem_of_mem_zipIdx hsample)) _

theorem mem_sideRayList {label : String} {samples : List (Sample R)} {ray : PyDict R} (h : ray ∈ sideRayList start startImu label samples) :
    ∃ sample ∈ samples, ∃ side, ray = rayOf start startImu side sample := by
  obtain ⟨sample, hsample, rfl⟩ := List.mem_map.mp h
  exact ⟨sample.1, List.fst_mem_of_mem_zipIdx hsample, _, rfl⟩

theorem sideRayList_sides (label : String) (samples : List (Sample R)) :
    (sideRayList start startImu label samples).map (fun ray => sideOf (.dict ray)) = (numbered label samples.length).map some := by
  rw [sideRayList, List.map_map, numbered, List.map_map, List.range_eq_range', ← List.zipIdx_map_snd 0 samples, List.map_map]
  simp only [Function.comp_def, rayOf, rayFields_side]

theorem sideRayList_bearings (label : String) (samples : List (Sample R)) :
    (sideRayList start startImu label samples).map (fun ray => relativeHeadingOf (.dict ray)) =
      (samples.map (sampleBearing start startImu)).map some := by
  conv_rhs => rw [← List.zipIdx_map_fst 0 samples, List.map_map, List.map_map]
  rw [sideRayList, List.map_map]
  simp only [Function.comp_def, rayOf, rayFields_relative]
  rfl

theorem sideRayList_length (label : String) (samples : List (Sample R)) : (sideRayList start startImu label samples).length = samples.length := by
  simp [sideRayList]

theorem startsWith_append (start rest : String) : startsWith start (start ++ rest) = true := by
  simp [startsWith, List.isPrefixOf_iff_prefix]

theorem startsWith_other {start other : String} (rest : String) (h : start.toList.isPrefixOf other.toList = false)
    (hlen : start.length ≤ other.length) : startsWith start (other ++ rest) = false := by
  rw [startsWith, Bool.eq_false_iff, Ne, List.isPrefixOf_iff_prefix, String.toList_append]
  intro hprefix
  have htake : start.toList <+: other.toList := List.prefix_of_prefix_length_le hprefix (List.prefix_append _ _) hlen
  rw [← List.isPrefixOf_iff_prefix] at htake
  simp [h] at htake

theorem countSide_numbered (start : String) (count : Nat) : countSide start ((numbered start count).map some) = count := by
  rw [countSide, List.countP_eq_length.mpr, List.length_map, numbered, List.length_map, List.length_range]
  intro label hlabel
  obtain ⟨_, hname, rfl⟩ := List.mem_map.mp hlabel
  obtain ⟨index, -, rfl⟩ := List.mem_map.mp hname
  exact startsWith_append _ _

theorem countSide_other {start other : String} (h : start.toList.isPrefixOf other.toList = false) (hlen : start.length ≤ other.length)
    (count : Nat) : countSide start ((numbered other count).map some) = 0 := by
  rw [countSide, List.countP_eq_zero]
  intro label hlabel
  obtain ⟨_, hname, rfl⟩ := List.mem_map.mp hlabel
  obtain ⟨index, -, rfl⟩ := List.mem_map.mp hname
  simp [startsWith_other _ h hlen]

end

section
variable {center : PyDict R} {centerSettled : Bool} {start : DriveAngles} {lefts rights : List (Sample R)}

def angularRays (center : PyDict R) (centerSettled : Bool) (start : DriveAngles) (lefts rights : List (Sample R)) : List (PyDict R) :=
  rayOf start (scanHeading center) "center" (centerSample center centerSettled) ::
    (sideRayList start (scanHeading center) "left_" lefts ++ sideRayList start (scanHeading center) "right_" rights)

/-- What the loops know of a sweep: its encoders at the start, and its samples. -/
structure SweepOk (center : PyDict R) (start : DriveAngles) (lefts rights : List (Sample R)) : Prop where
  start : driveEncoderAngles center = some start
  lefts : ∀ sample ∈ lefts, SampleOk sample
  rights : ∀ sample ∈ rights, SampleOk sample

theorem centerSample_ok (h : driveEncoderAngles center = some start) : SampleOk (centerSample center centerSettled) :=
  ⟨by rw [centerSample, h]; rfl, rfl⟩

theorem centerSample_bearing (h : driveEncoderAngles center = some start) :
    sampleBearing start (scanHeading center) (centerSample center centerSettled) = 0 := by
  have hangles : anglesOf (centerSample center centerSettled) = start := by rw [anglesOf, centerSample, h, Option.getD_some]
  rw [sampleBearing, hangles]
  exact scanRelativeBearing_start

theorem angularRays_mem (h : SweepOk center start lefts rights) {ray : PyDict R}
    (hray : ray ∈ angularRays center centerSettled start lefts rights) :
    ∃ sample, SampleOk sample ∧ ∃ side, ray = rayOf start (scanHeading center) side sample := by
  obtain rfl | hray := List.mem_cons.mp hray
  · exact ⟨_, centerSample_ok h.start, _, rfl⟩
  obtain hray | hray := List.mem_append.mp hray
  · obtain ⟨sample, hsample, side, rfl⟩ := mem_sideRayList hray
    exact ⟨sample, h.lefts sample hsample, side, rfl⟩
  · obtain ⟨sample, hsample, side, rfl⟩ := mem_sideRayList hray
    exact ⟨sample, h.rights sample hsample, side, rfl⟩

theorem angularRays_ok (h : SweepOk center start lefts rights) :
    ((angularRays center centerSettled start lefts rights).map PyValue.dict).all (rayOk true (scanHeading center)) = true := by
  rw [List.all_eq_true]
  intro ray hray
  obtain ⟨fields, hfields, rfl⟩ := List.mem_map.mp hray
  obtain ⟨sample, hsample, side, rfl⟩ := angularRays_mem h hfields
  exact rayFields_ok hsample.use

theorem angularRays_labels : ((angularRays center centerSettled start lefts rights).map PyValue.dict).map sideOf =
    (expectedLabels lefts.length rights.length).map some := by
  simp only [angularRays, expectedLabels, List.map_cons, List.map_append, List.map_map, Function.comp_def]
  rw [sideRayList_sides, sideRayList_sides, rayOf, rayFields_side]

theorem angularRays_bearings (h : driveEncoderAngles center = some start) :
    ((angularRays center centerSettled start lefts rights).map PyValue.dict).map relativeHeadingOf =
      (0 :: (lefts.map (sampleBearing start (scanHeading center)) ++ rights.map (sampleBearing start (scanHeading center)))).map some := by
  simp only [angularRays, List.map_cons, List.map_append, List.map_map (f := PyValue.dict), Function.comp_def]
  rw [sideRayList_bearings, sideRayList_bearings, rayOf, rayFields_relative]
  exact congrArg (some · :: _) (centerSample_bearing h)

theorem countSide_left (leftCount rightCount : Nat) : countSide "left_" ((expectedLabels leftCount rightCount).map some) = leftCount := by
  have hleft := countSide_numbered "left_" leftCount
  have hright := countSide_other (show "left_".toList.isPrefixOf "right_".toList = false by decide) (by decide) rightCount
  have hcenter : startsWith "left_" "center" = false := by decide
  simp only [countSide] at hleft hright ⊢
  simp [expectedLabels, List.countP_append, hleft, hright, hcenter]

theorem countSide_right (leftCount rightCount : Nat) : countSide "right_" ((expectedLabels leftCount rightCount).map some) = rightCount := by
  have hright := countSide_numbered "right_" rightCount
  have hcenter : startsWith "right_" "center" = false := by decide
  have hleft : countSide "right_" ((numbered "left_" leftCount).map some) = 0 := by
    rw [countSide, List.countP_eq_zero]
    intro label hlabel
    obtain ⟨_, hname, rfl⟩ := List.mem_map.mp hlabel
    obtain ⟨index, -, rfl⟩ := List.mem_map.mp hname
    simp [startsWith, String.toList_append]
  simp only [countSide] at hleft hright ⊢
  simp [expectedLabels, List.countP_append, hleft, hright, hcenter]

theorem bearingsOk_cons (center : R) (sides : List R) (leftCount : Nat) :
    bearingsOk leftCount ((center :: sides).map some) = fansOut center (sides.take leftCount) (sides.drop leftCount) := by
  have hall : ((center :: sides).map some).all Option.isSome = true := by simp
  have hvalues : ((center :: sides).map some).filterMap id = center :: sides := by simp
  rw [bearingsOk, hall, hvalues, Bool.true_and]

theorem angularOk_eq (h : SweepOk center start lefts rights) (partialScan : Bool) (rays : List (PyValue R)) :
    angularOk partialScan true (scanHeading center) rays ((angularRays center centerSettled start lefts rights).map .dict) =
      (decide (lefts.length ≤ if partialScan then 4 else 8) && decide (rights.length ≤ if partialScan then 4 else 8) &&
        (partialScan || (decide (4 ≤ lefts.length) && decide (4 ≤ rights.length))) &&
        fansOut 0 (lefts.map (sampleBearing start (scanHeading center))) (rights.map (sampleBearing start (scanHeading center))) &&
        if partialScan then PyValue.equalsItems rays ((angularRays center centerSettled start lefts rights).map .dict)
        else raysAmong rays ((angularRays center centerSettled start lefts rights).map .dict)) := by
  rw [angularOk, angularRays_labels, angularRays_bearings h.start, angularRays_ok h, countSide_left, countSide_right, bearingsOk_cons]
  have htake : ((lefts.map (sampleBearing start (scanHeading center))) ++ rights.map (sampleBearing start (scanHeading center))).take lefts.length =
      lefts.map (sampleBearing start (scanHeading center)) := List.take_left' (by simp)
  have hdrop : ((lefts.map (sampleBearing start (scanHeading center))) ++ rights.map (sampleBearing start (scanHeading center))).drop lefts.length =
      rights.map (sampleBearing start (scanHeading center)) := List.drop_left' (by simp)
  simp [htake, hdrop]

theorem fansOut_iff {left right : List R} (hleft : ∀ b ∈ left, -180 ≤ b ∧ b < 0) (hright : ∀ b ∈ right, 0 < b ∧ b ≤ 180) :
    fansOut 0 left right = true ↔ left.IsChain (· > ·) ∧ right.IsChain (· < ·) := by
  have hl : left.all (fun value => value < 0 && -maxAbsoluteBearingDeg ≤ value) = true := by
    rw [List.all_eq_true]
    intro b hb
    simp [maxAbsoluteBearingDeg, (hleft b hb).1, (hleft b hb).2]
  have hr : right.all (fun value => 0 < value && value ≤ maxAbsoluteBearingDeg) = true := by
    rw [List.all_eq_true]
    intro b hb
    simp [maxAbsoluteBearingDeg, (hright b hb).1, (hright b hb).2]
  rw [fansOut, hl, hr]
  simp

theorem legacyHeadingFieldsValid_eq {rays : List (PyDict R)} (h : ∀ ray ∈ rays, (finiteNumber (field ray "heading_deg")).isSome = true) :
    legacyHeadingFieldsValid (rays.map .dict) = some true := by
  induction rays with
  | nil => rfl
  | cons ray rays ih =>
    rw [List.map_cons, legacyHeadingFieldsValid, h ray List.mem_cons_self]
    exact ih fun other hother => h other (List.mem_cons_of_mem _ hother)

theorem angularRays_legacy (h : SweepOk center start lefts rights) :
    legacyHeadingFieldsValid ((angularRays center centerSettled start lefts rights).map .dict) = some true := by
  refine legacyHeadingFieldsValid_eq fun ray hray => ?_
  obtain ⟨sample, -, side, rfl⟩ := angularRays_mem h hray
  exact rayFields_heading

theorem angularRays_equals (h : SweepOk center start lefts rights) :
    PyValue.equalsItems ((angularRays center centerSettled start lefts rights).map .dict)
      ((angularRays center centerSettled start lefts rights).map .dict) = true := by
  refine equalsItems_self fun item hitem => ?_
  obtain ⟨ray, hray, rfl⟩ := List.mem_map.mp hitem
  obtain ⟨sample, -, side, rfl⟩ := angularRays_mem h hray
  exact rayFields_equals

end

-- The rest of a scan

section
variable {start : DriveAngles} {startImu finalImu : Option R} {final : PyDict R} {angles : DriveAngles}
variable {finalSettled bodyVerified restored : Bool} {angular : List (PyDict R)}

theorem numberOrNone_ofOption (value : Option R) : numberOrNone (.ofOption .float value : PyValue R) = some value := by
  cases value <;> rfl

theorem imuDiagnosticsOf_fields : imuDiagnosticsOf (.dict (imuFields startImu finalImu)) =
    some ⟨startImu, finalImu, scanHeadingDelta finalImu startImu⟩ := by
  simp [imuDiagnosticsOf, PyValue.dict?, imuFields, PyValue.hasKeys, field_cons, PyValue.isStr, numberOrNone_ofOption, guard]

theorem imuErrorOk_fields : imuErrorOk (⟨startImu, finalImu, scanHeadingDelta finalImu startImu⟩ : ImuDiagnostics R) = true := by
  rw [imuErrorOk]
  dsimp only
  cases scanHeadingDelta finalImu startImu with
  | none => rfl
  | some delta => exact isClose_self delta (by positivity)

theorem restorationOf_fields (hfinal : driveEncoderAngles final = some angles) :
    restorationOf (.dict (restorationFields final (driveEncoderAngles final) start finalSettled bodyVerified)) = some {
      commonModeResidueMm := commonModeResidue R angles start
      opposedResidueDeg := encoderRelativeBearing R angles start
      motionStopped := motionStopped final
      observationSettled := finalSettled
      bodyPoseVerified := bodyVerified } := by
  simp [restorationOf, PyValue.dict?, restorationFields, PyValue.hasKeys, field_cons, PyValue.bool?, hfinal, PyValue.ofOption, finiteNumber, guard]

theorem geometryFinal_close : isClose (scanRelativeBearing angles start finalImu startImu)
    (geometryFinal true angles start ⟨startImu, finalImu, scanHeadingDelta finalImu startImu⟩) anglePrecisionDeg = true := by
  rw [scanRelativeBearing_eq, geometryFinal, rawBearing]
  dsimp only
  cases h : scanHeadingDelta finalImu startImu with
  | none => exact isClose_self _ (by rw [anglePrecisionDeg]; positivity)
  | some measured => exact isClose_rounded measured

end

-- Partial scans

section
variable {center : PyDict R} {centerSettled : Bool} {start : DriveAngles} {lefts rights : List (Sample R)}
variable {final : PyDict R} {angles : DriveAngles} {finalSettled bodyVerified : Bool} {turnCount : Nat} {angular : List (PyDict R)}

theorem partial_partialScan {startImu : Option R} :
    partialScan (partialSweepScan start startImu turnCount final finalSettled bodyVerified angular) = true := by
  simp [partialScan, partialSweepScan, field_cons, PyValue.isStr]

theorem partial_measuredBearings {startImu : Option R} :
    measuredBearings (partialSweepScan start startImu turnCount final finalSettled bodyVerified angular) = true := by
  simp [measuredBearings, partialSweepScan, commonFields, field_cons, PyValue.isStr]

theorem partial_startImuOf {startImu : Option R} :
    startImuOf (partialSweepScan start startImu turnCount final finalSettled bodyVerified angular) = startImu := by
  simp [startImuOf, partialSweepScan, commonFields, field_cons, PyValue.dict?, imuFields, finiteNumber_ofOption]

theorem partial_evidenceRays {startImu : Option R} :
    evidenceRays (partialSweepScan start startImu turnCount final finalSettled bodyVerified angular) = .list (angular.map .dict) := by
  simp [evidenceRays, partialSweepScan, commonFields, field_cons]

theorem partial_raysOk (h : SweepOk center start lefts rights) (hlefts : lefts.length ≤ 4) (hrights : rights.length ≤ 4) :
    raysOk (partialSweepScan start (scanHeading center) turnCount final finalSettled bodyVerified
        (angularRays center centerSettled start lefts rights)) ((angularRays center centerSettled start lefts rights).map .dict) =
      fansOut 0 (lefts.map (sampleBearing start (scanHeading center))) (rights.map (sampleBearing start (scanHeading center))) := by
  rw [raysOk, partial_partialScan, partial_measuredBearings, partial_startImuOf, partial_evidenceRays, angularRays_ok h]
  have hangular : ∀ rays : List (PyDict R), field (partialSweepScan start (scanHeading center) turnCount final finalSettled bodyVerified rays)
      "angular_rays" = .list (rays.map .dict) := fun rays => by simp [partialSweepScan, commonFields, field_cons]
  have hsettled : ∀ rays : List (PyDict R), field (partialSweepScan start (scanHeading center) turnCount final finalSettled bodyVerified rays)
      "all_observations_settled" = .bool (rays.all fun ray => settledRay (.dict ray)) :=
    fun rays => by simp [partialSweepScan, commonFields, field_cons]
  rw [hangular, hsettled]
  dsimp only
  rw [angularOk_eq h]
  simp [hlefts, hrights, angularRays_equals h, List.all_map, Function.comp_def]

theorem partial_endOk (hfinal : driveEncoderAngles final = some angles) (hcount : 1 ≤ turnCount ∧ turnCount ≤ 24) :
    endOk (partialSweepScan start (scanHeading center) turnCount final finalSettled bodyVerified angular) start angles
        { commonModeResidueMm := commonModeResidue R angles start
          opposedResidueDeg := encoderRelativeBearing R angles start
          motionStopped := motionStopped final
          observationSettled := finalSettled
          bodyPoseVerified := bodyVerified }
        ⟨scanHeading center, scanHeading final, scanHeadingDelta (scanHeading final) (scanHeading center)⟩
        (some ⟨|scanSweepBearing angles start (scanHeading final) (scanHeading center)|,
          if 0 < scanSweepBearing angles start (scanHeading final) (scanHeading center) then "right" else "left", turnCount⟩) =
      (decide (0 < |scanSweepBearing angles start (scanHeading final) (scanHeading center)|) &&
        decide (|scanSweepBearing angles start (scanHeading final) (scanHeading center)| < 350)) := by
  have hstart : finiteNumber (field (partialSweepScan start (scanHeading center) turnCount final finalSettled bodyVerified angular)
      "start_heading_deg") = some 0 := by simp [partialSweepScan, commonFields, field_cons, finiteNumber]
  have hheading : finiteNumber (field (partialSweepScan start (scanHeading center) turnCount final finalSettled bodyVerified angular)
      "final_heading_deg") = some (scanRelativeBearing angles start (scanHeading final) (scanHeading center)) := by
    simp [partialSweepScan, commonFields, field_cons, finiteNumber_ofOption, hfinal]
  have herror : finiteNumber (field (partialSweepScan start (scanHeading center) turnCount final finalSettled bodyVerified angular)
      "restoration_error_deg") = some (scanRelativeBearing angles start (scanHeading final) (scanHeading center)) := by
    simp [partialSweepScan, commonFields, field_cons, finiteNumber_ofOption, hfinal]
  have hverified : (field (partialSweepScan start (scanHeading center) turnCount final finalSettled bodyVerified angular)
      "restoration_verified").bool? = some false := by simp [partialSweepScan, commonFields, field_cons, PyValue.bool?]
  have hresult : (field (partialSweepScan start (scanHeading center) turnCount final finalSettled bodyVerified angular)
      "result").isStr "coverage_incomplete" = true := by simp [partialSweepScan, field_cons, PyValue.isStr]
  have hnano : (0 : R) ≤ 1 / 10 ^ 9 := by positivity
  rw [endOk, partial_partialScan, partial_measuredBearings, hstart, hheading, herror, hverified, imuErrorOk_fields]
  simp only [if_true, Option.any_some, geometryFinal_close, isClose_self _ hnano, hresult, Bool.not_true, Bool.false_or, Bool.true_or,
    Bool.false_and, Option.all_some, Bool.and_true, decide_true]
  rw [sweepOk]
  dsimp only
  generalize scanSweepBearing angles start (scanHeading final) (scanHeading center) = sweep
  have hcount' : 1 ≤ (turnCount : Int) ∧ (turnCount : Int) ≤ maxTurnPulses := ⟨by exact_mod_cast hcount.1, by rw [maxTurnPulses]; exact_mod_cast hcount.2⟩
  rw [isClose_self _ hnano]
  obtain hneg | rfl | hpos := lt_trichotomy sweep 0
  · simp [hcount', hneg, not_lt.mpr hneg.le]
  · simp
  · simp [hcount', hpos]

theorem partial_contractOk (h : SweepOk center start lefts rights) (hlefts : lefts.length ≤ 4) (hrights : rights.length ≤ 4)
    (hfinal : driveEncoderAngles final = some angles) (hcount : 1 ≤ turnCount ∧ turnCount ≤ 24) :
    contractOk (partialSweepScan start (scanHeading center) turnCount final finalSettled bodyVerified
        (angularRays center centerSettled start lefts rights)) =
      (fansOut 0 (lefts.map (sampleBearing start (scanHeading center))) (rights.map (sampleBearing start (scanHeading center))) &&
        (decide (0 < |scanSweepBearing angles start (scanHeading final) (scanHeading center)|) &&
          decide (|scanSweepBearing angles start (scanHeading final) (scanHeading center)| < 350))) := by
  obtain ⟨scan, hscan⟩ : ∃ scan, scan = partialSweepScan start (scanHeading center) turnCount final finalSettled bodyVerified
      (angularRays center centerSettled start lefts rights) := ⟨_, rfl⟩
  have hsource : field scan "bearing_source" = .str bearingSource := by simp [hscan, partialSweepScan, commonFields, field_cons]
  have hframe : field scan "bearing_frame" = .str bearingFrame := by simp [hscan, partialSweepScan, commonFields, field_cons]
  have hrays : field scan "rays" = .list ((angularRays center centerSettled start lefts rights).map .dict) := by
    simp [hscan, partialSweepScan, field_cons]
  have hstart : field scan "encoder_start_angles_deg" = .dict start.toDict := by simp [hscan, partialSweepScan, commonFields, field_cons]
  have hangles : field scan "encoder_final_angles_deg" = .dict angles.toDict := by
    simp [hscan, partialSweepScan, commonFields, field_cons, hfinal, PyValue.ofOption]
  have hrestoration : field scan "encoder_restoration" =
      .dict (restorationFields final (driveEncoderAngles final) start finalSettled bodyVerified) := by
    simp [hscan, partialSweepScan, commonFields, field_cons]
  have himu : field scan "imu_heading_diagnostics" = .dict (imuFields (scanHeading center) (scanHeading final)) := by
    simp [hscan, partialSweepScan, commonFields, field_cons]
  have hsweep : sweepOf scan = some (some ⟨|scanSweepBearing angles start (scanHeading final) (scanHeading center)|,
      if 0 < scanSweepBearing angles start (scanHeading final) (scanHeading center) then "right" else "left", turnCount⟩) := by
    simp [sweepOf, hscan, partialSweepScan, field_cons, hfinal, finiteNumber]
  rw [← hscan, contractOk, hsource, hframe, hrays, hstart, hangles, hrestoration, himu, exactDriveAngles_toDict, exactDriveAngles_toDict,
    restorationOf_fields hfinal, imuDiagnosticsOf_fields, hsweep]
  dsimp only
  rw [hscan, partial_raysOk h hlefts hrights, partial_endOk hfinal hcount]
  simp [PyValue.isStr]

theorem partial_validate (h : SweepOk center start lefts rights) (hlefts : lefts.length ≤ 4) (hrights : rights.length ≤ 4)
    (hfinal : driveEncoderAngles final = some angles) (hcount : 1 ≤ turnCount ∧ turnCount ≤ 24) :
    validateBlastScanRayContract (.dict (partialSweepScan start (scanHeading center) turnCount final finalSettled bodyVerified
        (angularRays center centerSettled start lefts rights))) =
      if fansOut 0 (lefts.map (sampleBearing start (scanHeading center))) (rights.map (sampleBearing start (scanHeading center))) = true ∧
          0 < |scanSweepBearing angles start (scanHeading final) (scanHeading center)| ∧
          |scanSweepBearing angles start (scanHeading final) (scanHeading center)| < 350 then
        .ok (partialSweepScan start (scanHeading center) turnCount final finalSettled bodyVerified
          (angularRays center centerSettled start lefts rights))
      else .error .invalid := by
  have hschema : (field (partialSweepScan start (scanHeading center) turnCount final finalSettled bodyVerified
      (angularRays center centerSettled start lefts rights)) "schema").isStr schema = true := by
    simp [partialSweepScan, commonFields, field_cons, PyValue.isStr]
  rw [validateBlastScanRayContract, hschema, partial_evidenceRays]
  dsimp only
  rw [if_pos rfl, angularRays_legacy h, partial_contractOk h hlefts hrights hfinal hcount]
  simp

-- The samples that are kept

variable {samples : List (Sample R)} {startImu : Option R}

/-- The bearings of the samples that are picked of one side. -/
def keptBearings (start : DriveAngles) (startImu : Option R) (left : Bool) (samples : List (Sample R)) : List R :=
  (boundedSide left (candidates start startImu samples)).map Prod.fst

theorem thin_length (most : Nat) (values : List α) : (thin R most values).length ≤ most := by
  unfold thin
  split
  · exact (List.length_filterMap_le _ _).trans (by simp)
  · omega

theorem mem_of_mem_thin {most : Nat} {values : List α} {value : α} (h : value ∈ thin R most values) : value ∈ values := by
  unfold thin at h
  split at h
  · obtain ⟨index, -, hget⟩ := List.mem_filterMap.mp h
    exact List.mem_of_getElem? hget
  · exact h

theorem thin_pairwise {most : Nat} {values : List α} {r : α → α → Prop} (hrefl : ∀ a, r a a) (h : values.Pairwise r) :
    (thin R most values).Pairwise r := by
  unfold thin
  split
  · rw [List.pairwise_filterMap]
    refine List.pairwise_lt_range.imp fun {i j} hij a ha b hb => ?_
    have hle : (roundEven (((i * (values.length - 1) : Nat) : R) / ((most - 1 : Nat) : R))).toNat ≤
        (roundEven (((j * (values.length - 1) : Nat) : R) / ((most - 1 : Nat) : R))).toNat := by
      refine Int.toNat_le_toNat (roundEven_mono ?_)
      gcongr
    obtain heq | hlt := Nat.eq_or_lt_of_le hle
    · rw [heq] at ha
      rw [Option.some.inj (ha.symm.trans hb)]
      exact hrefl b
    · obtain ⟨hi, rfl⟩ := List.getElem?_eq_some_iff.mp ha
      obtain ⟨hj, rfl⟩ := List.getElem?_eq_some_iff.mp hb
      exact List.pairwise_iff_getElem.mp h _ _ hi hj hlt
  · exact h

theorem mem_boundedSide {left : Bool} {item : R × Sample R} (h : item ∈ boundedSide left (candidates start startImu samples)) :
    item.2 ∈ samples ∧ bearingOf start startImu item.2 = some item.1 ∧ if left then item.1 < 0 else 0 < item.1 := by
  have hmem := List.mem_filter.mp ((List.mergeSort_perm _ _).mem_iff.mp (mem_of_mem_thin h))
  obtain ⟨sample, hsample, hitem⟩ := List.mem_filterMap.mp hmem.1
  split at hitem
  next bearing hbearing =>
    split at hitem
    · cases hitem
    · cases hitem
      refine ⟨hsample, hbearing, ?_⟩
      cases left <;> simpa using hmem.2
  next => cases hitem

theorem boundedSide_sorted (left : Bool) (values : List (R × Sample R)) :
    (boundedSide left values).Pairwise fun a b => |a.1| ≤ |b.1| := by
  refine thin_pairwise (fun _ => le_rfl) ?_
  have hsorted : (byAngle (values.filter fun item => if left then item.1 < 0 else 0 < item.1)).Pairwise
      fun a b => decide (|a.1| ≤ |b.1|) = true :=
    List.pairwise_mergeSort (fun a b c => by simpa using fun hab hbc => hab.trans hbc) (fun a b => by simpa using le_total _ _) _
  exact hsorted.imp fun hab => by simpa using hab

theorem keptBearings_left : ∀ b ∈ keptBearings start startImu true samples, -180 ≤ b ∧ b < 0 := by
  intro b hb
  obtain ⟨item, hitem, rfl⟩ := List.mem_map.mp hb
  obtain ⟨-, hbearing, hneg⟩ := mem_boundedSide hitem
  obtain ⟨current, -, hcurrent⟩ := Option.map_eq_some_iff.mp hbearing
  exact ⟨hcurrent ▸ scanRelativeBearing_mem.1, by simpa using hneg⟩

theorem keptBearings_right : ∀ b ∈ keptBearings start startImu false samples, 0 < b ∧ b ≤ 180 := by
  intro b hb
  obtain ⟨item, hitem, rfl⟩ := List.mem_map.mp hb
  obtain ⟨-, hbearing, hpos⟩ := mem_boundedSide hitem
  obtain ⟨current, -, hcurrent⟩ := Option.map_eq_some_iff.mp hbearing
  exact ⟨by simpa using hpos, hcurrent ▸ scanRelativeBearing_mem.2⟩

theorem isChain_iff_nodup {values : List R} {r : R → R → Prop} [IsTrans R r] (hirrefl : ∀ a, ¬ r a a)
    (h : values.Pairwise fun a b => a ≠ b → r a b) : values.IsChain r ↔ values.Nodup := by
  rw [List.isChain_iff_pairwise]
  constructor
  · intro hr
    refine hr.imp ?_
    rintro a b hab rfl
    exact hirrefl a hab
  · exact fun hn => (h.and hn).imp fun hab => hab.1 hab.2

theorem keptBearings_fansOut : fansOut 0 (keptBearings start startImu true samples) (keptBearings start startImu false samples) = true ↔
    (keptBearings start startImu true samples).Nodup ∧ (keptBearings start startImu false samples).Nodup := by
  have hsorted : ∀ left, (keptBearings start startImu left samples).Pairwise fun a b => |a| ≤ |b| := fun left =>
    List.pairwise_map.mpr (boundedSide_sorted left _)
  have hleft := (hsorted true).imp_of_mem fun {a b} ha hb (hab : |a| ≤ |b|) (hne : a ≠ b) => by
    rw [abs_of_neg (keptBearings_left a ha).2, abs_of_neg (keptBearings_left b hb).2, neg_le_neg_iff] at hab
    exact (lt_of_le_of_ne hab hne.symm : a > b)
  have hright := (hsorted false).imp_of_mem fun {a b} ha hb (hab : |a| ≤ |b|) (hne : a ≠ b) => by
    rw [abs_of_pos (keptBearings_right a ha).1, abs_of_pos (keptBearings_right b hb).1] at hab
    exact lt_of_le_of_ne hab hne
  rw [fansOut_iff keptBearings_left keptBearings_right, isChain_iff_nodup (r := (· > ·)) lt_irrefl hleft,
    isChain_iff_nodup (r := (· < ·)) lt_irrefl hright]

theorem sampleBearing_kept (hsamples : ∀ sample ∈ samples, SampleOk sample) (left : Bool) :
    ((boundedSide left (candidates start startImu samples)).map Prod.snd).map (sampleBearing start startImu) =
      keptBearings start startImu left samples := by
  rw [List.map_map, keptBearings]
  refine List.map_congr_left fun item hitem => ?_
  obtain ⟨hmem, hbearing, -⟩ := mem_boundedSide hitem
  rw [bearingOf, (hsamples _ hmem).angles] at hbearing
  exact Option.some.inj hbearing

/-- The bearings of one side, the smallest angle first. -/
def sideBearings (start : DriveAngles) (startImu : Option R) (left : Bool) (samples : List (Sample R)) : List R :=
  ((samples.map (sampleBearing start startImu)).filter fun b => if left then b < 0 else 0 < b).mergeSort fun a b => |a| ≤ |b|

theorem thin_map {β : Type} (most : Nat) (f : α → β) (values : List α) : (thin R most values).map f = thin R most (values.map f) := by
  unfold thin
  rw [List.length_map]
  split
  · rw [List.map_filterMap]
    simp only [List.getElem?_map]
  · rfl

theorem candidates_fst (hsamples : ∀ sample ∈ samples, SampleOk sample) :
    (candidates start startImu samples).map Prod.fst = (samples.map (sampleBearing start startImu)).filter (· ≠ 0) := by
  induction samples with
  | nil => rfl
  | cons sample samples ih =>
    have hbearing : bearingOf start startImu sample = some (sampleBearing start startImu sample) := by
      rw [bearingOf, (hsamples _ List.mem_cons_self).angles]
      rfl
    have hrest := ih fun other hother => hsamples other (List.mem_cons_of_mem _ hother)
    rw [candidates] at hrest ⊢
    rw [List.filterMap_cons, hbearing, List.map_cons, List.filter_cons]
    by_cases hzero : sampleBearing start startImu sample = 0
    · simpa [hzero] using hrest
    · simpa [hzero] using hrest

theorem keptBearings_eq (hsamples : ∀ sample ∈ samples, SampleOk sample) (left : Bool) :
    keptBearings start startImu left samples = thin R 4 (sideBearings start startImu left samples) := by
  have hsort := fun values : List (R × Sample R) =>
    @List.map_mergeSort _ _ (fun a b => |a.1| ≤ |b.1|) (fun a b => |a| ≤ |b|) Prod.fst values fun _ _ _ _ => rfl
  rw [keptBearings, boundedSide, thin_map, byAngle, hsort, sideBearings]
  have hfilter : (((candidates start startImu samples).filter fun item => if left then item.1 < 0 else 0 < item.1).map Prod.fst) =
      ((candidates start startImu samples).map Prod.fst).filter fun b => if left then b < 0 else 0 < b := by
    rw [List.filter_map]
    rfl
  rw [hfilter, candidates_fst hsamples, List.filter_filter]
  congr 2
  refine List.filter_congr fun b _ => ?_
  cases left <;> simp +contextual [ne_of_gt, ne_of_lt]

/-- A sweep that was cut short is kept, unless it ended where it began or after
a full turn, or two bearings that are picked of a side are the same. -/
theorem partial_scan_kept_iff {last : Sample R} (hcenter : driveEncoderAngles center = some start)
    (hsamples : ∀ sample ∈ samples, SampleOk sample) (hcount : 1 ≤ samples.length ∧ samples.length ≤ 24)
    (hlast : samples.getLast? = some last) (centerSettled bodyVerified : Bool) :
    (∃ scan, buildBlastPartialScan center centerSettled start samples last.observation last.settled bodyVerified = .ok scan ∧
        validateBlastScanRayContract (.dict scan) = .ok scan) ↔
      (0 < |scanSweepBearing (anglesOf last) start (scanHeading last.observation) (scanHeading center)| ∧
          |scanSweepBearing (anglesOf last) start (scanHeading last.observation) (scanHeading center)| < 350) ∧
        (thin R 4 (sideBearings start (scanHeading center) true samples)).Nodup ∧
        (thin R 4 (sideBearings start (scanHeading center) false samples)).Nodup := by
  rw [← keptBearings_eq hsamples, ← keptBearings_eq hsamples]
  have hside : ∀ left, ∀ sample ∈ (boundedSide left (candidates start (scanHeading center) samples)).map Prod.snd, SampleOk sample := by
    intro left sample hsample
    obtain ⟨item, hitem, rfl⟩ := List.mem_map.mp hsample
    exact hsamples _ (mem_boundedSide hitem).1
  have hsweep : SweepOk center start ((boundedSide true (candidates start (scanHeading center) samples)).map Prod.snd)
      ((boundedSide false (candidates start (scanHeading center) samples)).map Prod.snd) := ⟨hcenter, hside true, hside false⟩
  have hlength : ∀ left, ((boundedSide left (candidates start (scanHeading center) samples)).map Prod.snd).length ≤ 4 := fun left => by
    rw [List.length_map]
    exact thin_length 4 _
  have hlastOk := hsamples last (List.mem_of_getLast? hlast)
  have hbuild : buildBlastPartialScan center centerSettled start samples last.observation last.settled bodyVerified =
      validateBlastScanRayContract (.dict (partialSweepScan start (scanHeading center) samples.length last.observation last.settled bodyVerified
        (angularRays center centerSettled start ((boundedSide true (candidates start (scanHeading center) samples)).map Prod.snd)
          ((boundedSide false (candidates start (scanHeading center) samples)).map Prod.snd)))) := by
    simp only [buildBlastPartialScan, scanRay_eq (centerSample_ok hcenter), sideRays_eq (hside true), sideRays_eq (hside false)]
    rfl
  have hvalidate := fun settled => @partial_validate R _ _ _ _ center centerSettled start _ _ last.observation _ settled bodyVerified
    samples.length hsweep (hlength true) (hlength false) hlastOk.angles hcount
  have hkept := fun settled => (hvalidate settled).trans (by rw [sampleBearing_kept hsamples, sampleBearing_kept hsamples])
  rw [hbuild, hkept]
  split
  next hcond => exact iff_of_true ⟨_, rfl, (hkept _).trans (if_pos hcond)⟩ ⟨hcond.2, keptBearings_fansOut.mp hcond.1⟩
  next hcond => exact iff_of_false (fun ⟨_, h, _⟩ => by cases h) fun h => hcond ⟨keptBearings_fansOut.mpr h.2, h.1⟩

/-- A stop of the sweep, its wheels turned as given since the start. -/
def stopAt (left right : Int) : Sample ℚ :=
  ⟨[("motor_angles_deg", .dict [("left_drive", .int left), ("right_drive", .int right)]),
      ("motion_active", .bool false), ("distance_mm", .float 800)], true, settledRange⟩

theorem stopAt_ok (left right : Int) : SampleOk (stopAt left right) := ⟨rfl, rfl⟩

theorem short_sweep_kept : ∃ scan, buildBlastPartialScan (stopAt 0 0).observation true ⟨0, 0⟩ [stopAt (-45) 45]
      (stopAt (-45) 45).observation true true = .ok scan ∧ validateBlastScanRayContract (.dict scan) = .ok scan := by
  have hsamples : ∀ sample ∈ [stopAt (-45) 45], SampleOk sample := by simp [stopAt_ok]
  have hlast : [stopAt (-45) 45].getLast? = some (stopAt (-45) 45) := rfl
  exact (partial_scan_kept_iff rfl hsamples (by decide) hlast true true).mpr (by decide +kernel)

/-- The sweep was cut short before its first pulse turned the robot. -/
theorem unmoved_sweep_rejected : driveEncoderAngles (stopAt 0 0).observation = some ⟨0, 0⟩ ∧ SampleOk (stopAt 0 0) ∧
    ¬ ∃ scan, buildBlastPartialScan (stopAt 0 0).observation true ⟨0, 0⟩ [stopAt 0 0] (stopAt 0 0).observation true true = .ok scan := by
  refine ⟨rfl, stopAt_ok 0 0, ?_⟩
  rintro ⟨scan, hscan⟩
  have hnone : (buildBlastPartialScan (stopAt 0 0).observation true ⟨0, 0⟩ [stopAt 0 0] (stopAt 0 0).observation true true).toOption.isNone := by
    decide +kernel
  rw [hscan] at hnone
  cases hnone

end

end RobotLlm.Blast.Scan
