import RobotLlm.Blast.ScanBuildLaws

/-!
# Front arcs and their verdict

The builder judges the heading that is left over after it was rounded, the
contract before. They differ where the gyroscope is just over the tolerance.
-/

namespace RobotLlm.Blast.Scan

open RobotLlm.Lib
open RobotLlm.Lib.PyValue (field)

set_option linter.unusedSectionVars false

variable {R : Type} [Field R] [LinearOrder R] [IsStrictOrderedRing R] [FloorRing R]

-- The five rays

section
variable {center : PyDict R} {centerSettled : Bool} {start : DriveAngles} {lefts rights : List (Sample R)}

theorem withSide_rayFields (other side : String) (observation : PyDict R) (current start : DriveAngles) (settled : Bool) (evidenceUse : String)
    (startImu : Option R) : withSide other (rayFields side observation current start settled evidenceUse startImu) =
      rayFields other observation current start settled evidenceUse startImu := by
  simp [withSide, rayFields]

/-- The rays of the front: the start, and two samples of each side. -/
def frontRays (center : PyDict R) (centerSettled : Bool) (start : DriveAngles) (left right : List (PyDict R)) : List (PyDict R) :=
  [rayOf start (scanHeading center) "center" (centerSample center centerSettled), withSide "left_near" (left.getD 1 []),
    withSide "left_far" (left.getD 3 []), withSide "right_near" (right.getD 1 []), withSide "right_far" (right.getD 3 [])]

theorem sideRay_withSide {label : String} {samples : List (Sample R)} {startImu : Option R} (hsamples : ∀ sample ∈ samples, SampleOk sample)
    {index : Nat} (hindex : index < samples.length) (other : String) :
    ∃ sample, SampleOk sample ∧ ∃ side, rayOf start startImu side sample ∈ sideRayList start startImu label samples ∧
      withSide other ((sideRayList start startImu label samples).getD index []) = rayOf start startImu other sample := by
  have hlt : index < (sideRayList start startImu label samples).length := by rwa [sideRayList_length]
  have hget := List.getElem_mem hlt
  obtain ⟨sample, hsample, side, hray⟩ := mem_sideRayList hget
  refine ⟨sample, hsamples sample hsample, side, hray ▸ hget, ?_⟩
  rw [List.getD_eq_getElem?_getD, List.getElem?_eq_getElem hlt, Option.getD_some, hray]
  exact withSide_rayFields ..

def FrontRay (center : PyDict R) (start : DriveAngles) (angular : List (PyDict R)) (side : String) (ray : PyDict R) : Prop :=
  ∃ sample, SampleOk sample ∧ ray = rayOf start (scanHeading center) side sample ∧
    ∃ label, rayOf start (scanHeading center) label sample ∈ angular

theorem FrontRay.sideOf {angular : List (PyDict R)} {side : String} {ray : PyDict R} (h : FrontRay center start angular side ray) :
    sideOf (.dict ray) = some side := by
  obtain ⟨sample, -, rfl, -⟩ := h
  exact rayFields_side

theorem FrontRay.ok {angular : List (PyDict R)} {side : String} {ray : PyDict R} (h : FrontRay center start angular side ray) :
    rayOk true (scanHeading center) (.dict ray) = true := by
  obtain ⟨sample, hsample, rfl, -⟩ := h
  exact rayFields_ok hsample.use

theorem FrontRay.among {angular : List (PyDict R)} {side : String} {ray : PyDict R} (h : FrontRay center start angular side ray) :
    (angular.map PyValue.dict).any (sameRay (.dict ray)) = true := by
  obtain ⟨sample, -, rfl, label, hmem⟩ := h
  refine List.any_eq_true.mpr ⟨_, List.mem_map_of_mem hmem, ?_⟩
  rw [rayOf, ← withSide_rayFields side label]
  exact rayFields_sameRay side

theorem frontRay_of_side {label : String} {samples : List (Sample R)} {angular : List (PyDict R)}
    (hsamples : ∀ sample ∈ samples, SampleOk sample) (hsub : ∀ ray ∈ sideRayList start (scanHeading center) label samples, ray ∈ angular)
    {index : Nat} (hindex : index < samples.length) (side : String) :
    FrontRay center start angular side (withSide side ((sideRayList start (scanHeading center) label samples).getD index [])) := by
  obtain ⟨sample, hsample, own, hmem, hray⟩ := sideRay_withSide hsamples hindex side
  exact ⟨sample, hsample, hray, own, hsub _ hmem⟩

theorem frontRays_ok (h : SweepOk center start lefts rights) (hlefts : lefts.length = 4) (hrights : rights.length = 4) :
    ((frontRays center centerSettled start (sideRayList start (scanHeading center) "left_" lefts)
        (sideRayList start (scanHeading center) "right_" rights)).map PyValue.dict).map sideOf = scanRaySides.map some ∧
      ((frontRays center centerSettled start (sideRayList start (scanHeading center) "left_" lefts)
        (sideRayList start (scanHeading center) "right_" rights)).map PyValue.dict).all (rayOk true (scanHeading center)) = true ∧
      raysAmong ((frontRays center centerSettled start (sideRayList start (scanHeading center) "left_" lefts)
        (sideRayList start (scanHeading center) "right_" rights)).map PyValue.dict)
        ((angularRays center centerSettled start lefts rights).map .dict) = true := by
  have hleft := fun index hindex side => @frontRay_of_side R _ _ _ _ center start "left_" lefts (angularRays center centerSettled start lefts rights)
    h.lefts (fun ray hray => List.mem_cons_of_mem _ (List.mem_append_left _ hray)) index hindex side
  have hright := fun index hindex side => @frontRay_of_side R _ _ _ _ center start "right_" rights (angularRays center centerSettled start lefts rights)
    h.rights (fun ray hray => List.mem_cons_of_mem _ (List.mem_append_right _ hray)) index hindex side
  have hnearLeft := hleft 1 (by omega) "left_near"
  have hfarLeft := hleft 3 (by omega) "left_far"
  have hnearRight := hright 1 (by omega) "right_near"
  have hfarRight := hright 3 (by omega) "right_far"
  have hcenter : FrontRay center start (angularRays center centerSettled start lefts rights) "center"
      (rayOf start (scanHeading center) "center" (centerSample center centerSettled)) :=
    ⟨_, centerSample_ok h.start, rfl, "center", List.mem_cons_self⟩
  have hsame : sameRay (.dict (rayOf start (scanHeading center) "center" (centerSample center centerSettled)))
      (.dict (rayOf start (scanHeading center) "center" (centerSample center centerSettled))) = true := rayFields_sameRay_self
  refine ⟨?_, ?_, ?_⟩
  · simp only [frontRays, List.map_cons, List.map_nil, hcenter.sideOf, hnearLeft.sideOf, hfarLeft.sideOf, hnearRight.sideOf, hfarRight.sideOf]
    rfl
  · simp only [frontRays, List.map_cons, List.map_nil, List.all_cons, List.all_nil, hcenter.ok, hnearLeft.ok, hfarLeft.ok, hnearRight.ok,
      hfarRight.ok, Bool.and_true]
  · have hamong := fun side ray (hray : FrontRay center start (angularRays center centerSettled start lefts rights) side ray) => hray.among
    simp only [frontRays, angularRays, List.map_cons, List.map_nil] at hamong ⊢
    rw [raysAmong, hsame, List.all_cons, List.all_cons, List.all_cons, List.all_cons, hamong _ _ hnearLeft, hamong _ _ hfarLeft,
      hamong _ _ hnearRight, hamong _ _ hfarRight]
    rfl

end

-- The two verdicts

section
variable {center : PyDict R} {centerSettled : Bool} {start : DriveAngles} {lefts rights : List (Sample R)}
variable {final : PyDict R} {angles : DriveAngles} {finalSettled bodyVerified : Bool}

/-- The scan that is built of a front arc, before its check. -/
def builtFront (center : PyDict R) (centerSettled : Bool) (start : DriveAngles) (lefts rights : List (Sample R)) (final : PyDict R)
    (finalSettled bodyVerified : Bool) : PyDict R :=
  frontArcScan center start final finalSettled bodyVerified (rayOf start (scanHeading center) "center" (centerSample center centerSettled))
    (sideRayList start (scanHeading center) "left_" lefts) (sideRayList start (scanHeading center) "right_" rights)

theorem commonFields_lookup {startImu : Option R} {restored : Bool} {angular : List (PyDict R)} (name : String)
    (hfinal : driveEncoderAngles final = some angles) :
    field (commonFields start startImu final finalSettled bodyVerified restored angular) name =
      if name = "schema" then .str schema
      else if name = "bearing_source" then .str bearingSource
      else if name = "bearing_frame" then .str bearingFrame
      else if name = "start_heading_deg" then .float 0
      else if name = "final_heading_deg" then .float (scanRelativeBearing angles start (scanHeading final) startImu)
      else if name = "restoration_error_deg" then .float (scanRelativeBearing angles start (scanHeading final) startImu)
      else if name = "restoration_verified" then .bool restored
      else if name = "encoder_start_angles_deg" then .dict start.toDict
      else if name = "encoder_final_angles_deg" then .dict angles.toDict
      else if name = "encoder_restoration" then .dict (restorationFields final (some angles) start finalSettled bodyVerified)
      else if name = "imu_heading_diagnostics" then .dict (imuFields startImu (scanHeading final))
      else if name = "all_observations_settled" then .bool (angular.all fun ray => settledRay (.dict ray))
      else if name = "angular_rays" then .list (angular.map .dict)
      else .none := by
  simp only [commonFields, field_cons, hfinal, Option.map_some]
  rfl

theorem front_lookup (name : String) : field (builtFront center centerSettled start lefts rights final finalSettled bodyVerified) name =
    if name = "state" then .str "complete"
    else if name = "result" then .str (if frontRestored start (scanHeading center) final bodyVerified then "restored" else "restoration_unverified")
    else if name = "rays" then .list ((frontRays center centerSettled start (sideRayList start (scanHeading center) "left_" lefts)
      (sideRayList start (scanHeading center) "right_" rights)).map .dict)
    else field (commonFields start (scanHeading center) final finalSettled bodyVerified
      (frontRestored start (scanHeading center) final bodyVerified) (angularRays center centerSettled start lefts rights)) name := by
  simp only [builtFront, frontArcScan, field_cons]
  rfl

theorem front_raysOk (h : SweepOk center start lefts rights) (hlefts : lefts.length = 4) (hrights : rights.length = 4)
    (hfinal : driveEncoderAngles final = some angles) :
    raysOk (builtFront center centerSettled start lefts rights final finalSettled bodyVerified)
        ((frontRays center centerSettled start (sideRayList start (scanHeading center) "left_" lefts)
          (sideRayList start (scanHeading center) "right_" rights)).map .dict) =
      fansOut 0 (lefts.map (sampleBearing start (scanHeading center))) (rights.map (sampleBearing start (scanHeading center))) := by
  obtain ⟨hsides, hok, hamong⟩ := @frontRays_ok R _ _ _ _ center centerSettled start lefts rights h hlefts hrights
  have hpartial : partialScan (builtFront center centerSettled start lefts rights final finalSettled bodyVerified) = false := by
    simp [partialScan, front_lookup, PyValue.isStr]
  have hmeasured : measuredBearings (builtFront center centerSettled start lefts rights final finalSettled bodyVerified) = true := by
    simp [measuredBearings, front_lookup, commonFields_lookup _ hfinal, PyValue.isStr]
  have himu : startImuOf (builtFront center centerSettled start lefts rights final finalSettled bodyVerified) = scanHeading center := by
    simp [startImuOf, front_lookup, commonFields_lookup _ hfinal, PyValue.dict?, imuFields, field_cons, finiteNumber_ofOption]
  simp only [raysOk, hpartial, hmeasured, himu, evidenceRays, front_lookup, commonFields_lookup _ hfinal, String.reduceEq, if_true, if_false,
    hsides, hok, angularOk_eq h]
  simp [hlefts, hrights, hamong, List.all_map, Function.comp_def]

/-- The heading that is left over: as measured, or else by the encoders. -/
def measuredError (angles start : DriveAngles) (final center : PyDict R) : R :=
  (scanHeadingDelta (scanHeading final) (scanHeading center)).getD (encoderRelativeBearing R angles start)

theorem geometryFinal_eq : geometryFinal true angles start
    ⟨scanHeading center, scanHeading final, scanHeadingDelta (scanHeading final) (scanHeading center)⟩ = measuredError angles start final center := by
  rw [geometryFinal, measuredError, if_pos rfl]
  dsimp only
  cases scanHeadingDelta (scanHeading final) (scanHeading center) <;> rfl

def contractRestored (angles start : DriveAngles) (final center : PyDict R) (bodyVerified : Bool) : Bool :=
  motionStopped final && bodyVerified && (decide (|commonModeResidue R angles start| ≤ restorationCommonModeToleranceMm) &&
    decide (|measuredError angles start final center| ≤ restorationToleranceDeg))

theorem front_contractOk (h : SweepOk center start lefts rights) (hlefts : lefts.length = 4) (hrights : rights.length = 4)
    (hfinal : driveEncoderAngles final = some angles) :
    contractOk (builtFront center centerSettled start lefts rights final finalSettled bodyVerified) =
      (fansOut 0 (lefts.map (sampleBearing start (scanHeading center))) (rights.map (sampleBearing start (scanHeading center))) &&
        frontRestored start (scanHeading center) final bodyVerified == contractRestored angles start final center bodyVerified) := by
  have hpartial : partialScan (builtFront center centerSettled start lefts rights final finalSettled bodyVerified) = false := by
    simp [partialScan, front_lookup, PyValue.isStr]
  have hmeasured : measuredBearings (builtFront center centerSettled start lefts rights final finalSettled bodyVerified) = true := by
    simp [measuredBearings, front_lookup, commonFields_lookup _ hfinal, PyValue.isStr]
  have hsweep : sweepOf (builtFront center centerSettled start lefts rights final finalSettled bodyVerified) = some none := by
    simp [sweepOf, front_lookup, commonFields_lookup _ hfinal, finiteNumber]
  have hrestoration := @restorationOf_fields R _ _ _ _ start final angles finalSettled bodyVerified hfinal
  rw [hfinal] at hrestoration
  have hnano : (0 : R) ≤ 1 / 10 ^ 9 := by positivity
  have hclose := @geometryFinal_close R _ _ _ _ start (scanHeading center) (scanHeading final) angles
  rw [geometryFinal_eq] at hclose
  have hexpected : expectedRestored ({ commonModeResidueMm := commonModeResidue R angles start
                                       opposedResidueDeg := encoderRelativeBearing R angles start
                                       motionStopped := motionStopped final
                                       observationSettled := finalSettled
                                       bodyPoseVerified := bodyVerified } : Restoration R) none (measuredError angles start final center)
      (commonModeResidue R angles start) = contractRestored angles start final center bodyVerified := rfl
  simp only [contractOk, front_lookup, commonFields_lookup _ hfinal, String.reduceEq, if_true, if_false, exactDriveAngles_toDict, hrestoration,
    imuDiagnosticsOf_fields, hsweep, front_raysOk h hlefts hrights hfinal, endOk, hpartial, hmeasured, imuErrorOk_fields, geometryFinal_eq,
    hexpected, isClose_self _ hnano, finiteNumber, Option.any_some, hclose]
  cases frontRestored start (scanHeading center) final bodyVerified <;>
    cases contractRestored angles start final center bodyVerified <;> simp [PyValue.isStr, PyValue.bool?]

theorem scanRelativeBearing_error : scanRelativeBearing angles start (scanHeading final) (scanHeading center) =
    match scanHeadingDelta (scanHeading final) (scanHeading center) with
    | some measured => roundDigits 6 measured
    | none => measuredError (R := R) angles start final center := by
  rw [scanRelativeBearing_eq, rawBearing, measuredError]
  cases scanHeadingDelta (scanHeading final) (scanHeading center) <;> rfl

/-- The gyroscope is over the tolerance, and rounded it is not. -/
def JustOver (measured : Option R) : Prop := ∃ m, measured = some m ∧ 10 < |m| ∧ |m| ≤ 10 + 5 / 10 ^ 7

theorem errors_agree_iff :
    (|scanRelativeBearing angles start (scanHeading final) (scanHeading center)| ≤ restorationToleranceDeg ↔
        |measuredError (R := R) angles start final center| ≤ restorationToleranceDeg) ↔
      ¬ JustOver (scanHeadingDelta (scanHeading final) (scanHeading center)) := by
  rw [scanRelativeBearing_error]
  cases hdelta : scanHeadingDelta (scanHeading final) (scanHeading center) with
  | none => simp [JustOver]
  | some m =>
    have hround := abs_roundDigits_le_even 6 (k := 10 ^ 7) (by decide) m
    have hbound : (((10 ^ 7 : Int) : R) / 10 ^ 6) = restorationToleranceDeg := by
      rw [restorationToleranceDeg]
      norm_num
    have htie : ((((10 ^ 7 : Int) : R) + 1 / 2) / 10 ^ 6) = 10 + 5 / 10 ^ 7 := by norm_num
    rw [hbound, htie] at hround
    rw [measuredError, hdelta, Option.getD_some]
    dsimp only
    rw [hround, restorationToleranceDeg]
    simp only [JustOver, Option.some.injEq, exists_eq_left', not_and, not_le]
    constructor
    · exact fun hiff hover => not_le.mp fun hle => not_lt.mpr (hiff.mp hle) hover
    · refine fun hover => ⟨fun hle => ?_, fun hle => hle.trans (by norm_num)⟩
      exact not_lt.mp fun hlt => not_lt.mpr hle (hover hlt)

theorem verdicts_agree_iff (hfinal : driveEncoderAngles final = some angles) :
    frontRestored start (scanHeading center) final bodyVerified = contractRestored angles start final center bodyVerified ↔
      ¬ (motionStopped final = true ∧ bodyVerified = true ∧ |commonModeResidue R angles start| ≤ 25 ∧
        JustOver (scanHeadingDelta (scanHeading final) (scanHeading center))) := by
  have hagree := @errors_agree_iff R _ _ _ _ center start final angles
  rw [frontRestored, contractRestored, hfinal, Option.any_some, Bool.eq_iff_iff]
  simp only [Bool.and_eq_true, decide_eq_true_iff]
  rw [restorationCommonModeToleranceMm] at *
  by_cases hstop : motionStopped final = true
  · by_cases hbody : bodyVerified = true
    · by_cases hcommon : |commonModeResidue R angles start| ≤ 25
      · simpa [hstop, hbody, hcommon] using hagree
      · simp [hcommon]
    · simp [hbody]
  · simp [hstop]

theorem builtFront_ok (h : SweepOk center start lefts rights) (hlefts : lefts.length = 4) (hrights : rights.length = 4) :
    buildBlastFrontArcScan center centerSettled start lefts rights final finalSettled bodyVerified =
      validateBlastScanRayContract (.dict (builtFront center centerSettled start lefts rights final finalSettled bodyVerified)) := by
  have hlengths : ¬ ((sideRayList start (scanHeading center) "left_" lefts).length ≠ 4 ∨
      (sideRayList start (scanHeading center) "right_" rights).length ≠ 4) := by
    rw [sideRayList_length, sideRayList_length]
    omega
  simp only [buildBlastFrontArcScan, scanRay_eq (centerSample_ok h.start), sideRays_eq h.lefts, sideRays_eq h.rights]
  exact if_neg hlengths

theorem builtFront_validate (h : SweepOk center start lefts rights) (hlefts : lefts.length = 4) (hrights : rights.length = 4)
    (hfinal : driveEncoderAngles final = some angles) :
    validateBlastScanRayContract (.dict (builtFront center centerSettled start lefts rights final finalSettled bodyVerified)) =
      if fansOut 0 (lefts.map (sampleBearing start (scanHeading center))) (rights.map (sampleBearing start (scanHeading center))) = true ∧
          frontRestored start (scanHeading center) final bodyVerified = contractRestored angles start final center bodyVerified then
        .ok (builtFront center centerSettled start lefts rights final finalSettled bodyVerified)
      else .error .invalid := by
  have hschema : (field (builtFront center centerSettled start lefts rights final finalSettled bodyVerified) "schema").isStr schema = true := by
    simp [front_lookup, commonFields_lookup _ hfinal, PyValue.isStr]
  have hevidence : evidenceRays (builtFront center centerSettled start lefts rights final finalSettled bodyVerified) =
      .list ((angularRays center centerSettled start lefts rights).map .dict) := by
    simp [evidenceRays, front_lookup, commonFields_lookup _ hfinal]
  rw [validateBlastScanRayContract, hschema, hevidence]
  dsimp only
  rw [if_pos rfl, angularRays_legacy h, front_contractOk h hlefts hrights hfinal]
  simp

/-- A front arc whose bearings fan out is kept with the verdict on its end,
unless the gyroscope alone speaks against it, and is just over the tolerance. -/
theorem front_scan_kept_iff (h : SweepOk center start lefts rights) (hlefts : lefts.length = 4) (hrights : rights.length = 4)
    (hfinal : driveEncoderAngles final = some angles)
    (hleftBelow : ∀ b ∈ lefts.map (sampleBearing start (scanHeading center)), b < 0)
    (hrightAbove : ∀ b ∈ rights.map (sampleBearing start (scanHeading center)), 0 < b)
    (hleftOrder : (lefts.map (sampleBearing start (scanHeading center))).IsChain (· > ·))
    (hrightOrder : (rights.map (sampleBearing start (scanHeading center))).IsChain (· < ·)) (centerSettled finalSettled bodyVerified : Bool) :
    (∃ scan, buildBlastFrontArcScan center centerSettled start lefts rights final finalSettled bodyVerified = .ok scan ∧
        validateBlastScanRayContract (.dict scan) = .ok scan ∧
        ((field scan "restoration_verified").bool? = some true ↔
          motionStopped final = true ∧ bodyVerified = true ∧ |commonModeResidue R angles start| ≤ 25 ∧
            |measuredError angles start final center| ≤ 10)) ↔
      ¬ (motionStopped final = true ∧ bodyVerified = true ∧ |commonModeResidue R angles start| ≤ 25 ∧
        JustOver (scanHeadingDelta (scanHeading final) (scanHeading center))) := by
  have hmem : ∀ samples : List (Sample R), ∀ b ∈ samples.map (sampleBearing start (scanHeading center)), -180 ≤ b ∧ b ≤ 180 := by
    intro samples b hb
    obtain ⟨sample, -, rfl⟩ := List.mem_map.mp hb
    exact scanRelativeBearing_mem
  have hfans := (fansOut_iff (fun b hb => ⟨(hmem _ b hb).1, hleftBelow b hb⟩) fun b hb => ⟨hrightAbove b hb, (hmem _ b hb).2⟩).mpr
    ⟨hleftOrder, hrightOrder⟩
  have hverified : (field (builtFront center centerSettled start lefts rights final finalSettled bodyVerified) "restoration_verified").bool? =
      some (frontRestored start (scanHeading center) final bodyVerified) := by
    simp [front_lookup, commonFields_lookup _ hfinal, PyValue.bool?]
  have hvalidate := @builtFront_validate R _ _ _ _ center centerSettled start lefts rights final angles finalSettled bodyVerified
    h hlefts hrights hfinal
  rw [← verdicts_agree_iff hfinal, builtFront_ok h hlefts hrights, hvalidate]
  split
  next hcond =>
    refine iff_of_true ⟨_, rfl, hvalidate.trans (if_pos hcond), ?_⟩ hcond.2
    rw [hverified, hcond.2, contractRestored]
    simp only [Option.some.injEq, Bool.and_eq_true, decide_eq_true_iff, and_assoc]
    exact Iff.rfl
  next hcond =>
    refine iff_of_false ?_ fun hsame => hcond ⟨hfans, hsame⟩
    rintro ⟨_, hscan, _⟩
    cases hscan

/-- Stops at these turns of the right wheel, the left one turned against it. -/
def stopsAt (turns : List Int) : List (Sample ℚ) := turns.map fun turn => stopAt (-turn) turn

theorem stopsAt_ok (turns : List Int) : ∀ sample ∈ stopsAt turns, SampleOk sample := by
  intro sample hsample
  obtain ⟨turn, -, rfl⟩ := List.mem_map.mp hsample
  exact stopAt_ok _ _

theorem even_arc_kept : ∃ scan, buildBlastFrontArcScan (stopAt 0 0).observation true ⟨0, 0⟩ (stopsAt [45, 90, 135, 180])
        (stopsAt [-45, -90, -135, -180]) (stopAt 0 0).observation true true = .ok scan ∧
      validateBlastScanRayContract (.dict scan) = .ok scan ∧
      ((field scan "restoration_verified").bool? = some true ↔
        motionStopped (stopAt 0 0).observation = true ∧ true = true ∧ |commonModeResidue ℚ ⟨0, 0⟩ ⟨0, 0⟩| ≤ 25 ∧
          |measuredError ⟨0, 0⟩ ⟨0, 0⟩ (stopAt 0 0).observation (stopAt 0 0).observation| ≤ 10) := by
  have hsweep : SweepOk (stopAt 0 0).observation ⟨0, 0⟩ (stopsAt [45, 90, 135, 180]) (stopsAt [-45, -90, -135, -180]) :=
    ⟨rfl, stopsAt_ok _, stopsAt_ok _⟩
  refine (front_scan_kept_iff hsweep rfl rfl rfl ?_ ?_ ?_ ?_ true true true).mpr ?_
  · decide +kernel
  · decide +kernel
  · decide +kernel
  · decide +kernel
  · rintro ⟨-, -, -, m, hm, -⟩
    cases hm

/-- The robot stopped, its wheels even, with this heading of the gyroscope. -/
def headingAt (heading : ℚ) : PyDict ℚ := ("imu", .dict [("heading_deg", .float heading)]) :: (stopAt 0 0).observation

/-- The gyroscope ends 10.0000001 degrees off, which rounds to the tolerance. -/
theorem just_over_discarded : SweepOk (headingAt 0) ⟨0, 0⟩ (stopsAt [45, 90, 135, 180]) (stopsAt [-45, -90, -135, -180]) ∧
    (stopsAt [45, 90, 135, 180]).map (sampleBearing ⟨0, 0⟩ (scanHeading (headingAt 0))) = [-441 / 20, -441 / 10, -1323 / 20, -441 / 5] ∧
    (stopsAt [-45, -90, -135, -180]).map (sampleBearing ⟨0, 0⟩ (scanHeading (headingAt 0))) = [441 / 20, 441 / 10, 1323 / 20, 441 / 5] ∧
    ¬ ∃ scan, buildBlastFrontArcScan (headingAt 0) true ⟨0, 0⟩ (stopsAt [45, 90, 135, 180]) (stopsAt [-45, -90, -135, -180])
      (headingAt (100000001 / 10000000)) true true = .ok scan := by
  refine ⟨⟨rfl, stopsAt_ok _, stopsAt_ok _⟩, by decide +kernel, by decide +kernel, ?_⟩
  rintro ⟨scan, hscan⟩
  have hnone : (buildBlastFrontArcScan (headingAt 0) true ⟨0, 0⟩ (stopsAt [45, 90, 135, 180]) (stopsAt [-45, -90, -135, -180])
      (headingAt (100000001 / 10000000)) true true).toOption.isNone := by
    decide +kernel
  rw [hscan] at hnone
  cases hnone

end

end RobotLlm.Blast.Scan
