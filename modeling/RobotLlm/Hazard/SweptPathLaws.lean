import RobotLlm.Hazard.PhysicalFootprintLaws
import RobotLlm.Hazard.SweptPath
import RobotLlm.Lib.Leg
import RobotLlm.Memory.StoreLaws

/-!
# What a vetoed sweep leaves

A motion that is let through keeps the body clear of every active envelope all the way, or
leads straight out of one that the robot already stands in. A look around that is let through keeps
the body clear at every heading between its extremes.
-/

namespace RobotLlm.Hazard

open RobotLlm.Lib RobotLlm.Lib.Rotation
open RobotLlm.Lib.Leg (distSq point)
open RobotLlm.Memory (gridCalibration)
open RobotLlm.Odometry (Action Fault OdometryCalibration)

variable {F : Type} [PyFloat F] {m : ProvisionalHazardMap} {body : RobotBody} {footprint : RobotFootprint}
  {pose maximum : PhysicalPose} {support : Int × Int} {radiusMm : Int} {p q e : ℝ × ℝ} {t u v : ℝ}

/-- The place of a pose and the centre of an envelope. -/
def placeOf (pose : PhysicalPose) : ℝ × ℝ := (pose.xMm, pose.yMm)

def centreOf (support : Int × Int) : ℝ × ℝ := (support.1, support.2)

noncomputable def gap (p e : ℝ × ℝ) : ℝ := hypot (p.1 - e.1) (p.2 - e.2)

theorem gap_lt_of_sq (h : distSq p e < distSq q e) : gap p e < gap q e := Real.sqrt_lt_sqrt (Leg.distSq_nonneg _ _) h

-- The distance of a segment

theorem point_still (h : distSq q p = 0) (t : ℝ) : point p q t = p := by
  have hx := sq_nonneg (q.1 - p.1)
  have hy := sq_nonneg (q.2 - p.2)
  unfold distSq at h
  have hx₀ : q.1 - p.1 = 0 := pow_eq_zero_iff two_ne_zero |>.mp (by linarith)
  have hy₀ : q.2 - p.2 = 0 := pow_eq_zero_iff two_ne_zero |>.mp (by linarith)
  rw [point, hx₀, hy₀, zero_mul, add_zero, add_zero]

theorem pointSegmentDistance_nearest (p q e : ℝ × ℝ) :
    (∃ t, 0 ≤ t ∧ t ≤ 1 ∧ pointSegmentDistance ℝ e.1 e.2 p.1 p.2 q.1 q.2 = gap (point p q t) e) ∧
    ∀ t, 0 ≤ t → t ≤ 1 → pointSegmentDistance ℝ e.1 e.2 p.1 p.2 q.1 q.2 ≤ gap (point p q t) e := by
  have hback (x y : ℝ × ℝ) : hypot (x.1 - y.1) (x.2 - y.2) = gap y x := by
    rw [gap, hypot, hypot, ← neg_sub x.1, ← neg_sub x.2, neg_sq, neg_sq]
  have hsquared : (q.1 - p.1) * (q.1 - p.1) + (q.2 - p.2) * (q.2 - p.2) = distSq q p := by
    unfold distSq
    ring
  unfold pointSegmentDistance
  dsimp only
  rw [hsquared]
  split_ifs with hle
  · have hstill := point_still (hle.antisymm (Leg.distSq_nonneg q p))
    rw [hback]
    exact ⟨⟨0, le_rfl, zero_le_one, by rw [hstill]⟩, fun t _ _ => by rw [hstill]⟩
  · have hlength : distSq q p ≠ 0 := fun h => hle h.le
    set clamped := max 0 (min 1 (((e.1 - p.1) * (q.1 - p.1) + (e.2 - p.2) * (q.2 - p.2)) / distSq q p)) with hclamped
    have hpoint : hypot (e.1 - (p.1 + clamped * (q.1 - p.1))) (e.2 - (p.2 + clamped * (q.2 - p.2))) = gap (point p q clamped) e := by
      rw [← hback, point, mul_comm clamped, mul_comm clamped]
    rw [hpoint]
    exact ⟨⟨clamped, le_max_left _ _, max_le zero_le_one (min_le_left _ _), rfl⟩,
      fun t h₀ h₁ => Real.sqrt_le_sqrt (Leg.clamped_le hlength h₀ h₁)⟩

def Reaches (pose maximum : PhysicalPose) (support : Int × Int) (distance : ℝ) : Prop :=
  ∃ t, 0 ≤ t ∧ t ≤ 1 ∧ gap (point (placeOf pose) (placeOf maximum) t) (centreOf support) ≤ distance

theorem reaches_iff {distance : ℝ} : Reaches pose maximum support distance ↔
    pointSegmentDistance ℝ support.1 support.2 pose.xMm pose.yMm maximum.xMm maximum.yMm ≤ distance := by
  obtain ⟨⟨t, h₀, h₁, hnearest⟩, hleast⟩ := pointSegmentDistance_nearest (placeOf pose) (placeOf maximum) (centreOf support)
  constructor
  · rintro ⟨s, hs₀, hs₁, hs⟩
    exact (hleast s hs₀ hs₁).trans hs
  · exact fun h => ⟨t, h₀, h₁, hnearest.symm.trans_le h⟩

-- One envelope

/-- The way leads farther out of the envelope at every point. -/
def MovesOut (pose maximum : PhysicalPose) (support : Int × Int) : Prop :=
  ∀ s t : ℝ, 0 ≤ s → s < t → gap (point (placeOf pose) (placeOf maximum) s) (centreOf support) <
    gap (point (placeOf pose) (placeOf maximum) t) (centreOf support)

theorem movesOut_of_outward (h : 0 < outward pose maximum support) : MovesOut pose maximum support := by
  intro s t hs hst
  refine gap_lt_of_sq (Leg.leaving_lt ?_ hs hst)
  have hcast : (0 : ℝ) < (outward pose maximum support : ℝ) := by exact_mod_cast h
  unfold outward at hcast
  push_cast at hcast
  exact hcast

/-- What the calibration asks between the body and the envelope holds all the way. -/
def KeepsClear (body : RobotBody) (radiusMm : Int) (pose maximum : PhysicalPose) (support : Int × Int) : Prop :=
  match body.footprint with
  | none => ¬ Reaches pose maximum support ((body.collisionRadiusMm + radiusMm : Int) : ℝ)
  | some footprint => ∀ t u v : ℝ, 0 ≤ t → t ≤ 1 → footprint.Holds u v →
      ((radiusMm + footprint.clearanceMarginMm : Int) : ℝ) < gap (bodyAt pose maximum t u v) (centreOf support)

theorem sample_covers (pose maximum : PhysicalPose) (ht : 0 ≤ t ∧ t ≤ 1) (hbody : footprint.Holds u v) (e : ℝ × ℝ) :
    ∃ sample ∈ (interpolatedSweep ℝ pose maximum footprint).1,
      pointDistance ℝ e.1 e.2 sample footprint ≤ gap (bodyAt pose maximum t u v) e + (interpolatedSweep ℝ pose maximum footprint).2 := by
  obtain ⟨index, hindex, hnear⟩ := exists_nearest (sweepSteps_pos pose maximum) ht.1 ht.2
  refine ⟨_, List.mem_map.mpr ⟨index, List.mem_range.mpr (Nat.lt_succ_of_le hindex), rfl⟩, ?_⟩
  have hmargin : (translationMm ℝ pose maximum / sweepSteps ℝ pose maximum +
      2 * footprint.maximumCornerRadiusMm ℝ * Real.sin (stepRadians pose maximum / 2)) / 2 + 1 ≤
      (interpolatedSweep ℝ pose maximum footprint).2 := by
    have hceil : (interpolatedSweep ℝ pose maximum footprint).2 = ⌈(translationMm ℝ pose maximum / sweepSteps ℝ pose maximum +
      2 * footprint.maximumCornerRadiusMm ℝ * Real.sin (stepRadians pose maximum / 2)) / 2⌉ + 1 := rfl
    rw [hceil, Int.cast_add, Int.cast_one]
    exact add_le_add_left (Int.le_ceil _) 1
  have hdistance := pointDistance_le (sampleAt ℝ pose maximum index) e.1 e.2 hbody
  have hhalf := body_half_step hnear hbody
  have hrounded := body_rounded pose maximum index hbody
  set place := bodyAt pose maximum t u v
  set sampled := bodyAt pose maximum ((index : ℝ) / sweepSteps ℝ pose maximum) u v
  set rounded := bodyOf (sampleAt ℝ pose maximum index) u v
  -- Over the place at the sample's time to the rounded sample.
  have hvia (a b c : ℝ × ℝ) : gap a c ≤ gap a b + gap b c := by
    have := hypot_add_le (a.1 - b.1) (a.2 - b.2) (b.1 - c.1) (b.2 - c.2)
    rwa [sub_add_sub_cancel, sub_add_sub_cancel] at this
  have hflip (a b : ℝ × ℝ) : gap a b = gap b a := by
    rw [gap, gap, hypot, hypot, ← neg_sub a.1, ← neg_sub a.2, neg_sq, neg_sq]
  have hfirst := hvia rounded place e
  have hsecond := hvia place sampled rounded
  rw [hflip rounded place] at hfirst
  change _ ≤ gap rounded e at hdistance
  change gap place sampled ≤ _ at hhalf
  change gap sampled rounded ≤ _ at hrounded
  linarith

theorem clear_of_swept (h : (footprintSweepIntersects ℝ support.1 support.2 radiusMm pose maximum footprint).2 = false)
    (ht : 0 ≤ t ∧ t ≤ 1) (hbody : footprint.Holds u v) :
    ((radiusMm + footprint.clearanceMarginMm : Int) : ℝ) < gap (bodyAt pose maximum t u v) (centreOf support) := by
  obtain ⟨sample, hsample, hcovers⟩ := sample_covers pose maximum ht hbody (centreOf support)
  have hfar := List.any_eq_false.mp h sample hsample
  rw [decide_eq_true_iff, not_le, Int.cast_add] at hfar
  exact lt_of_add_lt_add_right (hfar.trans_le hcovers)

theorem keepsClear_of_not_swept (h : (intersections ℝ body radiusMm pose maximum support).2 = false) :
    KeepsClear body radiusMm pose maximum support := by
  unfold KeepsClear
  unfold intersections at h
  cases hfootprint : body.footprint with
  | none =>
    rw [hfootprint] at h
    rw [reaches_iff]
    exact of_decide_eq_false h
  | some footprint =>
    rw [hfootprint] at h
    intro t u v h₀ h₁ hbody
    exact clear_of_swept h ⟨h₀, h₁⟩ hbody

def Passes (body : RobotBody) (radiusMm : Int) (pose maximum : PhysicalPose) (support : Int × Int) : Prop :=
  KeepsClear body radiusMm pose maximum support ∨
    MovesOut pose maximum support ∧ (body.footprint.isSome → headingDeltaMdeg pose maximum = 0)

theorem passes_of_outcome (h : envelopeOutcome ℝ body radiusMm pose maximum support ≠ .collides) :
    Passes body radiusMm pose maximum support := by
  unfold envelopeOutcome at h
  dsimp only at h
  split_ifs at h with hmet haway hswept
  · obtain ⟨hout, -, -, hturn⟩ := haway
    refine .inr ⟨movesOut_of_outward hout, fun hsome => hturn.resolve_left fun hnone => ?_⟩
    rw [Option.isNone_iff_eq_none.mp hnone] at hsome
    cases hsome
  · exact absurd rfl h
  · exact absurd rfl h
  · exact .inl (keepsClear_of_not_swept (Bool.eq_false_iff.mpr hswept))

theorem hazardOutcome_collides {c : HazardMapCalibration} {hazard : ProvisionalHazard} :
    hazardOutcome ℝ F c body pose maximum hazard = .collides ↔
      ∃ support ∈ collisionEnvelopes F c hazard, envelopeOutcome ℝ body hazard.radiusMm pose maximum support = .collides := by
  rw [← List.mem_map, hazardOutcome]
  by_cases h : EnvelopeOutcome.collides ∈ (collisionEnvelopes F c hazard).map (envelopeOutcome ℝ body hazard.radiusMm pose maximum)
  · exact iff_of_true (if_pos h) h
  · refine iff_of_false ?_ h
    rw [if_neg h]
    split_ifs <;> decide

-- The whole map

theorem mem_sortedHazardIds {hazards : List ProvisionalHazard} {id : String} :
    id ∈ sortedHazardIds hazards ↔ ∃ hazard ∈ hazards, hazard.hypothesisId = id := by
  rw [sortedHazardIds, (List.mergeSort_perm _ _).mem_iff, List.mem_map]

section
variable {action : Action} {actionSpecs : Action → Option MotionSpec} {calibration : OdometryCalibration F}
  {acceptedEncoderRatio : F} {verdict : SweptPathVerdict}

theorem validateSweptPath_ok
    (h : validateSweptPath ℝ F m body pose action actionSpecs calibration acceptedEncoderRatio = .ok verdict) (hmotion : action.IsMotion) :
    ∃ nominal maximum, nominalEffect F pose action actionSpecs calibration acceptedEncoderRatio = .ok (nominal, maximum) ∧
      (verdict.allowed = true ↔ ∀ hazard ∈ m.hazards, hazardOutcome ℝ F m.calibration body pose maximum hazard ≠ .collides) ∧
      ∀ id, id ∈ verdict.hazardIds ↔ ∃ hazard ∈ m.hazards,
        hazardOutcome ℝ F m.calibration body pose maximum hazard = .collides ∧ hazard.hypothesisId = id := by
  rw [validateSweptPath, if_neg (not_not.mpr hmotion), bind_ok_iff] at h
  obtain ⟨⟨nominal, maximum⟩, heffect, h⟩ := h
  obtain rfl := Except.ok.inj h
  refine ⟨nominal, maximum, heffect, ?_, fun id => ?_⟩
  · simp
  · rw [mem_sortedHazardIds]
    simp [and_assoc]

/-- A motion that the veto lets through keeps the body clear of every envelope of every active hypothesis, all the way to
the endpoint of the largest accepted ratio, or leads straight out of the envelope without turning. -/
theorem validateSweptPath_safe (m : ProvisionalHazardMap) (body : RobotBody) (pose : PhysicalPose) (action : Action)
    (actionSpecs : Action → Option MotionSpec) (calibration : OdometryCalibration F) (acceptedEncoderRatio : F) (verdict : SweptPathVerdict)
    (h : validateSweptPath ℝ F m body pose action actionSpecs calibration acceptedEncoderRatio = .ok verdict)
    (hmotion : action.IsMotion) (hallowed : verdict.allowed = true) :
    ∃ nominal maximum, nominalEffect F pose action actionSpecs calibration acceptedEncoderRatio = .ok (nominal, maximum) ∧
      ∀ hazard ∈ m.hazards, ∀ support ∈ collisionEnvelopes F m.calibration hazard,
        Passes body hazard.radiusMm pose maximum support := by
  obtain ⟨nominal, maximum, heffect, hverdict, -⟩ := validateSweptPath_ok h hmotion
  refine ⟨nominal, maximum, heffect, fun hazard hhazard support hsupport => passes_of_outcome fun hcollides => ?_⟩
  exact hverdict.mp hallowed hazard hhazard (hazardOutcome_collides.mpr ⟨support, hsupport, hcollides⟩)

/-- What the veto of a round body is about: the way meets the envelope, and not only on the way out of it. -/
def RoundMeets (body : RobotBody) (radiusMm : Int) (pose maximum : PhysicalPose) (support : Int × Int) : Prop :=
  Reaches pose maximum support ((body.collisionRadiusMm + radiusMm : Int) : ℝ) ∧
    ¬ (gap (placeOf pose) (centreOf support) ≤ ((body.collisionRadiusMm + radiusMm : Int) : ℝ) ∧ 0 < outward pose maximum support)

theorem swept_eq_start (h : MovesOut pose maximum support) :
    pointSegmentDistance ℝ support.1 support.2 pose.xMm pose.yMm maximum.xMm maximum.yMm = gap (placeOf pose) (centreOf support) := by
  obtain ⟨⟨t, h₀, -, hnearest⟩, hleast⟩ := pointSegmentDistance_nearest (placeOf pose) (placeOf maximum) (centreOf support)
  have hstart := hleast 0 le_rfl zero_le_one
  rw [Leg.point_zero] at hstart
  refine hstart.antisymm ?_
  obtain rfl | ht := h₀.eq_or_lt
  · rw [Leg.point_zero] at hnearest
    exact hnearest.ge
  · have hfarther := h 0 t le_rfl ht
    rw [Leg.point_zero] at hfarther
    exact hfarther.le.trans hnearest.ge

theorem round_collides_iff (hround : body.footprint = none) :
    envelopeOutcome ℝ body radiusMm pose maximum support = .collides ↔ RoundMeets body radiusMm pose maximum support := by
  have hmet : intersections ℝ body radiusMm pose maximum support =
      (decide (gap (placeOf pose) (centreOf support) ≤ ((body.collisionRadiusMm + radiusMm : Int) : ℝ)),
        decide (pointSegmentDistance ℝ support.1 support.2 pose.xMm pose.yMm maximum.xMm maximum.yMm ≤
          ((body.collisionRadiusMm + radiusMm : Int) : ℝ))) := by
    rw [intersections, hround]
    rfl
  rw [RoundMeets, reaches_iff, envelopeOutcome, hmet]
  dsimp only
  rw [hround]
  split_ifs with hstart haway hswept
  · exact iff_of_false (by decide) fun h => h.2 ⟨of_decide_eq_true hstart, haway.1⟩
  · refine iff_of_true rfl ⟨reaches_iff.mp ⟨0, le_rfl, zero_le_one, ?_⟩, fun hout => haway ?_⟩
    · rw [Leg.point_zero]
      exact of_decide_eq_true hstart
    · have hmoves := movesOut_of_outward hout.2
      have hend := hmoves 0 1 le_rfl one_pos
      rw [Leg.point_zero, Leg.point_one] at hend
      refine ⟨hout.2, hend, ?_, .inl rfl⟩
      rw [swept_eq_start hmoves]
      change |gap (placeOf pose) (centreOf support) - gap (placeOf pose) (centreOf support)| < _
      norm_num
  · exact iff_of_true rfl ⟨of_decide_eq_true hswept, fun hout => hstart (decide_eq_true hout.1)⟩
  · exact iff_of_false (by decide) fun h => hswept (decide_eq_true h.1)

/-- A round body is refused for exactly the hypotheses with an envelope that its way meets. -/
theorem roundBody_hazardIds (m : ProvisionalHazardMap) (body : RobotBody) (pose : PhysicalPose) (action : Action)
    (actionSpecs : Action → Option MotionSpec) (calibration : OdometryCalibration F) (acceptedEncoderRatio : F) (verdict : SweptPathVerdict)
    (h : validateSweptPath ℝ F m body pose action actionSpecs calibration acceptedEncoderRatio = .ok verdict)
    (hmotion : action.IsMotion) (hround : body.footprint = none) :
    ∃ nominal maximum, nominalEffect F pose action actionSpecs calibration acceptedEncoderRatio = .ok (nominal, maximum) ∧
      ∀ id, id ∈ verdict.hazardIds ↔ ∃ hazard ∈ m.hazards, hazard.hypothesisId = id ∧
        ∃ support ∈ collisionEnvelopes F m.calibration hazard, RoundMeets body hazard.radiusMm pose maximum support := by
  obtain ⟨nominal, maximum, heffect, -, hids⟩ := validateSweptPath_ok h hmotion
  refine ⟨nominal, maximum, heffect, fun id => (hids id).trans (exists_congr fun hazard => and_congr_right fun _ => ?_)⟩
  rw [hazardOutcome_collides, and_comm]
  exact and_congr_right fun _ => exists_congr fun support => and_congr_right fun _ => round_collides_iff hround

end

def doorFields : HazardFields where
  hypothesisId := "door"
  frameId := "local"
  anchorXMm := 360
  anchorYMm := 0
  anchorHeadingMdeg := 0
  centroidXMm := 500
  centroidYMm := 0
  radiusMm := 70
  firstSeenAtMs := 1
  lastSeenAtMs := 1
  evidenceCount := 1
  lastStateVersion := 1
  lastRawIrProximity := none
  lastFilteredIrProximity := none

theorem doorFields_built : doorFields.postInit = .ok doorFields := by decide

theorem doorCalibration_positive : 0 < (140 : Int) ∧ 0 < (70 : Int) ∧ 0 < (120 : Int) ∧ 0 < (5000 : Int) := by decide

def doorMap : ProvisionalHazardMap where
  frameId := "local"
  mapGenerationId := "mapgen"
  calibration := { positive := doorCalibration_positive }
  hazards := [⟨doorFields, doorFields, doorFields_built⟩]

theorem roundBody_positive : 0 < (70 : Int) := by decide

def roundBody : RobotBody := { radius_positive := roundBody_positive }

def driveSpec : MotionSpec := { leftSpeedDps := 100, rightSpeedDps := 100, totalDurationMs := 1000 }

theorem door_effect : ∃ nominal maximum, nominalEffect Grid .origin .advance (fun _ => some driveSpec) gridCalibration ⟨2⟩ =
    .ok (nominal, maximum) ∧ maximum.xMm = 200 ∧ maximum.yMm = 0 := ⟨_, _, rfl, rfl, rfl⟩

theorem door_verdict : ∃ verdict,
    validateSweptPath ℝ Grid doorMap roundBody .origin .advance (fun _ => some driveSpec) gridCalibration ⟨2⟩ = .ok verdict ∧
      verdict.allowed = true := by
  obtain ⟨verdict, h⟩ : ∃ verdict, validateSweptPath ℝ Grid doorMap roundBody .origin .advance (fun _ => some driveSpec)
    gridCalibration ⟨2⟩ = .ok verdict := ⟨_, rfl⟩
  obtain ⟨nominal, maximum, heffect, hverdict, -⟩ := validateSweptPath_ok h trivial
  obtain ⟨nominal', maximum', heffect', hx, hy⟩ := door_effect
  rw [heffect'] at heffect
  obtain ⟨rfl, rfl⟩ := Prod.mk.inj (Except.ok.inj heffect)
  refine ⟨verdict, h, hverdict.mpr ?_⟩
  intro hazard hhazard hcollides
  obtain rfl := List.mem_singleton.mp hhazard
  obtain ⟨support, hsupport, hcollides⟩ := hazardOutcome_collides.mp hcollides
  obtain rfl : support = (500, 0) := List.mem_singleton.mp hsupport
  obtain ⟨⟨t, h₀, h₁, hgap⟩, -⟩ := (round_collides_iff rfl).mp hcollides
  have hbound : ((roundBody.collisionRadiusMm + doorFields.radiusMm : Int) : ℝ) = 140 := by
    norm_num [roundBody, doorFields]
  rw [hbound, gap, hypot_le_iff (by norm_num)] at hgap
  simp only [point, placeOf, centreOf, PhysicalPose.origin, hx, hy] at hgap
  push_cast at hgap
  nlinarith

theorem validateSweptPath_safe_door : ∃ nominal maximum,
    nominalEffect Grid .origin .advance (fun _ => some driveSpec) gridCalibration ⟨2⟩ = .ok (nominal, maximum) ∧
      ∀ hazard ∈ doorMap.hazards, ∀ support ∈ collisionEnvelopes Grid doorMap.calibration hazard,
        Passes roundBody hazard.radiusMm .origin maximum support := by
  obtain ⟨verdict, h, hallowed⟩ := door_verdict
  exact validateSweptPath_safe doorMap roundBody .origin .advance _ gridCalibration ⟨2⟩ verdict h trivial hallowed

theorem roundBody_hazardIds_door : ∃ (verdict : SweptPathVerdict) (nominal maximum : PhysicalPose),
    nominalEffect Grid .origin .advance (fun _ => some driveSpec) gridCalibration ⟨2⟩ = .ok (nominal, maximum) ∧
      ∀ id, id ∈ verdict.hazardIds ↔ ∃ hazard ∈ doorMap.hazards, hazard.hypothesisId = id ∧
        ∃ support ∈ collisionEnvelopes Grid doorMap.calibration hazard, RoundMeets roundBody hazard.radiusMm .origin maximum support := by
  obtain ⟨verdict, h, -⟩ := door_verdict
  exact ⟨verdict, roundBody_hazardIds doorMap roundBody .origin .advance _ gridCalibration ⟨2⟩ verdict h trivial rfl⟩

-- Turns in place

/-- Where the body's point is when the robot has turned by that much. -/
noncomputable def bodyTurned (pose : PhysicalPose) (relative u v : ℝ) : ℝ × ℝ :=
  (pose.xMm + turnX (radians ((pose.headingMdeg + relative) / 1000)) u v,
    pose.yMm + turnY (radians ((pose.headingMdeg + relative) / 1000)) u v)

theorem radians_add (a b : ℝ) : radians ((a + b) / 1000) = radians (a / 1000) + radians (b / 1000) := by
  unfold radians
  ring

theorem bodyAt_outbound {d : Int} (hd : -180000 ≤ d ∧ d ≤ 0) : bodyAt pose (turnedBy pose d) t u v = bodyTurned pose (d * t) u v := by
  have hdelta : headingDeltaMdeg pose (turnedBy pose d) = d := by
    simp only [headingDeltaMdeg, turnedBy, Odometry.normalizeHeadingMdeg]
    omega
  rw [bodyAt, headingAt, hdelta]
  simp [turnedBy, bodyTurned]

theorem bodyAt_inbound {d : Int} (hd : 0 ≤ d ∧ d ≤ 180000) :
    bodyAt (turnedBy pose d) (turnedBy pose 0) t u v = bodyTurned pose (d * (1 - t)) u v := by
  have hdelta : headingDeltaMdeg (turnedBy pose d) (turnedBy pose 0) = -d := by
    simp only [headingDeltaMdeg, turnedBy, Odometry.normalizeHeadingMdeg]
    omega
  have hheading : headingAt (turnedBy pose d) (turnedBy pose 0) t =
      radians ((Odometry.normalizeHeadingMdeg (pose.headingMdeg + d) : ℝ) / 1000) + radians (-(d * t) / 1000) := by
    rw [headingAt, hdelta, ← radians_add, Int.cast_neg, neg_mul]
    rfl
  have hwrapped : turnX (radians ((Odometry.normalizeHeadingMdeg (pose.headingMdeg + d) : ℝ) / 1000)) u v = _ ∧
      turnY (radians ((Odometry.normalizeHeadingMdeg (pose.headingMdeg + d) : ℝ) / 1000)) u v = _ := turn_wrapped (pose.headingMdeg + d) u v
  have hunwrapped : radians (((pose.headingMdeg + d : Int) : ℝ) / 1000) + radians (-(d * t) / 1000) =
      radians ((pose.headingMdeg + d * (1 - t)) / 1000) := by
    rw [← radians_add]
    push_cast
    congr 2
    ring
  unfold bodyAt
  rw [hheading, ← turnX_turn, ← turnY_turn, hwrapped.1, hwrapped.2, turnX_turn, turnY_turn, hunwrapped]
  simp [turnedBy, bodyTurned]

theorem exists_share {d x : ℝ} (hx : d ≤ x ∧ x ≤ 0) : ∃ t, 0 ≤ t ∧ t ≤ 1 ∧ d * t = x := by
  obtain hd | hd := (hx.1.trans hx.2).eq_or_lt
  · exact ⟨0, le_rfl, zero_le_one, by rw [mul_zero]; linarith [hx.1, hx.2]⟩
  · exact ⟨x / d, div_nonneg_of_nonpos hx.2 hd.le, (div_le_one_of_neg hd).mpr hx.1, mul_div_cancel₀ x hd.ne⟩

theorem turned_clear {low high : Int} (hlow : -180000 ≤ low ∧ low ≤ 0) (hhigh : 0 ≤ high ∧ high ≤ 180000)
    (h : rotationMeets ℝ footprint radiusMm pose low high support = false) {relative : ℝ} (hbelow : low ≤ relative)
    (habove : relative ≤ high) (hbody : footprint.Holds u v) :
    ((radiusMm + footprint.clearanceMarginMm : Int) : ℝ) < gap (bodyTurned pose relative u v) (centreOf support) := by
  have hlegs := List.any_eq_false.mp h
  simp only [List.forall_mem_cons, Bool.not_eq_true] at hlegs
  -- The middle leg may go round the back; the outer two together pass every heading.
  obtain ⟨hout, -, hback, -⟩ := hlegs
  obtain hneg | hpos := le_total relative 0
  · obtain ⟨t, h₀, h₁, rfl⟩ := exists_share ⟨hbelow, hneg⟩
    rw [← bodyAt_outbound hlow]
    exact clear_of_swept hout ⟨h₀, h₁⟩ hbody
  · obtain ⟨t, h₀, h₁, hshare⟩ := exists_share (d := -(high : ℝ)) (x := -relative) ⟨by linarith, by linarith⟩
    have hrelative : relative = high * (1 - (1 - t)) := by linarith
    rw [hrelative, ← bodyAt_inbound hhigh]
    exact clear_of_swept hback ⟨by linarith, by linarith⟩ hbody

def squareRobot : RobotBody := { footprint := some squareBody, radius_positive := roundBody_positive }

theorem door_rotation : ∃ verdict, validateInPlaceRotation ℝ Grid doorMap squareRobot .origin [0] = .ok verdict ∧
    verdict.allowed = true := by
  have hstill : turnedBy .origin 0 = .origin := by decide
  have hclear : rotationMeets ℝ squareBody 70 .origin 0 0 (500, 0) = false := by
    simp [rotationMeets, hstill, squareBody_clear]
  refine ⟨_, rfl, List.isEmpty_iff.mpr (List.filter_eq_nil_iff.mpr fun hazard hhazard hmeets => ?_)⟩
  obtain rfl := List.mem_singleton.mp hhazard
  obtain ⟨support, hsupport, hmeets⟩ := List.any_eq_true.mp hmeets
  obtain rfl : support = (500, 0) := List.mem_singleton.mp hsupport
  exact Bool.false_ne_true (hclear.symm.trans hmeets)

end RobotLlm.Hazard
