import Mathlib.Analysis.Real.Pi.Bounds
import RobotLlm.Hazard.PhysicalFootprint
import RobotLlm.Lib.Rotation

/-!
# Nothing is met between the samples

Every pose of a motion is at most half a step from a sample. The margin covers how far
half a step moves the farthest corner, but for two small amounts: the chord of half a
step is a little longer than half of the step's, and the samples are rounded. Together
they stay below the millimetre that the margin adds.
-/

namespace RobotLlm.Hazard

open RobotLlm.Lib RobotLlm.Lib.Rotation

variable {start finish pose : PhysicalPose} {footprint : RobotFootprint} {t u v : ℝ}

/-- The point `(u, v)` of the robot's own frame belongs to its body. -/
def RobotFootprint.Holds (f : RobotFootprint) (u v : ℝ) : Prop :=
  (-f.rearExtentMm ≤ u ∧ u ≤ f.frontExtentMm) ∧ -f.rightExtentMm ≤ v ∧ v ≤ f.leftExtentMm

/-- The heading at `t` of the shortest change from the one to the other. -/
noncomputable def headingAt (start finish : PhysicalPose) (t : ℝ) : ℝ :=
  radians ((start.headingMdeg + (headingDeltaMdeg start finish : ℝ) * t) / 1000)

/-- Where the body's point is at `t` of the straight way. -/
noncomputable def bodyAt (start finish : PhysicalPose) (t u v : ℝ) : ℝ × ℝ :=
  (start.xMm + ((finish.xMm - start.xMm : Int) : ℝ) * t + turnX (headingAt start finish t) u v,
    start.yMm + ((finish.yMm - start.yMm : Int) : ℝ) * t + turnY (headingAt start finish t) u v)

noncomputable def bodyOf (pose : PhysicalPose) (u v : ℝ) : ℝ × ℝ :=
  (pose.xMm + turnX (headingRadians ℝ pose.headingMdeg) u v, pose.yMm + turnY (headingRadians ℝ pose.headingMdeg) u v)

-- The body

theorem extent_valid (f : RobotFootprint) : (1 ≤ f.frontExtentMm ∧ f.frontExtentMm ≤ 1000) ∧
    (1 ≤ f.rearExtentMm ∧ f.rearExtentMm ≤ 1000) ∧ (1 ≤ f.leftExtentMm ∧ f.leftExtentMm ≤ 1000) ∧
    1 ≤ f.rightExtentMm ∧ f.rightExtentMm ≤ 1000 := by
  have h := f.extents_valid
  simp only [List.forall_mem_cons, List.not_mem_nil, false_implies, implies_true, and_true] at h
  exact h

theorem abs_le_side {x low high : ℝ} (h : -low ≤ x ∧ x ≤ high) : |x| ≤ |high| ∨ |x| ≤ |low| := by
  obtain hx | hx := le_total 0 x
  · left
    rw [abs_of_nonneg hx]
    exact h.2.trans (le_abs_self _)
  · right
    rw [abs_of_nonpos hx]
    exact (neg_le.mp h.1).trans (le_abs_self _)

theorem hypot_le_corner (h : footprint.Holds u v) : hypot u v ≤ footprint.maximumCornerRadiusMm ℝ := by
  unfold RobotFootprint.maximumCornerRadiusMm
  obtain ⟨hu, hv⟩ := h
  obtain hu | hu := abs_le_side hu <;> obtain hv | hv := abs_le_side hv
  · exact (hypot_mono hu hv).trans ((le_max_left _ _).trans (le_max_left _ _))
  · exact (hypot_mono hu hv).trans ((le_max_right _ _).trans (le_max_left _ _))
  · exact (hypot_mono hu hv).trans ((le_max_left _ _).trans (le_max_right _ _))
  · exact (hypot_mono hu hv).trans ((le_max_right _ _).trans (le_max_right _ _))

theorem corner_le (footprint : RobotFootprint) : footprint.maximumCornerRadiusMm ℝ ≤ 1500 := by
  have hcorner {x y : Int} (hx : 1 ≤ x ∧ x ≤ 1000) (hy : 1 ≤ y ∧ y ≤ 1000) : hypot (x : ℝ) y ≤ 1500 := by
    have h₁ : (x : ℝ) ≤ 1000 := by exact_mod_cast hx.2
    have h₂ : (y : ℝ) ≤ 1000 := by exact_mod_cast hy.2
    have h₃ : (1 : ℝ) ≤ x := by exact_mod_cast hx.1
    have h₄ : (1 : ℝ) ≤ y := by exact_mod_cast hy.1
    rw [hypot_le_iff (by norm_num)]
    nlinarith
  obtain ⟨hfront, hrear, hleft, hright⟩ := extent_valid footprint
  exact max_le (max_le (hcorner hfront hleft) (hcorner hfront hright)) (max_le (hcorner hrear hleft) (hcorner hrear hright))

theorem outside_le {x low high at' : ℝ} (h : -low ≤ x ∧ x ≤ high) : |max (max (-low - at') 0) (at' - high)| ≤ |x - at'| := by
  rw [abs_of_nonneg ((le_max_right _ _).trans (le_max_left _ _))]
  refine max_le (max_le ?_ (abs_nonneg _)) ?_
  · exact (sub_le_sub_right h.1 at').trans (le_abs_self _)
  · rw [abs_sub_comm]
    exact (sub_le_sub_left h.2 at').trans (le_abs_self _)

theorem pointDistance_le (pose : PhysicalPose) (px py : ℝ) (h : footprint.Holds u v) :
    pointDistance ℝ px py pose footprint ≤ hypot ((bodyOf pose u v).1 - px) ((bodyOf pose u v).2 - py) := by
  have hback := hypot_turn (-headingRadians ℝ pose.headingMdeg) ((bodyOf pose u v).1 - px) ((bodyOf pose u v).2 - py)
  have hsq := cos_sq_add_sin_sq (headingRadians ℝ pose.headingMdeg)
  have hforward : turnX (-headingRadians ℝ pose.headingMdeg) ((bodyOf pose u v).1 - px) ((bodyOf pose u v).2 - py) =
      u - ((px - pose.xMm) * Trig.cos (headingRadians ℝ pose.headingMdeg) +
        (py - pose.yMm) * Trig.sin (headingRadians ℝ pose.headingMdeg)) := by
    simp only [turnX, turnY, bodyOf, cos_neg, sin_neg]
    linear_combination u * hsq
  have hleft : turnY (-headingRadians ℝ pose.headingMdeg) ((bodyOf pose u v).1 - px) ((bodyOf pose u v).2 - py) =
      v - (-(px - pose.xMm) * Trig.sin (headingRadians ℝ pose.headingMdeg) +
        (py - pose.yMm) * Trig.cos (headingRadians ℝ pose.headingMdeg)) := by
    simp only [turnX, turnY, bodyOf, cos_neg, sin_neg]
    linear_combination v * hsq
  rw [hforward, hleft] at hback
  rw [← hback]
  exact hypot_mono (outside_le h.1) (outside_le h.2)

-- The steps

theorem sweepSteps_pos (start finish : PhysicalPose) : 0 < sweepSteps ℝ start finish := by
  unfold sweepSteps
  have := (le_max_left 1 ⌈translationMm ℝ start finish / 10⌉).trans
    (le_max_left _ ⌈((|headingDeltaMdeg start finish| : Int) : ℝ) / ((5000 : Int) : ℝ)⌉)
  omega

theorem step_heading_le (start finish : PhysicalPose) :
    ((|headingDeltaMdeg start finish| : Int) : ℝ) / (sweepSteps ℝ start finish : ℝ) ≤ 5000 := by
  have hpos : (0 : ℝ) < sweepSteps ℝ start finish := by exact_mod_cast sweepSteps_pos start finish
  have hceil := Int.le_ceil (((|headingDeltaMdeg start finish| : Int) : ℝ) / ((5000 : Int) : ℝ))
  have hsteps : (⌈((|headingDeltaMdeg start finish| : Int) : ℝ) / ((5000 : Int) : ℝ)⌉ : ℝ) ≤ sweepSteps ℝ start finish := by
    have h : ⌈((|headingDeltaMdeg start finish| : Int) : ℝ) / ((5000 : Int) : ℝ)⌉ ≤ (sweepSteps ℝ start finish : Int) :=
      (le_max_right _ _).trans (Int.self_le_toNat _)
    exact_mod_cast h
  have h := hceil.trans hsteps
  rw [div_le_iff₀ (by norm_num)] at h
  rw [div_le_iff₀ hpos]
  push_cast at h ⊢
  linarith

theorem exists_nearest {n : Nat} (hn : 0 < n) (h₀ : 0 ≤ t) (h₁ : t ≤ 1) :
    ∃ index, index ≤ n ∧ |t - (index : ℝ) / n| ≤ 1 / (2 * n) := by
  have hpos : (0 : ℝ) < n := by exact_mod_cast hn
  have hround := abs_le.mp (abs_roundEven_sub_le (t * n))
  have hlow : 0 ≤ roundEven (t * n) := le_roundEven (by push_cast; positivity)
  have hhigh : roundEven (t * n) ≤ n := roundEven_le (by push_cast; nlinarith)
  refine ⟨(roundEven (t * n)).toNat, by omega, ?_⟩
  have hcast : (((roundEven (t * n)).toNat : Nat) : ℝ) = roundEven (t * n) := by exact_mod_cast Int.toNat_of_nonneg hlow
  have hsplit : t - (roundEven (t * n) : ℝ) / n = (t * n - roundEven (t * n)) / n := by field_simp
  rw [hcast, hsplit, abs_div, abs_of_pos hpos, div_le_div_iff₀ hpos (by positivity), abs_sub_comm]
  have := abs_roundEven_sub_le (t * n)
  nlinarith

theorem half_chord {x : ℝ} (h₀ : 0 ≤ x) (h₁ : x ≤ 5 * Real.pi / 720) : 2 * Real.sin x ≤ Real.sin (2 * x) + 11 / 1000000 := by
  have hpi := Real.pi_lt_d2
  have hx : x ≤ 22 / 1000 := by linarith
  have hsin := Real.sin_le h₀
  have hsin₀ : 0 ≤ Real.sin x := Real.sin_nonneg_of_nonneg_of_le_pi h₀ (by linarith [Real.pi_gt_three])
  have hcos := Real.one_sub_sq_div_two_le_cos (x := x)
  have hcube : x * (x ^ 2 / 2) ≤ 22 / 1000 * ((22 / 1000) ^ 2 / 2) := by gcongr
  have hslack : Real.sin x * (1 - Real.cos x) ≤ x * (x ^ 2 / 2) :=
    mul_le_mul hsin (by linarith) (sub_nonneg.mpr (Real.cos_le_one x)) h₀
  rw [Real.sin_two_mul]
  linarith

-- Half a step

noncomputable def stepRadians (start finish : PhysicalPose) : ℝ :=
  radians (((|headingDeltaMdeg start finish| : Int) : ℝ) / 1000 / (sweepSteps ℝ start finish : ℝ))

theorem stepRadians_mem (start finish : PhysicalPose) : 0 ≤ stepRadians start finish ∧ stepRadians start finish / 4 ≤ 5 * Real.pi / 720 := by
  have hpi : Trig.pi = Real.pi := rfl
  have hsteps : (0 : ℝ) ≤ ((|headingDeltaMdeg start finish| : Int) : ℝ) / 1000 / (sweepSteps ℝ start finish : ℝ) := by
    positivity
  have hle : ((|headingDeltaMdeg start finish| : Int) : ℝ) / 1000 / (sweepSteps ℝ start finish : ℝ) ≤ 5 := by
    have := step_heading_le start finish
    rw [div_right_comm, div_le_iff₀ (by norm_num)]
    linarith
  unfold stepRadians
  rw [radians, hpi]
  constructor
  · have := Real.pi_pos
    positivity
  · have := mul_le_mul_of_nonneg_right hle Real.pi_pos.le
    linarith

theorem body_half_step {t' : ℝ} (hnear : |t - t'| ≤ 1 / (2 * sweepSteps ℝ start finish)) (hbody : footprint.Holds u v) :
    hypot ((bodyAt start finish t u v).1 - (bodyAt start finish t' u v).1)
      ((bodyAt start finish t u v).2 - (bodyAt start finish t' u v).2) ≤
    (translationMm ℝ start finish / sweepSteps ℝ start finish +
      2 * footprint.maximumCornerRadiusMm ℝ * Real.sin (stepRadians start finish / 2)) / 2 + 33 / 2000 := by
  have hpos : (0 : ℝ) < sweepSteps ℝ start finish := by exact_mod_cast sweepSteps_pos start finish
  have hpi : Trig.pi = Real.pi := rfl
  obtain ⟨hstep₀, hstep₁⟩ := stepRadians_mem start finish
  have hquarter := half_chord (div_nonneg hstep₀ zero_le_four) hstep₁
  have hdouble : 2 * (stepRadians start finish / 4) = stepRadians start finish / 2 := by ring
  rw [hdouble] at hquarter
  have hmoved := hypot_moved_le (headingAt start finish t) (headingAt start finish t')
    (start.xMm + ((finish.xMm - start.xMm : Int) : ℝ) * t) (start.yMm + ((finish.yMm - start.yMm : Int) : ℝ) * t)
    (start.xMm + ((finish.xMm - start.xMm : Int) : ℝ) * t') (start.yMm + ((finish.yMm - start.yMm : Int) : ℝ) * t') u v
  have hshift : hypot (start.xMm + ((finish.xMm - start.xMm : Int) : ℝ) * t - (start.xMm + ((finish.xMm - start.xMm : Int) : ℝ) * t'))
      (start.yMm + ((finish.yMm - start.yMm : Int) : ℝ) * t - (start.yMm + ((finish.yMm - start.yMm : Int) : ℝ) * t')) ≤
      translationMm ℝ start finish / sweepSteps ℝ start finish / 2 := by
    have hlength := hypot_nonneg ((finish.xMm - start.xMm : Int) : ℝ) ((finish.yMm - start.yMm : Int) : ℝ)
    have hscale : translationMm ℝ start finish / sweepSteps ℝ start finish / 2 =
        1 / (2 * sweepSteps ℝ start finish) * hypot ((finish.xMm - start.xMm : Int) : ℝ) ((finish.yMm - start.yMm : Int) : ℝ) := by
      rw [translationMm]
      field_simp
    rw [hscale, hypot_le_iff (by positivity), mul_pow, hypot_sq]
    have hsq : (t - t') ^ 2 ≤ (1 / (2 * sweepSteps ℝ start finish : ℝ)) ^ 2 := sq_le_sq' (by linarith [(abs_le.mp hnear).1]) (abs_le.mp hnear).2
    nlinarith [sq_nonneg ((finish.xMm - start.xMm : Int) : ℝ), sq_nonneg ((finish.yMm - start.yMm : Int) : ℝ)]
  have hturn : |Real.sin ((headingAt start finish t - headingAt start finish t') / 2)| ≤ Real.sin (stepRadians start finish / 4) := by
    have hangle : |(headingAt start finish t - headingAt start finish t') / 2| ≤ stepRadians start finish / 4 := by
      have hsplit : (headingAt start finish t - headingAt start finish t') / 2 =
          (headingDeltaMdeg start finish : ℝ) * (t - t') * (Real.pi / 360000) := by
        rw [headingAt, headingAt, radians, radians, hpi]
        ring
      have hquarter' : stepRadians start finish / 4 =
          |(headingDeltaMdeg start finish : ℝ)| * (1 / (2 * sweepSteps ℝ start finish)) * (Real.pi / 360000) := by
        rw [stepRadians, radians, hpi]
        push_cast
        field_simp
        ring
      rw [hsplit, hquarter', abs_mul, abs_mul, abs_of_pos (by positivity : 0 < Real.pi / 360000)]
      gcongr
    have hpi₂ : stepRadians start finish / 4 ≤ Real.pi / 2 := by linarith [Real.pi_pos]
    rw [abs_le] at hangle ⊢
    constructor
    · rw [← Real.sin_neg]
      exact Real.sin_le_sin_of_le_of_le_pi_div_two (by linarith) (by linarith) hangle.1
    · exact Real.sin_le_sin_of_le_of_le_pi_div_two (by linarith) hpi₂ hangle.2
  have hcorner := hypot_le_corner hbody
  have hradius := corner_le footprint
  have hsin₀ : 0 ≤ Real.sin (stepRadians start finish / 4) :=
    Real.sin_nonneg_of_nonneg_of_le_pi (div_nonneg hstep₀ zero_le_four) (by linarith [Real.pi_pos])
  have hswing : 2 * |Real.sin ((headingAt start finish t - headingAt start finish t') / 2)| * hypot u v ≤
      footprint.maximumCornerRadiusMm ℝ * Real.sin (stepRadians start finish / 2) + 33 / 2000 := by
    calc 2 * |Real.sin ((headingAt start finish t - headingAt start finish t') / 2)| * hypot u v
        ≤ 2 * Real.sin (stepRadians start finish / 4) * footprint.maximumCornerRadiusMm ℝ := by
          gcongr
          exact hypot_nonneg u v
      _ ≤ (Real.sin (stepRadians start finish / 2) + 11 / 1000000) * footprint.maximumCornerRadiusMm ℝ :=
          mul_le_mul_of_nonneg_right hquarter ((hypot_nonneg u v).trans hcorner)
      _ ≤ _ := by linarith
  refine hmoved.trans ?_
  linarith

theorem body_rounded (start finish : PhysicalPose) (index : Nat) (hbody : footprint.Holds u v) :
    hypot ((bodyAt start finish ((index : ℝ) / sweepSteps ℝ start finish) u v).1 - (bodyOf (sampleAt ℝ start finish index) u v).1)
      ((bodyAt start finish ((index : ℝ) / sweepSteps ℝ start finish) u v).2 - (bodyOf (sampleAt ℝ start finish index) u v).2) ≤
    78 / 100 := by
  set ratio : ℝ := (index : ℝ) / sweepSteps ℝ start finish with hratio
  set turned : Int := start.headingMdeg + roundEven ((headingDeltaMdeg start finish : ℝ) * ratio) with hturned
  have hpi : Trig.pi = Real.pi := rfl
  -- Unwrapped, the heading of the sample is the rounded one.
  have hsample : bodyOf (sampleAt ℝ start finish index) u v =
      ((sampleAt ℝ start finish index).xMm + turnX (radians ((turned : ℝ) / 1000)) u v,
        (sampleAt ℝ start finish index).yMm + turnY (radians ((turned : ℝ) / 1000)) u v) :=
    Prod.ext (congrArg (((sampleAt ℝ start finish index).xMm : ℝ) + ·) (turn_wrapped turned u v).1)
      (congrArg (((sampleAt ℝ start finish index).yMm : ℝ) + ·) (turn_wrapped turned u v).2)
  rw [hsample]
  have hmoved := hypot_moved_le (headingAt start finish ratio) (radians ((turned : ℝ) / 1000))
    (start.xMm + ((finish.xMm - start.xMm : Int) : ℝ) * ratio) (start.yMm + ((finish.yMm - start.yMm : Int) : ℝ) * ratio)
    (sampleAt ℝ start finish index).xMm (sampleAt ℝ start finish index).yMm u v
  have hx := abs_roundEven_sub_le (start.xMm + ((finish.xMm - start.xMm : Int) : ℝ) * ratio)
  have hy := abs_roundEven_sub_le (start.yMm + ((finish.yMm - start.yMm : Int) : ℝ) * ratio)
  have hheading := abs_roundEven_sub_le ((headingDeltaMdeg start finish : ℝ) * ratio)
  rw [abs_sub_comm] at hx hy hheading
  have hshift : hypot (start.xMm + ((finish.xMm - start.xMm : Int) : ℝ) * ratio - (sampleAt ℝ start finish index).xMm)
      (start.yMm + ((finish.yMm - start.yMm : Int) : ℝ) * ratio - (sampleAt ℝ start finish index).yMm) ≤ 3 / 4 := by
    rw [hypot_le_iff (by norm_num)]
    exact (add_le_add (half_sq hx) (half_sq hy)).trans (by norm_num)
  have hturn : |Real.sin ((headingAt start finish ratio - radians ((turned : ℝ) / 1000)) / 2)| ≤ 9 / 2000000 := by
    have hsplit : (headingAt start finish ratio - radians ((turned : ℝ) / 1000)) / 2 =
        ((headingDeltaMdeg start finish : ℝ) * ratio - roundEven ((headingDeltaMdeg start finish : ℝ) * ratio)) * (Real.pi / 360000) := by
      rw [headingAt, radians, radians, hpi, hturned]
      push_cast
      ring
    refine Real.abs_sin_le_abs.trans ?_
    rw [hsplit, abs_mul, abs_of_pos (by positivity : 0 < Real.pi / 360000)]
    have := Real.pi_lt_d2
    calc |(headingDeltaMdeg start finish : ℝ) * ratio - roundEven ((headingDeltaMdeg start finish : ℝ) * ratio)| * (Real.pi / 360000)
        ≤ 1 / 2 * (Real.pi / 360000) := by gcongr
      _ ≤ _ := by linarith
  have hlength := (hypot_le_corner hbody).trans (corner_le footprint)
  have hswing : 2 * |Real.sin ((headingAt start finish ratio - radians ((turned : ℝ) / 1000)) / 2)| * hypot u v ≤
      2 * (9 / 2000000) * 1500 := by
    gcongr
    exact hypot_nonneg u v
  refine hmoved.trans ?_
  linarith

-- The whole sweep

def squareBody : RobotFootprint where
  frontExtentMm := 100
  rearExtentMm := 100
  leftExtentMm := 100
  rightExtentMm := 100
  extents_valid := by decide
  margin_valid := by decide

theorem squareBody_clear : (footprintSweepIntersects ℝ 500 0 70 .origin .origin squareBody).2 = false := by
  have hdelta : headingDeltaMdeg .origin .origin = 0 := by decide
  have htranslation : translationMm ℝ .origin .origin = 0 := by simp [translationMm, PhysicalPose.origin, hypot, Root.sqrt]
  have hsteps : sweepSteps ℝ .origin .origin = 1 := by simp [sweepSteps, hdelta, htranslation]
  have hmargin : coverageMarginMm ℝ .origin .origin squareBody = 1 := by simp [coverageMarginMm, hdelta, htranslation]
  refine List.any_eq_false.mpr fun pose hpose => ?_
  obtain ⟨index, -, rfl⟩ := List.mem_map.mp hpose
  have hround : roundEven (0 : ℝ) = 0 := by simpa using roundEven_intCast (R := ℝ) 0
  have hsample : sampleAt ℝ .origin .origin index = .origin := by
    simp only [sampleAt, hdelta]
    simp [PhysicalPose.origin, hround, Odometry.normalizeHeadingMdeg]
  have hdistance : pointDistance ℝ 500 0 .origin squareBody = hypot 400 0 := by
    simp only [pointDistance, headingRadians, PhysicalPose.origin, squareBody, Int.cast_zero, zero_div, radians_zero, cos_zero,
      sin_zero]
    norm_num
  have hbound : ((70 + squareBody.clearanceMarginMm + (interpolatedSweep ℝ .origin .origin squareBody).2 : Int) : ℝ) = 71 := by
    rw [interpolatedSweep, hmargin]
    norm_num [squareBody]
  rw [hsample, decide_eq_true_iff, hbound]
  push_cast
  rw [hdistance, hypot_le_iff (by norm_num)]
  norm_num

end RobotLlm.Hazard
