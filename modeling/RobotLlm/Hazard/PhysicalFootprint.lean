import RobotLlm.Hazard.ScanEvidence
import RobotLlm.Lib.Ray
import RobotLlm.Odometry.VerifiedMotion

/-!
# The body in a sweep

The robot's body is a rectangle around the origin of its drive. A motion between two
poses is sampled, and each sample is held against an obstacle with a margin for what
lies between the samples.
-/

namespace RobotLlm.Hazard

open RobotLlm.Lib

/-- Forward is positive local X and left is positive local Y. -/
structure RobotFootprint where
  frontExtentMm : Int
  rearExtentMm : Int
  leftExtentMm : Int
  rightExtentMm : Int
  clearanceMarginMm : Int := 0
  extents_valid : ∀ extent ∈ [frontExtentMm, rearExtentMm, leftExtentMm, rightExtentMm], 1 ≤ extent ∧ extent ≤ 1000
  margin_valid : 0 ≤ clearanceMarginMm ∧ clearanceMarginMm ≤ 500

theorem normalizeHeadingMdeg_valid (value : Int) :
    -180000 ≤ Odometry.normalizeHeadingMdeg value ∧ Odometry.normalizeHeadingMdeg value ≤ 179999 := by
  unfold Odometry.normalizeHeadingMdeg
  omega

section
variable (R : Type) [Field R] [LinearOrder R] [IsStrictOrderedRing R] [FloorRing R] [Trig R] [Root R]

def RobotFootprint.maximumCornerRadiusMm (f : RobotFootprint) : R :=
  max (max (hypot (f.frontExtentMm : R) f.leftExtentMm) (hypot (f.frontExtentMm : R) f.rightExtentMm))
    (max (hypot (f.rearExtentMm : R) f.leftExtentMm) (hypot (f.rearExtentMm : R) f.rightExtentMm))

/-- `math.radians(mdeg / 1000.0)`. -/
def headingRadians (headingMdeg : Int) : R := radians ((headingMdeg : R) / 1000)

/-- `_point_distance`: how far the point is from the body at the pose. -/
def pointDistance (px py : R) (pose : PhysicalPose) (footprint : RobotFootprint) : R :=
  let heading : R := headingRadians R pose.headingMdeg
  let relativeX := px - pose.xMm
  let relativeY := py - pose.yMm
  let localForward := relativeX * Trig.cos heading + relativeY * Trig.sin heading
  let localLeft := -relativeX * Trig.sin heading + relativeY * Trig.cos heading
  let outsideForward := max (max (-footprint.rearExtentMm - localForward) 0) (localForward - footprint.frontExtentMm)
  let outsideLateral := max (max (-footprint.rightExtentMm - localLeft) 0) (localLeft - footprint.leftExtentMm)
  hypot outsideForward outsideLateral

def translationMm (start finish : PhysicalPose) : R :=
  hypot ((finish.xMm - start.xMm : Int) : R) ((finish.yMm - start.yMm : Int) : R)

def headingDeltaMdeg (start finish : PhysicalPose) : Int := Odometry.normalizeHeadingMdeg (finish.headingMdeg - start.headingMdeg)

/-- `steps`: no step is longer than 10 mm or wider than 5 degrees. -/
def sweepSteps (start finish : PhysicalPose) : Nat :=
  (max (max 1 ⌈translationMm R start finish / 10⌉)
    ⌈((|headingDeltaMdeg start finish| : Int) : R) / ((5000 : Int) : R)⌉).toNat

def coverageMarginMm (start finish : PhysicalPose) (footprint : RobotFootprint) : Int :=
  let steps : R := (sweepSteps R start finish : R)
  let headingStepRadians := radians (((|headingDeltaMdeg start finish| : Int) : R) / 1000 / steps)
  let perStepMotionBound := translationMm R start finish / steps +
    2 * footprint.maximumCornerRadiusMm R * Trig.sin (headingStepRadians / 2)
  ⌈perStepMotionBound / 2⌉ + 1

/-- The pose at `index` of `steps`. -/
def sampleAt (start finish : PhysicalPose) (index : Nat) : PhysicalPose :=
  let ratio : R := (index : R) / (sweepSteps R start finish : R)
  { xMm := roundEven (start.xMm + ((finish.xMm - start.xMm : Int) : R) * ratio)
    yMm := roundEven (start.yMm + ((finish.yMm - start.yMm : Int) : R) * ratio)
    headingMdeg := Odometry.normalizeHeadingMdeg (start.headingMdeg + roundEven ((headingDeltaMdeg start finish : R) * ratio))
    verifiedMotionCount := start.verifiedMotionCount
    totalForwardMm := start.totalForwardMm
    totalTurnMdeg := start.totalTurnMdeg
    heading_valid := normalizeHeadingMdeg_valid _
    totals_valid := start.totals_valid }

/-- `_interpolated_sweep`. -/
def interpolatedSweep (start finish : PhysicalPose) (footprint : RobotFootprint) : List PhysicalPose × Int :=
  ((List.range (sweepSteps R start finish + 1)).map (sampleAt R start finish), coverageMarginMm R start finish footprint)

/-- `footprint_sweep_intersects`: at the start, and anywhere in the sweep. -/
def footprintSweepIntersects (obstacleXMm obstacleYMm obstacleRadiusMm : Int) (start finish : PhysicalPose)
    (footprint : RobotFootprint) : Bool × Bool :=
  let baseClearanceMm := obstacleRadiusMm + footprint.clearanceMarginMm
  let sweep := interpolatedSweep R start finish footprint
  let meets (pose : PhysicalPose) : Bool :=
    pointDistance R obstacleXMm obstacleYMm pose footprint ≤ ((baseClearanceMm + sweep.2 : Int) : R)
  (meets start, sweep.1.any meets)

end

end RobotLlm.Hazard
