import Mathlib.Data.Nat.Sqrt
import Mathlib.Tactic.MkIffOfInductiveProp
import RobotLlm.Lib.Exact

/-!
# Scan views and obstacle hypotheses of the spatial map

A scan view holds the echo points of one scan. Neighbouring echoes form a
cluster, and each cluster becomes a provisional hypothesis, which a reader of
the map checks again. Lengths are compared by their squares.
-/

namespace RobotLlm.Blast.SpatialMap

open RobotLlm.Lib

def startsWith (start : String) (text : String) : Bool := start.toList.isPrefixOf text.toList

-- Scan views

structure ScanPoint (R : Type) where
  side : String
  measuredRangeMm : R
  relativeBearingMdeg : Int
  sensorOriginXMm : Int
  sensorOriginYMm : Int
  beamHeadingMdeg : Int
  nominalEchoXMm : Int
  nominalEchoYMm : Int
deriving DecidableEq

structure ScanPose where
  xMm : Int
  yMm : Int
  headingMdeg : Int
deriving DecidableEq

structure Projection (R : Type) where
  schema : String
  frame : String
  quality : String
  verticalPitchCompensated : Bool
  ultrasonicBeamWidthModeled : Bool
  scanTurnTranslationCompensated : Bool
  points : List (ScanPoint R)
  /-- Not there where no return is uncertain. -/
  uncertainPoints : Option (List (ScanPoint R))
deriving DecidableEq

structure ScanView (R : Type) where
  scanId : String
  observedAtUnixMs : Int
  scanPose : ScanPose
  projection : Projection R
deriving DecidableEq

def scanRaySides : List String := ["center", "left_near", "left_far", "right_near", "right_far"]

def scanAngularRaySides : List String :=
  ["center", "left_1", "left_2", "left_3", "left_4", "left_5", "left_6", "left_7", "left_8",
    "right_1", "right_2", "right_3", "right_4", "right_5", "right_6", "right_7", "right_8"]

def scanSides : List String := scanRaySides ++ scanAngularRaySides

def scanMaxAbsoluteBearingMdeg : Int := 180000

def integer (value minimum maximum : Int) : Prop := minimum ≤ value ∧ value ≤ maximum

instance : Decidable (integer value minimum maximum) := inferInstanceAs (Decidable (_ ∧ _))

def coordinate (value : Int) : Prop := integer value (-1000000) 1000000

instance : Decidable (coordinate value) := inferInstanceAs (Decidable (_ ∧ _))

/-- `_pose`. -/
def poseOk (pose : ScanPose) : Prop :=
  coordinate pose.xMm ∧ coordinate pose.yMm ∧ integer pose.headingMdeg (-180000) 179999

instance : Decidable (poseOk pose) := inferInstanceAs (Decidable (_ ∧ _ ∧ _))

def bearingOnSide (side : String) (bearing : Int) : Prop :=
  (side = "center" → bearing = 0) ∧ (startsWith "left_" side = true → 0 < bearing) ∧
    (startsWith "right_" side = true → bearing < 0)

instance : Decidable (bearingOnSide side bearing) := inferInstanceAs (Decidable (_ ∧ _ ∧ _))

section
variable {R : Type} [Field R] [LinearOrder R]

/-- `_number(value, 0, 1_999.999999)`. -/
def rangeOk (value : R) : Prop := 0 ≤ value ∧ value ≤ 1999999999 / 1000000

instance : Decidable (rangeOk (R := R) value) := inferInstanceAs (Decidable (_ ∧ _))

/-- The echo lies where range and beam put it, but for rounding. -/
def echoOk [Trig R] (p : ScanPoint R) : Prop :=
  |(p.nominalEchoXMm : R) - (p.sensorOriginXMm + p.measuredRangeMm * Trig.cos (radians ((p.beamHeadingMdeg : R) / 1000)))| ≤ 3 / 2 ∧
    |(p.nominalEchoYMm : R) - (p.sensorOriginYMm + p.measuredRangeMm * Trig.sin (radians ((p.beamHeadingMdeg : R) / 1000)))| ≤ 3 / 2

instance [Trig R] (p : ScanPoint R) : Decidable (echoOk p) := inferInstanceAs (Decidable (_ ∧ _))

/-- `_scan_point`. -/
@[mk_iff]
structure ScanPointOk [Trig R] (p : ScanPoint R) : Prop where
  side : p.side ∈ scanSides
  range : rangeOk p.measuredRangeMm
  bearing : integer p.relativeBearingMdeg (-scanMaxAbsoluteBearingMdeg) scanMaxAbsoluteBearingMdeg
  origin : coordinate p.sensorOriginXMm ∧ coordinate p.sensorOriginYMm
  beam : integer p.beamHeadingMdeg (-180000) 179999
  echo : coordinate p.nominalEchoXMm ∧ coordinate p.nominalEchoYMm
  onSide : bearingOnSide p.side p.relativeBearingMdeg
  placed : echoOk p

instance [Trig R] (p : ScanPoint R) : Decidable (ScanPointOk p) := decidable_of_iff' _ (scanPointOk_iff p)

/-- The points of a projection, the uncertain ones last. -/
def Projection.allPoints (projection : Projection R) : List (ScanPoint R) :=
  projection.points ++ projection.uncertainPoints.getD []

/-- `_scan_view`. -/
@[mk_iff]
structure ScanViewOk [Trig R] (view : ScanView R) (nowUnixMs : Int) : Prop where
  scanId : 0 < view.scanId.length ∧ view.scanId.length ≤ 128
  observedAt : integer view.observedAtUnixMs 0 nowUnixMs
  pose : poseOk view.scanPose
  schema : view.projection.schema = "blast-planar-scan-projection/v1"
  frame : view.projection.frame = "EPISODE_LOCAL_ODOMETRY"
  quality : view.projection.quality = "PROVISIONAL_YAW_ONLY"
  unmodelled : view.projection.verticalPitchCompensated = false ∧ view.projection.ultrasonicBeamWidthModeled = false ∧
    view.projection.scanTurnTranslationCompensated = false
  points : ∀ p ∈ view.projection.allPoints, ScanPointOk p
  sides : (view.projection.allPoints.map (·.side)).Nodup
  count : view.projection.allPoints.length ≤ scanAngularRaySides.length

instance [Trig R] (view : ScanView R) : Decidable (ScanViewOk view nowUnixMs) := decidable_of_iff' _ (scanViewOk_iff view nowUnixMs)

def maxPlanarScanViews : Nat := 16

/-- What `_trace_inputs` checks of the scan views. -/
@[mk_iff]
structure TraceInputsOk [Trig R] (views : List (ScanView R)) (nowUnixMs : Int) : Prop where
  count : views.length ≤ maxPlanarScanViews
  valid : ∀ view ∈ views, ScanViewOk view nowUnixMs
  ids : (views.map (·.scanId)).Nodup

instance [Trig R] (views : List (ScanView R)) : Decidable (TraceInputsOk views nowUnixMs) :=
  decidable_of_iff' _ (traceInputsOk_iff views nowUnixMs)

end

-- Clusters

/-- The square of `math.hypot(x' - x, y' - y)`. -/
def distanceSq (x y x' y' : Int) : Int := (x' - x) ^ 2 + (y' - y) ^ 2

/-- `math.ceil` of the root of a sum of squares. -/
def ceilSqrt (square : Int) : Int :=
  let root := square.toNat.sqrt
  if root * root = square.toNat then root else root + 1

section
variable {R : Type}

def near (previous point : ScanPoint R) : Prop :=
  |point.relativeBearingMdeg - previous.relativeBearingMdeg| ≤ 30000 ∧
    distanceSq previous.nominalEchoXMm previous.nominalEchoYMm point.nominalEchoXMm point.nominalEchoYMm ≤ 225 ^ 2

instance (previous point : ScanPoint R) : Decidable (near previous point) := inferInstanceAs (Decidable (_ ∧ _))

/-- `sorted(points, key=.., reverse=True)`, which keeps the order of ties. -/
def byBearing (points : List (ScanPoint R)) : List (ScanPoint R) :=
  points.mergeSort fun a b => b.relativeBearingMdeg ≤ a.relativeBearingMdeg

def addPoint (clusters : List (List (ScanPoint R))) (point : ScanPoint R) : List (List (ScanPoint R)) :=
  match clusters.getLast? with
  | none => [[point]]
  | some cluster =>
    match cluster.getLast? with
    | none => clusters ++ [[point]]
    | some previous =>
      if near previous point then clusters.dropLast ++ [cluster ++ [point]] else clusters ++ [[point]]

def clusterScanPoints (points : List (ScanPoint R)) : List (List (ScanPoint R)) :=
  (byBearing points).foldl addPoint []

end

-- Hypotheses

structure SupportPoint (R : Type) where
  side : String
  xMm : Int
  yMm : Int
  measuredRangeMm : R
  relativeBearingMdeg : Int
deriving DecidableEq

structure ObstacleHypothesis (R : Type) where
  hypothesisId : String
  classification : String
  label : String
  xMm : Int
  yMm : Int
  geometryKind : String
  supportRadiusMm : Int
  supportPoints : List (SupportPoint R)
  sourceScanIds : List String
  bearing : String
  relation : String
  evidenceCount : Nat
  confidenceMilli : Int
  sourceId : String
  provenance : String
  quality : String
  settledMeasuredOnly : Bool
  provisional : Bool
  readOnly : Bool
  observedAtUnixMs : Int
  ageMs : Int
deriving DecidableEq

def obstacleClassification : String := "PROVISIONAL_ULTRASONIC_OBSTACLE_CLUSTER"
def obstacleGeometry : String := "PROVISIONAL_ULTRASONIC_ECHO_CLUSTER"
def obstacleSource : String := "blast-settled-measured-planar-projection"
def obstacleProvenance : String := "SETTLED_MEASURED_ULTRASONIC + PROVISIONAL_YAW_ONLY"
def maxProvisionalObstacleHypotheses : Nat := 64

def removeSuffix (ending text : String) : String :=
  if ending.toList.isSuffixOf text.toList then String.ofList (text.toList.take (text.length - ending.length)) else text

/-- The `hexdigest` of the identity of a cluster: scan, ordinal and points. -/
abbrev Digest := String → Nat → List (String × Int × Int) → String

section
variable {R : Type} [Field R] [LinearOrder R]

/-- `sum(..) / len(..)`. -/
def mean (values : List Int) : R := (values.sum : R) / (values.length : R)

instance atLeastTwo_sideMdeg : Nat.AtLeastTwo 7500 := ⟨by decide⟩

def relationOf (meanBearing : R) : String :=
  if 7500 < meanBearing then "LEFT_OF_SCAN" else if meanBearing < -7500 then "RIGHT_OF_SCAN" else "FRONT_OF_SCAN"

def SupportPoint.of (p : ScanPoint R) : SupportPoint R :=
  ⟨p.side, p.nominalEchoXMm, p.nominalEchoYMm, p.measuredRangeMm, p.relativeBearingMdeg⟩

/-- The square of the greatest distance of a support point. -/
def radiusSq (x y : Int) (points : List (SupportPoint R)) : Int :=
  (points.map fun p => distanceSq x y p.xMm p.yMm).foldl max 0

variable [FloorRing R]

/-- `int(round(sum(..) / len(..)))`. -/
def roundedMean (R : Type) [Field R] [LinearOrder R] [FloorRing R] (values : List Int) : Int := roundEven (mean values : R)

/-- The body of `provisional_obstacle_hypotheses`, for one cluster. -/
def hypothesisOf (digest : Digest) (view : ScanView R) (ordinal : Nat) (cluster : List (ScanPoint R)) : ObstacleHypothesis R :=
  let support := cluster.map SupportPoint.of
  let centroidX := roundedMean R (cluster.map (·.nominalEchoXMm))
  let centroidY := roundedMean R (cluster.map (·.nominalEchoYMm))
  let relation := relationOf (roundedMean R (cluster.map (·.relativeBearingMdeg)) : R)
  let identity := digest view.scanId ordinal (cluster.map fun p => (p.side, p.nominalEchoXMm, p.nominalEchoYMm))
  { hypothesisId := "blast-ultrasonic-" ++ String.ofList (identity.toList.take 20)
    classification := obstacleClassification
    label := obstacleClassification
    xMm := centroidX
    yMm := centroidY
    geometryKind := obstacleGeometry
    supportRadiusMm := max 35 (ceilSqrt (radiusSq centroidX centroidY support) + 35)
    supportPoints := support
    sourceScanIds := [view.scanId]
    bearing := removeSuffix "_OF_SCAN" relation
    relation
    evidenceCount := cluster.length
    confidenceMilli := min 350 (200 + 25 * (cluster.length - 1))
    sourceId := obstacleSource
    provenance := obstacleProvenance
    quality := "PROVISIONAL_YAW_ONLY"
    settledMeasuredOnly := true
    provisional := true
    readOnly := true
    observedAtUnixMs := view.observedAtUnixMs
    ageMs := 0 }

/-- The clusters of all views, each with its view and its ordinal. -/
def scanClusters (views : List (ScanView R)) : List (ScanView R × Nat × List (ScanPoint R)) :=
  views.flatMap fun view => (clusterScanPoints view.projection.points).zipIdx.map fun c => (view, c.2, c.1)

/-- `values[-n:]`. -/
def lastOf (n : Nat) (values : List α) : List α := values.drop (values.length - n)

def provisionalObstacleHypotheses (digest : Digest) (views : List (ScanView R)) : List (ObstacleHypothesis R) :=
  lastOf maxProvisionalObstacleHypotheses ((scanClusters views).map fun c => hypothesisOf digest c.1 c.2.1 c.2.2)

-- The check of a reader

@[mk_iff]
structure SupportPointOk (p : SupportPoint R) : Prop where
  side : p.side ∈ scanSides
  place : coordinate p.xMm ∧ coordinate p.yMm
  range : rangeOk p.measuredRangeMm
  bearing : integer p.relativeBearingMdeg (-scanMaxAbsoluteBearingMdeg) scanMaxAbsoluteBearingMdeg
  onSide : bearingOnSide p.side p.relativeBearingMdeg

instance (p : SupportPoint R) : Decidable (SupportPointOk p) := decidable_of_iff' _ (supportPointOk_iff p)

/-- `_provisional_obstacle_hypothesis`. -/
@[mk_iff]
structure ProvisionalObstacleHypothesisOk (h : ObstacleHypothesis R) (nowUnixMs : Int) : Prop where
  hypothesisId : 0 < h.hypothesisId.length ∧ h.hypothesisId.length ≤ 128
  classification : h.classification = obstacleClassification ∧ h.label = obstacleClassification
  place : coordinate h.xMm ∧ coordinate h.yMm
  geometryKind : h.geometryKind = obstacleGeometry
  supportRadius : integer h.supportRadiusMm 1 10000
  supportCount : 1 ≤ h.supportPoints.length ∧ h.supportPoints.length ≤ scanAngularRaySides.length
  sourceCount : 1 ≤ h.sourceScanIds.length ∧ h.sourceScanIds.length ≤ maxPlanarScanViews
  sources : ∀ scanId ∈ h.sourceScanIds, 0 < scanId.length ∧ scanId.length ≤ 128
  sourcesDistinct : h.sourceScanIds.Nodup
  bearingKnown : h.bearing ∈ ["LEFT", "FRONT", "RIGHT"]
  relationKnown : h.relation ∈ ["LEFT_OF_SCAN", "FRONT_OF_SCAN", "RIGHT_OF_SCAN"]
  evidenceCount : h.evidenceCount = h.supportPoints.length
  confidence : integer h.confidenceMilli 1 400
  origin : h.sourceId = obstacleSource ∧ h.provenance = obstacleProvenance ∧ h.quality = "PROVISIONAL_YAW_ONLY"
  flags : h.settledMeasuredOnly = true ∧ h.provisional = true ∧ h.readOnly = true
  observedAt : integer h.observedAtUnixMs 0 nowUnixMs
  age : integer h.ageMs 0 (2 ^ 63 - 1)
  points : ∀ p ∈ h.supportPoints, SupportPointOk p
  centroid : |(h.xMm : R) - mean (h.supportPoints.map (·.xMm))| ≤ 3 / 2 ∧ |(h.yMm : R) - mean (h.supportPoints.map (·.yMm))| ≤ 3 / 2
  /-- `radius <= support_radius <= radius + 100`. -/
  radius : radiusSq h.xMm h.yMm h.supportPoints ≤ h.supportRadiusMm ^ 2 ∧
    (h.supportRadiusMm ≤ 100 ∨ (h.supportRadiusMm - 100) ^ 2 ≤ radiusSq h.xMm h.yMm h.supportPoints)
  relation : h.relation = relationOf (mean (h.supportPoints.map (·.relativeBearingMdeg)) : R)
  bearing : h.bearing = removeSuffix "_OF_SCAN" (relationOf (mean (h.supportPoints.map (·.relativeBearingMdeg)) : R))

instance (h : ObstacleHypothesis R) : Decidable (ProvisionalObstacleHypothesisOk h nowUnixMs) :=
  decidable_of_iff' _ (provisionalObstacleHypothesisOk_iff h nowUnixMs)

end

end RobotLlm.Blast.SpatialMap
