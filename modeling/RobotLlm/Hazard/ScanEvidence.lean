import Mathlib.Data.String.Basic
import RobotLlm.Lib.Check
import RobotLlm.Lib.Retain

/-!
# Evidence from active scans

What the hazard map keeps of a scan: an attempt with its rays, and for each
blocked bearing a collision support that outlives the attempt. A value that
its own checks reject cannot be built.
-/

namespace RobotLlm.Hazard

open RobotLlm.Lib

def maxScanAttemptsPerHazard : Nat := 16
def maxScanAttemptsPerMap : Nat := 64
def maxCollisionSupportsPerHazard : Nat := 512
def maxCollisionSupportsPerMap : Nat := 4096

-- Poses

structure PhysicalPose where
  xMm : Int
  yMm : Int
  headingMdeg : Int
  verifiedMotionCount : Int
  totalForwardMm : Int
  totalTurnMdeg : Int
  heading_valid : -180000 ≤ headingMdeg ∧ headingMdeg ≤ 179999
  totals_valid : 0 ≤ verifiedMotionCount ∧ 0 ≤ totalForwardMm ∧ 0 ≤ totalTurnMdeg
deriving DecidableEq

namespace PhysicalPose

/-- `PhysicalPose()`. -/
def origin : PhysicalPose := ⟨0, 0, 0, 0, 0, 0, by decide, by decide⟩

/-- `PhysicalPose(..)`, with the error's code. -/
def new (xMm yMm headingMdeg verifiedMotionCount totalForwardMm totalTurnMdeg : Int) : Except String PhysicalPose :=
  if hh : -180000 ≤ headingMdeg ∧ headingMdeg ≤ 179999 then
    if ht : 0 ≤ verifiedMotionCount ∧ 0 ≤ totalForwardMm ∧ 0 ≤ totalTurnMdeg then
      .ok ⟨xMm, yMm, headingMdeg, verifiedMotionCount, totalForwardMm, totalTurnMdeg, hh, ht⟩
    else .error "invalid_pose_totals"
  else .error "invalid_heading"

theorem new_self (p : PhysicalPose) :
    new p.xMm p.yMm p.headingMdeg p.verifiedMotionCount p.totalForwardMm p.totalTurnMdeg = .ok p := by
  simp [new, p.heading_valid, p.totals_valid]

end PhysicalPose

-- Rays and supports

/-- A reading of the IR sensor is absent or from 0 to 100. -/
def ReadingOk (reading : Option Int) : Prop := ∀ value ∈ reading, 0 ≤ value ∧ value ≤ 100

instance : (reading : Option Int) → Decidable (ReadingOk reading)
  | none => .isTrue nofun
  | some value => decidable_of_iff (0 ≤ value ∧ value ≤ 100) (by simp [ReadingOk])

/-- A ray of a scan. An `ActiveIrRay` has the same checks on these fields; its
ordinal, time and state version are not kept. -/
structure ScanRayEvidence where
  requestedRelativeBearingMdeg : Int
  actualRelativeBearingMdeg : Int
  blocked : Bool
  raw : Option Int
  filtered : Option Int
  bearings_valid : (-90000 ≤ requestedRelativeBearingMdeg ∧ requestedRelativeBearingMdeg ≤ 90000) ∧
    -100000 ≤ actualRelativeBearingMdeg ∧ actualRelativeBearingMdeg ≤ 100000
  readings_valid : ReadingOk raw ∧ ReadingOk filtered
deriving DecidableEq

/-- `ScanRayEvidence(..)`. -/
def ScanRayEvidence.new (requested actual : Int) (blocked : Bool) (raw filtered : Option Int) :
    Except String ScanRayEvidence :=
  if hb : (-90000 ≤ requested ∧ requested ≤ 90000) ∧ -100000 ≤ actual ∧ actual ≤ 100000 then
    if hr : ReadingOk raw ∧ ReadingOk filtered then .ok ⟨requested, actual, blocked, raw, filtered, hb, hr⟩
    else .error "scan ray evidence is invalid"
  else .error "scan ray evidence is invalid"

/-- At most 128 characters and none of them a control character. -/
def ScanIdOk (scanId : String) : Prop := scanId ≠ "" ∧ scanId.length ≤ 128 ∧ ∀ c ∈ scanId.toList, 32 ≤ c.toNat

instance : Decidable (ScanIdOk scanId) := inferInstanceAs (Decidable (_ ∧ _ ∧ _))

/-- A bearing that was blocked at a pose. Its provenance is one constant text. -/
structure AngularCollisionSupport where
  sourceScanId : String
  completedAtMs : Int
  poseXMm : Int
  poseYMm : Int
  poseHeadingMdeg : Int
  actualRelativeBearingMdeg : Int
  basedOnMapVersion : Int
  scanId_valid : ScanIdOk sourceScanId
  time_valid : 0 ≤ completedAtMs ∧ 0 ≤ basedOnMapVersion
  pose_valid : (-180000 ≤ poseHeadingMdeg ∧ poseHeadingMdeg ≤ 179999) ∧
    -100000 ≤ actualRelativeBearingMdeg ∧ actualRelativeBearingMdeg ≤ 100000
deriving DecidableEq

namespace AngularCollisionSupport

/-- `AngularCollisionSupport(..)`. -/
def new (sourceScanId : String) (completedAtMs poseXMm poseYMm poseHeadingMdeg actualRelativeBearingMdeg
    basedOnMapVersion : Int) : Except String AngularCollisionSupport :=
  if hs : ScanIdOk sourceScanId then
    if ht : 0 ≤ completedAtMs ∧ 0 ≤ basedOnMapVersion then
      if hp : (-180000 ≤ poseHeadingMdeg ∧ poseHeadingMdeg ≤ 179999) ∧
          -100000 ≤ actualRelativeBearingMdeg ∧ actualRelativeBearingMdeg ≤ 100000 then
        .ok ⟨sourceScanId, completedAtMs, poseXMm, poseYMm, poseHeadingMdeg, actualRelativeBearingMdeg,
          basedOnMapVersion, hs, ht, hp⟩
      else .error "angular collision support is invalid"
    else .error "angular collision support is invalid"
  else .error "angular collision support is invalid"

abbrev SpatialKey := Int ×ₗ Int ×ₗ Int ×ₗ Int

def spatialKey (s : AngularCollisionSupport) : SpatialKey :=
  toLex (s.poseXMm, toLex (s.poseYMm, toLex (s.poseHeadingMdeg, s.actualRelativeBearingMdeg)))

def order (s : AngularCollisionSupport) : Int ×ₗ String ×ₗ SpatialKey :=
  toLex (s.completedAtMs, toLex (s.sourceScanId, s.spatialKey))

/-- What decides which support of one geometry is the newer. -/
def freshness (s : AngularCollisionSupport) : Int ×ₗ String ×ₗ Int :=
  toLex (s.completedAtMs, toLex (s.sourceScanId, s.basedOnMapVersion))

end AngularCollisionSupport

-- Attempts

inductive ScanStatus where
  | completed
  | cancelled
deriving DecidableEq

def ScanStatus.text : ScanStatus → String
  | .completed => "COMPLETED"
  | .cancelled => "CANCELLED"

def ScanStatus.ofText? (text : String) : Option ScanStatus :=
  if text = "COMPLETED" then some .completed else if text = "CANCELLED" then some .cancelled else none

/-- `int(round(n / 2.0))`: halves go to the even neighbour. -/
def roundHalf (n : Int) : Int := if n % 2 = 0 ∨ n / 2 % 2 = 0 then n / 2 else n / 2 + 1

/-- The bearings between neighbouring rays that differ. -/
def transitions (rays : List ScanRayEvidence) : List Int :=
  let ordered := sortBy (·.requestedRelativeBearingMdeg) rays
  (ordered.zip ordered.tail).filterMap fun (first, second) =>
    if first.blocked ≠ second.blocked then
      some (roundHalf (first.requestedRelativeBearingMdeg + second.requestedRelativeBearingMdeg))
    else none

/-- The checks on the fields of an attempt, its boundaries apart. -/
def AttemptOk (scanId : String) (completedAtMs : Int) (reason : String) (rays : List ScanRayEvidence)
    (scanPose : Option PhysicalPose) (basedOnMapVersion : Option Int) : Prop :=
  ScanIdOk scanId ∧ 0 ≤ completedAtMs ∧ (reason ≠ "" ∧ reason.length ≤ 160) ∧ rays.length ≤ 16 ∧
    (rays.map (·.requestedRelativeBearingMdeg)).Nodup ∧ (scanPose = none ↔ basedOnMapVersion = none) ∧
    ∀ version ∈ basedOnMapVersion.toList, 0 ≤ version

instance : Decidable (AttemptOk scanId completedAtMs reason rays scanPose basedOnMapVersion) :=
  inferInstanceAs (Decidable (_ ∧ _ ∧ _ ∧ _ ∧ _ ∧ _ ∧ _))

def BoundariesOk (rays : List ScanRayEvidence) (leftBoundaryMdeg rightBoundaryMdeg : Option Int) : Prop :=
  (∀ left ∈ leftBoundaryMdeg.toList, 0 < left ∧ left ∈ transitions rays) ∧
    ∀ right ∈ rightBoundaryMdeg.toList, right < 0 ∧ right ∈ transitions rays

instance : Decidable (BoundariesOk rays left right) := inferInstanceAs (Decidable (_ ∧ _))

structure ScanAttemptEvidence where
  scanId : String
  completedAtMs : Int
  status : ScanStatus
  reason : String
  rays : List ScanRayEvidence
  leftBoundaryMdeg : Option Int
  rightBoundaryMdeg : Option Int
  scanPose : Option PhysicalPose
  basedOnMapVersion : Option Int
  allClearArcCoversTargetHypothesis : Option Bool
  fields_valid : AttemptOk scanId completedAtMs reason rays scanPose basedOnMapVersion
  boundaries_valid : BoundariesOk rays leftBoundaryMdeg rightBoundaryMdeg
deriving DecidableEq

inductive ObservationPattern where
  | noRays
  | allClear
  | allBlocked
  | mixed
deriving DecidableEq

inductive ArcCoverage where
  | bilateralArc
  | negativeArcOnly
  | positiveArcOnly
  | centerOnly
  | noArc
deriving DecidableEq

inductive HypothesisRelation where
  | conflictsBlockedHypothesis
  | supportsBlockedHypothesis
  | noEvidence
deriving DecidableEq

inductive BoundaryCoverage where
  | bilateralBoundaries
  | positiveBoundaryOnly
  | negativeBoundaryOnly
  | noBoundaries
deriving DecidableEq

structure EvidenceSignature where
  pose : Option PhysicalPose
  rayFacts : List (Int ×ₗ Bool)
  leftBoundaryMdeg : Option Int
  rightBoundaryMdeg : Option Int
  relation : HypothesisRelation
  status : ScanStatus
deriving DecidableEq

namespace ScanAttemptEvidence

/-- `ScanAttemptEvidence(..)`. -/
def new (scanId : String) (completedAtMs : Int) (status : ScanStatus) (reason : String) (rays : List ScanRayEvidence)
    (leftBoundaryMdeg rightBoundaryMdeg : Option Int) (scanPose : Option PhysicalPose) (basedOnMapVersion : Option Int)
    (allClearArcCoversTargetHypothesis : Option Bool) : Except String ScanAttemptEvidence :=
  if hf : AttemptOk scanId completedAtMs reason rays scanPose basedOnMapVersion then
    if hb : BoundariesOk rays leftBoundaryMdeg rightBoundaryMdeg then
      .ok ⟨scanId, completedAtMs, status, reason, rays, leftBoundaryMdeg, rightBoundaryMdeg, scanPose,
        basedOnMapVersion, allClearArcCoversTargetHypothesis, hf, hb⟩
    else .error "scan attempt boundary evidence is invalid"
  else .error "scan attempt evidence is invalid"

def observationPattern (a : ScanAttemptEvidence) : ObservationPattern :=
  if a.rays = [] then .noRays
  else
    let blocked := a.rays.countP (·.blocked)
    if blocked = 0 then .allClear else if blocked = a.rays.length then .allBlocked else .mixed

def arcCoverage (a : ScanAttemptEvidence) : ArcCoverage :=
  let negative := a.rays.any (·.requestedRelativeBearingMdeg < 0)
  let positive := a.rays.any (·.requestedRelativeBearingMdeg > 0)
  if negative && positive then .bilateralArc
  else if negative then .negativeArcOnly
  else if positive then .positiveArcOnly
  else if a.rays ≠ [] then .centerOnly
  else .noArc

/-- The scan found nothing on either side, where the hypothesis was expected. -/
def SeesNothing (a : ScanAttemptEvidence) : Prop :=
  a.observationPattern = .allClear ∧ a.arcCoverage = .bilateralArc ∧ a.reason = "bilateral_boundaries_not_observed"

instance (a : ScanAttemptEvidence) : Decidable a.SeesNothing := inferInstanceAs (Decidable (_ ∧ _ ∧ _))

def hypothesisRelation (a : ScanAttemptEvidence) : HypothesisRelation :=
  if a.SeesNothing then
    if a.allClearArcCoversTargetHypothesis = some true then .conflictsBlockedHypothesis else .noEvidence
  else if a.rays.any (·.blocked) then .supportsBlockedHypothesis
  else .noEvidence

def boundaryCoverage (a : ScanAttemptEvidence) : BoundaryCoverage :=
  match a.leftBoundaryMdeg, a.rightBoundaryMdeg with
  | some _, some _ => .bilateralBoundaries
  | some _, none => .positiveBoundaryOnly
  | none, some _ => .negativeBoundaryOnly
  | none, none => .noBoundaries

/-- `evidence_signature`: what makes an attempt informative, neither its id nor
its time. All six fields of the pose count. -/
def evidenceSignature (a : ScanAttemptEvidence) : EvidenceSignature where
  pose := a.scanPose
  rayFacts := sortBy id (a.rays.map fun ray => toLex (ray.actualRelativeBearingMdeg, ray.blocked))
  leftBoundaryMdeg := a.leftBoundaryMdeg
  rightBoundaryMdeg := a.rightBoundaryMdeg
  relation := a.hypothesisRelation
  status := a.status

/-- `AngularCollisionSupport.from_attempt`. -/
def supports (a : ScanAttemptEvidence) : List AngularCollisionSupport :=
  match hp : a.scanPose, hv : a.basedOnMapVersion with
  | some pose, some version =>
    if a.hypothesisRelation ≠ .supportsBlockedHypothesis then []
    else
      (a.rays.filter (·.blocked)).map fun ray =>
        { sourceScanId := a.scanId
          completedAtMs := a.completedAtMs
          poseXMm := pose.xMm
          poseYMm := pose.yMm
          poseHeadingMdeg := pose.headingMdeg
          actualRelativeBearingMdeg := ray.actualRelativeBearingMdeg
          basedOnMapVersion := version
          scanId_valid := a.fields_valid.1
          time_valid := ⟨a.fields_valid.2.1, a.fields_valid.2.2.2.2.2.2 version (by rw [hv]; simp)⟩
          pose_valid := ⟨pose.heading_valid, ray.bearings_valid.2⟩ }
  | _, _ => []

end ScanAttemptEvidence

-- Retention

/-- `retain_scan_attempt_diversity`: the newest of each signature, then older
repetitions while there is room. -/
def retainScanAttemptDiversity (attempts : List ScanAttemptEvidence) (limit : Nat) : List ScanAttemptEvidence :=
  let latest := latestBy (·.evidenceSignature) (fun _ _ => True) attempts
  let retained := lastN limit (sortBy (·.completedAtMs) latest)
  let older := (attempts.reverse.filter fun item => item.scanId ∉ retained.map (·.scanId)).take (limit - retained.length)
  sortBy (·.completedAtMs) (if retained.length < limit then retained ++ older else retained)

/-- `retain_collision_support_diversity`: the newest of each geometry. -/
def retainCollisionSupportDiversity (supports : List AngularCollisionSupport) (limit : Nat) :
    List AngularCollisionSupport :=
  lastN limit (sortBy (·.order) (latestBy (·.spatialKey) (fun new current => current.freshness < new.freshness) supports))

def collisionSupportsFromAttempts (attempts : List ScanAttemptEvidence) : List AngularCollisionSupport :=
  retainCollisionSupportDiversity (attempts.flatMap (·.supports)) maxCollisionSupportsPerHazard

end RobotLlm.Hazard
