import Mathlib.Data.List.MinMax
import RobotLlm.Hazard.ScanEvidence
import RobotLlm.Lib.Machine
import RobotLlm.Lib.Prog
import RobotLlm.Lib.PyMath

/-!
# The map of provisional hazards

A blocked reading makes or refreshes a hypothesis, a scan adds evidence for or
against it, and nothing but evidence takes it out of the collision check. All
of it is bounded: per hypothesis when a scan is recorded, over the whole map by
two loops after that, and in the number of hypotheses by dropping the oldest.
-/

namespace RobotLlm.Hazard

open RobotLlm.Lib

def maxHazardsPerMap : Nat := 64

inductive ScanEvictionReason where
  | perHazardCapacity
  | mapCapacity
  | withHypothesis
deriving DecidableEq

inductive SupportEvictionReason where
  | perHazardCapacity
  | mapCapacity
deriving DecidableEq

inductive HazardEvictionReason where
  | mapCapacity
deriving DecidableEq

structure HazardMapCalibration where
  provisionalHazardOffsetMm : Int := 140
  provisionalHazardRadiusMm : Int := 70
  hazardMergeDistanceMm : Int := 120
  maximumAnchorHeadingDriftMdeg : Int := 5000
  positive : 0 < provisionalHazardOffsetMm ∧ 0 < provisionalHazardRadiusMm ∧ 0 < hazardMergeDistanceMm ∧
    0 < maximumAnchorHeadingDriftMdeg := by decide
deriving DecidableEq

-- One hypothesis

structure HazardFields where
  hypothesisId : String
  frameId : String
  anchorXMm : Int
  anchorYMm : Int
  anchorHeadingMdeg : Int
  centroidXMm : Int
  centroidYMm : Int
  radiusMm : Int
  firstSeenAtMs : Int
  lastSeenAtMs : Int
  evidenceCount : Int
  lastStateVersion : Int
  lastRawIrProximity : Option Int
  lastFilteredIrProximity : Option Int
  scanCompletedAtMs : Option Int := none
  scanLeftBoundaryMdeg : Option Int := none
  scanRightBoundaryMdeg : Option Int := none
  scanEvidenceHistory : List ScanAttemptEvidence := []
  scanAttemptsEvicted : Int := 0
  scanAttemptsEvictionReason : Option ScanEvictionReason := none
  collisionSupports : List AngularCollisionSupport := []
  collisionSupportsEvicted : Int := 0
  collisionSupportsEvictionReason : Option SupportEvictionReason := none
  collisionContestedAtMs : Option Int := none
deriving DecidableEq

namespace HazardFields

def IdentityOk (f : HazardFields) : Prop := f.hypothesisId ≠ "" ∧ f.frameId ≠ ""

def BoundsOk (f : HazardFields) : Prop :=
  0 < f.radiusMm ∧ 0 ≤ f.firstSeenAtMs ∧ f.firstSeenAtMs ≤ f.lastSeenAtMs ∧ 0 < f.evidenceCount ∧ 0 < f.lastStateVersion

def ReadingsOk (f : HazardFields) : Prop := ReadingOk f.lastRawIrProximity ∧ ReadingOk f.lastFilteredIrProximity

/-- The three values of a scan are there together or not at all. -/
def ScanValuesOk (f : HazardFields) : Prop :=
  (f.scanCompletedAtMs.isSome = f.scanLeftBoundaryMdeg.isSome) ∧ f.scanCompletedAtMs.isSome = f.scanRightBoundaryMdeg.isSome

def HistoryOk (f : HazardFields) : Prop :=
  f.scanEvidenceHistory.length ≤ maxScanAttemptsPerHazard ∧
    sortBy (·.completedAtMs) f.scanEvidenceHistory = f.scanEvidenceHistory

def AttemptEvictionOk (f : HazardFields) : Prop :=
  0 ≤ f.scanAttemptsEvicted ∧ (f.scanAttemptsEvicted = 0 → f.scanAttemptsEvictionReason = none) ∧
    (0 < f.scanAttemptsEvicted → f.scanAttemptsEvictionReason = some .perHazardCapacity ∨
      f.scanAttemptsEvictionReason = some .mapCapacity)

def SupportsOk (f : HazardFields) : Prop :=
  f.collisionSupports.length ≤ maxCollisionSupportsPerHazard ∧
    sortBy (·.order) f.collisionSupports = f.collisionSupports ∧ (f.collisionSupports.map (·.spatialKey)).Nodup

def SupportEvictionOk (f : HazardFields) : Prop :=
  0 ≤ f.collisionSupportsEvicted ∧ (f.collisionSupportsEvicted = 0 → f.collisionSupportsEvictionReason = none) ∧
    (0 < f.collisionSupportsEvicted → f.collisionSupportsEvictionReason ≠ none)

def ContestOk (f : HazardFields) : Prop := ∀ contested ∈ f.collisionContestedAtMs.toList, f.firstSeenAtMs ≤ contested

instance (f : HazardFields) : Decidable f.IdentityOk := inferInstanceAs (Decidable (_ ∧ _))
instance (f : HazardFields) : Decidable f.BoundsOk := inferInstanceAs (Decidable (_ ∧ _))
instance (f : HazardFields) : Decidable f.ReadingsOk := inferInstanceAs (Decidable (_ ∧ _))
instance (f : HazardFields) : Decidable f.ScanValuesOk := inferInstanceAs (Decidable (_ ∧ _))
instance (f : HazardFields) : Decidable f.HistoryOk := inferInstanceAs (Decidable (_ ∧ _))
instance (f : HazardFields) : Decidable f.AttemptEvictionOk := inferInstanceAs (Decidable (_ ∧ _ ∧ _))
instance (f : HazardFields) : Decidable f.SupportsOk := inferInstanceAs (Decidable (_ ∧ _ ∧ _))
instance (f : HazardFields) : Decidable f.SupportEvictionOk := inferInstanceAs (Decidable (_ ∧ _ ∧ _))
instance (f : HazardFields) : Decidable f.ContestOk := inferInstanceAs (Decidable (∀ _ ∈ _, _))

/-- The supports of a hypothesis without any are derived from its history. -/
def materialize (f : HazardFields) : HazardFields :=
  { f with
    collisionSupports := if f.collisionSupports = [] then collisionSupportsFromAttempts f.scanEvidenceHistory
      else f.collisionSupports }

/-- The latest attempt of the history that conflicts. -/
def historyConflict (f : HazardFields) : Option Int :=
  ((f.scanEvidenceHistory.filter (·.hypothesisRelation = .conflictsBlockedHypothesis)).map (·.completedAtMs)).max?

/-- The time of contest is never behind the history's. -/
def contest (f : HazardFields) : HazardFields :=
  { f with
    collisionContestedAtMs := match f.collisionContestedAtMs, f.historyConflict with
      | none, conflict => conflict
      | some contested, none => some contested
      | some contested, some conflict => some (max contested conflict) }

def postInit (f : HazardFields) : Except String HazardFields :=
  if ¬ f.IdentityOk then .error "hazard identity is invalid"
  else if ¬ f.BoundsOk then .error "hazard bounds are invalid"
  else if ¬ f.ReadingsOk then .error "hazard IR evidence is invalid"
  else if ¬ f.ScanValuesOk then .error "hazard scan evidence is incomplete"
  else if ¬ f.HistoryOk then .error "hazard scan history is invalid"
  else if ¬ f.AttemptEvictionOk then .error "hazard scan attempt eviction is invalid"
  else if ¬ f.materialize.SupportsOk then .error "hazard collision support index is invalid"
  else if ¬ f.SupportEvictionOk then .error "hazard collision support eviction is invalid"
  else if ¬ f.ContestOk then .error "hazard collision conflict is invalid"
  else .ok f.materialize.contest

end HazardFields

/-- What `__post_init__` let through. -/
structure ProvisionalHazard extends HazardFields where
  built : ∃ given : HazardFields, given.postInit = .ok toHazardFields
deriving DecidableEq

namespace ProvisionalHazard

/-- `ProvisionalHazard(..)`, and also `replace` on the changed fields. -/
def new (f : HazardFields) : Except String ProvisionalHazard :=
  match h : f.postInit with
  | .ok fields => .ok ⟨fields, f, h⟩
  | .error e => .error e

def bilateralScanComplete (h : ProvisionalHazard) : Bool :=
  match h.scanCompletedAtMs, h.scanLeftBoundaryMdeg, h.scanRightBoundaryMdeg with
  | some completed, some left, some right =>
    0 < left && right < 0 && (match h.collisionContestedAtMs with
      | none => true
      | some contested => contested < completed)
  | _, _, _ => false

/-- The newest time of a support, and `-1` if there is none. -/
def latestBlockedSupportAtMs (h : ProvisionalHazard) : Int := ((h.collisionSupports.map (·.completedAtMs)).max?).getD (-1)

def latestBilateralBoundaryAtMs (h : ProvisionalHazard) : Int :=
  if h.bilateralScanComplete then h.scanCompletedAtMs.getD (-1) else -1

/-- `active_for_collision`: something supports the hypothesis since it was last contested. -/
def activeForCollision (h : ProvisionalHazard) : Bool :=
  match h.collisionContestedAtMs with
  | none => true
  | some conflict => conflict < max (max h.lastSeenAtMs h.latestBlockedSupportAtMs) h.latestBilateralBoundaryAtMs

end ProvisionalHazard

-- The map

structure ProvisionalHazardMap where
  frameId : String
  mapGenerationId : String
  revision : Int := 0
  calibration : HazardMapCalibration := {}
  hazards : List ProvisionalHazard := []
  hazardsEvicted : Int := 0
  hazardsEvictionReason : Option HazardEvictionReason := none
  scanAttemptsEvicted : Int := 0
  scanAttemptsEvictionReason : Option ScanEvictionReason := none
deriving DecidableEq

inductive MapError where
  | valueError (message : String)
  /-- An attribute of `None` was asked for. -/
  | attributeError
  /-- The call does not return. -/
  | diverges
deriving DecidableEq

abbrev MapProg := Prog ProvisionalHazardMap MapError

/-- What a call on the map reads of an observation. -/
structure HazardObservation where
  blocked : Bool
  raw : Option Int
  filtered : Option Int
  stateVersion : Int

structure ActiveIrScanResult where
  scanId : String
  targetHypothesisId : String
  frameId : String
  mapGenerationId : String
  basedOnMapVersion : Int
  completedAtMs : Int
  status : String
  reason : String
  stopConfirmed : Bool
  restoredStartHeading : Bool
  rays : List ScanRayEvidence
  leftBoundaryMdeg : Option Int
  rightBoundaryMdeg : Option Int

def ActiveIrScanResult.BilateralComplete (r : ActiveIrScanResult) : Prop :=
  r.status = "COMPLETED" ∧ r.stopConfirmed = true ∧ r.restoredStartHeading = true ∧
    (∃ left ∈ r.leftBoundaryMdeg, 0 < left) ∧ ∃ right ∈ r.rightBoundaryMdeg, right < 0

instance (r : ActiveIrScanResult) : Decidable r.BilateralComplete := inferInstanceAs (Decidable (_ ∧ _ ∧ _ ∧ _ ∧ _))

def ScanAttemptEvidence.fromScanResult (r : ActiveIrScanResult) (scanPose : PhysicalPose) :
    Except String ScanAttemptEvidence :=
  match ScanStatus.ofText? r.status with
  | none => .error "scan attempt evidence is invalid"
  | some status =>
    ScanAttemptEvidence.new r.scanId r.completedAtMs status r.reason r.rays r.leftBoundaryMdeg r.rightBoundaryMdeg (some scanPose)
      (some r.basedOnMapVersion) none

def normalizeHeadingMdeg (value : Int) : Int := (value + 180000) % 360000 - 180000

namespace ProvisionalHazardMap

/-- `self.get(hypothesis_id)`. -/
def get? (m : ProvisionalHazardMap) (hypothesisId : String) : Option ProvisionalHazard :=
  m.hazards.find? (·.hypothesisId = hypothesisId)

/-- The hazards, with `updated` in the place of those of its id. -/
def put (m : ProvisionalHazardMap) (updated : ProvisionalHazard) (hypothesisId : String) : ProvisionalHazardMap :=
  { m with hazards := replaceAt (·.hypothesisId) m.hazards hypothesisId updated }

def attemptCount (m : ProvisionalHazardMap) : Nat := (m.hazards.map (·.scanEvidenceHistory.length)).sum

def supportCount (m : ProvisionalHazardMap) : Nat := (m.hazards.map (·.collisionSupports.length)).sum

end ProvisionalHazardMap

/-- An error of the code below, as the map raises it. -/
def raising (x : Except String α) : MapProg α := .ofExcept (x.mapError .valueError)

-- Geometry

section
variable {F : Type} [PyMath F]

/-- `x + int(round(math.cos(heading) * offset))`, and the same with the sine. -/
def project (F : Type) [PyMath F] (xMm yMm headingMdeg offsetMm : Int) : Int × Int :=
  let heading : F := PyMath.radians (PyMath.div (PyMath.ofInt headingMdeg) (PyMath.ofInt 1000))
  (xMm + PyMath.round (PyMath.mul (PyMath.cos heading) (PyMath.ofInt offsetMm)),
    yMm + PyMath.round (PyMath.mul (PyMath.sin heading) (PyMath.ofInt offsetMm)))

def distance (F : Type) [PyMath F] (dxMm dyMm : Int) : F := PyMath.hypot (PyMath.ofInt dxMm) (PyMath.ofInt dyMm)

def scanArcCoversCircle (F : Type) [PyMath F] (attempt : ScanAttemptEvidence) (centerXMm centerYMm radiusMm : Int) : Bool :=
  match attempt.scanPose, (attempt.rays.map (·.actualRelativeBearingMdeg)).min?,
      (attempt.rays.map (·.actualRelativeBearingMdeg)).max? with
  | some pose, some minimumBearing, some maximumBearing =>
    let alignmentToleranceMdeg := 1000
    let relativeX := centerXMm - pose.xMm
    let relativeY := centerYMm - pose.yMm
    let d : F := distance F relativeX relativeY
    if PyMath.le d (PyMath.ofInt radiusMm) then false
    else
      let centerBearing := normalizeHeadingMdeg (PyMath.round (PyMath.mul (PyMath.degrees (PyMath.atan2
        (PyMath.ofInt relativeY) (PyMath.ofInt relativeX))) (PyMath.ofInt 1000 : F)) - pose.headingMdeg)
      let halfWidth := PyMath.ceil (PyMath.sub (PyMath.mul (PyMath.degrees (PyMath.asin (PyMath.min (PyMath.ofInt 1)
        (PyMath.div (PyMath.ofInt radiusMm) d)))) (PyMath.ofInt 1000)) PyMath.nano)
      !(centerBearing - halfWidth < minimumBearing - alignmentToleranceMdeg ||
        centerBearing + halfWidth > maximumBearing + alignmentToleranceMdeg)
  | _, _, _ => false

/-- `covered` of `_all_clear_arc_covers_hazard`: the envelope is in the arc, and
no farther away than from where it was seen blocked. -/
def covered (F : Type) [PyMath F] (attempt : ScanAttemptEvidence) (pose : PhysicalPose)
    (supportXMm supportYMm radiusMm evidencePoseXMm evidencePoseYMm : Int) : Bool :=
  let d : F := distance F (supportXMm - pose.xMm) (supportYMm - pose.yMm)
  if PyMath.le d (PyMath.ofInt radiusMm) then false
  else if PyMath.lt (distance F (supportXMm - evidencePoseXMm) (supportYMm - evidencePoseYMm)) d then false
  else scanArcCoversCircle F attempt supportXMm supportYMm radiusMm

/-- `hazard.collision_contested_at_ms or -1`. -/
def ProvisionalHazard.conflictCutoff (h : ProvisionalHazard) : Int :=
  match h.collisionContestedAtMs with
  | none | some 0 => -1
  | some contested => contested

def allClearArcCoversHazard (F : Type) [PyMath F] (c : HazardMapCalibration) (hazard : ProvisionalHazard)
    (attempt : ScanAttemptEvidence) : Bool :=
  match attempt.scanPose with
  | none => false
  | some pose =>
    attempt.rays ≠ [] &&
      covered F attempt pose hazard.centroidXMm hazard.centroidYMm hazard.radiusMm hazard.anchorXMm hazard.anchorYMm &&
      (hazard.collisionSupports.filter (hazard.conflictCutoff < ·.completedAtMs)).all fun support =>
        let p := project F support.poseXMm support.poseYMm (support.poseHeadingMdeg + support.actualRelativeBearingMdeg)
          c.provisionalHazardOffsetMm
        covered F attempt pose p.1 p.2 hazard.radiusMm support.poseXMm support.poseYMm

-- Observations

/-- `_stable_id`; `digest` is the start of the SHA-256 of its texts, joined by a
zero character. -/
def stableId (digest : List String → String) (mapGenerationId : String) (pose : PhysicalPose)
    (observedAtMs stateVersion : Int) : String :=
  "provisional-object-" ++
    digest [mapGenerationId, pose.xMm.repr, pose.yMm.repr, pose.headingMdeg.repr, observedAtMs.repr, stateVersion.repr]

/-- How far the heading is from the one the hypothesis was anchored at. -/
def headingDrift (pose : PhysicalPose) (h : ProvisionalHazard) : Int :=
  ((pose.headingMdeg - h.anchorHeadingMdeg + 180000) % 360000 - 180000).natAbs

/-- The turn of the loop that looks for the nearest hypothesis to merge with. -/
def nearer (F : Type) [PyMath F] (c : HazardMapCalibration) (pose : PhysicalPose) (center : Int × Int)
    (nearest : Option (ProvisionalHazard × F)) (h : ProvisionalHazard) : Option (ProvisionalHazard × F) :=
  let d : F := distance F (center.1 - h.centroidXMm) (center.2 - h.centroidYMm)
  if PyMath.le d (PyMath.ofInt c.hazardMergeDistanceMm) && headingDrift pose h ≤ c.maximumAnchorHeadingDriftMdeg &&
      (match nearest with
        | none => true
        | some (_, best) => PyMath.lt d best) then some (h, d)
  else nearest

/-- What a blocked observation makes of a pose it has no hypothesis for. -/
def freshFields (digest : List String → String) (m : ProvisionalHazardMap) (pose : PhysicalPose) (center : Int × Int)
    (observation : HazardObservation) (observedAtMs : Int) : HazardFields where
  hypothesisId := stableId digest m.mapGenerationId pose observedAtMs observation.stateVersion
  frameId := m.frameId
  anchorXMm := pose.xMm
  anchorYMm := pose.yMm
  anchorHeadingMdeg := pose.headingMdeg
  centroidXMm := center.1
  centroidYMm := center.2
  radiusMm := m.calibration.provisionalHazardRadiusMm
  firstSeenAtMs := observedAtMs
  lastSeenAtMs := observedAtMs
  evidenceCount := 1
  lastStateVersion := observation.stateVersion
  lastRawIrProximity := observation.raw
  lastFilteredIrProximity := observation.filtered

/-- A new hypothesis goes to the end, and the oldest go when there are too many. -/
def ProvisionalHazardMap.insert (m : ProvisionalHazardMap) (updated : ProvisionalHazard) : ProvisionalHazardMap :=
  let candidates := m.hazards ++ [updated]
  let evicted := candidates.length - maxHazardsPerMap
  let discarded := candidates.take evicted
  let m := { m with hazards := lastN maxHazardsPerMap candidates }
  if evicted = 0 then m
  else
    let m := { m with
      hazardsEvicted := m.hazardsEvicted + evicted
      hazardsEvictionReason := some .mapCapacity }
    let attempts : Nat := (discarded.map (·.scanEvidenceHistory.length)).sum
    if attempts = 0 then m
    else
      { m with
        scanAttemptsEvicted := m.scanAttemptsEvicted + attempts
        scanAttemptsEvictionReason := some .withHypothesis }

def recordObservation (F : Type) [PyMath F] (digest : List String → String) (pose : PhysicalPose)
    (observation : HazardObservation) (observedAtMs : Int) : MapProg (Option ProvisionalHazard) := do
  modify fun m => { m with revision := m.revision + 1 }
  if observation.blocked = false then pure none
  else
    let m ← get
    let center := project F pose.xMm pose.yMm pose.headingMdeg m.calibration.provisionalHazardOffsetMm
    match m.hazards.foldl (nearer F m.calibration pose center) none with
    | none =>
      let updated ← raising (ProvisionalHazard.new (freshFields digest m pose center observation observedAtMs))
      modify (·.insert updated)
      pure (some updated)
    | some (nearest, _) =>
      let updated ← raising (ProvisionalHazard.new { nearest.toHazardFields with
        lastSeenAtMs := max nearest.lastSeenAtMs observedAtMs
        evidenceCount := nearest.evidenceCount + 1
        lastStateVersion := observation.stateVersion
        lastRawIrProximity := observation.raw
        lastFilteredIrProximity := observation.filtered })
      modify (·.put updated nearest.hypothesisId)
      pure (some updated)

end

-- Boundaries

/-- The arguments of `record_scan_boundaries`. -/
structure ScanBoundaries where
  hypothesisId : String
  evidenceFrameId : String
  evidenceMapGenerationId : String
  basedOnMapVersion : Int
  completedAtMs : Int
  leftBoundaryMdeg : Int
  rightBoundaryMdeg : Int

def recordScanBoundaries (b : ScanBoundaries) : MapProg ProvisionalHazard := do
  let m ← get
  match m.get? b.hypothesisId with
  | none => throw (.valueError "scan target no longer exists")
  | some hazard =>
    .failIf (b.evidenceFrameId ≠ m.frameId ∨ b.evidenceMapGenerationId ≠ m.mapGenerationId ∨
      hazard.frameId ≠ b.evidenceFrameId) (.valueError "scan boundaries belong to a foreign map")
    .failIf (b.basedOnMapVersion < 0 ∨ m.revision ≠ b.basedOnMapVersion + 1)
      (.valueError "scan boundary map basis is stale")
    .failIf (b.completedAtMs < hazard.firstSeenAtMs ∨ b.leftBoundaryMdeg ≤ 0 ∨ b.rightBoundaryMdeg ≥ 0)
      (.valueError "scan boundaries are not bilateral/fresh")
    let updated ← raising (ProvisionalHazard.new { hazard.toHazardFields with
      scanCompletedAtMs := some b.completedAtMs
      scanLeftBoundaryMdeg := some b.leftBoundaryMdeg
      scanRightBoundaryMdeg := some b.rightBoundaryMdeg })
    modify (·.put updated b.hypothesisId)
    modify fun m => { m with revision := m.revision + 1 }
    pure updated

-- The bounds of the whole map

/-- The order of the integers, without the suprema that come with it. -/
local instance intPreorder : Preorder Int := Int.instLinearOrder.toPreorder

/-- A candidate for eviction: a repetition goes before the last of its signature. -/
structure AttemptCandidate where
  redundancy : Nat
  hypothesisId : String
  ordinal : Nat
  attempt : ScanAttemptEvidence

def AttemptCandidate.order (c : AttemptCandidate) : Nat ×ₗ Int ×ₗ String ×ₗ String ×ₗ Nat :=
  toLex (c.redundancy, toLex (c.attempt.completedAtMs, toLex (c.hypothesisId, toLex (c.attempt.scanId, c.ordinal))))

def attemptCandidates (protectedScanId : String) (m : ProvisionalHazardMap) : List AttemptCandidate :=
  m.hazards.flatMap fun hazard =>
    (hazard.scanEvidenceHistory.zipIdx.filter (·.1.scanId ≠ protectedScanId)).map fun (attempt, ordinal) =>
      { redundancy := if 1 < hazard.scanEvidenceHistory.countP (·.evidenceSignature = attempt.evidenceSignature) then 0
          else 1
        hypothesisId := hazard.hypothesisId
        ordinal := ordinal
        attempt := attempt }

/-- One turn of `_prune_scan_histories`. -/
def pruneScanAttempt (protectedScanId : String) : MapProg Unit := do
  let m ← get
  match (attemptCandidates protectedScanId m).argmin (·.order) with
  | none => throw (.valueError "scan history bound cannot be enforced")
  | some discarded =>
    match m.get? discarded.hypothesisId with
    | none => throw .attributeError
    | some hazard =>
      let updated ← raising (ProvisionalHazard.new { hazard.toHazardFields with
        scanEvidenceHistory := hazard.scanEvidenceHistory.erase discarded.attempt
        scanAttemptsEvicted := hazard.scanAttemptsEvicted + 1
        scanAttemptsEvictionReason := some .mapCapacity })
      modify (·.put updated discarded.hypothesisId)
      modify fun m => { m with
        scanAttemptsEvicted := m.scanAttemptsEvicted + 1
        scanAttemptsEvictionReason := some .mapCapacity }

/-- `while count(..) > limit: turn`, for at most that many turns. -/
def whileAbove (count : ProvisionalHazardMap → Nat) (limit : Nat) (turn : MapProg Unit) : Nat → MapProg Unit
  | 0 => do
    let m ← get
    if count m ≤ limit then pure () else throw .diverges
  | fuel + 1 => do
    let m ← get
    if count m ≤ limit then pure ()
    else do
      turn
      whileAbove count limit turn fuel

/-- `_prune_scan_histories`: every turn takes one attempt away. -/
def pruneScanHistories (protectedScanId : String) : MapProg Unit := do
  let m ← get
  whileAbove (·.attemptCount) maxScanAttemptsPerMap (pruneScanAttempt protectedScanId) m.attemptCount

/-- A candidate for eviction: the only support of a hypothesis goes last. -/
structure SupportCandidate where
  single : Nat
  hypothesisId : String
  support : AngularCollisionSupport

def SupportCandidate.order (c : SupportCandidate) : Nat ×ₗ Int ×ₗ String ×ₗ String ×ₗ AngularCollisionSupport.SpatialKey :=
  toLex (c.single, toLex (c.support.completedAtMs, toLex (c.hypothesisId,
    toLex (c.support.sourceScanId, c.support.spatialKey))))

def supportCandidates (protectedSourceScanId : String) (m : ProvisionalHazardMap) : List SupportCandidate :=
  m.hazards.flatMap fun hazard =>
    (hazard.collisionSupports.filter (·.sourceScanId ≠ protectedSourceScanId)).map fun support =>
      { single := if 1 < hazard.collisionSupports.length then 0 else 1
        hypothesisId := hazard.hypothesisId
        support := support }

/-- One turn of `_prune_collision_supports`. -/
def pruneCollisionSupport (protectedSourceScanId : String) : MapProg Unit := do
  let m ← get
  match (supportCandidates protectedSourceScanId m).argmin (·.order) with
  | none => throw (.valueError "collision support map bound cannot be enforced")
  | some discarded =>
    match m.get? discarded.hypothesisId with
    | none => throw .attributeError
    | some hazard =>
      let updated ← raising (ProvisionalHazard.new { hazard.toHazardFields with
        collisionSupports := hazard.collisionSupports.filter (· ≠ discarded.support)
        collisionSupportsEvicted := hazard.collisionSupportsEvicted + 1
        collisionSupportsEvictionReason := some .mapCapacity })
      modify (·.put updated discarded.hypothesisId)

/-- `_prune_collision_supports`. A turn that takes the last support of a hypothesis
may bring the supports of its history back, once for each hypothesis unless the
loop goes on for ever. -/
def pruneCollisionSupports (protectedSourceScanId : String) : MapProg Unit := do
  let m ← get
  whileAbove (·.supportCount) maxCollisionSupportsPerMap (pruneCollisionSupport protectedSourceScanId)
    (m.supportCount + maxHazardsPerMap * maxCollisionSupportsPerHazard)

-- Scans

/-- The attempt a result is recorded as: whether an all-clear arc covers the
target is found out against the hazard as it is remembered. -/
def recordedAttempt (F : Type) [PyMath F] (c : HazardMapCalibration) (hazard : ProvisionalHazard)
    (attempt : ScanAttemptEvidence) : ScanAttemptEvidence :=
  if attempt.SeesNothing then
    { attempt with allClearArcCoversTargetHypothesis := some (allClearArcCoversHazard F c hazard attempt) }
  else attempt

namespace HazardFields

/-- The history kept of the candidates, and the count of those that went. -/
def keepAttempts (f : HazardFields) (candidates : List ScanAttemptEvidence) : HazardFields :=
  let history := retainScanAttemptDiversity candidates maxScanAttemptsPerHazard
  let evictions := candidates.length - history.length
  { f with
    scanEvidenceHistory := history
    scanAttemptsEvicted := f.scanAttemptsEvicted + evictions
    scanAttemptsEvictionReason := if evictions = 0 then f.scanAttemptsEvictionReason else some .perHazardCapacity }

def keepSupports (f : HazardFields) (candidates : List AngularCollisionSupport) : HazardFields :=
  let collisionSupports := retainCollisionSupportDiversity candidates maxCollisionSupportsPerHazard
  let evictions := candidates.length - collisionSupports.length
  { f with
    collisionSupports := collisionSupports
    collisionSupportsEvicted := f.collisionSupportsEvicted + evictions
    collisionSupportsEvictionReason := if evictions = 0 then f.collisionSupportsEvictionReason else some .perHazardCapacity }

/-- Boundaries on both sides are taken over, a conflict contests the hypothesis. -/
def settleOutcome (f : HazardFields) (result : ActiveIrScanResult) (attempt : ScanAttemptEvidence) : HazardFields :=
  if result.BilateralComplete then
    { f with
      scanCompletedAtMs := some result.completedAtMs
      scanLeftBoundaryMdeg := result.leftBoundaryMdeg
      scanRightBoundaryMdeg := result.rightBoundaryMdeg }
  else if attempt.hypothesisRelation = .conflictsBlockedHypothesis then
    { f with
      scanCompletedAtMs := none
      scanLeftBoundaryMdeg := none
      scanRightBoundaryMdeg := none
      collisionContestedAtMs := some (max (f.collisionContestedAtMs.getD 0) attempt.completedAtMs) }
  else f

end HazardFields

/-- The fields a recorded attempt changes in its target. -/
def recordedFields (result : ActiveIrScanResult) (hazard : ProvisionalHazard) (attempt : ScanAttemptEvidence) :
    HazardFields :=
  ((hazard.toHazardFields.keepAttempts (hazard.scanEvidenceHistory ++ [attempt])).keepSupports
    (hazard.collisionSupports ++ attempt.supports)).settleOutcome result attempt

/-- `record_scan_result`. The map's counter is raised before the hazard is checked. -/
def recordScanResult (F : Type) [PyMath F] (result : ActiveIrScanResult) (scanPose : PhysicalPose) :
    MapProg (Option ProvisionalHazard) := do
  let m ← get
  match m.get? result.targetHypothesisId with
  | none => throw (.valueError "scan target no longer exists")
  | some hazard =>
    .failIf (result.frameId ≠ m.frameId ∨ result.mapGenerationId ≠ m.mapGenerationId ∨ hazard.frameId ≠ result.frameId)
      (.valueError "scan evidence belongs to a foreign map")
    .failIf (result.basedOnMapVersion < 0 ∨ m.revision ≠ result.basedOnMapVersion + 1)
      (.valueError "scan evidence map basis is stale")
    .failIf (result.stopConfirmed = false ∨ result.restoredStartHeading = false ∨
      result.completedAtMs < hazard.firstSeenAtMs) (.valueError "scan evidence is not restored/fresh")
    let attempt ← raising (ScanAttemptEvidence.fromScanResult result scanPose)
    let attempt := recordedAttempt F m.calibration hazard attempt
    let historyCandidates := hazard.scanEvidenceHistory ++ [attempt]
    let scanAttemptEvictions := historyCandidates.length -
      (retainScanAttemptDiversity historyCandidates maxScanAttemptsPerHazard).length
    modify fun m =>
      if scanAttemptEvictions = 0 then m
      else
        { m with
          scanAttemptsEvicted := m.scanAttemptsEvicted + scanAttemptEvictions
          scanAttemptsEvictionReason := some .perHazardCapacity }
    let updated ← raising (ProvisionalHazard.new (recordedFields result hazard attempt))
    modify (·.put updated result.targetHypothesisId)
    pruneScanHistories result.scanId
    pruneCollisionSupports result.scanId
    modify fun m => { m with revision := m.revision + 1 }
    let m ← get
    pure (m.get? result.targetHypothesisId)

-- Operations in sequence

def ProvisionalHazardMap.new (frameId mapGenerationId : String) (calibration : HazardMapCalibration) : ProvisionalHazardMap where
  frameId := frameId
  mapGenerationId := mapGenerationId
  calibration := calibration

inductive HazardOp where
  | observation (pose : PhysicalPose) (observation : HazardObservation) (observedAtMs : Int)
  | scanResult (result : ActiveIrScanResult) (scanPose : PhysicalPose)
  | scanBoundaries (boundaries : ScanBoundaries)

abbrev HazardAnswer := Except MapError (Option ProvisionalHazard)

def hazardMachine (F : Type) [PyMath F] (digest : List String → String) :
    Machine ProvisionalHazardMap HazardOp HazardAnswer where
  step m
    | .observation pose observation observedAtMs => recordObservation F digest pose observation observedAtMs m
    | .scanResult result scanPose => recordScanResult F result scanPose m
    | .scanBoundaries boundaries => (some <$> recordScanBoundaries boundaries) m

end RobotLlm.Hazard
