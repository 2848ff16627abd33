import RobotLlm.Hazard.HazardMap
import RobotLlm.Lib.Json

/-!
# What is persisted of a hazard map

Rays, supports, attempts and hypotheses are written as objects and built anew
when they are read, through their own checks. Facts that are derived from the
rest are written too, and a reader that derives another one refuses the object.
-/

namespace RobotLlm.Hazard

open RobotLlm.Lib

-- Poses, rays and supports

namespace PhysicalPose

def keys : List String :=
  ["x_mm", "y_mm", "heading_mdeg", "verified_motion_count", "total_forward_mm", "total_turn_mdeg"]

def entries (p : PhysicalPose) : List (String × Json) :=
  [("x_mm", .int p.xMm), ("y_mm", .int p.yMm), ("heading_mdeg", .int p.headingMdeg),
    ("verified_motion_count", .int p.verifiedMotionCount), ("total_forward_mm", .int p.totalForwardMm),
    ("total_turn_mdeg", .int p.totalTurnMdeg)]

def toDict (p : PhysicalPose) : Json := .obj p.entries

def fromMapping : Json → Except String PhysicalPose
  | .obj fields =>
    if Json.HasKeys fields keys then
      match Json.toInt? (fields.lookup "x_mm"), Json.toInt? (fields.lookup "y_mm"),
          Json.toInt? (fields.lookup "heading_mdeg"), Json.toInt? (fields.lookup "verified_motion_count"),
          Json.toInt? (fields.lookup "total_forward_mm"), Json.toInt? (fields.lookup "total_turn_mdeg") with
      | some x, some y, some heading, some count, some forward, some turn => new x y heading count forward turn
      | _, _, _, _, _, _ => .error "invalid_pose"
    else .error "invalid_pose_fields"
  | _ => .error "invalid_pose_fields"

end PhysicalPose

namespace ScanRayEvidence

def keys : List String :=
  ["requested_relative_bearing_mdeg", "actual_relative_bearing_mdeg", "blocked", "raw", "filtered"]

def entries (r : ScanRayEvidence) : List (String × Json) :=
  [("requested_relative_bearing_mdeg", .int r.requestedRelativeBearingMdeg),
    ("actual_relative_bearing_mdeg", .int r.actualRelativeBearingMdeg), ("blocked", .bool r.blocked),
    ("raw", Json.ofOpt .int r.raw), ("filtered", Json.ofOpt .int r.filtered)]

def toDict (r : ScanRayEvidence) : Json := .obj r.entries

def fromDict : Json → Except String ScanRayEvidence
  | .obj fields =>
    if Json.HasKeys fields keys then
      match Json.toInt? (fields.lookup "requested_relative_bearing_mdeg"),
          Json.toInt? (fields.lookup "actual_relative_bearing_mdeg"), Json.toBool? (fields.lookup "blocked"),
          Json.toOpt Json.toInt? (fields.lookup "raw"), Json.toOpt Json.toInt? (fields.lookup "filtered") with
      | some requested, some actual, some blocked, some raw, some filtered => new requested actual blocked raw filtered
      | _, _, _, _, _ => .error "scan ray evidence is invalid"
    else .error "scan ray evidence fields are invalid"
  | _ => .error "scan ray evidence fields are invalid"

end ScanRayEvidence

namespace AngularCollisionSupport

/-- `ANGULAR_COLLISION_SUPPORT_PROVENANCE`. -/
def provenance : String := "PROVISIONAL_BLOCKED_IR_BEARING_NOT_MEASURED_RANGE_OR_SURFACE"

def keys : List String :=
  ["source_scan_id", "completed_at_ms", "pose_x_mm", "pose_y_mm", "pose_heading_mdeg", "actual_relative_bearing_mdeg",
    "based_on_map_version", "provenance"]

def entries (s : AngularCollisionSupport) : List (String × Json) :=
  [("source_scan_id", .str s.sourceScanId), ("completed_at_ms", .int s.completedAtMs), ("pose_x_mm", .int s.poseXMm),
    ("pose_y_mm", .int s.poseYMm), ("pose_heading_mdeg", .int s.poseHeadingMdeg),
    ("actual_relative_bearing_mdeg", .int s.actualRelativeBearingMdeg),
    ("based_on_map_version", .int s.basedOnMapVersion), ("provenance", .str provenance)]

def toDict (s : AngularCollisionSupport) : Json := .obj s.entries

def fromDict : Json → Except String AngularCollisionSupport
  | .obj fields =>
    if Json.HasKeys fields keys then
      match Json.toStr? (fields.lookup "source_scan_id"), Json.toInt? (fields.lookup "completed_at_ms"),
          Json.toInt? (fields.lookup "pose_x_mm"), Json.toInt? (fields.lookup "pose_y_mm"),
          Json.toInt? (fields.lookup "pose_heading_mdeg"), Json.toInt? (fields.lookup "actual_relative_bearing_mdeg"),
          Json.toInt? (fields.lookup "based_on_map_version") with
      | some scanId, some completed, some x, some y, some heading, some bearing, some version =>
        if Json.IsStr provenance (fields.lookup "provenance") then new scanId completed x y heading bearing version
        else .error "angular collision support is invalid"
      | _, _, _, _, _, _, _ => .error "angular collision support is invalid"
    else .error "angular collision support fields are invalid"
  | _ => .error "angular collision support fields are invalid"

end AngularCollisionSupport

-- Attempts

def ObservationPattern.text : ObservationPattern → String
  | .noRays => "NO_RAYS"
  | .allClear => "ALL_CLEAR"
  | .allBlocked => "ALL_BLOCKED"
  | .mixed => "MIXED"

def ArcCoverage.text : ArcCoverage → String
  | .bilateralArc => "BILATERAL_ARC"
  | .negativeArcOnly => "NEGATIVE_ARC_ONLY"
  | .positiveArcOnly => "POSITIVE_ARC_ONLY"
  | .centerOnly => "CENTER_ONLY"
  | .noArc => "NO_ARC"

def HypothesisRelation.text : HypothesisRelation → String
  | .conflictsBlockedHypothesis => "CONFLICTS_BLOCKED_HYPOTHESIS"
  | .supportsBlockedHypothesis => "SUPPORTS_BLOCKED_HYPOTHESIS"
  | .noEvidence => "NO_EVIDENCE"

def BoundaryCoverage.text : BoundaryCoverage → String
  | .bilateralBoundaries => "BILATERAL_BOUNDARIES"
  | .positiveBoundaryOnly => "POSITIVE_BOUNDARY_ONLY"
  | .negativeBoundaryOnly => "NEGATIVE_BOUNDARY_ONLY"
  | .noBoundaries => "NO_BOUNDARIES"

/-- `BODY_RELATIVE_BEARING_CONVENTION`. -/
def bearingConvention : String := "POSITIVE_LEFT_NEGATIVE_RIGHT"

namespace ScanAttemptEvidence

def legacyKeys : List String :=
  ["scan_id", "completed_at_ms", "status", "reason", "bearing_convention", "observation_pattern", "arc_coverage",
    "boundary_coverage", "hypothesis_relation", "left_boundary_mdeg", "right_boundary_mdeg", "rays"]

def poseKeys : List String := legacyKeys ++ ["scan_pose", "based_on_map_version"]

def coverageKeys : List String := poseKeys ++ ["all_clear_arc_covers_target_hypothesis"]

def entries (a : ScanAttemptEvidence) : List (String × Json) :=
  [("scan_id", .str a.scanId), ("completed_at_ms", .int a.completedAtMs), ("status", .str a.status.text),
    ("reason", .str a.reason), ("bearing_convention", .str bearingConvention),
    ("observation_pattern", .str a.observationPattern.text), ("arc_coverage", .str a.arcCoverage.text),
    ("boundary_coverage", .str a.boundaryCoverage.text), ("hypothesis_relation", .str a.hypothesisRelation.text),
    ("left_boundary_mdeg", Json.ofOpt .int a.leftBoundaryMdeg), ("right_boundary_mdeg", Json.ofOpt .int a.rightBoundaryMdeg),
    ("scan_pose", Json.ofOpt PhysicalPose.toDict a.scanPose), ("based_on_map_version", Json.ofOpt .int a.basedOnMapVersion),
    ("all_clear_arc_covers_target_hypothesis", Json.ofOpt .bool a.allClearArcCoversTargetHypothesis),
    ("rays", .arr (a.rays.map (·.toDict)))]

def toDict (a : ScanAttemptEvidence) : Json := .obj a.entries

def readPose : Option Json → Except String (Option PhysicalPose)
  | none | some .null => .ok none
  | some value => some <$> PhysicalPose.fromMapping value

/-- The facts that follow from the rest are the ones written. -/
def DerivedAgree (fields : List (String × Json)) (a : ScanAttemptEvidence) : Prop :=
  Json.IsStr a.observationPattern.text (fields.lookup "observation_pattern") ∧
    Json.IsStr a.arcCoverage.text (fields.lookup "arc_coverage") ∧
    Json.IsStr a.boundaryCoverage.text (fields.lookup "boundary_coverage") ∧
    Json.IsStr a.hypothesisRelation.text (fields.lookup "hypothesis_relation")

instance : Decidable (DerivedAgree fields a) := inferInstanceAs (Decidable (_ ∧ _ ∧ _ ∧ _))

def readStatus (value : Option Json) : Option ScanStatus := (Json.toStr? value).bind ScanStatus.ofText?

def fromDict : Json → Except String ScanAttemptEvidence
  | .obj fields =>
    match Json.toArr? (fields.lookup "rays") with
    | some rayItems =>
      if (Json.HasKeys fields legacyKeys ∨ Json.HasKeys fields poseKeys ∨ Json.HasKeys fields coverageKeys) ∧
          Json.IsStr bearingConvention (fields.lookup "bearing_convention") then do
        let rays ← rayItems.mapM ScanRayEvidence.fromDict
        let pose ← readPose (fields.lookup "scan_pose")
        match Json.toStr? (fields.lookup "scan_id"), Json.toInt? (fields.lookup "completed_at_ms"),
            readStatus (fields.lookup "status"), Json.toStr? (fields.lookup "reason"),
            Json.toOpt Json.toInt? (fields.lookup "left_boundary_mdeg"),
            Json.toOpt Json.toInt? (fields.lookup "right_boundary_mdeg"),
            Json.toOpt Json.toInt? (fields.lookup "based_on_map_version"),
            Json.toOpt Json.toBool? (fields.lookup "all_clear_arc_covers_target_hypothesis") with
        | some scanId, some completed, some status, some reason, some left, some right, some version, some covers => do
          let attempt ← new scanId completed status reason rays left right pose version covers
          if DerivedAgree fields attempt then .ok attempt else .error "scan attempt derived evidence is invalid"
        | _, _, _, _, _, _, _, _ => .error "scan attempt evidence is invalid"
      else .error "scan attempt evidence fields are invalid"
    | none => .error "scan attempt evidence fields are invalid"
  | _ => .error "scan attempt evidence fields are invalid"

end ScanAttemptEvidence

-- Hypotheses

def ScanEvictionReason.text : ScanEvictionReason → String
  | .perHazardCapacity => "PER_HAZARD_CAPACITY_DIVERSITY_RETENTION"
  | .mapCapacity => "MAP_CAPACITY_OLDEST_ATTEMPT"
  | .withHypothesis => "HAZARD_CAPACITY_WITH_HYPOTHESIS"

def ScanEvictionReason.ofText? (text : String) : Option ScanEvictionReason :=
  if text = "PER_HAZARD_CAPACITY_DIVERSITY_RETENTION" then some .perHazardCapacity
  else if text = "MAP_CAPACITY_OLDEST_ATTEMPT" then some .mapCapacity
  else if text = "HAZARD_CAPACITY_WITH_HYPOTHESIS" then some .withHypothesis
  else none

def SupportEvictionReason.text : SupportEvictionReason → String
  | .perHazardCapacity => "PER_HAZARD_CAPACITY_OR_STRUCTURAL_DUPLICATE"
  | .mapCapacity => "MAP_CAPACITY_OLDEST_DISTINCT_SUPPORT"

def SupportEvictionReason.ofText? (text : String) : Option SupportEvictionReason :=
  if text = "PER_HAZARD_CAPACITY_OR_STRUCTURAL_DUPLICATE" then some .perHazardCapacity
  else if text = "MAP_CAPACITY_OLDEST_DISTINCT_SUPPORT" then some .mapCapacity
  else none

def HazardEvictionReason.text : HazardEvictionReason → String
  | .mapCapacity => "MAP_CAPACITY_OLDEST_HYPOTHESIS"

def HazardEvictionReason.ofText? (text : String) : Option HazardEvictionReason :=
  if text = "MAP_CAPACITY_OLDEST_HYPOTHESIS" then some .mapCapacity else none

/-- A reason that may be `None`; another text is no reason at all. -/
def readReason (ofText? : String → Option α) : Option Json → Option (Option α) :=
  Json.toOpt fun value => (Json.toStr? value).bind ofText?

/-- An integer that is zero where it is not there. -/
def readCount : Option Json → Option Int
  | none => some 0
  | value => Json.toInt? value

/-- `value.get(name, [])` as a list. -/
def readList : Option Json → Option (List Json)
  | none => some []
  | value => Json.toArr? value

namespace ProvisionalHazard

def legacyKeys : List String :=
  ["hypothesis_id", "frame_id", "semantic_label", "quality", "provisional", "geometry_basis", "anchor_x_mm", "anchor_y_mm",
    "anchor_heading_mdeg", "centroid_x_mm", "centroid_y_mm", "radius_mm", "first_seen_at_ms", "last_seen_at_ms",
    "evidence_count", "last_state_version", "last_raw_ir_proximity", "last_filtered_ir_proximity", "scan_completed_at_ms",
    "scan_left_boundary_mdeg", "scan_right_boundary_mdeg"]

def historyKeys : List String := legacyKeys ++ ["scan_evidence_history"]

def expectedKeys : List String := historyKeys ++ ["bilateral_scan_complete"]

def indexedKeys : List String :=
  expectedKeys ++ ["collision_supports", "collision_supports_evicted", "collision_supports_eviction_reason",
    "collision_contested_at_ms"]

def retainedKeys : List String := indexedKeys ++ ["scan_attempts_evicted", "scan_attempts_eviction_reason"]

/-- `PROVISIONAL_QUALITATIVE` and `GEOMETRY_BASIS`. -/
def quality : String := "PROVISIONAL_QUALITATIVE"
def geometryBasis : String := "CONSERVATIVE_COLLISION_ENVELOPE_NOT_OBJECT_SURFACE"

def entries (h : ProvisionalHazard) : List (String × Json) :=
  [("hypothesis_id", .str h.hypothesisId), ("frame_id", .str h.frameId), ("semantic_label", .str "UNKNOWN"),
    ("quality", .str quality), ("provisional", .bool true), ("geometry_basis", .str geometryBasis),
    ("anchor_x_mm", .int h.anchorXMm), ("anchor_y_mm", .int h.anchorYMm), ("anchor_heading_mdeg", .int h.anchorHeadingMdeg),
    ("centroid_x_mm", .int h.centroidXMm), ("centroid_y_mm", .int h.centroidYMm), ("radius_mm", .int h.radiusMm),
    ("first_seen_at_ms", .int h.firstSeenAtMs), ("last_seen_at_ms", .int h.lastSeenAtMs),
    ("evidence_count", .int h.evidenceCount), ("last_state_version", .int h.lastStateVersion),
    ("last_raw_ir_proximity", Json.ofOpt .int h.lastRawIrProximity),
    ("last_filtered_ir_proximity", Json.ofOpt .int h.lastFilteredIrProximity),
    ("scan_completed_at_ms", Json.ofOpt .int h.scanCompletedAtMs),
    ("scan_left_boundary_mdeg", Json.ofOpt .int h.scanLeftBoundaryMdeg),
    ("scan_right_boundary_mdeg", Json.ofOpt .int h.scanRightBoundaryMdeg),
    ("bilateral_scan_complete", .bool h.bilateralScanComplete),
    ("scan_evidence_history", .arr (h.scanEvidenceHistory.map (·.toDict))),
    ("scan_attempts_evicted", .int h.scanAttemptsEvicted),
    ("scan_attempts_eviction_reason", Json.ofOpt (fun reason => .str reason.text) h.scanAttemptsEvictionReason),
    ("collision_supports", .arr (h.collisionSupports.map (·.toDict))),
    ("collision_supports_evicted", .int h.collisionSupportsEvicted),
    ("collision_supports_eviction_reason", Json.ofOpt (fun reason => .str reason.text) h.collisionSupportsEvictionReason),
    ("collision_contested_at_ms", Json.ofOpt .int h.collisionContestedAtMs)]

def toDict (h : ProvisionalHazard) : Json := .obj h.entries

def KnownKeys (fields : List (String × Json)) : Prop :=
  Json.HasKeys fields legacyKeys ∨ Json.HasKeys fields historyKeys ∨ Json.HasKeys fields expectedKeys ∨
    Json.HasKeys fields indexedKeys ∨ Json.HasKeys fields retainedKeys

instance : Decidable (KnownKeys fields) := inferInstanceAs (Decidable (_ ∨ _ ∨ _ ∨ _ ∨ _))

/-- The constants that say what the hypothesis is worth. -/
def TrustBoundary (fields : List (String × Json)) : Prop :=
  Json.IsStr "UNKNOWN" (fields.lookup "semantic_label") ∧ Json.IsStr quality (fields.lookup "quality") ∧
    Json.IsTrue (fields.lookup "provisional") ∧ Json.IsStr geometryBasis (fields.lookup "geometry_basis")

instance : Decidable (TrustBoundary fields) := inferInstanceAs (Decidable (_ ∧ _ ∧ _ ∧ _))

/-- The identity and the values that are always there. -/
def readFields (fields : List (String × Json)) : Except String HazardFields :=
  match Json.toStr? (fields.lookup "hypothesis_id"), Json.toStr? (fields.lookup "frame_id") with
  | some hypothesisId, some frameId =>
    match Json.toInt? (fields.lookup "anchor_x_mm"), Json.toInt? (fields.lookup "anchor_y_mm"),
        Json.toInt? (fields.lookup "anchor_heading_mdeg"), Json.toInt? (fields.lookup "centroid_x_mm"),
        Json.toInt? (fields.lookup "centroid_y_mm"), Json.toInt? (fields.lookup "radius_mm"),
        Json.toInt? (fields.lookup "first_seen_at_ms"), Json.toInt? (fields.lookup "last_seen_at_ms"),
        Json.toInt? (fields.lookup "evidence_count"), Json.toInt? (fields.lookup "last_state_version") with
    | some anchorX, some anchorY, some anchorHeading, some centroidX, some centroidY, some radius, some firstSeen,
        some lastSeen, some evidenceCount, some stateVersion =>
      match Json.toOpt Json.toInt? (fields.lookup "last_raw_ir_proximity"),
          Json.toOpt Json.toInt? (fields.lookup "last_filtered_ir_proximity") with
      | some raw, some filtered =>
        .ok {
          hypothesisId := hypothesisId
          frameId := frameId
          anchorXMm := anchorX
          anchorYMm := anchorY
          anchorHeadingMdeg := anchorHeading
          centroidXMm := centroidX
          centroidYMm := centroidY
          radiusMm := radius
          firstSeenAtMs := firstSeen
          lastSeenAtMs := lastSeen
          evidenceCount := evidenceCount
          lastStateVersion := stateVersion
          lastRawIrProximity := raw
          lastFilteredIrProximity := filtered }
      | _, _ => .error "hazard IR evidence is invalid"
    | _, _, _, _, _, _, _, _, _, _ => .error "hazard values are invalid"
  | _, _ => .error "hazard identity is invalid"

/-- What a scan left: boundaries, history, supports and the accounts of both. -/
def readScans (fields : List (String × Json)) (history : List ScanAttemptEvidence)
    (supports : List AngularCollisionSupport) (f : HazardFields) : Except String HazardFields :=
  match Json.toOpt Json.toInt? (fields.lookup "scan_completed_at_ms"),
      Json.toOpt Json.toInt? (fields.lookup "scan_left_boundary_mdeg"),
      Json.toOpt Json.toInt? (fields.lookup "scan_right_boundary_mdeg") with
  | some completed, some left, some right =>
    match readCount (fields.lookup "scan_attempts_evicted"),
        readReason ScanEvictionReason.ofText? (fields.lookup "scan_attempts_eviction_reason") with
    | some attemptsEvicted, some attemptsReason =>
      match readCount (fields.lookup "collision_supports_evicted"),
          readReason SupportEvictionReason.ofText? (fields.lookup "collision_supports_eviction_reason") with
      | some supportsEvicted, some supportsReason =>
        match Json.toOpt Json.toInt? (fields.lookup "collision_contested_at_ms") with
        | some contested =>
          .ok { f with
            scanCompletedAtMs := completed
            scanLeftBoundaryMdeg := left
            scanRightBoundaryMdeg := right
            scanEvidenceHistory := history
            scanAttemptsEvicted := attemptsEvicted
            scanAttemptsEvictionReason := attemptsReason
            collisionSupports := supports
            collisionSupportsEvicted := supportsEvicted
            collisionSupportsEvictionReason := supportsReason
            collisionContestedAtMs := contested }
        | none => .error "hazard collision conflict is invalid"
      | _, _ => .error "hazard collision support eviction is invalid"
    | _, _ => .error "hazard scan attempt eviction is invalid"
  | _, _, _ => .error "hazard scan evidence is incomplete"

/-- `value["bilateral_scan_complete"]`, or `derived` where it was not written. -/
def bilateralFact (fields : List (String × Json)) (derived : Bool) : Option Bool :=
  match fields.lookup "bilateral_scan_complete" with
  | none => some derived
  | value => Json.toBool? value

def fromDict : Json → Except String ProvisionalHazard
  | .obj fields =>
    if ¬ KnownKeys fields then .error "hazard fields are invalid"
    else if ¬ TrustBoundary fields then .error "hazard trust boundary is invalid"
    else
      match readList (fields.lookup "scan_evidence_history") with
      | none => .error "hazard scan history is invalid"
      | some historyItems => do
        let history ← historyItems.mapM ScanAttemptEvidence.fromDict
        match readList (fields.lookup "collision_supports") with
        | none => .error "hazard collision supports are invalid"
        | some supportItems => do
          let supports ← supportItems.mapM AngularCollisionSupport.fromDict
          let given ← readFields fields
          let given ← readScans fields history supports given
          let hazard ← new given
          if bilateralFact fields hazard.bilateralScanComplete = some hazard.bilateralScanComplete then .ok hazard
          else .error "hazard bilateral scan fact is invalid"
  | _ => .error "hazard fields are invalid"

end ProvisionalHazard

-- The map

namespace ProvisionalHazardMap

/-- The count of evicted attempts that a map without one of its own starts from,
and the reason for it. -/
def derivedEvictions (hazards : List ProvisionalHazard) (reason : Option ScanEvictionReason) :
    Int × Option ScanEvictionReason :=
  let evicted := (hazards.map (·.scanAttemptsEvicted)).sum
  let reasons := ((hazards.filter (·.scanAttemptsEvicted ≠ 0)).map (·.scanAttemptsEvictionReason)).eraseDups
  (evicted, if evicted = 0 then reason else match reasons with
    | [only] => only
    | _ => some .mapCapacity)

/-- `ProvisionalHazardMap(..)`. -/
def build (frameId mapGenerationId : String) (hazards : List ProvisionalHazard) (revision : Int)
    (calibration : HazardMapCalibration) (hazardsEvicted : Int) (hazardsEvictionReason : Option HazardEvictionReason)
    (scanAttemptsEvicted : Option Int) (scanAttemptsEvictionReason : Option ScanEvictionReason) :
    Except String ProvisionalHazardMap :=
  if frameId = "" then .error "frame_id is invalid"
  else if mapGenerationId = "" then .error "map_generation_id is invalid"
  else if revision < 0 then .error "map revision is invalid"
  else if hazardsEvicted < 0 ∨ (hazardsEvicted = 0 ∧ hazardsEvictionReason ≠ none) ∨
      (0 < hazardsEvicted ∧ hazardsEvictionReason ≠ some .mapCapacity) then .error "hazard eviction state is invalid"
  else if maxHazardsPerMap < hazards.length ∨ ¬ (hazards.map (·.hypothesisId)).Nodup then .error "hazard set is invalid"
  else if ¬ ∀ h ∈ hazards, h.frameId = frameId then .error "hazard frame does not match map frame"
  else if maxScanAttemptsPerMap < (hazards.map (·.scanEvidenceHistory.length)).sum then
    .error "hazard scan histories exceed map bound"
  else
    let (evicted, reason) := match scanAttemptsEvicted with
      | some evicted => (evicted, scanAttemptsEvictionReason)
      | none => derivedEvictions hazards scanAttemptsEvictionReason
    if evicted < (hazards.map (·.scanAttemptsEvicted)).sum ∨ (evicted = 0 ∧ reason ≠ none) ∨ (0 < evicted ∧ reason = none) then
      .error "map scan attempt eviction state is invalid"
    else if maxCollisionSupportsPerMap < (hazards.map (·.collisionSupports.length)).sum then
      .error "hazard collision supports exceed map bound"
    else
      .ok {
        frameId := frameId
        mapGenerationId := mapGenerationId
        revision := revision
        calibration := calibration
        hazards := hazards
        hazardsEvicted := hazardsEvicted
        hazardsEvictionReason := hazardsEvictionReason
        scanAttemptsEvicted := evicted
        scanAttemptsEvictionReason := reason }

end ProvisionalHazardMap

end RobotLlm.Hazard
