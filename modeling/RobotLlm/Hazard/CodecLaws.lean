import RobotLlm.Hazard.Codec
import RobotLlm.Hazard.HazardLaws
import RobotLlm.Lib.Check

/-!
# What is persisted is read back

Every codec of the hazard map reads what it wrote, as it was: a value that
passed its checks once passes them again, and the derived facts are derived
from the same fields.
-/

namespace RobotLlm.Hazard

open RobotLlm.Lib

theorem mapM_map_ok {read : Json → Except String α} {write : α → Json} (l : List α)
    (h : ∀ a ∈ l, read (write a) = .ok a) : (l.map write).mapM read = .ok l := by
  induction l with
  | nil => rfl
  | cons a l ih =>
    rw [List.map_cons, List.mapM_cons, h a List.mem_cons_self, ih fun b hb => h b (List.mem_cons_of_mem _ hb)]
    rfl

theorem PhysicalPose.fromMapping_toDict (p : PhysicalPose) : fromMapping p.toDict = .ok p := by
  have hkeys : Json.HasKeys p.entries keys := Json.hasKeys_of_eq _ rfl
  unfold fromMapping toDict
  dsimp only
  rw [if_pos hkeys]
  simp [entries, List.lookup_cons, List.lookup_nil, new_self]

theorem ScanRayEvidence.fromDict_toDict (r : ScanRayEvidence) : fromDict r.toDict = .ok r := by
  have hkeys : Json.HasKeys r.entries keys := Json.hasKeys_of_eq _ rfl
  unfold fromDict toDict
  dsimp only
  rw [if_pos hkeys]
  simp [entries, List.lookup_cons, List.lookup_nil, new, r.bearings_valid, r.readings_valid]

theorem AngularCollisionSupport.fromDict_toDict (s : AngularCollisionSupport) : fromDict s.toDict = .ok s := by
  have hkeys : Json.HasKeys s.entries keys := Json.hasKeys_of_eq _ rfl
  unfold fromDict toDict
  dsimp only
  rw [if_pos hkeys]
  simp [entries, List.lookup_cons, List.lookup_nil, Json.IsStr, new, s.scanId_valid, s.time_valid, s.pose_valid]

theorem ScanAttemptEvidence.readPose_toDict (pose : Option PhysicalPose) :
    readPose (some (Json.ofOpt PhysicalPose.toDict pose)) = .ok pose := by
  cases pose with
  | none => rfl
  | some p =>
    have h : readPose (some p.toDict) = some <$> PhysicalPose.fromMapping p.toDict := rfl
    rw [Json.ofOpt, h, PhysicalPose.fromMapping_toDict]
    rfl

theorem ScanStatus.readStatus_text (status : ScanStatus) :
    ScanAttemptEvidence.readStatus (some (.str status.text)) = some status := by
  cases status <;> rfl

theorem ScanAttemptEvidence.hasKeys_entries (a : ScanAttemptEvidence) : Json.HasKeys a.entries coverageKeys := by
  refine (Json.hasKeys_of_eq ["scan_id", "completed_at_ms", "status", "reason", "bearing_convention",
    "observation_pattern", "arc_coverage", "boundary_coverage", "hypothesis_relation", "left_boundary_mdeg",
    "right_boundary_mdeg", "scan_pose", "based_on_map_version", "all_clear_arc_covers_target_hypothesis", "rays"]
    rfl).of_perm ?_
  decide

theorem ScanAttemptEvidence.fromDict_toDict (a : ScanAttemptEvidence) : fromDict a.toDict = .ok a := by
  have hnew : new a.scanId a.completedAtMs a.status a.reason a.rays a.leftBoundaryMdeg a.rightBoundaryMdeg a.scanPose
      a.basedOnMapVersion a.allClearArcCoversTargetHypothesis = .ok a := by
    simp [new, a.fields_valid, a.boundaries_valid]
  have hrays : (a.rays.map (·.toDict)).mapM ScanRayEvidence.fromDict = .ok a.rays :=
    mapM_map_ok a.rays fun r _ => r.fromDict_toDict
  have hconvention : Json.IsStr bearingConvention (a.entries.lookup "bearing_convention") := rfl
  have hderived : DerivedAgree a.entries a := ⟨rfl, rfl, rfl, rfl⟩
  have hlist : Json.toArr? (a.entries.lookup "rays") = some (a.rays.map (·.toDict)) := rfl
  unfold fromDict toDict
  dsimp only
  rw [hlist]
  dsimp only
  rw [if_pos ⟨.inr (.inr a.hasKeys_entries), hconvention⟩, hrays, ok_bind]
  simp only [entries, List.lookup_cons, List.lookup_nil, String.reduceBEq, readPose_toDict, ScanStatus.readStatus_text, Json.toStr?_str,
    Json.toInt?_int, Json.toOpt_ofOpt_int, Json.toOpt_ofOpt_bool, ok_bind, hnew]
  exact if_pos hderived

theorem readReason_scan (reason : Option ScanEvictionReason) :
    readReason ScanEvictionReason.ofText? (some (Json.ofOpt (fun reason => .str reason.text) reason)) = some reason := by
  rcases reason with _ | reason
  · rfl
  · cases reason <;> rfl

theorem readReason_support (reason : Option SupportEvictionReason) :
    readReason SupportEvictionReason.ofText? (some (Json.ofOpt (fun reason => .str reason.text) reason)) = some reason := by
  rcases reason with _ | reason
  · rfl
  · cases reason <;> rfl

theorem readReason_hazard (reason : Option HazardEvictionReason) :
    readReason HazardEvictionReason.ofText? (some (Json.ofOpt (fun reason => .str reason.text) reason)) = some reason := by
  rcases reason with _ | ⟨⟩ <;> rfl

namespace ProvisionalHazard

theorem hasKeys_entries (h : ProvisionalHazard) : Json.HasKeys h.entries retainedKeys := by
  refine (Json.hasKeys_of_eq ["hypothesis_id", "frame_id", "semantic_label", "quality", "provisional", "geometry_basis",
    "anchor_x_mm", "anchor_y_mm", "anchor_heading_mdeg", "centroid_x_mm", "centroid_y_mm", "radius_mm",
    "first_seen_at_ms", "last_seen_at_ms", "evidence_count", "last_state_version", "last_raw_ir_proximity",
    "last_filtered_ir_proximity", "scan_completed_at_ms", "scan_left_boundary_mdeg", "scan_right_boundary_mdeg",
    "bilateral_scan_complete", "scan_evidence_history", "scan_attempts_evicted", "scan_attempts_eviction_reason",
    "collision_supports", "collision_supports_evicted", "collision_supports_eviction_reason",
    "collision_contested_at_ms"] rfl).of_perm ?_
  decide

theorem readFields_entries (h : ProvisionalHazard) :
    ∃ f, readFields h.entries = .ok f ∧
      readScans h.entries h.scanEvidenceHistory h.collisionSupports f = .ok h.toHazardFields := by
  refine ⟨{ h.toHazardFields with
    scanCompletedAtMs := none
    scanLeftBoundaryMdeg := none
    scanRightBoundaryMdeg := none
    scanEvidenceHistory := []
    scanAttemptsEvicted := 0
    scanAttemptsEvictionReason := none
    collisionSupports := []
    collisionSupportsEvicted := 0
    collisionSupportsEvictionReason := none
    collisionContestedAtMs := none }, ?_, ?_⟩
  · simp only [readFields, entries, List.lookup_cons, List.lookup_nil, String.reduceBEq, Json.toStr?_str, Json.toInt?_int, Json.toOpt_ofOpt_int]
  · simp only [readScans, entries, List.lookup_cons, List.lookup_nil, String.reduceBEq, Json.toInt?_int, Json.toOpt_ofOpt_int, readCount,
      readReason_scan, readReason_support]

theorem fromDict_toDict {h : ProvisionalHazard} (hv : h.Valid) (hs : h.Settled) : fromDict h.toDict = .ok h := by
  have hnew : new h.toHazardFields = .ok h := (new_settled hs).mpr ⟨hv, rfl⟩
  have htrust : TrustBoundary h.entries := ⟨rfl, rfl, trivial, rfl⟩
  have hhistory : readList (h.entries.lookup "scan_evidence_history") = some (h.scanEvidenceHistory.map (·.toDict)) := rfl
  have hsupports : readList (h.entries.lookup "collision_supports") = some (h.collisionSupports.map (·.toDict)) := rfl
  have hfact : bilateralFact h.entries h.bilateralScanComplete = some h.bilateralScanComplete := rfl
  obtain ⟨f, hf, hscans⟩ := h.readFields_entries
  unfold fromDict toDict
  dsimp only
  rw [if_neg (not_not_intro (.inr (.inr (.inr (.inr h.hasKeys_entries))))), if_neg (not_not_intro htrust), hhistory]
  dsimp only
  rw [mapM_map_ok _ fun a _ => a.fromDict_toDict, ok_bind, hsupports]
  dsimp only
  rw [mapM_map_ok _ fun s _ => s.fromDict_toDict, ok_bind, hf, ok_bind, hscans, ok_bind, hnew, ok_bind]
  exact if_pos hfact

end ProvisionalHazard

end RobotLlm.Hazard
