import RobotLlm.Hazard.Codec
import RobotLlm.Hazard.HazardMapLaws

/-!
# Building a map from its parts

No call changes whose map it is, and a map that a run reaches passes the checks
of its own constructor.
-/

namespace RobotLlm.Hazard

open RobotLlm.Lib
open Lib.Prog

-- What no call on the map changes

/-- The map is of the same frame and generation, with the same calibration. -/
structure SameMap (m m' : ProvisionalHazardMap) : Prop where
  frameId : m'.frameId = m.frameId
  mapGenerationId : m'.mapGenerationId = m.mapGenerationId
  calibration : m'.calibration = m.calibration

instance : IsPreorder ProvisionalHazardMap SameMap where
  refl _ := ⟨rfl, rfl, rfl⟩
  trans _ _ _ h h' := ⟨h'.frameId.trans h.frameId, h'.mapGenerationId.trans h.mapGenerationId,
    h'.calibration.trans h.calibration⟩

theorem raising_sameMap (x : Except String α) : Keeps SameMap (raising x) := .ofExcept _

theorem put_sameMap (u : ProvisionalHazard) (id : String) :
    Keeps SameMap (modify (·.put u id) : MapProg Unit) := .modify fun _ => ⟨rfl, rfl, rfl⟩

theorem whileAbove_sameMap (count : ProvisionalHazardMap → Nat) (limit : Nat) {turn : MapProg Unit}
    (ht : Keeps SameMap turn) (fuel : Nat) : Keeps SameMap (whileAbove count limit turn fuel) := by
  induction fuel with
  | zero => exact .bind .get fun m => .ite (.pure ()) (.throw _)
  | succ fuel ih => exact .bind .get fun m => .ite (.pure ()) (.bind ht fun _ => ih)

theorem pruneScanAttempt_sameMap (id : String) : Keeps SameMap (pruneScanAttempt id) := by
  refine .bind .get fun m => ?_
  split
  · exact .throw _
  · split
    · exact .throw _
    · exact .bind (raising_sameMap _) fun u => .bind (put_sameMap u _) fun _ => .modify fun _ => ⟨rfl, rfl, rfl⟩

theorem pruneCollisionSupport_sameMap (id : String) : Keeps SameMap (pruneCollisionSupport id) := by
  refine .bind .get fun m => ?_
  split
  · exact .throw _
  · split
    · exact .throw _
    · exact .bind (raising_sameMap _) fun u => put_sameMap u _

variable {F : Type} [PyMath F] {digest : List String → String}

theorem insert_sameMap (m : ProvisionalHazardMap) (u : ProvisionalHazard) : SameMap m (m.insert u) := by
  unfold ProvisionalHazardMap.insert
  dsimp only
  split
  · exact ⟨rfl, rfl, rfl⟩
  · split <;> exact ⟨rfl, rfl, rfl⟩

theorem recordObservation_sameMap (pose : PhysicalPose) (observation : HazardObservation) (t : Int) :
    Keeps SameMap (recordObservation F digest pose observation t) := by
  refine .bind (.modify fun _ => ⟨rfl, rfl, rfl⟩) fun _ => .ite (.pure none) (.bind .get fun m => ?_)
  dsimp only
  split
  · exact .bind (raising_sameMap _) fun u => .bind (.modify fun m => insert_sameMap m u) fun _ => .pure _
  · exact .bind (raising_sameMap _) fun u => .bind (put_sameMap u _) fun _ => .pure _

theorem recordScanBoundaries_sameMap (b : ScanBoundaries) : Keeps SameMap (recordScanBoundaries b) := by
  refine .bind .get fun m => ?_
  split
  · exact .throw _
  · exact .bind (.failIf _ _) fun _ => .bind (.failIf _ _) fun _ => .bind (.failIf _ _) fun _ =>
      .bind (raising_sameMap _) fun u => .bind (put_sameMap u _) fun _ =>
        .bind (.modify fun _ => ⟨rfl, rfl, rfl⟩) fun _ => .pure u

theorem recordScanResult_sameMap (r : ActiveIrScanResult) (pose : PhysicalPose) :
    Keeps SameMap (recordScanResult F r pose) := by
  refine .bind .get fun m => ?_
  split
  · exact .throw _
  · refine .bind (.failIf _ _) fun _ => .bind (.failIf _ _) fun _ => .bind (.failIf _ _) fun _ =>
      .bind (raising_sameMap _) fun a => .bind (.modify fun m => ?_) fun _ => .bind (raising_sameMap _) fun u =>
        .bind (put_sameMap u _) fun _ => .bind (.bind .get fun m => whileAbove_sameMap _ _ (pruneScanAttempt_sameMap _) _)
          fun _ => .bind (.bind .get fun m => whileAbove_sameMap _ _ (pruneCollisionSupport_sameMap _) _) fun _ =>
            .bind (.modify fun _ => ⟨rfl, rfl, rfl⟩) fun _ => .bind .get fun m => .pure _
    split <;> exact ⟨rfl, rfl, rfl⟩

theorem hazardMachine_sameMap (m : ProvisionalHazardMap) (op : HazardOp) :
    SameMap m ((hazardMachine F digest).step m op).2 := by
  cases op with
  | observation pose observation t => exact recordObservation_sameMap pose observation t m
  | scanResult r pose => exact recordScanResult_sameMap r pose m
  | scanBoundaries b =>
    have h := recordScanBoundaries_sameMap b m
    change SameMap m ((some <$> recordScanBoundaries b : MapProg _) m).2
    rw [map_run]
    rcases hr : recordScanBoundaries b m with ⟨e | u, m'⟩ <;> rw [hr] at h <;> exact h

-- The constructor

theorem ProvisionalHazardMap.Ok.build_self {m : ProvisionalHazardMap} (hm : m.Ok F digest) (hf : m.frameId ≠ "")
    (hg : m.mapGenerationId ≠ "") :
    ProvisionalHazardMap.build m.frameId m.mapGenerationId m.hazards m.revision m.calibration m.hazardsEvicted
      m.hazardsEvictionReason (some m.scanAttemptsEvicted) m.scanAttemptsEvictionReason = .ok m := by
  have hrevision : ¬ m.revision < 0 := not_lt.mpr hm.revision
  have hevicted : ¬ (m.hazardsEvicted < 0 ∨ (m.hazardsEvicted = 0 ∧ m.hazardsEvictionReason ≠ none) ∨
      (0 < m.hazardsEvicted ∧ m.hazardsEvictionReason ≠ some .mapCapacity)) := by
    obtain ⟨hnonneg, hzero, hpos⟩ := hm.hazardReason
    rintro (h | ⟨h, hreason⟩ | ⟨h, hreason⟩)
    · omega
    · exact hreason (hzero h)
    · cases hr : m.hazardsEvictionReason with
      | none => exact hpos h hr
      | some reason => cases reason; exact hreason hr
  have hset : ¬ (maxHazardsPerMap < m.hazards.length ∨ ¬ (m.hazards.map (·.hypothesisId)).Nodup) :=
    not_or.mpr ⟨not_lt.mpr hm.length, not_not_intro hm.ids⟩
  have hattempts : ¬ maxScanAttemptsPerMap < (m.hazards.map (·.scanEvidenceHistory.length)).sum := not_lt.mpr hm.attempts
  have hevictions : ¬ (m.scanAttemptsEvicted < (m.hazards.map (·.scanAttemptsEvicted)).sum ∨
      (m.scanAttemptsEvicted = 0 ∧ m.scanAttemptsEvictionReason ≠ none) ∨
      (0 < m.scanAttemptsEvicted ∧ m.scanAttemptsEvictionReason = none)) := by
    obtain ⟨-, hzero, hpos⟩ := hm.attemptReason
    rintro (h | ⟨h, hreason⟩ | ⟨h, hreason⟩)
    · exact absurd hm.evictions (not_le.mpr h)
    · exact hreason (hzero h)
    · exact hpos h hreason
  have hsupports : ¬ maxCollisionSupportsPerMap < (m.hazards.map (·.collisionSupports.length)).sum := not_lt.mpr hm.supports
  unfold ProvisionalHazardMap.build
  rw [if_neg hf, if_neg hg, if_neg hrevision, if_neg hevicted, if_neg hset, if_neg (not_not_intro hm.frames),
    if_neg hattempts]
  dsimp only
  rw [if_neg hevictions, if_neg hsupports]

theorem ProvisionalHazardMap.build_refused {hazards : List ProvisionalHazard} (frameId generationId : String)
    (revision evicted : Int) (calibration : HazardMapCalibration) (reason : Option HazardEvictionReason)
    (attempts : Option Int) (attemptsReason : Option ScanEvictionReason)
    (h : maxScanAttemptsPerMap < (hazards.map (·.scanEvidenceHistory.length)).sum) :
    ∃ e, ProvisionalHazardMap.build frameId generationId hazards revision calibration evicted reason attempts
      attemptsReason = .error e := by
  unfold ProvisionalHazardMap.build
  rw [if_pos h]
  split_ifs <;> exact ⟨_, rfl⟩

end RobotLlm.Hazard
