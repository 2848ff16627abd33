import RobotLlm.Hazard.PruneLaws

/-!
# Laws of the hazard map

A call that records a scan with an id of its own either records it or leaves
the map as it was. What it records is there afterwards or counted as evicted,
and a hypothesis that counts in the collision check goes on counting unless a
scan saw clear ground all over it.
-/

namespace RobotLlm.Hazard

open RobotLlm.Lib
open Lib.Prog

variable {F : Type} [PyMath F] {digest : List String → String} {m m' : ProvisionalHazardMap} {h u : ProvisionalHazard}
  {r : ActiveIrScanResult} {pose : PhysicalPose}

def ProvisionalHazardMap.Fresh (m : ProvisionalHazardMap) (scanId : String) : Prop :=
  ∀ h ∈ m.hazards, (∀ a ∈ h.scanEvidenceHistory, a.scanId ≠ scanId) ∧ ∀ s ∈ h.collisionSupports, s.sourceScanId ≠ scanId

def IdsDistinct (digest : List String → String) : Prop :=
  ∀ g (p p' : PhysicalPose) t t' v v', stableId digest g p t v = stableId digest g p' t' v' →
    p.xMm = p'.xMm ∧ p.yMm = p'.yMm ∧ p.headingMdeg = p'.headingMdeg

-- What holds of every map

/-- The hypothesis was anchored at the pose its id was made of. -/
def ProvisionalHazard.Made (F : Type) [PyMath F] (digest : List String → String) (m : ProvisionalHazardMap)
    (h : ProvisionalHazard) : Prop :=
  ∃ (pose : PhysicalPose) (t v : Int), h.hypothesisId = stableId digest m.mapGenerationId pose t v ∧
    h.anchorHeadingMdeg = pose.headingMdeg ∧ (h.centroidXMm, h.centroidYMm) =
      project F pose.xMm pose.yMm pose.headingMdeg m.calibration.provisionalHazardOffsetMm

structure ProvisionalHazardMap.Ok (F : Type) [PyMath F] (digest : List String → String) (m : ProvisionalHazardMap) :
    Prop extends m.Sound where
  made : ∀ h ∈ m.hazards, h.Made F digest m
  frames : ∀ h ∈ m.hazards, h.frameId = m.frameId
  length : m.hazards.length ≤ maxHazardsPerMap
  attempts : m.attemptCount ≤ maxScanAttemptsPerMap
  supports : m.supportCount ≤ maxCollisionSupportsPerMap
  evictions : (m.hazards.map (·.scanAttemptsEvicted)).sum ≤ m.scanAttemptsEvicted
  attemptReason : 0 ≤ m.scanAttemptsEvicted ∧ (m.scanAttemptsEvicted = 0 → m.scanAttemptsEvictionReason = none) ∧
    (0 < m.scanAttemptsEvicted → m.scanAttemptsEvictionReason ≠ none)
  hazardReason : 0 ≤ m.hazardsEvicted ∧ (m.hazardsEvicted = 0 → m.hazardsEvictionReason = none) ∧
    (0 < m.hazardsEvicted → m.hazardsEvictionReason ≠ none)
  revision : 0 ≤ m.revision

-- What becomes of one hypothesis

/-- The supports of a hypothesis and its boundaries are no newer than `t`. -/
def ProvisionalHazard.NoNewerThan (h : ProvisionalHazard) (t : Int) : Prop :=
  (∀ s ∈ h.collisionSupports, s.completedAtMs ≤ t) ∧ ∀ completed, h.scanCompletedAtMs = some completed → completed ≤ t

def ProvisionalHazard.Sources (h : ProvisionalHazard) (P : String → Prop) : Prop :=
  (∀ a ∈ h.scanEvidenceHistory, P a.scanId) ∧ ∀ s ∈ h.collisionSupports, P s.sourceScanId

/-- `h` became `u` by a call that records `added` attempts of it, a scan of that
id and time, if any; `spared` is what keeps the call from contesting it. -/
structure ProvisionalHazard.Became (scanId : Option String) (completedAtMs : Option Int) (added : Int) (spared : Prop)
    (h u : ProvisionalHazard) : Prop where
  valid : u.Valid
  settled : u.Settled
  origin : u.SameOrigin h.toHazardFields
  account : (u.scanEvidenceHistory.length : Int) + u.scanAttemptsEvicted =
    h.scanEvidenceHistory.length + h.scanAttemptsEvicted + added
  upholds : (∀ t, completedAtMs = some t → h.NoNewerThan t) → spared → u.Upholds h
  noNewer : ∀ t, (∀ c, completedAtMs = some c → c ≤ t) → h.NoNewerThan t → u.NoNewerThan t
  sources : ∀ P : String → Prop, (∀ id, scanId = some id → P id) → h.Sources P → u.Sources P

theorem ProvisionalHazard.Became.refl {scanId : Option String} {completedAtMs : Option Int} {added : Int} {spared : Prop}
    (hv : h.Valid) (hs : h.Settled) (hadded : added = 0) : h.Became scanId completedAtMs added spared h where
  valid := hv
  settled := hs
  origin := ⟨rfl, rfl, rfl, rfl, rfl⟩
  account := by rw [hadded, add_zero]
  upholds _ _ := .refl h
  noNewer _ _ hn := hn
  sources _ _ hold := hold

theorem ProvisionalHazard.Became.of_frame {completedAtMs : Option Int} (hv : u.Valid) (hs : h.Settled)
    (horigin : u.SameOrigin h.toHazardFields)
    (hframe : u.scanEvidenceHistory = h.scanEvidenceHistory ∧ u.scanAttemptsEvicted = h.scanAttemptsEvicted ∧
      u.collisionSupports = h.collisionSupports ∧ u.collisionContestedAtMs = h.collisionContestedAtMs)
    (hlast : h.lastSeenAtMs ≤ u.lastSeenAtMs)
    (hbilateral : (∀ t, completedAtMs = some t → h.NoNewerThan t) → h.bilateralScanComplete = true →
      u.bilateralScanComplete = true)
    (hcompleted : u.scanCompletedAtMs = h.scanCompletedAtMs ∨ u.scanCompletedAtMs = completedAtMs) :
    h.Became none completedAtMs 0 True u := by
  obtain ⟨hhistory, hevicted, hsupports, hcontest⟩ := hframe
  exact
    { valid := hv
      settled := ⟨by rw [hhistory, hsupports]; exact hs.supports, by rw [hhistory, hcontest]; exact hs.contest⟩
      origin := horigin
      account := by rw [hhistory, hevicted, add_zero]
      upholds := fun hn _ => ⟨hcontest, hlast, fun s hmem => ⟨s, hsupports ▸ hmem, le_refl _⟩, hbilateral hn⟩
      noNewer := fun t ht hn => ⟨by rw [hsupports]; exact hn.1, fun completed hc =>
        hcompleted.elim (fun h => hn.2 completed (h ▸ hc)) fun h => ht completed (h ▸ hc)⟩
      sources := fun P _ hold => ⟨by rw [hhistory]; exact hold.1, by rw [hsupports]; exact hold.2⟩ }

structure ProvisionalHazard.Scanned (r : ActiveIrScanResult) (conflict : Prop) (h u : ProvisionalHazard) : Prop extends
    h.Became (some r.scanId) (some r.completedAtMs) (if h.hypothesisId = r.targetHypothesisId then 1 else 0)
      (h.hypothesisId = r.targetHypothesisId → ¬ conflict) u where
  marked : ∀ p ∈ u.collisionSupports, p.sourceScanId = r.scanId → p.completedAtMs = r.completedAtMs

-- Recording a scan

structure Recorded (F : Type) [PyMath F] (r : ActiveIrScanResult) (pose : PhysicalPose) (m m' : ProvisionalHazardMap)
    (h u : ProvisionalHazard) (a : ScanAttemptEvidence) : Prop where
  target : h ∈ m.hazards ∧ h.hypothesisId = r.targetHypothesisId
  attempt : ScanAttemptEvidence.fromScanResult r pose = .ok a
  basis : m.revision = r.basedOnMapVersion + 1
  fresh : h.firstSeenAtMs ≤ r.completedAtMs
  fields : u.toHazardFields = recordedFields r h (recordedAttempt F m.calibration h a)
  pruned : ∃ n reason m₁, (n = 0 ∧ reason = m.scanAttemptsEvictionReason ∨ 0 < n ∧ reason ≠ none) ∧
    ((u.scanEvidenceHistory.length : Int) + n = h.scanEvidenceHistory.length + 1) ∧
    ProvisionalHazardMap.Trims r.scanId m₁ { m.put u h.hypothesisId with
      scanAttemptsEvicted := m.scanAttemptsEvicted + n
      scanAttemptsEvictionReason := reason } ∧
    m' = { m₁ with revision := m₁.revision + 1 }
  attempts : m'.attemptCount ≤ maxScanAttemptsPerMap
  supports : m'.supportCount ≤ maxCollisionSupportsPerMap

section
variable {a : ScanAttemptEvidence}

theorem recorded_not_bilateral (ha : ScanAttemptEvidence.fromScanResult r pose = .ok a)
    (hc : (recordedAttempt F m.calibration h a).hypothesisRelation = .conflictsBlockedHypothesis) :
    ¬ r.BilateralComplete := by
  rintro ⟨-, -, -, ⟨left, hleft, -⟩, -⟩
  have hnone := (recordedAttempt_conflicts hc).1.leftBoundary
  rw [(ScanAttemptEvidence.fromScanResult_ok ha).2.2.2.1, Option.mem_def.mp hleft] at hnone
  cases hnone

theorem exists_recorded (hv : h.Valid) (hs : h.Settled) (ha : ScanAttemptEvidence.fromScanResult r pose = .ok a)
    (ht : h.firstSeenAtMs ≤ r.completedAtMs) :
    ∃ u, ProvisionalHazard.new (recordedFields r h (recordedAttempt F m.calibration h a)) = .ok u ∧
      u.toHazardFields = recordedFields r h (recordedAttempt F m.calibration h a) ∧ u.Valid ∧ u.Settled := by
  have hvalid : (recordedFields r h (recordedAttempt F m.calibration h a)).Valid := recordedFields_valid hv (by
    rw [recordedAttempt_completedAtMs, (ScanAttemptEvidence.fromScanResult_ok ha).2.1]
    exact ht)
  have hsettled : (recordedFields r h (recordedAttempt F m.calibration h a)).Settled :=
    recordedFields_settled hs (recorded_not_bilateral ha)
  obtain ⟨u, hnew, hu⟩ := ProvisionalHazard.exists_new hvalid hsettled
  exact ⟨u, hnew, hu, hu ▸ hvalid, hu ▸ hsettled⟩

theorem put_sound (hm : m.Sound) (hid : u.hypothesisId = h.hypothesisId) (hv : u.Valid) (hs : u.Settled) :
    (m.put u h.hypothesisId).Sound where
  ids := by
    have hkeys : (m.put u h.hypothesisId).hazards.map (·.hypothesisId) = m.hazards.map (·.hypothesisId) := map_replaceAt hid
    rw [hkeys]
    exact hm.ids
  hazards x hx := by
    obtain ⟨y, hy, rfl⟩ := List.mem_map.mp hx
    split
    · exact ⟨hv, hs⟩
    · exact hm.hazards y hy

theorem exists_unprotected {target : String} (hm : m.Sound)
    (hother : ∀ h ∈ m.hazards, h.hypothesisId ≠ target → ∀ a ∈ h.scanEvidenceHistory, a.scanId ≠ r.scanId)
    (hlt : maxScanAttemptsPerMap < m.attemptCount) :
    ∃ h ∈ m.hazards, ∃ a ∈ h.scanEvidenceHistory, a.scanId ≠ r.scanId := by
  by_contra hnone
  have hzero : ∀ h ∈ m.hazards, h.hypothesisId ≠ target → h.scanEvidenceHistory.length ≤ 0 := by
    intro h hh hid
    by_contra hsome
    obtain ⟨a, ha⟩ := List.exists_mem_of_length_pos (l := h.scanEvidenceHistory) (by omega)
    exact hnone ⟨h, hh, a, ha, hother h hh hid a ha⟩
  have hsum := sum_le_of_one_large (n := 16) (k := 0) hm.ids
    (w := fun item : ProvisionalHazard => item.scanEvidenceHistory.length)
    (fun h hh => (hm.hazards h hh).1.history.1) hzero
  have hcount : m.attemptCount = (m.hazards.map fun item => item.scanEvidenceHistory.length).sum := rfl
  unfold maxScanAttemptsPerMap at hlt
  omega

variable (pose) in
theorem recordScanResult_triple (hm : m.Ok F digest) (hfresh : m.revision = r.basedOnMapVersion + 1 → m.Fresh r.scanId) :
    Triple (recordScanResult F r pose) m
      (fun answer m' => (∃ h u a, Recorded F r pose m m' h u a) ∧ answer = m'.get? r.targetHypothesisId)
      (fun e m' => m' = m ∧ e ≠ .diverges) := by
  unfold recordScanResult
  refine Triple.get_bind ?_
  split
  · exact Triple.throw ⟨rfl, by simp⟩
  rename_i h hget
  obtain ⟨hh, hid⟩ := ProvisionalHazardMap.get?_mem hget
  refine Triple.failIf (fun _ => ⟨rfl, by simp⟩) fun _ => ?_
  refine Triple.failIf (fun _ => ⟨rfl, by simp⟩) fun hbasis => ?_
  refine Triple.failIf (fun _ => ⟨rfl, by simp⟩) fun hrestored => ?_
  have hbasis' : m.revision = r.basedOnMapVersion + 1 := not_not.mp (not_or.mp hbasis).2
  have hf := hfresh hbasis'
  have hfirst : h.firstSeenAtMs ≤ r.completedAtMs := not_lt.mp (not_or.mp (not_or.mp hrestored).2).2
  cases hattempt : ScanAttemptEvidence.fromScanResult r pose with
  | error e => exact Triple.of_run (show _ = (Except.error (MapError.valueError e), m) from rfl) ⟨rfl, by simp⟩
  | ok a =>
    refine Triple.step (a := a) (t := m) rfl (Triple.modify_bind ?_)
    obtain ⟨hv, hs⟩ := hm.hazards h hh
    obtain ⟨u, hnew, hfields, huv, hus⟩ := exists_recorded (F := F) (m := m) hv hs hattempt hfirst
    have hidentity : u.hypothesisId = h.hypothesisId := by
      rw [hfields]
      exact recordedFields_sameOrigin.hypothesisId
    have hhistory : u.scanEvidenceHistory = retainScanAttemptDiversity
        (h.scanEvidenceHistory ++ [recordedAttempt F m.calibration h a]) maxScanAttemptsPerHazard := by
      rw [hfields]
      exact recordedFields_scanEvidenceHistory
    have hle := length_retainScanAttemptDiversity_le (h.scanEvidenceHistory ++ [recordedAttempt F m.calibration h a])
      maxScanAttemptsPerHazard
    rw [← hhistory] at hle ⊢
    rw [List.length_append, List.length_singleton] at hle
    -- the counter of the map as it is raised before the hypothesis is replaced
    obtain ⟨n, reason, hn, hcount, hmodified⟩ : ∃ n reason,
        (n = 0 ∧ reason = m.scanAttemptsEvictionReason ∨ 0 < n ∧ reason ≠ none) ∧
        (u.scanEvidenceHistory.length : Int) + n = h.scanEvidenceHistory.length + 1 ∧
        (if (h.scanEvidenceHistory ++ [recordedAttempt F m.calibration h a]).length - u.scanEvidenceHistory.length = 0 then m
          else { m with
            scanAttemptsEvicted := m.scanAttemptsEvicted +
              ((h.scanEvidenceHistory ++ [recordedAttempt F m.calibration h a]).length - u.scanEvidenceHistory.length : Nat)
            scanAttemptsEvictionReason := some .perHazardCapacity }) =
          { m with scanAttemptsEvicted := m.scanAttemptsEvicted + n, scanAttemptsEvictionReason := reason } := by
      rw [List.length_append, List.length_singleton]
      split
      · exact ⟨0, m.scanAttemptsEvictionReason, .inl ⟨rfl, rfl⟩, by omega, by rw [add_zero]⟩
      · exact ⟨_, some .perHazardCapacity, .inr ⟨by omega, by simp⟩, by omega, rfl⟩
    rw [hmodified]
    refine Triple.step (a := u) (t := { m with
      scanAttemptsEvicted := m.scanAttemptsEvicted + n, scanAttemptsEvictionReason := reason })
      (by rw [raising, ofExcept_run, hnew]; rfl) (Triple.modify_bind ?_)
    rw [← hid]
    have hsound : ({ m.put u h.hypothesisId with
        scanAttemptsEvicted := m.scanAttemptsEvicted + n
        scanAttemptsEvictionReason := reason } : ProvisionalHazardMap).Sound :=
      ⟨(put_sound hm.toSound hidentity huv hus).ids, (put_sound hm.toSound hidentity huv hus).hazards⟩
    have hlength : (m.put u h.hypothesisId).hazards.length ≤ maxHazardsPerMap := by
      rw [ProvisionalHazardMap.put, replaceAt, List.length_map]
      exact hm.length
    have hothers : ∀ x ∈ (m.put u h.hypothesisId).hazards, x.hypothesisId ≠ h.hypothesisId → x ∈ m.hazards :=
      fun x hx hxid => (mem_replaceAt hx).elim (fun hxu => absurd (hxu ▸ hidentity) hxid) And.left
    have hattempts : (m.put u h.hypothesisId).attemptCount ≤ maxScanAttemptsPerMap + 1 := by
      have hsum := sum_replaceAt (u := u) (w := fun item : ProvisionalHazard => item.scanEvidenceHistory.length) hm.ids hh rfl
      have hold := hm.attempts
      simp only [ProvisionalHazardMap.attemptCount, ProvisionalHazardMap.put] at hold ⊢
      omega
    refine Triple.bind ((pruneScanHistories_triple hsound hattempts (exists_unprotected hsound fun x hx hxid =>
      (hf x (hothers x hx hxid)).1)).mono (fun _ _ h => h) fun _ _ h => h.elim) ?_
    rintro _ m₁ ⟨htrims, hfew⟩
    have htarget : ∀ y ∈ m₁.hazards, y.hypothesisId ≠ h.hypothesisId → ∀ s ∈ y.collisionSupports, s.sourceScanId ≠ r.scanId := by
      intro y hy hyid s hs
      obtain ⟨x, hx, hxy⟩ := forall₂_right htrims.hazards hy
      exact (hf x (hothers x hx (hxy.sameOrigin.hypothesisId ▸ hyid))).2 s (hxy.supports.subset hs)
    refine Triple.bind ((pruneCollisionSupports_triple (htrims.sound hsound)
      (by rw [← htrims.hazards.length_eq]; exact hlength) htarget).mono (fun _ _ h => h) fun _ _ h => h.elim) ?_
    · rintro _ m₂ ⟨htrims', hsame, hsupports⟩
      refine Triple.modify_bind (Triple.get_bind (Triple.pure ⟨⟨h, u, a, ?_⟩, rfl⟩))
      exact
        { target := ⟨hh, hid⟩
          attempt := hattempt
          basis := hbasis'
          fresh := hfirst
          fields := hfields
          pruned := ⟨n, reason, m₂, hn, hcount, htrims'.trans htrims, rfl⟩
          attempts := hsame.trans_le hfew
          supports := hsupports }

variable {conflict : Prop}

theorem ProvisionalHazard.Scanned.other (hv : h.Valid) (hs : h.Settled) (hid : h.hypothesisId ≠ r.targetHypothesisId)
    (hf : ∀ s ∈ h.collisionSupports, s.sourceScanId ≠ r.scanId) : h.Scanned r conflict h where
  toBecame := .refl hv hs (if_neg hid)
  marked p hp hpid := absurd hpid (hf p hp)

theorem ProvisionalHazard.Scanned.target (hv : h.Valid) (hs : h.Settled) (hid : h.hypothesisId = r.targetHypothesisId)
    (hf : ∀ s ∈ h.collisionSupports, s.sourceScanId ≠ r.scanId)
    (ha : ScanAttemptEvidence.fromScanResult r pose = .ok a) (hfirst : h.firstSeenAtMs ≤ r.completedAtMs)
    (hu : u.toHazardFields = recordedFields r h (recordedAttempt F m.calibration h a)) :
    h.Scanned r ((recordedAttempt F m.calibration h a).hypothesisRelation = .conflictsBlockedHypothesis) u := by
  obtain ⟨hscanId, hcompleted, -⟩ := ScanAttemptEvidence.fromScanResult_ok ha
  obtain ⟨w, -, hw, hvalid, hsettled⟩ := exists_recorded (F := F) (m := m) hv hs ha hfirst
  rw [hw, ← hu] at hvalid hsettled
  have hattempt : ∀ x ∈ u.scanEvidenceHistory, x ∈ h.scanEvidenceHistory ∨ x.scanId = r.scanId := by
    intro x hx
    rw [hu, recordedFields_scanEvidenceHistory] at hx
    refine (List.mem_append.mp (mem_retainScanAttemptDiversity hx)).imp_right fun hnew => ?_
    rw [List.mem_singleton.mp hnew]
    exact recordedAttempt_scanId.trans hscanId
  have hsupport : ∀ s ∈ u.collisionSupports, s ∈ h.collisionSupports ∨
      s.sourceScanId = r.scanId ∧ s.completedAtMs = r.completedAtMs := by
    intro s hs
    rw [hu, recordedFields_collisionSupports] at hs
    refine (List.mem_append.mp (mem_retainCollisionSupportDiversity hs)).imp_right fun hnew => ?_
    obtain ⟨hsource, htime, -⟩ := ScanAttemptEvidence.mem_supports hnew
    exact ⟨hsource.trans (recordedAttempt_scanId.trans hscanId), htime.trans (recordedAttempt_completedAtMs.trans hcompleted)⟩
  exact
    { valid := hvalid
      settled := hsettled
      origin := hu ▸ recordedFields_sameOrigin
      account := by
        rw [if_pos hid, hu]
        exact recordedFields_account
      upholds := fun hn hc => recordedFields_upholds hu (hc hid) (hn _ rfl).2
      noNewer := by
        intro t ht hn
        refine ⟨fun s hs => (hsupport s hs).elim (hn.1 s) fun h => h.2.trans_le (ht _ rfl), fun completed hc => ?_⟩
        rw [hu] at hc
        unfold recordedFields HazardFields.settleOutcome at hc
        split_ifs at hc
        · exact (Option.some.inj hc).symm.trans_le (ht _ rfl)
        · exact hn.2 completed hc
      sources := fun P hP hold => ⟨fun x hx => (hattempt x hx).elim (hold.1 x) fun hid => hid ▸ hP _ rfl,
        fun s hs => (hsupport s hs).elim (hold.2 s) fun hnew => hnew.1 ▸ hP _ rfl⟩
      marked := fun p hp hpid => (hsupport p hp).elim (fun hold => absurd hpid (hf p hold)) And.right }

theorem ProvisionalHazard.Scanned.trims {w : ProvisionalHazard} (hu : h.Scanned r conflict u) (hw : w.Trims r.scanId u) :
    h.Scanned r conflict w where
  valid := hw.valid
  settled := hw.settled
  origin := hw.sameOrigin.trans hu.origin
  account := hw.account.trans hu.account
  upholds hn hc := by
    refine (hw.upholds fun p hp hpid s hs => ?_).trans (hu.upholds hn hc)
    rw [hu.marked p hp hpid]
    exact (hu.noNewer _ (fun t ht => (Option.some.inj ht).ge) (hn _ rfl)).1 s hs
  noNewer t ht hn := by
    have hold := hu.noNewer t ht hn
    exact ⟨fun s hs => hold.1 s (hw.supports.subset hs), fun completed hc => hold.2 completed (hw.scanCompletedAtMs ▸ hc)⟩
  sources P hP hold := by
    have hnew := hu.sources P hP hold
    exact ⟨fun a ha => hnew.1 a (hw.history.subset ha), fun s hs => hnew.2 s (hw.supports.subset hs)⟩
  marked p hp hpid := hu.marked p (hw.supports.subset hp) hpid

theorem Recorded.scanned (hr : Recorded F r pose m m' h u a) (hm : m.Sound) (hf : m.Fresh r.scanId) :
    List.Forall₂ (ProvisionalHazard.Scanned r
      ((recordedAttempt F m.calibration h a).hypothesisRelation = .conflictsBlockedHypothesis)) m.hazards m'.hazards := by
  obtain ⟨hh, hid⟩ := hr.target
  obtain ⟨n, reason, m₁, -, -, htrims, rfl⟩ := hr.pruned
  obtain ⟨hv, hs⟩ := hm.hazards h hh
  have hput : List.Forall₂ (ProvisionalHazard.Scanned r
      ((recordedAttempt F m.calibration h a).hypothesisRelation = .conflictsBlockedHypothesis)) m.hazards
      (m.put u h.hypothesisId).hazards := by
    refine forall₂_replaceAt hm.ids hh rfl (.target hv hs hid (hf h hh).2 hr.attempt hr.fresh hr.fields) ?_
    intro y hy hyid
    exact .other (hm.hazards y hy).1 (hm.hazards y hy).2 (hid ▸ hyid) (hf y hy).2
  exact forall₂_trans (fun _ y w hu (hw : w.Trims r.scanId y) => ProvisionalHazard.Scanned.trims hu hw) hput htrims.hazards
theorem Recorded.account (hr : Recorded F r pose m m' h u a) (hm : m.Sound) :
    (m'.attemptCount : Int) + m'.scanAttemptsEvicted = m.attemptCount + m.scanAttemptsEvicted + 1 := by
  obtain ⟨hh, -⟩ := hr.target
  obtain ⟨n, reason, m₁, -, hn, htrims, rfl⟩ := hr.pruned
  have haccount := htrims.account
  have hsum := sum_replaceAt (u := u) (w := fun item : ProvisionalHazard => item.scanEvidenceHistory.length) hm.ids hh rfl
  simp only [ProvisionalHazardMap.attemptCount, ProvisionalHazardMap.put] at haccount ⊢
  omega

theorem Recorded.frame (hr : Recorded F r pose m m' h u a) : m'.frameId = m.frameId ∧
    m'.mapGenerationId = m.mapGenerationId ∧ m'.calibration = m.calibration ∧ m'.revision = m.revision + 1 ∧
    m'.hazardsEvicted = m.hazardsEvicted ∧ m'.hazardsEvictionReason = m.hazardsEvictionReason := by
  obtain ⟨n, reason, m₁, -, -, htrims, rfl⟩ := hr.pruned
  have hframe := htrims.frame
  injection hframe with h1 h2 h3 h4 h5 h6 h7 h8 h9
  exact ⟨h1, h2, h4, by dsimp only; rw [h3]; rfl, h6, h7⟩

theorem ProvisionalHazardMap.Ok.of_origin (hm : m.Ok F digest)
    (hazards : List.Forall₂ (fun h u : ProvisionalHazard => u.SameOrigin h.toHazardFields ∧ u.Valid ∧ u.Settled) m.hazards m'.hazards)
    (hframe : m'.frameId = m.frameId ∧ m'.mapGenerationId = m.mapGenerationId ∧ m'.calibration = m.calibration) :
    m'.Sound ∧ (∀ u ∈ m'.hazards, u.Made F digest m') ∧ (∀ u ∈ m'.hazards, u.frameId = m'.frameId) ∧
      m'.hazards.length ≤ maxHazardsPerMap := by
  refine ⟨⟨?_, fun u hu => ?_⟩, fun u hu => ?_, fun u hu => ?_, ?_⟩
  · rw [← forall₂_map_eq (fun _ _ hu => hu.1.hypothesisId.symm) hazards]
    exact hm.ids
  · obtain ⟨_, -, -, hv, hs⟩ := forall₂_right hazards hu
    exact ⟨hv, hs⟩
  · obtain ⟨h, hh, horigin, -⟩ := forall₂_right hazards hu
    obtain ⟨pose, t, v, hid, hheading, hcenter⟩ := hm.made h hh
    refine ⟨pose, t, v, ?_, horigin.heading.trans hheading, ?_⟩
    · rw [horigin.hypothesisId, hid, hframe.2.1]
    · rw [horigin.center, hcenter, hframe.2.2]
  · obtain ⟨h, hh, horigin, -⟩ := forall₂_right hazards hu
    rw [horigin.frameId, hm.frames h hh, hframe.1]
  · rw [← hazards.length_eq]
    exact hm.length

theorem Recorded.ok (hr : Recorded F r pose m m' h u a) (hm : m.Ok F digest) (hf : m.Fresh r.scanId) : m'.Ok F digest := by
  obtain ⟨hframe, hgeneration, hcalibration, hrevision, hevicted, hreason⟩ := hr.frame
  obtain ⟨hsound, hmade, hframes, hlength⟩ := hm.of_origin
    ((hr.scanned hm.toSound hf).imp fun _ _ hu => ⟨hu.origin, hu.valid, hu.settled⟩) ⟨hframe, hgeneration, hcalibration⟩
  have haccount := hr.account hm.toSound
  obtain ⟨hh, -⟩ := hr.target
  have hfields := recordedFields_account (r := r) (h := h) (a := recordedAttempt F m.calibration h a)
  rw [← hr.fields] at hfields
  obtain ⟨n, reason, m₁, hn, hcount, htrims, hm'⟩ := hr.pruned
  have hsum := sum_replaceAt (u := u) (w := fun item : ProvisionalHazard => item.scanAttemptsEvicted) hm.ids hh rfl
  have hattempts := sum_replaceAt (u := u) (w := fun item : ProvisionalHazard => item.scanEvidenceHistory.length) hm.ids hh rfl
  have hown := htrims.own_account
  have hmap := htrims.account
  have htrimReason := htrims.reason
  have hold := hm.evictions
  exact
    { toSound := hsound
      made := hmade
      frames := hframes
      length := hlength
      attempts := hr.attempts
      supports := hr.supports
      evictions := by
        rw [hm']
        simp only [ProvisionalHazardMap.attemptCount, ProvisionalHazardMap.put] at hown hmap ⊢
        omega
      attemptReason := by
        obtain ⟨hpos, hzero, hsome⟩ := hm.attemptReason
        rw [hm']
        dsimp only
        rcases htrimReason with ⟨he, hreason'⟩ | ⟨hlt, hreason'⟩
        · rw [he, hreason']
          rcases hn with ⟨rfl, rfl⟩ | ⟨hn, hreason''⟩
          · simpa only [add_zero] using ⟨hpos, hzero, hsome⟩
          · exact ⟨by dsimp only; omega, fun h => by dsimp only at h; omega, fun _ => hreason''⟩
        · have hge : 0 ≤ n := hn.elim (fun h => h.1.ge) fun h => h.1.le
          dsimp only at hlt
          exact ⟨by omega, fun h => by omega, fun _ => hreason'⟩
      hazardReason := by
        rw [hevicted, hreason]
        exact hm.hazardReason
      revision := by
        have := hm.revision
        omega }

end

-- Observations

theorem ProvisionalHazardMap.insert_cases (hlen : m.hazards.length ≤ maxHazardsPerMap) (u : ProvisionalHazard) :
    (m.hazards.length < maxHazardsPerMap ∧ m.insert u = { m with hazards := m.hazards ++ [u] }) ∨
      ∃ oldest rest, m.hazards = oldest :: rest ∧ m.hazards.length = maxHazardsPerMap ∧
        m.insert u = { m with
          hazards := rest ++ [u]
          hazardsEvicted := m.hazardsEvicted + 1
          hazardsEvictionReason := some .mapCapacity
          scanAttemptsEvicted := m.scanAttemptsEvicted + oldest.scanEvidenceHistory.length
          scanAttemptsEvictionReason := if oldest.scanEvidenceHistory.length = 0 then m.scanAttemptsEvictionReason
            else some .withHypothesis } := by
  unfold ProvisionalHazardMap.insert lastN
  by_cases hlt : m.hazards.length < maxHazardsPerMap
  · have hevicted : (m.hazards ++ [u]).length - maxHazardsPerMap = 0 := by
      rw [List.length_append, List.length_singleton]
      omega
    exact .inl ⟨hlt, by simp only [hevicted, List.drop_zero, ↓reduceIte]⟩
  · have hevicted : (m.hazards ++ [u]).length - maxHazardsPerMap = 1 := by
      rw [List.length_append, List.length_singleton]
      omega
    cases hm : m.hazards with
    | nil =>
      rw [hm] at hlt
      exact absurd (by decide) hlt
    | cons oldest rest =>
      rw [hm] at hevicted hlt hlen
      rw [List.cons_append] at hevicted
      refine .inr ⟨oldest, rest, rfl, by omega, ?_⟩
      simp only [hevicted, one_ne_zero, ↓reduceIte, List.cons_append, List.drop_succ_cons, List.drop_zero,
        List.take_succ_cons, List.take_zero, List.map_cons, List.map_nil, List.sum_cons, List.sum_nil, add_zero]
      split
      · rename_i hzero
        simp only [hzero, Nat.cast_zero, add_zero, Nat.cast_one]
      · rfl

section
variable {observation : HazardObservation} {observedAtMs : Int}

inductive Observed (F : Type) [PyMath F] (digest : List String → String) (pose : PhysicalPose)
    (observation : HazardObservation) (observedAtMs : Int) (m : ProvisionalHazardMap) :
    Option ProvisionalHazard → ProvisionalHazardMap → Prop
  | clear : Observed F digest pose observation observedAtMs m none { m with revision := m.revision + 1 }
  | merged {h u : ProvisionalHazard} : h ∈ m.hazards →
      u.Valid → u.toHazardFields = { h.toHazardFields with
        lastSeenAtMs := max h.lastSeenAtMs observedAtMs
        evidenceCount := h.evidenceCount + 1
        lastStateVersion := observation.stateVersion
        lastRawIrProximity := observation.raw
        lastFilteredIrProximity := observation.filtered } →
      Observed F digest pose observation observedAtMs m (some u)
        { m.put u h.hypothesisId with revision := m.revision + 1 }
  | made {u : ProvisionalHazard} (center : Int × Int) :
      center = project F pose.xMm pose.yMm pose.headingMdeg m.calibration.provisionalHazardOffsetMm →
      m.hazards.foldl (nearer F m.calibration pose center) none = none →
      u.Valid → u.toHazardFields = freshFields digest m pose center observation observedAtMs →
      Observed F digest pose observation observedAtMs m (some u) ({ m with revision := m.revision + 1 }.insert u)

variable (F pose) in
theorem nearer_cases (c : HazardMapCalibration) (center : Int × Int) (nearest : Option (ProvisionalHazard × F))
    (x : ProvisionalHazard) : (∃ d, nearer F c pose center nearest x = some (x, d)) ∨ nearer F c pose center nearest x = nearest :=
  (ite_eq_or_eq _ (some (x, _)) nearest).imp_left fun h => ⟨_, h⟩

theorem nearer_mem {c : HazardMapCalibration} {center : Int × Int} {l : List ProvisionalHazard} {d : F}
    {nearest : Option (ProvisionalHazard × F)} (hfold : l.foldl (nearer F c pose center) nearest = some (h, d)) :
    h ∈ l ∨ nearest = some (h, d) := by
  induction l generalizing nearest with
  | nil => exact .inr hfold
  | cons x l ih =>
    obtain hmem | hx := ih hfold
    · exact .inl (List.mem_cons_of_mem _ hmem)
    · obtain ⟨d', hd⟩ | hsame := nearer_cases F pose c center nearest x
      · cases hd.symm.trans hx
        exact .inl List.mem_cons_self
      · exact .inr (hsame.symm.trans hx)

theorem nearer_isSome {c : HazardMapCalibration} {center : Int × Int} {l : List ProvisionalHazard}
    {nearest : Option (ProvisionalHazard × F)} (hsome : nearest.isSome = true) :
    (l.foldl (nearer F c pose center) nearest).isSome = true := by
  induction l generalizing nearest with
  | nil => exact hsome
  | cons x l ih =>
    refine ih ?_
    obtain ⟨d, hd⟩ | hsame := nearer_cases F pose c center nearest x
    · rw [hd]
      rfl
    · rw [hsame]
      exact hsome

theorem nearer_none {c : HazardMapCalibration} {center : Int × Int} {l : List ProvisionalHazard}
    (hnone : l.foldl (nearer F c pose center) none = none) (hh : h ∈ l) :
    ¬ (PyMath.le (distance F (center.1 - h.centroidXMm) (center.2 - h.centroidYMm)) (PyMath.ofInt c.hazardMergeDistanceMm) =
      true ∧ headingDrift pose h ≤ c.maximumAnchorHeadingDriftMdeg) := by
  intro hnear
  obtain ⟨before, after, rfl⟩ := List.append_of_mem hh
  rw [List.foldl_append, List.foldl_cons] at hnone
  have hsome : (nearer F c pose center (before.foldl (nearer F c pose center) none) h).isSome = true := by
    cases hbefore : before.foldl (nearer F c pose center) none with
    | none => simp [nearer, hnear]
    | some best =>
      obtain ⟨d, hd⟩ | hsame := nearer_cases F pose c center (some best) h
      · rw [hd]
        rfl
      · rw [hsame]
        rfl
  have hrest : (after.foldl (nearer F c pose center) (nearer F c pose center
      (before.foldl (nearer F c pose center) none) h)).isSome = true := nearer_isSome hsome
  rw [hnone] at hrest
  cases hrest

theorem raising_error {x : Except String ProvisionalHazard} {e : String} (hx : x = .error e) {E : MapError → ProvisionalHazardMap → Prop}
    {f : ProvisionalHazard → MapProg (Option ProvisionalHazard)} {Q : Option ProvisionalHazard → ProvisionalHazardMap → Prop}
    (he : E (.valueError e) m) : Triple (raising x >>= f) m Q E := by
  subst hx
  exact Triple.of_run (show _ = (Except.error (MapError.valueError e), m) from rfl) he

theorem recordObservation_triple (hm : m.Sound) :
    Triple (recordObservation F digest pose observation observedAtMs) m
      (Observed F digest pose observation observedAtMs m)
      (fun e m' => m' = { m with revision := m.revision + 1 } ∧ e ≠ .diverges) := by
  unfold recordObservation
  refine Triple.modify_bind ?_
  refine Triple.ite (fun _ => Triple.pure .clear) fun _ => Triple.get_bind ?_
  dsimp only
  split
  · rename_i hnone
    generalize hfields : freshFields digest { m with revision := m.revision + 1 } pose _ observation observedAtMs = f
    have hsettled : f.Settled := by
      subst hfields
      exact ⟨fun _ _ ha => absurd ha List.not_mem_nil, fun _ ha => absurd ha List.not_mem_nil⟩
    cases hnew : ProvisionalHazard.new f with
    | error e => exact raising_error rfl ⟨rfl, nofun⟩
    | ok u =>
      obtain ⟨hv, hu⟩ := (ProvisionalHazard.new_settled hsettled).mp hnew
      refine Triple.step (a := u) (t := { m with revision := m.revision + 1 }) rfl (Triple.modify_bind (Triple.pure ?_))
      exact .made _ rfl hnone (hu ▸ hv) (hu.trans hfields.symm)
  · rename_i h d hsome
    obtain hh | hh := nearer_mem hsome
    · generalize hfields : HazardFields.mk _ _ _ _ _ _ _ _ _ _ _ _ _ _ _ _ _ _ _ _ _ _ _ _ = f
      have hsettled : f.Settled := by
        subst hfields
        exact ⟨(hm.hazards h hh).2.supports, (hm.hazards h hh).2.contest⟩
      cases hnew : ProvisionalHazard.new f with
      | error e => exact raising_error rfl ⟨rfl, nofun⟩
      | ok u =>
        obtain ⟨hv, hu⟩ := (ProvisionalHazard.new_settled hsettled).mp hnew
        refine Triple.step (a := u) (t := { m with revision := m.revision + 1 }) rfl (Triple.modify_bind (Triple.pure ?_))
        exact .merged hh (hu ▸ hv) (hu.trans hfields.symm)
    · cases hh

end

-- Boundaries

structure Bounded (b : ScanBoundaries) (m m' : ProvisionalHazardMap) (h u : ProvisionalHazard) : Prop where
  target : h ∈ m.hazards
  valid : u.Valid
  fields : u.toHazardFields = { h.toHazardFields with
    scanCompletedAtMs := some b.completedAtMs
    scanLeftBoundaryMdeg := some b.leftBoundaryMdeg
    scanRightBoundaryMdeg := some b.rightBoundaryMdeg }
  signs : 0 < b.leftBoundaryMdeg ∧ b.rightBoundaryMdeg < 0
  after : m' = { m.put u h.hypothesisId with revision := m.revision + 1 }

theorem recordScanBoundaries_triple (hm : m.Sound) (b : ScanBoundaries) :
    Triple (recordScanBoundaries b) m (fun u m' => ∃ h, Bounded b m m' h u) (fun e m' => m' = m ∧ e ≠ .diverges) := by
  unfold recordScanBoundaries
  refine Triple.get_bind ?_
  split
  · exact Triple.throw ⟨rfl, nofun⟩
  rename_i h hget
  obtain ⟨hh, hid⟩ := ProvisionalHazardMap.get?_mem hget
  refine Triple.failIf (fun _ => ⟨rfl, nofun⟩) fun _ => ?_
  refine Triple.failIf (fun _ => ⟨rfl, nofun⟩) fun _ => ?_
  refine Triple.failIf (fun _ => ⟨rfl, nofun⟩) fun hfresh => ?_
  obtain ⟨-, hsigns⟩ := not_or.mp hfresh
  obtain ⟨hleft, hright⟩ := not_or.mp hsigns
  generalize hfields : HazardFields.mk _ _ _ _ _ _ _ _ _ _ _ _ _ _ _ _ _ _ _ _ _ _ _ _ = f
  have hsettled : f.Settled := by
    subst hfields
    exact ⟨(hm.hazards h hh).2.supports, (hm.hazards h hh).2.contest⟩
  cases hnew : ProvisionalHazard.new f with
  | error e => exact Triple.of_run (show _ = (Except.error (MapError.valueError e), m) from rfl) ⟨rfl, nofun⟩
  | ok u =>
    obtain ⟨hv, hu⟩ := (ProvisionalHazard.new_settled hsettled).mp hnew
    refine Triple.step (a := u) (t := m) rfl (Triple.modify_bind (Triple.modify_bind (Triple.pure ⟨h, ?_⟩)))
    exact ⟨hh, hu ▸ hv, hu.trans hfields.symm, ⟨not_le.mp hleft, not_le.mp hright⟩, by rw [← hid]; rfl⟩

theorem Bounded.became {b : ScanBoundaries} (hb : Bounded b m m' h u) (hm : m.Sound) :
    h.Became none (some b.completedAtMs) 0 True u := by
  obtain ⟨hv, hs⟩ := hm.hazards h hb.target
  refine .of_frame hb.valid hs ?_ ?_ ?_ ?_ ?_
  · rw [hb.fields]
    exact ⟨rfl, rfl, rfl, rfl, rfl⟩
  · rw [hb.fields]
    exact ⟨rfl, rfl, rfl, rfl⟩
  · rw [hb.fields]
  · intro hn hold
    unfold ProvisionalHazard.bilateralScanComplete at hold ⊢
    rw [hb.fields]
    simp only [Bool.and_eq_true, decide_eq_true_eq]
    refine ⟨hb.signs, ?_⟩
    split at hold
    · rename_i completed _ _ hcompleted _ _
      have hle := (hn _ rfl).2 completed hcompleted
      cases hc : h.collisionContestedAtMs with
      | none => rfl
      | some contested =>
        simp only [hc, Bool.and_eq_true, decide_eq_true_eq] at hold ⊢
        omega
    · cases hold
  · rw [hb.fields]
    exact .inr rfl

-- One call

namespace HazardOp

def scanId? : HazardOp → Option String
  | .scanResult r _ => some r.scanId
  | .observation .. | .scanBoundaries _ => none

def completedAtMs? : HazardOp → Option Int
  | .scanResult r _ => some r.completedAtMs
  | .scanBoundaries b => some b.completedAtMs
  | .observation .. => none

/-- The scan a call is about to record has an id of its own. -/
def FreshIn (m : ProvisionalHazardMap) : HazardOp → Prop
  | .scanResult r _ => m.revision = r.basedOnMapVersion + 1 → m.Fresh r.scanId
  | .observation .. | .scanBoundaries _ => True

/-- How many attempts a successful call records of a hypothesis. -/
def records : HazardOp → String → Int
  | .scanResult r _, hypothesisId => if hypothesisId = r.targetHypothesisId then 1 else 0
  | .observation .., _ | .scanBoundaries _, _ => 0

/-- A scan of the hypothesis that saw nothing on either side, over all that is
remembered of it. -/
def Clears (F : Type) [PyMath F] (c : HazardMapCalibration) (h : ProvisionalHazard) : HazardOp → Prop
  | .scanResult r pose => h.hypothesisId = r.targetHypothesisId ∧
      ∃ a, ScanAttemptEvidence.fromScanResult r pose = .ok a ∧ a.SeesNothing ∧ allClearArcCoversHazard F c h a = true
  | .observation .. | .scanBoundaries _ => False

end HazardOp

inductive Moves (F : Type) [PyMath F] (digest : List String → String) (op : HazardOp) (m : ProvisionalHazardMap) :
    HazardAnswer → ProvisionalHazardMap → Prop
  /-- Only an observation that failed counts as a revision. -/
  | failed {m' : ProvisionalHazardMap} (e : MapError) : e ≠ .diverges →
      m' = m ∨ op.scanId? = none ∧ m' = { m with revision := m.revision + 1 } → Moves F digest op m (.error e) m'
  | kept {m' : ProvisionalHazardMap} (answer : Option ProvisionalHazard) :
      List.Forall₂ (fun h u => h.Became op.scanId? op.completedAtMs? (op.records h.hypothesisId)
        (¬ op.Clears F m.calibration h) u) m.hazards m'.hazards →
      (m'.attemptCount : Int) + m'.scanAttemptsEvicted =
        m.attemptCount + m.scanAttemptsEvicted + (if op.scanId?.isSome then 1 else 0) →
      m.revision + 1 = m'.revision →
      (∀ u pose observation t, op = .observation pose observation t → answer = some u → 1 < u.evidenceCount) →
      (∀ r pose, op = .scanResult r pose → m.revision = r.basedOnMapVersion + 1) →
      Moves F digest op m (.ok answer) m'
  /-- A new hypothesis pushes the oldest out of a full map. -/
  | inserted {m' : ProvisionalHazardMap} {kept : List ProvisionalHazard} (u : ProvisionalHazard)
      (pose : PhysicalPose) (observation : HazardObservation) (t : Int) : op = .observation pose observation t →
      u.toHazardFields = freshFields digest m pose
        (project F pose.xMm pose.yMm pose.headingMdeg m.calibration.provisionalHazardOffsetMm) observation t →
      u.hypothesisId ∉ m.hazards.map (·.hypothesisId) →
      m'.hazards = kept ++ [u] →
      (kept = m.hazards ∧ m'.scanAttemptsEvicted = m.scanAttemptsEvicted ∨
        ∃ oldest, m.hazards = oldest :: kept ∧ m.hazards.length = maxHazardsPerMap ∧
          m'.scanAttemptsEvicted = m.scanAttemptsEvicted + oldest.scanEvidenceHistory.length) →
      m.revision + 1 = m'.revision → Moves F digest op m (.ok (some u)) m'

section
variable {a : ScanAttemptEvidence}

theorem Recorded.moves (hr : Recorded F r pose m m' h u a) (hm : m.Sound) (hf : m.Fresh r.scanId)
    (answer : Option ProvisionalHazard) : Moves F digest (.scanResult r pose) m (.ok answer) m' := by
  have hmembers := (List.forall₂_and_left (p := (· ∈ m.hazards)) _ _).mpr ⟨fun _ hx => hx, hr.scanned hm hf⟩
  refine .kept answer (hmembers.imp ?_) (hr.account hm) hr.frame.2.2.2.1.symm (fun _ _ _ _ hop => HazardOp.noConfusion hop)
    fun _ _ hop => by cases hop; exact hr.basis
  rintro x w ⟨hx, hw⟩
  refine { hw.toBecame with upholds := fun hn hspared => hw.upholds hn fun hid hconflict => hspared ⟨hid, a, hr.attempt, ?_⟩ }
  rw [List.inj_on_of_nodup_map hm.ids hx hr.target.1 (hid.trans hr.target.2.symm)]
  exact recordedAttempt_conflicts hconflict

end

theorem Bounded.moves {b : ScanBoundaries} (hb : Bounded b m m' h u) (hm : m.Sound) (answer : Option ProvisionalHazard) :
    Moves F digest (.scanBoundaries b) m (.ok answer) m' := by
  refine .kept answer ?_ ?_ ?_ (fun _ _ _ _ hop => HazardOp.noConfusion hop) fun _ _ hop => HazardOp.noConfusion hop
  · rw [hb.after]
    refine forall₂_replaceAt hm.ids hb.target rfl ?_ fun y hy _ => .refl (hm.hazards y hy).1 (hm.hazards y hy).2 rfl
    have hu := hb.became hm
    exact { hu with upholds := fun hn _ => hu.upholds hn trivial }
  · have hhistory : u.scanEvidenceHistory = h.scanEvidenceHistory := by rw [hb.fields]
    have hsum := sum_replaceAt (u := u) (w := fun item : ProvisionalHazard => item.scanEvidenceHistory.length) hm.ids hb.target rfl
    rw [hhistory] at hsum
    rw [hb.after]
    simp only [ProvisionalHazardMap.attemptCount, ProvisionalHazardMap.put, HazardOp.scanId?, Option.isSome_none,
      Bool.false_eq_true, ↓reduceIte]
    omega
  · rw [hb.after]

section
variable {observation : HazardObservation} {observedAtMs : Int} {answer : Option ProvisionalHazard}

theorem fresh_id [LawfulPyMath F] (hm : m.Ok F digest) (hd : IdsDistinct digest) {center : Int × Int}
    (hcenter : center = project F pose.xMm pose.yMm pose.headingMdeg m.calibration.provisionalHazardOffsetMm)
    (hnone : m.hazards.foldl (nearer F m.calibration pose center) none = none)
    (hu : u.toHazardFields = freshFields digest m pose center observation observedAtMs) :
    u.hypothesisId ∉ m.hazards.map (·.hypothesisId) := by
  intro hmem
  obtain ⟨h, hh, hid⟩ := List.mem_map.mp hmem
  obtain ⟨pose', t', v', hid', hheading, hplace⟩ := hm.made h hh
  have hsame : stableId digest m.mapGenerationId pose' t' v' =
      stableId digest m.mapGenerationId pose observedAtMs observation.stateVersion := by
    rw [← hid']
    refine hid.trans ?_
    rw [hu]
    rfl
  obtain ⟨hx, hy, hz⟩ := hd _ _ _ _ _ _ _ hsame
  rw [hx, hy, hz, ← hcenter] at hplace
  refine nearer_none hnone hh ⟨?_, ?_⟩
  · have hx' : center.1 - h.centroidXMm = 0 := by rw [← hplace, sub_self]
    have hy' : center.2 - h.centroidYMm = 0 := by rw [← hplace, sub_self]
    rw [hx', hy']
    exact LawfulPyMath.hypot_zero_le _ m.calibration.positive.2.2.1
  · have hdrift : headingDrift pose h = 0 := by
      unfold headingDrift
      rw [hheading, hz, sub_self]
      decide
    rw [hdrift]
    exact m.calibration.positive.2.2.2.le

theorem merged_became (hm : m.Sound) (hh : h ∈ m.hazards) (hv : u.Valid)
    (hu : u.toHazardFields = { h.toHazardFields with
        lastSeenAtMs := max h.lastSeenAtMs observedAtMs
        evidenceCount := h.evidenceCount + 1
        lastStateVersion := observation.stateVersion
        lastRawIrProximity := observation.raw
        lastFilteredIrProximity := observation.filtered }) : h.Became none none 0 True u := by
  refine .of_frame hv (hm.hazards h hh).2 ?_ ?_ ?_ ?_ (.inl ?_)
  · rw [hu]
    exact ⟨rfl, rfl, rfl, rfl, rfl⟩
  · rw [hu]
    exact ⟨rfl, rfl, rfl, rfl⟩
  · rw [hu]
    exact le_max_left _ _
  · intro _ hold
    unfold ProvisionalHazard.bilateralScanComplete at hold ⊢
    rw [hu]
    exact hold
  · rw [hu]

theorem Observed.moves [LawfulPyMath F] (ho : Observed F digest pose observation observedAtMs m answer m')
    (hm : m.Ok F digest) (hd : IdsDistinct digest) :
    Moves F digest (.observation pose observation observedAtMs) m (.ok answer) m' := by
  cases ho with
  | clear =>
    exact .kept none (List.forall₂_same.mpr fun h hh => .refl (hm.hazards h hh).1 (hm.hazards h hh).2 rfl)
      (add_zero _).symm rfl (fun _ _ _ _ _ hu => nomatch hu) fun _ _ hop => HazardOp.noConfusion hop
  | merged hh hv hu =>
    rename_i h u
    refine .kept (some u) (forall₂_replaceAt hm.ids hh rfl ?_ fun y hy _ => .refl (hm.hazards y hy).1 (hm.hazards y hy).2 rfl)
      ?_ rfl ?_ fun _ _ hop => HazardOp.noConfusion hop
    · have hbecame := merged_became hm.toSound hh hv hu
      exact { hbecame with upholds := fun hn _ => hbecame.upholds hn trivial }
    · have hhistory : u.scanEvidenceHistory = h.scanEvidenceHistory := by rw [hu]
      have hsum := sum_replaceAt (u := u) (w := fun item : ProvisionalHazard => item.scanEvidenceHistory.length) hm.ids hh rfl
      rw [hhistory] at hsum
      simp only [ProvisionalHazardMap.attemptCount, ProvisionalHazardMap.put, HazardOp.scanId?, Option.isSome_none,
        Bool.false_eq_true, ↓reduceIte]
      omega
    · rintro _ _ _ _ - ⟨⟩
      rw [hu]
      have hpos := (hm.hazards h hh).1.bounds.2.2.2.1
      dsimp only
      omega
  | made center hcenter hnone hv hu =>
    rename_i u
    have hfresh := fresh_id hm hd hcenter hnone hu
    have hlen : ({ m with revision := m.revision + 1 } : ProvisionalHazardMap).hazards.length ≤ maxHazardsPerMap := hm.length
    obtain ⟨-, heq⟩ | ⟨oldest, rest, hhazards, hfull, heq⟩ := ProvisionalHazardMap.insert_cases hlen u
    · rw [heq]
      exact .inserted u pose observation observedAtMs rfl (hcenter ▸ hu) hfresh rfl (.inl ⟨rfl, rfl⟩) rfl
    · rw [heq]
      exact .inserted u pose observation observedAtMs rfl (hcenter ▸ hu) hfresh rfl (.inr ⟨oldest, hhazards, hfull, rfl⟩) rfl

theorem ProvisionalHazardMap.Ok.put (hm : m.Ok F digest) (hh : h ∈ m.hazards) (hu : h.Became none t 0 True u)
    (hsame : u.scanEvidenceHistory = h.scanEvidenceHistory ∧ u.collisionSupports = h.collisionSupports) :
    ({ m.put u h.hypothesisId with revision := m.revision + 1 } : ProvisionalHazardMap).Ok F digest := by
  obtain ⟨hhistory, hsupports⟩ := hsame
  have hhazards : List.Forall₂ (fun h u : ProvisionalHazard => u.SameOrigin h.toHazardFields ∧ u.Valid ∧ u.Settled) m.hazards
      (m.put u h.hypothesisId).hazards :=
    forall₂_replaceAt hm.ids hh rfl ⟨hu.origin, hu.valid, hu.settled⟩ fun y hy _ =>
      ⟨⟨rfl, rfl, rfl, rfl, rfl⟩, hm.hazards y hy⟩
  obtain ⟨hsound, hmade, hframes, hlength⟩ :=
    hm.of_origin (show List.Forall₂ _ m.hazards ({ m.put u h.hypothesisId with revision := m.revision + 1 } :
      ProvisionalHazardMap).hazards from hhazards) ⟨rfl, rfl, rfl⟩
  have hevicted : u.scanAttemptsEvicted = h.scanAttemptsEvicted := by
    have := hu.account
    rw [hhistory] at this
    omega
  have hattempts := sum_replaceAt (u := u) (w := fun item : ProvisionalHazard => item.scanEvidenceHistory.length) hm.ids hh rfl
  have hmany := sum_replaceAt (u := u) (w := fun item : ProvisionalHazard => item.collisionSupports.length) hm.ids hh rfl
  have hown := sum_replaceAt (u := u) (w := fun item : ProvisionalHazard => item.scanAttemptsEvicted) hm.ids hh rfl
  rw [hhistory] at hattempts
  rw [hsupports] at hmany
  rw [hevicted] at hown
  exact
    { toSound := hsound
      made := hmade
      frames := hframes
      length := hlength
      attempts := (Nat.add_right_cancel hattempts).trans_le hm.attempts
      supports := (Nat.add_right_cancel hmany).trans_le hm.supports
      evictions := (add_right_cancel hown).trans_le hm.evictions
      attemptReason := hm.attemptReason
      hazardReason := hm.hazardReason
      revision := by
        have := hm.revision
        dsimp only
        omega }

theorem ProvisionalHazardMap.Ok.inserted (hm : m.Ok F digest) (hv : u.Valid) {kept : List ProvisionalHazard}
    (hkept : kept = m.hazards ∨ ∃ oldest, m.hazards = oldest :: kept) (hlen : kept.length < maxHazardsPerMap)
    (hmade : u.Made F digest m)
    (hu : u.frameId = m.frameId ∧ u.scanEvidenceHistory = [] ∧ u.collisionSupports = [] ∧ u.scanAttemptsEvicted = 0)
    (hfresh : u.hypothesisId ∉ m.hazards.map (·.hypothesisId))
    (hframe : m'.frameId = m.frameId ∧ m'.mapGenerationId = m.mapGenerationId ∧ m'.calibration = m.calibration)
    (hhazards : m'.hazards = kept ++ [u]) (hrevision : 0 ≤ m'.revision)
    (hcounted : m.scanAttemptsEvicted ≤ m'.scanAttemptsEvicted)
    (hattemptReason : (m'.scanAttemptsEvicted = 0 → m'.scanAttemptsEvictionReason = none) ∧
      (0 < m'.scanAttemptsEvicted → m'.scanAttemptsEvictionReason ≠ none))
    (hhazardReason : 0 ≤ m'.hazardsEvicted ∧ (m'.hazardsEvicted = 0 → m'.hazardsEvictionReason = none) ∧
      (0 < m'.hazardsEvicted → m'.hazardsEvictionReason ≠ none)) : m'.Ok F digest := by
  obtain ⟨huframe, huhistory, husupports, huevicted⟩ := hu
  have hsub : kept.Sublist m.hazards := by
    rcases hkept with rfl | ⟨oldest, heq⟩
    · exact List.Sublist.refl _
    · rw [heq]
      exact List.sublist_cons_self _ _
  have hmem : ∀ x ∈ m'.hazards, x ∈ m.hazards ∨ x = u := by
    intro x hx
    rw [hhazards] at hx
    exact (List.mem_append.mp hx).imp (fun h => hsub.subset h) List.mem_singleton.mp
  have husettled : u.Settled := by
    constructor
    · rw [huhistory]
      exact fun _ _ ha => absurd ha List.not_mem_nil
    · rw [huhistory]
      exact fun _ ha => absurd ha List.not_mem_nil
  -- what was there weighs no less than what is kept of it
  have hsum : ∀ w : ProvisionalHazard → Nat, w u = 0 → (m'.hazards.map w).sum ≤ (m.hazards.map w).sum := by
    intro w hw
    rw [hhazards, List.map_append, List.sum_append, List.map_singleton, List.sum_singleton, hw]
    rcases hkept with rfl | ⟨oldest, heq⟩
    · omega
    · rw [heq, List.map_cons, List.sum_cons]
      omega
  have hown : (m'.hazards.map (·.scanAttemptsEvicted)).sum ≤ (m.hazards.map (·.scanAttemptsEvicted)).sum := by
    rw [hhazards, List.map_append, List.sum_append, List.map_singleton, List.sum_singleton, huevicted]
    rcases hkept with rfl | ⟨oldest, heq⟩
    · omega
    · have hpos := (hm.hazards oldest (heq ▸ List.mem_cons_self)).1.attemptEviction.1
      rw [heq, List.map_cons, List.sum_cons]
      omega
  exact
    { ids := by
        rw [hhazards, List.map_append]
        refine List.nodup_append.mpr ⟨(hsub.map _).nodup hm.ids, List.nodup_singleton _, ?_⟩
        rintro _ hx _ hy rfl
        obtain rfl := List.mem_singleton.mp hy
        exact hfresh ((hsub.map _).subset hx)
      hazards := fun x hx => (hmem x hx).elim (hm.hazards x) fun h => h ▸ ⟨hv, husettled⟩
      made := fun x hx => by
        obtain hx | rfl := hmem x hx
        · obtain ⟨pose, t, v, hid, hheading, hcenter⟩ := hm.made x hx
          exact ⟨pose, t, v, hframe.2.1 ▸ hid, hheading, hframe.2.2 ▸ hcenter⟩
        · obtain ⟨pose, t, v, hid, hheading, hcenter⟩ := hmade
          exact ⟨pose, t, v, hframe.2.1 ▸ hid, hheading, hframe.2.2 ▸ hcenter⟩
      frames := fun x hx => hframe.1 ▸ (hmem x hx).elim (hm.frames x) fun h => h ▸ huframe
      length := by
        rw [hhazards, List.length_append, List.length_singleton]
        exact hlen
      attempts := (hsum _ (by rw [huhistory, List.length_nil])).trans hm.attempts
      supports := (hsum _ (by rw [husupports, List.length_nil])).trans hm.supports
      evictions := hown.trans (hm.evictions.trans hcounted)
      attemptReason := ⟨hm.attemptReason.1.trans hcounted, hattemptReason⟩
      hazardReason := hhazardReason
      revision := hrevision }

theorem Observed.ok [LawfulPyMath F] (ho : Observed F digest pose observation observedAtMs m answer m')
    (hm : m.Ok F digest) (hd : IdsDistinct digest) : m'.Ok F digest := by
  have hrevision := hm.revision
  cases ho with
  | clear => exact { hm with revision := by dsimp only; omega }
  | merged hh hv hu =>
    exact hm.put hh (merged_became hm.toSound hh hv hu) ⟨by rw [hu], by rw [hu]⟩
  | made center hcenter hnone hv hu =>
    rename_i u
    have hfresh := fresh_id hm hd hcenter hnone hu
    have hmade : u.Made F digest m := ⟨pose, observedAtMs, observation.stateVersion, by rw [hu]; rfl, by rw [hu]; rfl,
      by rw [hu, ← hcenter]; rfl⟩
    have huframe : u.frameId = m.frameId ∧ u.scanEvidenceHistory = [] ∧ u.collisionSupports = [] ∧
        u.scanAttemptsEvicted = 0 := by
      rw [hu]
      exact ⟨rfl, rfl, rfl, rfl⟩
    have hlen : ({ m with revision := m.revision + 1 } : ProvisionalHazardMap).hazards.length ≤ maxHazardsPerMap := hm.length
    obtain ⟨hlt, heq⟩ | ⟨oldest, rest, hhazards, hfull, heq⟩ := ProvisionalHazardMap.insert_cases hlen u
    · rw [heq]
      exact hm.inserted hv (.inl rfl) hlt hmade huframe hfresh ⟨rfl, rfl, rfl⟩ rfl (by dsimp only; omega) le_rfl
        hm.attemptReason.2 hm.hazardReason
    · rw [heq]
      have hhazards' : m.hazards = oldest :: rest := hhazards
      have hrest : rest.length < maxHazardsPerMap := by
        rw [← hfull, hhazards, List.length_cons]
        omega
      have hcount := hm.attemptReason
      have hhazardCount := hm.hazardReason.1
      refine hm.inserted hv (.inr ⟨oldest, hhazards'⟩) hrest hmade huframe hfresh ⟨rfl, rfl, rfl⟩ rfl (by dsimp only; omega)
        (by dsimp only; omega) ⟨fun hzero => ?_, fun hpos => ?_⟩
        ⟨by dsimp only; omega, fun hzero => by dsimp only at hzero; omega, fun _ => nofun⟩
      · dsimp only at hzero ⊢
        rw [if_pos (by omega)]
        exact hcount.2.1 (by omega)
      · dsimp only at hpos ⊢
        split
        · exact hcount.2.2 (by omega)
        · nofun

theorem Bounded.ok {b : ScanBoundaries} (hb : Bounded b m m' h u) (hm : m.Ok F digest) : m'.Ok F digest := by
  have hput : ({ m.put u h.hypothesisId with revision := m.revision + 1 } : ProvisionalHazardMap).Ok F digest := by
    refine hm.put (t := some b.completedAtMs) hb.target (hb.became hm.toSound) ?_
    rw [hb.fields]
    exact ⟨rfl, rfl⟩
  rw [hb.after]
  exact hput

end

-- Every call

theorem ProvisionalHazardMap.Ok.revised (hm : m.Ok F digest) :
    ({ m with revision := m.revision + 1 } : ProvisionalHazardMap).Ok F digest :=
  { hm with
    revision := by
      have := hm.revision
      dsimp only
      omega }

theorem step_moves [LawfulPyMath F] (hm : m.Ok F digest) (hd : IdsDistinct digest) (op : HazardOp)
    (hf : op.FreshIn m) :
    ((hazardMachine F digest).step m op).2.Ok F digest ∧
      Moves F digest op m ((hazardMachine F digest).step m op).1 ((hazardMachine F digest).step m op).2 := by
  cases op with
  | observation pose observation t =>
    have htriple : Triple (recordObservation F digest pose observation t) m
        (Observed F digest pose observation t m) (fun e m' => m' = { m with revision := m.revision + 1 } ∧ e ≠ .diverges) :=
      recordObservation_triple hm.toSound
    change (recordObservation F digest pose observation t m).2.Ok F digest ∧ Moves F digest _ m
      (recordObservation F digest pose observation t m).1 (recordObservation F digest pose observation t m).2
    rcases hrun : recordObservation F digest pose observation t m with ⟨e | answer, m'⟩
    · obtain ⟨rfl, he⟩ := htriple.error hrun
      exact ⟨hm.revised, .failed e he (.inr ⟨rfl, rfl⟩)⟩
    · have ho := htriple.ok hrun
      exact ⟨ho.ok hm hd, ho.moves hm hd⟩
  | scanResult r pose =>
    have htriple := recordScanResult_triple pose hm hf
    change (recordScanResult F r pose m).2.Ok F digest ∧ Moves F digest _ m
      (recordScanResult F r pose m).1 (recordScanResult F r pose m).2
    rcases hrun : recordScanResult F r pose m with ⟨e | answer, m'⟩
    · obtain ⟨rfl, he⟩ := htriple.error hrun
      exact ⟨hm, .failed e he (.inl rfl)⟩
    · obtain ⟨⟨h, u, a, hr⟩, -⟩ := htriple.ok hrun
      have hfresh := hf hr.basis
      exact ⟨hr.ok hm hfresh, hr.moves hm.toSound hfresh answer⟩
  | scanBoundaries b =>
    have htriple := recordScanBoundaries_triple hm.toSound b
    change ((some <$> recordScanBoundaries b : MapProg _) m).2.Ok F digest ∧ Moves F digest _ m
      ((some <$> recordScanBoundaries b : MapProg _) m).1 ((some <$> recordScanBoundaries b : MapProg _) m).2
    rw [map_run]
    rcases hrun : recordScanBoundaries b m with ⟨e | u, m'⟩
    · obtain ⟨rfl, he⟩ := htriple.error hrun
      exact ⟨hm, .failed e he (.inl rfl)⟩
    · obtain ⟨h, hb⟩ := htriple.ok hrun
      exact ⟨hb.ok hm, hb.moves hm.toSound _⟩

end RobotLlm.Hazard
