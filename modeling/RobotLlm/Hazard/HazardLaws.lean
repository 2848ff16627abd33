import RobotLlm.Hazard.HazardMap

/-!
# Laws of one hypothesis

What the checks of a hypothesis accept comes out of them unchanged, and what a
scan or a bound makes of it passes them again. The newest support outlives
every selection.
-/

namespace RobotLlm.Hazard

open RobotLlm.Lib

-- What retention keeps

section
variable {attempts : List ScanAttemptEvidence} {limit : Nat}

theorem latestAttempts_subperm (attempts : List ScanAttemptEvidence) (limit : Nat) :
    (lastN limit (sortBy (·.completedAtMs) (latestBy (·.evidenceSignature) (fun _ _ => True) attempts))).Subperm
      attempts :=
  (lastN_sublist _ _).subperm.trans ((sortBy_perm _ _).subperm.trans (latestBy_subperm _))

theorem retainScanAttemptDiversity_ordered (attempts : List ScanAttemptEvidence) (limit : Nat) :
    Ordered (·.completedAtMs) (retainScanAttemptDiversity attempts limit) := sortBy_ordered _ _

theorem mem_retainScanAttemptDiversity {a : ScanAttemptEvidence} (h : a ∈ retainScanAttemptDiversity attempts limit) :
    a ∈ attempts := by
  have hlatest : ∀ x ∈ lastN limit (sortBy (·.completedAtMs)
      (latestBy (·.evidenceSignature) (fun _ _ => True) attempts)), x ∈ attempts :=
    fun x hx => (latestAttempts_subperm attempts limit).subset hx
  rw [retainScanAttemptDiversity, mem_sortBy] at h
  split at h
  · obtain h | h := List.mem_append.mp h
    · exact hlatest a h
    · exact List.mem_reverse.mp (List.mem_of_mem_filter (List.mem_of_mem_take h))
  · exact hlatest a h

theorem length_retainScanAttemptDiversity_le_limit (attempts : List ScanAttemptEvidence) (limit : Nat) :
    (retainScanAttemptDiversity attempts limit).length ≤ limit := by
  rw [retainScanAttemptDiversity, length_sortBy]
  split
  · simp only [List.length_append, List.length_take]
    omega
  · rw [length_lastN]
    exact Nat.min_le_left _ _

theorem length_retainScanAttemptDiversity_le (attempts : List ScanAttemptEvidence) (limit : Nat) :
    (retainScanAttemptDiversity attempts limit).length ≤ attempts.length := by
  rw [retainScanAttemptDiversity, length_sortBy]
  have hsub := latestAttempts_subperm attempts limit
  generalize lastN limit (sortBy (·.completedAtMs) (latestBy (·.evidenceSignature) (fun _ _ => True) attempts)) =
    retained at hsub
  split
  · have hall : retained.filter (fun item => decide (item.scanId ∈ retained.map (·.scanId))) = retained :=
      List.filter_eq_self.mpr fun x hx => decide_eq_true (List.mem_map_of_mem hx)
    have hin := (hsub.filter fun item => decide (item.scanId ∈ retained.map (·.scanId))).length_le
    have hout := attempts.length_eq_length_filter_add fun item => decide (item.scanId ∈ retained.map (·.scanId))
    have hrev : (attempts.reverse.filter fun item => decide (item.scanId ∉ retained.map (·.scanId))).length =
        (attempts.filter fun item => !decide (item.scanId ∈ retained.map (·.scanId))).length := by
      simp only [List.filter_reverse, List.length_reverse, decide_not]
    rw [hall] at hin
    simp only [List.length_append, List.length_take]
    omega
  · exact hsub.length_le

theorem retainScanAttemptDiversity_perm {attempts : List ScanAttemptEvidence} {limit : Nat}
    (hn : (attempts.map (·.evidenceSignature)).Nodup) (hlen : attempts.length ≤ limit) :
    (retainScanAttemptDiversity attempts limit).Perm attempts := by
  unfold retainScanAttemptDiversity
  dsimp only
  rw [latestBy_of_nodup hn, lastN_of_length_le (by rw [length_sortBy]; exact hlen)]
  have holder : attempts.reverse.filter
      (fun item => item.scanId ∉ (sortBy (·.completedAtMs) attempts).map (·.scanId)) = [] := by
    refine List.filter_eq_nil_iff.mpr fun item hitem => ?_
    have hmem : item.scanId ∈ (sortBy (·.completedAtMs) attempts).map (·.scanId) :=
      List.mem_map_of_mem ((mem_sortBy _).mpr (List.mem_reverse.mp hitem))
    simpa using hmem
  rw [holder, List.take_nil, List.append_nil, ite_self]
  exact (sortBy_perm _ _).trans (sortBy_perm _ _)

end

section
variable {supports : List AngularCollisionSupport} {limit : Nat}

theorem retainCollisionSupportDiversity_ordered (supports : List AngularCollisionSupport) (limit : Nat) :
    Ordered (·.order) (retainCollisionSupportDiversity supports limit) :=
  (sortBy_ordered _ _).sublist (lastN_sublist _ _)

theorem mem_retainCollisionSupportDiversity {s : AngularCollisionSupport}
    (h : s ∈ retainCollisionSupportDiversity supports limit) : s ∈ supports :=
  mem_latestBy ((mem_sortBy _).mp ((lastN_sublist _ _).subset h))

theorem length_retainCollisionSupportDiversity_le_limit (supports : List AngularCollisionSupport) (limit : Nat) :
    (retainCollisionSupportDiversity supports limit).length ≤ limit := by
  rw [retainCollisionSupportDiversity, length_lastN]
  exact Nat.min_le_left _ _

theorem nodup_retainCollisionSupportDiversity (supports : List AngularCollisionSupport) (limit : Nat) :
    ((retainCollisionSupportDiversity supports limit).map (·.spatialKey)).Nodup := by
  refine ((lastN_sublist _ _).map _).nodup ?_
  exact ((sortBy_perm _ _).map _).nodup_iff.mpr (nodup_latestBy _)

theorem exists_retainCollisionSupportDiversity (hl : 0 < limit) {s : AngularCollisionSupport} (h : s ∈ supports) :
    ∃ kept ∈ retainCollisionSupportDiversity supports limit, s.completedAtMs ≤ kept.completedAtMs := by
  obtain ⟨latest, hlatest, -, hfresh⟩ := exists_latestBy AngularCollisionSupport.spatialKey
    (fun new current : AngularCollisionSupport => current.freshness < new.freshness)
    (R := fun a b => a.freshness ≤ b.freshness) (fun a => le_refl _) (fun a b c => le_trans) (fun a b => le_of_lt)
    (fun a b _ => le_of_not_gt) h
  obtain ⟨kept, hkept, horder⟩ := (sortBy_ordered AngularCollisionSupport.order _).exists_lastN hl
    ((mem_sortBy AngularCollisionSupport.order).mpr hlatest)
  exact ⟨kept, hkept, (Prod.Lex.monotone_fst _ _ hfresh).trans (Prod.Lex.monotone_fst _ _ horder)⟩

end

-- What the checks accept

namespace HazardFields

structure Valid (f : HazardFields) : Prop where
  identity : f.IdentityOk
  bounds : f.BoundsOk
  readings : f.ReadingsOk
  scanValues : f.ScanValuesOk
  history : f.HistoryOk
  attemptEviction : f.AttemptEvictionOk
  supports : f.SupportsOk
  supportEviction : f.SupportEvictionOk
  contest : f.ContestOk

structure Settled (f : HazardFields) : Prop where
  supports : f.collisionSupports = [] → ∀ a ∈ f.scanEvidenceHistory, a.supports = []
  contest : ∀ a ∈ f.scanEvidenceHistory, a.hypothesisRelation = .conflictsBlockedHypothesis →
    ∃ contested, f.collisionContestedAtMs = some contested ∧ a.completedAtMs ≤ contested

variable {f : HazardFields}

theorem retain_nil (limit : Nat) : retainCollisionSupportDiversity [] limit = [] := by
  simp [retainCollisionSupportDiversity, latestBy, sortBy, lastN]

theorem Settled.materialize (h : f.Settled) : f.materialize = f := by
  unfold HazardFields.materialize
  by_cases hs : f.collisionSupports = []
  · have hnil : f.scanEvidenceHistory.flatMap (·.supports) = [] := List.flatMap_eq_nil_iff.mpr (h.supports hs)
    rw [if_pos hs, collisionSupportsFromAttempts, hnil, retain_nil, ← hs]
  · rw [if_neg hs]

theorem mem_historyConflict {t : Int} (h : f.historyConflict = some t) :
    ∃ a ∈ f.scanEvidenceHistory, a.hypothesisRelation = .conflictsBlockedHypothesis ∧ a.completedAtMs = t := by
  obtain ⟨a, ha, rfl⟩ := List.mem_map.mp (List.max?_mem h)
  obtain ⟨hmem, hrel⟩ := List.mem_filter.mp ha
  exact ⟨a, hmem, of_decide_eq_true hrel, rfl⟩

theorem Settled.contested (h : f.Settled) : f.contest = f := by
  unfold HazardFields.contest
  cases hc : f.historyConflict with
  | none =>
    cases hf : f.collisionContestedAtMs <;> simp only <;> rw [← hf]
  | some t =>
    obtain ⟨a, ha, hrel, rfl⟩ := mem_historyConflict hc
    obtain ⟨contested, hcontested, hle⟩ := h.contest a ha hrel
    rw [hcontested]
    simp only [max_eq_left hle, ← hcontested]

theorem postInit_settled (hs : f.Settled) {g : HazardFields} : f.postInit = .ok g ↔ f.Valid ∧ g = f := by
  unfold postInit
  rw [hs.materialize, hs.contested]
  constructor
  · intro h
    split_ifs at h with h1 h2 h3 h4 h5 h6 h7 h8 h9
    exact ⟨⟨h1, h2, h3, h4, h5, h6, h7, h8, h9⟩, (Except.ok.inj h).symm⟩
  · rintro ⟨hv, rfl⟩
    simp [hv.identity, hv.bounds, hv.readings, hv.scanValues, hv.history, hv.attemptEviction, hv.supports,
      hv.supportEviction, hv.contest]

end HazardFields

theorem ProvisionalHazard.new_settled {f : HazardFields} (hs : f.Settled) {u : ProvisionalHazard} :
    ProvisionalHazard.new f = .ok u ↔ f.Valid ∧ u.toHazardFields = f := by
  unfold ProvisionalHazard.new
  constructor
  · intro h
    split at h
    · rename_i fields hf
      obtain ⟨hv, rfl⟩ := (HazardFields.postInit_settled hs).mp hf
      cases h
      exact ⟨hv, rfl⟩
    · cases h
  · rintro ⟨hv, rfl⟩
    have hok := (HazardFields.postInit_settled hs (g := u.toHazardFields)).mpr ⟨hv, rfl⟩
    split
    · rename_i fields hf
      obtain rfl := Except.ok.inj (hok.symm.trans hf)
      rfl
    · rename_i e he
      cases hok.symm.trans he

theorem ProvisionalHazard.exists_new {f : HazardFields} (hv : f.Valid) (hs : f.Settled) :
    ∃ u, ProvisionalHazard.new f = .ok u ∧ u.toHazardFields = f :=
  ⟨⟨f, f, (HazardFields.postInit_settled hs).mpr ⟨hv, rfl⟩⟩, (ProvisionalHazard.new_settled hs).mpr ⟨hv, rfl⟩, rfl⟩

-- The collision check

/-- Some support of the hypothesis is newer than `t`. -/
def ProvisionalHazard.SupportedSince (h : ProvisionalHazard) (t : Int) : Prop := ∃ s ∈ h.collisionSupports, t < s.completedAtMs

theorem lt_getD_max {l : List AngularCollisionSupport} {t : Int} (ht : -1 ≤ t) :
    t < ((l.map (·.completedAtMs)).max?).getD (-1) ↔ ∃ s ∈ l, t < s.completedAtMs := by
  cases hm : (l.map (·.completedAtMs)).max? with
  | none =>
    obtain rfl : l = [] := List.map_eq_nil_iff.mp (List.max?_eq_none_iff.mp hm)
    simp only [Option.getD_none, List.not_mem_nil, false_and, exists_false, iff_false]
    omega
  | some best =>
    rw [Option.getD_some]
    constructor
    · intro h
      obtain ⟨s, hs, rfl⟩ := List.mem_map.mp (List.max?_mem hm)
      exact ⟨s, hs, h⟩
    · rintro ⟨s, hs, h⟩
      exact lt_of_lt_of_le h ((List.max?_le_iff hm).mp le_rfl _ (List.mem_map_of_mem hs))

theorem ProvisionalHazard.activeForCollision_iff {h : ProvisionalHazard} (hv : h.Valid) :
    h.activeForCollision = true ↔ ∀ contested, h.collisionContestedAtMs = some contested →
      contested < h.lastSeenAtMs ∨ h.SupportedSince contested ∨ h.bilateralScanComplete = true := by
  unfold ProvisionalHazard.activeForCollision
  cases hc : h.collisionContestedAtMs with
  | none => simp
  | some contested =>
    have hpos : 0 ≤ contested := hv.bounds.2.1.trans (hv.contest contested (by simp [hc]))
    have hboundary : contested < h.latestBilateralBoundaryAtMs ↔ h.bilateralScanComplete = true := by
      unfold ProvisionalHazard.latestBilateralBoundaryAtMs
      cases hb : h.bilateralScanComplete with
      | false => simp only [Bool.false_eq_true, ↓reduceIte, iff_false]; omega
      | true =>
        simp only [↓reduceIte, iff_true]
        unfold ProvisionalHazard.bilateralScanComplete at hb
        split at hb
        · rename_i completed left right hcompleted _ _
          simp only [hc, Bool.and_eq_true, decide_eq_true_eq] at hb
          simpa [hcompleted] using hb.2
        · cases hb
    have hsupport : contested < h.latestBlockedSupportAtMs ↔ h.SupportedSince contested :=
      lt_getD_max (by omega)
    simp only [decide_eq_true_eq, lt_max_iff, hboundary, hsupport, Option.some.injEq, forall_eq']
    exact or_assoc

/-- `u` is contested no later than `h` and supported at least as lately. -/
structure ProvisionalHazard.Upholds (u h : ProvisionalHazard) : Prop where
  contest : u.collisionContestedAtMs = h.collisionContestedAtMs
  lastSeen : h.lastSeenAtMs ≤ u.lastSeenAtMs
  supports : ∀ s ∈ h.collisionSupports, ∃ kept ∈ u.collisionSupports, s.completedAtMs ≤ kept.completedAtMs
  bilateral : h.bilateralScanComplete = true → u.bilateralScanComplete = true

namespace ProvisionalHazard.Upholds

variable {h u w : ProvisionalHazard}

theorem refl (h : ProvisionalHazard) : h.Upholds h := ⟨rfl, le_refl _, fun s hs => ⟨s, hs, le_refl _⟩, id⟩

theorem trans (hw : w.Upholds u) (hu : u.Upholds h) : w.Upholds h where
  contest := hw.contest.trans hu.contest
  lastSeen := hu.lastSeen.trans hw.lastSeen
  supports s hs := by
    obtain ⟨kept, hkept, hle⟩ := hu.supports s hs
    obtain ⟨kept', hkept', hle'⟩ := hw.supports kept hkept
    exact ⟨kept', hkept', hle.trans hle'⟩
  bilateral h := hw.bilateral (hu.bilateral h)

theorem active (hu : u.Upholds h) (hv : h.Valid) (hv' : u.Valid) (ha : h.activeForCollision = true) :
    u.activeForCollision = true := by
  rw [activeForCollision_iff hv] at ha
  rw [activeForCollision_iff hv']
  intro contested hc
  obtain hlast | ⟨s, hs, hlt⟩ | hb := ha contested (hu.contest ▸ hc)
  · exact .inl (hlast.trans_le hu.lastSeen)
  · obtain ⟨kept, hkept, hle⟩ := hu.supports s hs
    exact .inr (.inl ⟨kept, hkept, hlt.trans_le hle⟩)
  · exact .inr (.inr (hu.bilateral hb))

end ProvisionalHazard.Upholds

-- A recorded attempt

theorem ScanAttemptEvidence.fromScanResult_ok {r : ActiveIrScanResult} {pose : PhysicalPose} {a : ScanAttemptEvidence}
    (h : ScanAttemptEvidence.fromScanResult r pose = .ok a) :
    a.scanId = r.scanId ∧ a.completedAtMs = r.completedAtMs ∧ a.rays = r.rays ∧ a.leftBoundaryMdeg = r.leftBoundaryMdeg ∧
      a.basedOnMapVersion = some r.basedOnMapVersion := by
  unfold ScanAttemptEvidence.fromScanResult at h
  split at h
  · cases h
  · unfold ScanAttemptEvidence.new at h
    split_ifs at h
    cases h
    exact ⟨rfl, rfl, rfl, rfl, rfl⟩

theorem transitions_of_clear {rays : List ScanRayEvidence} (h : ∀ ray ∈ rays, ray.blocked = false) : transitions rays = [] := by
  unfold transitions
  rw [List.filterMap_eq_nil_iff]
  rintro ⟨first, second⟩ hmem
  obtain ⟨hfirst, hsecond⟩ := List.of_mem_zip hmem
  have h1 := h first ((mem_sortBy _).mp hfirst)
  have h2 := h second ((mem_sortBy _).mp (List.mem_of_mem_tail hsecond))
  simp [h1, h2]

namespace ScanAttemptEvidence

variable {a : ScanAttemptEvidence}

theorem SeesNothing.clear (h : a.SeesNothing) : ∀ ray ∈ a.rays, ray.blocked = false := by
  have hpattern := h.1
  unfold observationPattern at hpattern
  dsimp only at hpattern
  split_ifs at hpattern with hnil hzero
  intro ray hray
  simpa using List.countP_eq_zero.mp hzero ray hray

theorem SeesNothing.leftBoundary (h : a.SeesNothing) : a.leftBoundaryMdeg = none := by
  cases hl : a.leftBoundaryMdeg with
  | none => rfl
  | some left =>
    have hmem := (a.boundaries_valid.1 left (by simp [hl])).2
    rw [transitions_of_clear h.clear] at hmem
    cases hmem

theorem SeesNothing.supports (h : a.SeesNothing) : a.supports = [] := by
  have hrel : a.hypothesisRelation ≠ .supportsBlockedHypothesis := by
    unfold hypothesisRelation
    rw [if_pos h]
    split <;> nofun
  unfold ScanAttemptEvidence.supports
  split
  · rw [if_pos hrel]
  · rfl

theorem seesNothing_of_conflicts (h : a.hypothesisRelation = .conflictsBlockedHypothesis) :
    a.SeesNothing ∧ a.allClearArcCoversTargetHypothesis = some true := by
  unfold hypothesisRelation at h
  split_ifs at h with hs hc
  exact ⟨hs, hc⟩

theorem mem_supports {s : AngularCollisionSupport} (h : s ∈ a.supports) :
    s.sourceScanId = a.scanId ∧ s.completedAtMs = a.completedAtMs ∧ a.basedOnMapVersion = some s.basedOnMapVersion := by
  unfold ScanAttemptEvidence.supports at h
  split at h
  · rename_i pose version hp hv
    split_ifs at h
    · cases h
    · obtain ⟨ray, -, rfl⟩ := List.mem_map.mp h
      exact ⟨rfl, rfl, hv⟩
  · cases h

end ScanAttemptEvidence

section
variable {F : Type} [PyMath F] {c : HazardMapCalibration} {h : ProvisionalHazard} {a : ScanAttemptEvidence}

theorem recordedAttempt_scanId : (recordedAttempt F c h a).scanId = a.scanId := by
  unfold recordedAttempt
  split <;> rfl

theorem recordedAttempt_completedAtMs : (recordedAttempt F c h a).completedAtMs = a.completedAtMs := by
  unfold recordedAttempt
  split <;> rfl

theorem recordedAttempt_of_no_rays {F : Type} [PyMath F] {c : HazardMapCalibration} {h : ProvisionalHazard}
    {a : ScanAttemptEvidence} (ha : a.rays = []) : recordedAttempt F c h a = a ∧ a.supports = [] := by
  have hpattern : ¬ a.SeesNothing := by
    rintro ⟨hclear, -⟩
    rw [ScanAttemptEvidence.observationPattern, if_pos ha] at hclear
    cases hclear
  refine ⟨if_neg hpattern, ?_⟩
  have hrelation : a.hypothesisRelation = .noEvidence := by
    rw [ScanAttemptEvidence.hypothesisRelation, if_neg hpattern, ha]
    rfl
  unfold ScanAttemptEvidence.supports
  split
  · rw [if_pos (by rw [hrelation]; decide)]
  · rfl

theorem recordedAttempt_conflicts (hc : (recordedAttempt F c h a).hypothesisRelation = .conflictsBlockedHypothesis) :
    a.SeesNothing ∧ allClearArcCoversHazard F c h a = true := by
  obtain ⟨hs, hcovers⟩ := ScanAttemptEvidence.seesNothing_of_conflicts hc
  unfold recordedAttempt at hs hcovers
  split_ifs at hs hcovers with hn
  · exact ⟨hn, Option.some.inj hcovers⟩
  · exact absurd hs hn

end

namespace HazardFields

variable {f : HazardFields}

theorem Valid.withAttempts (hv : f.Valid) (history : List ScanAttemptEvidence) (evicted : Int)
    (reason : Option ScanEvictionReason) (hl : history.length ≤ maxScanAttemptsPerHazard)
    (ho : Ordered (·.completedAtMs) history) (he : f.scanAttemptsEvicted ≤ evicted)
    (hr : reason = f.scanAttemptsEvictionReason ∧ evicted = f.scanAttemptsEvicted ∨
      f.scanAttemptsEvicted < evicted ∧ (reason = some .perHazardCapacity ∨ reason = some .mapCapacity)) :
    { f with
      scanEvidenceHistory := history
      scanAttemptsEvicted := evicted
      scanAttemptsEvictionReason := reason : HazardFields }.Valid := by
  obtain ⟨hpos, hzero, hsome⟩ := hv.attemptEviction
  refine ⟨hv.identity, hv.bounds, hv.readings, hv.scanValues, ⟨hl, (sortBy_eq_self _).mpr ho⟩,
    ⟨hpos.trans he, fun h => ?_, fun h => ?_⟩, hv.supports, hv.supportEviction, hv.contest⟩
  · obtain ⟨rfl, rfl⟩ | ⟨hlt, -⟩ := hr
    · exact hzero h
    · dsimp only at h
      omega
  · obtain ⟨rfl, rfl⟩ | ⟨-, hreason⟩ := hr
    · exact hsome h
    · exact hreason

theorem Valid.withSupports (hv : f.Valid) (supports : List AngularCollisionSupport) (evicted : Int)
    (reason : Option SupportEvictionReason) (hl : supports.length ≤ maxCollisionSupportsPerHazard)
    (ho : Ordered (·.order) supports) (hn : (supports.map (·.spatialKey)).Nodup) (he : f.collisionSupportsEvicted ≤ evicted)
    (hr : reason = f.collisionSupportsEvictionReason ∧ evicted = f.collisionSupportsEvicted ∨
      f.collisionSupportsEvicted < evicted ∧ reason ≠ none) :
    { f with
      collisionSupports := supports
      collisionSupportsEvicted := evicted
      collisionSupportsEvictionReason := reason : HazardFields }.Valid := by
  obtain ⟨hpos, hzero, hsome⟩ := hv.supportEviction
  refine ⟨hv.identity, hv.bounds, hv.readings, hv.scanValues, hv.history, hv.attemptEviction,
    ⟨hl, (sortBy_eq_self _).mpr ho, hn⟩, ⟨hpos.trans he, fun h => ?_, fun h => ?_⟩, hv.contest⟩
  · obtain ⟨rfl, rfl⟩ | ⟨hlt, -⟩ := hr
    · exact hzero h
    · dsimp only at h
      omega
  · obtain ⟨rfl, rfl⟩ | ⟨-, hreason⟩ := hr
    · exact hsome h
    · exact hreason

theorem Valid.keepAttempts (hv : f.Valid) (candidates : List ScanAttemptEvidence) : (f.keepAttempts candidates).Valid := by
  refine hv.withAttempts _ _ _ (length_retainScanAttemptDiversity_le_limit _ _) (retainScanAttemptDiversity_ordered _ _)
    (by omega) ?_
  split
  · exact .inl ⟨rfl, by omega⟩
  · exact .inr ⟨by omega, .inl rfl⟩

theorem keepAttempts_account (f : HazardFields) (candidates : List ScanAttemptEvidence) :
    ((f.keepAttempts candidates).scanEvidenceHistory.length : Int) + (f.keepAttempts candidates).scanAttemptsEvicted =
      candidates.length + f.scanAttemptsEvicted := by
  have hle := length_retainScanAttemptDiversity_le candidates maxScanAttemptsPerHazard
  unfold HazardFields.keepAttempts
  dsimp only
  omega

theorem Valid.keepSupports (hv : f.Valid) (candidates : List AngularCollisionSupport) :
    (f.keepSupports candidates).Valid := by
  refine hv.withSupports _ _ _ (length_retainCollisionSupportDiversity_le_limit _ _)
    (retainCollisionSupportDiversity_ordered _ _) (nodup_retainCollisionSupportDiversity _ _) (by omega) ?_
  split
  · exact .inl ⟨rfl, by omega⟩
  · exact .inr ⟨by omega, nofun⟩

-- The outcome.

theorem Valid.settleOutcome (hv : f.Valid) {r : ActiveIrScanResult} {a : ScanAttemptEvidence}
    (ha : f.firstSeenAtMs ≤ a.completedAtMs) : (f.settleOutcome r a).Valid := by
  unfold HazardFields.settleOutcome
  split_ifs with hb hc
  · obtain ⟨-, -, -, ⟨left, hleft, -⟩, right, hright, -⟩ := hb
    have hvalues : ScanValuesOk { f with
        scanCompletedAtMs := some r.completedAtMs
        scanLeftBoundaryMdeg := r.leftBoundaryMdeg
        scanRightBoundaryMdeg := r.rightBoundaryMdeg } := by
      rw [Option.mem_def] at hleft hright
      exact ⟨by simp [hleft], by simp [hright]⟩
    exact ⟨hv.identity, hv.bounds, hv.readings, hvalues, hv.history, hv.attemptEviction, hv.supports, hv.supportEviction,
      hv.contest⟩
  · have hcontest : ContestOk { f with
        scanCompletedAtMs := none
        scanLeftBoundaryMdeg := none
        scanRightBoundaryMdeg := none
        collisionContestedAtMs := some (max (f.collisionContestedAtMs.getD 0) a.completedAtMs) } := by
      intro contested hmem
      obtain rfl := List.mem_singleton.mp hmem
      exact ha.trans (le_max_right _ _)
    exact ⟨hv.identity, hv.bounds, hv.readings, ⟨rfl, rfl⟩, hv.history, hv.attemptEviction, hv.supports, hv.supportEviction,
      hcontest⟩
  · exact hv

/-- What a hypothesis keeps for as long as it is in the map. -/
structure SameOrigin (g f : HazardFields) : Prop where
  hypothesisId : g.hypothesisId = f.hypothesisId
  frameId : g.frameId = f.frameId
  firstSeen : g.firstSeenAtMs = f.firstSeenAtMs
  heading : g.anchorHeadingMdeg = f.anchorHeadingMdeg
  center : (g.centroidXMm, g.centroidYMm) = (f.centroidXMm, f.centroidYMm)

theorem SameOrigin.trans {g k : HazardFields} (h : k.SameOrigin g) (h' : g.SameOrigin f) : k.SameOrigin f :=
  ⟨h.1.trans h'.1, h.2.trans h'.2, h.3.trans h'.3, h.4.trans h'.4, h.5.trans h'.5⟩

theorem settleOutcome_frame (f : HazardFields) (r : ActiveIrScanResult) (a : ScanAttemptEvidence) :
    f.settleOutcome r a = { f with
      scanCompletedAtMs := (f.settleOutcome r a).scanCompletedAtMs
      scanLeftBoundaryMdeg := (f.settleOutcome r a).scanLeftBoundaryMdeg
      scanRightBoundaryMdeg := (f.settleOutcome r a).scanRightBoundaryMdeg
      collisionContestedAtMs := (f.settleOutcome r a).collisionContestedAtMs } := by
  unfold HazardFields.settleOutcome
  split_ifs <;> rfl

end HazardFields

section
variable {r : ActiveIrScanResult} {h u : ProvisionalHazard} {a : ScanAttemptEvidence}

theorem recordedFields_scanEvidenceHistory : (recordedFields r h a).scanEvidenceHistory =
    retainScanAttemptDiversity (h.scanEvidenceHistory ++ [a]) maxScanAttemptsPerHazard := by
  rw [recordedFields, HazardFields.settleOutcome_frame]
  rfl

theorem recordedFields_collisionSupports : (recordedFields r h a).collisionSupports =
    retainCollisionSupportDiversity (h.collisionSupports ++ a.supports) maxCollisionSupportsPerHazard := by
  rw [recordedFields, HazardFields.settleOutcome_frame]
  simp only [HazardFields.keepSupports]

theorem recordedFields_sameOrigin : (recordedFields r h a).SameOrigin h.toHazardFields := by
  rw [recordedFields, HazardFields.settleOutcome_frame]
  simp only [HazardFields.keepSupports, HazardFields.keepAttempts]
  exact ⟨rfl, rfl, rfl, rfl, rfl⟩

theorem recordedFields_account : ((recordedFields r h a).scanEvidenceHistory.length : Int) +
    (recordedFields r h a).scanAttemptsEvicted = h.scanEvidenceHistory.length + h.scanAttemptsEvicted + 1 := by
  have haccount := h.toHazardFields.keepAttempts_account (h.scanEvidenceHistory ++ [a])
  rw [List.length_append, List.length_singleton] at haccount
  rw [recordedFields, HazardFields.settleOutcome_frame]
  change (((h.keepAttempts (h.scanEvidenceHistory ++ [a])).scanEvidenceHistory.length : Int) +
    (h.keepAttempts (h.scanEvidenceHistory ++ [a])).scanAttemptsEvicted = _)
  omega

theorem recordedFields_valid (hv : h.Valid) (ha : h.firstSeenAtMs ≤ a.completedAtMs) : (recordedFields r h a).Valid :=
  ((hv.keepAttempts _).keepSupports _).settleOutcome ha

theorem recordedFields_contest (hb : a.hypothesisRelation = .conflictsBlockedHypothesis → ¬ r.BilateralComplete) :
    (recordedFields r h a).collisionContestedAtMs =
      if a.hypothesisRelation = .conflictsBlockedHypothesis then
        some (max (h.collisionContestedAtMs.getD 0) a.completedAtMs)
      else h.collisionContestedAtMs := by
  unfold recordedFields HazardFields.settleOutcome
  split_ifs with hcomplete hc hc
  · exact absurd hcomplete (hb hc)
  · rfl
  · rfl
  · rfl

theorem recordedFields_settled (hs : h.Settled)
    (hb : a.hypothesisRelation = .conflictsBlockedHypothesis → ¬ r.BilateralComplete) : (recordedFields r h a).Settled where
  supports hnil := by
    have hall : h.collisionSupports ++ a.supports = [] := by
      rw [List.eq_nil_iff_forall_not_mem]
      intro s hmem
      have hroom : 0 < maxCollisionSupportsPerHazard := by decide
      obtain ⟨kept, hkept, -⟩ := exists_retainCollisionSupportDiversity hroom hmem
      rw [← recordedFields_collisionSupports (r := r), hnil] at hkept
      cases hkept
    obtain ⟨hold, hnew⟩ := List.append_eq_nil_iff.mp hall
    intro item hitem
    rw [recordedFields_scanEvidenceHistory] at hitem
    obtain hitem | hitem := List.mem_append.mp (mem_retainScanAttemptDiversity hitem)
    · exact hs.supports hold item hitem
    · rw [List.mem_singleton.mp hitem]
      exact hnew
  contest item hitem hrel := by
    rw [recordedFields_contest hb]
    rw [recordedFields_scanEvidenceHistory] at hitem
    obtain hitem | hitem := List.mem_append.mp (mem_retainScanAttemptDiversity hitem)
    · obtain ⟨contested, hcontested, hle⟩ := hs.contest item hitem hrel
      split_ifs
      · exact ⟨_, rfl, by rw [hcontested, Option.getD_some]; exact hle.trans (le_max_left _ _)⟩
      · exact ⟨contested, hcontested, hle⟩
    · obtain rfl := List.mem_singleton.mp hitem
      rw [if_pos hrel]
      exact ⟨_, rfl, le_max_right _ _⟩

theorem recordedFields_upholds (hu : u.toHazardFields = recordedFields r h a)
    (ha : a.hypothesisRelation ≠ .conflictsBlockedHypothesis)
    (ht : ∀ completed, h.scanCompletedAtMs = some completed → completed ≤ r.completedAtMs) : u.Upholds h where
  contest := by
    rw [hu, recordedFields_contest fun hc => absurd hc ha, if_neg ha]
  lastSeen := by
    have hlast : (recordedFields r h a).lastSeenAtMs = h.lastSeenAtMs := by
      rw [recordedFields, HazardFields.settleOutcome_frame]
      simp only [HazardFields.keepSupports, HazardFields.keepAttempts]
    rw [hu, hlast]
  supports s hs := by
    rw [hu, recordedFields_collisionSupports]
    exact exists_retainCollisionSupportDiversity (by decide) (List.mem_append_left _ hs)
  bilateral hb := by
    have hcontest : u.collisionContestedAtMs = h.collisionContestedAtMs := by
      rw [hu, recordedFields_contest fun hc => absurd hc ha, if_neg ha]
    unfold ProvisionalHazard.bilateralScanComplete at hb ⊢
    rw [hcontest, hu]
    unfold recordedFields HazardFields.settleOutcome
    rw [if_neg ha]
    split_ifs with hcomplete
    · obtain ⟨-, -, -, ⟨left, hleft, hpos⟩, right, hright, hneg⟩ := hcomplete
      rw [Option.mem_def] at hleft hright
      split at hb
      · rename_i completed _ _ hold _ _
        have hle := ht completed hold
        simp only [hleft, hright, Bool.and_eq_true, decide_eq_true_eq]
        refine ⟨⟨hpos, hneg⟩, ?_⟩
        cases hc : h.collisionContestedAtMs with
        | none => rfl
        | some contested =>
          simp only [hc, Bool.and_eq_true, decide_eq_true_eq] at hb ⊢
          omega
      · cases hb
    · exact hb

end

-- What the bounds of the map take away

/-- `u` is `h` with less evidence: what is gone is counted, and the newest
support is still there if those of the protected scan are the newest. -/
structure ProvisionalHazard.Trims (protectedId : String) (u h : ProvisionalHazard) : Prop where
  frame : { u.toHazardFields with
      scanEvidenceHistory := h.scanEvidenceHistory
      scanAttemptsEvicted := h.scanAttemptsEvicted
      scanAttemptsEvictionReason := h.scanAttemptsEvictionReason
      collisionSupports := h.collisionSupports
      collisionSupportsEvicted := h.collisionSupportsEvicted
      collisionSupportsEvictionReason := h.collisionSupportsEvictionReason } = h.toHazardFields
  valid : u.Valid
  settled : u.Settled
  history : u.scanEvidenceHistory.Sublist h.scanEvidenceHistory
  supports : u.collisionSupports.Sublist h.collisionSupports
  account : (u.scanEvidenceHistory.length : Int) + u.scanAttemptsEvicted = h.scanEvidenceHistory.length + h.scanAttemptsEvicted
  newest : (∀ p ∈ h.collisionSupports, p.sourceScanId = protectedId → ∀ s ∈ h.collisionSupports, s.completedAtMs ≤ p.completedAtMs) →
    ∀ s ∈ h.collisionSupports, ∃ kept ∈ u.collisionSupports, s.completedAtMs ≤ kept.completedAtMs

namespace ProvisionalHazard.Trims

variable {protectedId : String} {h u w : ProvisionalHazard}

theorem refl (hv : h.Valid) (hs : h.Settled) : h.Trims protectedId h :=
  ⟨rfl, hv, hs, List.Sublist.refl _, List.Sublist.refl _, rfl, fun _ s hs => ⟨s, hs, le_refl _⟩⟩

theorem trans (hw : w.Trims protectedId u) (hu : u.Trims protectedId h) : w.Trims protectedId h where
  frame := by
    rw [← hu.frame, ← hw.frame]
  valid := hw.valid
  settled := hw.settled
  history := hw.history.trans hu.history
  supports := hw.supports.trans hu.supports
  account := hw.account.trans hu.account
  newest hnew s hs := by
    obtain ⟨kept, hkept, hle⟩ := hu.newest hnew s hs
    obtain ⟨kept', hkept', hle'⟩ := hw.newest
      (fun p hp hpid s hs => hnew p (hu.supports.subset hp) hpid s (hu.supports.subset hs)) kept hkept
    exact ⟨kept', hkept', hle.trans hle'⟩

theorem sameOrigin (hu : u.Trims protectedId h) : u.SameOrigin h.toHazardFields := by
  rw [← hu.frame]
  exact ⟨rfl, rfl, rfl, rfl, rfl⟩

theorem scanCompletedAtMs (hu : u.Trims protectedId h) : u.scanCompletedAtMs = h.scanCompletedAtMs := by
  rw [← hu.frame]

theorem upholds (hu : u.Trims protectedId h)
    (hnew : ∀ p ∈ h.collisionSupports, p.sourceScanId = protectedId → ∀ s ∈ h.collisionSupports, s.completedAtMs ≤ p.completedAtMs) :
    u.Upholds h where
  contest := by
    rw [← hu.frame]
  lastSeen := by
    rw [← hu.frame]
  supports := hu.newest hnew
  bilateral hb := by
    unfold ProvisionalHazard.bilateralScanComplete at hb ⊢
    rw [← hu.frame] at hb
    exact hb

end ProvisionalHazard.Trims

section
variable {protectedId : String} {h u : ProvisionalHazard}

variable (protectedId) in
theorem trims_attempt (hv : h.Valid) (hs : h.Settled) {a : ScanAttemptEvidence} (ha : a ∈ h.scanEvidenceHistory) :
    ∃ u, ProvisionalHazard.new { h.toHazardFields with
        scanEvidenceHistory := h.scanEvidenceHistory.erase a
        scanAttemptsEvicted := h.scanAttemptsEvicted + 1
        scanAttemptsEvictionReason := some .mapCapacity } = .ok u ∧
      u.Trims protectedId h ∧ u.scanEvidenceHistory.length + 1 = h.scanEvidenceHistory.length ∧
      u.scanAttemptsEvicted = h.scanAttemptsEvicted + 1 ∧ u.collisionSupports = h.collisionSupports := by
  have hsub : (h.scanEvidenceHistory.erase a).Sublist h.scanEvidenceHistory := List.erase_sublist
  have hlen : (h.scanEvidenceHistory.erase a).length + 1 = h.scanEvidenceHistory.length := List.length_erase_add_one ha
  have hold : Ordered (·.completedAtMs) h.scanEvidenceHistory := (sortBy_eq_self _).mp hv.history.2
  have hvalid := hv.withAttempts (h.scanEvidenceHistory.erase a) (h.scanAttemptsEvicted + 1) (some .mapCapacity)
    (hsub.length_le.trans hv.history.1) (hold.sublist hsub) (by omega)
    (.inr ⟨by omega, .inr rfl⟩)
  have hsettled : ({ h.toHazardFields with
      scanEvidenceHistory := h.scanEvidenceHistory.erase a
      scanAttemptsEvicted := h.scanAttemptsEvicted + 1
      scanAttemptsEvictionReason := some .mapCapacity } : HazardFields).Settled :=
    ⟨fun hnil item hitem => hs.supports hnil item (hsub.subset hitem),
      fun item hitem => hs.contest item (hsub.subset hitem)⟩
  obtain ⟨u, hnew, hu⟩ := ProvisionalHazard.exists_new hvalid hsettled
  refine ⟨u, hnew, ⟨?_, hu ▸ hvalid, hu ▸ hsettled, ?_, ?_, ?_, ?_⟩, ?_, ?_, ?_⟩ <;> rw [hu]
  · exact hsub
  · dsimp only
    omega
  · exact fun _ s hs => ⟨s, hs, le_refl _⟩
  · exact hlen

variable (protectedId) in
theorem trims_support (hv : h.Valid) (hs : h.Settled) {s : AngularCollisionSupport} (hmem : s ∈ h.collisionSupports)
    (hseveral : 1 < h.collisionSupports.length)
    (holdest : ∀ s' ∈ h.collisionSupports, s'.sourceScanId ≠ protectedId → s.completedAtMs ≤ s'.completedAtMs) :
    ∃ u, ProvisionalHazard.new { h.toHazardFields with
        collisionSupports := h.collisionSupports.filter (· ≠ s)
        collisionSupportsEvicted := h.collisionSupportsEvicted + 1
        collisionSupportsEvictionReason := some .mapCapacity } = .ok u ∧
      u.Trims protectedId h ∧ u.collisionSupports.length + 1 = h.collisionSupports.length ∧
      u.scanEvidenceHistory = h.scanEvidenceHistory ∧ u.scanAttemptsEvicted = h.scanAttemptsEvicted := by
  obtain ⟨hle, hsorted, hnodup⟩ := hv.supports
  have hlist : h.collisionSupports.Nodup := List.Nodup.of_map _ hnodup
  have hfilter : h.collisionSupports.filter (· ≠ s) = h.collisionSupports.erase s := by
    rw [hlist.erase_eq_filter]
    exact List.filter_congr fun x _ => by simp only [bne, beq_eq_decide, decide_not]
  have hsub : (h.collisionSupports.filter (· ≠ s)).Sublist h.collisionSupports := List.filter_sublist
  have hlen : (h.collisionSupports.filter (· ≠ s)).length + 1 = h.collisionSupports.length := by
    rw [hfilter]
    exact List.length_erase_add_one hmem
  have hold : Ordered (·.order) h.collisionSupports := (sortBy_eq_self _).mp hsorted
  have hvalid := hv.withSupports (h.collisionSupports.filter (· ≠ s)) (h.collisionSupportsEvicted + 1) (some .mapCapacity)
    (hsub.length_le.trans hle)
    (hold.sublist hsub) ((hsub.map _).nodup hnodup) (by omega) (.inr ⟨by omega, nofun⟩)
  have hsettled : ({ h.toHazardFields with
      collisionSupports := h.collisionSupports.filter (· ≠ s)
      collisionSupportsEvicted := h.collisionSupportsEvicted + 1
      collisionSupportsEvictionReason := some .mapCapacity } : HazardFields).Settled :=
    ⟨fun hnil => by dsimp only at hnil; rw [hnil, List.length_nil] at hlen; omega, hs.contest⟩
  have hnewest : (∀ p ∈ h.collisionSupports, p.sourceScanId = protectedId →
      ∀ s ∈ h.collisionSupports, s.completedAtMs ≤ p.completedAtMs) →
      ∀ x ∈ h.collisionSupports, ∃ kept ∈ h.collisionSupports.filter (· ≠ s), x.completedAtMs ≤ kept.completedAtMs := by
    intro hprotected x hx
    by_cases hxs : x = s
    · subst hxs
      -- some other support stays: an unprotected one is no older, a protected one is among the newest
      obtain ⟨y, hy⟩ := List.exists_mem_of_length_pos (l := h.collisionSupports.filter (· ≠ x)) (by omega)
      refine ⟨y, hy, ?_⟩
      have hymem := hsub.subset hy
      by_cases hyid : y.sourceScanId = protectedId
      · exact hprotected y hymem hyid x hx
      · exact holdest y hymem hyid
    · exact ⟨x, List.mem_filter.mpr ⟨hx, decide_eq_true hxs⟩, le_refl _⟩
  obtain ⟨u, hnew, hu⟩ := ProvisionalHazard.exists_new hvalid hsettled
  refine ⟨u, hnew, ⟨?_, hu ▸ hvalid, hu ▸ hsettled, ?_, ?_, ?_, ?_⟩, ?_, ?_, ?_⟩ <;> rw [hu]
  · exact hsub
  · exact hnewest
  · exact hlen

end

end RobotLlm.Hazard
