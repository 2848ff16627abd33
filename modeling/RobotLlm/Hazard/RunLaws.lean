import RobotLlm.Hazard.HazardMapLaws

/-!
# Runs of the hazard map

From an empty map on, whatever is recorded is in the map or counted, and a
hypothesis leaves the collision check in two ways only: a scan contests it, or
it is the oldest of a full map.
-/

namespace RobotLlm.Hazard

open RobotLlm.Lib

variable {F : Type} [PyMath F] {digest : List String → String} {m m' : ProvisionalHazardMap} {op : HazardOp}
  {answer : HazardAnswer} {h : List (HazardOp × HazardAnswer)} {frameId mapGenerationId : String}
  {calibration : HazardMapCalibration}

-- What a history tells

/-- When the scans of a history were completed, the latest call first. -/
def completionTimes (h : List (HazardOp × HazardAnswer)) : List Int := h.filterMap (·.1.completedAtMs?)

def recordedScans : List (HazardOp × HazardAnswer) → Nat
  | [] => 0
  | (.scanResult .., .ok _) :: h => recordedScans h + 1
  | _ :: h => recordedScans h

/-- Those of the hypothesis, since an observation made it. -/
def recordedOf (hypothesisId : String) : List (HazardOp × HazardAnswer) → Nat
  | [] => 0
  | (.scanResult r _, .ok _) :: h => recordedOf hypothesisId h + if hypothesisId = r.targetHypothesisId then 1 else 0
  | (.observation .., .ok (some u)) :: h =>
    if u.hypothesisId = hypothesisId ∧ u.evidenceCount = 1 then 0 else recordedOf hypothesisId h
  | _ :: h => recordedOf hypothesisId h

/-- The id of a scan tells which revision of the map it was asked for on. -/
def HazardOp.Versioned (versionOf : String → Int) : HazardOp → Prop
  | .scanResult r _ => versionOf r.scanId = r.basedOnMapVersion
  | .observation .. | .scanBoundaries _ => True

theorem recordedScans_failed {e : MapError} : recordedScans ((op, .error e) :: h) = recordedScans h := by
  cases op <;> rfl

theorem recordedScans_ok {a : Option ProvisionalHazard} :
    recordedScans ((op, .ok a) :: h) = recordedScans h + if op.scanId?.isSome then 1 else 0 := by
  cases op <;> rfl

theorem recordedOf_failed {e : MapError} (id : String) : recordedOf id ((op, .error e) :: h) = recordedOf id h := by
  cases op <;> rfl

theorem recordedOf_ok {a : Option ProvisionalHazard} {id : String}
    (ha : ∀ u pose observation t, op = .observation pose observation t → a = some u → u.hypothesisId = id → u.evidenceCount ≠ 1) :
    (recordedOf id ((op, .ok a) :: h) : Int) = recordedOf id h + op.records id := by
  cases op with
  | observation pose observation t =>
    cases a with
    | none => exact (add_zero _).symm
    | some u =>
      have hnot : ¬ (u.hypothesisId = id ∧ u.evidenceCount = 1) := fun hu => ha u _ _ _ rfl rfl hu.1 hu.2
      simp only [recordedOf, if_neg hnot, HazardOp.records, add_zero]
  | scanResult r pose =>
    simp only [recordedOf, HazardOp.records]
    split <;> simp
  | scanBoundaries b => exact (add_zero _).symm

-- Accounts

theorem ProvisionalHazardMap.ok_new (F : Type) [PyMath F] (digest : List String → String) (frameId mapGenerationId : String)
    (calibration : HazardMapCalibration) : (ProvisionalHazardMap.new frameId mapGenerationId calibration).Ok F digest where
  ids := List.nodup_nil
  hazards _ hx := absurd hx List.not_mem_nil
  made _ hx := absurd hx List.not_mem_nil
  frames _ hx := absurd hx List.not_mem_nil
  length := Nat.zero_le _
  attempts := Nat.zero_le _
  supports := Nat.zero_le _
  evictions := le_refl _
  attemptReason := ⟨le_refl _, fun _ => rfl, fun h => absurd h (lt_irrefl _)⟩
  hazardReason := ⟨le_refl _, fun _ => rfl, fun h => absurd h (lt_irrefl _)⟩
  revision := le_refl _

/-- Every recorded scan is in the map or counted, for the map and for each hypothesis. -/
structure Accounted (h : List (HazardOp × HazardAnswer)) (m : ProvisionalHazardMap) : Prop where
  scans : (recordedScans h : Int) = m.attemptCount + m.scanAttemptsEvicted
  own : ∀ x ∈ m.hazards, (recordedOf x.hypothesisId h : Int) = x.scanEvidenceHistory.length + x.scanAttemptsEvicted

theorem Moves.accounted (hmoves : Moves F digest op m answer m') (ha : Accounted h m) : Accounted ((op, answer) :: h) m' := by
  cases hmoves with
  | failed e _ hm' =>
    rcases hm' with rfl | ⟨-, rfl⟩
    · exact ⟨by rw [recordedScans_failed]; exact ha.scans, fun x hx => by rw [recordedOf_failed]; exact ha.own x hx⟩
    · exact ⟨by rw [recordedScans_failed]; exact ha.scans, fun x hx => by rw [recordedOf_failed]; exact ha.own x hx⟩
  | kept a hbecame haccount _ hcount _ =>
    constructor
    · rw [recordedScans_ok, Nat.cast_add, ha.scans, haccount]
      split <;> simp
    · intro u hu
      obtain ⟨x, hx, hxu⟩ := forall₂_right hbecame hu
      rw [recordedOf_ok fun w pose observation t hop hw _ => (hcount w pose observation t hop hw).ne', hxu.origin.hypothesisId,
        hxu.account, ha.own x hx]
  | inserted u pose observation t hop hu hfresh hhazards hkept _ =>
    rename_i kept _
    have hevidence : u.evidenceCount = 1 := by rw [hu]; rfl
    have hhistory : u.scanEvidenceHistory = [] := by rw [hu]; rfl
    have hevicted : u.scanAttemptsEvicted = 0 := by rw [hu]; rfl
    subst hop
    constructor
    · have hsum : m'.attemptCount = (kept.map (·.scanEvidenceHistory.length)).sum := by
        rw [ProvisionalHazardMap.attemptCount, hhazards, List.map_append, List.sum_append, List.map_singleton,
          List.sum_singleton, hhistory, List.length_nil, add_zero]
      have hscans := ha.scans
      rw [recordedScans_ok, hsum]
      simp only [HazardOp.scanId?, Option.isSome_none, Bool.false_eq_true, ↓reduceIte, add_zero]
      rcases hkept with ⟨rfl, hevictions⟩ | ⟨oldest, hm, -, hevictions⟩
      · rw [hscans, hevictions]
        rfl
      · rw [hscans, hevictions, ProvisionalHazardMap.attemptCount, hm, List.map_cons, List.sum_cons]
        omega
    · intro x hx
      rw [hhazards] at hx
      obtain hx | hx := List.mem_append.mp hx
      · have hmem : x ∈ m.hazards := by
          rcases hkept with ⟨rfl, -⟩ | ⟨oldest, hm, -⟩
          · exact hx
          · rw [hm]
            exact List.mem_cons_of_mem _ hx
        rw [recordedOf_ok fun w _ _ _ _ hw hid => ?_]
        · simpa only [HazardOp.records, add_zero] using ha.own x hmem
        · cases hw
          exact absurd (List.mem_map_of_mem (f := fun y : ProvisionalHazard => y.hypothesisId) hmem) (hid ▸ hfresh)
      · obtain rfl := List.mem_singleton.mp hx
        rw [recordedOf, if_pos ⟨rfl, hevidence⟩, hhistory, hevicted]
        rfl

theorem hazardsAccounted_in_runs [LawfulPyMath F] (hd : IdsDistinct digest)
    (hr : (hazardMachine F digest).Runs (fun m op => op.FreshIn m) (.new frameId mapGenerationId calibration) h m) :
    m.Ok F digest ∧ Accounted h m := by
  refine hr.historyInvariant (I := fun h m => m.Ok F digest ∧ Accounted h m)
    ⟨ProvisionalHazardMap.ok_new .., rfl, fun _ hx => absurd hx List.not_mem_nil⟩ ?_
  rintro h m op ⟨hm, ha⟩ hf
  obtain ⟨hm', hmoves⟩ := step_moves hm hd op hf
  exact ⟨hm', hmoves.accounted ha⟩

/-- The bounds hold and the accounts balance in every run whose scans have ids that
nothing in the map has, and such a scan is recorded or leaves the map as it was. -/
theorem hazardMap_accounted [LawfulPyMath F] (hd : IdsDistinct digest)
    (hr : (hazardMachine F digest).Runs (fun m op => ∀ id, op.scanId? = some id → m.Fresh id)
      (.new frameId mapGenerationId calibration) h m) :
    (m.hazards.length ≤ 64 ∧ m.attemptCount ≤ 64 ∧ m.supportCount ≤ 4096) ∧
      (∀ x ∈ m.hazards, x.scanEvidenceHistory.length ≤ 16 ∧ x.collisionSupports.length ≤ 512 ∧
        (x.collisionSupports.map (·.spatialKey)).Nodup) ∧
      (recordedScans h : Int) = m.attemptCount + m.scanAttemptsEvicted ∧
      (∀ x ∈ m.hazards, (recordedOf x.hypothesisId h : Int) = x.scanEvidenceHistory.length + x.scanAttemptsEvicted) ∧
      ∀ r pose, m.Fresh r.scanId → (∃ answer, (recordScanResult F r pose m).1 = .ok answer) ∨
        ∃ e, recordScanResult F r pose m = (.error e, m) ∧ e ≠ .diverges := by
  have hfresh : (hazardMachine F digest).Runs (fun m op => op.FreshIn m) (.new frameId mapGenerationId calibration) h m :=
    hr.weaken fun m op hf => by
      cases op with
      | scanResult r _ => exact fun _ => hf r.scanId rfl
      | observation | scanBoundaries => trivial
  obtain ⟨hm, ha⟩ := hazardsAccounted_in_runs hd hfresh
  refine ⟨⟨hm.length, hm.attempts, hm.supports⟩, fun x hx => ?_, ha.scans, ha.own, fun r pose hf => ?_⟩
  · have hv := (hm.hazards x hx).1
    exact ⟨hv.history.1, hv.supports.1, hv.supports.2.2⟩
  · have htriple := recordScanResult_triple pose hm fun _ => hf
    rcases hrun : recordScanResult F r pose m with ⟨e | answer, m'⟩
    · obtain ⟨rfl, he⟩ := htriple.error hrun
      exact .inr ⟨e, rfl, he⟩
    · exact .inl ⟨answer, rfl⟩

-- Activity

theorem Moves.active (hmoves : Moves F digest op m answer m') (hm : m.Sound) (hm' : m'.Sound)
    (hn : ∀ t, op.completedAtMs? = some t → ∀ x ∈ m.hazards, x.NoNewerThan t) {x : ProvisionalHazard}
    (hx : x ∈ m.hazards) (ha : x.activeForCollision = true) :
    (∃ u ∈ m'.hazards, u.hypothesisId = x.hypothesisId ∧
      (u.activeForCollision = true ∨ op.Clears F m.calibration x)) ∨
      (∃ pose observation t, op = .observation pose observation t) ∧ m.hazards.length = 64 ∧
        ∃ rest u, m.hazards = x :: rest ∧ m'.hazards = rest ++ [u] := by
  cases hmoves with
  | failed e _ hsame =>
    rcases hsame with rfl | ⟨-, rfl⟩
    · exact .inl ⟨x, hx, rfl, .inl ha⟩
    · exact .inl ⟨x, hx, rfl, .inl ha⟩
  | kept a hbecame =>
    obtain ⟨u, hu, hxu⟩ := forall₂_left hbecame hx
    refine .inl ⟨u, hu, hxu.origin.hypothesisId, ?_⟩
    by_cases hclears : op.Clears F m.calibration x
    · exact .inr hclears
    · exact .inl ((hxu.upholds (fun t ht => hn t ht x hx) hclears).active (hm.hazards x hx).1 (hm'.hazards u hu).1 ha)
  | inserted u pose observation t hop hu hfresh hhazards hkept _ =>
    rename_i kept _
    rcases hkept with ⟨rfl, -⟩ | ⟨oldest, hold, hfull, -⟩
    · exact .inl ⟨x, hhazards ▸ List.mem_append_left _ hx, rfl, .inl ha⟩
    · rw [hold] at hx
      obtain rfl | hx := List.mem_cons.mp hx
      · exact .inr ⟨⟨pose, observation, t, hop⟩, hfull, kept, u, hold, hhazards⟩
      · exact .inl ⟨x, hhazards ▸ List.mem_append_left _ hx, rfl, .inl ha⟩

/-- What a map holds of scans: none is newer than the calls so far, and every id is
of an older revision. -/
structure Dated (versionOf : String → Int) (h : List (HazardOp × HazardAnswer)) (m : ProvisionalHazardMap) : Prop where
  times : ∀ t, (∀ c ∈ completionTimes h, c ≤ t) → ∀ x ∈ m.hazards, x.NoNewerThan t
  sources : ∀ x ∈ m.hazards, x.Sources fun id => versionOf id + 2 ≤ m.revision

theorem mem_completionTimes {t : Int} : t ∈ completionTimes ((op, answer) :: h) ↔
    op.completedAtMs? = some t ∨ t ∈ completionTimes h := by
  unfold completionTimes
  rw [List.filterMap_cons]
  cases hop : op.completedAtMs? with
  | none => simp
  | some c => simp [eq_comm]

theorem Moves.dated {versionOf : String → Int} (hmoves : Moves F digest op m answer m') (hop : op.Versioned versionOf)
    (hdated : Dated versionOf h m) : Dated versionOf ((op, answer) :: h) m' := by
  have hlater : ∀ t, (∀ c ∈ completionTimes ((op, answer) :: h), c ≤ t) →
      (∀ c ∈ completionTimes h, c ≤ t) ∧ ∀ c, op.completedAtMs? = some c → c ≤ t := fun t ht =>
    ⟨fun c hc => ht c (mem_completionTimes.mpr (.inr hc)), fun c hc => ht c (mem_completionTimes.mpr (.inl hc))⟩
  have hmono : ∀ x ∈ m.hazards, ∀ n, m.revision ≤ n → x.Sources fun id => versionOf id + 2 ≤ n := by
    intro x hx n hn
    obtain ⟨hattempts, hsupports⟩ := hdated.sources x hx
    exact ⟨fun a ha => (hattempts a ha).trans hn, fun s hs => (hsupports s hs).trans hn⟩
  cases hmoves with
  | failed e _ hsame =>
    rcases hsame with rfl | ⟨-, rfl⟩
    · exact ⟨fun t ht => hdated.times t (hlater t ht).1, hdated.sources⟩
    · exact ⟨fun t ht => hdated.times t (hlater t ht).1, fun x hx => hmono x hx _ (by dsimp only; omega)⟩
  | kept a hbecame _ hrevision _ hbasis =>
    constructor
    · intro t ht u hu
      obtain ⟨x, hx, hxu⟩ := forall₂_right hbecame hu
      exact hxu.noNewer t (hlater t ht).2 (hdated.times t (hlater t ht).1 x hx)
    · intro u hu
      obtain ⟨x, hx, hxu⟩ := forall₂_right hbecame hu
      refine hxu.sources _ (fun id hid => ?_) (hmono x hx _ (by omega))
      cases op with
      | scanResult r pose =>
        cases hid
        have hversion : versionOf r.scanId = r.basedOnMapVersion := hop
        have hbased := hbasis r pose rfl
        omega
      | observation | scanBoundaries => cases hid
  | inserted u pose observation t hobservation hu hfresh hhazards hkept hrevision =>
    rename_i kept
    have hkeptMem : ∀ x ∈ kept, x ∈ m.hazards := by
      intro x hx
      rcases hkept with ⟨rfl, -⟩ | ⟨oldest, hold, -⟩
      · exact hx
      · rw [hold]
        exact List.mem_cons_of_mem _ hx
    constructor
    · intro t ht x hx
      rw [hhazards] at hx
      obtain hx | hx := List.mem_append.mp hx
      · exact hdated.times t (hlater t ht).1 x (hkeptMem x hx)
      · obtain rfl := List.mem_singleton.mp hx
        constructor
        · rw [hu]
          exact fun _ hs => absurd hs List.not_mem_nil
        · rw [hu]
          nofun
    · intro x hx
      rw [hhazards] at hx
      obtain hx | hx := List.mem_append.mp hx
      · exact hmono x (hkeptMem x hx) _ (by omega)
      · obtain rfl := List.mem_singleton.mp hx
        constructor
        · rw [hu]
          exact fun _ ha => absurd ha List.not_mem_nil
        · rw [hu]
          exact fun _ hs => absurd hs List.not_mem_nil

theorem Dated.freshIn {versionOf : String → Int} (hdated : Dated versionOf h m) (hop : op.Versioned versionOf) :
    op.FreshIn m := by
  cases op with
  | observation | scanBoundaries => trivial
  | scanResult r pose =>
    intro hbasis x hx
    have hversion : versionOf r.scanId = r.basedOnMapVersion := hop
    obtain ⟨hattempts, hsupports⟩ := hdated.sources x hx
    refine ⟨fun a ha hid => ?_, fun s hs hid => ?_⟩
    · have hold := hattempts a ha
      rw [hid] at hold
      omega
    · have hold := hsupports s hs
      rw [hid] at hold
      omega

theorem dated_in_runs [LawfulPyMath F] (hd : IdsDistinct digest) {versionOf : String → Int}
    (hr : (hazardMachine F digest).Runs (fun _ op => op.Versioned versionOf) (.new frameId mapGenerationId calibration) h m) :
    m.Ok F digest ∧ Dated versionOf h m := by
  refine hr.historyInvariant (I := fun h m => m.Ok F digest ∧ Dated versionOf h m) ⟨ProvisionalHazardMap.ok_new ..,
    fun _ _ _ hx => absurd hx List.not_mem_nil, fun _ hx => absurd hx List.not_mem_nil⟩ ?_
  rintro h m op ⟨hm, hdated⟩ hop
  obtain ⟨hm', hmoves⟩ := step_moves hm hd op (hdated.freshIn hop)
  exact ⟨hm', hmoves.dated hop hdated⟩

/-- A restored scan without rays, of the map's newest revision. -/
def emptyScan (m : ProvisionalHazardMap) (targetHypothesisId : String) : ActiveIrScanResult where
  scanId := "scan-1"
  targetHypothesisId := targetHypothesisId
  frameId := m.frameId
  mapGenerationId := m.mapGenerationId
  basedOnMapVersion := m.revision - 1
  completedAtMs := 2000
  status := "COMPLETED"
  reason := "seen"
  stopConfirmed := true
  restoredStartHeading := true
  rays := []
  leftBoundaryMdeg := none
  rightBoundaryMdeg := none

/-- Where it is made: somewhere else for each revision. -/
def scanPlace (m : ProvisionalHazardMap) : PhysicalPose := { PhysicalPose.origin with yMm := m.revision }

theorem emptyScan_attempt {m : ProvisionalHazardMap} (id : String) (hm : 0 < m.revision) :
    ∃ a, ScanAttemptEvidence.fromScanResult (emptyScan m id) (scanPlace m) = .ok a ∧ a.scanId = "scan-1" ∧ a.rays = [] ∧
      a.scanPose = some (scanPlace m) := by
  have hok : AttemptOk "scan-1" 2000 "seen" [] (some (scanPlace m)) (some (m.revision - 1)) := by
    refine ⟨by decide +kernel, by decide, by decide +kernel, by decide, List.nodup_nil, by simp, fun version hversion => ?_⟩
    obtain rfl : version = m.revision - 1 := by simpa using hversion
    omega
  have hnone : BoundariesOk [] none none := by decide
  refine ⟨⟨"scan-1", 2000, .completed, "seen", [], none, none, some (scanPlace m), some (m.revision - 1), none, hok, hnone⟩,
    ?_, rfl, rfl, rfl⟩
  have hstatus : ScanStatus.ofText? (emptyScan m id).status = some .completed := by
    show ScanStatus.ofText? "COMPLETED" = _
    decide +kernel
  unfold ScanAttemptEvidence.fromScanResult
  rw [hstatus]
  show ScanAttemptEvidence.new "scan-1" 2000 .completed "seen" [] none none (some (scanPlace m)) (some (m.revision - 1)) none = _
  rw [ScanAttemptEvidence.new, dif_pos hok, dif_pos hnone]

/-- A map of five hypotheses with scans of one id only, which differ in where they
were made. -/
structure Crowded (m : ProvisionalHazardMap) : Prop extends m.Sound where
  five : m.hazards.length = 5
  revision : 0 < m.revision
  kept : m.scanAttemptsEvicted = 0
  frames : ∀ h ∈ m.hazards, h.frameId = m.frameId ∧ h.firstSeenAtMs ≤ 2000
  unsupported : ∀ h ∈ m.hazards, h.collisionSupports = []
  scans : ∀ h ∈ m.hazards, (h.scanEvidenceHistory.map (·.evidenceSignature)).Nodup ∧
    ∀ a ∈ h.scanEvidenceHistory, a.scanId = "scan-1" ∧ ∃ pose, a.scanPose = some pose ∧ pose.yMm < m.revision

section
variable {h : ProvisionalHazard}

open Lib.Prog in
theorem Crowded.scan (hm : Crowded m) (hh : h ∈ m.hazards) (hroom : h.scanEvidenceHistory.length < maxScanAttemptsPerHazard) :
    Triple (recordScanResult F (emptyScan m h.hypothesisId) (scanPlace m)) m
      (fun _ m' => m.attemptCount < maxScanAttemptsPerMap ∧ Crowded m' ∧ m'.attemptCount = m.attemptCount + 1)
      (fun _ m' => maxScanAttemptsPerMap ≤ m.attemptCount ∧ m'.Sound ∧ m'.attemptCount = m.attemptCount + 1 ∧ m'.scanAttemptsEvicted = 0) := by
  obtain ⟨hv, hs⟩ := hm.hazards h hh
  obtain ⟨hframe, hfirst⟩ := hm.frames h hh
  obtain ⟨hsignatures, hscans⟩ := hm.scans h hh
  obtain ⟨a, hattempt, hid, hrays, hpose⟩ := emptyScan_attempt h.hypothesisId hm.revision
  obtain ⟨hrecorded, hsupports⟩ := recordedAttempt_of_no_rays (F := F) (c := m.calibration) (h := h) hrays
  obtain ⟨u, hnew, hfields, huv, hus⟩ := exists_recorded (F := F) (m := m) hv hs hattempt hfirst
  rw [hrecorded] at hnew hfields
  have hdistinct : ((h.scanEvidenceHistory ++ [a]).map (·.evidenceSignature)).Nodup := by
    rw [List.map_append, List.map_singleton]
    refine List.nodup_append.mpr ⟨hsignatures, List.nodup_singleton _, fun s hs s' hs' heq => ?_⟩
    obtain ⟨old, hold, rfl⟩ := List.mem_map.mp hs
    obtain rfl := List.mem_singleton.mp hs'
    obtain ⟨-, pose, hposeOld, hlt⟩ := hscans old hold
    have hsame : old.scanPose = a.scanPose := congrArg EvidenceSignature.pose heq
    rw [hposeOld, hpose] at hsame
    obtain rfl := Option.some.inj hsame
    exact absurd hlt (lt_irrefl _)
  have hmore : (h.scanEvidenceHistory ++ [a]).length ≤ maxScanAttemptsPerHazard := by
    rw [List.length_append, List.length_singleton]
    exact hroom
  have hperm := retainScanAttemptDiversity_perm hdistinct hmore
  have hidentity : u.hypothesisId = h.hypothesisId := by
    rw [hfields]
    exact recordedFields_sameOrigin.hypothesisId
  have hhistory : u.scanEvidenceHistory.Perm (h.scanEvidenceHistory ++ [a]) := by
    rw [hfields, recordedFields_scanEvidenceHistory]
    exact hperm
  have hlength : u.scanEvidenceHistory.length = h.scanEvidenceHistory.length + 1 := by
    rw [hhistory.length_eq, List.length_append, List.length_singleton]
  -- the hypothesis that was scanned is like the others, at the next revision
  have hput : ∀ x ∈ (m.put u h.hypothesisId).hazards, x = u ∨ x ∈ m.hazards := fun x hx =>
    (mem_replaceAt hx).imp_right And.left
  have hscanned : ∀ x ∈ (m.put u h.hypothesisId).hazards, (x.scanEvidenceHistory.map (·.evidenceSignature)).Nodup ∧
      ∀ b ∈ x.scanEvidenceHistory, b.scanId = "scan-1" ∧ ∃ pose, b.scanPose = some pose ∧ pose.yMm < m.revision + 1 := by
    intro x hx
    obtain rfl | hx := hput x hx
    · refine ⟨(hhistory.map _).nodup_iff.mpr hdistinct, fun b hb => ?_⟩
      obtain hb | hb := List.mem_append.mp (hhistory.subset hb)
      · obtain ⟨hbid, pose, hbpose, hlt⟩ := hscans b hb
        exact ⟨hbid, pose, hbpose, by omega⟩
      · obtain rfl := List.mem_singleton.mp hb
        exact ⟨hid, scanPlace m, hpose, Int.lt_succ _⟩
    · obtain ⟨hn, hold⟩ := hm.scans x hx
      refine ⟨hn, fun b hb => ?_⟩
      obtain ⟨hbid, pose, hbpose, hlt⟩ := hold b hb
      exact ⟨hbid, pose, hbpose, by omega⟩
  have hnothing : ∀ x ∈ (m.put u h.hypothesisId).hazards, x.collisionSupports = [] := by
    intro x hx
    obtain rfl | hx := hput x hx
    · rw [hfields, recordedFields_collisionSupports, hm.unsupported h hh, hsupports, List.append_nil, HazardFields.retain_nil]
    · exact hm.unsupported x hx
  have hcount : (m.put u h.hypothesisId).attemptCount = m.attemptCount + 1 := by
    have hsum := sum_replaceAt (u := u) (w := fun item : ProvisionalHazard => item.scanEvidenceHistory.length) hm.ids hh rfl
    simp only [ProvisionalHazardMap.attemptCount, ProvisionalHazardMap.put]
    omega
  have hsound := put_sound hm.toSound hidentity huv hus
  unfold recordScanResult
  refine Triple.get_bind ?_
  rw [show m.get? (emptyScan m h.hypothesisId).targetHypothesisId = some h from hm.toSound.get? hh]
  refine Triple.failIf (fun hforeign => ?_) fun _ => Triple.failIf (fun hstale => ?_) fun _ =>
    Triple.failIf (fun hunrestored => ?_) fun _ => ?_
  · simp [emptyScan, hframe] at hforeign
  · have := hm.revision
    simp only [emptyScan] at hstale
    omega
  · simp only [emptyScan, Bool.true_eq_false, false_or] at hunrestored
    omega
  refine Triple.step (a := a) (t := m) (by rw [raising, ofExcept_run, hattempt]; rfl) ?_
  rw [hrecorded]
  refine Triple.modify_bind ?_
  rw [hperm.length_eq, Nat.sub_self, if_pos rfl]
  refine Triple.step (a := u) (t := m) (by rw [raising, ofExcept_run, hnew]; rfl) (Triple.modify_bind ?_)
  rw [show (emptyScan m h.hypothesisId).targetHypothesisId = h.hypothesisId from rfl]
  by_cases hfull : m.attemptCount < maxScanAttemptsPerMap
  · have hsupported : (m.put u h.hypothesisId).supportCount ≤ maxCollisionSupportsPerMap := by
      have hzero : (m.put u h.hypothesisId).supportCount = 0 :=
        List.sum_eq_zero fun n hn => by
          obtain ⟨x, hx, rfl⟩ := List.mem_map.mp hn
          rw [hnothing x hx, List.length_nil]
      omega
    refine Triple.bind (Q := fun _ m' => m' = m.put u h.hypothesisId)
      (Triple.get_bind ((whileAbove_within (by omega)).mono (fun _ _ h => h) fun _ _ h => h.elim)) ?_
    rintro _ _ rfl
    refine Triple.bind (Q := fun _ m' => m' = m.put u h.hypothesisId)
      (Triple.get_bind ((whileAbove_within hsupported).mono (fun _ _ h => h) fun _ _ h => h.elim)) ?_
    rintro _ _ rfl
    refine Triple.modify_bind (Triple.get_bind (Triple.pure ⟨hfull, ?_, hcount⟩))
    exact
      { ids := hsound.ids
        hazards := hsound.hazards
        five := by
          rw [← hm.five]
          exact List.length_map _
        revision := by
          have := hm.revision
          change 0 < m.revision + 1
          omega
        kept := hm.kept
        frames := fun x hx => by
          obtain rfl | hx := hput x hx
          · rw [hfields]
            exact ⟨recordedFields_sameOrigin.frameId.trans hframe, recordedFields_sameOrigin.firstSeen.trans_le hfirst⟩
          · exact hm.frames x hx
        unsupported := hnothing
        scans := hscanned }
  · refine Triple.bind (Q := fun _ _ => False) ((pruneScanHistories_stuck (fun x hx b hb => ((hscanned x hx).2 b hb).1)
      (by omega)).mono (fun _ _ h => h) ?_) fun _ _ h => h.elim
    rintro _ _ rfl
    exact ⟨not_lt.mp hfull, hsound, hcount, hm.kept⟩

theorem Crowded.exists_room (hm : Crowded m) (hc : m.attemptCount ≤ maxScanAttemptsPerMap) :
    ∃ h ∈ m.hazards, h.scanEvidenceHistory.length < maxScanAttemptsPerHazard := by
  by_contra hnone
  push Not at hnone
  have hsum : ∀ l : List ProvisionalHazard, (∀ h ∈ l, maxScanAttemptsPerHazard ≤ h.scanEvidenceHistory.length) →
      16 * l.length ≤ (l.map fun h => h.scanEvidenceHistory.length).sum := by
    intro l hl
    induction l with
    | nil => exact le_rfl
    | cons h l ih =>
      have hfirst : 16 ≤ h.scanEvidenceHistory.length := hl h List.mem_cons_self
      have hrest := ih fun x hx => hl x (List.mem_cons_of_mem _ hx)
      rw [List.map_cons, List.sum_cons, List.length_cons]
      omega
  have hall := hsum m.hazards hnone
  rw [hm.five] at hall
  exact absurd (hall.trans hc) (by decide)

theorem Crowded.of_unscanned (hs : m.Sound) (hm : m.hazards.length = 5 ∧ 0 < m.revision ∧ m.scanAttemptsEvicted = 0)
    (hh : ∀ h ∈ m.hazards, (h.frameId = m.frameId ∧ h.firstSeenAtMs ≤ 2000) ∧ h.collisionSupports = [] ∧
      h.scanEvidenceHistory = []) : Crowded m where
  toSound := hs
  five := hm.1
  revision := hm.2.1
  kept := hm.2.2
  frames h hmem := (hh h hmem).1
  unsupported h hmem := (hh h hmem).2.1
  scans h hmem := by
    rw [(hh h hmem).2.2]
    exact ⟨List.nodup_nil, fun _ ha => absurd ha List.not_mem_nil⟩

theorem Crowded.overfull {digest : List String → String} {s₀ : ProvisionalHazardMap} {history : List (HazardOp × HazardAnswer)}
    (hr : (hazardMachine F digest).Runs Machine.always s₀ history m) (hm : Crowded m) (hc : recordedScans history = m.attemptCount)
    {k : Nat} (hk : m.attemptCount + k = maxScanAttemptsPerMap) :
    ∃ history' m', (hazardMachine F digest).Runs Machine.always s₀ history' m' ∧ m'.Sound ∧
      m'.attemptCount = 65 ∧ recordedScans history' = 64 ∧ m'.scanAttemptsEvicted = 0 := by
  induction k generalizing m history with
  | zero =>
    obtain ⟨h, hh, hroom⟩ := hm.exists_room hk.le
    have hscan := hm.scan (F := F) hh hroom
    have hnext := hr.cons (i := .scanResult (emptyScan m h.hypothesisId) (scanPlace m)) trivial
    rcases hrun : (hazardMachine F digest).step m (.scanResult (emptyScan m h.hypothesisId) (scanPlace m)) with ⟨e | answer, m'⟩
    · obtain ⟨-, hsound, hcount, hkept⟩ := hscan.error hrun
      rw [hrun] at hnext
      exact ⟨_, m', hnext, hsound, hcount.trans (congrArg (· + 1) hk), (recordedScans_failed.trans hc).trans hk, hkept⟩
    · exact absurd hk (hscan.ok hrun).1.ne
  | succ k ih =>
    obtain ⟨h, hh, hroom⟩ := hm.exists_room (by omega)
    have hscan := hm.scan (F := F) hh hroom
    have hnext := hr.cons (i := .scanResult (emptyScan m h.hypothesisId) (scanPlace m)) trivial
    rcases hrun : (hazardMachine F digest).step m (.scanResult (emptyScan m h.hypothesisId) (scanPlace m)) with ⟨e | answer, m'⟩
    · exact absurd (hscan.error hrun).1 (by omega)
    · obtain ⟨-, hm', hcount⟩ := hscan.ok hrun
      rw [hrun] at hnext
      have hleft : m'.attemptCount + k = maxScanAttemptsPerMap := by omega
      refine ih hnext hm' ?_ hleft
      rw [recordedScans_ok, hc]
      exact hcount.symm

end

-- Runs along a line

/-- Whole numbers, which are enough for poses that look along the x axis. -/
structure Grid where
  n : Int

instance : PyMath Grid where
  ofInt n := ⟨n⟩
  nano := ⟨0⟩
  sub a b := ⟨a.n - b.n⟩
  mul a b := ⟨a.n * b.n⟩
  div a b := ⟨a.n / b.n⟩
  min a b := ⟨min a.n b.n⟩
  radians a := a
  degrees a := a
  cos a := ⟨if a.n = 0 then 1 else 0⟩
  sin _ := ⟨0⟩
  asin a := a
  atan2 _ _ := ⟨0⟩
  hypot a b := ⟨max a.n (-a.n) + max b.n (-b.n)⟩
  round a := a.n
  ceil a := a.n
  le a b := a.n ≤ b.n
  lt a b := a.n < b.n

instance : LawfulPyMath Grid where
  hypot_zero_le n hn := by
    have h : (0 : Int) ≤ n := by omega
    simpa [PyMath.hypot, PyMath.le, PyMath.ofInt] using h

/-- Texts one after the other, each with its end marked. -/
def framed (texts : List String) : String :=
  String.ofList (texts.flatMap fun text => text.toList.flatMap (fun c => ['.', c]) ++ [';'])

theorem framed_text {a b : List Char} {x y : List Char}
    (h : a.flatMap (fun c => ['.', c]) ++ [';'] ++ x = b.flatMap (fun c => ['.', c]) ++ [';'] ++ y) : a = b ∧ x = y := by
  induction a generalizing b with
  | nil =>
    cases b with
    | nil => exact ⟨rfl, by simpa using h⟩
    | cons c b => simp at h
  | cons c a ih =>
    cases b with
    | nil => simp at h
    | cons d b =>
      simp only [List.flatMap_cons, List.cons_append, List.nil_append, List.cons.injEq, true_and] at h
      obtain ⟨rfl, h⟩ := h
      obtain ⟨rfl, rfl⟩ := ih (by simpa using h)
      exact ⟨rfl, rfl⟩

theorem framed_injective : Function.Injective framed := by
  intro a b h
  have hchars := String.ofList_injective h
  clear h
  induction a generalizing b with
  | nil =>
    cases b with
    | nil => rfl
    | cons t b => simp at hchars
  | cons s a ih =>
    cases b with
    | nil => simp at hchars
    | cons t b =>
      rw [List.flatMap_cons, List.flatMap_cons] at hchars
      obtain ⟨hst, hrest⟩ := framed_text hchars
      rw [String.toList_inj.mp hst, ih hrest]

theorem natRepr_injective {m n : Nat} (h : m.repr = n.repr) : m = n := by
  rw [← Nat.ofDigitChars_ten_toDigits (n := m), ← Nat.toList_repr, h, Nat.toList_repr, Nat.ofDigitChars_ten_toDigits]

theorem natRepr_ne_neg {m n : Nat} : m.repr ≠ "-" ++ n.repr := by
  intro h
  have hmem : '-' ∈ Nat.toDigits 10 m := by
    rw [← Nat.toList_repr, h]
    simp
  have hdigit := Nat.isDigit_of_mem_toDigits (by decide) (by decide) hmem
  exact absurd hdigit (by decide)

theorem intRepr_injective {a b : Int} (h : a.repr = b.repr) : a = b := by
  cases a with
  | ofNat m =>
    cases b with
    | ofNat n => exact congrArg Int.ofNat (natRepr_injective h)
    | negSucc n => exact absurd h natRepr_ne_neg
  | negSucc m =>
    cases b with
    | ofNat n => exact absurd h.symm natRepr_ne_neg
    | negSucc n => exact congrArg Int.negSucc (Nat.succ.inj (natRepr_injective ((String.append_right_inj _).mp h)))

theorem idsDistinct_framed : IdsDistinct framed := by
  intro g p p' t t' v v' h
  have htexts := framed_injective ((String.append_right_inj _).mp h)
  simp only [List.cons.injEq, true_and] at htexts
  obtain ⟨hx, hy, hz, -⟩ := htexts
  exact ⟨intRepr_injective hx, intRepr_injective hy, intRepr_injective hz⟩

def blockedAt (x : Int) : HazardOp :=
  .observation { PhysicalPose.origin with xMm := x } ⟨true, some 20, some 20, 7⟩ 1000

/-- A restored scan without rays of the hypothesis made at `x`. -/
def scanAt (scanId : String) (x basedOnMapVersion : Int) : HazardOp :=
  .scanResult {
    scanId := scanId
    targetHypothesisId := stableId framed "map-1" { PhysicalPose.origin with xMm := x } 1000 7
    frameId := "odometry"
    mapGenerationId := "map-1"
    basedOnMapVersion := basedOnMapVersion
    completedAtMs := 2000
    status := "COMPLETED"
    reason := "seen"
    stopConfirmed := true
    restoredStartHeading := true
    rays := []
    leftBoundaryMdeg := none
    rightBoundaryMdeg := none } { PhysicalPose.origin with yMm := basedOnMapVersion }

instance {m : ProvisionalHazardMap} {scanId : String} : Decidable (m.Fresh scanId) :=
  inferInstanceAs (Decidable (∀ _ ∈ m.hazards, _))

theorem hazardMap_accounted_one_scan : ∃ h m,
    (hazardMachine Grid framed).Runs Machine.always (.new "odometry" "map-1" {}) h m ∧ recordedScans h = 1 ∧
      (recordedScans h : Int) = m.attemptCount + m.scanAttemptsEvicted := by
  have hfresh : ((hazardMachine Grid framed).step (.new "odometry" "map-1" {}) (blockedAt 0)).2.Fresh "scan-1" := by
    decide +kernel
  have hok : (hazardMachine Grid framed).StepsOk (fun m op => ∀ id, op.scanId? = some id → m.Fresh id)
      (.new "odometry" "map-1" {}) [blockedAt 0, scanAt "scan-1" 0 0] := by
    refine And.intro (fun id hid => nomatch hid) (And.intro (fun id hid => ?_) trivial)
    cases hid
    exact hfresh
  have hr := Machine.runs_runList hok
  refine ⟨_, _, hr.weaken fun _ _ _ => trivial, ?_, (hazardMap_accounted idsDistinct_framed hr).2.2.1⟩
  decide +kernel

def fiveHypotheses : List HazardOp := [0, 1000, 2000, 3000, 4000].map blockedAt

/-- Scans of one id may fill the map beyond its bound: none of them may be dropped for
the last, and the call fails with all of them in the map. -/
theorem scansOfOneId_exceed_bound :
    ∃ h m, (hazardMachine Grid framed).Runs Machine.always (.new "odometry" "map-1" {}) h m ∧
      m.attemptCount = 65 ∧ recordedScans h = 64 ∧ m.scanAttemptsEvicted = 0 := by
  have hsteps : (hazardMachine Grid framed).StepsOk (fun m op => op.FreshIn m) (.new "odometry" "map-1" {}) fiveHypotheses :=
    ⟨trivial, trivial, trivial, trivial, trivial, trivial⟩
  have hfresh := Machine.runs_runList hsteps
  have hsound := (hazardsAccounted_in_runs idsDistinct_framed hfresh).1.toSound
  have hcrowded := Crowded.of_unscanned hsound (by decide +kernel) (by decide +kernel)
  obtain ⟨h, m, hr, -, hm⟩ := hcrowded.overfull (k := 64) (hfresh.weaken fun _ _ _ => trivial) (by decide +kernel) (by decide +kernel)
  exact ⟨h, m, hr, hm⟩

/-- Boundaries on both sides of the hypothesis made at the origin. -/
def boundariesAtOrigin : HazardOp :=
  .scanBoundaries ⟨stableId framed "map-1" .origin 1000 7, "odometry", "map-1", 0, 2000, 30000, -30000⟩

end RobotLlm.Hazard
