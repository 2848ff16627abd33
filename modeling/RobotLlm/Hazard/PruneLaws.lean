import RobotLlm.Hazard.HazardLaws

/-!
# Laws of the bounds of the map

Both loops end where the map is within its bounds, and take from a hypothesis
nothing that its part in the collision check rests on: the scan that is being
recorded is protected, and of the rest the oldest goes first.
-/

namespace RobotLlm.Hazard

open RobotLlm.Lib
open Lib.Prog

variable {protectedId : String} {m m' : ProvisionalHazardMap} {h u : ProvisionalHazard}

namespace ProvisionalHazardMap

/-- Every hypothesis has an id of its own and passes its checks as it is. -/
structure Sound (m : ProvisionalHazardMap) : Prop where
  ids : (m.hazards.map (·.hypothesisId)).Nodup
  hazards : ∀ h ∈ m.hazards, h.Valid ∧ h.Settled

theorem Sound.get? (hm : m.Sound) (hh : h ∈ m.hazards) : m.get? h.hypothesisId = some h := by
  unfold ProvisionalHazardMap.get?
  cases hfind : m.hazards.find? (·.hypothesisId = h.hypothesisId) with
  | none => simpa using List.find?_eq_none.mp hfind h hh
  | some found =>
    have hid : found.hypothesisId = h.hypothesisId := by simpa using List.find?_some hfind
    rw [List.inj_on_of_nodup_map hm.ids (List.mem_of_find?_eq_some hfind) hh hid]

theorem get?_mem {hypothesisId : String} (hg : m.get? hypothesisId = some h) :
    h ∈ m.hazards ∧ h.hypothesisId = hypothesisId :=
  ⟨List.mem_of_find?_eq_some hg, by simpa using List.find?_some hg⟩

/-- `m'` is `m` with less evidence, and what is gone is counted. -/
structure Trims (protectedId : String) (m' m : ProvisionalHazardMap) : Prop where
  frame : { m' with
      hazards := m.hazards
      scanAttemptsEvicted := m.scanAttemptsEvicted
      scanAttemptsEvictionReason := m.scanAttemptsEvictionReason } = m
  hazards : List.Forall₂ (fun h u => u.Trims protectedId h) m.hazards m'.hazards
  account : (m'.attemptCount : Int) + m'.scanAttemptsEvicted = m.attemptCount + m.scanAttemptsEvicted
  reason : m'.scanAttemptsEvicted = m.scanAttemptsEvicted ∧ m'.scanAttemptsEvictionReason = m.scanAttemptsEvictionReason ∨
    m.scanAttemptsEvicted < m'.scanAttemptsEvicted ∧ m'.scanAttemptsEvictionReason ≠ none

theorem Trims.refl (hm : m.Sound) : Trims protectedId m m :=
  ⟨rfl, List.forall₂_same.mpr fun h hh => .refl (hm.hazards h hh).1 (hm.hazards h hh).2, rfl, .inl ⟨rfl, rfl⟩⟩

theorem Trims.trans {m'' : ProvisionalHazardMap} (h' : Trims protectedId m'' m') (h : Trims protectedId m' m) :
    Trims protectedId m'' m where
  frame := by
    rw [← h.frame, ← h'.frame]
  hazards := forall₂_trans (fun _ _ _ hb hc => hc.trans hb) h.hazards h'.hazards
  account := h'.account.trans h.account
  reason := by
    obtain ⟨he, hr⟩ | ⟨hlt, hr⟩ := h'.reason
    · rw [he, hr]
      exact h.reason
    · obtain ⟨he', -⟩ | ⟨hlt', -⟩ := h.reason
      · exact .inr ⟨by omega, hr⟩
      · exact .inr ⟨by omega, hr⟩

theorem Trims.sound (h : Trims protectedId m' m) (hm : m.Sound) : m'.Sound where
  ids := by
    rw [← forall₂_map_eq (fun _ _ hu => (hu.sameOrigin.hypothesisId).symm) h.hazards]
    exact hm.ids
  hazards u hu := by
    obtain ⟨_, -, htrims⟩ := forall₂_right h.hazards hu
    exact ⟨htrims.valid, htrims.settled⟩

theorem Trims.own_account (h : Trims protectedId m' m) :
    (m'.attemptCount : Int) + (m'.hazards.map (·.scanAttemptsEvicted)).sum =
      m.attemptCount + (m.hazards.map (·.scanAttemptsEvicted)).sum := by
  have hsplit : ∀ l : List ProvisionalHazard, (l.map fun h => (h.scanEvidenceHistory.length : Int) + h.scanAttemptsEvicted).sum =
      ((l.map (·.scanEvidenceHistory.length)).sum : Nat) + (l.map (·.scanAttemptsEvicted)).sum := by
    intro l
    induction l with
    | nil => rfl
    | cons h l ih =>
      simp only [List.map_cons, List.sum_cons, ih]
      omega
  have hboth := congrArg List.sum (forall₂_map_eq (fun _ _ hu => hu.account.symm) h.hazards)
  rw [hsplit, hsplit] at hboth
  exact hboth.symm

theorem Sound.trims_put (hm : m.Sound) (hh : h ∈ m.hazards) (hu : u.Trims protectedId h) {n : Int}
    {reason : Option ScanEvictionReason} (hn : (u.scanEvidenceHistory.length : Int) + n = h.scanEvidenceHistory.length)
    (hr : n = 0 ∧ reason = m.scanAttemptsEvictionReason ∨ 0 < n ∧ reason ≠ none) :
    Trims protectedId { m.put u h.hypothesisId with
      scanAttemptsEvicted := m.scanAttemptsEvicted + n
      scanAttemptsEvictionReason := reason } m where
  frame := rfl
  hazards := forall₂_replaceAt hm.ids hh rfl hu fun y hy _ => .refl (hm.hazards y hy).1 (hm.hazards y hy).2
  account := by
    have hsum := sum_replaceAt (u := u) (w := fun item : ProvisionalHazard => item.scanEvidenceHistory.length) hm.ids hh rfl
    simp only [attemptCount, ProvisionalHazardMap.put]
    omega
  reason := by
    obtain ⟨rfl, rfl⟩ | ⟨hpos, hne⟩ := hr
    · exact .inl ⟨add_zero _, rfl⟩
    · exact .inr ⟨by dsimp only; omega, hne⟩

end ProvisionalHazardMap

theorem sum_le_of_one_large {l : List ProvisionalHazard} {target : String} {n k : Nat}
    (hn : (l.map (·.hypothesisId)).Nodup) {w : ProvisionalHazard → Nat} (hw : ∀ h ∈ l, w h ≤ n + k)
    (hone : ∀ h ∈ l, h.hypothesisId ≠ target → w h ≤ k) : (l.map w).sum ≤ k * l.length + n := by
  induction l generalizing n with
  | nil => simp
  | cons h l ih =>
    obtain ⟨hnot, hrest⟩ := List.nodup_cons.mp hn
    rw [List.map_cons, List.sum_cons, List.length_cons, Nat.mul_succ]
    have hhead := hw h List.mem_cons_self
    by_cases hid : h.hypothesisId = target
    · have hothers : ∀ y ∈ l, w y ≤ 0 + k := fun y hy => by
        have := hone y (List.mem_cons_of_mem _ hy) fun hyid => hnot (List.mem_map.mpr ⟨y, hy, hyid.trans hid.symm⟩)
        omega
      have htail := ih (n := 0) hrest hothers fun y hy hyid => hone y (List.mem_cons_of_mem _ hy) hyid
      omega
    · have hfew := hone h List.mem_cons_self hid
      have htail := ih hrest (fun y hy => hw y (List.mem_cons_of_mem _ hy)) fun y hy => hone y (List.mem_cons_of_mem _ hy)
      omega

-- Attempts

theorem mem_attemptCandidates {c : AttemptCandidate} (hc : c ∈ attemptCandidates protectedId m) :
    ∃ h ∈ m.hazards, c.hypothesisId = h.hypothesisId ∧ c.attempt ∈ h.scanEvidenceHistory := by
  obtain ⟨h, hh, hc⟩ := List.mem_flatMap.mp hc
  obtain ⟨⟨attempt, ordinal⟩, hmem, rfl⟩ := List.mem_map.mp hc
  exact ⟨h, hh, rfl, List.fst_mem_of_mem_zipIdx (List.mem_of_mem_filter hmem)⟩

theorem attemptCandidates_ne_nil (hh : h ∈ m.hazards) {a : ScanAttemptEvidence} (ha : a ∈ h.scanEvidenceHistory)
    (hid : a.scanId ≠ protectedId) : attemptCandidates protectedId m ≠ [] := by
  obtain ⟨i, hi, rfl⟩ := List.mem_iff_getElem.mp ha
  have hzip : (h.scanEvidenceHistory[i], i) ∈ h.scanEvidenceHistory.zipIdx := List.mem_zipIdx_iff_getElem?.mpr (by simp [hi])
  exact List.ne_nil_of_mem (List.mem_flatMap.mpr ⟨h, hh, List.mem_map.mpr
    ⟨_, List.mem_filter.mpr ⟨hzip, decide_eq_true hid⟩, rfl⟩⟩)

theorem pruneScanAttempt_triple (hm : m.Sound) (hh : h ∈ m.hazards) {a : ScanAttemptEvidence}
    (ha : a ∈ h.scanEvidenceHistory) (hid : a.scanId ≠ protectedId) :
    Triple (pruneScanAttempt protectedId) m
      (fun _ m' => m'.Trims protectedId m ∧ m'.attemptCount + 1 = m.attemptCount) (fun _ _ => False) := by
  unfold pruneScanAttempt
  refine Triple.get_bind ?_
  split
  next hnone => exact absurd (List.argmin_eq_none.mp hnone) (attemptCandidates_ne_nil hh ha hid)
  next discarded hsome =>
    obtain ⟨hazard, hmem, hidentity, hattempt⟩ := mem_attemptCandidates (List.argmin_mem hsome)
    rw [hidentity, hm.get? hmem]
    obtain ⟨u, hnew, htrims, hlen, -, -⟩ := trims_attempt protectedId (hm.hazards hazard hmem).1
      (hm.hazards hazard hmem).2 hattempt
    refine Triple.step (a := u) (t := m) (by rw [raising, ofExcept_run, hnew]; rfl) ?_
    refine Triple.modify_bind (Triple.modify ⟨?_, ?_⟩)
    · exact hm.trims_put hmem htrims (by omega) (.inr ⟨by omega, nofun⟩)
    · have hsum := sum_replaceAt (u := u) (w := fun item : ProvisionalHazard => item.scanEvidenceHistory.length) hm.ids
        hmem rfl
      simp only [ProvisionalHazardMap.attemptCount, ProvisionalHazardMap.put]
      omega

theorem whileAbove_triple {count : ProvisionalHazardMap → Nat} {limit : Nat} {turn : MapProg Unit}
    {I : ProvisionalHazardMap → Prop}
    (hturn : ∀ m, I m → limit < count m → Triple turn m (fun _ m' => I m' ∧ count m' < count m) (fun _ _ => False))
    {fuel : Nat} (hi : I m) (hf : count m ≤ limit + fuel) :
    Triple (whileAbove count limit turn fuel) m (fun _ m' => I m' ∧ count m' ≤ limit) (fun _ _ => False) := by
  induction fuel generalizing m with
  | zero =>
    unfold whileAbove
    refine Triple.get_bind ?_
    rw [if_pos (by omega)]
    exact Triple.pure ⟨hi, by omega⟩
  | succ fuel ih =>
    unfold whileAbove
    refine Triple.get_bind (Triple.ite (fun hc => Triple.pure ⟨hi, hc⟩) fun hc => ?_)
    refine Triple.bind (hturn m hi (by omega)) ?_
    rintro _ m' ⟨hi', hlt⟩
    exact ih hi' (by omega)

theorem whileAbove_within {count : ProvisionalHazardMap → Nat} {limit fuel : Nat} {turn : MapProg Unit}
    (h : count m ≤ limit) : Triple (whileAbove count limit turn fuel) m (fun _ m' => m' = m) (fun _ _ => False) := by
  refine (whileAbove_triple (I := (· = m)) ?_ rfl (by omega)).mono (fun _ _ h => h.1) fun _ _ h => h
  rintro _ rfl hlt
  exact absurd h (not_le.mpr hlt)

theorem pruneScanHistories_stuck {id : String} (hall : ∀ h ∈ m.hazards, ∀ a ∈ h.scanEvidenceHistory, a.scanId = id)
    (hlt : maxScanAttemptsPerMap < m.attemptCount) :
    Triple (pruneScanHistories id) m (fun _ _ => False) (fun _ m' => m' = m) := by
  have hnone : attemptCandidates id m = [] := by
    refine List.flatMap_eq_nil_iff.mpr fun hazard hhazard => List.map_eq_nil_iff.mpr ?_
    refine List.filter_eq_nil_iff.mpr fun item hitem => ?_
    have hmem : item.1 ∈ hazard.scanEvidenceHistory := List.fst_mem_of_mem_zipIdx hitem
    simpa using hall hazard hhazard item.1 hmem
  refine Triple.get_bind ?_
  obtain ⟨fuel, hfuel⟩ : ∃ fuel, m.attemptCount = fuel + 1 := Nat.exists_eq_succ_of_ne_zero (by omega)
  rw [hfuel]
  refine Triple.get_bind (Triple.ite (fun hle => absurd hle (not_le.mpr hlt)) fun _ => ?_)
  refine Triple.bind (Q := fun _ _ => False) ?_ fun _ _ h => h.elim
  refine Triple.get_bind ?_
  rw [hnone]
  exact Triple.throw rfl

theorem pruneScanHistories_triple (hm : m.Sound) (hc : m.attemptCount ≤ maxScanAttemptsPerMap + 1)
    (hother : maxScanAttemptsPerMap < m.attemptCount →
      ∃ h ∈ m.hazards, ∃ a ∈ h.scanEvidenceHistory, a.scanId ≠ protectedId) :
    Triple (pruneScanHistories protectedId) m
      (fun _ m' => m'.Trims protectedId m ∧ m'.attemptCount ≤ maxScanAttemptsPerMap) (fun _ _ => False) := by
  unfold pruneScanHistories
  refine Triple.get_bind ((whileAbove_triple (I := fun m' => m' = m ∨
    m'.Trims protectedId m ∧ m'.attemptCount ≤ maxScanAttemptsPerMap) ?_ (.inl rfl) (by omega)).mono ?_ nofun)
  · rintro _ (rfl | ⟨-, hle⟩) hlt
    · obtain ⟨h, hh, a, ha, hid⟩ := hother hlt
      refine (pruneScanAttempt_triple hm hh ha hid).mono ?_ nofun
      rintro _ m' ⟨htrims, hlen⟩
      exact ⟨.inr ⟨htrims, by omega⟩, by omega⟩
    · omega
  · rintro _ m' ⟨rfl | h, hle⟩
    · exact ⟨.refl hm, hle⟩
    · exact h

-- Supports

theorem mem_supportCandidates {c : SupportCandidate} : c ∈ supportCandidates protectedId m ↔
    ∃ h ∈ m.hazards, ∃ s ∈ h.collisionSupports, s.sourceScanId ≠ protectedId ∧
      c = ⟨if 1 < h.collisionSupports.length then 0 else 1, h.hypothesisId, s⟩ := by
  constructor
  · intro hc
    obtain ⟨h, hh, hc⟩ := List.mem_flatMap.mp hc
    obtain ⟨s, hs, rfl⟩ := List.mem_map.mp hc
    obtain ⟨hs, hid⟩ := List.mem_filter.mp hs
    exact ⟨h, hh, s, hs, of_decide_eq_true hid, rfl⟩
  · rintro ⟨h, hh, s, hs, hid, rfl⟩
    exact List.mem_flatMap.mpr ⟨h, hh, List.mem_map.mpr ⟨s, List.mem_filter.mpr ⟨hs, decide_eq_true hid⟩, rfl⟩⟩

theorem exists_several {target : String} (hm : m.Sound) (hlen : m.hazards.length ≤ maxHazardsPerMap)
    (htarget : ∀ h ∈ m.hazards, h.hypothesisId ≠ target → ∀ s ∈ h.collisionSupports, s.sourceScanId ≠ protectedId)
    (hlt : maxCollisionSupportsPerMap < m.supportCount) :
    ∃ h ∈ m.hazards, 1 < h.collisionSupports.length ∧ ∃ s ∈ h.collisionSupports, s.sourceScanId ≠ protectedId := by
  by_contra hnone
  have hsum := sum_le_of_one_large (n := 511) (k := 1) hm.ids
    (w := fun item : ProvisionalHazard => item.collisionSupports.length)
    (fun h hh => (hm.hazards h hh).1.supports.1) (fun h hh (hid : h.hypothesisId ≠ target) => by
      by_contra hmany
      obtain ⟨s, hs⟩ := List.exists_mem_of_length_pos (l := h.collisionSupports) (by omega)
      exact hnone ⟨h, hh, by omega, s, hs, htarget h hh hid s hs⟩)
  have hcount : m.supportCount = (m.hazards.map fun item => item.collisionSupports.length).sum := rfl
  unfold maxHazardsPerMap at hlen
  unfold maxCollisionSupportsPerMap at hlt
  omega

theorem pruneCollisionSupport_triple {target : String} (hm : m.Sound) (hlen : m.hazards.length ≤ maxHazardsPerMap)
    (htarget : ∀ h ∈ m.hazards, h.hypothesisId ≠ target → ∀ s ∈ h.collisionSupports, s.sourceScanId ≠ protectedId)
    (hlt : maxCollisionSupportsPerMap < m.supportCount) :
    Triple (pruneCollisionSupport protectedId) m
      (fun _ m' => m'.Trims protectedId m ∧ m'.attemptCount = m.attemptCount ∧ m'.supportCount + 1 = m.supportCount)
      (fun _ _ => False) := by
  obtain ⟨several, hmem, hmany, s, hs, hid⟩ := exists_several hm hlen htarget hlt
  have hcandidate := mem_supportCandidates.mpr ⟨several, hmem, s, hs, hid, rfl⟩
  unfold pruneCollisionSupport
  refine Triple.get_bind ?_
  split
  next hnone => exact absurd (List.argmin_eq_none.mp hnone) (List.ne_nil_of_mem hcandidate)
  next discarded hsome =>
    obtain ⟨hazard, hhazard, gone, hgone, hgoneId, rfl⟩ := mem_supportCandidates.mp (List.argmin_mem hsome)
    rw [hm.get? hhazard]
    have hseveral : 1 < hazard.collisionSupports.length := by
      by_contra hfew
      have hle := Prod.Lex.monotone_fst _ _ (List.le_of_mem_argmin hcandidate hsome)
      simp [SupportCandidate.order, hfew, hmany] at hle
    have holdest : ∀ s' ∈ hazard.collisionSupports, s'.sourceScanId ≠ protectedId → gone.completedAtMs ≤ s'.completedAtMs := by
      intro s' hs' hid'
      have hle := List.le_of_mem_argmin (mem_supportCandidates.mpr ⟨hazard, hhazard, s', hs', hid', rfl⟩) hsome
      simp only [SupportCandidate.order, Prod.Lex.toLex_le_toLex, lt_self_iff_false, true_and, false_or] at hle
      exact hle.elim le_of_lt fun h => h.1.le
    obtain ⟨u, hnew, htrims, hcount, hhistory, hevicted⟩ := trims_support protectedId
      (hm.hazards hazard hhazard).1 (hm.hazards hazard hhazard).2 hgone hseveral holdest
    refine Triple.step (a := u) (t := m) (by rw [raising, ofExcept_run, hnew]; rfl) (Triple.modify ⟨?_, ?_, ?_⟩)
    · have hput := hm.trims_put (n := 0) hhazard htrims (by rw [hhistory, add_zero]) (.inl ⟨rfl, rfl⟩)
      rw [add_zero] at hput
      exact hput
    · have hsum := sum_replaceAt (u := u) (w := fun item : ProvisionalHazard => item.scanEvidenceHistory.length) hm.ids
        hhazard rfl
      simp only [hhistory] at hsum
      simp only [ProvisionalHazardMap.attemptCount, ProvisionalHazardMap.put]
      omega
    · have hsum := sum_replaceAt (u := u) (w := fun item : ProvisionalHazard => item.collisionSupports.length) hm.ids
        hhazard rfl
      simp only [ProvisionalHazardMap.supportCount, ProvisionalHazardMap.put]
      omega

theorem pruneCollisionSupports_triple {target : String} (hm : m.Sound) (hlen : m.hazards.length ≤ maxHazardsPerMap)
    (htarget : ∀ h ∈ m.hazards, h.hypothesisId ≠ target → ∀ s ∈ h.collisionSupports, s.sourceScanId ≠ protectedId) :
    Triple (pruneCollisionSupports protectedId) m
      (fun _ m' => m'.Trims protectedId m ∧ m'.attemptCount = m.attemptCount ∧
        m'.supportCount ≤ maxCollisionSupportsPerMap) (fun _ _ => False) := by
  unfold pruneCollisionSupports
  refine Triple.get_bind ((whileAbove_triple (I := fun m' => m'.Trims protectedId m ∧ m'.attemptCount = m.attemptCount)
    ?_ ⟨.refl hm, rfl⟩ (by omega)).mono (fun _ _ h => ⟨h.1.1, h.1.2, h.2⟩) nofun)
  rintro m' ⟨htrims, hattempts⟩ hlt
  have hlen' : m'.hazards.length ≤ maxHazardsPerMap := by
    rw [← htrims.hazards.length_eq]
    exact hlen
  have htarget' : ∀ u ∈ m'.hazards, u.hypothesisId ≠ target → ∀ s ∈ u.collisionSupports, s.sourceScanId ≠ protectedId := by
    intro u hu hid s hs
    obtain ⟨h, hh, hhu⟩ := forall₂_right htrims.hazards hu
    exact htarget h hh (hhu.sameOrigin.hypothesisId ▸ hid) s (hhu.supports.subset hs)
  refine (pruneCollisionSupport_triple (htrims.sound hm) hlen' htarget' hlt).mono ?_ nofun
  rintro _ m'' ⟨htrims', hattempts', hcount⟩
  exact ⟨⟨htrims'.trans htrims, hattempts'.trans hattempts⟩, by omega⟩

end RobotLlm.Hazard
