import RobotLlm.Lib.RealTrig
import RobotLlm.Navigation.Simulator

/-!
# The sensor sees what the robot would hit

The values the ray is measured by are exactly the distances at which it first
meets a wall or an expanded obstacle, so that their least is the distance to
the first collision.
-/

namespace RobotLlm.Navigation.DifferentialDriveSimulator

open RobotLlm.Lib

-- The oracle

section
variable {R : Type} [Field R] [LinearOrder R] {s : DifferentialDriveSimulator R} {x y : R}

theorem collides_iff : s.collides x y = true ↔
    (x ≤ s.settings.robotRadiusMm ∨ (s.world.widthMm : R) - s.settings.robotRadiusMm ≤ x) ∨
    (y ≤ s.settings.robotRadiusMm ∨ (s.world.heightMm : R) - s.settings.robotRadiusMm ≤ y) ∨
    ∃ o ∈ s.world.obstacles, (x - o.xMm) ^ 2 + (y - o.yMm) ^ 2 ≤ s.expanded o ^ 2 := by
  unfold collides
  dsimp only
  split_ifs with h
  · simp only [true_iff]
    rcases h with h | h | h | h
    · exact .inl (.inl h)
    · exact .inr (.inl (.inl h))
    · exact .inl (.inr h)
    · exact .inr (.inl (.inr h))
  · simp only [not_or] at h
    simp [h.1, h.2.1, h.2.2.1, h.2.2.2]

end

section
variable {R : Type} [Field R] [LinearOrder R] [IsStrictOrderedRing R] {s : DifferentialDriveSimulator R}
  {direction position near far m t dx dy : R} {o : CircleObstacle} {c : R × String}

theorem tiny_pos : (0 : R) < tiny := by
  unfold tiny
  positivity

theorem mem_wallAhead (h : m ∈ wallAhead direction position near far) :
    position + m * direction = near ∨ position + m * direction = far := by
  have htiny := tiny_pos (R := R)
  unfold wallAhead at h
  split_ifs at h with hforward hbackward
  · right
    rw [List.mem_singleton.mp h, div_mul_cancel₀ _ (ne_of_gt (htiny.trans hforward))]
    ring
  · left
    rw [List.mem_singleton.mp h, div_mul_cancel₀ _ (ne_of_lt (hbackward.trans (neg_neg_of_pos htiny)))]
    ring
  · cases h

theorem wallAhead_of_reach (hdirection : direction = 0 ∨ tiny < |direction|) (hinside : near < position ∧ position < far)
    (ht : 0 ≤ t) (hreach : position + t * direction ≤ near ∨ far ≤ position + t * direction) :
    ∃ m ∈ wallAhead direction position near far, 0 ≤ m ∧ m ≤ t := by
  have htiny := tiny_pos (R := R)
  unfold wallAhead
  rcases hdirection with hzero | hsome
  · subst hzero
    rw [mul_zero, add_zero] at hreach
    rcases hreach with h | h
    · exact absurd h (not_le.mpr hinside.1)
    · exact absurd h (not_le.mpr hinside.2)
  · rcases lt_abs.mp hsome with hforward | hbackward
    · rw [if_pos hforward]
      have hpos : 0 < direction := htiny.trans hforward
      have hfar : far ≤ position + t * direction := by
        refine hreach.resolve_left fun h => ?_
        have := mul_nonneg ht hpos.le
        linarith [hinside.1]
      refine ⟨_, List.mem_singleton_self _, div_nonneg (by linarith [hinside.2]) hpos.le, ?_⟩
      rw [div_le_iff₀ hpos]
      linarith
    · have hback : direction < -tiny := by linarith
      have hneg : direction < 0 := hback.trans (neg_neg_of_pos htiny)
      rw [if_neg (by linarith), if_pos hback]
      have hnear : position + t * direction ≤ near := by
        refine hreach.resolve_right fun h => ?_
        have := mul_nonpos_of_nonneg_of_nonpos ht hneg.le
        linarith [hinside.2]
      refine ⟨_, List.mem_singleton_self _, div_nonneg_of_nonpos (by linarith [hinside.1]) hneg.le, ?_⟩
      rw [div_le_iff_of_neg hneg]
      linarith

omit [LinearOrder R] [IsStrictOrderedRing R] in
theorem distSq_along (s : DifferentialDriveSimulator R) (o : CircleObstacle) (dx dy t : R) :
    (s.xMm + t * dx - o.xMm) ^ 2 + (s.yMm + t * dy - o.yMm) ^ 2 = raySq (o.xMm - s.xMm) (o.yMm - s.yMm) dx dy t := by
  unfold raySq
  ring

theorem collides_at_wall (h : m ∈ s.boundaryCandidates dx dy) : s.collides (s.xMm + m * dx) (s.yMm + m * dy) = true := by
  rw [collides_iff]
  rcases List.mem_append.mp h with h | h
  · exact .inl ((mem_wallAhead h).imp (fun h => h.le) fun h => h.ge)
  · exact .inr (.inl ((mem_wallAhead h).imp (fun h => h.le) fun h => h.ge))

end

-- The values of the obstacles

section
variable {s : DifferentialDriveSimulator ℝ} {dx dy t : ℝ} {o : CircleObstacle} {c : ℝ × String}

theorem obstacleCandidate_enters (hunit : dx ^ 2 + dy ^ 2 = 1) (h : s.obstacleCandidate dx dy o = some c) :
    c.2 = o.obstacleId ∧ 0 ≤ c.1 ∧ raySq (o.xMm - s.xMm) (o.yMm - s.yMm) dx dy c.1 = s.expanded o ^ 2 := by
  unfold obstacleCandidate at h
  dsimp only at h
  split_ifs at h with hbehind hbeside hahead
  cases h
  refine ⟨rfl, hahead, ?_⟩
  have hnonneg : 0 ≤ s.expanded o ^ 2 - rayOffsetSq (o.xMm - s.xMm) (o.yMm - s.yMm) dx dy := sub_nonneg.mpr (not_lt.mp hbeside)
  exact raySq_entry hunit (Real.sq_sqrt (le_max_left _ _) |>.trans (max_eq_right hnonneg))

theorem obstacleCandidate_of_hit (hunit : dx ^ 2 + dy ^ 2 = 1)
    (hout : s.expanded o ^ 2 < ((o.xMm : ℝ) - s.xMm) ^ 2 + ((o.yMm : ℝ) - s.yMm) ^ 2) (ht : 0 ≤ t)
    (hhit : raySq (o.xMm - s.xMm) (o.yMm - s.yMm) dx dy t ≤ s.expanded o ^ 2) :
    ∃ c, s.obstacleCandidate dx dy o = some c ∧ c.1 ≤ t := by
  have hprojection := rayProjection_pos hunit hout ht hhit
  have hoffset := rayOffsetSq_le hunit hhit
  have hhalf : Real.sqrt (max 0 (s.expanded o ^ 2 - rayOffsetSq (o.xMm - s.xMm) (o.yMm - s.yMm) dx dy)) ^ 2 =
      s.expanded o ^ 2 - rayOffsetSq (o.xMm - s.xMm) (o.yMm - s.yMm) dx dy :=
    (Real.sq_sqrt (le_max_left _ _)).trans (max_eq_right (sub_nonneg.mpr hoffset))
  refine ⟨(_, o.obstacleId), ?_, entry_le_of_hit hunit (Real.sqrt_nonneg _) hhalf hhit⟩
  refine (if_neg (not_lt.mpr hprojection.le)).trans ((if_neg (not_lt.mpr hoffset)).trans (if_pos ?_))
  exact entry_nonneg hout hprojection.le hhalf

-- The nearest of them

theorem nearer_cases (a b : ℝ × String) : (nearer a b = a ∨ nearer a b = b) ∧ (nearer a b).1 ≤ a.1 ∧ (nearer a b).1 ≤ b.1 := by
  unfold nearer
  split_ifs with h
  · exact ⟨.inr rfl, h.elim le_of_lt fun h => h.1.le, le_rfl⟩
  · exact ⟨.inl rfl, le_rfl, not_lt.mp (not_or.mp h).1⟩

theorem foldl_nearer (cs : List (ℝ × String)) (a : ℝ × String) :
    (cs.foldl nearer a = a ∨ cs.foldl nearer a ∈ cs) ∧ (cs.foldl nearer a).1 ≤ a.1 ∧ ∀ c ∈ cs, (cs.foldl nearer a).1 ≤ c.1 := by
  induction cs generalizing a with
  | nil => exact ⟨.inl rfl, le_rfl, fun c hc => by cases hc⟩
  | cons b cs ih =>
    obtain ⟨hmem, hle, hall⟩ := ih (nearer a b)
    obtain ⟨heither, ha, hb⟩ := nearer_cases a b
    refine ⟨?_, hle.trans ha, fun c hc => ?_⟩
    · rcases hmem with h | h
      · rcases heither with h' | h'
        · exact .inl (h.trans h')
        · exact .inr (List.mem_cons.mpr (.inl (h.trans h')))
      · exact .inr (List.mem_cons_of_mem b h)
    · rcases List.mem_cons.mp hc with rfl | hc
      · exact hle.trans hb
      · exact hall c hc

theorem nearest_spec {cs : List (ℝ × String)} (h : nearest cs = some c) : c ∈ cs ∧ ∀ c' ∈ cs, c.1 ≤ c'.1 := by
  cases cs with
  | nil => cases h
  | cons a cs =>
    cases h
    obtain ⟨hmem, hle, hall⟩ := foldl_nearer cs a
    refine ⟨?_, fun c' hc' => ?_⟩
    · rcases hmem with h | h
      · exact List.mem_cons.mpr (.inl h)
      · exact List.mem_cons_of_mem a h
    · rcases List.mem_cons.mp hc' with rfl | hc'
      · exact hle
      · exact hall c' hc'

-- Everything ahead

structure Clear (s : DifferentialDriveSimulator ℝ) : Prop where
  width : (s.settings.robotRadiusMm : ℝ) < s.xMm ∧ s.xMm < s.world.widthMm - s.settings.robotRadiusMm
  height : (s.settings.robotRadiusMm : ℝ) < s.yMm ∧ s.yMm < s.world.heightMm - s.settings.robotRadiusMm
  obstacles : ∀ o ∈ s.world.obstacles, s.expanded o ^ 2 < ((o.xMm : ℝ) - s.xMm) ^ 2 + ((o.yMm : ℝ) - s.yMm) ^ 2

theorem clear_of_not_collides (h : s.collides s.xMm s.yMm = false) : s.Clear := by
  have hnot : ¬ s.collides s.xMm s.yMm = true := by simp [h]
  rw [collides_iff] at hnot
  simp only [not_or, not_le, not_exists, not_and] at hnot
  refine ⟨hnot.1, hnot.2.1, fun o ho => ?_⟩
  have hfar := hnot.2.2 o ho
  rwa [sub_sq_comm s.xMm, sub_sq_comm s.yMm] at hfar

theorem mem_positiveObstacles : c ∈ s.positiveObstacles dx dy ↔
    0 ≤ c.1 ∧ ∃ o ∈ s.world.obstacles, s.obstacleCandidate dx dy o = some c := by
  rw [positiveObstacles, List.mem_filter, List.mem_filterMap, decide_eq_true_iff]
  exact and_comm

theorem positives_collide (hunit : dx ^ 2 + dy ^ 2 = 1) {m : ℝ} (h : m ∈ s.positives dx dy) :
    0 ≤ m ∧ s.collides (s.xMm + m * dx) (s.yMm + m * dy) = true := by
  rcases List.mem_append.mp h with h | h
  · obtain ⟨hmem, hpos⟩ := List.mem_filter.mp h
    exact ⟨of_decide_eq_true hpos, collides_at_wall hmem⟩
  · obtain ⟨c, hc, rfl⟩ := List.mem_map.mp h
    obtain ⟨hpos, o, ho, hcandidate⟩ := mem_positiveObstacles.mp hc
    refine ⟨hpos, collides_iff.mpr (.inr (.inr ⟨o, ho, ?_⟩))⟩
    rw [distSq_along]
    exact (obstacleCandidate_enters hunit hcandidate).2.2.le

theorem positives_first (hunit : dx ^ 2 + dy ^ 2 = 1) (hclear : s.Clear) (hx : dx = 0 ∨ tiny < |dx|) (hy : dy = 0 ∨ tiny < |dy|)
    (ht : 0 ≤ t) (hhit : s.collides (s.xMm + t * dx) (s.yMm + t * dy) = true) : ∃ m ∈ s.positives dx dy, m ≤ t := by
  have hwall : ∀ m ∈ s.boundaryCandidates dx dy, 0 ≤ m → m ≤ t → ∃ m ∈ s.positives dx dy, m ≤ t := fun m hm hpos hle =>
    ⟨m, List.mem_append_left _ (List.mem_filter.mpr ⟨hm, decide_eq_true hpos⟩), hle⟩
  rcases collides_iff.mp hhit with hwidth | hheight | ⟨o, ho, hcircle⟩
  · obtain ⟨m, hm, hpos, hle⟩ := wallAhead_of_reach hx hclear.width ht hwidth
    exact hwall m (List.mem_append_left _ hm) hpos hle
  · obtain ⟨m, hm, hpos, hle⟩ := wallAhead_of_reach hy hclear.height ht hheight
    exact hwall m (List.mem_append_right _ hm) hpos hle
  · rw [distSq_along] at hcircle
    obtain ⟨c, hc, hle⟩ := obstacleCandidate_of_hit hunit (hclear.obstacles o ho) ht hcircle
    refine ⟨c.1, List.mem_append_right _ (List.mem_map.mpr ⟨c, mem_positiveObstacles.mpr ⟨?_, o, ho, hc⟩, rfl⟩), hle⟩
    exact (obstacleCandidate_enters hunit hc).2.1

theorem clearance_le {range m : ℝ} {values : List ℝ} (hm : m ∈ values) : clearance range values ≤ m := by
  cases hleast : values.min? with
  | none => simp [List.min?_eq_none_iff.mp hleast] at hm
  | some least =>
    rw [clearance, hleast]
    exact (min_le_right _ _).trans ((List.min?_eq_some_iff.mp hleast).2 m hm)

theorem clearance_mem {range : ℝ} {values : List ℝ} (h : clearance range values < range) : clearance range values ∈ values := by
  cases hleast : values.min? with
  | none =>
    rw [clearance, hleast] at h
    exact absurd h (lt_irrefl range)
  | some least =>
    rw [clearance, hleast] at h ⊢
    have hlt : least < range := (min_lt_iff.mp h).resolve_left (lt_irrefl range)
    change min range least ∈ values
    rw [min_eq_right hlt.le]
    exact (List.min?_eq_some_iff.mp hleast).1

-- The clearance

/-- The collision oracle at a distance along the ray. -/
noncomputable def hits (s : DifferentialDriveSimulator ℝ) (angle t : ℝ) : Bool :=
  s.collides (s.xMm + t * Real.cos angle) (s.yMm + t * Real.sin angle)

/-- The direction has no part along an axis, or more than the tolerance. -/
def Sighted (angle : ℝ) : Prop :=
  (Real.cos angle = 0 ∨ 1 / 10 ^ 12 < |Real.cos angle|) ∧ (Real.sin angle = 0 ∨ 1 / 10 ^ 12 < |Real.sin angle|)

theorem unit_direction (angle : ℝ) : Real.cos angle ^ 2 + Real.sin angle ^ 2 = 1 := Real.cos_sq_add_sin_sq angle

theorem not_hits_before {angle range : ℝ} (hfree : s.collides s.xMm s.yMm = false) (hsighted : Sighted angle) (ht : 0 ≤ t)
    (hbefore : t < clearance range (s.positives (Real.cos angle) (Real.sin angle))) : s.hits angle t = false := by
  rw [← Bool.not_eq_true]
  intro hhit
  obtain ⟨m, hm, hle⟩ := positives_first (unit_direction angle) (clear_of_not_collides hfree) hsighted.1 hsighted.2 ht hhit
  exact absurd (clearance_le hm) (not_le.mpr (hle.trans_lt hbefore))

theorem not_beyondBoundary {boundaries : List ℝ} {distance m : ℝ} (h : beyondBoundary boundaries distance = false)
    (hm : m ∈ boundaries) : distance ≤ m := by
  cases hleast : boundaries.min? with
  | none => simp [List.min?_eq_none_iff.mp hleast] at hm
  | some least =>
    rw [beyondBoundary, hleast, Option.any_some, decide_eq_false_iff_not, not_lt] at h
    exact h.trans ((List.min?_eq_some_iff.mp hleast).2 m hm)

theorem forwardObject_first {id : String} {angle : ℝ} (h : (s.rayClearanceObservation angle).2 = some id) :
    ∃ c, c ∈ s.positiveObstacles (Real.cos angle) (Real.sin angle) ∧ c.2 = id ∧
      ∀ m ∈ s.positives (Real.cos angle) (Real.sin angle), c.1 ≤ m := by
  obtain ⟨c, hnearest, hc⟩ := Option.bind_eq_some_iff.mp h
  split at hc
  next hahead =>
    obtain ⟨hmem, hall⟩ := nearest_spec hnearest
    refine ⟨c, hmem, Option.some.inj hc, fun m hm => ?_⟩
    rcases List.mem_append.mp hm with hm | hm
    · exact not_beyondBoundary hahead.1 hm
    · obtain ⟨c', hc', rfl⟩ := List.mem_map.mp hm
      exact hall c' hc'
  next => cases hc

/-- Along a ray the robot can see, the reported clearance ends in the
millimetre of the first collision, and a reported obstacle is met then. -/
theorem rayClearance_agrees (s : DifferentialDriveSimulator ℝ) (angle : ℝ) (hfree : s.collides s.xMm s.yMm = false)
    (hsighted : Sighted angle) :
    (∀ t : ℝ, 0 ≤ t → t < (s.rayClearanceObservation angle).1 → s.hits angle t = false) ∧
    ((s.rayClearanceObservation angle).1 < s.settings.rangeMaxMm →
      ∃ t : ℝ, (s.rayClearanceObservation angle).1 ≤ t ∧ t < (s.rayClearanceObservation angle).1 + 1 ∧ s.hits angle t = true) ∧
    (∀ id, (s.rayClearanceObservation angle).2 = some id → ∃ o ∈ s.world.obstacles, o.obstacleId = id ∧
      ∃ t : ℝ, 0 ≤ t ∧ (s.xMm + t * Real.cos angle - o.xMm) ^ 2 + (s.yMm + t * Real.sin angle - o.yMm) ^ 2 ≤ s.expanded o ^ 2 ∧
        ∀ t' : ℝ, 0 ≤ t' → t' < t → s.hits angle t' = false) := by
  have hunit := unit_direction angle
  set values := s.positives (Real.cos angle) (Real.sin angle) with hvalues
  have hrange : ∃ range : ℝ, range = (s.settings.rangeMaxMm : ℝ) := ⟨_, rfl⟩
  obtain ⟨range, hrange⟩ := hrange
  have hreported : (s.rayClearanceObservation angle).1 = max 0 ⌊clearance range values⌋ := by
    rw [hrange, hvalues]
    rfl
  have hrangePos : 0 ≤ range := by
    have h := s.settings.rangeMaxOk.1
    rw [hrange]
    exact_mod_cast (show (0 : Int) ≤ s.settings.rangeMaxMm by omega)
  have hnonneg : 0 ≤ clearance range values := by
    rcases lt_or_ge (clearance range values) range with hlt | hge
    · exact (positives_collide hunit (clearance_mem hlt)).1
    · exact hrangePos.trans hge
  have hfloor : (s.rayClearanceObservation angle).1 = ⌊clearance range values⌋ := by
    rw [hreported, max_eq_right (Int.floor_nonneg.mpr hnonneg)]
  refine ⟨fun t ht hlt => ?_, fun hlt => ?_, fun id hid => ?_⟩
  · rw [hfloor] at hlt
    exact not_hits_before hfree hsighted ht (hlt.trans_le (Int.floor_le _))
  · rw [hfloor] at hlt ⊢
    have hwithin : clearance range values < range := by
      have h : (⌊clearance range values⌋ : ℝ) + 1 ≤ range := by
        rw [hrange] at hlt ⊢
        exact_mod_cast hlt
      exact (Int.lt_floor_add_one _).trans_le h
    exact ⟨_, Int.floor_le _, Int.lt_floor_add_one _, (positives_collide hunit (clearance_mem hwithin)).2⟩
  · obtain ⟨c, hc, hcid, hfirst⟩ := forwardObject_first hid
    obtain ⟨hpos, o, ho, hcandidate⟩ := mem_positiveObstacles.mp hc
    obtain ⟨hoid, -, henters⟩ := obstacleCandidate_enters hunit hcandidate
    refine ⟨o, ho, hoid ▸ hcid, c.1, hpos, ?_, fun t' ht' hlt => ?_⟩
    · rw [distSq_along, henters]
    · rw [← Bool.not_eq_true]
      intro hhit
      obtain ⟨m, hm, hle⟩ := positives_first hunit (clear_of_not_collides hfree) hsighted.1 hsighted.2 ht' hhit
      exact absurd (hfirst m hm) (not_le.mpr (hle.trans_lt hlt))

/-- A robot in a square room, with one pillar straight ahead of it. -/
def pillarAhead : DifferentialDriveSimulator ℝ where
  world :=
    { widthMm := 1000
      heightMm := 1000
      obstacles := [⟨"pillar", 600, 500, 100, by decide, by decide, by decide, by decide⟩]
      widthOk := by decide
      heightOk := by decide
      idsOk := List.nodup_singleton _
      insideOk := fun o ho => by
        rw [List.mem_singleton.mp ho]
        decide }
  settings := ⟨65, 2000, by decide, by decide⟩
  xMm := 200
  yMm := 500

theorem pillarAhead_free : pillarAhead.collides pillarAhead.xMm pillarAhead.yMm = false := by
  norm_num [pillarAhead, collides, expanded]

theorem sighted_zero : Sighted 0 := by
  refine ⟨Or.inr ?_, Or.inl Real.sin_zero⟩
  rw [Real.cos_zero]
  norm_num

theorem rayClearance_agrees_pillar :
    (∀ t : ℝ, 0 ≤ t → t < (pillarAhead.rayClearanceObservation 0).1 → pillarAhead.hits 0 t = false) ∧
    ((pillarAhead.rayClearanceObservation 0).1 < pillarAhead.settings.rangeMaxMm →
      ∃ t : ℝ, (pillarAhead.rayClearanceObservation 0).1 ≤ t ∧ t < (pillarAhead.rayClearanceObservation 0).1 + 1 ∧
        pillarAhead.hits 0 t = true) :=
  have h := rayClearance_agrees pillarAhead 0 pillarAhead_free sighted_zero
  ⟨h.1, h.2.1⟩

end

end RobotLlm.Navigation.DifferentialDriveSimulator
