import RobotLlm.Lib.Sweep
import RobotLlm.Scan.Midpoints

/-!
# The bearings looked at again, and the shortest way to them
-/

namespace RobotLlm.Scan

open RobotLlm.Lib

-- The rays by their bearings

theorem entries_byBearing_from {rays : List ActiveIrRay} {d : Dict Int ActiveIrRay}
    (hnew : ∀ ray ∈ rays, ray.requestedRelativeBearingMdeg ∉ d.keys)
    (hdistinct : (rays.map fun ray => ray.requestedRelativeBearingMdeg).Nodup) :
    (rays.foldl (fun d item => d.set item.requestedRelativeBearingMdeg item) d).entries =
      d.entries ++ rays.map fun ray => (ray.requestedRelativeBearingMdeg, ray) := by
  induction rays generalizing d with
  | nil => simp
  | cons ray rays ih =>
    obtain ⟨hother, hdistinct⟩ := List.nodup_cons.mp hdistinct
    have hfirst : d.get? ray.requestedRelativeBearingMdeg = none := Dict.get?_eq_none_iff.mpr (hnew ray List.mem_cons_self)
    rw [List.foldl_cons, ih ?_ hdistinct, Dict.entries_set_new hfirst, List.map_cons, List.append_assoc, List.singleton_append]
    intro later hlater hmem
    rcases Dict.mem_keys_set.mp hmem with heq | hmem
    · exact hother (List.mem_map.mpr ⟨later, hlater, heq⟩)
    · exact hnew later (List.mem_cons_of_mem _ hlater) hmem

section
variable {rays : List ActiveIrRay} (hdistinct : (rays.map fun ray => ray.requestedRelativeBearingMdeg).Nodup)
include hdistinct

theorem entries_byBearing : (byBearing rays).entries = rays.map fun ray => (ray.requestedRelativeBearingMdeg, ray) := by
  rw [byBearing, entries_byBearing_from (fun _ _ h => by simp [Dict.keys, Dict.empty] at h) hdistinct]
  rfl

theorem keys_byBearing : (byBearing rays).keys = rays.map fun ray => ray.requestedRelativeBearingMdeg := by
  rw [Dict.keys, entries_byBearing hdistinct, List.map_map]
  rfl

theorem get?_byBearing {ray : ActiveIrRay} (hray : ray ∈ rays) :
    (byBearing rays).get? ray.requestedRelativeBearingMdeg = some ray := by
  rw [Dict.get?_eq_some_iff, entries_byBearing hdistinct]
  exact List.mem_map.mpr ⟨ray, hray, rfl⟩

end

-- The candidates

/-- A midpoint is looked at: two rays with none between them do not agree, are
farther apart than the fine step, and nothing was measured halfway between. -/
def LooksAgain (rays : List ActiveIrRay) (fineStepMdeg midpoint : Int) : Prop :=
  ∃ left ∈ rays, ∃ right ∈ rays,
    left.requestedRelativeBearingMdeg < right.requestedRelativeBearingMdeg ∧
    (∀ ray ∈ rays, ¬ (left.requestedRelativeBearingMdeg < ray.requestedRelativeBearingMdeg ∧
      ray.requestedRelativeBearingMdeg < right.requestedRelativeBearingMdeg)) ∧
    left.blocked ≠ right.blocked ∧
    fineStepMdeg < right.requestedRelativeBearingMdeg - left.requestedRelativeBearingMdeg ∧
    midpoint = roundedHalf (left.requestedRelativeBearingMdeg + right.requestedRelativeBearingMdeg) ∧
    ∀ ray ∈ rays, ray.requestedRelativeBearingMdeg ≠ midpoint

def Adds (rays : Dict Int ActiveIrRay) (fineStepMdeg : Int) (pair : Int × Int) (midpoint : Int) : Prop :=
  (rays.get? pair.1).map (·.blocked) ≠ (rays.get? pair.2).map (·.blocked) ∧ fineStepMdeg < pair.2 - pair.1 ∧
    midpoint = roundedHalf (pair.1 + pair.2) ∧ midpoint ∉ rays.keys

theorem mem_addMidpoint {rays : Dict Int ActiveIrRay} {fineStepMdeg midpoint : Int} {candidates : List Int} {pair : Int × Int} :
    midpoint ∈ addMidpoint rays fineStepMdeg candidates pair ↔ midpoint ∈ candidates ∨ Adds rays fineStepMdeg pair midpoint := by
  obtain ⟨left, right⟩ := pair
  simp only [addMidpoint, Adds]
  split
  next hsame => simp [hsame]
  next hdiffer =>
    split
    next hnear => simp [not_lt.mpr hnear]
    next hfar =>
      have hfar := not_le.mp hfar
      split
      next hold =>
        refine ⟨.inl, ?_⟩
        rintro (h | ⟨_, _, rfl, hnew⟩)
        · exact h
        · exact absurd hold hnew
      next hnew =>
        rw [List.mem_insert_iff]
        constructor
        · rintro (rfl | h)
          · exact .inr ⟨hdiffer, hfar, rfl, hnew⟩
          · exact .inl h
        · rintro (h | ⟨_, _, rfl, _⟩)
          · exact .inr h
          · exact .inl rfl

theorem mem_addMidpoints {rays : Dict Int ActiveIrRay} {fineStepMdeg midpoint : Int} {candidates : List Int}
    {pairs : List (Int × Int)} : midpoint ∈ pairs.foldl (addMidpoint rays fineStepMdeg) candidates ↔
      midpoint ∈ candidates ∨ ∃ pair ∈ pairs, Adds rays fineStepMdeg pair midpoint := by
  induction pairs generalizing candidates with
  | nil => simp
  | cons pair pairs ih =>
    rw [List.foldl_cons, ih, mem_addMidpoint, or_assoc]
    simp

theorem addMidpoint_nodup {rays : Dict Int ActiveIrRay} {fineStepMdeg : Int} {candidates : List Int} (pair : Int × Int)
    (h : candidates.Nodup) : (addMidpoint rays fineStepMdeg candidates pair).Nodup := by
  simp only [addMidpoint]
  split_ifs
  · exact h
  · exact h
  · exact h
  · exact h.insert

theorem midpointCandidates_nodup (rays : List ActiveIrRay) (fineStepMdeg : Int) : (midpointCandidates rays fineStepMdeg).Nodup := by
  have hpairs : ∀ (pairs : List (Int × Int)) (candidates : List Int), candidates.Nodup →
      (pairs.foldl (addMidpoint (byBearing rays) fineStepMdeg) candidates).Nodup := by
    intro pairs
    induction pairs with
    | nil => exact fun _ h => h
    | cons pair pairs ih => exact fun candidates h => ih _ (addMidpoint_nodup pair h)
  exact hpairs _ _ List.nodup_nil

theorem sortedOffsets_mem {rays : Dict Int ActiveIrRay} {offset : Int} : offset ∈ sortedOffsets rays ↔ offset ∈ rays.keys :=
  List.mem_insertionSort _

theorem sortedOffsets_ascending (rays : Dict Int ActiveIrRay) : (sortedOffsets rays).Pairwise (· < ·) := by
  have hsorted : (sortedOffsets rays).Pairwise (· ≤ ·) := List.pairwise_insertionSort _ _
  have hnodup : (sortedOffsets rays).Nodup := (List.perm_insertionSort _ _).nodup_iff.mpr Dict.keys_nodup
  exact (hsorted.and hnodup).imp fun h => lt_of_le_of_ne h.1 h.2

theorem mem_midpointCandidates {rays : List ActiveIrRay} {fineStepMdeg midpoint : Int}
    (hdistinct : (rays.map fun ray => ray.requestedRelativeBearingMdeg).Nodup) :
    midpoint ∈ midpointCandidates rays fineStepMdeg ↔ LooksAgain rays fineStepMdeg midpoint := by
  have hkeys : ∀ {offset}, offset ∈ (byBearing rays).keys ↔ ∃ ray ∈ rays, ray.requestedRelativeBearingMdeg = offset := by
    intro offset
    rw [keys_byBearing hdistinct, List.mem_map]
  simp only [midpointCandidates, mem_addMidpoints, List.not_mem_nil, false_or, Prod.exists,
    Sweep.mem_zip_tail_iff (sortedOffsets_ascending _), sortedOffsets_mem, hkeys, Adds]
  constructor
  · rintro ⟨_, _, ⟨⟨left, hleft, rfl⟩, ⟨right, hright, rfl⟩, hlt, hnone⟩, hdiffer, hfar, hmidpoint, hnew⟩
    rw [get?_byBearing hdistinct hleft, get?_byBearing hdistinct hright] at hdiffer
    refine ⟨left, hleft, right, hright, hlt, fun ray hray => hnone _ ⟨ray, hray, rfl⟩, by simpa using hdiffer, hfar, hmidpoint, ?_⟩
    exact fun ray hray heq => hnew ⟨ray, hray, heq⟩
  · rintro ⟨left, hleft, right, hright, hlt, hnone, hdiffer, hfar, hmidpoint, hnew⟩
    refine ⟨_, _, ⟨⟨left, hleft, rfl⟩, ⟨right, hright, rfl⟩, hlt, ?_⟩, ?_, hfar, hmidpoint, ?_⟩
    · rintro _ ⟨ray, hray, rfl⟩
      exact hnone ray hray
    · rw [get?_byBearing hdistinct hleft, get?_byBearing hdistinct hright]
      simpa using hdiffer
    · rintro ⟨ray, hray, heq⟩
      exact hnew ray hray heq

-- The way

theorem restoringTravel_from (previous distance : Int) (schedule : List Int) :
    (let (last, total) := schedule.foldl (fun (previous, distance) target => (target, distance + |target - previous|))
      (previous, distance)
    total + |last|) = distance + Sweep.travel 0 previous schedule := by
  induction schedule generalizing previous distance with
  | nil => simp
  | cons target schedule ih =>
    rw [List.foldl_cons, ih, Sweep.travel_cons, add_assoc]

theorem restoringTravel_eq (currentOffsetMdeg : Int) (schedule : List Int) :
    restoringTravel currentOffsetMdeg schedule = Sweep.travel 0 currentOffsetMdeg schedule := by
  have h := restoringTravel_from currentOffsetMdeg 0 schedule
  rw [zero_add] at h
  exact h

theorem travel_le_of_sweepKey {currentOffsetMdeg : Int} {first second : List Int}
    (h : sweepKey currentOffsetMdeg first ≤ sweepKey currentOffsetMdeg second) :
    restoringTravel currentOffsetMdeg first ≤ restoringTravel currentOffsetMdeg second := by
  rcases Prod.Lex.toLex_le_toLex.mp h with hlt | ⟨heq, _⟩
  · exact le_of_lt hlt
  · exact le_of_eq heq

theorem transitionMidpoints_sweep (rays : List ActiveIrRay) (fineStepMdeg currentOffsetMdeg : Int) :
    let ascending := (midpointCandidates rays fineStepMdeg).insertionSort (· ≤ ·)
    let result := transitionMidpoints rays fineStepMdeg currentOffsetMdeg
    result.Perm ascending ∧
      restoringTravel currentOffsetMdeg result ≤ restoringTravel currentOffsetMdeg ascending ∧
      restoringTravel currentOffsetMdeg result ≤ restoringTravel currentOffsetMdeg ascending.reverse := by
  intro ascending result
  by_cases hempty : ascending = []
  · have hresult : result = ascending := by simp [result, transitionMidpoints, ascending, hempty]
    simp [hresult, hempty]
  · by_cases hless : sweepKey currentOffsetMdeg ascending.reverse < sweepKey currentOffsetMdeg ascending
    · have hresult : result = ascending.reverse := by
        simp only [result, transitionMidpoints]
        rw [if_neg hempty, if_pos hless]
      rw [hresult]
      exact ⟨List.reverse_perm _, travel_le_of_sweepKey hless.le, le_rfl⟩
    · have hresult : result = ascending := by
        simp only [result, transitionMidpoints]
        rw [if_neg hempty, if_neg hless]
      rw [hresult]
      exact ⟨List.Perm.refl _, le_rfl, travel_le_of_sweepKey (not_lt.mp hless)⟩

/-- The bearings that are looked at again are those between rays that do not
agree, and no other order of them is shorter with the way back. -/
theorem transitionMidpoints_shortest (rays : List ActiveIrRay) (fineStepMdeg currentOffsetMdeg : Int)
    (hdistinct : (rays.map fun ray => ray.requestedRelativeBearingMdeg).Nodup) :
    (transitionMidpoints rays fineStepMdeg currentOffsetMdeg).Nodup ∧
    (∀ midpoint, midpoint ∈ transitionMidpoints rays fineStepMdeg currentOffsetMdeg ↔ LooksAgain rays fineStepMdeg midpoint) ∧
    ∀ order : List Int, order.Perm (transitionMidpoints rays fineStepMdeg currentOffsetMdeg) →
      restoringTravel currentOffsetMdeg (transitionMidpoints rays fineStepMdeg currentOffsetMdeg) ≤
        restoringTravel currentOffsetMdeg order := by
  obtain ⟨hperm, hascending, hdescending⟩ := transitionMidpoints_sweep rays fineStepMdeg currentOffsetMdeg
  refine ⟨(hperm.trans (List.perm_insertionSort _ _)).nodup_iff.mpr (midpointCandidates_nodup rays fineStepMdeg), fun midpoint => ?_, fun order horder => ?_⟩
  · rw [hperm.mem_iff, List.mem_insertionSort, mem_midpointCandidates hdistinct]
  · have hsorted : ((midpointCandidates rays fineStepMdeg).insertionSort (· ≤ ·)).Pairwise (· ≤ ·) := List.pairwise_insertionSort _ _
    simp only [restoringTravel_eq] at hascending hdescending ⊢
    rcases Sweep.sweep_le_travel hsorted (horder.trans hperm) with h | h
    · exact hascending.trans h
    · exact hdescending.trans h

def rayAt (bearing : Int) (blocked : Bool) (hbearing : -90000 ≤ bearing ∧ bearing ≤ 90000) : ActiveIrRay where
  requestedRelativeBearingMdeg := bearing
  actualRelativeBearingMdeg := bearing
  blocked := blocked
  raw := none
  filtered := none
  bearings_valid := ⟨hbearing, by omega, by omega⟩
  readings_valid := ⟨by simp [Hazard.ReadingOk], by simp [Hazard.ReadingOk]⟩
  ordinal := 1
  observedAtMs := 1
  stateVersion := 1
  sequence_valid := ⟨by omega, by omega, by omega⟩

def twoSidedRays : List ActiveIrRay :=
  [rayAt 0 true ⟨by omega, by omega⟩, rayAt (-10000) false ⟨by omega, by omega⟩, rayAt 15000 false ⟨by omega, by omega⟩]

example : transitionMidpoints twoSidedRays 2500 15000 = [7500, -5000] := by decide +kernel

theorem transitionMidpoints_shortest_twoSided :
    (∀ midpoint, midpoint ∈ transitionMidpoints twoSidedRays 2500 15000 ↔ LooksAgain twoSidedRays 2500 midpoint) ∧
    ∀ order : List Int, order.Perm (transitionMidpoints twoSidedRays 2500 15000) →
      restoringTravel 15000 (transitionMidpoints twoSidedRays 2500 15000) ≤ restoringTravel 15000 order :=
  (transitionMidpoints_shortest twoSidedRays 2500 15000 (by decide)).2

end RobotLlm.Scan
