import RobotLlm.Blast.PlanarProjection
import RobotLlm.Blast.ScanFrontLaws
import RobotLlm.Lib.RealTrig

/-!
# Which scans become views of the map

Contract, projection and map check the same rays. What passes the contract is
kept, but for the few scans that lie between two of these checks.
-/

namespace RobotLlm.Blast.PlanarProjection

set_option linter.unusedSectionVars false

open RobotLlm.Lib
open RobotLlm.Lib.PyValue (field)
open RobotLlm.Blast.Scan
open RobotLlm.Blast.SpatialMap (ScanPoint ScanPose Projection ScanView ScanViewOk ScanPointOk scanSides scanAngularRaySides coordinate integer
  bearingOnSide rangeOk echoOk poseOk)

-- What the contract says of a ray

section
variable {R : Type} [Field R] [LinearOrder R] [FloorRing R]

/-- The rays that count: the dense ones where there are any. -/
def raysIn (scan : PyDict R) : List (PyDict R) :=
  match evidenceRays scan with
  | .list items => items.filterMap PyValue.dict?
  | _ => []

def relativeOf (ray : PyDict R) : R := (finiteNumber (field ray "relative_heading_deg")).getD 0

def distanceOf (ray : PyDict R) : R := (finiteNumber (field ray "distance_mm")).getD 0

def nameOf (ray : PyDict R) : String := ((ray.lookup "side").bind PyValue.str?).getD ""

def Measured (ray : PyDict R) : Bool := (field ray "range_state").isStr rangeMeasured

theorem dict_of_rayOk {measured : Bool} {startImu : Option R} {value : PyValue R} (h : rayOk measured startImu value = true) :
    ∃ ray, value = .dict ray := by
  cases value <;> first | exact ⟨_, rfl⟩ | cases h

theorem rayOk_relative {measured : Bool} {startImu : Option R} {ray : PyDict R} (h : rayOk measured startImu (.dict ray) = true) :
    finiteNumber (field ray "relative_heading_deg") = some (relativeOf ray) := by
  rw [rayOk, Bool.and_eq_true] at h
  obtain ⟨-, h⟩ := h
  split at h
  next relative _ _ hrelative => rw [relativeOf, hrelative, Option.getD_some]
  next => cases h

theorem rayOk_measured {measured : Bool} {startImu : Option R} {ray : PyDict R} (h : rayOk measured startImu (.dict ray) = true)
    (hmeasured : Measured ray = true) :
    finiteNumber (field ray "distance_mm") = some (distanceOf ray) ∧ 0 ≤ distanceOf ray ∧ distanceOf ray < 2000 := by
  rw [rayOk, Bool.and_eq_true, Bool.and_eq_true, Bool.and_eq_true] at h
  obtain ⟨⟨⟨-, hstate⟩, -⟩, -⟩ := h
  rw [Measured] at hmeasured
  have hname : rangeMeasured = blastRangeState (field ray "distance_mm") := by
    cases hvalue : field ray "range_state" <;> rw [hvalue] at hstate hmeasured <;> simp [PyValue.isStr] at hstate hmeasured
    rw [← hstate, hmeasured]
  rw [distanceOf]
  rw [blastRangeState] at hname
  split at hname
  next value hvalue =>
    rw [hvalue, Option.getD_some]
    split at hname
    next hrange =>
      split at hname
      · simp [rangeMeasured, rangeNoValidDistance] at hname
      next hne => exact ⟨rfl, hrange.1, lt_of_le_of_ne hrange.2 hne⟩
    next => simp [rangeMeasured, rangeInvalid] at hname
  next => simp [rangeMeasured, rangeInvalid] at hname

/-- The rays under `rays`, which are those of the front for a whole scan. -/
structure Accepted (scan : PyDict R) (rays : List (PyValue R)) : Prop where
  front : field scan "rays" = .list rays
  checked : raysOk scan rays = true
  evidence : ∃ items, evidenceRays scan = .list items
  start : finiteNumber (field scan "start_heading_deg") = some 0
  residue : ∃ residue, finiteNumber (opposedResidue scan) = some residue

theorem accepted_of_valid {scan : PyDict R} (h : validateBlastScanRayContract (.dict scan) = .ok scan) : ∃ rays, Accepted scan rays := by
  rw [validateBlastScanRayContract] at h
  split at h
  case isFalse => cases h
  split at h
  case h_2 => cases h
  next evidence hevidence =>
  split at h
  case h_1 => cases h
  next headings _ =>
  split at h
  case isFalse => cases h
  next hok =>
  have hcontract := (Bool.and_eq_true _ _ ▸ hok).2
  rw [contractOk, Bool.and_eq_true, Bool.and_eq_true] at hcontract
  obtain ⟨⟨-, hrays⟩, hend⟩ := hcontract
  split at hrays
  case h_2 => cases hrays
  next rays hfield =>
  split at hend
  case h_2 => cases hend
  next start final restoration imu sweep _ _ hrestoration _ _ =>
  refine ⟨rays, hfield, hrays, ⟨_, hevidence⟩, ?_, ?_⟩
  · simp only [endOk, Bool.and_eq_true, decide_eq_true_iff] at hend
    tauto
  · unfold restorationOf at hrestoration
    simp only [Option.bind_eq_bind, Option.bind_eq_some_iff] at hrestoration
    obtain ⟨fields, hfields, _, _, _, _, residue, hresidue, -⟩ := hrestoration
    refine ⟨residue, ?_⟩
    rw [opposedResidue]
    cases hvalue : field scan "encoder_restoration" <;> rw [hvalue] at hfields <;> cases hfields
    exact hresidue

theorem filterMap_dict {items : List (PyValue R)} (h : ∀ item ∈ items, ∃ ray, item = .dict ray) :
    (items.filterMap PyValue.dict?).map .dict = items := by
  induction items with
  | nil => rfl
  | cons item items ih =>
    obtain ⟨ray, rfl⟩ := h item List.mem_cons_self
    rw [List.filterMap_cons]
    exact congrArg (PyValue.dict ray :: ·) (ih fun other hother => h other (List.mem_cons_of_mem _ hother))

theorem Accepted.cases {scan : PyDict R} {rays : List (PyValue R)} (h : Accepted scan rays) :
    (∃ angular, field scan "angular_rays" = .list angular ∧
        angularOk (partialScan scan) (measuredBearings scan) (startImuOf scan) rays angular = true) ∨
      field scan "angular_rays" = .none := by
  have hok := h.checked
  simp only [raysOk, Bool.and_eq_true] at hok
  obtain ⟨⟨-, hangular⟩, -⟩ := hok
  split at hangular
  next hnone => exact .inr hnone
  next angular hlist => exact .inl ⟨angular, hlist, hangular⟩
  next => cases hangular

theorem Accepted.items {scan : PyDict R} {rays : List (PyValue R)} (h : Accepted scan rays) :
    ∃ items, evidenceRays scan = .list items ∧ items.all (rayOk (measuredBearings scan) (startImuOf scan)) = true := by
  obtain ⟨angular, hlist, hangular⟩ | hnone := h.cases
  · refine ⟨angular, by rw [evidenceRays, hlist], ?_⟩
    simp only [angularOk, Bool.and_eq_true] at hangular
    tauto
  · refine ⟨rays, by rw [evidenceRays, hnone, h.front], ?_⟩
    have hok := h.checked
    simp only [raysOk, Bool.and_eq_true] at hok
    tauto

theorem Accepted.evidence_eq {scan : PyDict R} {rays : List (PyValue R)} (h : Accepted scan rays) :
    evidenceRays scan = .list ((raysIn scan).map .dict) := by
  obtain ⟨items, hitems, hall⟩ := h.items
  rw [raysIn, hitems]
  rw [List.all_eq_true] at hall
  exact congrArg PyValue.list (filterMap_dict fun item hitem => dict_of_rayOk (hall item hitem)).symm

theorem Accepted.each {scan : PyDict R} {rays : List (PyValue R)} (h : Accepted scan rays) :
    ∀ ray ∈ raysIn scan, rayOk (measuredBearings scan) (startImuOf scan) (.dict ray) = true := by
  intro ray hray
  obtain ⟨items, hitems, hall⟩ := h.items
  rw [List.all_eq_true] at hall
  rw [raysIn, hitems] at hray
  obtain ⟨item, hitem, hdict⟩ := List.mem_filterMap.mp hray
  cases item <;> cases hdict
  exact hall _ hitem

end

-- The order of the rays

section
variable {R : Type} [Field R] [LinearOrder R] [IsStrictOrderedRing R] [FloorRing R]

def bearingsOf (side : String) (rays : List (PyDict R)) : List R :=
  (rays.filter fun ray => startsWith side (nameOf ray)).map relativeOf

/-- The rays are named, no two that measured alike, and fan out from the one at
the start. -/
structure RaysOrdered (rays : List (PyDict R)) : Prop where
  count : rays.length ≤ scanAngularRaySides.length
  named : ∀ ray ∈ rays, ∀ value, ray.lookup "side" = some value → ∃ side, value = .str side
  fans : ∃ center others, rays = center :: others ∧ nameOf center = "center" ∧
    fansOut (relativeOf center) (bearingsOf "left_" others) (bearingsOf "right_" others) = true
  known : ∀ ray ∈ rays, Measured ray = true → nameOf ray ∈ scanSides
  distinct : ((rays.filter Measured).map nameOf).Nodup

theorem expectedLabels_sublist {leftCount rightCount : Nat} (hleft : leftCount ≤ 8) (hright : rightCount ≤ 8) :
    (expectedLabels leftCount rightCount).Sublist scanAngularRaySides := by
  have hnumbered : ∀ start count, count ≤ 8 → (numbered start count).Sublist (numbered start 8) := fun start count hcount =>
    (List.range_sublist.mpr hcount).map _
  have hall : scanAngularRaySides = expectedLabels 8 8 := by decide
  rw [hall]
  exact ((hnumbered "left_" _ hleft).append (hnumbered "right_" _ hright)).cons_cons _

theorem numbered_starts {start label : String} {count : Nat} (h : label ∈ numbered start count) : startsWith start label = true := by
  obtain ⟨index, -, rfl⟩ := List.mem_map.mp h
  exact startsWith_append _ _

theorem numbered_other {start other label : String} {count : Nat} (h : label ∈ numbered other count)
    (hother : ∀ rest, startsWith start (other ++ rest) = false) : startsWith start label = false := by
  obtain ⟨index, -, rfl⟩ := List.mem_map.mp h
  exact hother _

theorem bearingsOf_all {side : String} {rays : List (PyDict R)} (h : ∀ ray ∈ rays, startsWith side (nameOf ray) = true) :
    bearingsOf side rays = rays.map relativeOf := by
  rw [bearingsOf, List.filter_eq_self.mpr h]

theorem bearingsOf_none {side : String} {rays : List (PyDict R)} (h : ∀ ray ∈ rays, startsWith side (nameOf ray) = false) :
    bearingsOf side rays = [] := by
  rw [bearingsOf, List.filter_eq_nil_iff.mpr fun ray hray => by simp [h ray hray], List.map_nil]

theorem bearingsOf_append (side : String) (first second : List (PyDict R)) :
    bearingsOf side (first ++ second) = bearingsOf side first ++ bearingsOf side second := by
  simp [bearingsOf]

theorem bearingsOf_numbered {rays : List (PyDict R)} {leftCount rightCount : Nat}
    (h : rays.map nameOf = numbered "left_" leftCount ++ numbered "right_" rightCount) :
    bearingsOf "left_" rays = (rays.map relativeOf).take leftCount ∧ bearingsOf "right_" rays = (rays.map relativeOf).drop leftCount := by
  have hlength : (numbered "left_" leftCount).length = leftCount := by simp [numbered]
  have htake : (rays.take leftCount).map nameOf = numbered "left_" leftCount := by rw [List.map_take, h, List.take_left' hlength]
  have hdrop : (rays.drop leftCount).map nameOf = numbered "right_" rightCount := by rw [List.map_drop, h, List.drop_left' hlength]
  have hleft : ∀ ray ∈ rays.take leftCount, nameOf ray ∈ numbered "left_" leftCount := fun ray hray => htake ▸ List.mem_map_of_mem hray
  have hright : ∀ ray ∈ rays.drop leftCount, nameOf ray ∈ numbered "right_" rightCount := fun ray hray => hdrop ▸ List.mem_map_of_mem hray
  have hsplit := fun side => bearingsOf_append side (rays.take leftCount) (rays.drop leftCount)
  rw [List.take_append_drop] at hsplit
  rw [← List.map_take, ← List.map_drop, hsplit, hsplit]
  rw [bearingsOf_all fun ray hray => numbered_starts (hleft ray hray),
    bearingsOf_none fun ray hray => numbered_other (hright ray hray) (by simp [startsWith, String.toList_append, List.isPrefixOf]),
    bearingsOf_none fun ray hray => numbered_other (hleft ray hray) (by simp [startsWith, String.toList_append, List.isPrefixOf]),
    bearingsOf_all fun ray hray => numbered_starts (hright ray hray)]
  simp

theorem lookup_of_sideOf {ray : PyDict R} {label : String} (h : sideOf (.dict ray) = some label) : ray.lookup "side" = some (.str label) := by
  simp only [sideOf, PyValue.dict?, Option.bind_some, field] at h
  cases hvalue : ray.lookup "side" with
  | none => rw [hvalue] at h; cases h
  | some value =>
    rw [hvalue, Option.getD_some] at h
    cases value <;> cases h
    rfl

theorem nameOf_of_lookup {ray : PyDict R} {label : String} (h : ray.lookup "side" = some (.str label)) : nameOf ray = label := by
  rw [nameOf, h]
  rfl

theorem Accepted.dense_ordered {scan : PyDict R} {rays : List (PyValue R)} (h : Accepted scan rays) {angular : List (PyValue R)}
    (hlist : field scan "angular_rays" = .list angular) : RaysOrdered (raysIn scan) := by
  have hevidence := h.evidence_eq
  rw [evidenceRays, hlist] at hevidence
  injection hevidence with hrays
  obtain ⟨_, hfield, hok⟩ | hnone := h.cases
  case inr => rw [hlist] at hnone; cases hnone
  rw [hlist] at hfield
  injection hfield with hsame
  subst hsame
  simp only [angularOk, Bool.and_eq_true, decide_eq_true_iff] at hok
  obtain ⟨⟨⟨⟨⟨⟨hlabels, -⟩, hleft⟩, hright⟩, -⟩, hbearings⟩, -⟩ := hok
  generalize countSide "left_" (angular.map sideOf) = leftCount at *
  generalize countSide "right_" (angular.map sideOf) = rightCount at *
  have hleft' : leftCount ≤ 8 := hleft.trans (by split <;> decide)
  have hright' : rightCount ≤ 8 := hright.trans (by split <;> decide)
  have hlookup : ∀ ray ∈ raysIn scan, ∃ label, ray.lookup "side" = some (.str label) := by
    intro ray hray
    have hmem : sideOf (.dict ray) ∈ (expectedLabels leftCount rightCount).map some := by
      rw [← hlabels, hrays]
      exact List.mem_map_of_mem (List.mem_map_of_mem hray)
    obtain ⟨label, -, hlabel⟩ := List.mem_map.mp hmem
    exact ⟨label, lookup_of_sideOf hlabel.symm⟩
  have hnames : (raysIn scan).map nameOf = expectedLabels leftCount rightCount := by
    refine List.map_injective_iff.mpr (Option.some_injective _) ?_
    rw [← hlabels, hrays, List.map_map, List.map_map]
    refine List.map_congr_left fun ray hray => ?_
    obtain ⟨label, hlabel⟩ := hlookup ray hray
    rw [Function.comp_apply, Function.comp_apply, nameOf_of_lookup hlabel]
    simp [sideOf, PyValue.dict?, field, hlabel, PyValue.str?]
  have hsub := expectedLabels_sublist hleft' hright'
  refine ⟨?_, ?_, ?_, ?_, ?_⟩
  · have hlen := hsub.length_le
    rwa [← hnames, List.length_map] at hlen
  · intro ray hray value hvalue
    obtain ⟨label, hlabel⟩ := hlookup ray hray
    rw [hlabel] at hvalue
    exact ⟨label, (Option.some.inj hvalue).symm⟩
  · obtain ⟨center, others, hcons⟩ := List.exists_cons_of_ne_nil fun hnil : raysIn scan = [] => by
      rw [hnil] at hnames
      cases hnames
    rw [hcons, expectedLabels, List.map_cons, List.cons.injEq] at hnames
    refine ⟨center, others, hcons, hnames.1, ?_⟩
    have hrelative : angular.map relativeHeadingOf = (relativeOf center :: others.map relativeOf).map some := by
      rw [hrays, List.map_map, hcons, ← List.map_cons (f := relativeOf), List.map_map]
      refine List.map_congr_left fun ray hray => ?_
      exact rayOk_relative (h.each ray (hcons ▸ hray))
    rw [hrelative, bearingsOk_cons] at hbearings
    rwa [(bearingsOf_numbered hnames.2).1, (bearingsOf_numbered hnames.2).2]
  · intro ray hray _
    refine List.mem_append_right _ (hsub.subset ?_)
    rw [← hnames]
    exact List.mem_map_of_mem hray
  · have hnodup : ((raysIn scan).map nameOf).Nodup := hnames ▸ hsub.nodup (by decide)
    exact (List.filter_sublist.map nameOf).nodup hnodup

-- The headings

theorem sideText_ok_iff {ray : PyDict R} {side : String} :
    sideText (.dict ray) = .ok side ↔ side = nameOf ray ∧ ∀ value, ray.lookup "side" = some value → ∃ side, value = .str side := by
  rw [sideText, nameOf]
  cases ray.lookup "side" with
  | none => simp [eq_comm]
  | some value => cases value <;> simp [PyValue.str?, eq_comm]

theorem onSide_zip (side : String) (rays : List (PyDict R)) :
    onSide side ((rays.map nameOf).zip (rays.map relativeOf)) = bearingsOf side rays := by
  rw [List.zip_map', onSide, List.filter_map, List.map_map]
  rfl

theorem projectionRays_eq {scan : PyDict R} {rays : List (PyValue R)} (h : Accepted scan rays)
    (hnull : scan.lookup "angular_rays" ≠ some .none) : projectionRays scan = .ok ((raysIn scan).map .dict) := by
  have hevidence := h.evidence_eq
  have hcases := h.cases
  rw [field] at hcases
  rw [evidenceRays, field] at hevidence
  rw [projectionRays]
  cases hlookup : scan.lookup "angular_rays" with
  | none =>
    rw [hlookup] at hevidence
    dsimp only [Option.getD_none] at hevidence
    dsimp only
    rw [hevidence]
  | some value =>
    rw [hlookup, Option.getD_some] at hcases hevidence
    obtain ⟨angular, rfl, -⟩ | rfl := hcases
    · injection hevidence with hrays
      rw [hrays]
    · exact absurd hlookup hnull

theorem relativeHeadings_eq {scan : PyDict R} {rays : List (PyValue R)} (h : Accepted scan rays) :
    ((raysIn scan).map PyValue.dict).mapM relativeHeading = .ok ((raysIn scan).map relativeOf) := by
  rw [mapM_ok (g := fun value => relativeOf (value.dict?.getD [])), List.map_map]
  · rfl
  · intro value hvalue
    obtain ⟨ray, hray, rfl⟩ := List.mem_map.mp hvalue
    rw [relativeHeading, finite, rayOk_relative (h.each ray hray)]
    rfl

theorem headings_answer {scan : PyDict R} {rays : List (PyValue R)} (h : Accepted scan rays) {answer : List (PyValue R) × List R}
    (hanswer : headings scan = .ok answer) :
    scan.lookup "angular_rays" ≠ some .none ∧ answer = ((raysIn scan).map .dict, (raysIn scan).map relativeOf) := by
  rw [headings] at hanswer
  obtain ⟨_, -, hanswer⟩ := bind_ok_iff.mp hanswer
  obtain ⟨items, hitems, hanswer⟩ := bind_ok_iff.mp hanswer
  have hnull : scan.lookup "angular_rays" ≠ some .none := by
    intro hnone
    rw [projectionRays, hnone] at hitems
    cases hitems
  rw [projectionRays_eq h hnull] at hitems
  cases hitems
  rw [relativeHeadings_eq h, ok_bind] at hanswer
  refine ⟨hnull, ?_⟩
  split at hanswer
  · cases hanswer
  next center others hcons =>
    obtain ⟨sides, -, hanswer⟩ := bind_ok_iff.mp hanswer
    split at hanswer
    · obtain ⟨error, -, hanswer⟩ := bind_ok_iff.mp hanswer
      split at hanswer <;> cases hanswer
      rw [hcons]
    · cases hanswer

theorem headings_ok_iff {scan : PyDict R} {rays : List (PyValue R)} (h : Accepted scan rays) {residue : R}
    (hresidue : finiteNumber (opposedResidue scan) = some residue) (hnull : scan.lookup "angular_rays" ≠ some .none)
    {center : PyDict R} {others : List (PyDict R)} (hcons : raysIn scan = center :: others) :
    headings scan = .ok ((raysIn scan).map .dict, (raysIn scan).map relativeOf) ↔
      (∀ ray ∈ others, ∀ value, ray.lookup "side" = some value → ∃ side, value = .str side) ∧
        (raysIn scan).length ≤ scanAngularRaySides.length ∧
        fansOut (relativeOf center) (bearingsOf "left_" others) (bearingsOf "right_" others) = true ∧ residueOk scan residue = true := by
  have hvalues := relativeHeadings_eq h
  have hstart : finite (field scan "start_heading_deg") = .ok 0 := by rw [finite, h.start]
  have hend : finite (opposedResidue scan) = .ok residue := by rw [finite, hresidue]
  have hlength : ((raysIn scan).map relativeOf).length = (raysIn scan).length := List.length_map _
  rw [headings, hstart, ok_bind, projectionRays_eq h hnull, ok_bind, hvalues, ok_bind]
  rw [hcons, List.map_cons, List.map_cons, List.drop_succ_cons, List.drop_zero] at *
  dsimp only
  rw [hlength]
  by_cases hnamed : ∀ ray ∈ others, ∀ value, ray.lookup "side" = some value → ∃ side, value = .str side
  · have hsides : (others.map PyValue.dict).mapM sideText = .ok (others.map nameOf) := by
      rw [mapM_ok (g := fun value => nameOf (value.dict?.getD [])), List.map_map]
      · rfl
      · intro value hvalue
        obtain ⟨ray, hray, rfl⟩ := List.mem_map.mp hvalue
        exact sideText_ok_iff.mpr ⟨rfl, hnamed ray hray⟩
    have hguard : (decide ((center :: others).length ≤ scanAngularRaySides.length) &&
        fansOut (relativeOf center) (bearingsOf "left_" others) (bearingsOf "right_" others)) = true ↔
          (center :: others).length ≤ scanAngularRaySides.length ∧
            fansOut (relativeOf center) (bearingsOf "left_" others) (bearingsOf "right_" others) = true := by
      rw [Bool.and_eq_true, decide_eq_true_iff]
    rw [hsides, ok_bind, onSide_zip, onSide_zip, and_iff_right hnamed, hend, ok_bind]
    split
    next hcond =>
      obtain ⟨hcount, hfans⟩ := hguard.mp hcond
      split
      next hres => exact iff_of_true rfl ⟨hcount, hfans, hres⟩
      next hres => exact iff_of_false (fun hok => by cases hok) fun hall => hres hall.2.2
    next hcond => exact iff_of_false (fun hok => by cases hok) fun hall => hcond (hguard.mpr ⟨hall.1, hall.2.1⟩)
  · refine iff_of_false (fun hok => ?_) fun hall => hnamed hall.1
    obtain ⟨sides, hsides, -⟩ := bind_ok_iff.mp hok
    refine hnamed fun ray hray => ?_
    obtain ⟨side, hside⟩ := mapM_ok_mem hsides _ (List.mem_map_of_mem hray)
    exact (sideText_ok_iff.mp hside).2

-- The ray at the start

def KeysOnce (scan : PyDict R) : Prop :=
  ∀ rays, field scan "rays" = .list rays → ∀ ray, PyValue.dict ray ∈ rays → (ray.map Prod.fst).Nodup

theorem equalsFields_lookup {first second : PyDict R} (h : PyValue.equalsFields first second = true) :
    ∀ entry ∈ first, ∃ other, second.lookup entry.1 = some other ∧ entry.2.equals other = true := by
  induction first with
  | nil => simp
  | cons entry first ih =>
    rw [PyValue.equalsFields, Bool.and_eq_true] at h
    obtain ⟨hentry, hrest⟩ := h
    refine List.forall_mem_cons.mpr ⟨?_, ih hrest⟩
    split at hentry
    next other hother => exact ⟨other, hother, hentry⟩
    next => cases hentry

theorem mem_keys_of_lookup {fields : PyDict R} {key : String} {value : PyValue R} (h : fields.lookup key = some value) :
    key ∈ fields.map Prod.fst := by
  obtain ⟨left, right, rfl, -⟩ := List.lookup_eq_some_iff.mp h
  simp

theorem mem_of_lookup {fields : PyDict R} {key : String} {value : PyValue R} (h : fields.lookup key = some value) :
    (key, value) ∈ fields := by
  obtain ⟨left, right, rfl, -⟩ := List.lookup_eq_some_iff.mp h
  simp

theorem lookup_isSome_of_mem {fields : PyDict R} {key : String} (h : key ∈ fields.map Prod.fst) : ∃ value, fields.lookup key = some value := by
  rw [← Option.isSome_iff_exists, List.lookup_isSome_iff]
  obtain ⟨entry, hentry, rfl⟩ := List.mem_map.mp h
  exact ⟨entry, hentry, by simp⟩

theorem lookup_of_equals {first second : PyDict R} (hkeys : (first.map Prod.fst).Nodup)
    (h : (PyValue.dict first).equals (.dict second) = true) {key text : String} (hsecond : second.lookup key = some (.str text)) :
    first.lookup key = some (.str text) := by
  rw [PyValue.equals, Bool.and_eq_true, decide_eq_true_iff] at h
  obtain ⟨hlength, hfields⟩ := h
  have hsub : first.map Prod.fst ⊆ second.map Prod.fst := by
    intro name hname
    obtain ⟨entry, hentry, rfl⟩ := List.mem_map.mp hname
    obtain ⟨other, hother, -⟩ := equalsFields_lookup hfields entry hentry
    exact mem_keys_of_lookup hother
  have hperm : (first.map Prod.fst).Perm (second.map Prod.fst) :=
    (hkeys.subperm hsub).perm_of_length_le (by rw [List.length_map, List.length_map, hlength])
  obtain ⟨value, hvalue⟩ := lookup_isSome_of_mem (hperm.mem_iff.mpr (mem_keys_of_lookup hsecond))
  obtain ⟨other, hother, hequal⟩ := equalsFields_lookup hfields _ (mem_of_lookup hvalue)
  rw [hsecond] at hother
  cases hother
  rw [hvalue]
  cases value <;> simp [PyValue.equals, PyValue.number?] at hequal
  rw [hequal]

theorem lookup_of_nameOf {ray : PyDict R} {side : String} (h : nameOf ray = side) (hside : side ≠ "") :
    ray.lookup "side" = some (.str side) := by
  rw [nameOf] at h
  cases hvalue : ray.lookup "side" with
  | none => exact absurd (by rw [← h, hvalue]; rfl) hside
  | some value =>
    rw [hvalue, Option.bind_some] at h
    cases value <;> first
      | exact absurd h.symm hside
      | exact congrArg (fun text => some (PyValue.str text)) h

theorem startsAtCenter_cons {scan : PyDict R} {ray : PyDict R} {rest : List (PyValue R)} (hfront : field scan "rays" = .list (.dict ray :: rest)) :
    startsAtCenter scan = .ok true ↔ ray.lookup "side" = some (.str "center") := by
  rw [startsAtCenter, hfront]
  dsimp only
  rw [field]
  cases ray.lookup "side" with
  | none => simp [PyValue.isStr]
  | some value => cases value <;> simp [PyValue.isStr]

theorem startsAtCenter_of_ordered {scan : PyDict R} {rays : List (PyValue R)} (h : Accepted scan rays) (hkeys : KeysOnce scan)
    (hord : RaysOrdered (raysIn scan)) : startsAtCenter scan = .ok true := by
  obtain ⟨center, others, hcons, hname, -⟩ := hord.fans
  have hlookup := lookup_of_nameOf hname (by decide)
  have hevidence := h.evidence_eq
  have hchecked := h.checked
  simp only [raysOk, Bool.and_eq_true, Bool.or_eq_true, decide_eq_true_iff] at hchecked
  obtain ⟨⟨⟨hsides, -⟩, -⟩, -⟩ := hchecked
  obtain hpartial | hsides := hsides
  · obtain ⟨angular, hlist, hok⟩ | hnone := h.cases
    · rw [evidenceRays, hlist, hcons] at hevidence
      injection hevidence with hangular
      simp only [angularOk, hpartial, if_true, Bool.and_eq_true] at hok
      obtain ⟨-, hequal⟩ := hok
      rw [hangular, List.map_cons] at hequal
      have hfront := h.front
      cases rays with
      | nil => cases hequal
      | cons ray rest =>
        rw [PyValue.equalsItems, Bool.and_eq_true] at hequal
        cases ray with
        | dict fields =>
          exact (startsAtCenter_cons hfront).mpr (lookup_of_equals (hkeys _ hfront fields List.mem_cons_self) hequal.1 hlookup)
        | _ => cases hequal.1
    · rw [evidenceRays, hnone, hcons] at hevidence
      exact (startsAtCenter_cons hevidence).mpr hlookup
  · have hfront := h.front
    cases rays with
    | nil => cases hsides
    | cons ray rest =>
      rw [List.map_cons, scanRaySides, List.map_cons, List.cons.injEq] at hsides
      cases ray with
      | dict fields => exact (startsAtCenter_cons hfront).mpr (lookup_of_sideOf hsides.1)
      | _ => cases hsides.1

theorem center_of_startsAtCenter {scan : PyDict R} {rays : List (PyValue R)} (h : Accepted scan rays)
    (hnone : field scan "angular_rays" = .none) (hstarts : startsAtCenter scan = .ok true) :
    ∃ center others, raysIn scan = center :: others ∧ center.lookup "side" = some (.str "center") := by
  have hevidence := h.evidence_eq
  rw [evidenceRays, hnone] at hevidence
  dsimp only at hevidence
  cases hcons : raysIn scan with
  | nil =>
    rw [hcons] at hevidence
    rw [startsAtCenter, hevidence] at hstarts
    cases hstarts
  | cons center others =>
    rw [hcons] at hevidence
    exact ⟨center, others, rfl, (startsAtCenter_cons hevidence).mp hstarts⟩

-- The echoes

variable [Trig R] {pose : ScanPose}

/-- The echo of a ray that measured, and whether it is settled. -/
def echoOf (pose : ScanPose) (ray : PyDict R) : Bool × ScanPoint R :=
  ((field ray "observation_settled").bool? = some true,
    echoPoint pose (nameOf ray) (relativeBearingMdeg (nameOf ray) (relativeOf ray)) (distanceOf ray))

def NamedIfMeasured (ray : PyDict R) : Prop := Measured ray = true → ∃ side, ray.lookup "side" = some (.str side)

theorem projectRay_eq {measured : Bool} {startImu : Option R} {ray : PyDict R} (h : rayOk measured startImu (.dict ray) = true)
    (hnamed : NamedIfMeasured ray) :
    projectRay pose (.dict ray, relativeOf ray) = .ok (if Measured ray = true then some (echoOf pose ray) else none) := by
  rw [projectRay]
  change (if Measured ray = true then _ else _) = _
  by_cases hmeasured : Measured ray = true
  · obtain ⟨side, hside⟩ := hnamed hmeasured
    have hname : rayName ray = .ok (nameOf ray) := by
      rw [rayName, hside, nameOf_of_lookup hside]
    have hdistance : finite (field ray "distance_mm") = .ok (distanceOf ray) := by
      rw [finite, (rayOk_measured h hmeasured).1]
    rw [if_pos hmeasured, if_pos hmeasured, hname, ok_bind, hdistance, ok_bind, echoOf]
  · rw [if_neg hmeasured, if_neg hmeasured]

theorem namedIfMeasured_of_ok {ray : PyDict R} {raw : R} {answer : Option (Bool × ScanPoint R)}
    (h : projectRay pose (.dict ray, raw) = .ok answer) : NamedIfMeasured ray := by
  intro hmeasured
  rw [projectRay] at h
  dsimp only at h
  rw [Measured] at hmeasured
  rw [if_pos hmeasured] at h
  obtain ⟨side, hside, -⟩ := bind_ok_iff.mp h
  rw [rayName] at hside
  cases hvalue : ray.lookup "side" with
  | none => rw [hvalue] at hside; cases hside
  | some value =>
    rw [hvalue] at hside
    cases value <;> cases hside
    exact ⟨_, rfl⟩

theorem echoes_eq {measured : Bool} {startImu : Option R} {rays : List (PyDict R)}
    (h : ∀ ray ∈ rays, rayOk measured startImu (.dict ray) = true) (hnamed : ∀ ray ∈ rays, NamedIfMeasured ray) :
    ((rays.map PyValue.dict).zip (rays.map relativeOf)).mapM (projectRay pose) =
      .ok (rays.map fun ray => if Measured ray = true then some (echoOf pose ray) else none) := by
  rw [List.zip_map', List.mapM_map]
  exact mapM_ok fun ray hray => projectRay_eq (h ray hray) (hnamed ray hray)

theorem named_of_echoes {rays : List (PyDict R)} {answers : List (Option (Bool × ScanPoint R))}
    (h : ((rays.map PyValue.dict).zip (rays.map relativeOf)).mapM (projectRay pose) = .ok answers) :
    ∀ ray ∈ rays, NamedIfMeasured ray := by
  intro ray hray
  rw [List.zip_map'] at h
  obtain ⟨answer, hanswer⟩ := mapM_ok_mem h _ (List.mem_map_of_mem hray)
  exact namedIfMeasured_of_ok hanswer

theorem echoes_filter (rays : List (PyDict R)) :
    (rays.map fun ray => if Measured ray = true then some (echoOf pose ray) else none).filterMap id =
      (rays.filter Measured).map (echoOf pose) := by
  induction rays with
  | nil => rfl
  | cons ray rays ih =>
    rw [List.map_cons, List.filterMap_cons, List.filter_cons]
    by_cases hmeasured : Measured ray = true
    · simpa [hmeasured] using ih
    · simpa [hmeasured] using ih

-- The view

theorem allPoints_perm (echoes : List (Bool × ScanPoint R)) : (projectionOf echoes).allPoints.Perm (echoes.map Prod.snd) := by
  have huncertain : ((projectionOf echoes).uncertainPoints.getD []) = (echoes.filter fun echo => !echo.1).map Prod.snd := by
    rw [projectionOf]
    dsimp only
    split
    next hempty => rw [Option.getD_none, List.isEmpty_iff.mp hempty]
    next => rfl
  rw [SpatialMap.Projection.allPoints, huncertain, projectionOf]
  dsimp only
  rw [← List.map_append]
  exact (List.filter_append_perm (fun echo : Bool × ScanPoint R => echo.1) echoes).map Prod.snd

/-- The projection of a scan whose headings were read. -/
def projected (pose : ScanPose) (scan : PyDict R) : Projection R := projectionOf (((raysIn scan).filter Measured).map (echoOf pose))

theorem projected_points (scan : PyDict R) :
    (projected pose scan).allPoints.Perm (((raysIn scan).filter Measured).map fun ray => (echoOf pose ray).2) := by
  have hperm := allPoints_perm (((raysIn scan).filter Measured).map (echoOf pose))
  rwa [List.map_map] at hperm

theorem projected_sides (scan : PyDict R) :
    ((projected pose scan).allPoints.map (·.side)).Perm (((raysIn scan).filter Measured).map nameOf) := by
  have hperm := (@projected_points R _ _ _ _ _ pose scan).map (·.side)
  rwa [List.map_map] at hperm

theorem project_eq {scan : PyDict R} {rays : List (PyValue R)} (h : Accepted scan rays)
    (hvalid : validateBlastScanRayContract (.dict scan) = .ok scan) (hready : completeScan scan = true ∨ partialScan scan = true)
    (hbody : ∀ ray ∈ raysIn scan, matchesNavigationBodyAngle (field ray "body_motor_angle_deg") = true) {projection : Projection R} :
    projectBlastScanPlanarSurfaces scan pose = .ok projection ↔
      startsAtCenter scan = .ok true ∧ headings scan = .ok ((raysIn scan).map .dict, (raysIn scan).map relativeOf) ∧
        (∀ ray ∈ raysIn scan, NamedIfMeasured ray) ∧ projection = projected pose scan := by
  have hready' : (completeScan scan || partialScan scan) = true := by rwa [Bool.or_eq_true]
  have hall : ((raysIn scan).map PyValue.dict).all atNavigationPose = true := by
    rw [List.all_eq_true]
    intro item hitem
    obtain ⟨ray, hray, rfl⟩ := List.mem_map.mp hitem
    exact hbody ray hray
  rw [projectBlastScanPlanarSurfaces, hvalid]
  dsimp only
  rw [if_pos hready']
  constructor
  · intro hok
    obtain ⟨centered, hcentered, hok⟩ := bind_ok_iff.mp hok
    split at hok
    case isFalse => cases hok
    next htrue =>
    obtain ⟨answer, hanswer, hok⟩ := bind_ok_iff.mp hok
    obtain ⟨-, rfl⟩ := headings_answer h hanswer
    dsimp only at hok
    rw [if_pos hall] at hok
    obtain ⟨echoes, hechoes, hok⟩ := bind_ok_iff.mp hok
    have hnamed := named_of_echoes hechoes
    rw [echoes_eq h.each hnamed] at hechoes
    cases hechoes
    rw [echoes_filter] at hok
    exact ⟨by rw [hcentered, htrue], hanswer, hnamed, (Except.ok.inj hok).symm⟩
  · rintro ⟨hcentered, hheadings, hnamed, rfl⟩
    rw [hcentered, ok_bind, if_pos rfl, hheadings, ok_bind]
    dsimp only
    rw [if_pos hall, echoes_eq h.each hnamed, ok_bind, echoes_filter]
    rfl

end

-- Over the real numbers

theorem normalizeHeadingMdeg_mem (value : Int) : integer (normalizeHeadingMdeg value) (-180000) 179999 := by
  unfold integer normalizeHeadingMdeg
  omega

theorem abs_roundEven_le {x : ℝ} {bound : Int} (h : |x| ≤ bound) : integer (roundEven x) (-bound) bound := by
  rw [abs_le] at h
  exact ⟨le_roundEven (by push_cast; exact h.1), roundEven_le h.2⟩

theorem abs_mul_cos_le {d : ℝ} (h : 0 ≤ d) (x : ℝ) : |d * Trig.cos x| ≤ d := by
  rw [abs_mul, abs_of_nonneg h]
  exact mul_le_of_le_one_right h (abs_cos_le_one x)

theorem abs_mul_sin_le {d : ℝ} (h : 0 ≤ d) (x : ℝ) : |d * Trig.sin x| ≤ d := by
  rw [abs_mul, abs_of_nonneg h]
  exact mul_le_of_le_one_right h (abs_sin_le_one x)

theorem abs_rounded_echo_le (origin reach : ℝ) : |(roundEven (origin + reach) : ℝ) - (roundEven origin + reach)| ≤ 3 / 2 := by
  have horigin := abs_le.mp (abs_roundEven_sub_le origin)
  have hecho := abs_le.mp (abs_roundEven_sub_le (origin + reach))
  rw [abs_le]
  constructor <;> linarith [horigin.1, horigin.2, hecho.1, hecho.2]

theorem placed_le {x a b reach : ℝ} (hx : |x| ≤ 900000) (ha : |a| ≤ 110) (hb : |b| ≤ 80) (hreach : |reach| ≤ 2000) :
    (|x + a - b| ≤ 1000000 ∧ |x + a - b + reach| ≤ 1000000) ∧ (|x + a + b| ≤ 1000000 ∧ |x + a + b + reach| ≤ 1000000) := by
  rw [abs_le] at hx ha hb hreach
  refine ⟨⟨?_, ?_⟩, ?_, ?_⟩ <;> rw [abs_le] <;> constructor <;> linarith [hx.1, hx.2, ha.1, ha.2, hb.1, hb.2, hreach.1, hreach.2]

variable {pose : ScanPose}

theorem echoPoint_ok_iff (hx : |pose.xMm| ≤ 900000) (hy : |pose.yMm| ≤ 900000) {side : String} {relative : Int} {distance : ℝ}
    (hdistance : 0 ≤ distance ∧ distance < 2000) (hrelative : integer relative (-180000) 180000) :
    ScanPointOk (echoPoint pose side relative distance) ↔
      side ∈ scanSides ∧ distance ≤ 1999999999 / 1000000 ∧ bearingOnSide side relative := by
  constructor
  · exact fun h => ⟨h.side, h.range.2, h.onSide⟩
  · rintro ⟨hside, hrange, hbearing⟩
    have hxr : |(pose.xMm : ℝ)| ≤ 900000 := by exact_mod_cast hx
    have hyr : |(pose.yMm : ℝ)| ≤ 900000 := by exact_mod_cast hy
    have hforward : (0 : ℝ) ≤ (forwardOffsetMm : ℝ) ∧ (forwardOffsetMm : ℝ) = 110 := by norm_num [forwardOffsetMm]
    have hleft : (0 : ℝ) ≤ (leftOffsetMm : ℝ) ∧ (leftOffsetMm : ℝ) = 80 := by norm_num [leftOffsetMm]
    have hforwardX := fun angle => (abs_mul_cos_le hforward.1 angle).trans_eq hforward.2
    have hforwardY := fun angle => (abs_mul_sin_le hforward.1 angle).trans_eq hforward.2
    have hleftX := fun angle => (abs_mul_sin_le hleft.1 angle).trans_eq hleft.2
    have hleftY := fun angle => (abs_mul_cos_le hleft.1 angle).trans_eq hleft.2
    have hreachX := fun angle => (abs_mul_cos_le hdistance.1 angle).trans hdistance.2.le
    have hreachY := fun angle => (abs_mul_sin_le hdistance.1 angle).trans hdistance.2.le
    have hplaceX := fun body beam => (placed_le hxr (hforwardX body) (hleftX body) (hreachX beam)).1
    have hplaceY := fun body beam => (placed_le hyr (hforwardY body) (hleftY body) (hreachY beam)).2
    exact ⟨hside, ⟨hdistance.1, hrange⟩, hrelative,
      ⟨abs_roundEven_le (by exact_mod_cast (hplaceX _ 0).1), abs_roundEven_le (by exact_mod_cast (hplaceY _ 0).1)⟩,
      normalizeHeadingMdeg_mem _,
      ⟨abs_roundEven_le (by exact_mod_cast (hplaceX _ _).2), abs_roundEven_le (by exact_mod_cast (hplaceY _ _).2)⟩,
      hbearing, abs_rounded_echo_le _ _, abs_rounded_echo_le _ _⟩

theorem startsWith_head {start label : String} (h : startsWith start label = true) (hne : start.toList ≠ []) :
    label.toList.head? = start.toList.head? := by
  obtain ⟨rest, hrest⟩ := List.isPrefixOf_iff_prefix.mp h
  rw [← hrest, List.head?_append_of_ne_nil _ hne]

theorem left_not_right {label : String} (h : startsWith "left_" label = true) : label ≠ "center" ∧ startsWith "right_" label = false := by
  have hleft := startsWith_head h (by decide)
  refine ⟨?_, ?_⟩
  · rintro rfl
    exact absurd hleft (by decide)
  · rw [Bool.eq_false_iff]
    intro hright
    have hhead := startsWith_head hright (by decide)
    rw [hleft] at hhead
    exact absurd hhead (by decide)

theorem right_not_center {label : String} (h : startsWith "right_" label = true) : label ≠ "center" := by
  rintro rfl
  exact absurd (startsWith_head h (by decide)) (by decide)

theorem bearingOnSide_iff (side : String) (raw : ℝ) : bearingOnSide side (relativeBearingMdeg side raw) ↔
    (startsWith "left_" side = true ∨ startsWith "right_" side = true → 1 / 2000 < |raw|) := by
  have hsign : 0 < roundEven (|raw| * 1000) ↔ 1 / 2000 < |raw| := by
    rw [even_lt_roundEven (k := 0) rfl]
    constructor <;> intro h <;> push_cast at * <;> linarith
  have hsame : ∀ start label, SpatialMap.startsWith start label = startsWith start label := fun _ _ => rfl
  rw [bearingOnSide, relativeBearingMdeg, hsame, hsame, ← hsign]
  by_cases hleft : startsWith "left_" side = true
  · obtain ⟨hcenter, hright⟩ := left_not_right hleft
    simp [hleft, hcenter, hright]
  · by_cases hright : startsWith "right_" side = true
    · simp [hleft, hright, right_not_center hright]
    · by_cases hcenter : side = "center"
      · simp only [if_pos hcenter, hleft, hright]
        simp
      · simp [hleft, hright, hcenter]

theorem relativeBearingMdeg_mem {side : String} {raw : ℝ} (h : side ≠ "center" → |raw| ≤ 180) :
    integer (relativeBearingMdeg side raw) (-180000) 180000 := by
  rw [relativeBearingMdeg]
  by_cases hcenter : side = "center"
  · rw [if_pos hcenter]
    unfold integer
    omega
  · have hbound : |(|raw| * 1000)| ≤ ((180000 : Int) : ℝ) := by
      rw [abs_mul, abs_abs]
      have hraw := h hcenter
      norm_num
      linarith
    obtain ⟨hlo, hhi⟩ := abs_roundEven_le hbound
    rw [if_neg hcenter]
    unfold integer
    split <;> omega

theorem RaysOrdered.within {rays : List (PyDict ℝ)} (h : RaysOrdered rays) :
    ∀ ray ∈ rays, Measured ray = true → nameOf ray ≠ "center" → |relativeOf ray| ≤ 180 := by
  intro ray hray hmeasured hname
  have hsides : ∀ side ∈ scanSides, side = "center" ∨ startsWith "left_" side = true ∨ startsWith "right_" side = true := by decide
  obtain ⟨center, others, rfl, hcenter, hfans⟩ := h.fans
  obtain rfl | hmem := List.mem_cons.mp hray
  · exact absurd hcenter hname
  have hbearing : ∀ side, startsWith side (nameOf ray) = true → relativeOf ray ∈ bearingsOf side others := fun side hside =>
    List.mem_map_of_mem (List.mem_filter.mpr ⟨hmem, hside⟩)
  simp only [fansOut, Bool.and_eq_true, List.all_eq_true, decide_eq_true_iff, maxAbsoluteBearingDeg] at hfans
  obtain ⟨⟨⟨⟨-, hleft⟩, hright⟩, -⟩, -⟩ := hfans
  obtain hcase | hcase | hcase := hsides _ (h.known ray hray hmeasured)
  · exact absurd hcase hname
  · obtain ⟨hneg, hlow⟩ := hleft _ (hbearing _ hcase)
    rw [abs_of_neg hneg]
    linarith [of_decide_eq_true hlow]
  · obtain ⟨hpos, hhigh⟩ := hright _ (hbearing _ hcase)
    rw [abs_of_pos hpos]
    exact of_decide_eq_true hhigh

/-- No ray of the scan lies between two of the checks. -/
structure Projectable (scan : PyDict ℝ) : Prop where
  /-- Dense rays are left out, or a list. -/
  present : scan.lookup "angular_rays" ≠ some .none
  ordered : field scan "angular_rays" = .none → RaysOrdered (raysIn scan)
  residue : ∀ residue, finiteNumber (opposedResidue scan) = some residue → residueOk scan residue = true
  range : ∀ ray ∈ raysIn scan, Measured ray = true → distanceOf ray ≤ 1999999999 / 1000000
  turned : ∀ ray ∈ raysIn scan, Measured ray = true → startsWith "left_" (nameOf ray) = true ∨ startsWith "right_" (nameOf ray) = true →
    1 / 2000 < |relativeOf ray|

theorem Accepted.ordered {scan : PyDict ℝ} {rays : List (PyValue ℝ)} (h : Accepted scan rays) (hscan : Projectable scan) :
    RaysOrdered (raysIn scan) := by
  obtain ⟨angular, hlist, -⟩ | hnone := h.cases
  · exact h.dense_ordered hlist
  · exact hscan.ordered hnone

theorem echo_ok (hx : |pose.xMm| ≤ 900000) (hy : |pose.yMm| ≤ 900000) {scan : PyDict ℝ} {rays : List (PyValue ℝ)} (h : Accepted scan rays)
    (hord : RaysOrdered (raysIn scan)) {ray : PyDict ℝ} (hray : ray ∈ raysIn scan) (hmeasured : Measured ray = true) :
    ScanPointOk (echoOf pose ray).2 ↔ nameOf ray ∈ scanSides ∧ distanceOf ray ≤ 1999999999 / 1000000 ∧
      (startsWith "left_" (nameOf ray) = true ∨ startsWith "right_" (nameOf ray) = true → 1 / 2000 < |relativeOf ray|) := by
  rw [← bearingOnSide_iff]
  exact echoPoint_ok_iff hx hy (rayOk_measured (h.each ray hray) hmeasured).2 (relativeBearingMdeg_mem (hord.within ray hray hmeasured))

theorem projected_mem {scan : PyDict ℝ} {p : ScanPoint ℝ} :
    p ∈ (projected pose scan).allPoints ↔ ∃ ray ∈ raysIn scan, Measured ray = true ∧ (echoOf pose ray).2 = p := by
  rw [(projected_points scan).mem_iff, List.mem_map]
  simp only [List.mem_filter, and_assoc]

/-- A scan that passed its contract becomes a view of the map, unless it lies
between two of the checks. -/
theorem scan_view_kept_iff {scan : PyDict ℝ} (hkeys : KeysOnce scan) (hvalid : validateBlastScanRayContract (.dict scan) = .ok scan)
    (hready : completeScan scan = true ∨ partialScan scan = true)
    (hbody : ∀ ray ∈ raysIn scan, matchesNavigationBodyAngle (field ray "body_motor_angle_deg") = true)
    (hpose : |pose.xMm| ≤ 900000 ∧ |pose.yMm| ≤ 900000 ∧ integer pose.headingMdeg (-180000) 179999)
    {scanId : String} (hscanId : 0 < scanId.length ∧ scanId.length ≤ 128) {observedAtUnixMs nowUnixMs : Int}
    (hobserved : integer observedAtUnixMs 0 nowUnixMs) :
    (∃ projection, projectBlastScanPlanarSurfaces scan pose = .ok projection ∧
        ScanViewOk ⟨scanId, observedAtUnixMs, pose, projection⟩ nowUnixMs) ↔ Projectable scan := by
  obtain ⟨rays, h⟩ := accepted_of_valid hvalid
  obtain ⟨hx, hy, hheading⟩ := hpose
  obtain ⟨residue, hresidue⟩ := h.residue
  constructor
  · rintro ⟨projection, hproject, hview⟩
    obtain ⟨hstarts, hheadings, hnamed, rfl⟩ := (project_eq h hvalid hready hbody).mp hproject
    obtain ⟨hnull, -⟩ := headings_answer h hheadings
    have hpoint : ∀ ray ∈ raysIn scan, Measured ray = true → ScanPointOk (echoOf pose ray).2 := fun ray hray hmeasured =>
      hview.points _ (projected_mem.mpr ⟨ray, hray, hmeasured, rfl⟩)
    have hcons : ∃ center others, raysIn scan = center :: others := by
      obtain ⟨angular, hlist, -⟩ | hnone := h.cases
      · obtain ⟨center, others, hcons, -⟩ := (h.dense_ordered hlist).fans
        exact ⟨center, others, hcons⟩
      · obtain ⟨center, others, hcons, -⟩ := center_of_startsAtCenter h hnone hstarts
        exact ⟨center, others, hcons⟩
    obtain ⟨center, others, hcons⟩ := hcons
    obtain ⟨hothers, hcount, hfans, hres⟩ := (headings_ok_iff h hresidue hnull hcons).mp hheadings
    have hordered : field scan "angular_rays" = .none → RaysOrdered (raysIn scan) := by
      intro hnone
      obtain ⟨center', others', hcons', hname⟩ := center_of_startsAtCenter h hnone hstarts
      rw [hcons] at hcons'
      cases hcons'
      refine ⟨hcount, ?_, ⟨center, others, hcons, nameOf_of_lookup hname, hfans⟩, fun ray hray hmeasured => (hpoint ray hray hmeasured).side,
        (projected_sides scan).nodup_iff.mp hview.sides⟩
      rw [hcons]
      refine List.forall_mem_cons.mpr ⟨fun value hvalue => ?_, hothers⟩
      rw [hname] at hvalue
      exact ⟨"center", (Option.some.inj hvalue).symm⟩
    have hord : RaysOrdered (raysIn scan) := by
      obtain ⟨angular, hlist, -⟩ | hnone := h.cases
      · exact h.dense_ordered hlist
      · exact hordered hnone
    refine ⟨hnull, hordered, fun other hother => ?_, fun ray hray hmeasured => ?_, fun ray hray hmeasured => ?_⟩
    · rw [hresidue] at hother
      rwa [← Option.some.inj hother]
    · exact ((echo_ok hx hy h hord hray hmeasured).mp (hpoint ray hray hmeasured)).2.1
    · exact ((echo_ok hx hy h hord hray hmeasured).mp (hpoint ray hray hmeasured)).2.2
  · intro hscan
    have hord := h.ordered hscan
    obtain ⟨center, others, hcons, hname, hfans⟩ := hord.fans
    have hothers : ∀ ray ∈ others, ∀ value, ray.lookup "side" = some value → ∃ side, value = .str side := fun ray hray =>
      hord.named ray (hcons ▸ List.mem_cons_of_mem _ hray)
    have hheadings := (headings_ok_iff h hresidue hscan.present hcons).mpr ⟨hothers, hord.count, hfans, hscan.residue _ hresidue⟩
    have hnamed : ∀ ray ∈ raysIn scan, NamedIfMeasured ray := fun ray hray hmeasured =>
      ⟨nameOf ray, lookup_of_nameOf rfl fun hempty => absurd (hempty ▸ hord.known ray hray hmeasured) (by decide)⟩
    refine ⟨projected pose scan, (project_eq h hvalid hready hbody).mpr ⟨startsAtCenter_of_ordered h hkeys hord, hheadings, hnamed, rfl⟩, ?_⟩
    have hcoordinate : coordinate pose.xMm ∧ coordinate pose.yMm := by
      rw [abs_le] at hx hy
      unfold coordinate integer
      omega
    refine ⟨hscanId, hobserved, ⟨hcoordinate.1, hcoordinate.2, hheading⟩, rfl, rfl, rfl, ⟨rfl, rfl, rfl⟩, ?_, ?_, ?_⟩
    · intro p hp
      obtain ⟨ray, hray, hmeasured, rfl⟩ := projected_mem.mp hp
      exact (echo_ok hx hy h hord hray hmeasured).mpr
        ⟨hord.known ray hray hmeasured, hscan.range ray hray hmeasured, hscan.turned ray hray hmeasured⟩
    · exact (projected_sides scan).nodup_iff.mpr hord.distinct
    · rw [(projected_points scan).length_eq, List.length_map]
      exact (List.length_filter_le _ _).trans hord.count

-- A turn to the left

section
variable {R : Type} [Field R] [LinearOrder R] [IsStrictOrderedRing R] [FloorRing R]

/-- A stop at the navigation pose, with this heading of the gyroscope. -/
def stopFacing (heading : R) : Sample R :=
  ⟨[("imu", .dict [("heading_deg", .float heading)]),
      ("motor_angles_deg", .dict [("left_drive", .int 0), ("right_drive", .int 0), ("body", .int 158)]),
      ("motion_active", .bool false), ("distance_mm", .float 800)], true, settledRange⟩

/-- The rays of a sweep that was cut short after it turned to the left. -/
def leftTurnRays (heading : R) : List (PyDict R) := angularRays (stopFacing 0).observation true ⟨0, 0⟩ [stopFacing heading] []

def leftTurnScan (heading : R) : PyDict R :=
  partialSweepScan ⟨0, 0⟩ (scanHeading (stopFacing (0 : R)).observation) 1 (stopFacing heading).observation true true (leftTurnRays heading)

theorem stopFacing_ok (heading : R) : SampleOk (stopFacing heading) := ⟨rfl, rfl⟩

theorem stopFacing_heading (heading : R) : scanHeading (stopFacing heading).observation = some heading := rfl

theorem leftTurn_delta {heading : R} (h : -90 ≤ heading ∧ heading < 0) :
    scanHeadingDelta (some heading) (some 0) = some heading := by
  rw [scanHeadingDelta, Option.bind_some, Option.map_some, sub_zero, wrapDegrees_of_mem ⟨by linarith [h.1], by linarith [h.2]⟩]

theorem leftTurn_sweep {heading : R} (h : -90 ≤ heading ∧ heading < 0) :
    scanSweepBearing (R := R) ⟨0, 0⟩ ⟨0, 0⟩ (some heading) (some 0) = heading := by
  have hencoder : encoderSweepBearing R ⟨0, 0⟩ ⟨0, 0⟩ = 0 := by simp [encoderSweepBearing, encoderBearing, DriveAngles.since]
  have hround : roundEven ((0 - heading) / 360) = 0 := by
    refine roundEven_zero ?_
    rw [abs_le]
    constructor <;> linarith [h.1, h.2]
  rw [scanSweepBearing, leftTurn_delta h, unwound, hencoder, hround]
  simp

theorem leftTurn_bearing {k : Int} (h : -90 ≤ (k : R) / 10 ^ 6 ∧ (k : R) / 10 ^ 6 < 0) :
    sampleBearing ⟨0, 0⟩ (some 0) (stopFacing ((k : R) / 10 ^ 6)) = (k : R) / 10 ^ 6 := by
  have hangles : anglesOf (stopFacing ((k : R) / 10 ^ 6)) = ⟨0, 0⟩ := rfl
  rw [sampleBearing, hangles, stopFacing_heading, scanRelativeBearing, leftTurn_sweep h,
    wrapDegrees_of_mem ⟨by linarith [h.1], by linarith [h.2]⟩, roundDigits, div_mul_cancel₀ _ (by positivity), roundEven_intCast]

theorem leftTurnScan_valid {k : Int} (h : -90 ≤ (k : R) / 10 ^ 6 ∧ (k : R) / 10 ^ 6 < 0) :
    validateBlastScanRayContract (.dict (leftTurnScan ((k : R) / 10 ^ 6))) = .ok (leftTurnScan ((k : R) / 10 ^ 6)) := by
  have hsweep : SweepOk (stopFacing (0 : R)).observation ⟨0, 0⟩ [stopFacing ((k : R) / 10 ^ 6)] [] :=
    ⟨rfl, by simp [stopFacing_ok], by simp⟩
  have hvalidate := @partial_validate R _ _ _ _ (stopFacing (0 : R)).observation true ⟨0, 0⟩ [stopFacing ((k : R) / 10 ^ 6)] []
    (stopFacing ((k : R) / 10 ^ 6)).observation ⟨0, 0⟩ true true 1 hsweep (by simp) (by simp) rfl (by simp)
  refine hvalidate.trans (if_pos ?_)
  rw [stopFacing_heading, stopFacing_heading, leftTurn_sweep h, abs_of_neg h.2, List.map_cons, List.map_nil, leftTurn_bearing h]
  refine ⟨?_, by linarith [h.2], by linarith [h.1]⟩
  rw [fansOut_iff]
  · simp
  · simpa using ⟨by linarith [h.1], h.2⟩
  · simp

theorem leftTurnScan_rays (heading : R) : raysIn (leftTurnScan heading) = leftTurnRays heading := by
  rw [raysIn, leftTurnScan, partial_evidenceRays]
  dsimp only
  rw [List.filterMap_map]
  exact List.filterMap_some

theorem leftTurnRays_mem {heading : R} {ray : PyDict R} (h : ray ∈ leftTurnRays heading) :
    Measured ray = true ∧ distanceOf ray = 800 ∧ field ray "body_motor_angle_deg" = .int 158 ∧ (ray.map Prod.fst).Nodup := by
  have hdistance : (0 : R) ≤ 800 ∧ (800 : R) ≤ 2000 ∧ (800 : R) ≠ 2000 := by norm_num
  have hray : ∃ side sample, sample ∈ [stopFacing 0, stopFacing heading] ∧
      ray = rayFields side sample.observation ⟨0, 0⟩ ⟨0, 0⟩ true settledRange (some 0) := by
    obtain rfl | rfl : ray = _ ∨ ray = _ := by simpa [leftTurnRays, angularRays, sideRayList] using h
    · exact ⟨"center", stopFacing 0, by simp, rfl⟩
    · exact ⟨_, stopFacing heading, by simp, rfl⟩
  obtain ⟨side, sample, hsample, rfl⟩ := hray
  have hfield : field sample.observation "distance_mm" = .float 800 ∧ bodyMotorAngle sample.observation = some 158 := by
    obtain rfl | rfl : sample = _ ∨ sample = _ := by simpa using hsample
    · exact ⟨rfl, rfl⟩
    · exact ⟨rfl, rfl⟩
  refine ⟨?_, ?_, ?_, ?_⟩
  · simp [Measured, rayFields_lookup, hfield.1, finiteNumber, PyValue.ofOption, blastRangeState, hdistance, PyValue.isStr, rangeMeasured]
  · simp [distanceOf, rayFields_lookup, hfield.1, finiteNumber, PyValue.ofOption]
  · simp [rayFields_lookup, hfield.2, PyValue.ofOption]
  · simp [rayFields]

theorem leftTurnScan_ready (heading : R) : partialScan (leftTurnScan heading) = true := partial_partialScan

theorem leftTurnScan_body (heading : R) :
    ∀ ray ∈ raysIn (leftTurnScan heading), matchesNavigationBodyAngle (field ray "body_motor_angle_deg") = true := by
  intro ray hray
  rw [leftTurnScan_rays] at hray
  rw [(leftTurnRays_mem hray).2.2.1]
  rfl

theorem leftTurnScan_keys (heading : R) : KeysOnce (leftTurnScan heading) := by
  intro rays hrays ray hray
  have hfront : field (leftTurnScan heading) "rays" = .list ((leftTurnRays heading).map .dict) := by
    simp [leftTurnScan, partialSweepScan, field_cons]
  rw [hfront] at hrays
  injection hrays with hrays
  subst hrays
  obtain ⟨_, hmem, hsame⟩ := List.mem_map.mp hray
  cases hsame
  exact (leftTurnRays_mem hmem).2.2.2

theorem leftTurnScan_angular (heading : R) :
    (leftTurnScan heading).lookup "angular_rays" = some (.list ((leftTurnRays heading).map .dict)) := by
  simp [leftTurnScan, partialSweepScan, commonFields, lookup_cons_key]

theorem leftTurnRays_left {k : Int} (h : -90 ≤ (k : R) / 10 ^ 6 ∧ (k : R) / 10 ^ 6 < 0) :
    ∃ center left, leftTurnRays ((k : R) / 10 ^ 6) = [center, left] ∧ nameOf center = "center" ∧ nameOf left = "left_1" ∧
      relativeOf left = (k : R) / 10 ^ 6 := by
  have hlabel : "left_" ++ toString (0 + 1) = "left_1" := by decide
  refine ⟨rayOf ⟨0, 0⟩ (some 0) "center" (centerSample (stopFacing 0).observation true),
    rayOf ⟨0, 0⟩ (some 0) "left_1" (stopFacing ((k : R) / 10 ^ 6)), ?_, ?_, ?_, ?_⟩
  · rw [← hlabel]
    rfl
  · exact nameOf_of_lookup (lookup_of_sideOf rayFields_side)
  · exact nameOf_of_lookup (lookup_of_sideOf rayFields_side)
  · rw [relativeOf, rayOf, rayFields_lookup]
    exact leftTurn_bearing h

end

/-- Twenty degrees to the left. -/
theorem left_turn_kept : ∃ projection,
    projectBlastScanPlanarSurfaces (leftTurnScan (((-20 * 10 ^ 6 : Int) : ℝ) / 10 ^ 6)) ⟨0, 0, 0⟩ = .ok projection ∧
      ScanViewOk ⟨"scan-1", 0, ⟨0, 0, 0⟩, projection⟩ 0 := by
  have hrange : -90 ≤ ((-20 * 10 ^ 6 : Int) : ℝ) / 10 ^ 6 ∧ ((-20 * 10 ^ 6 : Int) : ℝ) / 10 ^ 6 < 0 := by norm_num
  refine (scan_view_kept_iff (leftTurnScan_keys _) (leftTurnScan_valid hrange) (.inr (leftTurnScan_ready _)) (leftTurnScan_body _) (by decide)
    (by decide) (by decide)).mpr ?_
  have hangular := leftTurnScan_angular (((-20 * 10 ^ 6 : Int) : ℝ) / 10 ^ 6)
  refine ⟨?_, ?_, ?_, ?_, ?_⟩
  · rw [hangular]
    exact fun hnone => by cases hnone
  · rw [field, hangular]
    exact fun hnone => by cases hnone
  · intro residue _
    simp [residueOk, leftTurnScan, partialSweepScan, field_cons, PyValue.isStr]
  · intro ray hray _
    rw [leftTurnScan_rays] at hray
    rw [(leftTurnRays_mem hray).2.1]
    norm_num
  · intro ray hray _ hside
    obtain ⟨center, left, hrays, hcenter, -, hrelative⟩ := leftTurnRays_left hrange
    rw [leftTurnScan_rays, hrays] at hray
    obtain rfl | rfl : ray = center ∨ ray = left := by simpa using hray
    · rw [hcenter] at hside
      exact absurd hside (by decide)
    · rw [hrelative]
      norm_num [abs_of_neg hrange.2]

/-- The gyroscope turned by three ten-thousandths of a degree. -/
theorem tiny_turn_lost :
    validateBlastScanRayContract (.dict (leftTurnScan (((-300 : Int) : ℝ) / 10 ^ 6))) = .ok (leftTurnScan (((-300 : Int) : ℝ) / 10 ^ 6)) ∧
      partialScan (leftTurnScan (((-300 : Int) : ℝ) / 10 ^ 6)) = true ∧
      (∀ ray ∈ raysIn (leftTurnScan (((-300 : Int) : ℝ) / 10 ^ 6)), matchesNavigationBodyAngle (field ray "body_motor_angle_deg") = true) ∧
      ∀ projection, projectBlastScanPlanarSurfaces (leftTurnScan (((-300 : Int) : ℝ) / 10 ^ 6)) ⟨0, 0, 0⟩ = .ok projection →
        ¬ ScanViewOk ⟨"scan-1", 0, ⟨0, 0, 0⟩, projection⟩ 0 := by
  have hrange : -90 ≤ ((-300 : Int) : ℝ) / 10 ^ 6 ∧ ((-300 : Int) : ℝ) / 10 ^ 6 < 0 := by norm_num
  have hvalid := leftTurnScan_valid hrange
  obtain ⟨rays, haccepted⟩ := accepted_of_valid hvalid
  refine ⟨hvalid, leftTurnScan_ready _, leftTurnScan_body _, fun projection hproject hview => ?_⟩
  obtain ⟨-, -, -, rfl⟩ := (project_eq haccepted hvalid (.inr (leftTurnScan_ready _)) (leftTurnScan_body _)).mp hproject
  obtain ⟨center, left, hrays, -, hname, hrelative⟩ := leftTurnRays_left hrange
  have hleft : left ∈ leftTurnRays (((-300 : Int) : ℝ) / 10 ^ 6) := by
    rw [hrays]
    exact List.mem_cons_of_mem _ List.mem_cons_self
  have hmem : left ∈ raysIn (leftTurnScan (((-300 : Int) : ℝ) / 10 ^ 6)) := by rwa [leftTurnScan_rays]
  have hpoint := hview.points _ (projected_mem.mpr ⟨left, hmem, (leftTurnRays_mem hleft).1, rfl⟩)
  have hsign := (bearingOnSide_iff (nameOf left) (relativeOf left)).mp hpoint.onSide (.inl (by rw [hname]; decide))
  rw [hrelative, abs_of_neg hrange.2] at hsign
  norm_num at hsign

end RobotLlm.Blast.PlanarProjection
