import Mathlib.Data.List.Chain
import Mathlib.Data.List.Nodup
import RobotLlm.Blast.SpatialMap
import RobotLlm.Lib.RealTrig

/-!
# Clusters and what a reader accepts of them

The clusters of a view split its points, ordered by bearing, wherever two
neighbours are too far apart. A hypothesis takes its side from the rounded mean
of the bearings, its reader from the mean itself: the two differ just beyond
the threshold.
-/

namespace RobotLlm.Blast.SpatialMap

open RobotLlm.Lib

-- Clusters

section
variable {R : Type} {points : List (ScanPoint R)}

/-- The last point of one cluster and the first of the next are too far apart. -/
def Apart (left right : List (ScanPoint R)) : Prop := ∃ p q, left.getLast? = some p ∧ right.head? = some q ∧ ¬ near p q

/-- The points seen so far, cut where neighbours are too far apart. -/
structure Cut (seen : List (ScanPoint R)) (clusters : List (List (ScanPoint R))) : Prop where
  whole : clusters.flatten = seen
  nonempty : ∀ c ∈ clusters, c ≠ []
  runs : ∀ c ∈ clusters, c.IsChain near
  apart : clusters.IsChain Apart

theorem Cut.add {seen : List (ScanPoint R)} {clusters : List (List (ScanPoint R))} (h : Cut seen clusters)
    (point : ScanPoint R) : Cut (seen ++ [point]) (addPoint clusters point) := by
  obtain rfl | ⟨before, cluster, rfl⟩ := List.eq_nil_or_concat' clusters
  · have hseen : seen = [] := h.whole.symm
    subst hseen
    exact ⟨rfl, by simp [addPoint], by simp [addPoint], by simp [addPoint]⟩
  obtain rfl | ⟨run, previous, rfl⟩ := List.eq_nil_or_concat' cluster
  · exact absurd rfl (h.nonempty [] (by simp))
  have hwhole : before.flatten ++ (run ++ [previous]) = seen := by simpa using h.whole
  have hchain := List.isChain_append.mp h.apart
  by_cases hnear : near previous point
  · have hadd : addPoint (before ++ [run ++ [previous]]) point = before ++ [run ++ [previous] ++ [point]] := by
      simp [addPoint, hnear]
    rw [hadd]
    refine ⟨by simp [← hwhole], ?_, ?_, ?_⟩
    · intro c hc
      obtain hc | hc := List.mem_append.mp hc
      · exact h.nonempty c (List.mem_append_left _ hc)
      · simp [List.mem_singleton.mp hc]
    · intro c hc
      obtain hc | hc := List.mem_append.mp hc
      · exact h.runs c (List.mem_append_left _ hc)
      · rw [List.mem_singleton.mp hc]
        refine List.isChain_append.mpr ⟨h.runs _ (by simp), by simp, ?_⟩
        simpa using hnear
    · refine List.isChain_append.mpr ⟨hchain.1, by simp, fun left hleft right hright => ?_⟩
      obtain ⟨p, q, hp, hq, hfar⟩ := hchain.2.2 left hleft (run ++ [previous]) rfl
      simp only [List.head?_cons, Option.mem_def, Option.some.injEq] at hright
      subst hright
      refine ⟨p, q, hp, ?_, hfar⟩
      rw [List.head?_append, hq]
      rfl
  · have hadd : addPoint (before ++ [run ++ [previous]]) point = before ++ [run ++ [previous]] ++ [[point]] := by
      simp [addPoint, hnear]
    rw [hadd]
    refine ⟨by simp [← hwhole], ?_, ?_, ?_⟩
    · intro c hc
      obtain hc | hc := List.mem_append.mp hc
      · exact h.nonempty c hc
      · simp [List.mem_singleton.mp hc]
    · intro c hc
      obtain hc | hc := List.mem_append.mp hc
      · exact h.runs c hc
      · simp [List.mem_singleton.mp hc]
    · refine List.isChain_append.mpr ⟨h.apart, by simp, fun left hleft right hright => ?_⟩
      simp only [List.getLast?_append, List.getLast?_singleton, Option.some_or, Option.mem_def, Option.some.injEq] at hleft
      simp only [List.head?_cons, Option.mem_def, Option.some.injEq] at hright
      subst hleft hright
      exact ⟨previous, point, by simp, rfl, hnear⟩

theorem clusterScanPoints_cut (points : List (ScanPoint R)) : Cut (byBearing points) (clusterScanPoints points) := by
  have h : ∀ (rest seen : List (ScanPoint R)) (clusters : List (List (ScanPoint R))), Cut seen clusters → Cut (seen ++ rest) (rest.foldl addPoint clusters) := by
    intro rest
    induction rest with
    | nil =>
      intro seen clusters hcut
      simpa using hcut
    | cons point rest ih =>
      intro seen clusters hcut
      simpa using ih _ _ (hcut.add point)
  exact h (byBearing points) [] [] ⟨rfl, by simp, by simp, by simp⟩

theorem byBearing_perm (points : List (ScanPoint R)) : (byBearing points).Perm points := List.mergeSort_perm _ _

theorem byBearing_sorted (points : List (ScanPoint R)) :
    (byBearing points).Pairwise fun a b => b.relativeBearingMdeg ≤ a.relativeBearingMdeg := by
  have h : (byBearing points).Pairwise fun a b => decide (b.relativeBearingMdeg ≤ a.relativeBearingMdeg) = true :=
    List.pairwise_mergeSort (fun a b c => by simpa using fun hab hbc => hbc.trans hab) (fun a b => by simpa using le_total _ _) points
  exact h.imp fun hab => by simpa using hab

end

-- Means and radii

section
variable {R : Type} [Field R]

theorem mean_neg (values : List Int) : (mean (values.map Neg.neg) : R) = -mean values := by
  have hsum : ((values.map Neg.neg).sum : Int) = -values.sum := by
    induction values with
    | nil => rfl
    | cons v values ih => simp only [List.map_cons, List.sum_cons, ih]; ring
  simp [mean, hsum, neg_div]

variable [LinearOrder R] [IsStrictOrderedRing R]

theorem sum_le_length_mul {values : List Int} {hi : Int} (h : ∀ v ∈ values, v ≤ hi) : values.sum ≤ values.length * hi := by
  induction values with
  | nil => simp
  | cons v values ih =>
    have hv := h v List.mem_cons_self
    have hrest := ih fun w hw => h w (List.mem_cons_of_mem _ hw)
    rw [List.sum_cons, List.length_cons]
    push_cast
    linarith

theorem mean_le {values : List Int} {hi : Int} (hne : values ≠ []) (h : ∀ v ∈ values, v ≤ hi) : (mean values : R) ≤ hi := by
  have hpos : (0 : R) < values.length := by exact_mod_cast List.length_pos_iff.mpr hne
  have hsum : (values.sum : R) ≤ values.length * hi := by exact_mod_cast sum_le_length_mul h
  rw [mean, div_le_iff₀ hpos]
  linarith

theorem le_mean {values : List Int} {lo : Int} (hne : values ≠ []) (h : ∀ v ∈ values, lo ≤ v) : (lo : R) ≤ mean values := by
  have hneg : (mean (values.map Neg.neg) : R) ≤ ((-lo : Int) : R) := by
    refine mean_le (by simpa using hne) fun v hv => ?_
    obtain ⟨w, hw, rfl⟩ := List.mem_map.mp hv
    exact neg_le_neg (h w hw)
  rw [mean_neg] at hneg
  push_cast at hneg
  linarith

end

theorem sq_le_radiusSq (squares : List Int) : ∀ {start : Int}, (∀ s ∈ squares, s ≤ squares.foldl max start) ∧ start ≤ squares.foldl max start := by
  induction squares with
  | nil => intro start; simp
  | cons s squares ih =>
    intro start
    obtain ⟨hmem, hstart⟩ := @ih (max start s)
    refine ⟨fun t ht => ?_, (le_max_left _ _).trans hstart⟩
    obtain rfl | ht := List.mem_cons.mp ht
    · exact (le_max_right _ _).trans hstart
    · exact hmem t ht

theorem foldl_max_le {squares : List Int} {hi : Int} : ∀ {start : Int}, start ≤ hi → (∀ s ∈ squares, s ≤ hi) → squares.foldl max start ≤ hi := by
  induction squares with
  | nil => exact fun hstart _ => hstart
  | cons s squares ih =>
    exact fun hstart h => ih (max_le hstart (h s List.mem_cons_self)) fun t ht => h t (List.mem_cons_of_mem _ ht)

theorem ceilSqrt_spec {square : Int} (h : 0 ≤ square) :
    0 ≤ ceilSqrt square ∧ square ≤ ceilSqrt square ^ 2 ∧ (ceilSqrt square = 0 ∨ (ceilSqrt square - 1) ^ 2 < square) := by
  obtain ⟨n, rfl⟩ := Int.eq_ofNat_of_zero_le h
  have hle := Nat.sqrt_le n
  have hlt := Nat.lt_succ_sqrt n
  unfold ceilSqrt
  simp only [Int.toNat_natCast]
  split_ifs with hroot
  · refine ⟨by positivity, by rw [sq]; exact_mod_cast hroot.ge, ?_⟩
    obtain hzero | hpos := Nat.eq_zero_or_pos n.sqrt
    · exact .inl (by simp [hzero])
    · right
      have hroot' : (n.sqrt : Int) * n.sqrt = n := by exact_mod_cast hroot
      have hpos' : (0 : Int) < n.sqrt := by exact_mod_cast hpos
      nlinarith
  · have hle' : n.sqrt * n.sqrt < n := lt_of_le_of_ne hle hroot
    refine ⟨by positivity, ?_, .inr ?_⟩
    · have hlt' : (n : Int) < (n.sqrt + 1) * (n.sqrt + 1) := by exact_mod_cast hlt
      nlinarith
    · rw [add_sub_cancel_right, sq]
      exact_mod_cast hle'

-- How far a run reaches

section
variable {R : Type} {cluster : List (ScanPoint R)}

theorem near.bounds {previous point : ScanPoint R} (h : near previous point) :
    |point.nominalEchoXMm - previous.nominalEchoXMm| ≤ 225 ∧ |point.nominalEchoYMm - previous.nominalEchoYMm| ≤ 225 := by
  have hsq := h.2
  rw [distanceSq] at hsq
  constructor <;> refine abs_le_of_sq_le_sq ?_ (by norm_num) <;> nlinarith [sq_nonneg (point.nominalEchoXMm - previous.nominalEchoXMm),
    sq_nonneg (point.nominalEchoYMm - previous.nominalEchoYMm)]

theorem run_reach {coordinate : ScanPoint R → Int} (hstep : ∀ p q, near p q → |coordinate q - coordinate p| ≤ 225) :
    ∀ {first : ScanPoint R} {rest : List (ScanPoint R)}, (first :: rest).IsChain near →
      ∀ p ∈ first :: rest, ∀ q ∈ first :: rest, |coordinate p - coordinate q| ≤ 225 * rest.length := by
  intro first rest
  induction rest generalizing first with
  | nil =>
    intro _ p hp q hq
    simp [List.mem_singleton.mp hp, List.mem_singleton.mp hq]
  | cons second rest ih =>
    intro hrun p hp q hq
    obtain ⟨hnear, hrest⟩ := List.isChain_cons_cons.mp hrun
    have hfirst := abs_le.mp (hstep _ _ hnear)
    have hlen : ((second :: rest).length : Int) = rest.length + 1 := by simp
    rw [hlen, abs_le]
    obtain rfl | hp' := List.mem_cons.mp hp <;> obtain rfl | hq' := List.mem_cons.mp hq
    · constructor <;> linarith [Int.natCast_nonneg rest.length]
    · have hsecond := abs_le.mp (ih hrest q hq' second List.mem_cons_self)
      constructor <;> linarith
    · have hsecond := abs_le.mp (ih hrest p hp' second List.mem_cons_self)
      constructor <;> linarith
    · have hpq := abs_le.mp (ih hrest p hp' q hq')
      constructor <;> linarith

end

-- What a reader accepts

section
variable {R : Type} [Field R] [LinearOrder R]

theorem relationOf_known (m : R) :
    relationOf m ∈ ["LEFT_OF_SCAN", "FRONT_OF_SCAN", "RIGHT_OF_SCAN"] ∧ removeSuffix "_OF_SCAN" (relationOf m) ∈ ["LEFT", "FRONT", "RIGHT"] := by
  unfold relationOf
  split_ifs <;> decide

theorem ScanPointOk.support [Trig R] {p : ScanPoint R} (h : ScanPointOk p) : SupportPointOk (SupportPoint.of p) :=
  ⟨h.side, h.echo, h.range, h.bearing, h.onSide⟩

structure ClusterOk [Trig R] (cluster : List (ScanPoint R)) : Prop where
  nonempty : cluster ≠ []
  count : cluster.length ≤ scanAngularRaySides.length
  run : cluster.IsChain near
  points : ∀ p ∈ cluster, ScanPointOk p

theorem clusterOk_of_view [Trig R] {view : ScanView R} {nowUnixMs : Int} (hview : ScanViewOk view nowUnixMs)
    {cluster : List (ScanPoint R)} (hc : cluster ∈ clusterScanPoints view.projection.points) : ClusterOk cluster := by
  have hcut := clusterScanPoints_cut view.projection.points
  have hmem : ∀ p ∈ cluster, p ∈ view.projection.points := fun p hp =>
    (byBearing_perm _).mem_iff.mp (hcut.whole ▸ List.mem_flatten.mpr ⟨cluster, hc, hp⟩)
  refine ⟨hcut.nonempty _ hc, ?_, hcut.runs _ hc, fun p hp => hview.points p (List.mem_append_left _ (hmem p hp))⟩
  have hflat : cluster.length ≤ (clusterScanPoints view.projection.points).flatten.length :=
    (List.sublist_flatten_of_mem hc).length_le
  rw [hcut.whole, (byBearing_perm _).length_eq] at hflat
  have hall := hview.count
  rw [Projection.allPoints, List.length_append] at hall
  omega

variable [IsStrictOrderedRing R] [FloorRing R]

def AtThreshold (meanBearing : R) : Prop := 7500 < |meanBearing| ∧ |meanBearing| ≤ 7500 + 1 / 2

theorem relationOf_rounded (m : R) : relationOf ((roundEven m : Int) : R) = relationOf m ↔ ¬ AtThreshold m := by
  have hleft : (7500 : R) < ((roundEven m : Int) : R) ↔ 7500 + 1 / 2 < m := by
    have h := even_lt_roundEven (k := 7500) (by decide) (x := m)
    push_cast at h
    rw [← h]
    norm_cast
  have hright : ((roundEven m : Int) : R) < -7500 ↔ m < -7500 - 1 / 2 := by
    have h := roundEven_lt_even (k := -7500) (by decide) (x := m)
    push_cast at h
    rw [← h]
    norm_cast
  rw [relationOf, relationOf, AtThreshold]
  simp only [hleft, hright]
  obtain hneg | hpos := lt_or_ge m 0
  · rw [abs_of_neg hneg]
    have h₁ : ¬ (7500 : R) + 1 / 2 < m := by linarith
    have h₂ : ¬ (7500 : R) < m := by linarith
    rw [if_neg h₁, if_neg h₂]
    split_ifs with h₃ h₄ h₄
    · exact iff_of_true rfl fun h => by linarith [h.2]
    · linarith
    · exact iff_of_false (by decide) fun h => h ⟨by linarith, by linarith⟩
    · exact iff_of_true rfl fun h => by linarith [h.1]
  · rw [abs_of_nonneg hpos]
    have h₁ : ¬ m < -7500 - (1 / 2 : R) := by linarith
    have h₂ : ¬ m < -(7500 : R) := by linarith
    rw [if_neg h₁, if_neg h₂]
    split_ifs with h₃ h₄ h₄
    · exact iff_of_true rfl fun h => by linarith [h.2]
    · linarith
    · exact iff_of_false (by decide) fun h => h ⟨h₄, by linarith⟩
    · exact iff_of_true rfl fun h => by linarith [h.1]

theorem roundedMean_near {values : List Int} {v : Int} {reach : Int} (hne : values ≠ []) (h : ∀ w ∈ values, |w - v| ≤ reach) :
    |roundedMean R values - v| ≤ reach := by
  rw [abs_le]
  constructor
  · have hlo : v - reach ≤ roundedMean R values := le_roundEven (le_mean hne fun w hw => by linarith [(abs_le.mp (h w hw)).1])
    linarith
  · have hhi : roundedMean R values ≤ v + reach := roundEven_le (mean_le hne fun w hw => by linarith [(abs_le.mp (h w hw)).2])
    linarith

theorem roundedMean_coordinate {values : List Int} (hne : values ≠ []) (h : ∀ v ∈ values, coordinate v) :
    coordinate (roundedMean R values) :=
  ⟨le_roundEven (le_mean hne fun v hv => (h v hv).1), roundEven_le (mean_le hne fun v hv => (h v hv).2)⟩

theorem roundedMean_sub_mean (values : List Int) : |(roundedMean R values : R) - mean values| ≤ 3 / 2 :=
  (abs_roundEven_sub_le _).trans (by norm_num)

variable [Trig R]

theorem ClusterOk.reach {cluster : List (ScanPoint R)} (h : ClusterOk cluster) {coordinate : ScanPoint R → Int}
    (hstep : ∀ p q, near p q → |coordinate q - coordinate p| ≤ 225) :
    ∀ p ∈ cluster, |roundedMean R (cluster.map coordinate) - coordinate p| ≤ 3600 := by
  obtain ⟨hne, hcount, hrun, -⟩ := h
  cases cluster with
  | nil => exact absurd rfl hne
  | cons first rest =>
    have hrest : (rest.length : Int) ≤ 16 := by
      have hlen : rest.length ≤ 16 := Nat.le_of_succ_le_succ hcount
      exact_mod_cast hlen
    intro p hp
    refine roundedMean_near (by simp) fun w hw => ?_
    obtain ⟨q, hq, rfl⟩ := List.mem_map.mp hw
    exact (run_reach hstep hrun q hq p hp).trans (by linarith)

theorem ClusterOk.radius {cluster : List (ScanPoint R)} (h : ClusterOk cluster) :
    let x := roundedMean R (cluster.map (·.nominalEchoXMm))
    let y := roundedMean R (cluster.map (·.nominalEchoYMm))
    let square := radiusSq x y (cluster.map SupportPoint.of)
    let radius := max 35 (ceilSqrt square + 35)
    integer radius 1 10000 ∧ square ≤ radius ^ 2 ∧ (radius ≤ 100 ∨ (radius - 100) ^ 2 ≤ square) := by
  intro x y square radius
  have hsquare : 0 ≤ square ∧ square ≤ 2 * 3600 ^ 2 := by
    refine ⟨(sq_le_radiusSq _).2, foldl_max_le (by norm_num) ?_⟩
    intro s hs
    obtain ⟨p, hp, rfl⟩ := List.mem_map.mp hs
    obtain ⟨q, hq, rfl⟩ := List.mem_map.mp hp
    have hx := sq_le_sq' (by linarith [(abs_le.mp (h.reach (fun _ _ hn => hn.bounds.1) q hq)).1])
      (abs_le.mp (h.reach (fun _ _ hn => hn.bounds.1) q hq)).2
    have hy := sq_le_sq' (by linarith [(abs_le.mp (h.reach (fun _ _ hn => hn.bounds.2) q hq)).1])
      (abs_le.mp (h.reach (fun _ _ hn => hn.bounds.2) q hq)).2
    show (q.nominalEchoXMm - x) ^ 2 + (q.nominalEchoYMm - y) ^ 2 ≤ 2 * 3600 ^ 2
    nlinarith
  obtain ⟨hpos, hle, hlt⟩ := ceilSqrt_spec hsquare.1
  have hradius : radius = ceilSqrt square + 35 := max_eq_right (by linarith)
  rw [hradius]
  refine ⟨⟨by linarith, ?_⟩, by nlinarith, ?_⟩
  · obtain hzero | hlt := hlt
    · rw [hzero]
      norm_num
    · by_contra hbig
      nlinarith
  · by_cases hsmall : ceilSqrt square ≤ 65
    · exact .inl (by linarith)
    · right
      obtain hzero | hlt := hlt
      · omega
      · nlinarith

theorem hypothesisOf_ok {view : ScanView R} {nowUnixMs : Int} (hview : ScanViewOk view nowUnixMs) {cluster : List (ScanPoint R)}
    (h : ClusterOk cluster) (digest : Digest) (ordinal : Nat) :
    ProvisionalObstacleHypothesisOk (hypothesisOf digest view ordinal cluster) nowUnixMs ↔
      ¬ AtThreshold (mean (cluster.map (·.relativeBearingMdeg)) : R) := by
  have hsupport : ∀ f : SupportPoint R → Int, (cluster.map SupportPoint.of).map f = cluster.map fun p => f (SupportPoint.of p) :=
    fun f => by simp [Function.comp_def]
  rw [← relationOf_rounded]
  constructor
  · intro hok
    have hrelation := hok.relation
    rw [show (hypothesisOf digest view ordinal cluster).supportPoints = cluster.map SupportPoint.of from rfl, hsupport] at hrelation
    exact hrelation
  · intro hrelation
    have hlen : 1 ≤ cluster.length := List.length_pos_iff.mpr h.nonempty
    have hcount : (cluster.length : Int) ≤ 17 := by exact_mod_cast h.count
    obtain ⟨hradius, hreach, hnear⟩ := h.radius
    have hknown := relationOf_known ((roundedMean R (cluster.map (·.relativeBearingMdeg)) : Int) : R)
    have hcoordinate : ∀ f : ScanPoint R → Int, (∀ p ∈ cluster, coordinate (f p)) → coordinate (roundedMean R (cluster.map f)) := by
      intro f hf
      refine roundedMean_coordinate (by simpa using h.nonempty) fun v hv => ?_
      obtain ⟨p, hp, rfl⟩ := List.mem_map.mp hv
      exact hf p hp
    have hid : (hypothesisOf digest view ordinal cluster).hypothesisId.length ≤ 17 + 20 := by
      simp only [hypothesisOf, String.length_append, String.length_ofList, List.length_take]
      exact Nat.add_le_add (by decide) (Nat.min_le_left _ _)
    exact {
      hypothesisId := ⟨by simp only [hypothesisOf, String.length_append]; exact Nat.add_pos_left (by decide) _, hid.trans (by decide)⟩
      classification := ⟨rfl, rfl⟩
      place := ⟨hcoordinate _ fun p hp => (h.points p hp).echo.1, hcoordinate _ fun p hp => (h.points p hp).echo.2⟩
      geometryKind := rfl
      supportRadius := hradius
      supportCount := by simpa [hypothesisOf] using ⟨hlen, h.count⟩
      sourceCount := by simp [hypothesisOf, maxPlanarScanViews]
      sources := by simpa [hypothesisOf] using hview.scanId
      sourcesDistinct := by simp [hypothesisOf]
      bearingKnown := hknown.2
      relationKnown := hknown.1
      evidenceCount := by simp [hypothesisOf]
      confidence := by
        constructor
        · exact le_min (by norm_num) (by linarith [Int.natCast_nonneg (cluster.length - 1)])
        · exact (min_le_left _ _).trans (by norm_num)
      origin := ⟨rfl, rfl, rfl⟩
      flags := ⟨rfl, rfl, rfl⟩
      observedAt := hview.observedAt
      age := ⟨le_refl _, by norm_num [hypothesisOf]⟩
      points := by
        intro p hp
        obtain ⟨q, hq, rfl⟩ := List.mem_map.mp hp
        exact (h.points q hq).support
      centroid := by
        rw [show (hypothesisOf digest view ordinal cluster).supportPoints = cluster.map SupportPoint.of from rfl, hsupport, hsupport]
        exact ⟨roundedMean_sub_mean _, roundedMean_sub_mean _⟩
      radius := ⟨hreach, hnear⟩
      relation := by
        rw [show (hypothesisOf digest view ordinal cluster).supportPoints = cluster.map SupportPoint.of from rfl, hsupport]
        exact hrelation
      bearing := by
        rw [show (hypothesisOf digest view ordinal cluster).supportPoints = cluster.map SupportPoint.of from rfl, hsupport]
        exact congrArg (removeSuffix "_OF_SCAN") hrelation }

-- All hypotheses

/-- The clusters of a view are a partition of its points into runs. -/
structure Partition (points : List (ScanPoint R)) (clusters : List (List (ScanPoint R))) : Prop where
  once : ∀ p ∈ points, ∃! c, c ∈ clusters ∧ p ∈ c
  whole : clusters.flatten.Perm points
  nonempty : ∀ c ∈ clusters, c ≠ []
  /-- Taken together they are the points by falling bearing. -/
  ordered : clusters.flatten.Pairwise fun a b => b.relativeBearingMdeg ≤ a.relativeBearingMdeg
  runs : ∀ c ∈ clusters, c.IsChain near
  apart : clusters.IsChain Apart

omit [Field R] [LinearOrder R] [IsStrictOrderedRing R] [FloorRing R] [Trig R] in
theorem clusterScanPoints_partition {points : List (ScanPoint R)} (hnodup : points.Nodup) :
    Partition points (clusterScanPoints points) := by
  have hcut := clusterScanPoints_cut points
  have hperm : (clusterScanPoints points).flatten.Perm points := hcut.whole ▸ byBearing_perm points
  refine ⟨fun p hp => ?_, hperm, hcut.nonempty, hcut.whole ▸ byBearing_sorted points, hcut.runs, hcut.apart⟩
  obtain ⟨c, hc, hpc⟩ := List.mem_flatten.mp (hperm.mem_iff.mpr hp)
  refine ⟨c, ⟨hc, hpc⟩, fun c' ⟨hc', hpc'⟩ => ?_⟩
  have hdisjoint := (List.nodup_flatten.mp (hperm.nodup_iff.mpr hnodup)).2
  have : Std.Symm (List.Disjoint (α := ScanPoint R)) := ⟨fun _ _ h => h.symm⟩
  by_contra hne
  exact hdisjoint.forall hc' hc hne hpc' hpc

/-- What is expected of the hypotheses of accepted views. -/
def HypothesesAccepted (digest : Digest) (views : List (ScanView R)) (nowUnixMs : Int) : Prop :=
  (∀ h ∈ provisionalObstacleHypotheses digest views, ∀ later, nowUnixMs ≤ later → ProvisionalObstacleHypothesisOk h later) ∧
    ∀ view ∈ views, Partition view.projection.points (clusterScanPoints view.projection.points)

omit [Field R] [LinearOrder R] [IsStrictOrderedRing R] [FloorRing R] [Trig R] in
theorem lastOf_map {α β : Type} (n : Nat) (f : α → β) (values : List α) : lastOf n (values.map f) = (lastOf n values).map f := by
  simp [lastOf, List.map_drop]

/-- A reader accepts every hypothesis that is kept, unless the mean bearing of
a kept cluster is rounded to the threshold. -/
theorem hypotheses_accepted_iff (digest : Digest) {views : List (ScanView R)} {nowUnixMs : Int} (h : TraceInputsOk views nowUnixMs) :
    HypothesesAccepted digest views nowUnixMs ↔
      ∀ c ∈ lastOf maxProvisionalObstacleHypotheses (scanClusters views),
        ¬ AtThreshold (mean (c.2.2.map (·.relativeBearingMdeg)) : R) := by
  have hcluster : ∀ c ∈ lastOf maxProvisionalObstacleHypotheses (scanClusters views), ∀ later, nowUnixMs ≤ later →
      (ProvisionalObstacleHypothesisOk (hypothesisOf digest c.1 c.2.1 c.2.2) later ↔
        ¬ AtThreshold (mean (c.2.2.map (·.relativeBearingMdeg)) : R)) := by
    intro c hc later hlater
    obtain ⟨view, hview, hmem⟩ := List.mem_flatMap.mp (List.mem_of_mem_drop hc)
    obtain ⟨⟨cluster, ordinal⟩, hzip, rfl⟩ := List.mem_map.mp hmem
    have hok := h.valid view hview
    have hlater' : ScanViewOk view later := { hok with observedAt := ⟨hok.observedAt.1, hok.observedAt.2.trans hlater⟩ }
    have hcluster : cluster ∈ clusterScanPoints view.projection.points :=
      List.mem_of_getElem? (List.mk_mem_zipIdx_iff_getElem?.mp hzip)
    have hiff := hypothesisOf_ok hlater' (clusterOk_of_view hok hcluster) digest ordinal
    exact hiff
  rw [HypothesesAccepted, provisionalObstacleHypotheses, lastOf_map]
  constructor
  · rintro ⟨haccepted, -⟩ c hc
    exact (hcluster c hc nowUnixMs le_rfl).mp (haccepted _ (List.mem_map_of_mem hc) nowUnixMs le_rfl)
  · intro hthreshold
    refine ⟨fun value hvalue later hlater => ?_, fun view hview => clusterScanPoints_partition ?_⟩
    · obtain ⟨c, hc, rfl⟩ := List.mem_map.mp hvalue
      exact (hcluster c hc later hlater).mpr (hthreshold c hc)
    · have hsides := (h.valid view hview).sides
      rw [Projection.allPoints, List.map_append] at hsides
      exact (List.nodup_append.mp hsides).1.of_map

end

-- A view at the threshold

section

noncomputable def echoPoint (side : String) (bearing beam : Int) : ScanPoint ℝ :=
  ⟨side, 500, bearing, 110, 80, beam, 610, 80⟩

/-- Two echoes of one wall, seen to the left of a robot that stands turned to the right. -/
noncomputable def wallView (second : Int) : ScanView ℝ where
  scanId := "scan-1"
  observedAtUnixMs := 1000
  scanPose := ⟨0, 0, -7500⟩
  projection := {
    schema := "blast-planar-scan-projection/v1"
    frame := "EPISODE_LOCAL_ODOMETRY"
    quality := "PROVISIONAL_YAW_ONLY"
    verticalPitchCompensated := false
    ultrasonicBeamWidthModeled := false
    scanTurnTranslationCompensated := false
    points := [echoPoint "left_1" 7500 0, echoPoint "left_2" second (second - 7500)]
    uncertainPoints := none }

theorem echoPoint_ok {side : String} {bearing beam : Int} (hside : side ∈ scanSides) (hleft : bearingOnSide side bearing)
    (hbearing : 0 ≤ bearing ∧ bearing ≤ 180000) (hbeam : 0 ≤ beam ∧ beam ≤ 10) : ScanPointOk (echoPoint side bearing beam) := by
  have hangle : 0 ≤ radians ((beam : ℝ) / 1000) ∧ radians ((beam : ℝ) / 1000) ≤ 1 / 1000 := by
    have hpi := Real.pi_le_four
    have hpos := Real.pi_pos
    have h₀ : (0 : ℝ) ≤ beam := by exact_mod_cast hbeam.1
    have h₁ : (beam : ℝ) ≤ 10 := by exact_mod_cast hbeam.2
    have hprod : (beam : ℝ) * Real.pi ≤ 10 * 4 := mul_le_mul h₁ hpi hpos.le (by norm_num)
    show 0 ≤ (beam : ℝ) / 1000 * Real.pi / 180 ∧ (beam : ℝ) / 1000 * Real.pi / 180 ≤ 1 / 1000
    constructor
    · positivity
    · linarith
  obtain ⟨hlo, hhi, hsin⟩ := small_angle hangle.1
  have hsin' := abs_le.mp (hsin.trans hangle.2)
  have hsq : radians ((beam : ℝ) / 1000) ^ 2 ≤ 1 := by nlinarith [hangle.1, hangle.2]
  exact {
    side := hside
    range := by constructor <;> norm_num [echoPoint]
    bearing := ⟨(show (-180000 : Int) ≤ 0 by decide).trans hbearing.1, hbearing.2⟩
    origin := by constructor <;> norm_num [coordinate, integer, echoPoint]
    beam := ⟨(show (-180000 : Int) ≤ 0 by decide).trans hbeam.1, hbeam.2.trans (by decide)⟩
    echo := by constructor <;> norm_num [coordinate, integer, echoPoint]
    onSide := hleft
    placed := by
      constructor
      · show |((610 : Int) : ℝ) - ((110 : Int) + 500 * Trig.cos (radians ((beam : ℝ) / 1000)))| ≤ 3 / 2
        rw [abs_le]
        push_cast
        constructor <;> nlinarith [hangle.1, hangle.2]
      · show |((80 : Int) : ℝ) - ((80 : Int) + 500 * Trig.sin (radians ((beam : ℝ) / 1000)))| ≤ 3 / 2
        rw [abs_le]
        push_cast
        constructor <;> linarith }

theorem wallView_ok {second : Int} (h : 7500 < second ∧ second ≤ 7510) : TraceInputsOk [wallView second] 1000 where
  count := by simp [maxPlanarScanViews]
  ids := by simp
  valid := by
    intro view hview
    rw [List.mem_singleton.mp hview]
    exact {
      scanId := by simp only [wallView]; decide
      observedAt := by constructor <;> simp [wallView]
      pose := by simp only [wallView]; decide
      schema := rfl
      frame := rfl
      quality := rfl
      unmodelled := ⟨rfl, rfl, rfl⟩
      points := by
        intro p hp
        simp only [wallView, Projection.allPoints, Option.getD_none, List.append_nil, List.mem_cons, List.not_mem_nil, or_false] at hp
        obtain rfl | rfl := hp
        · exact echoPoint_ok (by decide) (by decide) (by decide) (by decide)
        · refine echoPoint_ok (by decide) ⟨fun hcenter => absurd hcenter (by decide), fun _ => ?_,
            fun hright => absurd hright (by decide)⟩ ?_ ?_ <;> omega
      sides := by simp [wallView, Projection.allPoints, echoPoint]
      count := by simp [wallView, Projection.allPoints, scanAngularRaySides] }

theorem wallView_clusters {second : Int} (h : 7500 < second ∧ second ≤ 7510) :
    clusterScanPoints (wallView second).projection.points =
      [[echoPoint "left_2" second (second - 7500), echoPoint "left_1" 7500 0]] := by
  have hsorted : byBearing (wallView second).projection.points =
      [echoPoint "left_2" second (second - 7500), echoPoint "left_1" 7500 0] := by
    simp [byBearing, wallView, echoPoint, List.mergeSort, h.1]
  have hnear : near (echoPoint "left_2" second (second - 7500)) (echoPoint "left_1" 7500 0) := by
    constructor
    · show |7500 - second| ≤ 30000
      rw [abs_le]
      omega
    · simp [distanceSq, echoPoint]
  simp [clusterScanPoints, hsorted, addPoint, hnear]

theorem wallView_scanClusters {second : Int} (h : 7500 < second ∧ second ≤ 7510) : scanClusters [wallView second] =
    [(wallView second, 0, [echoPoint "left_2" second (second - 7500), echoPoint "left_1" 7500 0])] := by
  simp [scanClusters, wallView_clusters h]

/-- Bearings of 7.500 and 7.501 degrees: the mean lies to the left, its rounding in front. -/
theorem threshold_wall_rejected : ¬ ∀ (digest : Digest) (views : List (ScanView ℝ)) (nowUnixMs : Int),
    TraceInputsOk views nowUnixMs → HypothesesAccepted digest views nowUnixMs := by
  intro hall
  have hsecond : (7500 : Int) < 7501 ∧ (7501 : Int) ≤ 7510 := by decide
  have htrace := wallView_ok hsecond
  have haccepted := (hall (fun _ _ _ => "") _ _ htrace).1
  have hlast : provisionalObstacleHypotheses (fun _ _ _ => "") [wallView 7501] =
      [hypothesisOf (fun _ _ _ => "") (wallView 7501) 0 [echoPoint "left_2" 7501 1, echoPoint "left_1" 7500 0]] := by
    rw [provisionalObstacleHypotheses, wallView_scanClusters hsecond]
    rfl
  have hview := htrace.valid _ (List.mem_singleton.mpr rfl)
  have hcluster := clusterOk_of_view hview (wallView_clusters hsecond ▸ List.mem_singleton.mpr rfl)
  have hok := haccepted _ (hlast ▸ List.mem_singleton.mpr rfl) 1000 le_rfl
  refine (hypothesisOf_ok hview hcluster _ 0).mp hok ⟨?_, ?_⟩ <;> norm_num [mean, echoPoint]

theorem wall_accepted : HypothesesAccepted (fun _ _ _ => "") [wallView 7510] 1000 := by
  have hsecond : (7500 : Int) < 7510 ∧ (7510 : Int) ≤ 7510 := by decide
  refine (hypotheses_accepted_iff _ (wallView_ok hsecond)).mpr fun c hc => ?_
  rw [wallView_scanClusters hsecond] at hc
  obtain rfl := List.mem_singleton.mp (List.mem_of_mem_drop hc)
  rintro ⟨-, hnear⟩
  norm_num [mean, echoPoint] at hnear

end

end RobotLlm.Blast.SpatialMap
