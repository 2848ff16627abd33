import Mathlib.Algebra.Order.BigOperators.Group.List
import RobotLlm.Lib.Retain
import RobotLlm.Physical.PlannerContext

/-!
# A projection that loses no mandatory fact

The loops only leave attempts out or make them compact, and the metadata is
rebuilt after each step; what the planner is shown is described by a relation
between the hazards that were given and those that are shown.
-/

namespace RobotLlm.Physical.PlannerContext

open RobotLlm.Lib
open RobotLlm.Lib.Json (setField byteLength lookup_setField setField_setField setField_eq_self)

-- Hazards and attempts

def historyOf (hazard : Fields) : List Json :=
  match get hazard scanHistoryField with
  | .arr items => items
  | _ => []

def hazardId (hazard : Fields) : String := (Json.toStr? (some (get hazard "hypothesis_id"))).getD ""

def attemptKey (id : String) (item : Json) : AttemptKey := .of (completedOrBool item) id (scanIdText item)

def applicableIds (given : List Fields) : List String :=
  given.flatMap fun hazard => (applicableScanIds hazard).filterMap fun id => Json.toStr? (some id)

/-- The attempts of the hazards in full detail that no hazard protects. -/
def unprotectedKeys (focus : Focus) (given : List Fields) : List AttemptKey :=
  (given.filter fun hazard => focus.raw (hazardId hazard)).flatMap fun hazard =>
    ((historyOf hazard).filter fun item => !isProtected (applicableIds given) item).map (attemptKey (hazardId hazard))

def Oldest (omitted keys : List AttemptKey) : Prop :=
  (∀ key ∈ omitted, key ∈ keys) ∧ ∀ old ∈ omitted, ∀ key ∈ keys, key ∉ omitted → old < key

/-- The attempt is shown in full or in its compact form. -/
def ShownAs (item shown : Json) : Prop :=
  shown = item ∨ ∃ detail, compactRouteScanDetail (attemptFields item) = .ok detail ∧ shown = .obj detail

/-- Every field but the scans and their summary is the same. -/
def SameFacts (before after : Fields) : Prop :=
  ∀ name, name ≠ scanHistoryField → name ≠ scanSummaryField → after.lookup name = before.lookup name

theorem oldest_of_prefix {omitted keys : List AttemptKey} (h : omitted <+: sortedKeys keys) : Oldest omitted keys := by
  obtain ⟨rest, hrest⟩ := h
  have hsorted : (omitted ++ rest).Pairwise (· ≤ ·) := hrest ▸ List.pairwise_insertionSort (· ≤ ·) keys
  have hmem : ∀ key, key ∈ omitted ++ rest ↔ key ∈ keys := fun key =>
    hrest ▸ (List.perm_insertionSort (· ≤ ·) keys).mem_iff
  refine ⟨fun key hkey => (hmem key).mp (List.mem_append_left _ hkey), fun old hold key hkey hnot => ?_⟩
  have hin : key ∈ rest := by
    cases List.mem_append.mp ((hmem key).mpr hkey) with
    | inl h => exact absurd h hnot
    | inr h => exact h
  have hle := (List.pairwise_append.mp hsorted).2.2 old hold key hin
  exact lt_of_le_of_ne hle fun heq => hnot (heq ▸ hold)

@[simp] theorem attemptKey_hazardId (id : String) (item : Json) : (attemptKey id item).hazardId = id := rfl
@[simp] theorem attemptKey_scanId (id : String) (item : Json) : (attemptKey id item).scanId = scanIdText item := rfl

def Identified (item : Json) : Prop := ∃ id, scanId item = .str id

theorem Identified.scanId (h : Identified item) : scanId item = .str (scanIdText item) := by
  obtain ⟨id, hid⟩ := h
  rw [scanIdText, hid]
  rfl

theorem hasScanId_iff (h : Identified item) (id : String) : hasScanId item id = true ↔ scanIdText item = id := by
  rw [hasScanId, h.scanId]
  exact decide_eq_true_iff

theorem Identified.of_eq {item other : Json} (h : Identified item) (heq : PlannerContext.scanId other = PlannerContext.scanId item) :
    Identified other := by
  obtain ⟨id, hid⟩ := h
  exact ⟨id, heq.trans hid⟩

theorem scanIdText_eq {item other : Json} (h : scanId item = scanId other) : scanIdText item = scanIdText other := by
  rw [scanIdText, scanIdText, h]

theorem isProtected_iff (h : Identified item) (ids : List String) : isProtected ids item = true ↔ scanIdText item ∈ ids := by
  rw [isProtected, h.scanId]
  simp

-- What a summary has checked

theorem objectOf_ok {message : String} {item : Json} {fields : Fields} (h : objectOf message item = .ok fields) : item = .obj fields := by
  cases item with
  | obj => cases h; rfl
  | _ => cases h

theorem scanIdOf_ok {fields : Fields} {id : String} (h : scanIdOf fields = .ok id) : get fields "scan_id" = .str id := by
  rw [scanIdOf] at h
  split at h
  next text htext =>
    split at h
    · cases h
    · cases h
      exact htext
  · cases h

theorem scanSummary_identified {history : List Json} {n : Nat} {summary : Fields} (h : scanSummary history n = .ok summary) :
    ∀ item ∈ history, Identified item := by
  obtain ⟨items, hitems, h⟩ := bind_ok_iff.mp h
  split at h
  · cases h
  obtain ⟨lists, hlists, h⟩ := bind_ok_iff.mp h
  obtain ⟨rays, hrays, h⟩ := bind_ok_iff.mp h
  obtain ⟨ids, hids, -⟩ := bind_ok_iff.mp h
  intro item hitem
  obtain ⟨fields, hfields, hobj⟩ := forall₂_left (mapM_ok_forall₂ hitems) hitem
  obtain ⟨id, -, hid⟩ := forall₂_left (mapM_ok_forall₂ hids) hfields
  refine ⟨id, ?_⟩
  rw [scanId, objectOf_ok hobj]
  exact scanIdOf_ok hid

theorem compactScanSummary_identified {host : Host} {history : List Json} {evicted reason : Json} {summary : Fields}
    (h : compactScanSummary host history evicted reason = .ok summary) : ∀ item ∈ history, Identified item := by
  obtain ⟨_, hfull, -⟩ := bind_ok_iff.mp h
  exact scanSummary_identified hfull

theorem summaryOf_identified {host : Host} {focus : Focus} {hazard : Hazard} {summary : Fields}
    (h : summaryOf host focus hazard = .ok summary) : ∀ item ∈ hazard.history, Identified item := by
  obtain ⟨-, -, h⟩ := bind_ok_iff.mp h
  split at h
  · obtain ⟨_, hfull, -⟩ := bind_ok_iff.mp h
    exact scanSummary_identified hfull
  · obtain ⟨_, hcompact, -⟩ := bind_ok_iff.mp h
    exact compactScanSummary_identified hcompact

-- Hazards on their way through the projection

/-- The hazard is the given one, and what it shows is as `Shown` says. -/
def Tracks (Shown : String × Fields → List Json → Prop) (given : String × Fields) (hazard : Hazard) : Prop :=
  hazard.id = given.1 ∧ hazard.given = given.2 ∧ hazard.history = historyOf given.2 ∧ Shown given hazard.shown

section Refresh

variable {host : Host} {focus : Focus} {target hard : Int} {given : List (String × Fields)} {p q : Projected}
  {Shown : String × Fields → List Json → Prop}

def Described (host : Host) (focus : Focus) (target hard : Int) (p : Projected) : Prop :=
  p.metadata = metadataOf host focus target hard p.hazards

theorem refresh_summaries (h : refreshProjectionMetadata host focus target hard p = .ok q) :
    List.Forall₂ (fun before after => ∃ summary, summaryOf host focus before = .ok summary ∧ after = { before with summary })
      p.hazards q.hazards := by
  obtain ⟨hazards, hhazards, h⟩ := bind_ok_iff.mp h
  cases h
  refine (mapM_ok_forall₂ hhazards).imp fun before after h => ?_
  obtain ⟨summary, hsummary, h⟩ := bind_ok_iff.mp h
  cases h
  exact ⟨summary, hsummary, rfl⟩

theorem refresh_described (h : refreshProjectionMetadata host focus target hard p = .ok q) : Described host focus target hard q := by
  obtain ⟨hazards, -, h⟩ := bind_ok_iff.mp h
  cases h
  rfl

theorem refresh_tracks (h : refreshProjectionMetadata host focus target hard p = .ok q)
    (hp : List.Forall₂ (Tracks Shown) given p.hazards) : List.Forall₂ (Tracks Shown) given q.hazards := by
  refine forall₂_trans (fun g before after hg hafter => ?_) hp (refresh_summaries h)
  obtain ⟨summary, -, rfl⟩ := hafter
  exact hg

theorem refresh_identified (h : refreshProjectionMetadata host focus target hard p = .ok q)
    (hp : List.Forall₂ (Tracks Shown) given p.hazards) : ∀ g ∈ given, ∀ item ∈ historyOf g.2, Identified item := by
  intro g hg item hitem
  obtain ⟨hazard, hhazard, -, -, hhistory, -⟩ := forall₂_left hp hg
  obtain ⟨_, -, summary, hsummary, -⟩ := forall₂_left (refresh_summaries h) hhazard
  exact summaryOf_identified hsummary item (hhistory ▸ hitem)

end Refresh

-- What is shown at first

section Initial

variable {host : Host} {focus : Focus} {given : List (String × Fields)} {g : String × Fields} {shown : List Json}

def Initial (host : Host) (focus : Focus) (g : String × Fields) (shown : List Json) : Prop :=
  initialDetail host focus g.1 g.2 (historyOf g.2) = .ok shown

theorem listOf_historyOf {message : String} {history : List Json} {hazard : Fields}
    (h : listOf message (hazard.lookup scanHistoryField) = .ok history) : history = historyOf hazard := by
  rw [historyOf, get]
  generalize hazard.lookup scanHistoryField = value at h
  rcases value with - | (_ | _ | _ | _ | _ | items | _) <;> cases h <;> rfl

theorem initial_tracks {hazards : List Hazard} (h : given.mapM (initialHazard host focus) = .ok hazards) :
    List.Forall₂ (Tracks (Initial host focus)) given hazards := by
  refine (mapM_ok_forall₂ h).imp fun g hazard h => ?_
  obtain ⟨history, hhistory, h⟩ := bind_ok_iff.mp h
  obtain ⟨shown, hshown, h⟩ := bind_ok_iff.mp h
  cases h
  have hof := listOf_historyOf hhistory
  subst hof
  exact ⟨rfl, rfl, rfl, hshown⟩

theorem attempt_ok {item : Json} {fields : Fields} (h : attempt item = .ok fields) : item = .obj fields := by
  cases item with
  | obj => cases h; rfl
  | _ => cases h

theorem hashable_ok {value other : Json} (h : hashable value = .ok other) : value = other := by
  cases value <;> cases h <;> rfl

theorem mapM_hashable {values others : List Json} (h : values.mapM hashable = .ok others) : values = others := by
  have heq := forall₂_map_eq (f := id) (g := id) (fun _ _ => hashable_ok) (mapM_ok_forall₂ h)
  simpa using heq

theorem compact_scanId {fields detail : Fields} (h : compactRouteScanDetail fields = .ok detail) :
    scanId (.obj detail) = get fields "scan_id" := by
  obtain ⟨values, -, h⟩ := bind_ok_iff.mp h
  obtain ⟨rays, -, h⟩ := bind_ok_iff.mp h
  cases h
  rfl

theorem compact_isCompact {fields detail : Fields} (h : compactRouteScanDetail fields = .ok detail) : isCompact (.obj detail) = true := by
  obtain ⟨values, -, h⟩ := bind_ok_iff.mp h
  obtain ⟨rays, -, h⟩ := bind_ok_iff.mp h
  cases h
  rfl

def CompactOf (item detail : Json) : Prop := ∃ fields, compactRouteScanDetail (attemptFields item) = .ok fields ∧ detail = .obj fields

theorem CompactOf.scanId {item detail : Json} (h : CompactOf item detail) : PlannerContext.scanId detail = PlannerContext.scanId item := by
  obtain ⟨fields, hfields, rfl⟩ := h
  exact compact_scanId hfields

theorem compactApplicable_cons {applicable items details : List Json} {item : Json}
    (h : compactApplicable host applicable (item :: items) = .ok details) :
    (applicable.any (same host (scanId item)) = false ∧ compactApplicable host applicable items = .ok details) ∨
      (applicable.any (same host (scanId item)) = true ∧ ∃ detail rest, CompactOf item detail ∧
        compactApplicable host applicable items = .ok rest ∧ details = detail :: rest) := by
  rw [compactApplicable] at h
  obtain ⟨fields, hfields, h⟩ := bind_ok_iff.mp h
  obtain ⟨id, hid, h⟩ := bind_ok_iff.mp h
  obtain rfl := attempt_ok hfields
  obtain rfl := hashable_ok hid
  split at h
  next hany =>
    obtain ⟨detail, hdetail, h⟩ := bind_ok_iff.mp h
    obtain ⟨rest, hrest, h⟩ := bind_ok_iff.mp h
    cases h
    exact .inr ⟨hany, .obj detail, rest, ⟨detail, hdetail, rfl⟩, hrest, rfl⟩
  next hany => exact .inl ⟨eq_false_of_ne_true hany, h⟩

theorem compactApplicable_sublist {applicable items details : List Json} (h : compactApplicable host applicable items = .ok details) :
    (details.map scanId).Sublist (items.map scanId) := by
  induction items generalizing details with
  | nil =>
    cases h
    exact .slnil
  | cons item items ih =>
    obtain ⟨-, h⟩ | ⟨-, detail, rest, hdetail, hrest, rfl⟩ := compactApplicable_cons h
    · exact (ih h).cons _
    · rw [List.map_cons, List.map_cons, hdetail.scanId]
      exact (ih hrest).cons_cons _

theorem compactApplicable_mem {applicable items details : List Json} (h : compactApplicable host applicable items = .ok details) :
    ∀ detail ∈ details, applicable.any (same host (scanId detail)) = true ∧ isCompact detail = true := by
  induction items generalizing details with
  | nil =>
    cases h
    simp
  | cons item items ih =>
    obtain ⟨-, h⟩ | ⟨hany, detail, rest, hdetail, hrest, rfl⟩ := compactApplicable_cons h
    · exact ih h
    · refine List.forall_mem_cons.mpr ⟨⟨hdetail.scanId ▸ hany, ?_⟩, ih hrest⟩
      obtain ⟨fields, hfields, rfl⟩ := hdetail
      exact compact_isCompact hfields

theorem compactApplicable_exists {applicable items details : List Json} (h : compactApplicable host applicable items = .ok details) :
    ∀ item ∈ items, applicable.any (same host (scanId item)) = true → ∃ detail ∈ details, CompactOf item detail := by
  induction items generalizing details with
  | nil => simp
  | cons first items ih =>
    intro item hitem happ
    obtain ⟨hany, h⟩ | ⟨-, detail, rest, hdetail, hrest, rfl⟩ := compactApplicable_cons h
    · obtain rfl | hitem := List.mem_cons.mp hitem
      · rw [hany] at happ
        cases happ
      · exact ih h item hitem happ
    · obtain rfl | hitem := List.mem_cons.mp hitem
      · exact ⟨detail, List.mem_cons_self, hdetail⟩
      · obtain ⟨found, hfound, hcompact⟩ := ih hrest item hitem happ
        exact ⟨found, List.mem_cons_of_mem _ hfound, hcompact⟩

theorem any_same_iff {applicable : List Json} {id : String} : applicable.any (same host (.str id)) = true ↔ .str id ∈ applicable := by
  rw [List.any_eq_true]
  constructor
  · rintro ⟨value, hvalue, hsame⟩
    cases value with
    | str text =>
      have heq : id = text := by simpa [same] using hsame
      exact heq ▸ hvalue
    | _ => simp [same] at hsame
  · intro h
    exact ⟨_, h, by simp [same]⟩

theorem Initial.cases (h : Initial host focus g shown) :
    (focus.raw g.1 = true ∧ shown = historyOf g.2) ∨
      (focus.raw g.1 = false ∧ focus.detailed g.1 = true ∧
        compactApplicable host (applicableScanIds g.2) (historyOf g.2) = .ok shown) ∨
      (focus.raw g.1 = false ∧ focus.detailed g.1 = false ∧ shown = []) := by
  rw [Initial, initialDetail] at h
  split at h
  next hraw =>
    cases h
    exact .inl ⟨hraw, rfl⟩
  next hraw =>
    split at h
    next hdetailed =>
      obtain ⟨applicable, happ, h⟩ := bind_ok_iff.mp h
      obtain rfl := mapM_hashable happ
      exact .inr (.inl ⟨by simpa using hraw, hdetailed, h⟩)
    next hdetailed =>
      cases h
      exact .inr (.inr ⟨by simpa using hraw, by simpa using hdetailed, rfl⟩)

theorem Initial.sublist (h : Initial host focus g shown) : (shown.map scanId).Sublist ((historyOf g.2).map scanId) := by
  obtain ⟨-, rfl⟩ | ⟨-, -, h⟩ | ⟨-, -, rfl⟩ := h.cases
  · exact List.Sublist.refl _
  · exact compactApplicable_sublist h
  · exact List.nil_sublist _

theorem Initial.identified (h : Initial host focus g shown) (hg : ∀ item ∈ historyOf g.2, Identified item) :
    ∀ item ∈ shown, Identified item := by
  intro item hitem
  obtain ⟨other, hother, heq⟩ := List.mem_map.mp (h.sublist.subset (List.mem_map_of_mem hitem))
  exact (hg other hother).of_eq heq.symm

theorem Initial.applicable (h : Initial host focus g shown) (hfocus : focus.detailed g.1 = true) {item : Json}
    (hitem : item ∈ historyOf g.2) (hid : Identified item) (happ : scanId item ∈ applicableScanIds g.2) :
    ∃ detail ∈ shown, (focus.raw g.1 = true ∧ detail = item) ∨ (focus.raw g.1 = false ∧ CompactOf item detail) := by
  obtain ⟨hraw, rfl⟩ | ⟨hraw, -, h⟩ | ⟨-, hno, -⟩ := h.cases
  · exact ⟨item, hitem, .inl ⟨hraw, rfl⟩⟩
  · have hany : (applicableScanIds g.2).any (same host (scanId item)) = true := by
      rw [hid.scanId] at happ ⊢
      exact any_same_iff.mpr happ
    obtain ⟨detail, hdetail, hcompact⟩ := compactApplicable_exists h item hitem hany
    exact ⟨detail, hdetail, .inr ⟨hraw, hcompact⟩⟩
  · rw [hno] at hfocus
    cases hfocus

theorem Initial.compact (h : Initial host focus g shown) (hraw : focus.raw g.1 = false) {item : Json} (hitem : item ∈ shown)
    (hid : Identified item) : scanId item ∈ applicableScanIds g.2 ∧ isCompact item = true := by
  obtain ⟨hyes, -⟩ | ⟨-, -, h⟩ | ⟨-, -, rfl⟩ := h.cases
  · rw [hyes] at hraw
    cases hraw
  · obtain ⟨hany, hcompact⟩ := compactApplicable_mem h item hitem
    rw [hid.scanId] at hany ⊢
    exact ⟨any_same_iff.mp hany, hcompact⟩
  · cases hitem

end Initial

-- The loop that leaves attempts out

/-- One of the keys is the attempt's, by hazard and id. -/
def named (keys : List AttemptKey) (id : String) (item : Json) : Bool :=
  keys.any fun key => key.hazardId = id && key.scanId = scanIdText item

theorem named_iff {keys : List AttemptKey} {id : String} {item : Json} :
    named keys id item = true ↔ ∃ key ∈ keys, key.hazardId = id ∧ key.scanId = scanIdText item := by
  simp [named]

theorem named_append (first second : List AttemptKey) (id : String) (item : Json) :
    named (first ++ second) id item = (named first id item || named second id item) := by
  simp [named, List.any_append]

theorem named_singleton (key : AttemptKey) (id : String) (item : Json) :
    named [key] id item = (decide (key.hazardId = id) && decide (key.scanId = scanIdText item)) := by
  simp [named]

theorem named_congr {keys : List AttemptKey} {id : String} {item other : Json} (h : scanId item = scanId other) :
    named keys id item = named keys id other := by
  rw [named, named, scanIdText_eq h]

section Loops

variable {host : Host} {focus : Focus} {target hard : Int} {given : List (String × Fields)} {p q : Projected}
  {g : String × Fields} {shown : List Json}

/-- What the hazard started with, less what was dropped. -/
def Kept (host : Host) (focus : Focus) (dropped : List AttemptKey) (g : String × Fields) (shown : List Json) : Prop :=
  ∃ first, Initial host focus g first ∧ shown = first.filter fun item => !named dropped g.1 item

theorem Kept.identified {dropped : List AttemptKey} (h : Kept host focus dropped g shown)
    (hg : ∀ item ∈ historyOf g.2, Identified item) : ∀ item ∈ shown, Identified item := by
  obtain ⟨first, hfirst, rfl⟩ := h
  exact fun item hitem => hfirst.identified hg item (List.mem_of_mem_filter hitem)

theorem Kept.sublist {dropped : List AttemptKey} (h : Kept host focus dropped g shown) :
    (shown.map scanId).Sublist ((historyOf g.2).map scanId) := by
  obtain ⟨first, hfirst, rfl⟩ := h
  exact (List.filter_sublist.map scanId).trans hfirst.sublist

theorem dropScan_tracks {dropped : List AttemptKey} {key : AttemptKey} {hazard : Hazard}
    (hg : ∀ item ∈ historyOf g.2, Identified item) (h : Tracks (Kept host focus dropped) g hazard) :
    Tracks (Kept host focus (dropped ++ [key])) g (dropScan key hazard) := by
  obtain ⟨hid, hgiven, hhistory, first, hfirst, hshown⟩ := h
  have hnamed : ∀ item ∈ first, (!named (dropped ++ [key]) g.1 item) =
      (!named dropped g.1 item && !(decide (key.hazardId = g.1) && hasScanId item key.scanId)) := by
    intro item hitem
    have hscan : hasScanId item key.scanId = decide (key.scanId = scanIdText item) := by
      rw [Bool.eq_iff_iff, hasScanId_iff (hfirst.identified hg item hitem), decide_eq_true_iff, eq_comm]
    rw [named_append, named_singleton, hscan, Bool.not_or]
  have hall : (first.filter fun item => !named (dropped ++ [key]) g.1 item) =
      hazard.shown.filter fun item => !(decide (key.hazardId = g.1) && hasScanId item key.scanId) := by
    rw [List.filter_congr hnamed, hshown, List.filter_filter]
    exact List.filter_congr fun item _ => Bool.and_comm _ _
  rw [dropScan]
  split
  next hkey =>
    have hdec : decide (key.hazardId = g.1) = true := decide_eq_true (hkey ▸ hid)
    refine ⟨hid, hgiven, hhistory, first, hfirst, ?_⟩
    rw [hall, hdec]
    simp
  next hkey =>
    have hdec : decide (key.hazardId = g.1) = false := decide_eq_false fun heq => hkey (hid.trans heq.symm)
    refine ⟨hid, hgiven, hhistory, first, hfirst, ?_⟩
    rw [hall, hdec]
    simp

theorem dropRemovable_tracks {keys dropped : List AttemptKey} (h : dropRemovable host focus target hard keys p = .ok q)
    (hg : ∀ g ∈ given, ∀ item ∈ historyOf g.2, Identified item)
    (hp : List.Forall₂ (Tracks (Kept host focus dropped)) given p.hazards) (hd : Described host focus target hard p) :
    ∃ more, more <+: keys ∧ List.Forall₂ (Tracks (Kept host focus (dropped ++ more))) given q.hazards ∧
      Described host focus target hard q := by
  induction keys generalizing p dropped with
  | nil =>
    cases h
    exact ⟨[], List.nil_prefix, by simpa using hp, hd⟩
  | cons key keys ih =>
    rw [dropRemovable] at h
    split at h
    · obtain ⟨next, hnext, h⟩ := bind_ok_iff.mp h
      have hstep : List.Forall₂ (Tracks (Kept host focus (dropped ++ [key]))) given (p.hazards.map (dropScan key)) := by
        rw [List.forall₂_map_right_iff]
        exact List.forall₂_iff_zip.mpr ⟨hp.length_eq, fun {g hazard} hmem =>
          dropScan_tracks (hg g (List.of_mem_zip hmem).1) (List.forall₂_zip hp hmem)⟩
      obtain ⟨more, hmore, hq, hdq⟩ := ih h (refresh_tracks hnext hstep) (refresh_described hnext)
      exact ⟨key :: more, List.cons_prefix_cons.mpr ⟨rfl, hmore⟩, by simpa using hq, hdq⟩
    · cases h
      exact ⟨[], List.nil_prefix, by simpa using hp, hd⟩

-- The loop that makes attempts compact

def Compacted (done : List AttemptKey) (id : String) (item shown : Json) : Prop :=
  (named done id item = true ∧ CompactOf item shown) ∨ (named done id item = false ∧ shown = item)

theorem Compacted.scanId {done : List AttemptKey} {id : String} {item shown : Json} (h : Compacted done id item shown) :
    PlannerContext.scanId shown = PlannerContext.scanId item := by
  obtain ⟨-, h⟩ | ⟨-, rfl⟩ := h
  · exact h.scanId
  · rfl

def Settled (host : Host) (focus : Focus) (dropped done : List AttemptKey) (g : String × Fields) (shown : List Json) : Prop :=
  ∃ kept, Kept host focus dropped g kept ∧ List.Forall₂ (Compacted done g.1) kept shown

theorem Kept.settled {dropped : List AttemptKey} (h : Kept host focus dropped g shown) : Settled host focus dropped [] g shown :=
  ⟨shown, h, List.forall₂_same.mpr fun _ _ => .inr ⟨rfl, rfl⟩⟩

theorem Compacted.step {done : List AttemptKey} {key : AttemptKey} {item shown after : Json} (hid : Identified item)
    (hnew : ∀ k ∈ done, k.hazardId = key.hazardId → k.scanId ≠ key.scanId) (h : Compacted done key.hazardId item shown)
    (hstep : (if hasScanId shown key.scanId then do
        let detail ← compactRouteScanDetail (attemptFields shown)
        Except.ok (Json.obj detail)
      else Except.ok shown) = .ok after) : Compacted (done ++ [key]) key.hazardId item after := by
  have hscan : hasScanId shown key.scanId = true ↔ scanIdText item = key.scanId := by
    rw [hasScanId_iff (hid.of_eq h.scanId), scanIdText_eq h.scanId]
  rw [Compacted, named_append, named_singleton]
  split at hstep
  next hhas =>
    have hkey := hscan.mp hhas
    have hfresh : named done key.hazardId item = false := by
      rw [Bool.eq_false_iff, Ne, named_iff]
      rintro ⟨k, hk, hhazard, hk'⟩
      exact hnew k hk hhazard (hk'.trans hkey)
    obtain ⟨hyes, -⟩ | ⟨-, rfl⟩ := h
    · rw [hfresh] at hyes
      cases hyes
    · obtain ⟨detail, hdetail, hstep⟩ := bind_ok_iff.mp hstep
      cases hstep
      exact .inl ⟨by simp [hkey], detail, hdetail, rfl⟩
  next hhas =>
    cases hstep
    have hkey : decide (key.scanId = scanIdText item) = false := decide_eq_false fun heq => hhas (hscan.mpr heq.symm)
    simpa [hkey, Compacted] using h

theorem compactScan_tracks {dropped done : List AttemptKey} {key : AttemptKey} {hazard after : Hazard}
    (hg : ∀ item ∈ historyOf g.2, Identified item) (hnew : ∀ k ∈ done, k.hazardId = key.hazardId → k.scanId ≠ key.scanId)
    (h : Tracks (Settled host focus dropped done) g hazard) (hstep : compactScan key hazard = .ok after) :
    Tracks (Settled host focus dropped (done ++ [key])) g after := by
  obtain ⟨hid, hgiven, hhistory, kept, hkept, hshown⟩ := h
  rw [compactScan] at hstep
  split at hstep
  next hkey =>
    obtain ⟨shown, hmap, hstep⟩ := bind_ok_iff.mp hstep
    cases hstep
    have hg1 : g.1 = key.hazardId := hid.symm.trans hkey
    have hstart := (List.forall₂_and_left kept hazard.shown).mpr ⟨hkept.identified hg, hshown⟩
    refine ⟨hid, hgiven, hhistory, kept, hkept, forall₂_trans (fun item shown after hbefore hafter => ?_) hstart (mapM_ok_forall₂ hmap)⟩
    rw [hg1] at hbefore ⊢
    exact hbefore.2.step hbefore.1 hnew hafter
  next hkey =>
    cases hstep
    have hno : decide (key.hazardId = g.1) = false := decide_eq_false fun heq => hkey (hid.trans heq.symm)
    refine ⟨hid, hgiven, hhistory, kept, hkept, hshown.imp fun item shown h => ?_⟩
    rw [Compacted, named_append, named_singleton, hno]
    simpa [Compacted] using h

def AttemptKey.name (key : AttemptKey) : String × String := (key.hazardId, key.scanId)

theorem compactRemaining_tracks {keys dropped done : List AttemptKey} (h : compactRemaining host focus target hard keys p = .ok q)
    (hg : ∀ g ∈ given, ∀ item ∈ historyOf g.2, Identified item) (hnames : ((done ++ keys).map AttemptKey.name).Nodup)
    (hp : List.Forall₂ (Tracks (Settled host focus dropped done)) given p.hazards) (hd : Described host focus target hard p) :
    ∃ more, more <+: keys ∧ List.Forall₂ (Tracks (Settled host focus dropped (done ++ more))) given q.hazards ∧
      Described host focus target hard q := by
  induction keys generalizing p done with
  | nil =>
    cases h
    exact ⟨[], List.nil_prefix, by simpa using hp, hd⟩
  | cons key keys ih =>
    rw [compactRemaining] at h
    split at h
    · obtain ⟨hazards, hhazards, h⟩ := bind_ok_iff.mp h
      obtain ⟨next, hnext, h⟩ := bind_ok_iff.mp h
      have hnew : ∀ k ∈ done, k.hazardId = key.hazardId → k.scanId ≠ key.scanId := by
        intro k hk hhazard hscan
        rw [List.map_append, List.nodup_append] at hnames
        exact hnames.2.2 k.name (List.mem_map_of_mem hk) key.name (by simp) (Prod.ext hhazard hscan)
      have hstart := (List.forall₂_and_left given p.hazards).mpr ⟨hg, hp⟩
      have hstep : List.Forall₂ (Tracks (Settled host focus dropped (done ++ [key]))) given hazards :=
        forall₂_trans (fun g before after hbefore (hafter : compactScan key before = .ok after) =>
          compactScan_tracks hbefore.1 hnew hbefore.2 hafter) hstart (mapM_ok_forall₂ hhazards)
      obtain ⟨more, hmore, hq, hdq⟩ := ih h (by simpa using hnames) (refresh_tracks hnext hstep) (refresh_described hnext)
      exact ⟨key :: more, List.cons_prefix_cons.mpr ⟨rfl, hmore⟩, by simpa using hq, hdq⟩
    · cases h
      exact ⟨[], List.nil_prefix, by simpa using hp, hd⟩

end Loops

-- Keys and the hazards they come from

theorem compactableOf_hazardId {ids : List String} {hazard : Hazard} {key : AttemptKey} (h : key ∈ compactableOf ids hazard) :
    key.hazardId = hazard.id := by
  obtain ⟨item, -, rfl⟩ := List.mem_map.mp h
  rfl

theorem mem_of_hazardId {keysOf : Hazard → List AttemptKey} (hkeys : ∀ hazard, ∀ key ∈ keysOf hazard, key.hazardId = hazard.id)
    {hazards : List Hazard} (hids : (hazards.map Hazard.id).Nodup) {hazard : Hazard} (hhazard : hazard ∈ hazards) {key : AttemptKey}
    (hkey : key ∈ hazards.flatMap keysOf) (heq : key.hazardId = hazard.id) : key ∈ keysOf hazard := by
  obtain ⟨other, hother, hin⟩ := List.mem_flatMap.mp hkey
  have hid : other.id = hazard.id := (hkeys other key hin).symm.trans heq
  exact List.inj_on_of_nodup_map hids hother hhazard hid ▸ hin

theorem scanIdTexts_nodup {items : List Json} (hid : ∀ item ∈ items, Identified item) (h : (items.map scanId).Nodup) :
    (items.map scanIdText).Nodup := by
  have heq : items.map scanId = (items.map scanIdText).map Json.str := by
    rw [List.map_map]
    exact List.map_congr_left fun item hitem => (hid item hitem).scanId
  exact (heq ▸ h).of_map

theorem compactable_names_nodup {ids : List String} {hazards : List Hazard} (hids : (hazards.map Hazard.id).Nodup)
    (htexts : ∀ hazard ∈ hazards, (hazard.shown.map scanIdText).Nodup) :
    ((sortedKeys (hazards.flatMap (compactableOf ids))).map AttemptKey.name).Nodup := by
  have hperm := (List.perm_insertionSort (· ≤ ·) (hazards.flatMap (compactableOf ids))).map AttemptKey.name
  rw [sortedKeys, hperm.nodup_iff, List.map_flatMap, List.nodup_flatMap]
  constructor
  · intro hazard hhazard
    have hnames : (compactableOf ids hazard).map AttemptKey.name =
        ((hazard.shown.filter fun item => isProtected ids item && !isCompact item).map scanIdText).map (Prod.mk hazard.id) := by
      rw [compactableOf, List.map_map, List.map_map]
      rfl
    rw [hnames]
    exact ((htexts hazard hhazard).sublist (List.filter_sublist.map scanIdText)).map (Prod.mk_right_injective hazard.id)
  · refine (List.pairwise_map.mp hids).imp fun {first second} hne => ?_
    intro name hfirst hsecond
    obtain ⟨key, hkey, rfl⟩ := List.mem_map.mp hfirst
    obtain ⟨other, hother, heq⟩ := List.mem_map.mp hsecond
    have hid : other.hazardId = key.hazardId := congrArg Prod.fst heq
    exact hne ((compactableOf_hazardId hkey).symm.trans (hid.symm.trans (compactableOf_hazardId hother)))

-- The last two stages

section Finish

variable {host : Host} {focus : Focus} {target hard : Int} {given : List (String × Fields)} {navigation : Fields} {p q : Projected}
  {Shown : String × Fields → List Json → Prop} {out : Fields}

/-- The metadata describes the hazards, but for a note about the experience. -/
def Noted (host : Host) (focus : Focus) (target hard : Int) (p : Projected) : Prop :=
  ∀ name, name ≠ reductionBlockedField → p.metadata.lookup name = (metadataOf host focus target hard p.hazards).lookup name

theorem Described.noted (h : Described host focus target hard p) : Noted host focus target hard p := by
  intro name _
  rw [h]

theorem Described.note (h : Described host focus target hard p) (blocked : Json) :
    Noted host focus target hard { p with metadata := setField reductionBlockedField blocked p.metadata } := by
  intro name hname
  rw [lookup_setField, if_neg hname, h]

theorem reduceExperience_tracks (h : reduceExperience host focus target hard navigation p = .ok q)
    (hp : List.Forall₂ (Tracks Shown) given p.hazards) (hd : Described host focus target hard p) :
    List.Forall₂ (Tracks Shown) given q.hazards ∧ Noted host focus target hard q := by
  rw [reduceExperience] at h
  split at h
  · cases h
    exact ⟨hp, hd.noted⟩
  split at h
  · dsimp only at h
    split at h
    · cases h
      exact ⟨hp, hd.note _⟩
    · cases h
    · obtain ⟨next, hnext, h⟩ := bind_ok_iff.mp h
      cases h
      have htracks : List.Forall₂ (Tracks Shown) given next.hazards := refresh_tracks hnext hp
      exact ⟨htracks, (refresh_described hnext).note _⟩
  · cases h
    exact ⟨hp, hd.noted⟩

theorem finish_ok (h : finish target hard p = .ok out) : byteLength (.obj out) ≤ hard ∧
    ∃ metadata, out = { p with metadata }.toFields ∧
      ((target < p.size ∧ metadata = setField exceededField (.bool true) p.metadata) ∨ (¬ target < p.size ∧ metadata = p.metadata)) := by
  unfold finish at h
  by_cases hlarge : target < p.size
  · simp only [hlarge, if_true] at h
    split at h
    · cases h
    next hsize =>
      cases h
      exact ⟨not_lt.mp hsize, _, rfl, .inl ⟨hlarge, rfl⟩⟩
  · simp only [hlarge, if_false] at h
    split at h
    · cases h
    next hsize =>
      cases h
      exact ⟨not_lt.mp hsize, _, rfl, .inr ⟨hlarge, rfl⟩⟩

end Finish

-- A whole projection

theorem identified_ok {value : Json} {hazard : String × Fields} (h : identified value = some hazard) :
    value = .obj hazard.2 ∧ hazard.1 = hazardId hazard.2 := by
  cases value with
  | obj fields =>
    rw [identified] at h
    split at h
    next id hid =>
      split at h
      · cases h
      · cases h
        exact ⟨rfl, by rw [hazardId, hid]; rfl⟩
    · cases h
  | _ => cases h

theorem mapM_identified {values : List Json} {given : List (String × Fields)} (h : values.mapM identified = some given) :
    values = (given.map Prod.snd).map Json.obj ∧ ∀ g ∈ given, g.1 = hazardId g.2 := by
  induction values generalizing given with
  | nil =>
    cases h
    simp
  | cons value values ih =>
    simp only [List.mapM_cons, Option.bind_eq_bind, Option.bind_eq_some_iff] at h
    obtain ⟨hazard, hhazard, rest, hrest, h⟩ := h
    cases h
    obtain ⟨hvalues, hids⟩ := ih hrest
    obtain ⟨hvalue, hid⟩ := identified_ok hhazard
    exact ⟨by rw [hvalue, hvalues]; rfl, List.forall_mem_cons.mpr ⟨hid, hids⟩⟩

theorem hazardsOf_ok {navigation : Fields} {given : List (String × Fields)} (h : hazardsOf navigation = .ok given) :
    get navigation hazardsField = .arr ((given.map Prod.snd).map Json.obj) ∧ (∀ g ∈ given, g.1 = hazardId g.2) ∧
      (given.map Prod.fst).Nodup := by
  rw [hazardsOf] at h
  split at h
  next values hvalues =>
    split at h
    next hazards hhazards =>
      split at h
      next hnodup =>
        cases h
        obtain ⟨heq, hids⟩ := mapM_identified hhazards
        exact ⟨hvalues.trans (congrArg Json.arr heq), hids, hnodup⟩
      · cases h
    · cases h
  · cases h

/-- What the stages before the last have established. -/
structure Shrunk (host : Host) (focus : Focus) (target hard : Int) (given : List (String × Fields)) (dropped done : List AttemptKey)
    (last : Projected) : Prop where
  identified : ∀ g ∈ given, ∀ item ∈ historyOf g.2, Identified item
  drops : ∃ first : List Hazard, List.Forall₂ (Tracks (Initial host focus)) given first ∧
    dropped <+: sortedKeys (first.flatMap (removableOf (protectedScanIds first)))
  compacts : ∃ (ids : List String) (kept : List Hazard), List.Forall₂ (Tracks (Kept host focus dropped)) given kept ∧
    done <+: sortedKeys (kept.flatMap (compactableOf ids))
  tracks : List.Forall₂ (Tracks (Settled host focus dropped done)) given last.hazards
  noted : Noted host focus target hard last

section Run

variable {host : Host} {focus : Focus} {target hard : Int} {navigation maneuverState : Fields} {lastToolResult : Json}
  {given : List (String × Fields)} {out : Fields}

theorem tracks_ids {Shown : String × Fields → List Json → Prop} {hazards : List Hazard} (h : List.Forall₂ (Tracks Shown) given hazards) :
    given.map Prod.fst = hazards.map Hazard.id := forall₂_map_eq (fun _ _ h => h.1.symm) h

theorem projectNavigationContext_run (h : projectNavigationContext host navigation maneuverState lastToolResult target hard = .ok out)
    (hscans : ∀ hazard ∈ objectsIn (get navigation hazardsField), ((historyOf hazard).map scanId).Nodup) :
    ∃ given dropped done last, hazardsOf navigation = .ok given ∧ (∀ g ∈ given, ((historyOf g.2).map scanId).Nodup) ∧
      Shrunk host (focusOf navigation maneuverState lastToolResult given) target hard given dropped done last ∧
      finish target hard last = .ok out := by
  rw [projectNavigationContext] at h
  split at h
  · cases h
  obtain ⟨given, hgiven, h⟩ := bind_ok_iff.mp h
  obtain ⟨base, -, h⟩ := bind_ok_iff.mp h
  obtain ⟨hazards, hhazards, h⟩ := bind_ok_iff.mp h
  obtain ⟨first, hfirst, h⟩ := bind_ok_iff.mp h
  obtain ⟨kept, hkept, h⟩ := bind_ok_iff.mp h
  obtain ⟨compacted, hcompacted, h⟩ := bind_ok_iff.mp h
  obtain ⟨last, hlast, h⟩ := bind_ok_iff.mp h
  obtain ⟨hvalues, -, hnodup⟩ := hazardsOf_ok hgiven
  have hunique : ∀ g ∈ given, ((historyOf g.2).map scanId).Nodup := by
    intro g hg
    refine hscans g.2 ?_
    rw [hvalues, objectsIn, List.mem_filterMap]
    exact ⟨.obj g.2, List.mem_map_of_mem (List.mem_map_of_mem hg), rfl⟩
  have hinit := initial_tracks hhazards
  have hidentified := refresh_identified hfirst hinit
  have htracks := refresh_tracks hfirst hinit
  have hstart : List.Forall₂ (Tracks (Kept host (focusOf navigation maneuverState lastToolResult given) [])) given first.hazards :=
    htracks.imp fun g hazard h => ⟨h.1, h.2.1, h.2.2.1, hazard.shown, h.2.2.2, by simp [named]⟩
  obtain ⟨dropped, hprefix, hk, hkd⟩ := dropRemovable_tracks hkept hidentified hstart (refresh_described hfirst)
  rw [List.nil_append] at hk
  have htexts : ∀ hazard ∈ kept.hazards, (hazard.shown.map scanIdText).Nodup := by
    intro hazard hhazard
    obtain ⟨g, hg, -, -, -, hshown⟩ := forall₂_right hk hhazard
    exact scanIdTexts_nodup (hshown.identified (hidentified g hg)) ((hunique g hg).sublist hshown.sublist)
  have hnames : ((sortedKeys (kept.hazards.flatMap (compactableOf (protectedScanIds first.hazards)))).map AttemptKey.name).Nodup :=
    compactable_names_nodup (tracks_ids hk ▸ hnodup) htexts
  have hnone : List.Forall₂ (Tracks (Settled host (focusOf navigation maneuverState lastToolResult given) dropped [])) given kept.hazards :=
    hk.imp fun g hazard h => ⟨h.1, h.2.1, h.2.2.1, h.2.2.2.settled⟩
  obtain ⟨done, hdone, hc, hcd⟩ := compactRemaining_tracks hcompacted hidentified hnames hnone hkd
  rw [List.nil_append] at hc
  obtain ⟨ht, hn⟩ := reduceExperience_tracks hlast hc hcd
  exact ⟨given, dropped, done, last, hgiven, hunique,
    ⟨hidentified, ⟨first.hazards, htracks, hprefix⟩, ⟨protectedScanIds first.hazards, kept.hazards, hk, hdone⟩, ht, hn⟩, h⟩

-- What was left out

variable {dropped done : List AttemptKey} {last : Projected}

theorem protectedScanIds_eq {Shown : String × Fields → List Json → Prop} {hazards : List Hazard}
    (h : List.Forall₂ (Tracks Shown) given hazards) : protectedScanIds hazards = applicableIds (given.map Prod.snd) := by
  rw [protectedScanIds, applicableIds, List.flatMap_map]
  induction h with
  | nil => rfl
  | cons hg _ ih => rw [List.flatMap_cons, List.flatMap_cons, ih, hg.2.1]

theorem protected_of_applicable {g : String × Fields} (hg : g ∈ given) {item : Json} (hid : Identified item)
    (happ : scanId item ∈ applicableScanIds g.2) : isProtected (applicableIds (given.map Prod.snd)) item = true := by
  rw [isProtected_iff hid, applicableIds, List.mem_flatMap]
  refine ⟨g.2, List.mem_map_of_mem hg, List.mem_filterMap.mpr ⟨_, happ, ?_⟩⟩
  rw [hid.scanId]
  rfl

theorem mem_removable_iff {first : List Hazard} (hids : ∀ g ∈ given, g.1 = hazardId g.2)
    (hg : ∀ g ∈ given, ∀ item ∈ historyOf g.2, Identified item) (h : List.Forall₂ (Tracks (Initial host focus)) given first)
    (key : AttemptKey) : key ∈ first.flatMap (removableOf (protectedScanIds first)) ↔ key ∈ unprotectedKeys focus (given.map Prod.snd) := by
  rw [protectedScanIds_eq h, List.mem_flatMap, unprotectedKeys, List.mem_flatMap]
  constructor
  · rintro ⟨hazard, hhazard, hkey⟩
    obtain ⟨g, hgiven, hid, -, -, hshown⟩ := forall₂_right h hhazard
    obtain ⟨item, hitem, rfl⟩ := List.mem_map.mp hkey
    obtain ⟨hitem, hfree⟩ := List.mem_filter.mp hitem
    have hraw : focus.raw g.1 = true := by
      by_contra hraw
      have hitemId := hshown.identified (hg g hgiven) item hitem
      have happ := (hshown.compact (eq_false_of_ne_true hraw) hitem hitemId).1
      rw [protected_of_applicable hgiven hitemId happ] at hfree
      cases hfree
    obtain ⟨-, hall⟩ | ⟨hno, -⟩ | ⟨hno, -⟩ := hshown.cases
    · refine ⟨g.2, List.mem_filter.mpr ⟨List.mem_map_of_mem hgiven, hids g hgiven ▸ hraw⟩, List.mem_map.mpr ⟨item, ?_, ?_⟩⟩
      · exact List.mem_filter.mpr ⟨hall ▸ hitem, hfree⟩
      · rw [attemptKey, hid, hids g hgiven]
    all_goals
      rw [hno] at hraw
      cases hraw
  · rintro ⟨hazard, hhazard, hkey⟩
    obtain ⟨hhazard, hraw⟩ := List.mem_filter.mp hhazard
    obtain ⟨g, hgiven, rfl⟩ := List.mem_map.mp hhazard
    obtain ⟨item, hitem, rfl⟩ := List.mem_map.mp hkey
    obtain ⟨hitem, hfree⟩ := List.mem_filter.mp hitem
    obtain ⟨hazard, hhazard, hid, -, -, hshown⟩ := forall₂_left h hgiven
    obtain ⟨-, hall⟩ | ⟨hno, -⟩ | ⟨hno, -⟩ := hshown.cases
    · refine ⟨hazard, hhazard, List.mem_map.mpr ⟨item, List.mem_filter.mpr ⟨hall ▸ hitem, hfree⟩, ?_⟩⟩
      rw [attemptKey, hid, hids g hgiven]
    all_goals
      rw [hids g hgiven, hraw] at hno
      cases hno

theorem Shrunk.oldest (h : Shrunk host focus target hard given dropped done last) (hids : ∀ g ∈ given, g.1 = hazardId g.2) :
    Oldest dropped (unprotectedKeys focus (given.map Prod.snd)) := by
  obtain ⟨first, hfirst, hprefix⟩ := h.drops
  have hmem := mem_removable_iff hids h.identified hfirst
  obtain ⟨hin, hold⟩ := oldest_of_prefix hprefix
  exact ⟨fun key hkey => (hmem key).mp (hin key hkey), fun old ho key hkey hnot => hold old ho key ((hmem key).mpr hkey) hnot⟩

theorem Shrunk.kept_protected (h : Shrunk host focus target hard given dropped done last) (hids : ∀ g ∈ given, g.1 = hazardId g.2)
    {id : String} {item : Json} (hid : Identified item) (hp : isProtected (applicableIds (given.map Prod.snd)) item = true) :
    named dropped id item = false := by
  rw [Bool.eq_false_iff, Ne, named_iff]
  rintro ⟨key, hkey, -, hscan⟩
  obtain ⟨hazard, hhazard, hin⟩ := List.mem_flatMap.mp ((h.oldest hids).1 key hkey)
  obtain ⟨g, hgiven, rfl⟩ := List.mem_map.mp (List.mem_of_mem_filter hhazard)
  obtain ⟨other, hother, rfl⟩ := List.mem_map.mp hin
  obtain ⟨hother, hfree⟩ := List.mem_filter.mp hother
  have hotherId := h.identified g hgiven other hother
  have hsame : scanIdText other = scanIdText item := hscan
  have hyes : isProtected (applicableIds (given.map Prod.snd)) other = true := by
    rw [isProtected_iff hotherId, hsame]
    exact (isProtected_iff hid _).mp hp
  rw [hyes] at hfree
  cases hfree

theorem Shrunk.kept_compact (h : Shrunk host focus target hard given dropped done last) (hnodup : (given.map Prod.fst).Nodup)
    {g : String × Fields} (hg : g ∈ given) (hraw : focus.raw g.1 = false) (item : Json) : named done g.1 item = false := by
  rw [Bool.eq_false_iff, Ne, named_iff]
  rintro ⟨key, hkey, hhazardId, -⟩
  obtain ⟨ids, kept, hkept, hprefix⟩ := h.compacts
  obtain ⟨hazard, hhazard, hid, -, -, first, hfirst, hshown⟩ := forall₂_left hkept hg
  have hin := (List.perm_insertionSort (· ≤ ·) (kept.flatMap (compactableOf ids))).mem_iff.mp (List.IsPrefix.subset hprefix hkey)
  have hown := mem_of_hazardId (fun _ _ => compactableOf_hazardId) (tracks_ids hkept ▸ hnodup) hhazard hin (hhazardId.trans hid.symm)
  obtain ⟨other, hother, -⟩ := List.mem_map.mp hown
  obtain ⟨hother, hfull⟩ := List.mem_filter.mp hother
  rw [hshown] at hother
  have hotherIn := List.mem_of_mem_filter hother
  have hcompact := (hfirst.compact hraw hotherIn (hfirst.identified (h.identified g hg) other hotherIn)).2
  simp [hcompact] at hfull

theorem Shrunk.applicable (h : Shrunk host focus target hard given dropped done last) (hids : ∀ g ∈ given, g.1 = hazardId g.2)
    (hnodup : (given.map Prod.fst).Nodup) {g : String × Fields} (hg : g ∈ given) {shown : List Json}
    (hshown : Settled host focus dropped done g shown) (hfocus : focus.detailed g.1 = true) {item : Json} (hitem : item ∈ historyOf g.2)
    (happ : scanId item ∈ applicableScanIds g.2) : ∃ detail ∈ shown, ShownAs item detail := by
  obtain ⟨kept, ⟨first, hfirst, rfl⟩, hall⟩ := hshown
  have hid := h.identified g hg item hitem
  obtain ⟨detail, hdetail, hcase⟩ := hfirst.applicable hfocus hitem hid happ
  have hscan : scanId detail = scanId item := by
    obtain ⟨-, rfl⟩ | ⟨-, hcompact⟩ := hcase
    · rfl
    · exact hcompact.scanId
  have hkept : named dropped g.1 detail = false := by
    rw [named_congr hscan]
    exact h.kept_protected hids hid (protected_of_applicable hg hid happ)
  obtain ⟨after, hafter, hbecame⟩ := forall₂_left hall (List.mem_filter.mpr ⟨hdetail, by simp [hkept]⟩)
  refine ⟨after, hafter, ?_⟩
  obtain ⟨-, rfl⟩ | ⟨hraw, hcompact⟩ := hcase
  · obtain ⟨-, fields, hfields, rfl⟩ | ⟨-, rfl⟩ := hbecame
    · exact .inr ⟨fields, hfields, rfl⟩
    · exact .inl rfl
  · obtain ⟨hyes, -⟩ | ⟨-, rfl⟩ := hbecame
    · rw [h.kept_compact hnodup hg hraw] at hyes
      cases hyes
    · obtain ⟨fields, hfields, rfl⟩ := hcompact
      exact .inr ⟨fields, hfields, rfl⟩

theorem Shrunk.full (h : Shrunk host focus target hard given dropped done last) (hids : ∀ g ∈ given, g.1 = hazardId g.2)
    (hnodup : (given.map Prod.fst).Nodup) {g : String × Fields} (hg : g ∈ given) (hunique : ((historyOf g.2).map scanId).Nodup)
    {shown : List Json} (hshown : Settled host focus dropped done g shown) (hraw : focus.raw g.1 = true) :
    List.Forall₂ ShownAs ((historyOf g.2).filter fun item => attemptKey g.1 item ∉ dropped) shown := by
  obtain ⟨kept, ⟨first, hfirst, rfl⟩, hall⟩ := hshown
  have hfirst : first = historyOf g.2 := by
    obtain ⟨-, rfl⟩ | ⟨hno, -⟩ | ⟨hno, -⟩ := hfirst.cases
    · rfl
    all_goals
      rw [hno] at hraw
      cases hraw
  subst hfirst
  have hnamed : ∀ item ∈ historyOf g.2, (!named dropped g.1 item) = decide (attemptKey g.1 item ∉ dropped) := by
    intro item hitem
    rw [Bool.eq_iff_iff, Bool.not_eq_true', decide_eq_true_iff, Bool.eq_false_iff, Ne, not_iff_not, named_iff]
    constructor
    · rintro ⟨key, hkey, hhazardId, hscan⟩
      obtain ⟨hazard, hhazard, hin⟩ := List.mem_flatMap.mp ((h.oldest hids).1 key hkey)
      obtain ⟨other, hother, rfl⟩ := List.mem_map.mp (List.mem_of_mem_filter hhazard)
      obtain ⟨found, hfound, rfl⟩ := List.mem_map.mp hin
      have hsame : other = g := List.inj_on_of_nodup_map hnodup hother hg ((hids other hother).trans hhazardId)
      subst hsame
      have hmem := List.mem_of_mem_filter hfound
      have hfoundEq : found = item := by
        refine List.inj_on_of_nodup_map hunique hmem hitem ?_
        rw [(h.identified other hg found hmem).scanId, (h.identified other hg item hitem).scanId]
        exact congrArg Json.str hscan
      rw [hids other hg, ← hfoundEq]
      exact hkey
    · exact fun hkey => ⟨_, hkey, rfl, rfl⟩
  rw [List.filter_congr hnamed] at hall
  refine hall.imp fun item detail h => ?_
  obtain ⟨-, fields, hfields, rfl⟩ | ⟨-, rfl⟩ := h
  · exact .inr ⟨fields, hfields, rfl⟩
  · exact .inl rfl

end Run

-- What is returned

structure Faithful (focus : Focus) (given shown : List Fields) : Prop where
  facts : List.Forall₂ SameFacts given shown
  /-- Applicable attempts of the hazards in focus are shown. -/
  applicable : List.Forall₂ (fun before after => focus.detailed (hazardId before) = true → ∀ item ∈ historyOf before,
    scanId item ∈ applicableScanIds before → ∃ detail ∈ historyOf after, ShownAs item detail) given shown
  /-- Of the attempts in full detail, the oldest that are not protected are left out, and no others. -/
  omitted : ∃ omitted, Oldest omitted (unprotectedKeys focus given) ∧
    List.Forall₂ (fun before after => focus.raw (hazardId before) = true →
      List.Forall₂ ShownAs ((historyOf before).filter fun item => attemptKey (hazardId before) item ∉ omitted) (historyOf after)) given shown

def attemptCount (hazards : List Fields) : Nat := (hazards.map fun hazard => (historyOf hazard).length).sum
def compactDetail (hazards : List Fields) : Nat := (hazards.map fun hazard => (historyOf hazard).countP isCompact).sum
def fullDetail (hazards : List Fields) : Nat := (hazards.map fun hazard => (historyOf hazard).countP fun item => !isCompact item).sum

/-- The metadata counts what is shown, and what is not. -/
structure Counted (metadata : Fields) (given shown : List Fields) : Prop where
  full : get metadata "scan_full_detail_retained_count" = count (fullDetail shown)
  compact : get metadata "scan_compact_detail_retained_count" = count (compactDetail shown)
  omitted : ∃ omitted, get metadata "scan_detail_omitted_count" = count omitted ∧
    fullDetail shown + compactDetail shown + omitted = attemptCount given

/-- The projection as it was before the flag was set. -/
def beforeFlag (metadata out : Fields) : Fields :=
  setField projectionField (.obj (setField exceededField (.bool false) metadata)) out

theorem historyOf_toFields (hazard : Hazard) : historyOf hazard.toFields = hazard.shown := by
  have hne : scanHistoryField ≠ scanSummaryField := by decide
  rw [historyOf, get, Hazard.toFields, lookup_setField, if_neg hne, lookup_setField, if_pos rfl]
  rfl

theorem sameFacts_toFields (hazard : Hazard) : SameFacts hazard.given hazard.toFields := by
  intro name hhistory hsummary
  rw [Hazard.toFields, lookup_setField, if_neg hsummary, lookup_setField, if_neg hhistory]

theorem get_hazards (p : Projected) : get p.toFields hazardsField = .arr ((p.hazards.map Hazard.toFields).map Json.obj) := by
  have hne : hazardsField ≠ projectionField := by decide
  rw [get, Projected.toFields, lookup_setField, if_neg hne, lookup_setField, if_pos rfl, List.map_map]
  rfl

theorem get_metadata (p : Projected) : get p.toFields projectionField = .obj p.metadata := by
  rw [get, Projected.toFields, lookup_setField, if_pos rfl]
  rfl

theorem shownCount_eq (hazards : List Hazard) : shownCount hazards =
    fullDetail (hazards.map Hazard.toFields) + compactCount hazards := by
  rw [shownCount, compactCount, fullDetail, List.map_map, ← List.sum_map_add]
  refine congrArg List.sum (List.map_congr_left fun hazard _ => ?_)
  rw [Function.comp_apply, historyOf_toFields, Nat.add_comm, List.length_eq_countP_add_countP isCompact]
  simp

theorem compactCount_eq (hazards : List Hazard) : compactCount hazards = compactDetail (hazards.map Hazard.toFields) := by
  rw [compactCount, compactDetail, List.map_map]
  refine congrArg List.sum (List.map_congr_left fun hazard _ => ?_)
  rw [Function.comp_apply, historyOf_toFields]

section Returned

variable {host : Host} {focus : Focus} {target hard : Int} {navigation maneuverState : Fields} {lastToolResult : Json}
  {given : List (String × Fields)} {out : Fields} {dropped done : List AttemptKey} {last : Projected}

theorem Settled.length_le {g : String × Fields} {shown : List Json} (h : Settled host focus dropped done g shown) :
    shown.length ≤ (historyOf g.2).length := by
  obtain ⟨kept, hkept, hall⟩ := h
  have hle := hkept.sublist.length_le
  rw [List.length_map, List.length_map] at hle
  exact hall.length_eq ▸ hle

theorem Shrunk.faithful (h : Shrunk host focus target hard given dropped done last) (hids : ∀ g ∈ given, g.1 = hazardId g.2)
    (hnodup : (given.map Prod.fst).Nodup) (hunique : ∀ g ∈ given, ((historyOf g.2).map scanId).Nodup) :
    Faithful focus (given.map Prod.snd) (last.hazards.map Hazard.toFields) := by
  have hall := (List.forall₂_and_left given last.hazards).mpr ⟨fun g (hg : g ∈ given) => hg, h.tracks⟩
  refine ⟨?_, ?_, dropped, h.oldest hids, ?_⟩ <;> rw [List.forall₂_map_left_iff, List.forall₂_map_right_iff]
  · refine hall.imp fun g hazard hh => ?_
    exact hh.2.2.1 ▸ sameFacts_toFields hazard
  · refine hall.imp fun g hazard hh hfocus item hitem happ => ?_
    obtain ⟨hg, -, -, -, hshown⟩ := hh
    rw [historyOf_toFields]
    exact h.applicable hids hnodup hg hshown (hids g hg ▸ hfocus) hitem happ
  · refine hall.imp fun g hazard hh hraw => ?_
    obtain ⟨hg, -, -, -, hshown⟩ := hh
    rw [historyOf_toFields, ← hids g hg]
    exact h.full hids hnodup hg (hunique g hg) hshown (hids g hg ▸ hraw)

theorem Shrunk.counted (h : Shrunk host focus target hard given dropped done last) {metadata : Fields}
    (hm : ∀ name, name ≠ reductionBlockedField → name ≠ exceededField →
      metadata.lookup name = (metadataOf host focus target hard last.hazards).lookup name) :
    Counted metadata (given.map Prod.snd) (last.hazards.map Hazard.toFields) := by
  have hsupplied : attemptCount (given.map Prod.snd) = suppliedCount last.hazards := by
    rw [attemptCount, suppliedCount, List.map_map]
    exact congrArg List.sum (forall₂_map_eq (fun g hazard hg => congrArg List.length hg.2.2.1.symm) h.tracks)
  have hshown := shownCount_eq last.hazards
  have hle : shownCount last.hazards ≤ suppliedCount last.hazards := by
    refine List.sum_le_sum fun hazard hhazard => ?_
    obtain ⟨g, -, -, -, hhistory, hsettled⟩ := forall₂_right h.tracks hhazard
    exact hhistory ▸ hsettled.length_le
  have hcompact := compactCount_eq last.hazards
  refine ⟨?_, ?_, suppliedCount last.hazards - shownCount last.hazards, ?_, ?_⟩
  · rw [get, hm _ (by decide) (by decide)]
    show Json.int (shownCount last.hazards - compactCount last.hazards) = count (fullDetail (last.hazards.map Hazard.toFields))
    rw [count, hshown]
    exact congrArg Json.int (by omega)
  · rw [get, hm _ (by decide) (by decide), ← hcompact]
    rfl
  · rw [get, hm _ (by decide) (by decide)]
    show Json.int (suppliedCount last.hazards - shownCount last.hazards) = count (suppliedCount last.hazards - shownCount last.hazards)
    rw [count]
    exact congrArg Json.int (by omega)
  · omega

theorem beforeFlag_eq (h : Noted host focus target hard last) (flag : Fields)
    (hflag : flag = setField exceededField (.bool true) last.metadata ∨ flag = last.metadata) :
    beforeFlag flag { last with metadata := flag }.toFields = last.toFields := by
  have hfalse : last.metadata.lookup exceededField = some (.bool false) := (h exceededField (by decide)).trans rfl
  have hback : setField exceededField (.bool false) flag = last.metadata := by
    obtain rfl | rfl := hflag
    · rw [setField_setField, setField_eq_self hfalse]
    · exact setField_eq_self hfalse
  rw [beforeFlag, hback, Projected.toFields, setField_setField]
  rfl

/-- A projection keeps every hazard and every applicable attempt, leaves out the
oldest attempts only, counts what it shows, and stays within the hard budget. -/
theorem projection_keeps_facts
    (h : projectNavigationContext host navigation maneuverState lastToolResult target hard = .ok out)
    (hscans : ∀ hazard ∈ objectsIn (get navigation hazardsField), ((historyOf hazard).map scanId).Nodup) :
    byteLength (.obj out) ≤ hard ∧ ∃ given shown metadata,
      get navigation hazardsField = .arr (given.map Json.obj) ∧ get out hazardsField = .arr (shown.map Json.obj) ∧
      get out projectionField = .obj metadata ∧
      Faithful (focusOf navigation maneuverState lastToolResult (given.map fun hazard => (hazardId hazard, hazard))) given shown ∧
      Counted metadata given shown ∧
      get metadata exceededField = .bool (decide (target < byteLength (.obj (beforeFlag metadata out)))) := by
  obtain ⟨given, dropped, done, last, hgiven, hunique, hshrunk, hfinish⟩ := projectNavigationContext_run h hscans
  obtain ⟨hvalues, hids, hnodup⟩ := hazardsOf_ok hgiven
  obtain ⟨hhard, metadata, rfl, hflag⟩ := finish_ok hfinish
  have hpairs : (given.map Prod.snd).map (fun hazard => (hazardId hazard, hazard)) = given := by
    have heach : ∀ g ∈ given, ((fun hazard => (hazardId hazard, hazard)) ∘ Prod.snd) g = id g := fun g hg =>
      Prod.ext (hids g hg).symm rfl
    rw [List.map_map, List.map_congr_left heach, List.map_id]
  have hlookup : ∀ name, name ≠ reductionBlockedField → name ≠ exceededField →
      metadata.lookup name =
        (metadataOf host (focusOf navigation maneuverState lastToolResult given) target hard last.hazards).lookup name := by
    intro name hblocked hexceeded
    obtain ⟨-, rfl⟩ | ⟨-, rfl⟩ := hflag
    · rw [lookup_setField, if_neg hexceeded]
      exact hshrunk.noted name hblocked
    · exact hshrunk.noted name hblocked
  have hmeasured := beforeFlag_eq hshrunk.noted metadata (hflag.imp And.right And.right)
  refine ⟨hhard, given.map Prod.snd, last.hazards.map Hazard.toFields, metadata, hvalues, get_hazards _, get_metadata _, ?_,
    hshrunk.counted hlookup, ?_⟩
  · rw [hpairs]
    exact hshrunk.faithful hids hnodup hunique
  · rw [hmeasured]
    obtain ⟨hlarge, rfl⟩ | ⟨hsmall, rfl⟩ := hflag
    · rw [get, lookup_setField, if_pos rfl]
      exact congrArg Json.bool (decide_eq_true hlarge).symm
    · rw [get, hshrunk.noted exceededField (by decide)]
      exact congrArg Json.bool (decide_eq_false hsmall).symm

end Returned

section
variable {host : Host} {focus : Focus} {target hard : Int} {projected : Projected} {navigation : Fields}

theorem finish_within (hfits : (projected.size : Int) ≤ target) (hle : target ≤ hard) :
    finish target hard projected = .ok projected.toFields := by
  have hflag : ¬ target < projected.size := not_lt.mpr hfits
  have hhard : ¬ hard < projected.size := not_lt.mpr (hfits.trans hle)
  simp only [finish, hflag, if_false, hhard]

theorem dropRemovable_within (keys : List AttemptKey) (hfits : (projected.size : Int) ≤ target) :
    dropRemovable host focus target hard keys projected = .ok projected := by
  cases keys with
  | nil => rfl
  | cons key keys => exact if_neg (not_lt.mpr hfits)

theorem dropRemovable_over {key : AttemptKey} {keys : List AttemptKey} {next : Projected} (hlarge : target < projected.size)
    (hnext : refreshProjectionMetadata host focus target hard { projected with hazards := projected.hazards.map (dropScan key) } =
      .ok next) :
    dropRemovable host focus target hard (key :: keys) projected = dropRemovable host focus target hard keys next := by
  rw [dropRemovable, if_pos hlarge, hnext, ok_bind]

theorem compactRemaining_within (keys : List AttemptKey) (hfits : (projected.size : Int) ≤ target) :
    compactRemaining host focus target hard keys projected = .ok projected := by
  cases keys with
  | nil => rfl
  | cons key keys => exact if_neg (not_lt.mpr hfits)

theorem shrunk_within (keys : List AttemptKey) (hledger : navigation.lookup "experience_ledger" = none)
    (hfits : (projected.size : Int) ≤ target) (hle : target ≤ hard) :
    (do
      let compacted ← compactRemaining host focus target hard keys projected
      let reduced ← reduceExperience host focus target hard navigation compacted
      finish target hard reduced) = .ok projected.toFields := by
  have hkept : reduceExperience host focus target hard navigation projected = .ok projected := by
    simp only [reduceExperience, hledger]
  rw [compactRemaining_within keys hfits, ok_bind, hkept, ok_bind]
  exact finish_within hfits hle
end

-- A commitment to the door shows its scans in full, and one is too many.

def sampleScan (id : String) (time : Int) : Json :=
  .obj [("scan_id", .str id), ("completed_at_ms", .int time), ("status", .str "COMPLETE"), ("observation_pattern", .str "MIXED"),
    ("arc_coverage", .str "FULL"), ("boundary_coverage", .str "NONE"), ("hypothesis_relation", .str "SAME"),
    ("rays", .arr [.obj [("blocked", .bool true), ("actual_relative_bearing_mdeg", .int 5)]])]

def sampleHazard (id applicable : String) (scans : List Json) : Json :=
  .obj [("hypothesis_id", .str id), ("route_evidence", .obj [("applicable_scan_ids", texts [applicable])]), (scanHistoryField, .arr scans)]

def crowdedView : Fields :=
  [(hazardsField, .arr [sampleHazard "door" "s3" [sampleScan "s2" 20, sampleScan "s1" 10, sampleScan "s3" 5],
    sampleHazard "wall" "s5" [sampleScan "s4" 1, sampleScan "s5" 2]])]

def committedToDoor : Fields := [("active", .obj [("target_hypothesis_id", .str "door")])]

def sampleHost : Host :=
  { sha256 := fun _ => "", plusFloat := fun _ text => text, greaterFloat := fun _ _ => false, equalFloat := fun _ _ => false }

/-- The hazards of the view, and how they are shown before anything is left out. -/
def crowdedHazards : List (String × Fields) := (hazardsOf crowdedView).toOption.getD []

def crowdedFocus : Focus := focusOf crowdedView committedToDoor .null crowdedHazards

def crowdedRefreshed (hazards : List Hazard) : Projected :=
  (refreshProjectionMetadata sampleHost crowdedFocus 3100 4000 ⟨crowdedView, hazards, []⟩).toOption.getD ⟨[], [], []⟩

def crowdedFirst : Projected :=
  crowdedRefreshed ((crowdedHazards.mapM (initialHazard sampleHost crowdedFocus)).toOption.getD [])

def withoutFirst : Projected := crowdedRefreshed (crowdedFirst.hazards.map (dropScan (.of 10 "door" "s1")))

def withoutBoth : Projected := crowdedRefreshed (withoutFirst.hazards.map (dropScan (.of 20 "door" "s2")))

theorem withoutBoth_fits : (withoutBoth.size : Int) ≤ 3100 := by decide +kernel

theorem crowdedView_projected : ∃ out,
    projectNavigationContext sampleHost crowdedView committedToDoor .null 3100 4000 = .ok out := by
  have hgiven : hazardsOf crowdedView = .ok crowdedHazards := rfl
  have hbase : baseOf sampleHost crowdedView = .ok crowdedView := rfl
  have hshown : crowdedHazards.mapM (initialHazard sampleHost crowdedFocus) =
      .ok ((crowdedHazards.mapM (initialHazard sampleHost crowdedFocus)).toOption.getD []) := rfl
  have hfirst : refreshProjectionMetadata sampleHost crowdedFocus 3100 4000
      ⟨crowdedView, (crowdedHazards.mapM (initialHazard sampleHost crowdedFocus)).toOption.getD [], []⟩ = .ok crowdedFirst := rfl
  have hkeys : sortedKeys (crowdedFirst.hazards.flatMap (removableOf (protectedScanIds crowdedFirst.hazards))) =
      [.of 10 "door" "s1", .of 20 "door" "s2"] := by decide +kernel
  have hdropped : ∃ dropped, dropRemovable sampleHost crowdedFocus 3100 4000 [.of 10 "door" "s1", .of 20 "door" "s2"] crowdedFirst =
      .ok dropped ∧ (dropped.size : Int) ≤ 3100 := by
    by_cases h₁ : 3100 < (crowdedFirst.size : Int)
    · by_cases h₂ : 3100 < (withoutFirst.size : Int)
      · refine ⟨withoutBoth, ?_, withoutBoth_fits⟩
        exact (dropRemovable_over h₁ rfl).trans (dropRemovable_over h₂ rfl)
      · refine ⟨withoutFirst, ?_, not_lt.mp h₂⟩
        exact (dropRemovable_over h₁ rfl).trans (dropRemovable_within _ (not_lt.mp h₂))
    · exact ⟨crowdedFirst, dropRemovable_within _ (not_lt.mp h₁), not_lt.mp h₁⟩
  obtain ⟨dropped, hdropped, hfits⟩ := hdropped
  refine ⟨dropped.toFields, ?_⟩
  rw [projectNavigationContext, if_neg (by decide), hgiven, ok_bind, hbase, ok_bind]
  change (crowdedHazards.mapM (initialHazard sampleHost crowdedFocus) >>= _) = _
  rw [hshown, ok_bind]
  change (refreshProjectionMetadata sampleHost crowdedFocus 3100 4000 _ >>= _) = _
  rw [hfirst, ok_bind]
  dsimp only
  rw [hkeys]
  change (dropRemovable sampleHost crowdedFocus 3100 4000 _ crowdedFirst >>= _) = _
  rw [hdropped, ok_bind]
  exact shrunk_within _ rfl hfits (by decide)

theorem crowdedView_keeps_facts : ∃ out,
    projectNavigationContext sampleHost crowdedView committedToDoor .null 3100 4000 = .ok out ∧ byteLength (.obj out) ≤ (4000 : Int) := by
  obtain ⟨out, hrun⟩ := crowdedView_projected
  have hscans : ∀ hazard ∈ objectsIn (get crowdedView hazardsField), ((historyOf hazard).map scanId).Nodup := by
    intro hazard hhazard
    have hcases : hazard = attemptFields (sampleHazard "door" "s3" [sampleScan "s2" 20, sampleScan "s1" 10, sampleScan "s3" 5]) ∨
        hazard = attemptFields (sampleHazard "wall" "s5" [sampleScan "s4" 1, sampleScan "s5" 2]) := by
      simpa [crowdedView, get, objectsIn, sampleHazard, attemptFields] using hhazard
    obtain rfl | rfl := hcases
    · show [Json.str "s2", Json.str "s1", Json.str "s3"].Nodup
      simp
    · show [Json.str "s4", Json.str "s5"].Nodup
      simp
  exact ⟨out, hrun, (projection_keeps_facts hrun hscans).1⟩

end RobotLlm.Physical.PlannerContext
