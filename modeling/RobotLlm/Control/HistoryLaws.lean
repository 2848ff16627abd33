import RobotLlm.Control.History
import RobotLlm.Lib.Cursor
import RobotLlm.Lib.JsonLength
import RobotLlm.Lib.Machine

/-!
# Reading a history page by page

What is retained is the end of what was appended, and its bytes are counted.
A client that goes on from the cursor of its last page gets the items in
order, each once, unless a page told it of a gap. A page fits its bytes as
long as no number is longer than the cursor that room was kept for.
-/

namespace RobotLlm.Control

open RobotLlm.Lib Cursor

-- What a history holds

namespace History

/-- The bounds are kept, the bytes are those of the items, and the numbers grow
up to the last that was given. -/
structure Sound (limits : HistoryLimits) (h : History) : Prop where
  measured : ∀ entry ∈ h.entries, entry.size = entry.item.size
  bytes : h.retainedBytes = (h.entries.map Entry.size).sum
  bytesLe : h.retainedBytes ≤ limits.byteCapacity
  lengthLe : h.entries.length ≤ limits.capacity

theorem Sound.empty (limits : HistoryLimits) : Sound limits {} where
  measured := by simp
  bytes := rfl
  bytesLe := Nat.zero_le _
  lengthLe := Nat.zero_le _

theorem Sound.bytes_items {limits : HistoryLimits} {h : History} (hs : Sound limits h) :
    h.retainedBytes = (h.items.map Item.size).sum := by
  rw [hs.bytes, items, List.map_map]
  exact congrArg List.sum (List.map_congr_left hs.measured)

theorem evict_spec (limits : HistoryLimits) (size : Nat) (entries : List Entry) (dropped : Nat) :
    ∃ gone kept, entries = gone ++ kept ∧
      evict limits size entries (entries.map Entry.size).sum dropped = (kept, (kept.map Entry.size).sum, dropped + gone.length) ∧
      (kept = [] ∨ kept.length < limits.capacity ∧ (kept.map Entry.size).sum + size ≤ limits.byteCapacity) := by
  induction entries generalizing dropped with
  | nil => exact ⟨[], [], rfl, rfl, .inl rfl⟩
  | cons entry entries ih =>
    rw [evict]
    by_cases hfull : (entry :: entries).length ≥ limits.capacity ∨
        ((entry :: entries).map Entry.size).sum + size > limits.byteCapacity
    · obtain ⟨gone, kept, heq, hevict, hroom⟩ := ih (dropped + 1)
      have hsum : ((entry :: entries).map Entry.size).sum - entry.size = (entries.map Entry.size).sum := by simp
      refine ⟨entry :: gone, kept, by rw [heq, List.cons_append], ?_, hroom⟩
      rw [if_pos hfull, hsum, hevict, List.length_cons, Nat.add_assoc, Nat.add_comm 1]
    · rw [if_neg hfull]
      simp only [not_or, ge_iff_le, gt_iff_lt, not_le, not_lt] at hfull
      exact ⟨[], entry :: entries, rfl, rfl, .inr hfull⟩

theorem append_spec {limits : HistoryLimits} {h : History} (hs : Sound limits h) (item : Item) :
    (h.append limits item = (.error itemTooLarge, h)) ∨
      ∃ gone kept h', h.append limits item = (.ok (), h') ∧ h.entries = gone ++ kept ∧
        h'.entries = kept ++ [⟨item, item.size⟩] ∧ h'.sequence = h.sequence ∧
        h'.droppedTotal = h.droppedTotal + gone.length ∧ Sound limits h' := by
  by_cases hlarge : item.size > limits.byteCapacity
  · exact .inl (if_pos hlarge)
  · obtain ⟨gone, kept, heq, hevict, hroom⟩ := evict_spec limits item.size h.entries h.droppedTotal
    rw [← hs.bytes] at hevict
    refine .inr ⟨gone, kept, _, if_neg hlarge, heq, ?_, rfl, ?_, ?_⟩
    · simp only [hevict]
    · simp only [hevict]
    · have hmeasured : ∀ entry ∈ kept, entry.size = entry.item.size := fun entry h =>
        hs.measured entry (by rw [heq]; exact List.mem_append_right _ h)
      have hcapacity := limits.capacityOk.1
      rw [not_lt] at hlarge
      simp only [hevict]
      constructor
      · simp only [List.forall_mem_append, List.forall_mem_singleton, and_true]
        exact hmeasured
      · simp
      · rcases hroom with rfl | ⟨_, hbytes⟩
        · simpa using hlarge
        · exact hbytes
      · rcases hroom with rfl | ⟨hcount, _⟩
        · simpa using hcapacity
        · rw [List.length_append]
          exact hcount

end History

-- The bytes of a page

def itemsLength (items : List Item) : Nat := (items.map Item.size).sum + (items.length - 1)

theorem size_withItems (envelope : RobotPage) (henvelope : envelope.items = []) (hnext : envelope.nextAfterSequence = maxCursor)
    (hlimited : envelope.byteLimited = false) (items : List Item) (candidates : Nat) :
    (envelope.withItems items candidates).size + Json.byteLength (.int maxCursor) + Json.byteLength (.bool false) =
      envelope.size + itemsLength items + Json.byteLength (.int (envelope.withItems items candidates).nextAfterSequence) +
        Json.byteLength (.bool (envelope.withItems items candidates).byteLimited) := by
  have hsum : ((items.map Item.value).map Json.byteLength).sum = (items.map Item.size).sum := by
    rw [List.map_map]
    rfl
  simp only [RobotPage.size, RobotPage.toJson, RobotPage.withItems, Json.byteLength_obj, Json.byteLength_arr, Json.fieldLength,
    List.map_cons, List.map_nil, List.sum_cons, List.sum_nil, List.length_cons, List.length_nil, List.length_map, henvelope, hnext,
    hlimited, itemsLength, hsum]
  omega

theorem size_le_envelope (envelope : RobotPage) (henvelope : envelope.items = []) (hnext : envelope.nextAfterSequence = maxCursor)
    (hlimited : envelope.byteLimited = false) (items : List Item) (candidates : Nat)
    (hcursor : 0 ≤ (envelope.withItems items candidates).nextAfterSequence ∧
      (envelope.withItems items candidates).nextAfterSequence ≤ maxCursor) :
    (envelope.withItems items candidates).size ≤ envelope.size + itemsLength items := by
  have hint := Json.byteLength_int_mono hcursor.1 hcursor.2
  have hbool : ∀ limited, Json.byteLength (.bool limited) ≤ Json.byteLength (.bool false) := by
    intro limited
    cases limited <;> decide
  have hflag := hbool (envelope.withItems items candidates).byteLimited
  have hsize := size_withItems envelope henvelope hnext hlimited items candidates
  omega

theorem selectPage_cons (remaining : Int) (taken : Nat) (any : Bool) (candidate : Item) (candidates : List Item) :
    (selectPage remaining taken any (candidate :: candidates) = [] ∧
        remaining < ((taken + candidate.size + any.toNat : Nat) : Int)) ∨
      selectPage remaining taken any (candidate :: candidates) =
          candidate :: selectPage remaining (taken + candidate.size + any.toNat) true candidates ∧
        ((taken + candidate.size + any.toNat : Nat) : Int) ≤ remaining := by
  have hincrement : taken + (candidate.size + if any then 1 else 0) = taken + candidate.size + any.toNat := by
    cases any <;> rfl
  rw [selectPage, hincrement]
  by_cases hfits : ((taken + candidate.size + any.toNat : Nat) : Int) > remaining
  · exact .inl ⟨if_pos hfits, hfits⟩
  · exact .inr ⟨if_neg hfits, not_lt.mp hfits⟩

theorem selectPage_front (remaining : Int) (taken : Nat) (any : Bool) (candidates : List Item) :
    selectPage remaining taken any candidates <+: candidates := by
  induction candidates generalizing taken any with
  | nil => exact List.nil_prefix
  | cons candidate candidates ih =>
    obtain ⟨hnone, _⟩ | ⟨htaken, _⟩ := selectPage_cons remaining taken any candidate candidates
    · rw [hnone]
      exact List.nil_prefix
    · rw [htaken]
      exact List.cons_prefix_cons.mpr ⟨rfl, ih _ _⟩

theorem selectPage_fits (remaining : Int) (taken : Nat) (any : Bool) (candidates : List Item)
    (h : selectPage remaining taken any candidates ≠ []) :
    ((taken + ((selectPage remaining taken any candidates).map Item.size).sum +
      (selectPage remaining taken any candidates).length + any.toNat : Nat) : Int) ≤ remaining + 1 := by
  induction candidates generalizing taken any with
  | nil => exact absurd rfl h
  | cons candidate candidates ih =>
    obtain ⟨hnone, _⟩ | ⟨htaken, hfits⟩ := selectPage_cons remaining taken any candidate candidates
    · exact absurd hnone h
    · rw [htaken, List.map_cons, List.sum_cons, List.length_cons]
      by_cases hrest : selectPage remaining (taken + candidate.size + any.toNat) true candidates = []
      · rw [hrest, List.map_nil, List.sum_nil, List.length_nil]
        omega
      · have hmore := ih _ _ hrest
        rw [Bool.toNat_true] at hmore
        omega

theorem byteLength_bool_le (b : Bool) : Json.byteLength (.bool b) ≤ 5 := by
  cases b <;> decide

theorem byteLength_number_le {n : Int} (h : 0 ≤ n ∧ n ≤ maxCursor) : Json.byteLength (.int n) ≤ 19 :=
  (Json.byteLength_int_mono h.1 h.2).trans (by decide +kernel)

theorem envelope_small (envelope : RobotPage) (hitems : envelope.items = []) (hnext : envelope.nextAfterSequence = maxCursor)
    (hafter : 0 ≤ envelope.afterSequence ∧ envelope.afterSequence ≤ maxCursor)
    (holdest : ∀ oldest, envelope.oldestSequence = some oldest → 0 ≤ oldest ∧ oldest ≤ maxCursor)
    (hnewest : 0 ≤ envelope.newestSequence ∧ envelope.newestSequence ≤ maxCursor)
    (hdropped : (envelope.droppedTotal : Int) ≤ maxCursor) (hretained : (envelope.retainedBytes : Int) ≤ maxCursor)
    (hcapacity : (envelope.byteCapacity : Int) ≤ maxCursor) : envelope.size ≤ maxPageBytes := by
  have h₁ := byteLength_number_le hafter
  have h₂ : Json.byteLength (Json.ofOpt .int envelope.oldestSequence) ≤ 19 := by
    cases h : envelope.oldestSequence with
    | none => decide
    | some oldest => exact byteLength_number_le (holdest oldest h)
  have h₃ := byteLength_number_le hnewest
  have h₄ : Json.byteLength (.int maxCursor) ≤ 19 := by decide +kernel
  have h₅ := byteLength_number_le ⟨Int.natCast_nonneg _, hdropped⟩
  have h₆ := byteLength_number_le ⟨Int.natCast_nonneg _, hretained⟩
  have h₇ := byteLength_number_le ⟨Int.natCast_nonneg _, hcapacity⟩
  have h₈ : Json.byteLength (.int maxPageBytes) ≤ 19 := by decide +kernel
  have hgap := byteLength_bool_le envelope.gap
  have hlimited := byteLength_bool_le envelope.byteLimited
  have hschema : Json.byteLength (.str envelope.collection.schema) ≤ 50 := by
    cases envelope.collection <;> decide +kernel
  have hname : Json.utf8Length (Json.quoted envelope.collection.name) ≤ 50 := by
    cases envelope.collection <;> decide +kernel
  have hkeys : ∀ key ∈ ["schema", "after_sequence", "oldest_sequence", "newest_sequence", "next_after_sequence", "gap",
      "dropped_total", "retained_bytes", "byte_capacity", "response_byte_capacity", "byte_limited"],
      Json.utf8Length (Json.quoted key) ≤ 50 := by decide +kernel
  simp only [List.forall_mem_cons, List.not_mem_nil, false_imp_iff, implies_true, and_true] at hkeys
  simp only [RobotPage.size, RobotPage.toJson, Json.byteLength_obj, Json.byteLength_arr, Json.fieldLength, List.map_cons, List.map_nil,
    List.sum_cons, List.sum_nil, List.length_cons, List.length_nil, hitems, hnext, maxPageBytes]
  rw [maxPageBytes] at h₈
  omega

-- One page

namespace History

/-- What a page that was served says: the items are the first of those after the
cursor, at least one if there are any, and the next cursor is the last of them. -/
structure Served (h : History) (afterSequence : Int) (p : RobotPage) : Prop where
  next : 0 ≤ afterSequence
  taken : p.items <+: after Item.sequence afterSequence h.items
  progress : p.items = [] → after Item.sequence afterSequence h.items = []
  cursor : p.nextAfterSequence = advance Item.sequence afterSequence p.items
  gap : p.gap = (h.items.head?.map Item.sequence).any fun oldest => afterSequence < oldest - 1
  size : p.size ≤ maxPageBytes

theorem page_served {limits : HistoryLimits} {collection : Collection} {afterSequence limit : Int} {h : History} {p : RobotPage}
    (hpage : h.page limits collection afterSequence limit = .ok p) : Served h afterSequence p := by
  rw [page, require_bind_ok_iff] at hpage
  obtain ⟨⟨hcursor, hlimit, _⟩, hpage⟩ := hpage
  obtain ⟨hsome, hpage⟩ := require_bind_ok_iff.mp hpage
  obtain ⟨hsize, hpage⟩ := require_bind_ok_iff.mp hpage
  cases hpage
  have hfront : h.candidates afterSequence limit <+: after Item.sequence afterSequence h.items := List.take_prefix _ _
  constructor
  · exact hcursor.1
  · exact (selectPage_front _ _ _ _).trans hfront
  · intro hnone
    have hcandidates : h.candidates afterSequence limit = [] := by
      by_contra hne
      exact hsome ⟨hne, hnone⟩
    rw [candidates, List.take_eq_nil_iff] at hcandidates
    exact hcandidates.resolve_left (by omega)
  · rfl
  · rfl
  · exact not_lt.mp hsize

theorem envelope_fits {limits : HistoryLimits} {collection : Collection} {afterSequence : Int} {h : History}
    (hs : Sound limits h) (hitems : ∀ item ∈ h.items, 0 ≤ item.sequence ∧ item.sequence ≤ maxCursor)
    (hdropped : (h.droppedTotal : Int) ≤ maxCursor) (hcursor : 0 ≤ afterSequence ∧ afterSequence ≤ maxCursor) :
    (h.envelope limits collection afterSequence).size ≤ maxPageBytes := by
  refine envelope_small _ rfl rfl hcursor ?_ ?_ hdropped ?_ ?_
  · intro oldest holdest
    obtain ⟨item, hitem, rfl⟩ := Option.map_eq_some_iff.mp holdest
    exact hitems item (List.mem_of_head? hitem)
  · show 0 ≤ (h.items.getLast?.map Item.sequence).getD 0 ∧ (h.items.getLast?.map Item.sequence).getD 0 ≤ maxCursor
    cases hlast : h.items.getLast? with
    | none => decide
    | some item => exact hitems item (List.mem_of_getLast? hlast)
  · have hbytes : h.retainedBytes ≤ 256 * 1024 * 1024 := hs.bytesLe.trans limits.byteCapacityOk.2
    show (h.retainedBytes : Int) ≤ maxCursor
    exact (Int.ofNat_le.mpr hbytes).trans (by decide)
  · show (limits.byteCapacity : Int) ≤ maxCursor
    exact (Int.ofNat_le.mpr limits.byteCapacityOk.2).trans (by decide)

theorem page_fits {limits : HistoryLimits} {collection : Collection} {afterSequence limit : Int} {h : History}
    (hs : Sound limits h) (hitems : ∀ item ∈ h.items, 0 ≤ item.sequence ∧ item.sequence ≤ maxCursor)
    (hdropped : (h.droppedTotal : Int) ≤ maxCursor) :
    h.page limits collection afterSequence limit ≠ .error pageTooLarge := by
  rw [page]
  by_cases hcursor : (0 ≤ afterSequence ∧ afterSequence ≤ maxCursor) ∧ 1 ≤ limit ∧ limit ≤ 500
  swap
  · rw [require_neg hcursor]
    exact fun h => absurd (Except.error.inj h) (by decide)
  rw [require_bind hcursor]
  dsimp only
  have henvelope : (h.envelope limits collection afterSequence).size ≤ maxPageBytes :=
    envelope_fits hs hitems hdropped hcursor.1
  have hfront : selectPage ((maxPageBytes : Int) - (h.envelope limits collection afterSequence).size) 0 false
      (h.candidates afterSequence limit) <+: h.candidates afterSequence limit := selectPage_front _ _ _ _
  have hfits := selectPage_fits ((maxPageBytes : Int) - (h.envelope limits collection afterSequence).size) 0 false
    (h.candidates afterSequence limit)
  generalize selectPage ((maxPageBytes : Int) - (h.envelope limits collection afterSequence).size) 0 false
    (h.candidates afterSequence limit) = selected at hfront hfits ⊢
  by_cases hsome : ¬ (h.candidates afterSequence limit ≠ [] ∧ selected = [])
  swap
  · rw [require_neg hsome]
    exact fun h => absurd (Except.error.inj h) (by decide)
  rw [require_bind hsome]
  have hselected : ∀ item ∈ selected, 0 ≤ item.sequence ∧ item.sequence ≤ maxCursor := fun item hitem =>
    hitems item (List.mem_of_mem_filter (List.mem_of_mem_take (hfront.subset hitem)))
  have hsize : ((h.envelope limits collection afterSequence).withItems selected (h.candidates afterSequence limit).length).size ≤
      maxPageBytes := by
    refine (size_le_envelope _ rfl rfl rfl selected _ ?_).trans ?_
    · show 0 ≤ (selected.getLast?.map Item.sequence).getD afterSequence ∧
        (selected.getLast?.map Item.sequence).getD afterSequence ≤ maxCursor
      cases hlast : selected.getLast? with
      | none => exact hcursor.1
      | some item => exact hselected item (List.mem_of_getLast? hlast)
    · by_cases hnone : selected = []
      · subst hnone
        simpa [itemsLength] using henvelope
      · have hbytes := hfits hnone
        have hlength := List.length_pos_iff.mpr hnone
        rw [Bool.toNat_false] at hbytes
        rw [itemsLength]
        omega
  rw [require_bind (not_lt.mpr hsize)]
  exact fun h => by cases h

end History

-- A client beside the service

/-- A history with all that was ever appended to it, and a client with its
cursor and the items of all its pages. -/
structure Paging where
  history : History := {}
  appended : List Item := []
  cursor : Int
  received : List Item := []
  gapSeen : Bool := false

def eventOf (message : String) (sequence : Int) : Json :=
  .obj [("schema", .str "robot-control-event/v1"), ("sequence", .int sequence), ("event_id", .str "robot-event-1"),
    ("occurred_at_unix_ms", .int 0), ("level", .str "info"), ("event_type", .str "robot.runtime_update"),
    ("message", .str message), ("episode_id", .null), ("state", .str "IDLE"), ("data", .obj [])]

inductive PagingInput where
  | record (make : Int → Except ControlError Json)
  | fetch (limit : Int)

namespace Paging

/-- The service records an item, if it can be made and is not too large. -/
def record (limits : HistoryLimits) (make : Int → Except ControlError Json) (s : Paging) : Except ControlError Unit × Paging :=
  let result := s.history.record limits make
  (result.1, { s with
    history := result.2
    appended := match result.1 with
      | .ok _ => s.appended ++ result.2.items.getLast?.toList
      | .error _ => s.appended })

/-- The client asks for a page from where its last one ended. -/
def fetch (limits : HistoryLimits) (collection : Collection) (limit : Int) (s : Paging) : Except ControlError Unit × Paging :=
  match s.history.page limits collection s.cursor limit with
  | .error e => (.error e, s)
  | .ok p => (.ok (), { s with
      cursor := p.nextAfterSequence
      received := s.received ++ p.items
      gapSeen := s.gapSeen || p.gap })

def machine (limits : HistoryLimits) (collection : Collection) : Machine Paging PagingInput (Except ControlError Unit) where
  step s input :=
    match input with
    | .record make => s.record limits make
    | .fetch limit => s.fetch limits collection limit

/-- What every run keeps: the history holds the end of what was appended, and
the client, while no gap was reported, all of it up to its cursor. -/
structure Follows (limits : HistoryLimits) (first : Int) (s : Paging) : Prop where
  sound : s.history.Sound limits
  retained : ∃ gone, s.appended = gone ++ s.history.items
  kept : s.history.items = [] → s.appended = []
  ascending : Ascending Item.sequence s.appended
  numbered : ∀ item ∈ s.appended, 1 ≤ item.sequence ∧ item.sequence ≤ s.history.sequence
  counted : (s.history.droppedTotal + s.history.items.length : Int) ≤ s.history.sequence
  started : first ≤ s.cursor
  known : s.cursor = first ∨ s.cursor ≤ s.history.sequence
  received : s.gapSeen = false → s.received = upTo Item.sequence first s.cursor s.appended

theorem follows_start (limits : HistoryLimits) (first : Int) : Follows limits first { cursor := first } where
  sound := .empty limits
  retained := ⟨[], rfl⟩
  kept := fun _ => rfl
  ascending := List.Pairwise.nil
  numbered := by simp
  counted := Int.le_refl _
  started := Int.le_refl _
  known := .inl rfl
  received := fun _ => rfl

theorem Follows.skip {limits : HistoryLimits} {first : Int} {s : Paging} (h : Follows limits first s) :
    Follows limits first { s with history := s.history.nextSequence } where
  sound := ⟨h.sound.measured, h.sound.bytes, h.sound.bytesLe, h.sound.lengthLe⟩
  retained := h.retained
  kept := h.kept
  ascending := h.ascending
  numbered item hitem := ⟨(h.numbered item hitem).1, (h.numbered item hitem).2.trans (Int.le_add_one (Int.le_refl _))⟩
  counted := h.counted.trans (Int.le_add_one (Int.le_refl _))
  started := h.started
  known := h.known.imp_right fun hle => hle.trans (Int.le_add_one (Int.le_refl _))
  received := h.received

theorem Follows.append {limits : HistoryLimits} {first : Int} {s : Paging} (h : Follows limits first s) {gone kept : List Entry}
    {h' : History} {item : Item} (hentries : s.history.entries = gone ++ kept)
    (hentries' : h'.entries = kept ++ [⟨item, item.size⟩]) (hsequence : h'.sequence = s.history.sequence + 1)
    (hitem : item.sequence = s.history.sequence + 1) (hdropped : h'.droppedTotal = s.history.droppedTotal + gone.length)
    (hsound : h'.Sound limits) : Follows limits first { s with history := h', appended := s.appended ++ [item] } where
  sound := hsound
  retained := by
    obtain ⟨older, holder⟩ := h.retained
    refine ⟨older ++ gone.map Entry.item, ?_⟩
    simp [holder, History.items, hentries, hentries']
  kept := by simp [History.items, hentries']
  ascending := by
    refine List.pairwise_append.mpr ⟨h.ascending, List.pairwise_singleton _ _, fun a ha b hb => ?_⟩
    rw [List.mem_singleton.mp hb, hitem]
    exact Int.lt_add_one_of_le (h.numbered a ha).2
  numbered a ha := by
    have hcounted := h.counted
    show 1 ≤ a.sequence ∧ a.sequence ≤ h'.sequence
    rw [hsequence]
    rcases List.mem_append.mp ha with ha | ha
    · have hnumbered := h.numbered a ha
      omega
    · rw [List.mem_singleton.mp ha, hitem]
      omega
  counted := by
    have hcounted := h.counted
    simp only [History.items, hentries, hentries', hdropped, hsequence, List.length_map, List.length_append, List.length_cons,
      List.length_nil] at hcounted ⊢
    omega
  started := h.started
  known := h.known.imp_right fun hle => hsequence ▸ hle.trans (Int.le_add_one (Int.le_refl _))
  received hgap := by
    have hnew : ∀ a ∈ [item], ¬ (first < a.sequence ∧ a.sequence ≤ s.cursor) := by
      intro a ha
      rw [List.mem_singleton.mp ha, hitem]
      have hstarted := h.started
      rcases h.known with heq | hle <;> omega
    have hnone : upTo Item.sequence first s.cursor [item] = [] := List.filter_eq_nil_iff.mpr fun a ha => by simpa using hnew a ha
    show s.received = upTo Item.sequence first s.cursor (s.appended ++ [item])
    rw [upTo_append, hnone, List.append_nil]
    exact h.received hgap

theorem Follows.record {limits : HistoryLimits} {first : Int} {s : Paging} (h : Follows limits first s)
    (make : Int → Except ControlError Json) : Follows limits first (s.record limits make).2 := by
  unfold Paging.record History.record
  cases hmake : make s.history.nextSequence.sequence with
  | error e => exact h.skip
  | ok value =>
    have hspec := History.append_spec h.skip.sound ⟨s.history.nextSequence.sequence, value⟩
    dsimp only at hspec ⊢
    obtain hlarge | ⟨gone, kept, h', happend, hentries, hentries', hsequence, hdropped, hsound⟩ := hspec
    · rw [hlarge]
      exact h.skip
    · have hlast : h'.items.getLast?.toList = [⟨s.history.nextSequence.sequence, value⟩] := by
        simp [History.items, hentries']
      rw [happend]
      dsimp only
      rw [hlast]
      exact h.append hentries hentries' hsequence rfl hdropped hsound

theorem Follows.after_retained {limits : HistoryLimits} {first : Int} {s : Paging} (h : Follows limits first s)
    (hgap : (s.history.items.head?.map Item.sequence).any (fun oldest => s.cursor < oldest - 1) = false) :
    after Item.sequence s.cursor s.appended = after Item.sequence s.cursor s.history.items := by
  obtain ⟨gone, hgone⟩ := h.retained
  cases hitems : s.history.items with
  | nil => rw [h.kept hitems]
  | cons oldest items =>
    rw [hitems] at hgap hgone
    rw [hgone]
    refine after_append fun a ha => ?_
    have hle : ¬ s.cursor < oldest.sequence - 1 := by simpa using hgap
    have hascending := h.ascending
    rw [hgone] at hascending
    have hlt := (List.pairwise_append.mp hascending).2.2 a ha oldest List.mem_cons_self
    omega

theorem Follows.fetch {limits : HistoryLimits} {first : Int} {s : Paging} (h : Follows limits first s) (collection : Collection)
    (limit : Int) : Follows limits first (s.fetch limits collection limit).2 := by
  unfold Paging.fetch
  cases hpage : s.history.page limits collection s.cursor limit with
  | error e => exact h
  | ok p =>
    have hserved := History.page_served hpage
    have hmem : ∀ item ∈ p.items, item ∈ s.appended := by
      obtain ⟨gone, hgone⟩ := h.retained
      intro item hitem
      rw [hgone]
      exact List.mem_append_right _ (List.mem_of_mem_filter (hserved.taken.subset hitem))
    have hretained : Ascending Item.sequence s.history.items := by
      obtain ⟨gone, hgone⟩ := h.retained
      exact (List.pairwise_append.mp (hgone ▸ h.ascending)).2.1
    have hle : s.cursor ≤ p.nextAfterSequence := by
      rw [hserved.cursor]
      exact (hretained.upTo_advance h.started hserved.taken).2
    have hknown : p.nextAfterSequence = first ∨ p.nextAfterSequence ≤ s.history.sequence := by
      rw [hserved.cursor, advance]
      cases hlast : p.items.getLast? with
      | none => exact h.known
      | some item => exact .inr (h.numbered item (hmem item (List.mem_of_getLast? hlast))).2
    refine { h with started := h.started.trans hle, known := hknown, received := fun hgap => ?_ }
    obtain ⟨hseen, hpage⟩ := Bool.or_eq_false_iff.mp hgap
    have htaken : p.items <+: after Item.sequence s.cursor s.appended := by
      rw [h.after_retained (hserved.gap ▸ hpage)]
      exact hserved.taken
    show s.received ++ p.items = upTo Item.sequence first p.nextAfterSequence s.appended
    rw [hserved.cursor, (h.ascending.upTo_advance h.started htaken).1, h.received hseen]

theorem runs_follow {limits : HistoryLimits} {collection : Collection} {first : Int} {h : List (PagingInput × Except ControlError Unit)}
    {s : Paging} (hr : (machine limits collection).Runs Machine.always { cursor := first } h s) : Follows limits first s := by
  refine hr.invariant (follows_start limits first) fun s input hs _ => ?_
  cases input with
  | record make => exact hs.record make
  | fetch limit => exact hs.fetch collection limit

/-- What is promised of the page that a client asks for in this state. -/
structure PagesOk (limits : HistoryLimits) (collection : Collection) (s : Paging) (limit : Int) : Prop where
  run : ∀ p, s.history.page limits collection s.cursor limit = .ok p →
    (∃ before rest, s.history.items = before ++ p.items ++ rest ∧ (∀ item ∈ before, item.sequence ≤ s.cursor) ∧
      ∀ item ∈ p.items ++ rest, s.cursor < item.sequence) ∧
    (p.items = [] → ∀ item ∈ s.history.items, item.sequence ≤ s.cursor) ∧ p.size ≤ maxPageBytes
  fits : s.history.page limits collection s.cursor limit ≠ .error pageTooLarge

theorem Follows.served {limits : HistoryLimits} {collection : Collection} {first limit : Int} {s : Paging} {p : RobotPage}
    (h : Follows limits first s) (hpage : s.history.page limits collection s.cursor limit = .ok p) :
    (∃ before rest, s.history.items = before ++ p.items ++ rest ∧ (∀ item ∈ before, item.sequence ≤ s.cursor) ∧
      ∀ item ∈ p.items ++ rest, s.cursor < item.sequence) ∧
    (p.items = [] → ∀ item ∈ s.history.items, item.sequence ≤ s.cursor) ∧ p.size ≤ maxPageBytes := by
  have hserved := History.page_served hpage
  obtain ⟨gone, hgone⟩ := h.retained
  have hretained : Ascending Item.sequence s.history.items := (List.pairwise_append.mp (hgone ▸ h.ascending)).2.1
  obtain ⟨before, hsplit, hbefore⟩ := hretained.splitAt s.cursor
  obtain ⟨rest, hrest⟩ := hserved.taken
  refine ⟨⟨before, rest, ?_, hbefore, ?_⟩, ?_, hserved.size⟩
  · rw [List.append_assoc, hrest]
    exact hsplit
  · rw [hrest]
    intro item hitem
    simpa [after] using (List.mem_filter.mp hitem).2
  · intro hnone item hitem
    have hempty := hserved.progress hnone
    rw [hsplit, hempty, List.append_nil] at hitem
    exact hbefore item hitem

/-- The property, in one state of a run that began with the cursor `first`. -/
structure Holds (limits : HistoryLimits) (collection : Collection) (first : Int) (s : Paging) : Prop where
  bytes : s.history.retainedBytes = (s.history.items.map Item.size).sum
  bytesLe : s.history.retainedBytes ≤ limits.byteCapacity
  lengthLe : s.history.items.length ≤ limits.capacity
  pages : ∀ limit, PagesOk limits collection s limit
  once : Ascending Item.sequence s.appended
  received : s.gapSeen = false → s.received = upTo Item.sequence first s.cursor s.appended

/-- Along every run of appends and pages the history keeps its bounds, every
page is the run of items behind the cursor and fits its bytes, and without a
gap the client has all the items up to its cursor, in order and each once, as
long as no number is longer than a cursor. -/
theorem runs_hold (limits : HistoryLimits) (collection : Collection) (first : Int)
    {h : List (PagingInput × Except ControlError Unit)} {s : Paging}
    (hr : (machine limits collection).Runs Machine.always { cursor := first } h s) (hnumbers : s.history.sequence ≤ maxCursor) :
    Holds limits collection first s := by
  have hf := runs_follow hr
  have hmem : ∀ item ∈ s.history.items, item ∈ s.appended := by
    obtain ⟨gone, hgone⟩ := hf.retained
    intro item hitem
    rw [hgone]
    exact List.mem_append_right _ hitem
  have hitems : ∀ item ∈ s.history.items, 0 ≤ item.sequence ∧ item.sequence ≤ maxCursor := fun item hitem =>
    ⟨(Int.le_add_one (Int.le_refl 0)).trans (hf.numbered item (hmem item hitem)).1,
      (hf.numbered item (hmem item hitem)).2.trans hnumbers⟩
  have hcounted := hf.counted
  constructor
  · exact hf.sound.bytes_items
  · exact hf.sound.bytesLe
  · simpa [History.items] using hf.sound.lengthLe
  · exact fun limit => ⟨fun p hpage => hf.served hpage, History.page_fits hf.sound hitems (by omega)⟩
  · exact hf.ascending
  · exact hf.received

def twoEvents : HistoryLimits := ⟨2, 128 * 1024, by decide, by decide⟩

/-- An event, an id that was lost, two more events, and pages between. -/
def twoEventInputs : List PagingInput :=
  [.record fun n => .ok (eventOf "first" n), .fetch 10, .record fun _ => .error (.raised "OSError"),
    .record fun n => .ok (eventOf "second" n), .record fun n => .ok (eventOf "third" n), .fetch 1, .fetch 10]

theorem runs_hold_events : Holds twoEvents .events 0 ((machine twoEvents .events).runList { cursor := 0 } twoEventInputs).2 :=
  runs_hold twoEvents .events 0 (Machine.runs_runList (Machine.stepsOk_always _ _ _)) (by decide +kernel)

end Paging

-- A number longer than a cursor

def oneEvent : HistoryLimits := ⟨1, 8 * 1024 * 1024, by decide, by decide⟩

def lostIds : Nat := 10 ^ 19 - 1

def longMessage : String := String.ofList (List.replicate 4193756 'a')

def longItem : Item := ⟨10 ^ 19, eventOf longMessage (10 ^ 19)⟩

/-- One event, which fills the room of a page, after all the ids that were lost. -/
def longHistory : History where
  entries := [⟨longItem, longItem.size⟩]
  retainedBytes := longItem.size
  sequence := 10 ^ 19

theorem byteLength_replicate (n : Nat) : Json.byteLength (.str (String.ofList (List.replicate n 'a'))) = n + 2 := by
  have hsame : Json.utf8Length ((List.replicate n 'a').flatMap Json.escaped) = n := by
    induction n with
    | zero => rfl
    | succ n ih =>
      have ha : Json.utf8Length (Json.escaped 'a') = 1 := by decide
      rw [List.replicate_succ, List.flatMap_cons, Json.utf8Length_append, ih, ha, Nat.add_comm]
  have hquote : Json.quote.utf8Size = 1 := rfl
  rw [Json.byteLength, Json.dumps, Json.quoted, Json.utf8Length_cons, Json.utf8Length_append, Json.utf8Length_cons,
    Json.utf8Length_nil, hquote, String.toList_ofList, hsame]
  omega

theorem longMessage_length : Json.byteLength (.str longMessage) = 4193758 := byteLength_replicate 4193756

theorem eventOf_length (message : String) (sequence : Int) :
    (eventOf message sequence).byteLength = 203 + Json.byteLength (.str message) + Json.byteLength (.int sequence) := by
  have hfixed : ([("schema", .str "robot-control-event/v1"), ("event_id", .str "robot-event-1"),
      ("occurred_at_unix_ms", .int 0), ("level", .str "info"), ("event_type", .str "robot.runtime_update"),
      ("episode_id", .null), ("state", .str "IDLE"), ("data", .obj [])].map Json.fieldLength).sum = 171 := by decide +kernel
  have hsequence : Json.utf8Length (Json.quoted "sequence") = 10 := by decide +kernel
  have hmessage : Json.utf8Length (Json.quoted "message") = 9 := by decide +kernel
  simp only [List.map_cons, List.map_nil, List.sum_cons, List.sum_nil] at hfixed
  rw [eventOf, Json.byteLength_obj]
  simp only [List.map_cons, List.map_nil, List.sum_cons, List.sum_nil, List.length_cons, List.length_nil]
  simp only [Json.fieldLength, hsequence, hmessage] at hfixed ⊢
  omega

theorem longItem_size : longItem.size = 4193981 := by
  have hsequence : Json.byteLength (.int (10 ^ 19)) = 20 := by decide +kernel
  rw [Item.size, longItem, eventOf_length, longMessage_length, hsequence]

theorem longHistory_envelope : longHistory.envelope oneEvent .events 0 =
    { collection := .events
      afterSequence := 0
      oldestSequence := some (10 ^ 19)
      newestSequence := 10 ^ 19
      nextAfterSequence := maxCursor
      gap := true
      droppedTotal := 0
      retainedBytes := 4193981
      byteCapacity := 8 * 1024 * 1024
      byteLimited := false
      items := [] } := by
  have hretained : longHistory.retainedBytes = 4193981 := longItem_size
  rw [History.envelope, hretained]
  rfl

theorem longHistory_page : longHistory.page oneEvent .events 0 1 = .error pageTooLarge := by
  have hsize : (longHistory.envelope oneEvent .events 0).size = 323 := by
    rw [longHistory_envelope]
    decide +kernel
  have hcandidates : longHistory.candidates 0 1 = [longItem] := rfl
  have hselected : selectPage ((maxPageBytes : Int) - (323 : Nat)) 0 false [longItem] = [longItem] := by
    obtain ⟨_, hno⟩ | ⟨htaken, _⟩ := selectPage_cons ((maxPageBytes : Int) - (323 : Nat)) 0 false longItem []
    · rw [longItem_size] at hno
      exact absurd hno (by decide)
    · exact htaken
  have hnumber : Json.byteLength (.int longItem.sequence) = 20 := by decide +kernel
  have hcursor : Json.byteLength (.int maxCursor) = 19 := by decide +kernel
  have hpage := size_withItems (longHistory.envelope oneEvent .events 0) rfl rfl rfl [longItem] 1
  have hnext : ((longHistory.envelope oneEvent .events 0).withItems [longItem] 1).nextAfterSequence = longItem.sequence := rfl
  have hflag : ((longHistory.envelope oneEvent .events 0).withItems [longItem] 1).byteLimited = false := rfl
  have hitems : itemsLength [longItem] = 4193981 := by
    rw [itemsLength, List.map_cons, List.map_nil, List.sum_cons, List.sum_nil, longItem_size]
    rfl
  rw [hsize, hcursor, hnext, hflag, hnumber, hitems] at hpage
  have hlarge : ¬ ¬ ((longHistory.envelope oneEvent .events 0).withItems [longItem] 1).size > maxPageBytes := by
    rw [maxPageBytes]
    omega
  rw [History.page, require_bind (by decide)]
  dsimp only
  rw [hsize, hcandidates, hselected, require_bind (by simp), List.length_singleton, require_neg hlarge]
  rfl

namespace Paging

theorem runs_lost (limits : HistoryLimits) (collection : Collection) (n : Nat) :
    ∃ h, (machine limits collection).Runs Machine.always { cursor := 0 } h
      { cursor := 0, history := { sequence := n } } := by
  induction n with
  | zero => exact ⟨[], .nil⟩
  | succ n ih =>
    obtain ⟨h, hr⟩ := ih
    have hnext := hr.cons (i := .record fun _ => .error (.raised "OSError")) trivial
    exact ⟨_, hnext⟩

theorem runs_long : ∃ h, (machine oneEvent .events).Runs Machine.always { cursor := 0 } h
    { cursor := 0, history := longHistory, appended := [longItem] } := by
  obtain ⟨h, hr⟩ := runs_lost oneEvent .events lostIds
  have hnext := hr.cons (i := .record fun n => .ok (eventOf longMessage n)) trivial
  have hfits : ¬ longItem.size > oneEvent.byteCapacity := by
    rw [longItem_size]
    decide
  have hnumber : (lostIds : Int) + 1 = 10 ^ 19 := by decide
  have hrecord : History.record oneEvent (fun n => .ok (eventOf longMessage n)) { sequence := lostIds } = (.ok (), longHistory) := by
    have hitem : longItem = ⟨10 ^ 19, eventOf longMessage (10 ^ 19)⟩ := rfl
    unfold History.record
    simp only [History.nextSequence, hnumber, ← hitem, History.append, if_neg hfits, History.evict, List.nil_append, Nat.zero_add,
      longHistory]
  have hstep : ((machine oneEvent .events).step { cursor := 0, history := { sequence := lostIds } }
      (.record fun n => .ok (eventOf longMessage n))).2 = { cursor := 0, history := longHistory, appended := [longItem] } := by
    simp only [machine, Paging.record, hrecord, List.nil_append]
    rfl
  rw [hstep] at hnext
  exact ⟨_, hnext⟩

/-- The number of an item may be longer than the cursor that room is kept for,
and the page is then too large. -/
theorem overlong_number : ¬ ∀ (limits : HistoryLimits) (collection : Collection) (first : Int)
    (h : List (PagingInput × Except ControlError Unit)) (s : Paging),
    (machine limits collection).Runs Machine.always { cursor := first } h s → Holds limits collection first s := by
  intro hall
  obtain ⟨h, hr⟩ := runs_long
  exact ((hall oneEvent .events 0 h _ hr).pages 1).fits longHistory_page

end Paging

end RobotLlm.Control
