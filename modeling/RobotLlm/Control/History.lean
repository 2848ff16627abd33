import RobotLlm.Lib.Check
import RobotLlm.Lib.JsonText

/-!
# The bounded histories of robot control

Events and snapshots are numbered and kept in two histories, each bounded by
a count and by the bytes of its items as JSON. A page of a history is bounded
by its own bytes, with room kept for the longest cursor.
-/

namespace RobotLlm.Control

open RobotLlm.Lib

-- Errors

/-- `RobotControlServiceError`, or what something else raised. -/
inductive ControlError where
  | service (status : Nat) (code message : String)
  | raised (type : String)
deriving DecidableEq

def itemTooLarge : ControlError :=
  .service 500 "robot_history_item_too_large" "Robot history item exceeds its bounded byte capacity"

def pageItemTooLarge : ControlError :=
  .service 500 "robot_history_item_too_large" "Robot history item exceeds the HTTP page byte capacity"

def pageTooLarge : ControlError :=
  .service 500 "robot_history_page_too_large" "Robot history page exceeds its bounded byte capacity"

def invalidCursor : ControlError :=
  .service 400 "invalid_robot_cursor" "Robot event cursor or limit is invalid"

-- A history

/-- An item as it is served, with the `sequence` it holds. -/
structure Item where
  sequence : Int
  value : Json

/-- `_json_size`. -/
def Item.size (item : Item) : Nat := item.value.byteLength

/-- The bounds that the constructor of the service accepts. -/
structure HistoryLimits where
  capacity : Nat
  byteCapacity : Nat
  capacityOk : 1 ≤ capacity ∧ capacity ≤ 10000
  byteCapacityOk : 128 * 1024 ≤ byteCapacity ∧ byteCapacity ≤ 256 * 1024 * 1024

/-- An item that is retained, with the size it was measured at. -/
structure Entry where
  item : Item
  size : Nat

/-- The items and their sizes, the oldest first, and the counters beside them. -/
structure History where
  entries : List Entry := []
  retainedBytes : Nat := 0
  sequence : Int := 0
  droppedTotal : Nat := 0

namespace History

def items (h : History) : List Item := h.entries.map Entry.item

/-- The loop that makes room for `size` bytes: what stays, its bytes and the
number of items dropped so far. -/
def evict (limits : HistoryLimits) (size : Nat) : List Entry → (retainedBytes droppedTotal : Nat) → List Entry × Nat × Nat
  | [], retainedBytes, droppedTotal => ([], retainedBytes, droppedTotal)
  | entry :: entries, retainedBytes, droppedTotal =>
    if (entry :: entries).length ≥ limits.capacity ∨ retainedBytes + size > limits.byteCapacity then
      evict limits size entries (retainedBytes - entry.size) (droppedTotal + 1)
    else (entry :: entries, retainedBytes, droppedTotal)

/-- `_append_bounded`. -/
def append (limits : HistoryLimits) (item : Item) (h : History) : Except ControlError Unit × History :=
  if item.size > limits.byteCapacity then (.error itemTooLarge, h)
  else
    let kept := evict limits item.size h.entries h.retainedBytes h.droppedTotal
    (.ok (), { h with
      entries := kept.1 ++ [⟨item, item.size⟩]
      retainedBytes := kept.2.1 + item.size
      droppedTotal := kept.2.2 })

/-- The number of the next item is taken before anything is known of it. -/
def nextSequence (h : History) : History := { h with sequence := h.sequence + 1 }

/-- One item is numbered, made, and appended if it could be made. -/
def record (limits : HistoryLimits) (make : Int → Except ControlError Json) (h : History) :
    Except ControlError Unit × History :=
  match make h.nextSequence.sequence with
  | .error e => (.error e, h.nextSequence)
  | .ok value => h.nextSequence.append limits ⟨h.nextSequence.sequence, value⟩

end History

-- Pages

inductive Collection where
  | events
  | snapshots
deriving DecidableEq

def Collection.schema : Collection → String
  | .events => "robot-control-event-page/v1"
  | .snapshots => "robot-control-snapshot-page/v1"

def Collection.name : Collection → String
  | .events => "events"
  | .snapshots => "snapshots"

/-- `MAX_ROBOT_PAGE_RESPONSE_BYTES`. -/
def maxPageBytes : Nat := 4 * 1024 * 1024

def maxCursor : Int := 2 ^ 63 - 1

structure RobotPage where
  collection : Collection
  afterSequence : Int
  oldestSequence : Option Int
  newestSequence : Int
  nextAfterSequence : Int
  gap : Bool
  droppedTotal : Nat
  retainedBytes : Nat
  byteCapacity : Nat
  byteLimited : Bool
  items : List Item

def RobotPage.toJson (page : RobotPage) : Json :=
  .obj [("schema", .str page.collection.schema),
    ("after_sequence", .int page.afterSequence),
    ("oldest_sequence", Json.ofOpt .int page.oldestSequence),
    ("newest_sequence", .int page.newestSequence),
    ("next_after_sequence", .int page.nextAfterSequence),
    ("gap", .bool page.gap),
    ("dropped_total", .int page.droppedTotal),
    ("retained_bytes", .int page.retainedBytes),
    ("byte_capacity", .int page.byteCapacity),
    ("response_byte_capacity", .int maxPageBytes),
    ("byte_limited", .bool page.byteLimited),
    (page.collection.name, .arr (page.items.map Item.value))]

def RobotPage.size (page : RobotPage) : Nat := page.toJson.byteLength

/-- The envelope with the items that were selected of `candidates`, and where the
next page begins. -/
def RobotPage.withItems (envelope : RobotPage) (selected : List Item) (candidates : Nat) : RobotPage :=
  { envelope with
    nextAfterSequence := (selected.getLast?.map Item.sequence).getD envelope.afterSequence
    byteLimited := selected.length < candidates
    items := selected }

/-- The candidates that fit, from the front, after `selectedBytes` are taken. -/
def selectPage (remainingBytes : Int) (selectedBytes : Nat) (any : Bool) : List Item → List Item
  | [] => []
  | candidate :: candidates =>
    let increment := candidate.size + if any then 1 else 0
    if ((selectedBytes + increment : Nat) : Int) > remainingBytes then []
    else candidate :: selectPage remainingBytes (selectedBytes + increment) true candidates

namespace History

/-- The envelope with no item, and the longest cursor. -/
def envelope (limits : HistoryLimits) (collection : Collection) (afterSequence : Int) (h : History) : RobotPage :=
  let oldest := h.items.head?.map Item.sequence
  { collection := collection
    afterSequence := afterSequence
    oldestSequence := oldest
    newestSequence := (h.items.getLast?.map Item.sequence).getD 0
    nextAfterSequence := maxCursor
    gap := oldest.any fun oldest => afterSequence < oldest - 1
    droppedTotal := h.droppedTotal
    retainedBytes := h.retainedBytes
    byteCapacity := limits.byteCapacity
    byteLimited := false
    items := [] }

def candidates (afterSequence limit : Int) (h : History) : List Item :=
  (h.items.filter fun item => afterSequence < item.sequence).take limit.toNat

def page (limits : HistoryLimits) (collection : Collection) (afterSequence limit : Int) (h : History) :
    Except ControlError RobotPage := do
  require ((0 ≤ afterSequence ∧ afterSequence ≤ maxCursor) ∧ 1 ≤ limit ∧ limit ≤ 500) invalidCursor
  let envelope := h.envelope limits collection afterSequence
  let candidates := h.candidates afterSequence limit
  let selected := selectPage ((maxPageBytes : Int) - envelope.size) 0 false candidates
  require (¬ (candidates ≠ [] ∧ selected = [])) pageItemTooLarge
  let page := envelope.withItems selected candidates.length
  require (¬ page.size > maxPageBytes) pageTooLarge
  return page

end History

end RobotLlm.Control
