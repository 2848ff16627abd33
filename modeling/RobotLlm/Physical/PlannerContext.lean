import Mathlib.Data.Prod.Lex
import RobotLlm.Lib.Check
import RobotLlm.Lib.JsonText

/-!
# The navigation facts that a planner is shown

The full state may be larger than a model can read. Every hazard stays, with a
summary of its scans; the scans themselves are shown for hazards in focus, and
the oldest go first where there is no room.
-/

namespace RobotLlm.Physical.PlannerContext

open RobotLlm.Lib
open RobotLlm.Lib.Json (setField byteLength)

abbrev Fields := List (String × Json)

inductive ContextError where
  /-- `PhysicalPlannerContextError`. -/
  | context (message : String)
  /-- An error of Python itself. -/
  | python (name : String)
deriving DecidableEq

/-- What is left to the host: digests, and numbers that are not integers. -/
structure Host where
  /-- `hashlib.sha256(json_bytes(value)).hexdigest()`. -/
  sha256 : Json → String
  /-- `count + value`, for a float. -/
  plusFloat : Nat → String → String
  /-- `first > second`, if one of them is a float. -/
  greaterFloat : Json → Json → Bool
  /-- `first == second`, if one of them is a float. -/
  equalFloat : Json → Json → Bool

def scanHistoryField : String := "scan_evidence_history"
def scanSummaryField : String := "scan_evidence_summary"
def hazardsField : String := "navigation_hazard_hypotheses"
def projectionField : String := "planner_context_projection"
def exceededField : String := "target_budget_exceeded_due_to_mandatory_facts"
def reductionBlockedField : String := "experience_target_reduction_blocked_by_mandatory_facts"
def plannerProjectionSchema : String := "robot-physical-planner-projection/v1"
def compactRouteScanDetailName : String := "COMPACT_CURRENT_POSE_ROUTE_FACTS"
def maxPlannerExperienceBytes : Int := 24 * 1024
def fullDetailFocusReasons : List String :=
  ["ACTIVE_COMMITMENT", "LATEST_TOOL_TARGET", "LATEST_SCAN_TARGET", "CURRENT_POSE_ROUTE_EVIDENCE"]
def currentPoseRouteEvidence : String := "CURRENT_POSE_ROUTE_EVIDENCE"

def get (fields : Fields) (name : String) : Json := (fields.lookup name).getD .null

def objectOf (message : String) : Json → Except ContextError Fields
  | .obj fields => .ok fields
  | _ => .error (.context message)

/-- `sorted(texts)`. -/
def sortedTexts (texts : List String) : List String := texts.insertionSort fun a b => a ≤ b

/-- `sorted(set(texts))`. -/
def sortedSet (texts : List String) : List String := sortedTexts texts.dedup

def texts (names : List String) : Json := .arr (names.map .str)

def count (n : Nat) : Json := .int n

-- Summaries of scans

def classification : Json → Except ContextError String
  | .str text => if text = "" then .error (.context "scan evidence classification is invalid") else .ok text
  | _ => .error (.context "scan evidence classification is invalid")

def stringCounts (values : List Json) : Except ContextError Json := do
  let names ← values.mapM classification
  .ok (.obj ((sortedSet names).map fun name => (name, count (names.count name))))

/-- `item.get("rays", [])`, which has to be a list. -/
def raysOf (item : Fields) : Except ContextError (List Json) :=
  match item.lookup "rays" with
  | none => .ok []
  | some (.arr rays) => .ok rays
  | some _ => .error (.context "scan evidence rays are invalid")

def scanIdOf (item : Fields) : Except ContextError String :=
  match get item "scan_id" with
  | .str scanId => if scanId = "" then .error (.context "scan evidence identity is invalid") else .ok scanId
  | _ => .error (.context "scan evidence identity is invalid")

def intOrNull (value : Option Int) : Json := Json.ofOpt .int value

def scanSummary (history : List Json) (detailedCount : Nat) : Except ContextError Fields := do
  let items ← history.mapM (objectOf "scan evidence history is invalid")
  if history.length < detailedCount then .error (.context "scan detail count is invalid")
  else do
    let completed := items.filterMap fun item => Json.toInt? (item.lookup "completed_at_ms")
    let rayLists ← items.mapM raysOf
    let rays ← rayLists.flatten.mapM (objectOf "scan evidence ray is invalid")
    let scanIds ← items.mapM scanIdOf
    let poses := items.filterMap fun item =>
      match get item "scan_pose" with
      | .null => none
      | pose => some pose.dumps
    let status ← stringCounts (items.map (get · "status"))
    let observationPattern ← stringCounts (items.map (get · "observation_pattern"))
    let arcCoverage ← stringCounts (items.map (get · "arc_coverage"))
    let boundaryCoverage ← stringCounts (items.map (get · "boundary_coverage"))
    let hypothesisRelation ← stringCounts (items.map (get · "hypothesis_relation"))
    .ok [
      ("attempt_counts", .obj [("retained", count history.length), ("projected_detail", count detailedCount),
        ("omitted_detail", count (history.length - detailedCount))]),
      ("scan_ids", texts scanIds),
      ("completed_at_ms", .obj [("first", intOrNull completed.min?), ("latest", intOrNull completed.max?)]),
      ("categorical_counts", .obj [("status", status), ("observation_pattern", observationPattern), ("arc_coverage", arcCoverage),
        ("boundary_coverage", boundaryCoverage), ("hypothesis_relation", hypothesisRelation)]),
      ("ray_counts", .obj [("total", count rays.length),
        ("blocked", count (rays.countP fun ray => Json.IsTrue (ray.lookup "blocked"))),
        ("clear", count (rays.countP fun ray => Json.IsFalse (ray.lookup "blocked")))]),
      ("pose_counts", .obj [("verified", count poses.dedup.length), ("missing", count (items.length - poses.length))])]

/-- `first > second`, or nothing if they are equal. -/
def greater (host : Host) (first second : Json) : Except ContextError (Option Bool) :=
  match first, second with
  | .null, .null => .ok none
  | .str first, .str second => .ok (if first = second then none else some (second < first))
  | .int first, .int second => .ok (if first = second then none else some (second < first))
  | .bool first, .int second => .ok (if first.toInt = second then none else some (second < first.toInt))
  | .int first, .bool second => .ok (if first = second.toInt then none else some (second.toInt < first))
  | .bool first, .bool second => .ok (if first = second then none else some (second < first))
  | .float _, .float _ | .float _, .int _ | .int _, .float _ | .float _, .bool _ | .bool _, .float _ =>
    .ok (if host.greaterFloat first second then some true else if host.greaterFloat second first then some false else none)
  | _, _ => .error (.python "TypeError")

/-- `key(item) > key(best)`, by time and then by id. -/
def later (host : Host) (item best : Fields) : Except ContextError Bool := do
  let byTime ← greater host ((item.lookup "completed_at_ms").getD (.int (-1))) ((best.lookup "completed_at_ms").getD (.int (-1)))
  match byTime with
  | some answer => .ok answer
  | none => do
    let byId ← greater host ((item.lookup "scan_id").getD (.str "")) ((best.lookup "scan_id").getD (.str ""))
    .ok (byId.getD false)

/-- `max(items, key=.., default=None)`, the first of the latest. -/
def latestOf (host : Host) : List Fields → Except ContextError (Option Fields)
  | [] => .ok none
  | item :: items => do
    let best ← items.foldlM (fun best item => do if ← later host item best then .ok item else .ok best) item
    .ok (some best)

def compactScanLatestFields : List String :=
  ["scan_id", "completed_at_ms", "status", "observation_pattern", "arc_coverage", "boundary_coverage", "hypothesis_relation"]

/-- `len(history) + count`. -/
def plusCount (host : Host) (n : Nat) : Json → Except ContextError Json
  | .int k => .ok (.int (n + k))
  | .bool b => .ok (.int (n + b.toInt))
  | .float text => .ok (.float (host.plusFloat n text))
  | _ => .error (.python "TypeError")

def compactScanSummary (host : Host) (history : List Json) (evictedCount evictionReason : Json) : Except ContextError Fields := do
  let _ ← scanSummary history 0
  let items ← history.mapM (objectOf "scan evidence history is invalid")
  let latest ← latestOf host items
  let latestFacts : Json :=
    match latest with
    | none => .null
    | some item => .arr (compactScanLatestFields.map (get item))
  let total ← plusCount host history.length evictedCount
  let value : Fields :=
    [("retained_attempt_count", count history.length), ("persisted_evicted_attempt_count", evictedCount),
      ("total_known_attempt_count", total), ("latest_retained_attempt_values", latestFacts)]
  .ok (match evictionReason with
    | .null => value
    | reason => setField "persisted_eviction_reason" reason value)

-- The experience ledger

def listOf (message : String) (value : Option Json) : Except ContextError (List Json) :=
  match value with
  | none => .ok []
  | some (.arr items) => .ok items
  | some _ => .error (.context message)

/-- A rollup without its distribution, and the distribution. -/
def rollupOf (value : Json) : Except ContextError (Fields × Json) := do
  let rollup ← objectOf "experience rollup is invalid" value
  let distribution ← listOf "experience rollup is invalid" (rollup.lookup "outcome_distribution")
  let bucketCount := (rollup.lookup "outcome_bucket_count").getD (count distribution.length)
  let attemptCount := (rollup.lookup "attempt_count").getD (.int 0)
  .ok (setField "outcome_distribution" (.arr []) (setField "outcome_attempt_omitted_count" attemptCount
      (setField "outcome_attempt_retained_count" (.int 0) (setField "outcome_bucket_omitted_count" bucketCount
        (setField "outcome_bucket_retained_count" (.int 0) rollup)))),
    .obj [("action", get rollup "action"), ("outcome_distribution", .arr distribution)])

/-- The ledger with these entries, and what `refresh_metadata` says of it. -/
def ledgerWith (host : Host) (base : Fields) (targetBytes : Int) (sourceCount : Nat) (distributions omitted entries : List Json)
    (exceeded : Bool) : Fields :=
  let metadata : Fields :=
    [("target_bytes", .int targetBytes), ("source_detailed_entry_count", count sourceCount),
      ("projected_detailed_entry_count", count entries.length), ("omitted_detailed_entry_count", .int (sourceCount - entries.length)),
      ("outcome_distributions_omitted", .bool true),
      ("omitted_detail_sha256", .str (host.sha256 (.obj [("entries", .arr omitted), ("outcome_distributions", .arr distributions)]))),
      ("host_ranked_or_selected_action", .bool false)]
  let metadata := if exceeded then setField exceededField (.bool true) metadata else metadata
  setField "planner_projection" (.obj metadata) (setField "entries" (.arr entries) base)

/-- Entries are left out from the oldest on, until the ledger fits. -/
def shrinkLedger (host : Host) (base : Fields) (targetBytes : Int) (sourceCount : Nat) (distributions : List Json) :
    List Json → List Json → Fields
  | omitted, [] =>
    let ledger := ledgerWith host base targetBytes sourceCount distributions omitted [] false
    if targetBytes < byteLength (.obj ledger) then ledgerWith host base targetBytes sourceCount distributions omitted [] true else ledger
  | omitted, entry :: entries =>
    let ledger := ledgerWith host base targetBytes sourceCount distributions omitted (entry :: entries) false
    if targetBytes < byteLength (.obj ledger) then
      shrinkLedger host base targetBytes sourceCount distributions (omitted ++ [entry]) entries
    else ledger

def projectExperienceLedger (host : Host) (value : Json) (targetBytes : Int) : Except ContextError Fields := do
  let ledger ← objectOf "experience ledger is invalid" value
  let entries ← listOf "experience ledger is invalid" (ledger.lookup "entries")
  let rollups ← listOf "experience ledger is invalid" (ledger.lookup "current_basis_action_rollups")
  let projected ← rollups.mapM rollupOf
  let base :=
    match ledger.lookup "current_basis_action_rollups" with
    | none => ledger
    | some _ => setField "current_basis_action_rollups" (.arr (projected.map fun rollup => .obj rollup.1)) ledger
  -- Without entries there is no key to count them by.
  match ledger.lookup "entries" with
  | none => .error (.python "KeyError")
  | some _ => .ok (shrinkLedger host base targetBytes entries.length (projected.map Prod.snd) [] entries)

-- Compact scans

/-- `_bearing_range`: how many, the least and the greatest. -/
def bearingRange (rays : List Fields) (blocked : Bool) : List Json :=
  let values := rays.filterMap fun ray =>
    match get ray "blocked" with
    | .bool value => if value = blocked then Json.toInt? (ray.lookup "actual_relative_bearing_mdeg") else none
    | _ => none
  [count values.length, intOrNull values.min?, intOrNull values.max?]

def compactRouteScanValueFields : List String :=
  ["completed_at_ms", "status", "bearing_convention", "observation_pattern", "arc_coverage", "boundary_coverage", "hypothesis_relation",
    "left_boundary_mdeg", "right_boundary_mdeg", "scan_pose", "based_on_map_version"]

def compactRouteScanDetail (attempt : Fields) : Except ContextError Fields := do
  let values ← raysOf attempt
  let rays ← values.mapM (objectOf "scan evidence rays are invalid")
  .ok [("detail_projection", .str compactRouteScanDetailName), ("scan_id", get attempt "scan_id"),
    ("values", .arr (compactRouteScanValueFields.map (get attempt))),
    ("ray_fact_values", .arr (count rays.length :: (bearingRange rays true ++ bearingRange rays false)))]

-- The hazards in focus

/-- `add(value, reason)`: a hazard id, and why it is referenced. -/
def reference (reason : String) : Json → List (String × String)
  | .str id => if id = "" then [] else [(id, reason)]
  | _ => []

def objectsIn (value : Json) : List Fields :=
  match value with
  | .arr items => items.filterMap fun item =>
    match item with
    | .obj fields => some fields
    | _ => none
  | _ => []

/-- The ids that are named under `hazard_ids` and `monotonic_escape_hazard_ids`. -/
def feasibilityReferences (value : Fields) : List (String × String) :=
  ["hazard_ids", "monotonic_escape_hazard_ids"].flatMap fun name =>
    match get value name with
    | .arr ids => ids.flatMap (reference "ACTION_FEASIBILITY_REFERENCE")
    | _ => []

/-- The feasibility of the motions, and of the scan. -/
def feasibilityValues (navigation : Fields) : List Fields :=
  match get navigation "action_feasibility" with
  | .obj feasibility =>
    (match get feasibility "motion_actions" with
      | .obj motions => objectsIn (.arr (motions.map Prod.snd))
      | _ => []) ++ objectsIn (.arr [get feasibility "active_scan"])
  | _ => []

/-- `route_evidence.applicable_scan_ids`, if it is a list. -/
def applicableScanIds (hazard : Fields) : List Json :=
  match get hazard "route_evidence" with
  | .obj route =>
    match get route "applicable_scan_ids" with
    | .arr ids => ids
    | _ => []
  | _ => []

def references (navigation maneuverState : Fields) (lastToolResult : Json) : List (String × String) :=
  (match get maneuverState "active" with
    | .obj active => reference "ACTIVE_COMMITMENT" (get active "target_hypothesis_id")
    | _ => []) ++
  (match get navigation "goal_geometry" with
    | .obj geometry => (objectsIn (get geometry "conflicts")).flatMap fun conflict =>
      reference "GOAL_GEOMETRY_CONFLICT" (get conflict "hypothesis_id")
    | _ => []) ++
  (feasibilityValues navigation).flatMap feasibilityReferences ++
  (match lastToolResult with
    | .obj result =>
      reference "LATEST_TOOL_TARGET" (get result "target_hypothesis_id") ++
        reference "LATEST_TOOL_TARGET" (get result "perception_target_hypothesis_id") ++
        (match get result "scan" with
          | .obj scan => reference "LATEST_SCAN_TARGET" (get scan "target_hypothesis_id")
          | _ => [])
    | _ => []) ++
  (objectsIn (get navigation hazardsField)).flatMap fun hazard =>
    if (applicableScanIds hazard).isEmpty then [] else reference currentPoseRouteEvidence (get hazard "hypothesis_id")

/-- `_typed_hazard_references`: each id with its reasons. -/
def typedHazardReferences (navigation maneuverState : Fields) (lastToolResult : Json) : List (String × List String) :=
  let found := references navigation maneuverState lastToolResult
  (sortedSet (found.map Prod.fst)).map fun id => (id, sortedSet ((found.filter (·.1 = id)).map Prod.snd))

/-- Which hazards are referenced, and which of them are shown in detail. -/
structure Focus where
  referenceReasons : List (String × List String)
  detailFocusReasons : List (String × List String)
  unresolvedFocusIds : List String

def Focus.of (referenced : List (String × List String)) (knownIds : List String) : Focus :=
  let referenceReasons := referenced.filter fun entry => knownIds.contains entry.1
  { referenceReasons
    detailFocusReasons := (referenceReasons.map fun entry => (entry.1, entry.2.filter fullDetailFocusReasons.contains)).filter
      fun entry => !entry.2.isEmpty
    unresolvedFocusIds := (referenced.map Prod.fst).filter fun id => !knownIds.contains id }

def Focus.detailed (focus : Focus) (id : String) : Bool := (focus.detailFocusReasons.lookup id).isSome

/-- It is in focus for more than its route: `raw_detail_focus_ids`. -/
def Focus.raw (focus : Focus) (id : String) : Bool :=
  (focus.detailFocusReasons.lookup id).any fun reasons => reasons.any (· != currentPoseRouteEvidence)

-- The projection and its metadata

/-- A hazard while it is projected: as it was given, its attempts, which of them
are shown, and their summary. -/
structure Hazard where
  id : String
  given : Fields
  history : List Json
  shown : List Json
  summary : Fields

def Hazard.toFields (hazard : Hazard) : Fields :=
  setField scanSummaryField (.obj hazard.summary) (setField scanHistoryField (.arr hazard.shown) hazard.given)

/-- `projected`: the hazards, the metadata and the rest. -/
structure Projected where
  base : Fields
  hazards : List Hazard
  metadata : Fields

def Projected.toFields (projected : Projected) : Fields :=
  setField projectionField (.obj projected.metadata)
    (setField hazardsField (.arr (projected.hazards.map fun hazard => .obj hazard.toFields)) projected.base)

/-- `len(json_bytes(projected))`. -/
def Projected.size (projected : Projected) : Nat := byteLength (.obj projected.toFields)

/-- `item.get(..)` of what may not be a mapping. -/
def attempt : Json → Except ContextError Fields
  | .obj fields => .ok fields
  | _ => .error (.python "AttributeError")

def attemptFields : Json → Fields
  | .obj fields => fields
  | _ => []

/-- `item["scan_id"]`. -/
def scanId (item : Json) : Json := get (attemptFields item) "scan_id"

def isCompact (item : Json) : Bool := Json.IsStr compactRouteScanDetailName ((attemptFields item).lookup "detail_projection")

/-- `scan_evidence_summary` of one hazard. -/
def summaryOf (host : Host) (focus : Focus) (hazard : Hazard) : Except ContextError Fields := do
  let _ ← hazard.shown.mapM attempt
  let evicted := (hazard.given.lookup "scan_attempts_evicted").getD (.int 0)
  let reason := get hazard.given "scan_attempts_eviction_reason"
  if focus.raw hazard.id then do
    let summary ← scanSummary hazard.history hazard.shown.length
    let known ← plusCount host hazard.history.length evicted
    let counts := setField "total_known" known (setField "persisted_evicted" evicted (attemptFields (get summary "attempt_counts")))
    let summary := setField "attempt_counts" (.obj counts) summary
    .ok (match reason with
      | .null => summary
      | reason => setField "persisted_eviction_reason" reason summary)
  else do
    let summary ← compactScanSummary host hazard.history evicted reason
    .ok (if focus.detailed hazard.id then setField "scan_ids" (.arr (hazard.history.map scanId)) summary else summary)

def compactRouteScanRayFactFields : List String :=
  ["ray_count", "blocked_count", "blocked_minimum_actual_relative_bearing_mdeg", "blocked_maximum_actual_relative_bearing_mdeg",
    "clear_count", "clear_minimum_actual_relative_bearing_mdeg", "clear_maximum_actual_relative_bearing_mdeg"]

/-- The attempts that were supplied, shown, and shown in compact form. -/
def suppliedCount (hazards : List Hazard) : Nat := (hazards.map fun hazard => hazard.history.length).sum
def shownCount (hazards : List Hazard) : Nat := (hazards.map fun hazard => hazard.shown.length).sum
def compactCount (hazards : List Hazard) : Nat := (hazards.map fun hazard => hazard.shown.countP isCompact).sum

def omittedDetail (hazards : List Hazard) : Json :=
  .arr (((hazards.insertionSort fun a b => a.id ≤ b.id).filter fun hazard => hazard.shown.isEmpty).map fun hazard =>
    .obj [("hypothesis_id", .str hazard.id), ("history", .arr hazard.history)])

def reasonsJson (reasons : List (String × List String)) : Json := .obj (reasons.map fun entry => (entry.1, texts entry.2))

def metadataOf (host : Host) (focus : Focus) (target hard : Int) (hazards : List Hazard) : Fields :=
  [("schema", .str plannerProjectionSchema), ("host_ranked_or_selected_action", .bool false), ("hazard_count", count hazards.length),
    ("all_hazard_ids_preserved", .bool true), ("referenced_hypothesis_ids", texts (focus.referenceReasons.map Prod.fst)),
    ("focused_hypothesis_ids", texts (focus.detailFocusReasons.map Prod.fst)),
    ("focus_reasons_by_hypothesis_id", reasonsJson focus.detailFocusReasons),
    ("reference_reasons_by_hypothesis_id", reasonsJson focus.referenceReasons),
    ("unresolved_focused_hypothesis_ids", texts focus.unresolvedFocusIds), ("scan_attempt_count", count (suppliedCount hazards)),
    ("scan_detail_retained_count", count (shownCount hazards)),
    ("scan_full_detail_retained_count", .int (shownCount hazards - compactCount hazards)),
    ("scan_compact_detail_retained_count", count (compactCount hazards)),
    ("scan_detail_omitted_count", .int (suppliedCount hazards - shownCount hazards)),
    ("compact_scan_latest_fields", texts compactScanLatestFields), ("compact_route_scan_value_fields", texts compactRouteScanValueFields),
    ("compact_route_scan_ray_fact_fields", texts compactRouteScanRayFactFields),
    ("omitted_scan_detail_sha256", .str (host.sha256 (omittedDetail hazards))), ("target_budget_bytes", .int target),
    ("hard_budget_bytes", .int hard), (exceededField, .bool false)]

def refreshProjectionMetadata (host : Host) (focus : Focus) (target hard : Int) (projected : Projected) : Except ContextError Projected := do
  let hazards ← projected.hazards.mapM fun hazard => do
    let summary ← summaryOf host focus hazard
    .ok { hazard with summary }
  .ok { projected with hazards, metadata := metadataOf host focus target hard hazards }

-- What is shown at first

def hashable : Json → Except ContextError Json
  | .arr _ | .obj _ => .error (.python "TypeError")
  | value => .ok value

/-- `first == second`, of hashable values. -/
def same (host : Host) : Json → Json → Bool
  | .str first, .str second => first = second
  | .str _, _ | _, .str _ => false
  | .null, .null => true
  | .null, _ | _, .null => false
  | .int first, .int second => first = second
  | .bool first, .int second => first.toInt = second
  | .int first, .bool second => first = second.toInt
  | .bool first, .bool second => first = second
  | first, second => host.equalFloat first second

/-- The compact forms of the attempts with these ids. -/
def compactApplicable (host : Host) (applicable : List Json) : List Json → Except ContextError (List Json)
  | [] => .ok []
  | item :: items => do
    let fields ← attempt item
    let id ← hashable (get fields "scan_id")
    if applicable.any (same host id) then do
      let detail ← compactRouteScanDetail fields
      let rest ← compactApplicable host applicable items
      .ok (.obj detail :: rest)
    else compactApplicable host applicable items

def initialDetail (host : Host) (focus : Focus) (id : String) (given : Fields) (history : List Json) : Except ContextError (List Json) :=
  if focus.raw id then .ok history
  else if focus.detailed id then do
    let applicable ← (applicableScanIds given).mapM hashable
    compactApplicable host applicable history
  else .ok []

def initialHazard (host : Host) (focus : Focus) (hazard : String × Fields) : Except ContextError Hazard := do
  let history ← listOf "navigation scan evidence is invalid" (hazard.2.lookup scanHistoryField)
  let shown ← initialDetail host focus hazard.1 hazard.2 history
  .ok { id := hazard.1, given := hazard.2, history, shown, summary := [] }

-- Shrinking

/-- `(completed_at_ms, hypothesis_id, scan_id)`, in the order of tuples. -/
abbrev AttemptKey := Int ×ₗ String ×ₗ String

def AttemptKey.of (time : Int) (hazardId scanId : String) : AttemptKey := toLex (time, toLex (hazardId, scanId))

def AttemptKey.hazardId (key : AttemptKey) : String := (ofLex (ofLex key).2).1
def AttemptKey.scanId (key : AttemptKey) : String := (ofLex (ofLex key).2).2

def sortedKeys (keys : List AttemptKey) : List AttemptKey := keys.insertionSort (· ≤ ·)

/-- `scan_id if isinstance(scan_id, str) else ""`. -/
def scanIdText (item : Json) : String := (Json.toStr? (some (scanId item))).getD ""

/-- The time of an attempt; a truth value counts as a number. -/
def completedOrBool (item : Json) : Int :=
  match get (attemptFields item) "completed_at_ms" with
  | .int time => time
  | .bool b => b.toInt
  | _ => -1

def completedAt (item : Json) : Int := (Json.toInt? ((attemptFields item).lookup "completed_at_ms")).getD (-1)

/-- `protected_scan_ids`: what some hazard lists as applicable. -/
def protectedScanIds (hazards : List Hazard) : List String :=
  hazards.flatMap fun hazard => (applicableScanIds hazard.given).filterMap fun id => Json.toStr? (some id)

def isProtected (protectedIds : List String) (item : Json) : Bool :=
  match scanId item with
  | .str id => protectedIds.contains id
  | _ => false

def removableOf (protectedIds : List String) (hazard : Hazard) : List AttemptKey :=
  (hazard.shown.filter fun item => !isProtected protectedIds item).map fun item => .of (completedOrBool item) hazard.id (scanIdText item)

def compactableOf (protectedIds : List String) (hazard : Hazard) : List AttemptKey :=
  (hazard.shown.filter fun item => isProtected protectedIds item && !isCompact item).map fun item =>
    .of (completedAt item) hazard.id (scanIdText item)

def hasScanId (item : Json) (id : String) : Bool := Json.IsStr id (some (scanId item))

def dropScan (key : AttemptKey) (hazard : Hazard) : Hazard :=
  if hazard.id = key.hazardId then { hazard with shown := hazard.shown.filter fun item => !hasScanId item key.scanId } else hazard

def compactScan (key : AttemptKey) (hazard : Hazard) : Except ContextError Hazard :=
  if hazard.id = key.hazardId then do
    let shown ← hazard.shown.mapM fun item =>
      if hasScanId item key.scanId then do
        let detail ← compactRouteScanDetail (attemptFields item)
        .ok (.obj detail)
      else .ok item
    .ok { hazard with shown }
  else .ok hazard

section Shrink

variable (host : Host) (focus : Focus) (target hard : Int)

def dropRemovable : List AttemptKey → Projected → Except ContextError Projected
  | [], projected => .ok projected
  | key :: keys, projected =>
    if target < projected.size then do
      let projected ← refreshProjectionMetadata host focus target hard { projected with hazards := projected.hazards.map (dropScan key) }
      dropRemovable keys projected
    else .ok projected

def compactRemaining : List AttemptKey → Projected → Except ContextError Projected
  | [], projected => .ok projected
  | key :: keys, projected =>
    if target < projected.size then do
      let hazards ← projected.hazards.mapM (compactScan key)
      let projected ← refreshProjectionMetadata host focus target hard { projected with hazards }
      compactRemaining keys projected
    else .ok projected

def reduceExperience (navigation : Fields) (projected : Projected) : Except ContextError Projected :=
  match navigation.lookup "experience_ledger" with
  | none => .ok projected
  | some ledger =>
    if target < projected.size then
      let excess := projected.size - target
      let reducedTarget := max (2 * 1024) (byteLength (get projected.base "experience_ledger") - excess - 256)
      match projectExperienceLedger host ledger reducedTarget with
      | .error (.context _) => .ok { projected with metadata := setField reductionBlockedField (.bool true) projected.metadata }
      | .error error => .error error
      | .ok reduced => do
        let projected ← refreshProjectionMetadata host focus target hard
          { projected with base := setField "experience_ledger" (.obj reduced) projected.base }
        .ok { projected with metadata := setField reductionBlockedField (.bool false) projected.metadata }
    else .ok projected

def finish (projected : Projected) : Except ContextError Fields :=
  let projected :=
    if target < projected.size then { projected with metadata := setField exceededField (.bool true) projected.metadata } else projected
  if hard < projected.size then .error (.context "mandatory navigation facts exceed the hard planner budget")
  else .ok projected.toFields

end Shrink

-- project_navigation_context

def identified : Json → Option (String × Fields)
  | .obj fields =>
    match get fields "hypothesis_id" with
    | .str id => if id = "" then none else some (id, fields)
    | _ => none
  | _ => none

def hazardsOf (navigation : Fields) : Except ContextError (List (String × Fields)) :=
  match get navigation hazardsField with
  | .arr values =>
    match values.mapM identified with
    | some hazards => if (hazards.map Prod.fst).Nodup then .ok hazards else .error (.context "navigation hazard IDs are invalid")
    | none => .error (.context "navigation hazard IDs are invalid")
  | _ => .error (.context "navigation hazards are invalid")

def focusOf (navigation maneuverState : Fields) (lastToolResult : Json) (hazards : List (String × Fields)) : Focus :=
  .of (typedHazardReferences navigation maneuverState lastToolResult) (hazards.map Prod.fst)

/-- The scan of the front is not repeated where the feasibility of a scan is known. -/
def withoutRepeatedScan (navigation : Fields) : Fields :=
  match get (attemptFields (get navigation "action_feasibility")) "active_scan" with
  | .obj _ => navigation.filter fun field => field.1 ≠ "scan_front_arc_feasibility"
  | _ => navigation

/-- `projected` before its hazards. -/
def baseOf (host : Host) (navigation : Fields) : Except ContextError Fields :=
  match navigation.lookup "experience_ledger" with
  | none => .ok (withoutRepeatedScan navigation)
  | some ledger => do
    let ledger ← projectExperienceLedger host ledger maxPlannerExperienceBytes
    .ok (setField "experience_ledger" (.obj ledger) (withoutRepeatedScan navigation))

def projectNavigationContext (host : Host) (navigation maneuverState : Fields) (lastToolResult : Json) (target hard : Int) :
    Except ContextError Fields :=
  if target ≤ 0 ∨ hard < target then .error (.context "planner projection arguments are invalid")
  else do
    let given ← hazardsOf navigation
    let focus := focusOf navigation maneuverState lastToolResult given
    let base ← baseOf host navigation
    let hazards ← given.mapM (initialHazard host focus)
    let first ← refreshProjectionMetadata host focus target hard { base, hazards, metadata := [] }
    let protectedIds := protectedScanIds first.hazards
    let dropped ← dropRemovable host focus target hard (sortedKeys (first.hazards.flatMap (removableOf protectedIds))) first
    let compacted ← compactRemaining host focus target hard (sortedKeys (dropped.hazards.flatMap (compactableOf protectedIds))) dropped
    let reduced ← reduceExperience host focus target hard navigation compacted
    finish target hard reduced

end RobotLlm.Physical.PlannerContext
