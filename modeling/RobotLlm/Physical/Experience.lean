import RobotLlm.Lib.Check
import RobotLlm.Lib.JsonText
import RobotLlm.Lib.Retain
import RobotLlm.Lib.Tally

/-!
# What was tried, and what came of it

A ledger of one episode: every attempt of an action with the evidence it was made
on, and for each action and basis how often it was tried and with which outcomes.
What a planner is shown of it is bounded by its bytes; what was left out for them
is counted.
-/

namespace RobotLlm.Physical.Experience

open RobotLlm.Lib

def maxEntriesLimit : Nat := 64
def maxContextBytes : Nat := 64 * 1024
def maxSeenKeys : Nat := 43200

/-- `sorted(ACTIONS)`. -/
def sortedActions : List String :=
  ["ADVANCE", "FINISH", "OBSERVE", "REVERSE", "SCAN_FRONT_ARC", "TURN_LEFT_90", "TURN_RIGHT_90"]

def actionSources : List String := ["PLANNER_ACTION", "PLAN_TAIL_ACTION", "ROUTE_EXECUTOR_ACTION"]

def optStr (value : Option String) : Json := Json.ofOpt .str value

def optNat (value : Option Nat) : Json := Json.ofOpt (fun n : Nat => .int n) value

-- The evidence an attempt is made on

structure HazardBasis where
  hypothesisId : String
  centroidXMm : Json
  centroidYMm : Json
  radiusMm : Json
  scanLeftBoundaryMdeg : Json
  scanRightBoundaryMdeg : Json
  scanEvidence : List Json

namespace HazardBasis

def geometry (h : HazardBasis) : List (String × Json) :=
  [("centroid_x_mm", h.centroidXMm), ("centroid_y_mm", h.centroidYMm), ("radius_mm", h.radiusMm),
    ("scan_left_boundary_mdeg", h.scanLeftBoundaryMdeg), ("scan_right_boundary_mdeg", h.scanRightBoundaryMdeg)]

def toJson (h : HazardBasis) : Json :=
  .obj (("hypothesis_id", .str h.hypothesisId) :: (h.geometry ++ [("scan_evidence", .arr h.scanEvidence)]))

end HazardBasis

/-- What `navigation_evidence_basis` returns. -/
structure EvidenceBasis where
  mapGenerationId : String
  localizationValid : Bool
  xMm : Int
  yMm : Int
  headingMdeg : Int
  observationFacts : Json
  hazards : List HazardBasis

namespace EvidenceBasis

def pose (b : EvidenceBasis) : Json := .obj [("x_mm", .int b.xMm), ("y_mm", .int b.yMm), ("heading_mdeg", .int b.headingMdeg)]

def toJson (b : EvidenceBasis) : Json :=
  .obj [("schema", .str "robot-physical-navigation-evidence-basis/v1"),
    ("map_generation_id", .str b.mapGenerationId),
    ("localization_valid", .bool b.localizationValid),
    ("pose", b.pose),
    ("observation_facts", b.observationFacts),
    ("hazards", .arr (b.hazards.map HazardBasis.toJson))]

/-- `json_bytes(basis)`. -/
def text (b : EvidenceBasis) : List Char := b.toJson.dumps

/-- `_basis_id`, for the digest that is taken of the text. -/
def id (digest : List Char → String) (b : EvidenceBasis) : String := "basis-" ++ digest b.text

/-- `_basis_summary`. -/
def summary (b : EvidenceBasis) : Json :=
  .obj [("map_generation_id", .str b.mapGenerationId),
    ("localization_valid", .bool b.localizationValid),
    ("pose", b.pose),
    ("observation_facts", b.observationFacts),
    ("hazards", .arr (b.hazards.map fun item =>
      .obj [("hypothesis_id", .str item.hypothesisId), ("scan_evidence_fact_count", .int item.scanEvidence.length)]))]

def hazardsById (b : EvidenceBasis) : Dict String HazardBasis :=
  b.hazards.foldl (fun d item => d.set item.hypothesisId item) Dict.empty

end EvidenceBasis

def Alike (first second : Json) : Prop := first.dumps = second.dumps

instance : Decidable (Alike first second) := inferInstanceAs (Decidable (_ = _))

def codeIf (c : Prop) [Decidable c] (code : String) : List String := if c then [code] else []

def basisChangeCodes (before after : EvidenceBasis) : List String :=
  let common := (before.hazardsById.keys.filter (· ∈ after.hazardsById.keys)).filterMap fun hypothesisId =>
    (before.hazardsById.get? hypothesisId).bind fun first => (after.hazardsById.get? hypothesisId).map fun second => (first, second)
  codeIf (before.mapGenerationId ≠ after.mapGenerationId) "MAP_GENERATION_CHANGED" ++
  codeIf (before.localizationValid ≠ after.localizationValid) "LOCALIZATION_VALIDITY_CHANGED" ++
  codeIf (¬ Alike before.pose after.pose) "VERIFIED_POSE_CHANGED" ++
  codeIf (¬ Alike before.observationFacts after.observationFacts) "DECISION_RELEVANT_OBSERVATION_CHANGED" ++
  codeIf (¬ before.hazardsById.keys.Perm after.hazardsById.keys) "HAZARD_SET_CHANGED" ++
  codeIf (∃ pair ∈ common, ¬ Alike (.obj pair.1.geometry) (.obj pair.2.geometry)) "HAZARD_GEOMETRY_CHANGED" ++
  codeIf (∃ pair ∈ common, ¬ Alike (.arr pair.1.scanEvidence) (.arr pair.2.scanEvidence)) "SCAN_EVIDENCE_CHANGED"

-- The outcome of an attempt

structure OutcomeFacts where
  operation : String
  status : String
  reasonCode : Option String
  informationGain : Option String
  evidenceDisposition : Option String
  targetHypothesisId : Option String
  bilateralComplete : Option Bool
  changedFacts : Option (List String)
  encoderObservation : Option (List (String × Json))
  validationCode : Option String
  scanEvidence : Option (List (String × String))

def encoderFields : List String :=
  ["left_encoder_delta_degrees", "right_encoder_delta_degrees", "verified_slice_count", "requested_slice_count",
    "command_completed"]

def scanEvidenceFields : List String :=
  ["scan_id", "observation_pattern", "arc_coverage", "boundary_coverage", "hypothesis_relation"]

def optionalCode (value : List (String × Json)) (field : String) : Except String (Option String) :=
  match value.lookup field with
  | none | some .null => .ok none
  | some (.str candidate) =>
    if candidate = "" ∨ candidate.length > 160 ∨ candidate.toList.any (·.toNat < 32) = true then .error (field ++ " is invalid")
    else .ok (some candidate)
  | some _ => .error (field ++ " is invalid")

def requiredMapping (value : Json) (fields : List String) (label : String) : Except String (List (String × Json)) :=
  match value with
  | .obj entries => if ∀ field ∈ fields, field ∈ entries.map Prod.fst then .ok entries else .error (label ++ " is invalid")
  | _ => .error (label ++ " is invalid")

def bilateralCompleteOf (result : List (String × Json)) : Except String (Option Bool) :=
  match result.lookup "bilateral_complete" with
  | none => .ok none
  | some (.bool value) => .ok (some value)
  | some _ => .error "bilateral scan completion is invalid"

def changedFact? : Json → Option String
  | .str item => if item = "" ∨ item.length > 80 then none else some item
  | _ => none

def changedFactsOf (result : List (String × Json)) : Except String (Option (List String)) :=
  match result.lookup "changed_facts" with
  | none | some .null => .ok none
  | some (.arr items) =>
    if items.length > 16 then .error "changed facts are invalid"
    else match items.mapM changedFact? with
      | some facts => .ok (some facts)
      | none => .error "changed facts are invalid"
  | some _ => .error "changed facts are invalid"

def encoderObservationOf (result : List (String × Json)) : Except String (Option (List (String × Json))) :=
  match result.lookup "encoder_observation" with
  | none | some .null => .ok none
  | some encoder => do
    let checked ← requiredMapping encoder encoderFields "encoder observation"
    return some (encoderFields.map fun key => (key, (checked.lookup key).getD .null))

def validationCodeOf (result : List (String × Json)) : Except String (Option String) :=
  match result.lookup "validation" with
  | none | some .null => .ok none
  | some (.obj validation) => optionalCode validation "code"
  | some _ => .error "action validation is invalid"

def scanEvidenceOf (result : List (String × Json)) : Except String (Option (List (String × String))) :=
  match result.lookup "scan_evidence" with
  | none | some .null => .ok none
  | some evidence => do
    let checked ← requiredMapping evidence scanEvidenceFields "scan evidence outcome"
    let codes ← scanEvidenceFields.mapM (optionalCode checked)
    match codes.mapM id with
    | some values => return some (scanEvidenceFields.zip values)
    | none => throw "scan evidence outcome is invalid"

def outcomeFacts : Json → Except String OutcomeFacts
  | .obj result => do
    let operation ← optionalCode result "operation"
    let status ← optionalCode result "status"
    match operation, status with
    | some operation, some status => do
      let reasonCode ← optionalCode result "reason"
      let informationGain ← optionalCode result "information_gain"
      let evidenceDisposition ← optionalCode result "evidence_disposition"
      let targetHypothesisId ← optionalCode result "target_hypothesis_id"
      let bilateralComplete ← bilateralCompleteOf result
      let changedFacts ← changedFactsOf result
      let encoderObservation ← encoderObservationOf result
      let validationCode ← validationCodeOf result
      let scanEvidence ← scanEvidenceOf result
      return ⟨operation, status, reasonCode, informationGain, evidenceDisposition, targetHypothesisId, bilateralComplete,
        changedFacts, encoderObservation, validationCode, scanEvidence⟩
    | _, _ => throw "action result is incomplete"
  | _ => throw "action result is invalid"

def fieldOf (name : String) (write : α → Json) : Option α → List (String × Json)
  | none => []
  | some value => [(name, write value)]

def OutcomeFacts.toJson (o : OutcomeFacts) : Json :=
  .obj ([("operation", .str o.operation), ("status", .str o.status), ("reason_code", optStr o.reasonCode)] ++
    fieldOf "information_gain" .str o.informationGain ++
    fieldOf "evidence_disposition" .str o.evidenceDisposition ++
    fieldOf "target_hypothesis_id" .str o.targetHypothesisId ++
    fieldOf "bilateral_complete" .bool o.bilateralComplete ++
    fieldOf "changed_facts" (fun facts => .arr (facts.map .str)) o.changedFacts ++
    fieldOf "encoder_observation" .obj o.encoderObservation ++
    fieldOf "validation_code" .str o.validationCode ++
    fieldOf "scan_evidence" (fun facts => .obj (facts.map fun fact => (fact.1, .str fact.2))) o.scanEvidence)

structure OutcomeClassification where
  operation : String
  status : String
  reasonCode : Option String
  informationGain : Option String
  evidenceDisposition : Option String
  validationCode : Option String
  bilateralComplete : Option Bool
  targetHypothesisId : Option String
deriving DecidableEq

/-- `_outcome_classification`. -/
def OutcomeFacts.classification (o : OutcomeFacts) : OutcomeClassification :=
  ⟨o.operation, o.status, o.reasonCode, o.informationGain, o.evidenceDisposition, o.validationCode, o.bilateralComplete,
    o.targetHypothesisId⟩

def OutcomeClassification.toJson (c : OutcomeClassification) : Json :=
  .obj ([("operation", .str c.operation), ("status", .str c.status), ("reason_code", optStr c.reasonCode)] ++
    fieldOf "information_gain" .str c.informationGain ++
    fieldOf "evidence_disposition" .str c.evidenceDisposition ++
    fieldOf "validation_code" .str c.validationCode ++
    fieldOf "bilateral_complete" .bool c.bilateralComplete ++
    fieldOf "target_hypothesis_id" .str c.targetHypothesisId)

/-- What makes two attempts the same: the action, and for a scan its target, which
may be `None`. -/
structure AttemptIdentity where
  action : String
  targetHypothesisId : Option (Option String)
deriving DecidableEq

def attemptIdentity (action : String) (outcome : OutcomeFacts) : AttemptIdentity where
  action := action
  targetHypothesisId := if action = "SCAN_FRONT_ARC" then some outcome.targetHypothesisId else none

def AttemptIdentity.toJson (i : AttemptIdentity) : Json :=
  .obj (("action", .str i.action) :: fieldOf "target_hypothesis_id" optStr i.targetHypothesisId)

-- The ledger

inductive AttemptRelation where
  | firstAttempt
  | unchangedBasisRepeat
  | retryAfterBasisChange
deriving DecidableEq

def AttemptRelation.text : AttemptRelation → String
  | .firstAttempt => "FIRST_ATTEMPT"
  | .unchangedBasisRepeat => "UNCHANGED_BASIS_REPEAT"
  | .retryAfterBasisChange => "RETRY_AFTER_BASIS_CHANGE"

structure NavigationExperience where
  sequence : Nat
  turn : Int
  action : String
  source : String
  attemptIdentity : AttemptIdentity
  basisBeforeId : String
  basisAfterId : String
  basisBefore : Json
  basisAfter : Json
  basisChangeCodes : List String
  attemptRelation : AttemptRelation
  priorSameActionSequence : Option Nat
  priorSameBasisSequence : Option Nat
  outcome : OutcomeFacts

def NavigationExperience.toJson (e : NavigationExperience) : Json :=
  .obj [("sequence", .int e.sequence),
    ("turn", .int e.turn),
    ("action", .str e.action),
    ("source", .str e.source),
    ("attempt_identity", e.attemptIdentity.toJson),
    ("basis_before_id", .str e.basisBeforeId),
    ("basis_after_id", .str e.basisAfterId),
    ("basis_before", e.basisBefore),
    ("basis_after", e.basisAfter),
    ("basis_change_codes", .arr (e.basisChangeCodes.map .str)),
    ("attempt_relation", .str e.attemptRelation.text),
    ("prior_same_action_sequence", optNat e.priorSameActionSequence),
    ("prior_same_basis_sequence", optNat e.priorSameBasisSequence),
    ("outcome", e.outcome.toJson)]

/-- What is known of an action on one basis. The outcomes are counted by what
they are written as, and that is what they are. -/
structure Rollup where
  attemptCount : Nat
  firstSequence : Nat
  latestSequence : Nat
  distribution : Dict OutcomeClassification Nat
  latestOutcome : OutcomeFacts

structure NavigationExperienceLedger where
  episodeId : String
  maxEntries : Nat
  maxEntries_valid : 1 ≤ maxEntries ∧ maxEntries ≤ maxEntriesLimit
  entries : List NavigationExperience := []
  sequence : Nat := 0
  lastActionSequence : Dict String Nat := Dict.empty
  lastAttemptSequence : Dict AttemptIdentity Nat := Dict.empty
  seenAttemptBasis : Dict (AttemptIdentity × String) Nat := Dict.empty
  actionBasisRollups : Dict (String × String) Rollup := Dict.empty

/-- The arguments of `record`. -/
structure RecordCall where
  turn : Int
  action : String
  source : String
  result : Json
  basisBefore : EvidenceBasis
  basisAfter : EvidenceBasis

def touch [DecidableEq κ] (d : Dict κ α) (key : κ) (value : α) : Dict κ α := (d.erase key).set key value

/-- The oldest keys go until there are no more than `maxSeenKeys`. -/
def trimmed [DecidableEq κ] (d : Dict κ α) : Dict κ α := Dict.dropOldest^[d.size - maxSeenKeys] d

/-- One more attempt of the rollup of its action and basis. -/
def addToRollup (prior : Option Rollup) (sequence : Nat) (outcome : OutcomeFacts) : Rollup :=
  let base := prior.getD ⟨0, sequence, sequence, Dict.empty, outcome⟩
  { base with
    attemptCount := base.attemptCount + 1
    latestSequence := sequence
    distribution := base.distribution.bump outcome.classification
    latestOutcome := outcome }

namespace NavigationExperienceLedger

def relation (ledger : NavigationExperienceLedger) (identity : AttemptIdentity) (beforeId : String) : AttemptRelation :=
  if ledger.lastAttemptSequence.get? identity = none then .firstAttempt
  else if ledger.seenAttemptBasis.get? (identity, beforeId) ≠ none then .unchangedBasisRepeat
  else .retryAfterBasisChange

/-- The entry of an attempt whose outcome was read. -/
def entryOf (digest : List Char → String) (ledger : NavigationExperienceLedger) (call : RecordCall) (outcome : OutcomeFacts) :
    NavigationExperience :=
  let identity := attemptIdentity call.action outcome
  let beforeId := call.basisBefore.id digest
  { sequence := ledger.sequence + 1
    turn := call.turn
    action := call.action
    source := call.source
    attemptIdentity := identity
    basisBeforeId := beforeId
    basisAfterId := call.basisAfter.id digest
    basisBefore := call.basisBefore.summary
    basisAfter := call.basisAfter.summary
    basisChangeCodes := basisChangeCodes call.basisBefore call.basisAfter
    attemptRelation := ledger.relation identity beforeId
    priorSameActionSequence := ledger.lastActionSequence.get? call.action
    priorSameBasisSequence := ledger.seenAttemptBasis.get? (identity, beforeId)
    outcome := outcome }

def keep (ledger : NavigationExperienceLedger) (entry : NavigationExperience) : NavigationExperienceLedger :=
  let seenKey := (entry.action, entry.basisBeforeId)
  { ledger with
    sequence := entry.sequence
    entries := lastN ledger.maxEntries (ledger.entries ++ [entry])
    lastActionSequence := ledger.lastActionSequence.set entry.action entry.sequence
    lastAttemptSequence := ledger.lastAttemptSequence.set entry.attemptIdentity entry.sequence
    seenAttemptBasis := trimmed (touch ledger.seenAttemptBasis (entry.attemptIdentity, entry.basisBeforeId) entry.sequence)
    actionBasisRollups := trimmed (touch ledger.actionBasisRollups seenKey
      (addToRollup (ledger.actionBasisRollups.get? seenKey) entry.sequence entry.outcome)) }

def record (digest : List Char → String) (ledger : NavigationExperienceLedger) (call : RecordCall) :
    Except String (NavigationExperience × NavigationExperienceLedger) := do
  require (0 < call.turn ∧ call.action ∈ sortedActions ∧ call.source ∈ actionSources) "experience identity is invalid"
  let outcome ← outcomeFacts call.result
  let entry := entryOf digest ledger call outcome
  return (entry, ledger.keep entry)

end NavigationExperienceLedger

-- What a planner is shown

structure RollupView where
  action : String
  attemptCount : Nat
  firstSequence : Option Nat
  latestSequence : Option Nat
  outcomeBucketCount : Nat
  outcomeBucketRetainedCount : Nat
  outcomeBucketOmittedCount : Int
  outcomeAttemptRetainedCount : Nat
  outcomeAttemptOmittedCount : Int
  outcomeDistribution : List (OutcomeClassification × Nat)
  latestOutcome : Option OutcomeClassification

def RollupView.toJson (v : RollupView) : Json :=
  .obj [("action", .str v.action),
    ("attempt_count", .int v.attemptCount),
    ("first_sequence", optNat v.firstSequence),
    ("latest_sequence", optNat v.latestSequence),
    ("outcome_bucket_count", .int v.outcomeBucketCount),
    ("outcome_bucket_retained_count", .int v.outcomeBucketRetainedCount),
    ("outcome_bucket_omitted_count", .int v.outcomeBucketOmittedCount),
    ("outcome_attempt_retained_count", .int v.outcomeAttemptRetainedCount),
    ("outcome_attempt_omitted_count", .int v.outcomeAttemptOmittedCount),
    ("outcome_distribution", .arr (v.outcomeDistribution.map fun bucket =>
      .obj [("outcome", bucket.1.toJson), ("count", .int bucket.2)])),
    ("latest_outcome", Json.ofOpt OutcomeClassification.toJson v.latestOutcome)]

/-- The buckets in the order of what they are written as. -/
def sortedBuckets (distribution : Dict OutcomeClassification Nat) : List (OutcomeClassification × Nat) :=
  distribution.entries.insertionSort fun a b => a.1.toJson.dumps ≤ b.1.toJson.dumps

/-- The rollup of one action, with the buckets that are retained of it. -/
def rollupView (action : String) (retainedKeys : List (String × OutcomeClassification)) : Option Rollup → RollupView
  | none => ⟨action, 0, none, none, 0, 0, 0, 0, 0, [], none⟩
  | some rollup =>
    let retained := (sortedBuckets rollup.distribution).filter fun bucket => (action, bucket.1) ∈ retainedKeys
    let retainedAttempts := (retained.map Prod.snd).sum
    { action := action
      attemptCount := rollup.attemptCount
      firstSequence := some rollup.firstSequence
      latestSequence := some rollup.latestSequence
      outcomeBucketCount := rollup.distribution.size
      outcomeBucketRetainedCount := retained.length
      outcomeBucketOmittedCount := (rollup.distribution.size : Int) - retained.length
      outcomeAttemptRetainedCount := retainedAttempts
      outcomeAttemptOmittedCount := (rollup.attemptCount : Int) - retainedAttempts
      outcomeDistribution := retained
      latestOutcome := some rollup.latestOutcome.classification }

structure ContextValue where
  episodeId : String
  capacity : Nat
  totalRecordedCount : Nat
  seenActionBasisRetainedCount : Nat
  seenAttemptBasisRetainedCount : Nat
  currentBasisId : String
  rollups : List RollupView
  entries : List NavigationExperience

def ContextValue.toJson (v : ContextValue) : Json :=
  .obj [("schema", .str "robot-physical-navigation-experience/v1"),
    ("episode_id", .str v.episodeId),
    ("scope", .str "EPISODE"),
    ("persisted", .bool false),
    ("host_ranked_or_selected_action", .bool false),
    ("capacity", .int v.capacity),
    ("retained_count", .int v.entries.length),
    ("total_recorded_count", .int v.totalRecordedCount),
    ("seen_action_basis_capacity", .int maxSeenKeys),
    ("seen_action_basis_retained_count", .int v.seenActionBasisRetainedCount),
    ("seen_attempt_basis_capacity", .int maxSeenKeys),
    ("seen_attempt_basis_retained_count", .int v.seenAttemptBasisRetainedCount),
    ("current_basis_id", .str v.currentBasisId),
    ("current_basis_action_rollups", .arr (v.rollups.map RollupView.toJson)),
    ("entries", .arr (v.entries.map NavigationExperience.toJson))]

/-- `len(json_bytes(value))`. -/
def ContextValue.size (v : ContextValue) : Nat := v.toJson.byteLength

namespace NavigationExperienceLedger

/-- `value_with`, with the buckets that are retained. -/
def valueWith (ledger : NavigationExperienceLedger) (currentBasisId : String)
    (retainedKeys : List (String × OutcomeClassification)) (entries : List NavigationExperience) : ContextValue where
  episodeId := ledger.episodeId
  capacity := ledger.maxEntries
  totalRecordedCount := ledger.sequence
  seenActionBasisRetainedCount := ledger.actionBasisRollups.size
  seenAttemptBasisRetainedCount := ledger.seenAttemptBasis.size
  currentBasisId := currentBasisId
  rollups := sortedActions.map fun action =>
    rollupView action retainedKeys (ledger.actionBasisRollups.get? (action, currentBasisId))
  entries := entries

/-- The loop that drops the oldest entry until the value fits. -/
def fitEntries (ledger : NavigationExperienceLedger) (currentBasisId : String) :
    List NavigationExperience → Except String (List NavigationExperience)
  | [] =>
    if (ledger.valueWith currentBasisId [] []).size ≤ maxContextBytes then .ok []
    else .error "experience context exceeded its byte limit"
  | entry :: entries =>
    if (ledger.valueWith currentBasisId [] (entry :: entries)).size ≤ maxContextBytes then .ok (entry :: entries)
    else fitEntries ledger currentBasisId entries

/-- `_current_basis_bucket_candidates`. -/
def bucketCandidates (ledger : NavigationExperienceLedger) (currentBasisId : String) : List (String × OutcomeClassification) :=
  sortedActions.flatMap fun action =>
    match ledger.actionBasisRollups.get? (action, currentBasisId) with
    | none => []
    | some rollup => (sortedBuckets rollup.distribution).map fun bucket => (action, bucket.1)

/-- The loop that retains one bucket after the other as long as they fit. -/
def growBuckets (ledger : NavigationExperienceLedger) (currentBasisId : String) (entries : List NavigationExperience) :
    (retainedKeys candidates : List (String × OutcomeClassification)) → List (String × OutcomeClassification)
  | retainedKeys, [] => retainedKeys
  | retainedKeys, candidate :: candidates =>
    if (ledger.valueWith currentBasisId (retainedKeys ++ [candidate]) entries).size ≤ maxContextBytes then
      growBuckets ledger currentBasisId entries (retainedKeys ++ [candidate]) candidates
    else retainedKeys

def context (digest : List Char → String) (ledger : NavigationExperienceLedger) (currentBasis : EvidenceBasis) :
    Except String ContextValue := do
  let currentBasisId := currentBasis.id digest
  let entries ← ledger.fitEntries currentBasisId ledger.entries
  let retainedKeys := ledger.growBuckets currentBasisId entries [] (ledger.bucketCandidates currentBasisId)
  return ledger.valueWith currentBasisId retainedKeys entries

end NavigationExperienceLedger

end RobotLlm.Physical.Experience
