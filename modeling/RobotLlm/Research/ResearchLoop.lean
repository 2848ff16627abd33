import RobotLlm.Lib.Prog
import RobotLlm.Research.Decision

/-!
# The research loop

A planner plans, a weather tool finds evidence, and an answer cites it, all
within counted budgets. Planner, tool, clock and id factory are read by the
number of calls that were made of them before.
-/

namespace RobotLlm.Research

open RobotLlm.Lib

-- Evidence

structure ResearchEvidenceEnvelope where
  evidenceId : String
  toolCallId : String
  toolName : String
  producedFromContextVersion : Int
  receivedAtMonotonicMs : Int
  validUntilMonotonicMs : Int
  payload : List (String × Json)

def ResearchEvidenceEnvelope.fresh (e : ResearchEvidenceEnvelope) (nowMs : Int) : Bool :=
  nowMs ≥ e.receivedAtMonotonicMs && nowMs < e.validUntilMonotonicMs

structure ResearchFeedback where
  code : String
  contextVersion : Int
  toolCallId : Option String

/-- The checks of `ResearchFeedback`. -/
def ResearchFeedback.new (f : ResearchFeedback) : Checked ResearchFeedback := do
  let _ ← identifier "feedback code" (.str f.code) 64
  let _ ← integer "context_version" (.int f.contextVersion) 1 counterMax
  match f.toolCallId with
  | none => .ok f
  | some toolCallId => do
    let _ ← identifier "tool_call_id" (.str toolCallId)
    .ok f

/-- `_integer` of each field that has bounds. -/
def integers : List (String × Int × Int × Int) → Checked Unit
  | [] => .ok ()
  | (name, value, minimum, maximum) :: rest => do
    let _ ← integer name (.int value) minimum maximum
    integers rest

def identifiers (name : String) : List String → Checked Unit
  | [] => .ok ()
  | value :: values => do
    let _ ← identifier name (.str value)
    identifiers name values

structure ResearchPlanningContext where
  turnId : String
  userQuery : String
  requireEvidence : Bool
  availableTools : List String
  usedProposalIds : List String
  contextVersion : Int
  evidence : List ResearchEvidenceEnvelope
  previousFeedback : Option ResearchFeedback
  plannerTurn : Int
  remainingToolCalls : Int
  remainingReplans : Int
  remainingElapsedMs : Int
  plannerTimeoutMs : Int

/-- The checks of `ResearchPlanningContext` that the types leave. -/
def ResearchPlanningContext.new (c : ResearchPlanningContext) : Checked ResearchPlanningContext := do
  let _ ← identifier "turn_id" (.str c.turnId)
  let _ ← text "user_query" (.str c.userQuery) 4000
  require (c.availableTools ≠ [] ∧ c.availableTools.Nodup) ⟨"invalid_available_tools", "Available tools are invalid"⟩
  identifiers "available tool" c.availableTools
  require c.usedProposalIds.Nodup ⟨"invalid_used_proposal_ids", "Used proposal IDs are invalid"⟩
  identifiers "used proposal_id" c.usedProposalIds
  integers [("context_version", c.contextVersion, 1, counterMax), ("planner_turn", c.plannerTurn, 1, 10000),
    ("remaining_tool_calls", c.remainingToolCalls, 0, 10000), ("remaining_replans", c.remainingReplans, 0, 10000),
    ("remaining_elapsed_ms", c.remainingElapsedMs, 0, counterMax), ("planner_timeout_ms", c.plannerTimeoutMs, 1, 300000)]
  require (c.plannerTimeoutMs ≤ c.remainingElapsedMs) ⟨"invalid_planner_timeout", "Planner timeout exceeds remaining episode time"⟩
  .ok c

structure ResearchLimits where
  maxElapsedMs : Int := 10000
  maxPlannerLatencyMs : Int := 3000
  maxPlannerTurns : Nat := 6
  maxToolCalls : Nat := 2
  maxReplans : Nat := 4
  toolRequestTtlMs : Int := 4000
  evidenceTtlMs : Int := 10 * 60 * 1000
  maxWeatherObservationSkewMs : Int := 2 * 60 * 60 * 1000
  elapsedOk : 1 ≤ maxElapsedMs ∧ maxElapsedMs ≤ 300000 := by decide
  latencyOk : 1 ≤ maxPlannerLatencyMs ∧ maxPlannerLatencyMs ≤ maxElapsedMs := by decide
  turnsOk : 1 ≤ maxPlannerTurns ∧ maxPlannerTurns ≤ 100 := by decide
  toolCallsOk : maxToolCalls ≤ 100 := by decide
  replansOk : maxReplans ≤ 100 := by decide
  requestTtlOk : 1 ≤ toolRequestTtlMs ∧ toolRequestTtlMs ≤ maxElapsedMs := by decide
  evidenceTtlOk : 1 ≤ evidenceTtlMs ∧ evidenceTtlMs ≤ 24 * 60 * 60 * 1000 := by decide
  skewOk : 1 ≤ maxWeatherObservationSkewMs ∧ maxWeatherObservationSkewMs ≤ 24 * 60 * 60 * 1000 := by decide

inductive Termination where
  | answered
  | clarificationRequired
  | plannerAborted
  | plannerFailed
  | toolFailed
  | budgetExhausted
deriving DecidableEq

structure ResearchEpisodeResult where
  turnId : String
  completed : Bool
  termination : Termination
  answerText : Option String
  clarificationQuestion : Option String
  citationIds : List String
  plannerTurns : Nat
  toolCalls : Nat
  replans : Nat
  finalContextVersion : Int
  evidence : List ResearchEvidenceEnvelope
  trace : List String

-- The weather tool

structure WeatherResearchRequest where
  requestId : String
  locationQuery : String
  issuedAtMonotonicMs : Int
  validUntilMonotonicMs : Int
deriving DecidableEq

structure WeatherResearchResult (F : Type) where
  requestId : String
  /-- The request, if it is one. -/
  request : Option WeatherResearchRequest
  completedAtMonotonicMs : Option Int
  locationUrl : String
  weatherUrl : String
  latitude : F
  longitude : F
  observedAt : String
  retrievedAtUnixMs : Int
  /-- `ttl_ms` of each piece of evidence, if it is an integer. -/
  ttls : List (Option Int)
  /-- `to_dict()`. -/
  payload : Json

/-- What may be raised within `run`. -/
inductive Raised where
  | research
  | loop (error : ResearchLoopError)
  | other (name : String)

inductive ToolAnswer (F : Type) where
  | result (result : WeatherResearchResult F)
  | otherValue

/-- Everything outside, by the number of calls before. -/
structure World (F : Type) where
  clockMs : Nat → Except Raised (Option Int)
  /-- The planner raises, or gives something back. -/
  planner : Nat → Except Unit RawDecision
  weather : Nat → Except Raised (ToolAnswer F)
  newId : Nat → Except Raised String

-- One episode

/-- The locals of `run`, and a record of what was asked and done. -/
structure Episode where
  contextVersion : Int := 1
  evidence : List ResearchEvidenceEnvelope := []
  feedback : Option ResearchFeedback := none
  /-- `proposal_history`; `seen_proposals` has the same ids. -/
  proposalHistory : List String := []
  seenToolCallIds : List String := []
  seenEvidenceIds : List String := []
  plannerTurns : Nat := 0
  toolCalls : Nat := 0
  replans : Nat := 0
  trace : List String := ["CREATED"]
  clockReads : Nat := 0
  idsMade : Nat := 0
  /-- The contexts that the planner was given, the last one first. -/
  contexts : List ResearchPlanningContext := []
  /-- The proposals that were acted on, with the context of their turn. -/
  acted : List (ResearchPlanningContext × ResearchDecision) := []
  /-- The requests that the weather tool was given. -/
  requests : List WeatherResearchRequest := []

abbrev Loop := Prog Episode Raised

def checked (x : Checked α) : Loop α := Prog.ofExcept (x.mapError .loop)

def weatherCurrent : String := "weather.current"

section
variable {F : Type} (host : ResearchHost F) (world : World F) (limits : ResearchLimits) (goal : ResearchGoal)

def nowMs : Loop Int := do
  let s ← get
  modify fun s => { s with clockReads := s.clockReads + 1 }
  match world.clockMs s.clockReads with
  | .error e => throw e
  | .ok none => throw (.loop ⟨"invalid_integer", "clock_ms is invalid"⟩)
  | .ok (some value) => checked (integer "clock_ms" (.int value) 0 counterMax)

def deadline (startedAtMs : Int) : Loop (Int × Bool) := do
  let now ← nowMs world
  return (now, now < startedAtMs || now - startedAtMs ≥ limits.maxElapsedMs)

def note (event : String) : Loop Unit := modify fun s => { s with trace := s.trace ++ [event] }

def Termination.event : Termination → String
  | .answered => "ANSWERED"
  | .clarificationRequired => "CLARIFICATION_REQUIRED"
  | .plannerAborted => "ABORTED"
  | .plannerFailed | .toolFailed | .budgetExhausted => "FAILED"

def finish (termination : Termination) (answerText question : Option String) (citationIds : List String) :
    Loop (Option ResearchEpisodeResult) := do
  note termination.event
  let s ← get
  return some {
    turnId := goal.turnId
    completed := termination = .answered
    termination
    answerText
    clarificationQuestion := question
    citationIds
    plannerTurns := s.plannerTurns
    toolCalls := s.toolCalls
    replans := s.replans
    finalContextVersion := s.contextVersion
    evidence := s.evidence
    trace := s.trace }

def giveUp (termination : Termination) : Loop (Option ResearchEpisodeResult) := finish goal termination none none []

/-- The context goes one version up, with a feedback. -/
def advance (code : String) (toolCallId : Option String) : Loop Unit := do
  modify fun s => { s with replans := s.replans + 1 }
  let s ← get
  let feedback ← checked (ResearchFeedback.new ⟨code, s.contextVersion + 1, toolCallId⟩)
  modify fun s => { s with contextVersion := s.contextVersion + 1, feedback := some feedback }

/-- `_replan`, and the end of the episode where it finds no budget. -/
def replanOr (termination : Termination) (code : String) (toolCallId : Option String) : Loop (Option ResearchEpisodeResult) := do
  let s ← get
  if s.replans ≥ limits.maxReplans then giveUp goal termination
  else do
    advance code toolCallId
    note "REPLANNING"
    return none

-- Tools

/-- `location_query` of valid arguments. -/
def locationQueryOf (arguments : List (String × Json)) : Option String :=
  match arguments.lookup "location_query" with
  | some (.str query) => some query
  | _ => none

def locationQueryOk (query : String) : Bool :=
  Navigation.strip query.toList == query.toList && 2 ≤ query.length && query.length ≤ 200 && query.toList.all host.isPrintable

/-- `ResearchToolRegistry.validate`: the location query. -/
def validateTool (name : String) (arguments : List (String × Json)) : Checked String := do
  require (name = weatherCurrent) ⟨"unknown_tool", "Research tool is not registered"⟩
  require (Json.HasKeys arguments ["location_query"]) ⟨"invalid_tool_arguments", "Weather arguments are invalid"⟩
  match locationQueryOf arguments with
  | some query =>
    if locationQueryOk host query then .ok query else reject "invalid_tool_arguments" "Weather location query is invalid"
  | none => reject "invalid_tool_arguments" "Weather location query is invalid"

/-- The checks of `WeatherResearchRequest`. -/
def WeatherRequestOk (r : WeatherResearchRequest) : Prop :=
  (r.requestId ≠ "" ∧ Navigation.strip r.requestId.toList = r.requestId.toList ∧ r.requestId.length ≤ 128 ∧
      r.requestId.toList.all host.isPrintable = true) ∧
    locationQueryOk host r.locationQuery = true ∧
    (0 ≤ r.issuedAtMonotonicMs ∧ r.issuedAtMonotonicMs ≤ counterMax) ∧
    (1 ≤ r.validUntilMonotonicMs ∧ r.validUntilMonotonicMs ≤ counterMax) ∧
    (1 ≤ r.validUntilMonotonicMs - r.issuedAtMonotonicMs ∧ r.validUntilMonotonicMs - r.issuedAtMonotonicMs ≤ 10000)

instance (r : WeatherResearchRequest) : Decidable (WeatherRequestOk host r) :=
  inferInstanceAs (Decidable ((_ ∧ _ ∧ _ ∧ _) ∧ _ ∧ (_ ∧ _) ∧ (_ ∧ _) ∧ _ ∧ _))

def execute (name : String) (arguments : List (String × Json)) (requestId : String) (issuedAtMs validUntilMs : Int) :
    Loop (WeatherResearchResult F) := do
  let query ← checked (validateTool host name arguments)
  let request : WeatherResearchRequest := ⟨requestId, query, issuedAtMs, validUntilMs⟩
  Prog.failIf (¬ WeatherRequestOk host request) .research
  let s ← get
  modify fun s => { s with requests := request :: s.requests }
  match world.weather s.requests.length with
  | .error e => throw e
  | .ok (.result result) => return result
  | .ok .otherValue => throw (.loop ⟨"invalid_tool_result", "Weather tool returned an invalid result"⟩)

-- Evidence of a result

def rstrip (c : Char) (s : String) : String := String.ofList (s.toList.reverse.dropWhile (· = c)).reverse

/-- `latitude_token`, `longitude_token`. -/
def token (value : F) : String := if host.isZero value then "0" else rstrip '.' (rstrip '0' (host.fixed6 value))

def invalidToolResult (message : String) : ResearchLoopError := ⟨"invalid_tool_result", message⟩

/-- The result answers this request, and was complete when it was received. -/
def MatchesRequest (result : WeatherResearchResult F) (request : WeatherResearchRequest) (receivedAtMs : Int) : Prop :=
  result.requestId = request.requestId ∧ result.request = some request ∧
    ∃ completed ∈ result.completedAtMonotonicMs, request.issuedAtMonotonicMs ≤ completed ∧ completed ≤ receivedAtMs

instance (result : WeatherResearchResult F) (request : WeatherResearchRequest) (receivedAtMs : Int) :
    Decidable (MatchesRequest result request receivedAtMs) := inferInstanceAs (Decidable (_ ∧ _ ∧ _))

/-- The sources of the result are about the place that was asked for. -/
def SourcesMatch (result : WeatherResearchResult F) (query : String) : Prop :=
  (host.queryOf result.locationUrl).bind (·.lookup "name") = some query ∧
    ∃ weather ∈ host.queryOf result.weatherUrl, weather.lookup "latitude" = some (token host result.latitude) ∧
      weather.lookup "longitude" = some (token host result.longitude)

instance (result : WeatherResearchResult F) (query : String) : Decidable (SourcesMatch host result query) :=
  inferInstanceAs (Decidable (_ ∧ _))

/-- How long the observation stays fresh, once it was retrieved. -/
def remainingFreshness (result : WeatherResearchResult F) : Checked Int := do
  match host.isoUnixMs result.observedAt with
  | none => .error (invalidToolResult "Weather observation time is invalid")
  | some observedAtMs => do
    require ((result.retrievedAtUnixMs - observedAtMs).natAbs < limits.maxWeatherObservationSkewMs)
      ⟨"stale_tool_result", "Weather observation was stale"⟩
    .ok (limits.maxWeatherObservationSkewMs - max 0 (result.retrievedAtUnixMs - observedAtMs))

def ttlValues : List (Option Int) → Checked (List Int)
  | [] => .ok []
  | none :: _ => .error (invalidToolResult "Weather evidence TTL is invalid")
  | some ttl :: ttls => do
    require (0 < ttl) (invalidToolResult "Weather evidence TTL is invalid")
    let rest ← ttlValues ttls
    .ok (ttl :: rest)

/-- `min(ttl_values)`. -/
def minTtl (ttls : List Int) : Checked Int :=
  match ttls.min? with
  | some ttl => .ok ttl
  | none => .error (invalidToolResult "Weather result contained no evidence")

def payloadOf (result : WeatherResearchResult F) : Checked (List (String × Json)) :=
  match result.payload with
  | .obj fields =>
    match host.encodedSize (.obj fields) with
    | none => .error (invalidToolResult "Weather result payload is not JSON-safe")
    | some size => do
      require (size ≤ maxEvidenceBytes) ⟨"evidence_too_large", "Weather evidence exceeded the payload limit"⟩
      .ok fields
  | _ => .error (invalidToolResult "Weather result payload is invalid")

/-- The checks of `ResearchEvidenceEnvelope`. -/
def ResearchEvidenceEnvelope.new (e : ResearchEvidenceEnvelope) : Checked ResearchEvidenceEnvelope := do
  let _ ← identifier "evidence_id" (.str e.evidenceId)
  let _ ← identifier "tool_call_id" (.str e.toolCallId)
  let _ ← identifier "tool_name" (.str e.toolName)
  integers [("produced_from_context_version", e.producedFromContextVersion, 1, counterMax),
    ("received_at_monotonic_ms", e.receivedAtMonotonicMs, 0, counterMax),
    ("valid_until_monotonic_ms", e.validUntilMonotonicMs, 0, counterMax)]
  require (e.receivedAtMonotonicMs < e.validUntilMonotonicMs) ⟨"invalid_evidence_lifetime", "Evidence lifetime is invalid"⟩
  let _ ← freezeJson host 0 0 (.obj e.payload)
  .ok e

/-- `_weather_evidence`, up to the id. -/
def weatherLifetime (result : WeatherResearchResult F) (request : WeatherResearchRequest) (receivedAtMs : Int) :
    Checked (Int × List (String × Json)) := do
  require (MatchesRequest result request receivedAtMs) (invalidToolResult "Weather result did not match its request")
  require (SourcesMatch host result request.locationQuery) (invalidToolResult "Weather provenance did not match the request")
  let remaining ← remainingFreshness host limits result
  let ttls ← ttlValues result.ttls
  let ttl ← minTtl ttls
  let payload ← payloadOf host result
  .ok (min ttl (min limits.evidenceTtlMs remaining), payload)

/-- `"{}{}".format(prefix, self._id_factory())`. -/
def makeId (kind : String) : Loop String := do
  let s ← get
  modify fun s => { s with idsMade := s.idsMade + 1 }
  match world.newId s.idsMade with
  | .error e => throw e
  | .ok raw => return kind ++ raw

def weatherEvidence (result : WeatherResearchResult F) (toolName : String) (request : WeatherResearchRequest)
    (contextVersion receivedAtMs : Int) : Loop ResearchEvidenceEnvelope := do
  let (lifetime, payload) ← checked (weatherLifetime host limits result request receivedAtMs)
  let evidenceId ← makeId world "evidence-"
  let _ ← checked (identifier "evidence_id" (.str evidenceId))
  checked (ResearchEvidenceEnvelope.new host {
    evidenceId
    toolCallId := request.requestId
    toolName
    producedFromContextVersion := contextVersion
    receivedAtMonotonicMs := receivedAtMs
    validUntilMonotonicMs := receivedAtMs + lifetime
    payload })

-- The run

def contextOf (startedAtMs now : Int) (s : Episode) : ResearchPlanningContext where
  turnId := goal.turnId
  userQuery := goal.userQuery
  requireEvidence := goal.requireEvidence
  availableTools := [weatherCurrent]
  usedProposalIds := s.proposalHistory
  contextVersion := s.contextVersion
  evidence := s.evidence.filter (·.fresh now)
  previousFeedback := s.feedback
  plannerTurn := s.plannerTurns + 1
  remainingToolCalls := limits.maxToolCalls - s.toolCalls
  remainingReplans := limits.maxReplans - s.replans
  remainingElapsedMs := max 0 (limits.maxElapsedMs - (now - startedAtMs))
  plannerTimeoutMs := min limits.maxPlannerLatencyMs (max 0 (limits.maxElapsedMs - (now - startedAtMs)))

/-- The decoding of a proposal, and what makes it stale. -/
def examine (raw : RawDecision) : Prog Episode ResearchLoopError ResearchDecision := do
  let proposal ← Prog.ofExcept (decodeResearchDecision host raw)
  let s ← get
  Prog.failIf (proposal.proposalId ∈ s.proposalHistory) ⟨"duplicate_proposal", "Proposal ID was replayed"⟩
  modify fun s => { s with proposalHistory := s.proposalHistory ++ [proposal.proposalId] }
  Prog.failIf (proposal.turnId ≠ goal.turnId) ⟨"wrong_turn", "Proposal referenced another turn"⟩
  Prog.failIf (proposal.basedOnContextVersion ≠ s.contextVersion) ⟨"stale_context", "Proposal referenced another context version"⟩
  return proposal

/-- The evidence of this id, and whether it is fresh. -/
def cites (evidence : List ResearchEvidenceEnvelope) (now : Int) (evidenceId : String) : Bool :=
  ((evidence.reverse.find? (·.evidenceId == evidenceId)).map (·.fresh now)).getD false

def citationsValid (evidence : List ResearchEvidenceEnvelope) (now : Int) (citationIds : List String) : Bool :=
  citationIds.all (cites evidence now) && !(goal.requireEvidence && citationIds.isEmpty)

/-- The branch of `ANSWER`. -/
def answerWith (startedAtMs : Int) (answer : AnswerIntent) : Loop (Option ResearchEpisodeResult) := do
  let (now, exhausted) ← deadline world limits startedAtMs
  if exhausted then giveUp goal .budgetExhausted
  else do
    let s ← get
    if citationsValid goal s.evidence now answer.evidenceIds then finish goal .answered (some answer.text) none answer.evidenceIds
    else replanOr limits goal .budgetExhausted "invalid_or_stale_citation" none

/-- The call of a tool, and the evidence it gives. -/
def gather (tool : ToolCallIntent) (request : WeatherResearchRequest) (contextVersion : Int) : Loop ResearchEvidenceEnvelope := do
  let result ← execute host world tool.name tool.arguments request.requestId request.issuedAtMonotonicMs request.validUntilMonotonicMs
  let completed ← nowMs world
  Prog.failIf (completed < request.issuedAtMonotonicMs ∨ request.validUntilMonotonicMs ≤ completed)
    (.loop ⟨"tool_timeout", "Research tool exceeded its deadline"⟩)
  weatherEvidence host world limits result tool.name request contextVersion completed

def take (toolCallId : String) : Except Raised ResearchEvidenceEnvelope → Loop (Option ResearchEpisodeResult)
  | .ok envelope => do
    let s ← get
    if envelope.evidenceId ∈ s.seenEvidenceIds then giveUp goal .toolFailed
    else do
      modify fun s => { s with seenEvidenceIds := envelope.evidenceId :: s.seenEvidenceIds, evidence := s.evidence ++ [envelope] }
      advance "tool_completed" (some toolCallId)
      note "EVIDENCE_RECEIVED"
      note "REPLANNING"
      return none
  | .error .research => replanOr limits goal .toolFailed "tool_failed" (some toolCallId)
  | .error (.loop e) =>
    if e.code ≠ "tool_timeout" then giveUp goal .toolFailed
    else replanOr limits goal .toolFailed e.code (some toolCallId)
  | .error (.other name) => throw (.other name)

/-- A tool that was found valid is called under a new id. -/
def callTool (startedAtMs : Int) (tool : ToolCallIntent) (query : String) : Loop (Option ResearchEpisodeResult) := do
  let toolCallId ← makeId world "tool-"
  let _ ← checked (identifier "tool_call_id" (.str toolCallId))
  let s ← get
  if toolCallId ∈ s.seenToolCallIds then giveUp goal .toolFailed
  else do
    modify fun s => { s with seenToolCallIds := toolCallId :: s.seenToolCallIds }
    let (issued, exhausted) ← deadline world limits startedAtMs
    if exhausted then giveUp goal .budgetExhausted
    else do
      modify fun s => { s with toolCalls := s.toolCalls + 1 }
      note "CALLING_TOOL"
      let request : WeatherResearchRequest :=
        ⟨toolCallId, query, issued, min (issued + limits.toolRequestTtlMs) (startedAtMs + limits.maxElapsedMs)⟩
      let gathered ← Prog.attempt (gather host world limits tool request s.contextVersion)
      take limits goal toolCallId gathered

/-- The branch of `CALL_TOOL`. -/
def useTool (startedAtMs : Int) (tool : ToolCallIntent) : Loop (Option ResearchEpisodeResult) := do
  let s ← get
  if s.toolCalls ≥ limits.maxToolCalls then giveUp goal .budgetExhausted
  else if s.replans ≥ limits.maxReplans then giveUp goal .budgetExhausted
  else
    match validateTool host tool.name tool.arguments with
    | .error e => replanOr limits goal .budgetExhausted e.code none
    | .ok query => callTool host world limits goal startedAtMs tool query

def act (startedAtMs : Int) : Decision → Loop (Option ResearchEpisodeResult)
  | .abort _ => giveUp goal .plannerAborted
  | .clarify question => finish goal .clarificationRequired none (some question) []
  | .answer answer => answerWith world limits goal startedAtMs answer
  | .callTool tool => useTool host world limits goal startedAtMs tool

/-- A proposal of the planner, examined and acted on. -/
def follow (startedAtMs : Int) (context : ResearchPlanningContext) (raw : RawDecision) : Loop (Option ResearchEpisodeResult) := do
  match ← Prog.attempt (examine host goal raw) with
  | .error e => replanOr limits goal .budgetExhausted e.code none
  | .ok proposal => do
    modify fun s => { s with acted := (context, proposal) :: s.acted }
    act host world limits goal startedAtMs proposal.decision

def consult (startedAtMs : Int) (context : ResearchPlanningContext) : Loop (Option ResearchEpisodeResult) := do
  note "PLANNING"
  let plannerStarted ← nowMs world
  let s ← get
  modify fun s => { s with contexts := context :: s.contexts }
  match world.planner s.contexts.length with
  | .error () => do
    modify fun s => { s with plannerTurns := s.plannerTurns + 1 }
    giveUp goal .plannerFailed
  | .ok raw => do
    let plannerCompleted ← nowMs world
    modify fun s => { s with plannerTurns := s.plannerTurns + 1 }
    if plannerCompleted < plannerStarted ∨ plannerCompleted - plannerStarted ≥ limits.maxPlannerLatencyMs then
      giveUp goal .plannerFailed
    else do
      let (_, exhausted) ← deadline world limits startedAtMs
      if exhausted then giveUp goal .budgetExhausted
      else follow host world limits goal startedAtMs context raw

/-- One turn of the loop: the end of the episode, or none yet. -/
def turn (startedAtMs : Int) : Loop (Option ResearchEpisodeResult) := do
  let (now, exhausted) ← deadline world limits startedAtMs
  let s ← get
  if exhausted = true ∨ s.plannerTurns ≥ limits.maxPlannerTurns then giveUp goal .budgetExhausted
  else do
    let context ← checked (ResearchPlanningContext.new (contextOf limits goal startedAtMs now s))
    consult host world limits goal startedAtMs context

/-- The `while True:` of `run`, for a number of turns. -/
def turns (startedAtMs : Int) : Nat → Loop (Option ResearchEpisodeResult)
  | 0 => return none
  | fuel + 1 => do
    match ← turn host world limits goal startedAtMs with
    | some result => return some result
    | none => turns startedAtMs fuel

/-- `ResearchLoop.run`; one turn more than the planner has ends it. -/
def run : Loop (Option ResearchEpisodeResult) := do
  let startedAtMs ← nowMs world
  turns host world limits goal startedAtMs (limits.maxPlannerTurns + 1)

end

end RobotLlm.Research
