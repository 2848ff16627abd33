import RobotLlm.Lib.Check
import RobotLlm.Lib.Json
import RobotLlm.Navigation.Contract

/-!
# Research decisions

What a planner may say: call a tool, answer with citations, ask back, or give
up. A decision is decoded from bytes by exact fields.
-/

namespace RobotLlm.Research

open RobotLlm.Lib

structure ResearchLoopError where
  code : String
  message : String
deriving DecidableEq

abbrev Checked := Except ResearchLoopError

def reject (code message : String) : Checked α := .error ⟨code, message⟩

inductive LoadsFailure where
  | recursion
  | invalid

structure ResearchHost (F : Type) where
  /-- `json.loads` of the decoded bytes, which refuses a key that comes twice. -/
  loads : List UInt8 → Except LoadsFailure Json
  /-- `json.dumps(..).encode("utf-8")`, by its length. -/
  encodedSize : Json → Option Nat
  /-- The float of a JSON number is finite. -/
  isFinite : String → Bool
  isPrintable : Char → Bool
  /-- `dict(parse_qsl(urlsplit(url).query, ..))`. -/
  queryOf : String → Option (List (String × String))
  isZero : F → Bool
  /-- `"{:.6f}".format(value)`. -/
  fixed6 : F → String
  /-- The milliseconds of `datetime.fromisoformat(value)`, taken as UTC. -/
  isoUnixMs : String → Option Int

-- Field checks

def identifier (name : String) (value : Json) (maximum : Nat := 128) : Checked String :=
  match value with
  | .str text =>
    if Navigation.identifierOk text maximum then .ok text else reject "invalid_identifier" (name ++ " is invalid")
  | _ => reject "invalid_identifier" (name ++ " is invalid")

def textOk (value : String) (maximum : Nat) : Bool :=
  let cs := value.toList
  !(Navigation.strip cs).isEmpty && cs.length ≤ maximum && cs.all fun c => 32 ≤ c.toNat || c == '\n' || c == '\r' || c == '\t'

def text (name : String) (value : Json) (maximum : Nat) : Checked String :=
  match value with
  | .str s => if textOk s maximum then .ok s else reject "invalid_text" (name ++ " is invalid")
  | _ => reject "invalid_text" (name ++ " is invalid")

def integer (name : String) (value : Json) (minimum maximum : Int) : Checked Int :=
  match value with
  | .int n => if minimum ≤ n ∧ n ≤ maximum then .ok n else reject "invalid_integer" (name ++ " is invalid")
  | _ => reject "invalid_integer" (name ++ " is invalid")

def counterMax : Int := 2 ^ 63 - 1

def maxDecisionBytes : Nat := 16 * 1024
def maxEvidenceBytes : Nat := 64 * 1024

section
variable {F : Type} (host : ResearchHost F)

mutual

/-- `_freeze_json`, as a check: how many values were counted. -/
def freezeJson (depth counter : Nat) (value : Json) : Checked Nat := do
  require (depth ≤ 16 ∧ counter + 1 ≤ 4096) ⟨"json_complexity_limit", "JSON value exceeded the complexity limit"⟩
  match value with
  | .obj fields => freezeFields depth (counter + 1) fields
  | .arr items => freezeItems depth (counter + 1) items
  | .str s => do
    require (s.length ≤ maxEvidenceBytes) ⟨"json_string_limit", "JSON string exceeded the size limit"⟩
    .ok (counter + 1)
  | .float digits => do
    require (host.isFinite digits = true) ⟨"invalid_json_value", "JSON value is invalid"⟩
    .ok (counter + 1)
  | .null | .bool _ | .int _ => .ok (counter + 1)

def freezeFields (depth counter : Nat) : List (String × Json) → Checked Nat
  | [] => .ok counter
  | (key, item) :: fields => do
    require (key.length ≤ 1000) ⟨"invalid_json_value", "JSON object key is invalid"⟩
    let counter ← freezeJson (depth + 1) counter item
    freezeFields depth counter fields

def freezeItems (depth counter : Nat) : List Json → Checked Nat
  | [] => .ok counter
  | item :: items => do
    let counter ← freezeJson (depth + 1) counter item
    freezeItems depth counter items

end

-- Goals and intents

structure ResearchGoal where
  turnId : String
  userQuery : String
  requireEvidence : Bool := false
  turnIdOk : Navigation.identifierOk turnId := by decide
  userQueryOk : textOk userQuery 4000 := by decide

structure ToolCallIntent where
  name : String
  arguments : List (String × Json)

structure AnswerIntent where
  text : String
  evidenceIds : List String
  evidenceIdsOk : evidenceIds.length ≤ 32 ∧ evidenceIds.Nodup

/-- `decision`, with what it carries. -/
inductive Decision where
  | callTool (tool : ToolCallIntent)
  | answer (answer : AnswerIntent)
  | clarify (question : String)
  | abort (abortCode : String)

structure ResearchDecision where
  proposalId : String
  turnId : String
  basedOnContextVersion : Int
  decision : Decision

-- Decoding

def toolCallIntent (name : String) (arguments : List (String × Json)) : Checked ToolCallIntent := do
  let _ ← freezeJson host 0 0 (.obj arguments)
  .ok ⟨name, arguments⟩

/-- The loop over the evidence ids, those before it being `seen`. -/
def evidenceIdsOf (seen : List String) : List Json → Checked (List String)
  | [] => .ok []
  | value :: values => do
    let evidenceId ← identifier "evidence_id" value
    require (evidenceId ∉ seen) ⟨"duplicate_evidence_id", "Answer repeated an evidence ID"⟩
    let evidenceIds ← evidenceIdsOf (evidenceId :: seen) values
    .ok (evidenceId :: evidenceIds)

theorem evidenceIdsOf_nodup {values : List Json} : ∀ {seen ids : List String}, evidenceIdsOf seen values = .ok ids →
    ids.length = values.length ∧ ids.Nodup ∧ ∀ id ∈ ids, id ∉ seen := by
  induction values with
  | nil =>
    intro seen ids h
    cases h
    simp
  | cons value values ih =>
    intro seen ids h
    rw [evidenceIdsOf, bind_ok_iff] at h
    obtain ⟨id, -, h⟩ := h
    rw [require_bind_ok_iff, bind_ok_iff] at h
    obtain ⟨hseen, rest, hrest, h⟩ := h
    cases h
    obtain ⟨hlen, hnodup, hnot⟩ := ih hrest
    refine ⟨by simp [hlen], List.nodup_cons.mpr ⟨fun hm => hnot id hm List.mem_cons_self, hnodup⟩, fun i hi => ?_⟩
    obtain rfl | hi := List.mem_cons.mp hi
    · exact hseen
    · exact fun hs => hnot i hi (List.mem_cons_of_mem _ hs)

def answerIntent (answer : String) (evidenceIds : List Json) : Checked AnswerIntent :=
  if hlen : evidenceIds.length ≤ 32 then
    match hids : evidenceIdsOf [] evidenceIds with
    | .ok ids => .ok ⟨answer, ids, (evidenceIdsOf_nodup hids).1 ▸ hlen, (evidenceIdsOf_nodup hids).2.1⟩
    | .error e => .error e
  else reject "invalid_evidence_ids" "Answer evidence IDs are invalid"

def commonFields : List String := ["schema", "proposal_id", "turn_id", "based_on_context_version", "decision"]

/-- `value["decision"]` with the field that belongs to it. -/
def decodeIntent (value : List (String × Json)) : Checked Decision :=
  match value.lookup "decision" with
  | some (.str "CALL_TOOL") => do
    require (Json.HasKeys value (commonFields ++ ["tool"])) ⟨"invalid_decision_fields", "CALL_TOOL decision fields are invalid"⟩
    match value.lookup "tool" with
    | some (.obj tool) =>
      match tool.lookup "arguments" with
      | some (.obj arguments) => do
        require (Json.HasKeys tool ["name", "arguments"]) ⟨"invalid_tool", "Tool proposal is invalid"⟩
        let name ← identifier "tool name" ((tool.lookup "name").getD .null)
        .callTool <$> toolCallIntent host name arguments
      | _ => reject "invalid_tool" "Tool proposal is invalid"
    | _ => reject "invalid_tool" "Tool proposal is invalid"
  | some (.str "ANSWER") => do
    require (Json.HasKeys value (commonFields ++ ["answer"])) ⟨"invalid_decision_fields", "ANSWER decision fields are invalid"⟩
    match value.lookup "answer" with
    | some (.obj answer) =>
      match answer.lookup "evidence_ids" with
      | some (.arr evidenceIds) => do
        require (Json.HasKeys answer ["text", "evidence_ids"]) ⟨"invalid_answer", "Answer proposal is invalid"⟩
        let said ← text "answer text" ((answer.lookup "text").getD .null) 4000
        .answer <$> answerIntent said evidenceIds
      | _ => reject "invalid_answer" "Answer proposal is invalid"
    | _ => reject "invalid_answer" "Answer proposal is invalid"
  | some (.str "CLARIFY") => do
    require (Json.HasKeys value (commonFields ++ ["question"])) ⟨"invalid_decision_fields", "CLARIFY decision fields are invalid"⟩
    .clarify <$> text "question" ((value.lookup "question").getD .null) 1000
  | some (.str "ABORT") => do
    require (Json.HasKeys value (commonFields ++ ["abort_code"])) ⟨"invalid_decision_fields", "ABORT decision fields are invalid"⟩
    .abort <$> identifier "abort_code" ((value.lookup "abort_code").getD .null) 64
  | _ => reject "invalid_decision" "Decision must be CALL_TOOL, ANSWER, CLARIFY or ABORT"

/-- What a planner gives back: bytes, or something else. -/
abbrev RawDecision := Option (List UInt8)

def decodeResearchDecision (raw : RawDecision) : Checked ResearchDecision :=
  match raw with
  | none => reject "invalid_decision_body" "Planner decision body is invalid"
  | some bytes => do
    require (bytes ≠ [] ∧ bytes.length ≤ maxDecisionBytes) ⟨"invalid_decision_body", "Planner decision body is invalid"⟩
    match host.loads bytes with
    | .error .recursion => reject "json_complexity_limit" "Planner decision exceeded the JSON complexity limit"
    | .error .invalid => reject "invalid_decision_json" "Planner returned invalid JSON"
    | .ok (.obj value) => do
      let decision ← decodeIntent host value
      require (Json.IsStr "research-decision/v1" (value.lookup "schema"))
        ⟨"invalid_decision_schema", "Planner decision schema is not supported"⟩
      let proposalId ← identifier "proposal_id" ((value.lookup "proposal_id").getD .null)
      let turnId ← identifier "turn_id" ((value.lookup "turn_id").getD .null)
      let basedOnContextVersion ← integer "based_on_context_version" ((value.lookup "based_on_context_version").getD .null) 1 counterMax
      .ok { proposalId, turnId, basedOnContextVersion, decision }
    | .ok _ => reject "invalid_decision_shape" "Planner decision must be an object"

end

end RobotLlm.Research
