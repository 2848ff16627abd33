import RobotLlm.Lib.Check
import RobotLlm.Navigation.Contract

/-!
# Dashboard contracts

The values of a conversation. A value carries the checks of its
`__post_init__`; `make` is its constructor, which raises what the first failed
check raises, and `replace` is `make` of the changed fields.
-/

namespace RobotLlm.Dashboard

open RobotLlm.Lib
open RobotLlm.Navigation (identifierOk strip Between counterMax)

inductive Raised where
  /-- `DashboardContractError`. -/
  | contract (code message : String)
  /-- `DashboardStateError`. -/
  | state (code message : String)
  /-- `KeyError`, or what a clock, an id factory or a runner raises. -/
  | other (text : String)
deriving DecidableEq

def chatModes : List String := ["conversation", "research_required"]

def responseLocales : List String := ["sv", "en"]

-- Field checks

def identifier (name value : String) (maximum : Nat := 128) : Except Raised Unit :=
  require (identifierOk value maximum = true) (.contract "invalid_identifier" (name ++ " is invalid"))

def optionalIdentifier (name : String) (value : Option String) (maximum : Nat := 128) : Except Raised Unit :=
  match value with
  | none => .ok ()
  | some value => identifier name value maximum

def textOk (value : String) (maximum : Nat) : Bool :=
  let cs := value.toList
  !(strip cs).isEmpty && strip cs == cs && cs.length ≤ maximum &&
    cs.all fun c => 32 ≤ c.toNat || c == '\n' || c == '\r' || c == '\t'

/-- `_text`, which allows newlines in the texts modelled here. -/
def text (name value : String) (maximum : Nat) : Except Raised Unit :=
  require (textOk value maximum = true) (.contract "invalid_text" (name ++ " is invalid"))

def optionalText (name : String) (value : Option String) (maximum : Nat) : Except Raised Unit :=
  match value with
  | none => .ok ()
  | some value => text name value maximum

def integer (name : String) (value minimum maximum : Int) : Except Raised Unit :=
  require (Between value minimum maximum) (.contract "invalid_integer" (name ++ " is invalid"))

def eachIdentifier (name : String) : List String → Except Raised Unit
  | [] => .ok ()
  | value :: values => do
    identifier name value
    eachIdentifier name values

def citations (message : String) (ids : List String) : Except Raised Unit := do
  require (ids.Nodup ∧ ids.length ≤ 32) (.contract "invalid_citation_ids" message)
  eachIdentifier "citation_id" ids

-- Messages

inductive Role where
  | user
  | assistant
deriving DecidableEq

structure MessageFields where
  messageId : String
  turnId : String
  role : Role
  content : String
  createdAtUnixMs : Int
  citationIds : List String := []
deriving DecidableEq

def MessageFields.check (m : MessageFields) : Except Raised Unit := do
  identifier "message_id" m.messageId
  identifier "turn_id" m.turnId
  text "message content" m.content 4000
  integer "created_at_unix_ms" m.createdAtUnixMs 0 counterMax
  citations "Message citation IDs are invalid" m.citationIds
  require (m.role = .user → m.citationIds = [])
    (.contract "invalid_citation_ids" "User messages cannot carry research citations")

structure ChatMessage extends MessageFields where
  valid : toMessageFields.check = .ok ()
deriving DecidableEq

def ChatMessage.make (m : MessageFields) : Except Raised ChatMessage :=
  match h : m.check with
  | .ok () => .ok ⟨m, h⟩
  | .error e => .error e

-- Conversations

structure ConversationFields where
  conversationId : String
  version : Int
  createdAtUnixMs : Int
  updatedAtUnixMs : Int
  messages : List ChatMessage
  activeTurnId : Option String := none
  title : Option String := none
deriving DecidableEq

def ConversationFields.check (c : ConversationFields) : Except Raised Unit := do
  identifier "conversation_id" c.conversationId
  integer "version" c.version 1 counterMax
  integer "created_at_unix_ms" c.createdAtUnixMs 0 counterMax
  integer "updated_at_unix_ms" c.updatedAtUnixMs c.createdAtUnixMs counterMax
  optionalIdentifier "active_turn_id" c.activeTurnId
  optionalText "conversation title" c.title 120

structure Conversation extends ConversationFields where
  valid : toConversationFields.check = .ok ()
deriving DecidableEq

def Conversation.make (c : ConversationFields) : Except Raised Conversation :=
  match h : c.check with
  | .ok () => .ok ⟨c, h⟩
  | .error e => .error e

-- Turns

inductive TurnStatus where
  | queued
  | running
  | answered
  | clarificationRequired
  | failed
deriving DecidableEq

def TurnStatus.terminal : TurnStatus → Bool
  | .queued | .running => false
  | .answered | .clarificationRequired | .failed => true

structure TurnFields where
  turnId : String
  conversationId : String
  clientRequestId : String
  mode : String
  responseLocale : String
  settingsRevision : Int
  status : TurnStatus
  content : String
  createdAtUnixMs : Int
  startedAtUnixMs : Option Int := none
  completedAtUnixMs : Option Int := none
  answerText : Option String := none
  clarificationQuestion : Option String := none
  citationIds : List String := []
  errorCode : Option String := none
deriving DecidableEq

/-- The fields that a status has, and those it has not. -/
def TurnFields.ShapeOk (t : TurnFields) : Prop :=
  match t.status with
  | .queued =>
    t.startedAtUnixMs = none ∧ t.completedAtUnixMs = none ∧ t.answerText = none ∧ t.clarificationQuestion = none ∧
      t.citationIds = [] ∧ t.errorCode = none
  | .running =>
    t.startedAtUnixMs ≠ none ∧ t.completedAtUnixMs = none ∧ t.answerText = none ∧ t.clarificationQuestion = none ∧
      t.citationIds = [] ∧ t.errorCode = none
  | .answered =>
    t.startedAtUnixMs ≠ none ∧ t.completedAtUnixMs ≠ none ∧ t.answerText ≠ none ∧ t.clarificationQuestion = none ∧
      t.errorCode = none
  | .clarificationRequired =>
    t.startedAtUnixMs ≠ none ∧ t.completedAtUnixMs ≠ none ∧ t.answerText = none ∧ t.clarificationQuestion ≠ none ∧
      t.citationIds = [] ∧ t.errorCode = none
  | .failed =>
    t.startedAtUnixMs ≠ none ∧ t.completedAtUnixMs ≠ none ∧ t.answerText = none ∧ t.clarificationQuestion = none ∧
      t.citationIds = [] ∧ t.errorCode ≠ none

instance (t : TurnFields) : Decidable t.ShapeOk := by
  unfold TurnFields.ShapeOk
  cases t.status <;> exact inferInstance

def optionalInteger (name : String) (value : Option Int) (minimum maximum : Int) : Except Raised Unit :=
  match value with
  | none => .ok ()
  | some value => integer name value minimum maximum

def TurnFields.check (t : TurnFields) : Except Raised Unit := do
  identifier "turn_id" t.turnId
  identifier "conversation_id" t.conversationId
  identifier "client_request_id" t.clientRequestId
  require (t.mode ∈ chatModes) (.contract "invalid_chat_mode" "Chat turn mode is unsupported")
  require (t.responseLocale ∈ responseLocales)
    (.contract "invalid_response_locale" "Chat response locale is unsupported")
  integer "settings_revision" t.settingsRevision 1 counterMax
  text "turn content" t.content 4000
  integer "created_at_unix_ms" t.createdAtUnixMs 0 counterMax
  optionalInteger "started_at_unix_ms" t.startedAtUnixMs t.createdAtUnixMs counterMax
  optionalInteger "completed_at_unix_ms" t.completedAtUnixMs (t.startedAtUnixMs.getD t.createdAtUnixMs) counterMax
  optionalText "answer_text" t.answerText 4000
  optionalText "clarification_question" t.clarificationQuestion 1000
  optionalIdentifier "error_code" t.errorCode 64
  citations "Turn citation IDs are invalid" t.citationIds
  require t.ShapeOk (.contract "invalid_turn_shape" "Chat turn fields do not match its status")

structure ChatTurn extends TurnFields where
  valid : toTurnFields.check = .ok ()
deriving DecidableEq

def ChatTurn.make (t : TurnFields) : Except Raised ChatTurn :=
  match h : t.check with
  | .ok () => .ok ⟨t, h⟩
  | .error e => .error e

-- What was made

theorem ChatMessage.make_ok {m : MessageFields} {message : ChatMessage} (h : ChatMessage.make m = .ok message) :
    message.toMessageFields = m := by
  unfold ChatMessage.make at h
  split at h
  · cases h
    rfl
  · cases h

theorem Conversation.make_ok {c : ConversationFields} {conversation : Conversation}
    (h : Conversation.make c = .ok conversation) : conversation.toConversationFields = c := by
  unfold Conversation.make at h
  split at h
  · cases h
    rfl
  · cases h

theorem ChatTurn.make_ok {t : TurnFields} {turn : ChatTurn} (h : ChatTurn.make t = .ok turn) : turn.toTurnFields = t := by
  unfold ChatTurn.make at h
  split at h
  · cases h
    rfl
  · cases h

theorem ChatTurn.modeOk (turn : ChatTurn) : turn.mode ∈ chatModes := by
  have h := turn.valid
  by_contra hno
  simp [TurnFields.check, bind_ok_iff, require_neg hno] at h

theorem ChatTurn.localeOk (turn : ChatTurn) : turn.responseLocale ∈ responseLocales := by
  have h := turn.valid
  by_contra hno
  simp [TurnFields.check, bind_ok_iff, require_neg hno] at h

end RobotLlm.Dashboard
