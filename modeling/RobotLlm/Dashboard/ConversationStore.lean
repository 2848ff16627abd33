import RobotLlm.Dashboard.Contract
import RobotLlm.Lib.Dict
import RobotLlm.Lib.Machine
import RobotLlm.Lib.Prog

/-!
# The conversation store

Every operation runs under the store's lock, so that a history of the store is
a sequence of whole operations. What the clock and the id factory answer comes
with each operation: a value or a failure.
-/

namespace RobotLlm.Dashboard

open RobotLlm.Lib
open RobotLlm.Navigation (identifierOk Between counterMax)

/-- What the calls of one operation answer. An id is the text its value has in
`"{}-{}".format`; a clock may return something that is no integer. -/
structure Readings where
  firstId : Except Raised String := .ok ""
  secondId : Except Raised String := .ok ""
  now : Except Raised (Option Int) := .ok (some 0)

structure ConversationStore where
  /-- `_conversations`. -/
  conversations : Dict String Conversation := .empty
  /-- `_turns`. -/
  turns : Dict String ChatTurn := .empty
  /-- `_request_index`. -/
  requestIndex : Dict (String × String) String := .empty

abbrev Store := Prog ConversationStore Raised

def clockValue (name : String) : Option Int → Except Raised Int
  | some value =>
    if Between value 0 counterMax then .ok value else .error (.state "invalid_clock" (name ++ " returned an invalid value"))
  | none => .error (.state "invalid_clock" (name ++ " returned an invalid value"))

/-- `_now`. -/
def Readings.time (r : Readings) : Except Raised Int := r.now >>= clockValue "unix_clock_ms"

def idText (kind value : String) : String := kind ++ "-" ++ value

def newId (kind : String) (value : Except Raised String) : Except Raised String := do
  let value ← value
  require (identifierOk (idText kind value) = true)
    (.state "invalid_id_factory" "ID factory returned an invalid identifier")
  return idText kind value

namespace ConversationStore

/-- `get`. -/
def conversation (conversationId : String) : Store Conversation := do
  match (← get).conversations.get? conversationId with
  | some conversation => return conversation
  | none => throw (.state "conversation_not_found" "Conversation does not exist")

/-- `get_turn`. -/
def turn (turnId : String) : Store ChatTurn := do
  match (← get).turns.get? turnId with
  | some turn => return turn
  | none => throw (.state "turn_not_found" "Chat turn does not exist")

def setConversation (conversationId : String) (c : Conversation) (s : ConversationStore) : ConversationStore :=
  { s with conversations := s.conversations.set conversationId c }

def setTurn (turnId : String) (t : ChatTurn) (s : ConversationStore) : ConversationStore :=
  { s with turns := s.turns.set turnId t }

def setRequest (key : String × String) (turnId : String) (s : ConversationStore) : ConversationStore :=
  { s with requestIndex := s.requestIndex.set key turnId }

def create (title : Option String) (r : Readings) : Store Conversation := do
  let conversationId ← Prog.ofExcept (newId "conversation" r.firstId)
  Prog.failIf (conversationId ∈ (← get).conversations.keys)
    (.state "duplicate_generated_id" "Conversation ID was generated twice")
  let now ← Prog.ofExcept r.time
  let conversation ← Prog.ofExcept (Conversation.make {
    conversationId, version := 1, title, createdAtUnixMs := now, updatedAtUnixMs := now, messages := [] })
  modify (setConversation conversationId conversation)
  return conversation

-- Submission

structure Submission where
  conversationId : String
  clientRequestId : String
  expectedVersion : Int
  content : String
  mode : String
  responseLocale : String := "sv"
  settingsRevision : Int := 1
deriving DecidableEq

def Submission.key (a : Submission) : String × String := (a.conversationId, a.clientRequestId)

/-- The content of a submission is that of the turn. -/
def Submission.Matches (a : Submission) (t : TurnFields) : Prop :=
  t.content = a.content ∧ t.mode = a.mode ∧ t.responseLocale = a.responseLocale ∧
    t.settingsRevision = a.settingsRevision

instance (a : Submission) (t : TurnFields) : Decidable (a.Matches t) := inferInstanceAs (Decidable (_ ∧ _ ∧ _ ∧ _))

def resubmit (a : Submission) (conversation : Conversation) (turnId : String) :
    Store (Conversation × ChatTurn × Bool) := do
  match (← get).turns.get? turnId with
  | none => throw (.other "KeyError")
  | some existing => do
    Prog.failIf (¬ a.Matches existing.toTurnFields)
      (.state "idempotency_conflict" "Client request ID was reused with other content")
    return (conversation, existing, false)

def Submission.queued (a : Submission) (turnId : String) (now : Int) : TurnFields where
  turnId := turnId
  conversationId := a.conversationId
  clientRequestId := a.clientRequestId
  mode := a.mode
  responseLocale := a.responseLocale
  settingsRevision := a.settingsRevision
  status := .queued
  content := a.content
  createdAtUnixMs := now

def submitNew (a : Submission) (conversation : Conversation) (r : Readings) :
    Store (Conversation × ChatTurn × Bool) := do
  Prog.failIf (a.expectedVersion ≠ conversation.version)
    (.state "conversation_version_conflict" "Conversation version does not match")
  Prog.failIf (conversation.activeTurnId ≠ none)
    (.state "conversation_turn_active" "Conversation already has an active turn")
  let turnId ← Prog.ofExcept (newId "turn" r.firstId)
  let messageId ← Prog.ofExcept (newId "message" r.secondId)
  Prog.failIf (turnId ∈ (← get).turns.keys ∨ messageId ∈ conversation.messages.map (·.messageId))
    (.state "duplicate_generated_id" "Chat ID was generated twice")
  let now ← Prog.ofExcept r.time
  let turn ← Prog.ofExcept (ChatTurn.make (a.queued turnId now))
  let message ← Prog.ofExcept (ChatMessage.make {
    messageId, turnId, role := .user, content := a.content, createdAtUnixMs := now })
  let updated ← Prog.ofExcept (Conversation.make { conversation.toConversationFields with
    version := conversation.version + 1, updatedAtUnixMs := now, activeTurnId := some turnId,
    messages := conversation.messages ++ [message] })
  modify (setConversation a.conversationId updated)
  modify (setTurn turnId turn)
  modify (setRequest a.key turnId)
  return (updated, turn, true)

def submitTurn (a : Submission) (r : Readings) : Store (Conversation × ChatTurn × Bool) := do
  Prog.failIf (a.mode ∉ chatModes) (.state "invalid_chat_mode" "Chat turn mode is unsupported")
  Prog.failIf (a.responseLocale ∉ responseLocales)
    (.state "invalid_response_locale" "Chat response locale is unsupported")
  let conversation ← conversation a.conversationId
  match (← get).requestIndex.get? a.key with
  | some turnId => resubmit a conversation turnId
  | none => submitNew a conversation r

-- The way of a turn

def startQueued (turnId : String) (turn : ChatTurn) (r : Readings) : Store (Conversation × ChatTurn) := do
  Prog.failIf (turn.status ≠ .queued) (.state "invalid_turn_transition" "Only a queued turn can start")
  let now ← Prog.ofExcept r.time
  let running ← Prog.ofExcept (ChatTurn.make { turn.toTurnFields with status := .running, startedAtUnixMs := some now })
  modify (setTurn turnId running)
  return (← conversation turn.conversationId, running)

def markRunning (turnId : String) (r : Readings) : Store (Conversation × ChatTurn) := do
  let turn ← turn turnId
  if turn.status = .running then do return (← conversation turn.conversationId, turn) else startQueued turnId turn r

/-- The turn and its conversation, if the turn is as it has to be. -/
def activeTurn (turnId : String) (status : TurnStatus) (message : String) : Store (Conversation × ChatTurn) := do
  let turn ← turn turnId
  let conversation ← conversation turn.conversationId
  Prog.failIf (turn.status ≠ status) (.state "invalid_turn_transition" message)
  Prog.failIf (conversation.activeTurnId ≠ some turnId)
    (.state "active_turn_mismatch" "Conversation active turn does not match")
  return (conversation, turn)

def failQueued (turnId errorCode : String) (r : Readings) : Store (Conversation × ChatTurn) := do
  let (conversation, turn) ← activeTurn turnId .queued "Only a queued turn can be cancelled"
  let now ← Prog.ofExcept r.time
  let failed ← Prog.ofExcept (ChatTurn.make { turn.toTurnFields with
    status := .failed, startedAtUnixMs := some now, completedAtUnixMs := some now, errorCode := some errorCode })
  let updated ← Prog.ofExcept (Conversation.make { conversation.toConversationFields with
    version := conversation.version + 1, updatedAtUnixMs := now, activeTurnId := none })
  modify (setTurn turnId failed)
  modify (setConversation conversation.conversationId updated)
  return (updated, failed)

structure Completion where
  status : TurnStatus
  answerText : Option String := none
  clarificationQuestion : Option String := none
  citationIds : List String := []
  errorCode : Option String := none

def Completion.responseContent (c : Completion) : Option String :=
  match c.status with
  | .answered => c.answerText
  | .clarificationRequired => c.clarificationQuestion
  | .queued | .running | .failed => none

/-- The message of the assistant, if the turn has one. Its id is not compared
with those of the conversation. -/
def responseMessages (turnId : String) (c : Completion) (now : Int) (id : Except Raised String) :
    Except Raised (List ChatMessage) :=
  match c.responseContent with
  | none => .ok []
  | some content => do
    let messageId ← newId "message" id
    let message ← ChatMessage.make {
      messageId, turnId, role := .assistant, content, createdAtUnixMs := now
      citationIds := if c.status = .answered then c.citationIds else [] }
    return [message]

def complete (turnId : String) (c : Completion) (r : Readings) : Store (Conversation × ChatTurn) := do
  let (conversation, turn) ← activeTurn turnId .running "Only a running turn can complete"
  let now ← Prog.ofExcept r.time
  let completed ← Prog.ofExcept (ChatTurn.make { turn.toTurnFields with
    status := c.status, completedAtUnixMs := some now, answerText := c.answerText
    clarificationQuestion := c.clarificationQuestion, citationIds := c.citationIds, errorCode := c.errorCode })
  let response ← Prog.ofExcept (responseMessages turnId c now r.firstId)
  let updated ← Prog.ofExcept (Conversation.make { conversation.toConversationFields with
    version := conversation.version + 1, updatedAtUnixMs := now, activeTurnId := none
    messages := conversation.messages ++ response })
  modify (setTurn turnId completed)
  modify (setConversation conversation.conversationId updated)
  return (updated, completed)

def completeAnswer (turnId answerText : String) (citationIds : List String) : Readings → Store (Conversation × ChatTurn) :=
  complete turnId { status := .answered, answerText := some answerText, citationIds }

def completeClarification (turnId question : String) : Readings → Store (Conversation × ChatTurn) :=
  complete turnId { status := .clarificationRequired, clarificationQuestion := some question }

def completeFailed (turnId errorCode : String) : Readings → Store (Conversation × ChatTurn) :=
  complete turnId { status := .failed, errorCode := some errorCode }

-- The store as a machine

inductive StoreCall where
  | create (title : Option String)
  | submitTurn (a : Submission)
  | markRunning (turnId : String)
  | failQueued (turnId errorCode : String)
  | completeAnswer (turnId answerText : String) (citationIds : List String)
  | completeClarification (turnId question : String)
  | completeFailed (turnId errorCode : String)

inductive StoreReply where
  | created (conversation : Conversation)
  | submitted (conversation : Conversation) (turn : ChatTurn) (new : Bool)
  | turned (conversation : Conversation) (turn : ChatTurn)
deriving DecidableEq

def StoreReply.ofTurn (x : Conversation × ChatTurn) : StoreReply := .turned x.1 x.2

def StoreReply.ofSubmission (x : Conversation × ChatTurn × Bool) : StoreReply := .submitted x.1 x.2.1 x.2.2

def perform (call : StoreCall) (r : Readings) : Store StoreReply :=
  match call with
  | .create title => .created <$> create title r
  | .submitTurn a => .ofSubmission <$> submitTurn a r
  | .markRunning turnId => .ofTurn <$> markRunning turnId r
  | .failQueued turnId errorCode => .ofTurn <$> failQueued turnId errorCode r
  | .completeAnswer turnId answerText citationIds => .ofTurn <$> completeAnswer turnId answerText citationIds r
  | .completeClarification turnId question => .ofTurn <$> completeClarification turnId question r
  | .completeFailed turnId errorCode => .ofTurn <$> completeFailed turnId errorCode r

/-- One call and what its clock and id factory answer. -/
abbrev StoreInput := StoreCall × Readings

abbrev StoreEvent := StoreInput × Except Raised StoreReply

def conversationStore : Machine ConversationStore StoreInput (Except Raised StoreReply) where
  step s i := perform i.1 i.2 s

end ConversationStore

end RobotLlm.Dashboard
