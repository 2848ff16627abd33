import RobotLlm.Dashboard.ConversationStore

/-!
# What a conversation keeps

`Effect` says once what an operation that answers does; every law of the store
is derived from it. An operation that raises leaves the store as it was. The
ids of the messages are the exception: a completion does not compare the id it
generates, so that they are unique as long as no completion repeats one.
-/

namespace RobotLlm.Dashboard.ConversationStore

open RobotLlm.Lib
open RobotLlm.Lib.Prog (Triple)

-- What an operation does

def SameRequest (t t' : TurnFields) : Prop :=
  t'.turnId = t.turnId ∧ t'.conversationId = t.conversationId ∧ t'.clientRequestId = t.clientRequestId ∧
    t'.content = t.content ∧ t'.mode = t.mode ∧ t'.responseLocale = t.responseLocale ∧
    t'.settingsRevision = t.settingsRevision

def Answering (s : TurnStatus) : Prop := s = .answered ∨ s = .clarificationRequired

instance (s : TurnStatus) : Decidable (Answering s) := inferInstanceAs (Decidable (_ ∨ _))

/-- The messages that end a turn with this status: one of the assistant, or none. -/
def Response (turnId : String) (status : TurnStatus) (id : Except Raised String) (messages : List ChatMessage) : Prop :=
  if Answering status then
    ∃ message value, messages = [message] ∧ message.turnId = turnId ∧ message.role = .assistant ∧ id = .ok value ∧
      message.messageId = idText "message" value
  else messages = []

def StoreCall.ends : StoreCall → Option String
  | .failQueued turnId _ | .completeAnswer turnId _ _ | .completeClarification turnId _ | .completeFailed turnId _ =>
    some turnId
  | .create _ | .submitTurn _ | .markRunning _ => none

def StoreCall.answers : StoreCall → Option String
  | .completeAnswer turnId _ _ | .completeClarification turnId _ => some turnId
  | .create _ | .submitTurn _ | .markRunning _ | .failQueued _ _ | .completeFailed _ _ => none

/-- A conversation that moved on: one version more, and messages added. -/
def MovedOn (c c' : Conversation) (activeTurnId : Option String) (messages : List ChatMessage) : Prop :=
  c'.conversationId = c.conversationId ∧ c'.version = c.version + 1 ∧ c'.activeTurnId = activeTurnId ∧
    c'.messages = c.messages ++ messages

theorem MovedOn.of_fields {c c' : Conversation} {now : Int} {active : Option String} {messages : List ChatMessage}
    (h : c'.toConversationFields = { c.toConversationFields with
      version := c.version + 1, updatedAtUnixMs := now, activeTurnId := active
      messages := c.messages ++ messages }) : MovedOn c c' active messages :=
  ⟨by rw [h], by rw [h], by rw [h], by rw [h]⟩

/-- A new turn takes the place of the active one, with its message. -/
structure Submits (s : ConversationStore) (a : Submission) (conversation updated : Conversation) (turn : ChatTurn)
    (message : ChatMessage) : Prop where
  found : s.conversations.get? a.conversationId = some conversation
  unseen : s.requestIndex.get? a.key = none
  idle : conversation.activeTurnId = none
  newTurn : turn.turnId ∉ s.turns.keys
  newMessage : message.messageId ∉ conversation.messages.map (·.messageId)
  turnIs : ∃ now, turn.toTurnFields = a.queued turn.turnId now
  messageIs : message.turnId = turn.turnId ∧ message.role = .user
  moved : MovedOn conversation updated (some turn.turnId) [message]

structure Ends (s : ConversationStore) (call : StoreCall) (r : Readings) (turnId : String)
    (conversation updated : Conversation) (turn done : ChatTurn) (messages : List ChatMessage) : Prop where
  endsTurn : call.ends = some turnId
  answersTurn : call.answers = if Answering done.status then some turnId else none
  foundTurn : s.turns.get? turnId = some turn
  found : s.conversations.get? turn.conversationId = some conversation
  unended : turn.status.terminal = false
  running : call.answers ≠ none → turn.status = .running
  active : conversation.activeTurnId = some turnId
  same : SameRequest turn.toTurnFields done.toTurnFields
  ended : done.status.terminal = true
  response : Response turnId done.status r.firstId messages
  moved : MovedOn conversation updated none messages

inductive Effect (s : ConversationStore) : StoreInput → StoreReply → ConversationStore → Prop
  | created (hnew : c.conversationId ∉ s.conversations.keys) (hversion : c.version = 1) (hidle : c.activeTurnId = none)
      (hmessages : c.messages = []) :
    Effect s (.create title, r) (.created c) (setConversation c.conversationId c s)
  | repeated (hfound : s.conversations.get? a.conversationId = some c) (hseen : s.requestIndex.get? a.key = some turnId)
      (hturn : s.turns.get? turnId = some t) (hmatches : a.Matches t.toTurnFields) :
    Effect s (.submitTurn a, r) (.submitted c t false) s
  | submitted (h : Submits s a c c' t m) :
    Effect s (.submitTurn a, r) (.submitted c' t true)
      (setRequest a.key t.turnId (setTurn t.turnId t (setConversation a.conversationId c' s)))
  | alreadyRunning (hturn : s.turns.get? turnId = some t) : Effect s (.markRunning turnId, r) (.turned c t) s
  | started (hturn : s.turns.get? turnId = some t) (hqueued : t.status = .queued)
      (hsame : SameRequest t.toTurnFields t'.toTurnFields) (hrunning : t'.status = .running) :
    Effect s (.markRunning turnId, r) (.turned c t') (setTurn turnId t' s)
  | ended (h : Ends s call r turnId c c' t t' messages) :
    Effect s (call, r) (.turned c' t') (setConversation c.conversationId c' (setTurn turnId t' s))

section
variable {s : ConversationStore} {key key' : String × String} {k k' : String} {c : Conversation} {t : ChatTurn}

@[simp] theorem setConversation_turns : (setConversation k c s).turns = s.turns := rfl
@[simp] theorem setConversation_requestIndex : (setConversation k c s).requestIndex = s.requestIndex := rfl
@[simp] theorem setTurn_conversations : (setTurn k t s).conversations = s.conversations := rfl
@[simp] theorem setTurn_requestIndex : (setTurn k t s).requestIndex = s.requestIndex := rfl
@[simp] theorem setRequest_conversations : (setRequest key k s).conversations = s.conversations := rfl
@[simp] theorem setRequest_turns : (setRequest key k s).turns = s.turns := rfl

@[simp] theorem setConversation_get : (setConversation k c s).conversations.get? k' =
    if k' = k then some c else s.conversations.get? k' := Dict.get?_set

@[simp] theorem setTurn_get : (setTurn k t s).turns.get? k' = if k' = k then some t else s.turns.get? k' := Dict.get?_set

@[simp] theorem setRequest_get : (setRequest key k s).requestIndex.get? key' =
    if key' = key then some k else s.requestIndex.get? key' := Dict.get?_set

end

/-- Every turn belongs to a conversation of the store. -/
def Housed (s : ConversationStore) : Prop :=
  ∀ turnId t, s.turns.get? turnId = some t → ∃ c, s.conversations.get? t.conversationId = some c

variable {s s' : ConversationStore} {r : Readings}

/-- Either the effect has taken place, or nothing has changed. -/
abbrev Does (s : ConversationStore) (i : StoreInput) (x : Store StoreReply) : Prop :=
  Triple x s (fun reply s' => Effect s i reply s') fun _ s' => s' = s

theorem conversation_found (id : String) : Triple (conversation id) s
    (fun c s' => s = s' ∧ s.conversations.get? id = some c) fun _ s' => s' = s := by
  refine Triple.get_bind ?_
  cases hget : s.conversations.get? id with
  | some c => exact Triple.pure ⟨rfl, rfl⟩
  | none => exact Triple.throw rfl

theorem turn_found (id : String) : Triple (turn id) s (fun t s' => s = s' ∧ s.turns.get? id = some t) fun _ s' => s' = s := by
  refine Triple.get_bind ?_
  cases hget : s.turns.get? id with
  | some t => exact Triple.pure ⟨rfl, rfl⟩
  | none => exact Triple.throw rfl

theorem create_does (title : Option String) : Does s (.create title, r) (.created <$> create title r) := by
  refine Triple.map ?_
  refine Triple.ofExcept_bind (fun _ _ => rfl) fun id _ => Triple.get_bind (Triple.failIf (fun _ => rfl) fun hnew => ?_)
  refine Triple.ofExcept_bind (fun _ _ => rfl) fun now _ => Triple.ofExcept_bind (fun _ _ => rfl) fun c hc => ?_
  have hfields := Conversation.make_ok hc
  have hid : c.conversationId = id := congrArg ConversationFields.conversationId hfields
  refine Triple.modify_bind (Triple.pure ?_)
  rw [← hid]
  exact .created (hid ▸ hnew) (congrArg ConversationFields.version hfields)
    (congrArg ConversationFields.activeTurnId hfields) (congrArg ConversationFields.messages hfields)

theorem submitTurn_does (a : Submission) : Does s (.submitTurn a, r) (.ofSubmission <$> submitTurn a r) := by
  refine Triple.map (Triple.failIf (fun _ => rfl) fun _ => Triple.failIf (fun _ => rfl) fun _ => ?_)
  refine Triple.bind (conversation_found _) ?_
  rintro c _ ⟨rfl, hfound⟩
  refine Triple.get_bind ?_
  cases hseen : s.requestIndex.get? a.key with
  | some turnId =>
    refine Triple.get_bind ?_
    cases hturn : s.turns.get? turnId with
    | none => exact Triple.throw rfl
    | some t =>
      refine Triple.failIf (fun _ => rfl) fun hmatches => Triple.pure ?_
      exact .repeated hfound hseen hturn (not_not.mp hmatches)
  | none =>
    refine Triple.failIf (fun _ => rfl) fun _ => Triple.failIf (fun _ => rfl) fun hidle => ?_
    refine Triple.ofExcept_bind (fun _ _ => rfl) fun turnId _ => Triple.ofExcept_bind (fun _ _ => rfl) fun messageId _ => ?_
    refine Triple.get_bind (Triple.failIf (fun _ => rfl) fun hnew => ?_)
    refine Triple.ofExcept_bind (fun _ _ => rfl) fun now _ => Triple.ofExcept_bind (fun _ _ => rfl) fun t ht => ?_
    refine Triple.ofExcept_bind (fun _ _ => rfl) fun m hm => Triple.ofExcept_bind (fun _ _ => rfl) fun c' hc' => ?_
    have hturn := ChatTurn.make_ok ht
    have hmessage := ChatMessage.make_ok hm
    have hupdated := Conversation.make_ok hc'
    rw [not_or] at hnew
    have hid : t.turnId = turnId := congrArg TurnFields.turnId hturn
    refine Triple.modify_bind (Triple.modify_bind (Triple.modify_bind (Triple.pure ?_)))
    subst hid
    refine .submitted (m := m) ⟨hfound, hseen, not_not.mp hidle, hnew.1, ?_, ⟨now, hturn⟩, ?_, ?_⟩
    · rw [show m.messageId = messageId from congrArg MessageFields.messageId hmessage]
      exact hnew.2
    · exact ⟨congrArg MessageFields.turnId hmessage, congrArg MessageFields.role hmessage⟩
    · exact .of_fields hupdated

theorem markRunning_does (hs : Housed s) (turnId : String) :
    Does s (.markRunning turnId, r) (.ofTurn <$> markRunning turnId r) := by
  refine Triple.map (Triple.bind (turn_found turnId) ?_)
  rintro t _ ⟨rfl, hturn⟩
  split
  next hrunning =>
    refine Triple.bind (conversation_found _) ?_
    rintro c _ ⟨rfl, -⟩
    exact Triple.pure (.alreadyRunning hturn)
  next hnot =>
    refine Triple.failIf (fun _ => rfl) fun hqueued => Triple.ofExcept_bind (fun _ _ => rfl) fun now _ => ?_
    refine Triple.ofExcept_bind (fun _ _ => rfl) fun t' ht' => Triple.modify_bind ?_
    have hfields := ChatTurn.make_ok ht'
    obtain ⟨c, hc⟩ := hs turnId t hturn
    refine Triple.step (a := c) (t := setTurn turnId t' s) ?_ (Triple.pure ?_)
    · show (conversation t.conversationId) (setTurn turnId t' s) = _
      unfold conversation
      simp [Prog.bind_run, hc]
    · have hsame : SameRequest t.toTurnFields t'.toTurnFields := by
        rw [hfields]
        exact ⟨rfl, rfl, rfl, rfl, rfl, rfl, rfl⟩
      exact .started hturn (not_not.mp hqueued) hsame (congrArg TurnFields.status hfields)

theorem activeTurn_found (turnId : String) (status : TurnStatus) (message : String) :
    Triple (activeTurn turnId status message) s (fun x s' => s = s' ∧ s.turns.get? turnId = some x.2 ∧
      s.conversations.get? x.2.conversationId = some x.1 ∧ x.2.status = status ∧ x.1.activeTurnId = some turnId)
      fun _ s' => s' = s := by
  refine Triple.bind (turn_found turnId) ?_
  rintro t _ ⟨rfl, hturn⟩
  refine Triple.bind (conversation_found _) ?_
  rintro c _ ⟨rfl, hc⟩
  refine Triple.failIf (fun _ => rfl) fun hstatus => Triple.failIf (fun _ => rfl) fun hactive => Triple.pure ?_
  exact ⟨rfl, hturn, hc, not_not.mp hstatus, not_not.mp hactive⟩

theorem failQueued_does (turnId errorCode : String) :
    Does s (.failQueued turnId errorCode, r) (.ofTurn <$> failQueued turnId errorCode r) := by
  refine Triple.map (Triple.bind (activeTurn_found turnId .queued _) ?_)
  rintro ⟨c, t⟩ _ ⟨rfl, hturn, hc, hstatus, hactive⟩
  refine Triple.ofExcept_bind (fun _ _ => rfl) fun now _ => Triple.ofExcept_bind (fun _ _ => rfl) fun t' ht' => ?_
  refine Triple.ofExcept_bind (fun _ _ => rfl) fun c' hc' => Triple.modify_bind (Triple.modify_bind (Triple.pure ?_))
  have hfields := ChatTurn.make_ok ht'
  have hfailed : t'.status = .failed := congrArg TurnFields.status hfields
  have hnot : ¬ Answering t'.status := by simp [hfailed, Answering]
  refine .ended (show Ends s _ r turnId c _ t _ [] from {
    endsTurn := rfl, answersTurn := (if_neg hnot).symm, foundTurn := hturn, found := hc, unended := ?_
    running := fun h => absurd rfl h, active := hactive, same := ?_, ended := ?_, response := ?_, moved := ?_ })
  · rw [show t.status = .queued from hstatus]
    rfl
  · rw [hfields]
    exact ⟨rfl, rfl, rfl, rfl, rfl, rfl, rfl⟩
  · rw [hfailed]
    rfl
  · exact (if_neg hnot).mpr rfl
  · exact .of_fields (show c'.toConversationFields = { c.toConversationFields with
      version := c.version + 1, updatedAtUnixMs := now, activeTurnId := none, messages := c.messages ++ [] } by
      simpa using Conversation.make_ok hc')

theorem responseMessages_response {turnId : String} {c : Completion} {now : Int} {id : Except Raised String}
    {messages : List ChatMessage} (h : responseMessages turnId c now id = .ok messages)
    (hcontent : c.responseContent.isSome = true ↔ Answering c.status) : Response turnId c.status id messages := by
  unfold responseMessages at h
  unfold Response
  cases hc : c.responseContent with
  | none =>
    rw [hc] at h hcontent
    have hnot : ¬ Answering c.status := fun ha => by simpa using hcontent.mpr ha
    rw [if_neg hnot]
    exact (Except.ok.inj h).symm
  | some content =>
    rw [hc] at h hcontent
    rw [if_pos (hcontent.mp rfl)]
    obtain ⟨messageId, hid, h⟩ := bind_ok_iff.mp h
    obtain ⟨message, hmessage, h⟩ := bind_ok_iff.mp h
    obtain ⟨value, hvalue, hid⟩ := bind_ok_iff.mp hid
    obtain ⟨-, hid⟩ := require_bind_ok_iff.mp hid
    have hfields := ChatMessage.make_ok hmessage
    refine ⟨message, value, (Except.ok.inj h).symm, congrArg MessageFields.turnId hfields,
      congrArg MessageFields.role hfields, hvalue, ?_⟩
    rw [congrArg MessageFields.messageId hfields]
    exact (Except.ok.inj hid).symm

theorem complete_does {call : StoreCall} (turnId : String) (c : Completion) (hends : call.ends = some turnId)
    (hanswers : call.answers = if Answering c.status then some turnId else none)
    (hcontent : c.responseContent.isSome = true ↔ Answering c.status) (hterminal : c.status.terminal = true) :
    Does s (call, r) (.ofTurn <$> complete turnId c r) := by
  refine Triple.map (Triple.bind (activeTurn_found turnId .running _) ?_)
  rintro ⟨conv, t⟩ _ ⟨rfl, hturn, hc, hstatus, hactive⟩
  refine Triple.ofExcept_bind (fun _ _ => rfl) fun now _ => Triple.ofExcept_bind (fun _ _ => rfl) fun t' ht' => ?_
  refine Triple.ofExcept_bind (fun _ _ => rfl) fun messages hmessages => ?_
  refine Triple.ofExcept_bind (fun _ _ => rfl) fun c' hc' => Triple.modify_bind (Triple.modify_bind (Triple.pure ?_))
  have hfields := ChatTurn.make_ok ht'
  have hdone : t'.status = c.status := congrArg TurnFields.status hfields
  refine .ended (show Ends s call r turnId conv _ t _ messages from {
    endsTurn := hends, answersTurn := hdone ▸ hanswers, foundTurn := hturn, found := hc, unended := ?_
    running := fun _ => hstatus, active := hactive, same := ?_, ended := hdone ▸ hterminal, response := ?_, moved := .of_fields (Conversation.make_ok hc') })
  · rw [show t.status = .running from hstatus]
    rfl
  · rw [hfields]
    exact ⟨rfl, rfl, rfl, rfl, rfl, rfl, rfl⟩
  · rw [hdone]
    exact responseMessages_response hmessages hcontent

theorem perform_does (hs : Housed s) (call : StoreCall) (r : Readings) : Does s (call, r) (perform call r) := by
  cases call with
  | create title => exact create_does title
  | submitTurn a => exact submitTurn_does a
  | markRunning turnId => exact markRunning_does hs turnId
  | failQueued turnId errorCode => exact failQueued_does turnId errorCode
  | completeAnswer turnId answerText citationIds =>
    exact complete_does turnId { status := .answered, answerText := some answerText, citationIds } rfl rfl
      (by simp [Completion.responseContent, Answering]) rfl
  | completeClarification turnId question =>
    exact complete_does turnId { status := .clarificationRequired, clarificationQuestion := some question } rfl rfl
      (by simp [Completion.responseContent, Answering]) rfl
  | completeFailed turnId errorCode =>
    exact complete_does turnId { status := .failed, errorCode := some errorCode } rfl rfl
      (by simp [Completion.responseContent, Answering]) rfl

-- The invariant

def messageCount (role : Role) (turnId : String) (c : Conversation) : Nat :=
  c.messages.countP fun m => m.role = role ∧ m.turnId = turnId

/-- The three maps agree, and every conversation with its turns. -/
structure Inv (s : ConversationStore) : Prop where
  index : ∀ key id, s.requestIndex.get? key = some id →
    ∃ t, s.turns.get? id = some t ∧ (t.conversationId, t.clientRequestId) = key
  indexed : ∀ id t, s.turns.get? id = some t →
    t.turnId = id ∧ s.requestIndex.get? (t.conversationId, t.clientRequestId) = some id
  named : ∀ id c, s.conversations.get? id = some c → c.conversationId = id
  housed : Housed s
  active : ∀ id t c, s.turns.get? id = some t → s.conversations.get? t.conversationId = some c →
    (t.status.terminal = false ↔ c.activeTurnId = some id)
  activeFound : ∀ id c turnId, s.conversations.get? id = some c → c.activeTurnId = some turnId →
    ∃ t, s.turns.get? turnId = some t ∧ t.conversationId = id
  counts : ∀ id t c, s.turns.get? id = some t → s.conversations.get? t.conversationId = some c →
    messageCount .user id c = 1 ∧ messageCount .assistant id c = if Answering t.status then 1 else 0
  owned : ∀ id c, s.conversations.get? id = some c → ∀ m ∈ c.messages,
    ∃ t, s.turns.get? m.turnId = some t ∧ t.conversationId = id

theorem inv_empty : Inv {} := by
  constructor <;> simp [Housed]

theorem Inv.created {c : Conversation} (hi : Inv s) (hnew : c.conversationId ∉ s.conversations.keys)
    (hidle : c.activeTurnId = none) (hmessages : c.messages = []) : Inv (setConversation c.conversationId c s) := by
  have hother : ∀ id t, s.turns.get? id = some t → t.conversationId ≠ c.conversationId := fun id t ht heq => by
    obtain ⟨c', hc'⟩ := hi.housed id t ht
    exact hnew (Dict.mem_keys_iff.mpr ⟨c', heq ▸ hc'⟩)
  constructor
  case index => exact hi.index
  case indexed => exact hi.indexed
  case named =>
    intro id c' hc'
    rw [setConversation_get] at hc'
    split at hc'
    next heq => cases hc'; exact heq.symm
    · exact hi.named id c' hc'
  case housed =>
    intro id t ht
    rw [setConversation_get, if_neg (hother id t ht)]
    exact hi.housed id t ht
  case active =>
    intro id t c' ht hc'
    rw [setConversation_get, if_neg (hother id t ht)] at hc'
    exact hi.active id t c' ht hc'
  case activeFound =>
    intro id c' turnId hc' hactive
    rw [setConversation_get] at hc'
    split at hc'
    · cases hc'
      rw [hidle] at hactive
      cases hactive
    · exact hi.activeFound id c' turnId hc' hactive
  case counts =>
    intro id t c' ht hc'
    rw [setConversation_get, if_neg (hother id t ht)] at hc'
    exact hi.counts id t c' ht hc'
  case owned =>
    intro id c' hc' m hm
    rw [setConversation_get] at hc'
    split at hc'
    · cases hc'
      simp [hmessages] at hm
    · exact hi.owned id c' hc' m hm

section
variable {t t' : ChatTurn} {turnId : String}

theorem SameRequest.refl (t : TurnFields) : SameRequest t t := ⟨rfl, rfl, rfl, rfl, rfl, rfl, rfl⟩

theorem SameRequest.trans {a b c : TurnFields} (h : SameRequest a b) (h' : SameRequest b c) : SameRequest a c := by
  obtain ⟨h₁, h₂, h₃, h₄, h₅, h₆, h₇⟩ := h
  obtain ⟨h₁', h₂', h₃', h₄', h₅', h₆', h₇'⟩ := h'
  exact ⟨h₁'.trans h₁, h₂'.trans h₂, h₃'.trans h₃, h₄'.trans h₄, h₅'.trans h₅, h₆'.trans h₆, h₇'.trans h₇⟩

theorem setTurn_keeps (hturn : s.turns.get? turnId = some t) (hsame : SameRequest t.toTurnFields t'.toTurnFields)
    {x : String} {u : ChatTurn} (hu : s.turns.get? x = some u) :
    ∃ u', (setTurn turnId t' s).turns.get? x = some u' ∧ SameRequest u.toTurnFields u'.toTurnFields := by
  by_cases hx : x = turnId
  · subst hx
    cases hturn.symm.trans hu
    exact ⟨t', by simp, hsame⟩
  · exact ⟨u, by simp [hx, hu], .refl _⟩

theorem setTurn_came (hturn : s.turns.get? turnId = some t) (hsame : SameRequest t.toTurnFields t'.toTurnFields)
    {x : String} {u' : ChatTurn} (hu' : (setTurn turnId t' s).turns.get? x = some u') :
    ∃ u, s.turns.get? x = some u ∧ SameRequest u.toTurnFields u'.toTurnFields ∧
      (x = turnId ∧ u = t ∧ u' = t' ∨ x ≠ turnId ∧ u' = u) := by
  rw [setTurn_get] at hu'
  split at hu'
  next heq =>
    cases hu'
    subst heq
    exact ⟨t, hturn, hsame, .inl ⟨rfl, rfl, rfl⟩⟩
  next hne => exact ⟨u', hu', .refl _, .inr ⟨hne, rfl⟩⟩

theorem Inv.setTurn_index (hi : Inv s) (hturn : s.turns.get? turnId = some t)
    (hsame : SameRequest t.toTurnFields t'.toTurnFields) :
    (∀ key id, s.requestIndex.get? key = some id →
      ∃ u, (setTurn turnId t' s).turns.get? id = some u ∧ (u.conversationId, u.clientRequestId) = key) ∧
    ∀ id u, (setTurn turnId t' s).turns.get? id = some u →
      u.turnId = id ∧ s.requestIndex.get? (u.conversationId, u.clientRequestId) = some id := by
  refine ⟨fun key id hkey => ?_, fun id u' hu' => ?_⟩
  · obtain ⟨u, hu, heq⟩ := hi.index key id hkey
    obtain ⟨u', hu', -, hconv, hreq, -⟩ := setTurn_keeps hturn hsame hu
    exact ⟨u', hu', by rw [hconv, hreq]; exact heq⟩
  · obtain ⟨u, hu, ⟨hid, hconv, hreq, -⟩, -⟩ := setTurn_came hturn hsame hu'
    rw [hid, hconv, hreq]
    exact hi.indexed id u hu

theorem Inv.started (hi : Inv s) (hturn : s.turns.get? turnId = some t)
    (hsame : SameRequest t.toTurnFields t'.toTurnFields) (hqueued : t.status = .queued) (hrunning : t'.status = .running) :
    Inv (setTurn turnId t' s) := by
  have hindex := hi.setTurn_index hturn hsame
  constructor
  case index => exact hindex.1
  case indexed => exact hindex.2
  case named => exact hi.named
  case housed =>
    intro id u' hu'
    obtain ⟨u, hu, ⟨-, hconv, -⟩, -⟩ := setTurn_came hturn hsame hu'
    rw [hconv]
    exact hi.housed id u hu
  case active =>
    intro id u' c hu' hc
    obtain ⟨u, hu, ⟨-, hconv, -⟩, hwhich⟩ := setTurn_came hturn hsame hu'
    rw [hconv] at hc
    rw [← hi.active id u c hu hc]
    obtain ⟨-, rfl, rfl⟩ | ⟨-, rfl⟩ := hwhich
    · rw [hqueued, hrunning]
      rfl
    · rfl
  case activeFound =>
    intro id c x hc hactive
    obtain ⟨u, hu, heq⟩ := hi.activeFound id c x hc hactive
    obtain ⟨u', hu', -, hconv, -⟩ := setTurn_keeps hturn hsame hu
    exact ⟨u', hu', hconv.trans heq⟩
  case counts =>
    intro id u' c hu' hc
    obtain ⟨u, hu, ⟨-, hconv, -⟩, hwhich⟩ := setTurn_came hturn hsame hu'
    rw [hconv] at hc
    have hcounts := hi.counts id u c hu hc
    obtain ⟨-, rfl, rfl⟩ | ⟨-, rfl⟩ := hwhich
    · simpa [hqueued, hrunning, Answering] using hcounts
    · exact hcounts
  case owned =>
    intro id c hc m hm
    obtain ⟨u, hu, heq⟩ := hi.owned id c hc m hm
    obtain ⟨u', hu', -, hconv, -⟩ := setTurn_keeps hturn hsame hu
    exact ⟨u', hu', hconv.trans heq⟩

theorem messageCount_append {role : Role} {c c' : Conversation} {messages : List ChatMessage} {k : String}
    (h : c'.messages = c.messages ++ messages) : messageCount role k c' =
      messageCount role k c + messages.countP fun m => m.role = role ∧ m.turnId = k := by
  simp [messageCount, h]

theorem Inv.messageCount_eq_zero {role : Role} {c : Conversation} {id k : String} (hi : Inv s)
    (hc : s.conversations.get? id = some c) (hk : k ∉ s.turns.keys) : messageCount role k c = 0 := by
  rw [messageCount, List.countP_eq_zero]
  intro m hm
  obtain ⟨u, hu, -⟩ := hi.owned id c hc m hm
  have hne : m.turnId ≠ k := fun h => hk (Dict.mem_keys_iff.mpr ⟨u, h ▸ hu⟩)
  simp [hne]

theorem Response.counts {turnId k : String} {status : TurnStatus} {e : Except Raised String} {messages : List ChatMessage}
    (h : Response turnId status e messages) :
    (messages.countP fun m => m.role = .user ∧ m.turnId = k) = 0 ∧
    (messages.countP fun m => m.role = .assistant ∧ m.turnId = k) = if Answering status ∧ k = turnId then 1 else 0 := by
  unfold Response at h
  split at h
  next hanswering =>
    obtain ⟨m, value, rfl, hturn, hrole, -⟩ := h
    simp [hturn, hrole, hanswering, eq_comm]
  next hnot => simp [h, hnot]

theorem Response.ofTurn {turnId : String} {status : TurnStatus} {e : Except Raised String} {messages : List ChatMessage}
    (h : Response turnId status e messages) : ∀ m ∈ messages, m.turnId = turnId := by
  unfold Response at h
  split at h
  · obtain ⟨m, value, rfl, hturn, -⟩ := h
    simpa using hturn
  · simp [h]

theorem Inv.ended {call : StoreCall} {c c' : Conversation} {messages : List ChatMessage} (hi : Inv s)
    (h : Ends s call r turnId c c' t t' messages) :
    Inv (setConversation c.conversationId c' (setTurn turnId t' s)) := by
  have hindex := hi.setTurn_index h.foundTurn h.same
  have hname : c.conversationId = t.conversationId := hi.named _ c h.found
  obtain ⟨hid', -, hidle, hmessages⟩ := h.moved
  have hget : ∀ k, (setConversation c.conversationId c' (setTurn turnId t' s)).conversations.get? k =
      if k = t.conversationId then some c' else s.conversations.get? k := fun k => by simp [hname]
  constructor
  case index => exact hindex.1
  case indexed => exact hindex.2
  case named =>
    intro id d hd
    rw [hget] at hd
    split at hd
    next heq =>
      cases hd
      rw [hid', hname, heq]
    · exact hi.named id d hd
  case housed =>
    intro id u' hu'
    obtain ⟨u, hu, ⟨-, hconv, -⟩, -⟩ := setTurn_came h.foundTurn h.same hu'
    rw [hget, hconv]
    split
    · exact ⟨c', rfl⟩
    · exact hi.housed id u hu
  case active =>
    intro id u' d hu' hd
    obtain ⟨u, hu, ⟨-, hconv, -⟩, hwhich⟩ := setTurn_came h.foundTurn h.same hu'
    rw [hget, hconv] at hd
    obtain ⟨rfl, rfl, rfl⟩ | ⟨hne, rfl⟩ := hwhich
    · rw [if_pos rfl] at hd
      cases hd
      simp [h.ended, hidle]
    · split at hd
      next heq =>
        cases hd
        have hactive := hi.active id u' c hu (heq ▸ h.found)
        rw [h.active, Option.some.injEq] at hactive
        have hended : u'.status.terminal ≠ false := fun ht => hne (hactive.mp ht).symm
        simp [hended, hidle]
      · exact hi.active id u' d hu hd
  case activeFound =>
    intro id d k hd hactive
    rw [hget] at hd
    split at hd
    · cases hd
      rw [hidle] at hactive
      cases hactive
    · obtain ⟨u, hu, heq⟩ := hi.activeFound id d k hd hactive
      obtain ⟨u', hu', -, hconv, -⟩ := setTurn_keeps h.foundTurn h.same hu
      exact ⟨u', hu', hconv.trans heq⟩
  case counts =>
    intro id u' d hu' hd
    obtain ⟨u, hu, ⟨-, hconv, -⟩, hwhich⟩ := setTurn_came h.foundTurn h.same hu'
    obtain ⟨hnone, hone⟩ := h.response.counts (k := id)
    rw [hget, hconv] at hd
    obtain ⟨rfl, rfl, rfl⟩ | ⟨hne, rfl⟩ := hwhich
    · rw [if_pos rfl] at hd
      cases hd
      obtain ⟨huser, hassistant⟩ := hi.counts _ _ c h.foundTurn h.found
      have hnot : ¬ Answering u.status := by
        have hunended := h.unended
        rintro (heq | heq) <;> rw [heq] at hunended <;> cases hunended
      rw [messageCount_append hmessages, messageCount_append hmessages, huser, hassistant, hnone, hone]
      simp [hnot]
    · split at hd
      next heq =>
        cases hd
        obtain ⟨huser, hassistant⟩ := hi.counts id u' c hu (heq ▸ h.found)
        rw [messageCount_append hmessages, messageCount_append hmessages, huser, hassistant, hnone, hone]
        simp [hne]
      · exact hi.counts id u' d hu hd
  case owned =>
    have hold : ∀ id u, s.turns.get? id = some u → ∃ u', (setTurn turnId t' s).turns.get? id = some u' ∧
        u'.conversationId = u.conversationId := fun id u hu => by
      obtain ⟨u', hu', -, hconv, -⟩ := setTurn_keeps h.foundTurn h.same hu
      exact ⟨u', hu', hconv⟩
    intro id d hd m hm
    rw [hget] at hd
    split at hd
    next heq =>
      cases hd
      rw [hmessages, List.mem_append] at hm
      obtain hm | hm := hm
      · obtain ⟨u, hu, hc⟩ := hi.owned id c (heq ▸ h.found) m hm
        obtain ⟨u', hu', hconv⟩ := hold _ u hu
        exact ⟨u', hu', hconv.trans hc⟩
      · rw [h.response.ofTurn m hm]
        obtain ⟨u', hu', hconv⟩ := hold turnId t h.foundTurn
        exact ⟨u', hu', hconv.trans heq.symm⟩
    · obtain ⟨u, hu, hc⟩ := hi.owned id d hd m hm
      obtain ⟨u', hu', hconv⟩ := hold _ u hu
      exact ⟨u', hu', hconv.trans hc⟩

theorem Inv.submitted {a : Submission} {c c' : Conversation} {m : ChatMessage} (hi : Inv s) (h : Submits s a c c' t m) :
    Inv (setRequest a.key t.turnId (setTurn t.turnId t (setConversation a.conversationId c' s))) := by
  obtain ⟨now, hturn⟩ := h.turnIs
  obtain ⟨hid', -, hactive', hmessages⟩ := h.moved
  have hconv : t.conversationId = a.conversationId := congrArg TurnFields.conversationId hturn
  have hkey : (t.conversationId, t.clientRequestId) = a.key := by
    rw [hconv, show t.clientRequestId = a.clientRequestId from congrArg TurnFields.clientRequestId hturn]
    rfl
  have hqueued : t.status = .queued := congrArg TurnFields.status hturn
  have hold : ∀ id u, s.turns.get? id = some u → id ≠ t.turnId := fun id u hu heq =>
    h.newTurn (Dict.mem_keys_iff.mpr ⟨u, heq ▸ hu⟩)
  have hget : ∀ k, (setRequest a.key t.turnId (setTurn t.turnId t (setConversation a.conversationId c' s))).turns.get? k =
      if k = t.turnId then some t else s.turns.get? k := fun k => by simp
  have hconvs : ∀ k, (setRequest a.key t.turnId (setTurn t.turnId t
      (setConversation a.conversationId c' s))).conversations.get? k =
      if k = a.conversationId then some c' else s.conversations.get? k := fun k => by simp
  constructor
  case index =>
    intro key id hindex
    rw [setRequest_get] at hindex
    split at hindex
    next heq =>
      cases hindex
      exact ⟨t, by rw [hget, if_pos rfl], hkey.trans heq.symm⟩
    · obtain ⟨u, hu, heq⟩ := hi.index key id hindex
      exact ⟨u, by rw [hget, if_neg (hold id u hu), hu], heq⟩
  case indexed =>
    intro id u hu
    rw [hget] at hu
    rw [setRequest_get]
    split at hu
    next heq =>
      cases hu
      exact ⟨heq.symm, by rw [if_pos hkey, heq]⟩
    · obtain ⟨hid, hindex⟩ := hi.indexed id u hu
      have hne : (u.conversationId, u.clientRequestId) ≠ a.key := fun heq => by
        rw [heq, h.unseen] at hindex
        cases hindex
      exact ⟨hid, by rw [if_neg hne]; exact hindex⟩
  case named =>
    intro id d hd
    rw [hconvs] at hd
    split at hd
    next heq =>
      cases hd
      rw [hid', hi.named _ c h.found, heq]
    · exact hi.named id d hd
  case housed =>
    intro id u hu
    rw [hget] at hu
    rw [hconvs]
    split
    · exact ⟨c', rfl⟩
    next hne =>
      split at hu
      · cases hu
        exact absurd hconv hne
      · exact hi.housed id u hu
  case active =>
    intro id u d hu hd
    rw [hget] at hu
    rw [hconvs] at hd
    split at hu
    next heq =>
      cases hu
      rw [if_pos hconv] at hd
      cases hd
      simp [hqueued, TurnStatus.terminal, hactive', heq]
    next hne =>
      split at hd
      next heq =>
        cases hd
        have hactive := hi.active id u c hu (heq ▸ h.found)
        rw [h.idle] at hactive
        have hended : u.status.terminal ≠ false := by
          intro ht
          cases hactive.mp ht
        simp [hactive', hended, Ne.symm hne]
      · exact hi.active id u d hu hd
  case activeFound =>
    intro id d k hd hactive
    rw [hconvs] at hd
    split at hd
    next heq =>
      cases hd
      rw [hactive', Option.some.injEq] at hactive
      exact ⟨t, by rw [hget, if_pos hactive.symm], hconv.trans heq.symm⟩
    · obtain ⟨u, hu, heq⟩ := hi.activeFound id d k hd hactive
      exact ⟨u, by rw [hget, if_neg (hold k u hu), hu], heq⟩
  case counts =>
    intro id u d hu hd
    rw [hget] at hu
    rw [hconvs] at hd
    split at hu
    next heq =>
      cases hu
      rw [if_pos hconv] at hd
      cases hd
      rw [messageCount_append hmessages, messageCount_append hmessages, heq,
        hi.messageCount_eq_zero h.found h.newTurn, hi.messageCount_eq_zero h.found h.newTurn]
      simp [h.messageIs, hqueued, Answering]
    next hne =>
      split at hd
      next heq =>
        cases hd
        obtain ⟨huser, hassistant⟩ := hi.counts id u c hu (heq ▸ h.found)
        rw [messageCount_append hmessages, messageCount_append hmessages, huser, hassistant]
        simp [h.messageIs, Ne.symm hne]
      · exact hi.counts id u d hu hd
  case owned =>
    intro id d hd m' hm'
    rw [hconvs] at hd
    split at hd
    next heq =>
      cases hd
      rw [hmessages, List.mem_append, List.mem_singleton] at hm'
      obtain hm' | rfl := hm'
      · obtain ⟨u, hu, hc⟩ := hi.owned id c (heq ▸ h.found) m' hm'
        exact ⟨u, by rw [hget, if_neg (hold _ u hu), hu], hc⟩
      · exact ⟨t, by rw [hget, if_pos h.messageIs.1], hconv.trans heq.symm⟩
    · obtain ⟨u, hu, hc⟩ := hi.owned id d hd m' hm'
      exact ⟨u, by rw [hget, if_neg (hold _ u hu), hu], hc⟩

theorem Inv.effect {i : StoreInput} {reply : StoreReply} (hi : Inv s) (h : Effect s i reply s') : Inv s' := by
  cases h with
  | created hnew _ hidle hmessages => exact hi.created hnew hidle hmessages
  | repeated => exact hi
  | submitted h => exact hi.submitted h
  | alreadyRunning => exact hi
  | started hturn hqueued hsame hrunning => exact hi.started hturn hsame hqueued hrunning
  | ended h => exact hi.ended h

end

-- Runs

theorem step_effect (hi : Inv s) (i : StoreInput) :
    (∃ reply, (conversationStore.step s i).1 = .ok reply ∧ Effect s i reply (conversationStore.step s i).2) ∨
      ∃ e, (conversationStore.step s i).1 = .error e ∧ (conversationStore.step s i).2 = s := by
  have h := perform_does hi.housed i.1 i.2
  show (∃ reply, (perform i.1 i.2 s).1 = .ok reply ∧ Effect s i reply (perform i.1 i.2 s).2) ∨
    ∃ e, (perform i.1 i.2 s).1 = .error e ∧ (perform i.1 i.2 s).2 = s
  rcases hr : perform i.1 i.2 s with ⟨e | reply, s'⟩
  · exact .inr ⟨e, rfl, h.error hr⟩
  · exact .inl ⟨reply, rfl, h.ok hr⟩

theorem step_inv (hi : Inv s) (i : StoreInput) : Inv (conversationStore.step s i).2 := by
  obtain ⟨reply, -, h⟩ | ⟨e, -, h⟩ := step_effect hi i
  · exact hi.effect h
  · exact h.symm ▸ hi

variable {h : List StoreEvent} {ok : ConversationStore → StoreInput → Prop}

theorem runs_inv (hr : conversationStore.Runs ok {} h s) : Inv s :=
  hr.invariant inv_empty fun _ i hi _ => step_inv hi i

/-- What a conversation and a turn keep through any operation. -/
structure Lasts (s s' : ConversationStore) : Prop where
  turns : ∀ id t, s.turns.get? id = some t → ∃ t', s'.turns.get? id = some t' ∧ SameRequest t.toTurnFields t'.toTurnFields
  ended : ∀ id t, s.turns.get? id = some t → t.status.terminal = true → s'.turns.get? id = some t
  requests : ∀ key id, s.requestIndex.get? key = some id → s'.requestIndex.get? key = some id

theorem Lasts.refl (s : ConversationStore) : Lasts s s :=
  ⟨fun _ t ht => ⟨t, ht, .refl _⟩, fun _ _ ht _ => ht, fun _ _ hk => hk⟩

theorem setTurn_lasts {t t' : ChatTurn} {turnId : String} (hturn : s.turns.get? turnId = some t)
    (hsame : SameRequest t.toTurnFields t'.toTurnFields) (hunended : t.status.terminal = false) :
    Lasts s (setTurn turnId t' s) := by
  refine ⟨fun id u hu => setTurn_keeps hturn hsame hu, fun id u hu hended => ?_, fun _ _ hk => hk⟩
  have hne : id ≠ turnId := by
    rintro rfl
    cases hturn.symm.trans hu
    rw [hended] at hunended
    cases hunended
  rw [setTurn_get, if_neg hne, hu]

theorem Submits.lasts {a : Submission} {c c' : Conversation} {t : ChatTurn} {m : ChatMessage}
    (hsub : Submits s a c c' t m) :
    Lasts s (setRequest a.key t.turnId (setTurn t.turnId t (setConversation a.conversationId c' s))) := by
  have hold : ∀ id u, s.turns.get? id = some u → id ≠ t.turnId := fun id u hu heq =>
    hsub.newTurn (Dict.mem_keys_iff.mpr ⟨u, heq ▸ hu⟩)
  have hget : ∀ id u, s.turns.get? id = some u → (setRequest a.key t.turnId (setTurn t.turnId t
      (setConversation a.conversationId c' s))).turns.get? id = some u := fun id u hu => by simp [hold id u hu, hu]
  refine ⟨fun id u hu => ⟨u, hget id u hu, .refl _⟩, fun id u hu _ => hget id u hu, fun key id hk => ?_⟩
  have hne : key ≠ a.key := by
    rintro rfl
    rw [hsub.unseen] at hk
    cases hk
  rw [setRequest_get, if_neg hne]
  exact hk

theorem Effect.lasts {i : StoreInput} {reply : StoreReply} (he : Effect s i reply s') : Lasts s s' := by
  cases he with
  | created => exact ⟨(Lasts.refl s).turns, (Lasts.refl s).ended, (Lasts.refl s).requests⟩
  | repeated => exact .refl s
  | alreadyRunning => exact .refl s
  | started hturn hqueued hsame hrunning => exact setTurn_lasts hturn hsame (by rw [hqueued]; rfl)
  | ended hends =>
    have hlasts := setTurn_lasts hends.foundTurn hends.same hends.unended
    exact ⟨hlasts.turns, hlasts.ended, hlasts.requests⟩
  | submitted hsub => exact hsub.lasts

theorem step_lasts (hi : Inv s) (i : StoreInput) : Lasts s (conversationStore.step s i).2 := by
  obtain ⟨reply, -, he⟩ | ⟨e, -, he⟩ := step_effect hi i
  · exact he.lasts
  · rw [he]
    exact .refl s

theorem runs_ended (hi : Inv s) (hr : conversationStore.Runs ok s h s') :
    ∀ id t, s.turns.get? id = some t → t.status.terminal = true → s'.turns.get? id = some t := by
  have hall := hr.invariant (I := fun s' => Inv s' ∧
      ∀ id t, s.turns.get? id = some t → t.status.terminal = true → s'.turns.get? id = some t)
    ⟨hi, fun _ _ ht _ => ht⟩ fun s' i hs' _ => ⟨step_inv hs'.1 i, fun id t ht hended =>
      (step_lasts hs'.1 i).ended id t (hs'.2 id t ht hended) hended⟩
  exact hall.2

-- Requests

/-- The turn an accepted submission was answered with is still the one of its key. -/
def Answered (s : ConversationStore) (a : Submission) (t : ChatTurn) : Prop :=
  a.Matches t.toTurnFields ∧ s.requestIndex.get? a.key = some t.turnId ∧
    ∃ t', s.turns.get? t.turnId = some t' ∧ SameRequest t.toTurnFields t'.toTurnFields

theorem Answered.lasts {a : Submission} {t : ChatTurn} (ha : Answered s a t) (hl : Lasts s s') : Answered s' a t := by
  obtain ⟨hmatches, hindex, t', ht', hsame⟩ := ha
  obtain ⟨t'', ht'', hsame'⟩ := hl.turns _ _ ht'
  exact ⟨hmatches, hl.requests _ _ hindex, t'', ht'', hsame.trans hsame'⟩

theorem Effect.answered {a : Submission} {c : Conversation} {t : ChatTurn} {new : Bool} (hi : Inv s)
    (he : Effect s (.submitTurn a, r) (.submitted c t new) s') : Answered s' a t := by
  cases he with
  | repeated hfound hseen hturn hmatches =>
    obtain ⟨hid, -⟩ := hi.indexed _ _ hturn
    exact ⟨hmatches, hid ▸ hseen, t, hid ▸ hturn, .refl _⟩
  | submitted hsub =>
    obtain ⟨now, hturn⟩ := hsub.turnIs
    refine ⟨?_, by simp, t, by simp, .refl _⟩
    rw [hturn]
    exact ⟨rfl, rfl, rfl, rfl⟩

theorem runs_answered (hr : conversationStore.Runs ok {} h s) {a : Submission} {c : Conversation} {t : ChatTurn}
    {new : Bool} (hmem : ((.submitTurn a, r), .ok (.submitted c t new)) ∈ h) : Answered s a t := by
  induction hr with
  | nil => cases hmem
  | @cons h s i hr _ ih =>
    have hi := runs_inv hr
    obtain heq | hmem := List.mem_cons.mp hmem
    · obtain ⟨hinput, houtcome⟩ := Prod.mk.inj heq
      obtain ⟨reply, hreply, he⟩ | ⟨e, herror, -⟩ := step_effect hi i
      · rw [hreply] at houtcome
        cases houtcome
        subst hinput
        exact he.answered hi
      · rw [herror] at houtcome
        cases houtcome
    · exact (ih hmem).lasts (step_lasts hi i)

theorem submitTurn_again (hi : Inv s) {a a' : Submission} {t : ChatTurn} (ha : Answered s a t) (hkey : a'.key = a.key) :
    if a'.Matches t.toTurnFields then
      ∃ c t', conversationStore.step s (.submitTurn a', r) = (.ok (.submitted c t' false), s) ∧ t'.turnId = t.turnId
    else ∃ e, conversationStore.step s (.submitTurn a', r) = (.error e, s) := by
  obtain ⟨-, hindex, t', ht', ⟨hid, hconv, -, hcontent, hmode, hlocale, hrevision⟩⟩ := ha
  rw [← hkey] at hindex
  split
  next hmatches =>
    obtain ⟨u, hu, huk⟩ := hi.index _ _ hindex
    cases ht'.symm.trans hu
    obtain ⟨c, hc⟩ := hi.housed _ _ ht'
    have hcid : t'.conversationId = a'.conversationId := congrArg Prod.fst huk
    rw [hcid] at hc
    have hmatches' : a'.Matches t'.toTurnFields :=
      ⟨hcontent.trans hmatches.1, hmode.trans hmatches.2.1, hlocale.trans hmatches.2.2.1, hrevision.trans hmatches.2.2.2⟩
    have hm : a'.mode ∈ chatModes := hmatches'.2.1 ▸ t'.modeOk
    have hl : a'.responseLocale ∈ responseLocales := hmatches'.2.2.1 ▸ t'.localeOk
    refine ⟨c, t', ?_, hid⟩
    show perform (.submitTurn a') r s = _
    simp [perform, submitTurn, conversation, resubmit, Prog.bind_run, Prog.map_run, Prog.failIf, hm, hl, hc, hindex, ht',
      hmatches', StoreReply.ofSubmission]
  next hother =>
    obtain ⟨reply, hreply, he⟩ | ⟨e, herror, hs⟩ := step_effect hi (.submitTurn a', r)
    · generalize (conversationStore.step s (.submitTurn a', r)).2 = s' at he
      cases he with
      | repeated hfound hseen hturn hmatches =>
        cases hseen.symm.trans hindex
        cases hturn.symm.trans ht'
        obtain ⟨h₁, h₂, h₃, h₄⟩ := hmatches
        exact absurd ⟨hcontent.symm.trans h₁, hmode.symm.trans h₂, hlocale.symm.trans h₃, hrevision.symm.trans h₄⟩ hother
      | submitted hsub =>
        rw [hsub.unseen] at hindex
        cases hindex
      | ended hends => cases hends.endsTurn
    · exact ⟨e, Prod.ext herror hs⟩

-- Versions

/-- An accepted submission to the conversation, or a completion in it. -/
def Advances (conversationId : String) : StoreEvent → Bool
  | ((.submitTurn _, _), .ok (.submitted c _ true)) => c.conversationId = conversationId
  | ((call, _), .ok (.turned c _)) => call.ends.isSome && c.conversationId = conversationId
  | _ => false

/-- Every version counts the steps of its conversation. -/
def Counted (h : List StoreEvent) (s : ConversationStore) : Prop :=
  ∀ id, match s.conversations.get? id with
    | some c => c.version = 1 + (h.countP (Advances id) : Int)
    | none => h.countP (Advances id) = 0

theorem Counted.effect {i : StoreInput} {reply : StoreReply} (hi : Inv s) (hc : Counted h s) (he : Effect s i reply s') :
    Counted ((i, .ok reply) :: h) s' := by
  intro id
  have hid := hc id
  have hmove : ∀ {c c' : Conversation} {key : String} {active : Option String} {messages : List ChatMessage},
      s.conversations.get? key = some c → MovedOn c c' active messages →
      (Advances id (i, .ok reply) = decide (c'.conversationId = id)) →
      match (if id = key then some c' else s.conversations.get? id) with
      | some c => c.version = 1 + (((i, .ok reply) :: h).countP (Advances id) : Int)
      | none => ((i, .ok reply) :: h).countP (Advances id) = 0 := by
    intro c c' key active messages hfound hmoved hadvances
    have hname : c'.conversationId = key := hmoved.1.trans (hi.named key c hfound)
    rw [List.countP_cons, hadvances, hname]
    by_cases heq : id = key
    · subst heq
      rw [hfound] at hid
      simp only [↓reduceIte, decide_true, hmoved.2.1] at hid ⊢
      omega
    · have hne : key ≠ id := fun h => heq h.symm
      simpa [heq, hne] using hid
  have hsame : Advances id (i, .ok reply) = false →
      match s.conversations.get? id with
      | some c => c.version = 1 + (((i, .ok reply) :: h).countP (Advances id) : Int)
      | none => ((i, .ok reply) :: h).countP (Advances id) = 0 := by
    intro hno
    rw [List.countP_cons, hno]
    simpa using hid
  cases he with
  | created hnew hversion hidle hmessages =>
    rename_i c
    rw [setConversation_get]
    by_cases heq : id = c.conversationId
    · subst heq
      rw [Dict.get?_eq_none_iff.mpr hnew] at hid
      rw [if_pos rfl]
      show c.version = 1 + (List.countP _ _ : Int)
      rw [List.countP_cons, show h.countP _ = 0 from hid, hversion]
      rfl
    · rw [if_neg heq]
      exact hsame rfl
  | repeated => exact hsame rfl
  | submitted hsub =>
    have hres := hmove hsub.found hsub.moved rfl
    simpa using hres
  | alreadyRunning => exact hsame rfl
  | started => exact hsame rfl
  | ended hends =>
    have hname := hi.named _ _ hends.found
    have hres := hmove hends.found hends.moved (by simp [Advances, hends.endsTurn])
    rw [setConversation_get, hname]
    simpa using hres

theorem runs_counted (hr : conversationStore.Runs ok {} h s) : Counted h s := by
  induction hr with
  | nil => exact fun id => rfl
  | @cons h s i hr _ ih =>
    have hi := runs_inv hr
    obtain ⟨reply, hreply, he⟩ | ⟨e, herror, hs⟩ := step_effect hi i
    · rw [hreply]
      exact ih.effect hi he
    · rw [herror, hs]
      intro id
      have hno : Advances id (i, .error e) = false := by unfold Advances; split <;> simp_all
      have hid := ih id
      rw [List.countP_cons, hno]
      simpa using hid

-- Message ids

def messageIds (c : Conversation) : List String := c.messages.map (·.messageId)

/-- The message ids of every conversation are distinct. -/
def UniqueIds (s : ConversationStore) : Prop := ∀ id c, s.conversations.get? id = some c → (messageIds c).Nodup

/-- A running turn is answered with a generated id that a message of its
conversation has already. -/
def Repeats (s : ConversationStore) (i : StoreInput) : Prop :=
  ∃ turnId t c value, i.1.answers = some turnId ∧ s.turns.get? turnId = some t ∧ t.status = .running ∧
    s.conversations.get? t.conversationId = some c ∧ i.2.firstId = .ok value ∧ idText "message" value ∈ messageIds c

theorem UniqueIds.set {k : String} {c' : Conversation} (hu : UniqueIds s) (hc' : (messageIds c').Nodup)
    (hs : ∀ id, s'.conversations.get? id = if id = k then some c' else s.conversations.get? id) : UniqueIds s' := by
  intro id c hc
  rw [hs] at hc
  split at hc
  · cases hc
    exact hc'
  · exact hu id c hc

theorem UniqueIds.effect {i : StoreInput} {reply : StoreReply} (hu : UniqueIds s) (he : Effect s i reply s')
    (hfresh : ¬ Repeats s i) : UniqueIds s' := by
  cases he with
  | created hnew hversion hidle hmessages =>
    exact hu.set (by simp [messageIds, hmessages]) fun id => setConversation_get
  | repeated => exact hu
  | submitted hsub =>
    refine hu.set ?_ fun id => by simp only [setRequest_conversations, setTurn_conversations]; exact setConversation_get
    have hnodup := hu _ _ hsub.found
    have hnew : _ ∉ messageIds _ := hsub.newMessage
    rw [messageIds, hsub.moved.2.2.2, List.map_append]
    exact hnodup.append (by simp) (List.disjoint_singleton.mpr hnew)
  | alreadyRunning => exact hu
  | started => exact hu
  | ended hends =>
    rename_i call r turnId c c' t t' messages
    refine hu.set ?_ fun id => setConversation_get
    have hnodup := hu _ _ hends.found
    rw [messageIds, hends.moved.2.2.2, List.map_append]
    have hresponse := hends.response
    unfold Response at hresponse
    split at hresponse
    next hanswering =>
      obtain ⟨m, value, rfl, -, -, hvalue, hid⟩ := hresponse
      have hanswers : call.answers = some turnId := hends.answersTurn.trans (if_pos hanswering)
      have hnew : m.messageId ∉ messageIds c := fun hmem => hfresh
        ⟨turnId, t, c, value, hanswers, hends.foundTurn, hends.running (by simp [hanswers]), hends.found, hvalue,
          hid ▸ hmem⟩
      exact hnodup.append (by simp) (List.disjoint_singleton.mpr hnew)
    next hnot =>
      rw [hresponse, List.map_nil, List.append_nil]
      exact hnodup

theorem Repeats.breaks {i : StoreInput} {reply : StoreReply} (hrep : Repeats s i) (he : Effect s i reply s') :
    ¬ UniqueIds s' := by
  obtain ⟨turnId, t, c, value, hanswers, hturn, -, hfound, hvalue, hmem⟩ := hrep
  intro hu
  cases he with
  | ended hends =>
    rename_i call r turnId' c₁ c' t₁ t' messages
    have hids : turnId' = turnId := by
      have hanswers' := hends.answersTurn
      replace hanswers : call.answers = some turnId := hanswers
      rw [hanswers] at hanswers'
      split at hanswers'
      · exact (Option.some.inj hanswers').symm
      · cases hanswers'
    subst hids
    cases hturn.symm.trans hends.foundTurn
    cases hfound.symm.trans hends.found
    have hnodup := hu c.conversationId c' (by simp)
    rw [messageIds, hends.moved.2.2.2, List.map_append] at hnodup
    have hanswering : Answering t'.status := by
      by_contra hnot
      have hanswers' := hends.answersTurn.trans (if_neg hnot)
      replace hanswers : call.answers = some turnId' := hanswers
      rw [hanswers] at hanswers'
      cases hanswers'
    obtain ⟨m, value', rfl, -, -, hvalue', hid⟩ := (if_pos hanswering).mp hends.response
    cases (show r.firstId = .ok value from hvalue).symm.trans hvalue'
    exact (List.nodup_append.mp hnodup).2.2 _ hmem _ (by simp) hid.symm
  | _ => cases hanswers

-- The laws of the store

def Submission.SameContent (a a' : Submission) : Prop :=
  a.content = a'.content ∧ a.mode = a'.mode ∧ a.responseLocale = a'.responseLocale ∧
    a.settingsRevision = a'.settingsRevision

instance (a a' : Submission) : Decidable (a.SameContent a') := inferInstanceAs (Decidable (_ ∧ _ ∧ _ ∧ _))

structure Sound (h : List StoreEvent) (s : ConversationStore) : Prop where
  /-- The turns of a conversation that have not ended are its active turn. -/
  active : ∀ id t c, s.turns.get? id = some t → s.conversations.get? t.conversationId = some c →
    (t.status.terminal = false ↔ c.activeTurnId = some id)
  activeFound : ∀ id c turnId, s.conversations.get? id = some c → c.activeTurnId = some turnId →
    ∃ t, s.turns.get? turnId = some t ∧ t.conversationId = id
  /-- A turn that has ended stays as it is in every run that goes on. -/
  ended : ∀ ok h' s', conversationStore.Runs ok s h' s' →
    ∀ id t, s.turns.get? id = some t → t.status.terminal = true → s'.turns.get? id = some t
  /-- A request that was accepted before gets its turn again, or is refused. -/
  again : ∀ (a : Submission) (r : Readings) (c : Conversation) (t : ChatTurn) (new : Bool),
    ((.submitTurn a, r), .ok (.submitted c t new)) ∈ h → ∀ (a' : Submission) (r' : Readings), a'.key = a.key →
    if a'.SameContent a then
      ∃ c t', conversationStore.step s (.submitTurn a', r') = (.ok (.submitted c t' false), s) ∧ t'.turnId = t.turnId
    else ∃ e, conversationStore.step s (.submitTurn a', r') = (.error e, s)
  /-- One message of the user, and one of the assistant if the turn has one. -/
  counts : ∀ id t, s.turns.get? id = some t → ∃ c, s.conversations.get? t.conversationId = some c ∧
    messageCount .user id c = 1 ∧ messageCount .assistant id c = if Answering t.status then 1 else 0
  owned : ∀ id c, s.conversations.get? id = some c → ∀ m ∈ c.messages,
    ∃ t, s.turns.get? m.turnId = some t ∧ t.conversationId = id
  uniqueIds : UniqueIds s
  version : ∀ id c, s.conversations.get? id = some c → c.version = 1 + (h.countP (Advances id) : Int)
  unchanged : ∀ i e, (conversationStore.step s i).1 = .error e → (conversationStore.step s i).2 = s

theorem runs_uniqueIds (hr : conversationStore.Runs (fun s i => ¬ Repeats s i) {} h s) : UniqueIds s := by
  have hall := hr.invariant (I := fun s => Inv s ∧ UniqueIds s) ⟨inv_empty, by simp [UniqueIds]⟩ fun s i hs hfresh => by
    refine ⟨step_inv hs.1 i, ?_⟩
    obtain ⟨reply, -, he⟩ | ⟨e, -, he⟩ := step_effect hs.1 i
    · exact hs.2.effect he hfresh
    · exact he.symm ▸ hs.2
  exact hall.2

/-- In a run without a completion that repeats a message id, all of it holds. -/
theorem conversationStore_sound (hr : conversationStore.Runs (fun s i => ¬ Repeats s i) {} h s) : Sound h s := by
  have hi := runs_inv hr
  refine ⟨hi.active, hi.activeFound, fun ok h' s' hr' => runs_ended hi hr', ?_, ?_, hi.owned, runs_uniqueIds hr, ?_, ?_⟩
  · intro a r c t new hmem a' r' hkey
    have ha := runs_answered hr hmem
    have hsame : a'.SameContent a ↔ a'.Matches t.toTurnFields := by
      obtain ⟨⟨h₁, h₂, h₃, h₄⟩, -⟩ := ha
      simp only [Submission.SameContent, Submission.Matches, h₁, h₂, h₃, h₄, eq_comm]
    simp only [hsame]
    exact submitTurn_again hi ha hkey
  · intro id t ht
    obtain ⟨c, hc⟩ := hi.housed id t ht
    exact ⟨c, hc, hi.counts id t c ht hc⟩
  · intro id c hc
    have hcounted := runs_counted hr id
    rw [hc] at hcounted
    exact hcounted
  · intro i e he
    obtain ⟨reply, hreply, -⟩ | ⟨e', -, hs⟩ := step_effect hi i
    · rw [hreply] at he
      cases he
    · exact hs

def oneId : Readings := { firstId := .ok "a", secondId := .ok "a" }

def oneTurn : List StoreInput :=
  [(.create none, oneId), (.submitTurn ⟨"conversation-a", "request", 1, "hello", "conversation", "sv", 1⟩, oneId),
    (.markRunning "turn-a", oneId), (.completeAnswer "turn-a" "hi" [], oneId)]

/-- The question and the answer of one turn have the same id. -/
theorem messageIds_repeat : ¬ ∀ h s, conversationStore.Runs Machine.always {} h s → Sound h s := by
  intro hall
  have hsound := hall _ _ (Machine.runs_runList (Machine.stepsOk_always conversationStore {} oneTurn))
  have hids : (((conversationStore.runList {} oneTurn).2.conversations.get? "conversation-a").map messageIds) =
      some ["message-a", "message-a"] := by decide +kernel
  obtain ⟨c, hc, hm⟩ := Option.map_eq_some_iff.mp hids
  have hnodup := hsound.uniqueIds _ c hc
  rw [hm] at hnodup
  exact absurd hnodup (by decide)

def freshId (s : ConversationStore) (i : StoreInput) : Bool :=
  match i.1.answers, i.2.firstId with
  | some _, .ok value => s.conversations.values.all fun c => idText "message" value ∉ messageIds c
  | _, _ => true

theorem freshId_not_repeats {i : StoreInput} (hf : freshId s i = true) : ¬ Repeats s i := by
  rintro ⟨turnId, t, c, value, hanswers, -, -, hfound, hvalue, hmem⟩
  simp only [freshId, hanswers, hvalue, List.all_eq_true, decide_eq_true_eq] at hf
  exact hf c (Dict.mem_values_iff.mpr ⟨_, hfound⟩) hmem

def oneTurnAnew : List StoreInput := oneTurn.take 3 ++ [(.completeAnswer "turn-a" "hi" [], { firstId := .ok "b" })]

/-- A conversation with one turn, answered under a new id. -/
theorem conversationStore_sound_oneTurn :
    Sound (conversationStore.runList {} oneTurnAnew).1 (conversationStore.runList {} oneTurnAnew).2 ∧
      (((conversationStore.runList {} oneTurnAnew).2.conversations.get? "conversation-a").map messageIds) =
        some ["message-a", "message-b"] := by
  have hok : conversationStore.StepsOk (fun s i => freshId s i = true) {} oneTurnAnew := by decide +kernel
  exact ⟨conversationStore_sound ((Machine.runs_runList hok).weaken fun _ _ => freshId_not_repeats), by decide +kernel⟩

end RobotLlm.Dashboard.ConversationStore
