import RobotLlm.Ev3.DecodeRequest

/-!
# What the decoder accepts

The decoder follows the schema but for one comparison: a version that is no
integer may equal the version. The lemmas go function by function, and each
says when its function answers and with what.
-/

namespace RobotLlm.Ev3

open RobotLlm.Lib

-- The schema of a frame

/-- `body` is the line of a text: there is one line ending at most, at the end. -/
def LineOf (text body : List Char) : Prop :=
  (text = body ∨ text = body ++ ['\n'] ∨ text = body ++ ['\r', '\n']) ∧ ∀ c ∈ body, c ≠ '\n' ∧ c ≠ '\r'

inductive ArgumentType where
  | identifier (maximum : Nat)
  | action
  | sequence
  | integer

def argumentType : String → ArgumentType
  | "owner_id" => .identifier 64
  | "session_id" | "command_id" => .identifier 128
  | "action" => .action
  | "sequence_id" | "reference_heartbeat_sequence" => .sequence
  | _ => .integer

def ArgumentType.Holds : ArgumentType → Json → Prop
  | .identifier maximum, value => ∃ text, value = .str text ∧ IsIdentifier text maximum
  | .action, value => ∃ text, value = .str text ∧ text ∈ ["ADVANCE", "TURN_LEFT", "TURN_RIGHT"]
  | .sequence, value => ∃ number, value = .int number ∧ 0 < number ∧ number ≤ 2147483647
  | .integer, value => ∃ number, value = .int number

/-- The fields of an envelope say what the request says, and are as the schema
has them. -/
structure Schema (fields : List (String × Json)) (version : Json) (r : DecodedRequest) : Prop where
  keys : Json.HasKeys fields commonFields
  protocolVersion : fields.lookup "protocol_version" = some version
  requestId : fields.lookup "request_id" = some (.str r.requestId)
  requestIdOk : IsIdentifier r.requestId 128
  controllerId : fields.lookup "controller_id" = some (.str r.controllerId)
  controllerIdOk : IsIdentifier r.controllerId 128
  operation : fields.lookup "op" = some (.str r.operation.text)
  queueTtlMs : fields.lookup "queue_ttl_ms" = some (.int r.queueTtlMs)
  queueTtlMsOk : 0 < r.queueTtlMs ∧ r.queueTtlMs ≤ maxTtlMs
  arguments : fields.lookup "args" = some (.obj r.arguments)
  argumentKeys : Json.HasKeys r.arguments r.operation.argumentFields
  argumentsOk : ∀ name value, r.arguments.lookup name = some value → (argumentType name).Holds value

/-- The bytes are a frame of the request `r`, with this version. -/
def IsFrame (host : JsonHost) (version : Json) (raw : ByteArray) (receivedAtMs : Int) (r : DecodedRequest) : Prop :=
  0 ≤ receivedAtMs ∧ r.receivedAtMs = receivedAtMs ∧ raw.size ≤ maxFrameBytes ∧
    ∃ (text : String) (body : List Char) (fields : List (String × Json)), text.toByteArray = raw ∧ LineOf text.toList body ∧
      (host.scan (String.ofList body)).standard? = some (.obj fields) ∧ (Json.obj fields).Distinct ∧
      Schema fields version r

/-- The decoder takes these bytes as the schema says. -/
def Decodes (host : JsonHost) (raw : ByteArray) (receivedAtMs : Int) : Prop :=
  (∀ r, decodeRequest host (.bytes raw) receivedAtMs = .ok r ↔ IsFrame host (.int protocolVersion) raw receivedAtMs r) ∧
    ((¬ ∃ r, IsFrame host (.int protocolVersion) raw receivedAtMs r) →
      ∃ e, decodeRequest host (.bytes raw) receivedAtMs = .error (.protocol e))

-- The text of a frame

theorem ends_in {text : List Char} {c : Char} : text.getLast? = some c ↔ ∃ body, text = body ++ [c] := by
  constructor
  · intro h
    exact ⟨text.dropLast, (List.dropLast_append_getLast? c h).symm⟩
  · rintro ⟨body, rfl⟩
    simp

theorem lineOf_iff {text body : List Char} :
    LineOf text body ↔ stripLineEnding text = body ∧ ∀ c ∈ body, c ≠ '\n' ∧ c ≠ '\r' := by
  refine and_congr_left fun hbody => ?_
  have hopen : ∀ c, body.getLast? = some c → c ≠ '\n' ∧ c ≠ '\r' := fun c h => hbody c (List.mem_of_getLast? h)
  constructor
  · rintro (rfl | rfl | rfl)
    · rw [stripLineEnding, if_neg fun h => (hopen _ h).1 rfl]
    · rw [stripLineEnding, if_pos (by simp), List.dropLast_concat, if_neg fun h => (hopen _ h).2 rfl]
    · have hlast : body ++ ['\r', '\n'] = (body ++ ['\r']) ++ ['\n'] := by simp
      rw [stripLineEnding, hlast, if_pos (by simp), List.dropLast_concat, if_pos (by simp), List.dropLast_concat]
  · rintro rfl
    unfold stripLineEnding
    by_cases hn : text.getLast? = some '\n'
    · obtain ⟨line, rfl⟩ := ends_in.mp hn
      rw [if_pos hn, List.dropLast_concat]
      by_cases hr : line.getLast? = some '\r'
      · obtain ⟨line, rfl⟩ := ends_in.mp hr
        rw [if_pos hr, List.dropLast_concat]
        exact .inr (.inr (by simp))
      · rw [if_neg hr]
        exact .inr (.inl rfl)
    · rw [if_neg hn]
      exact .inl rfl

theorem fromUTF8?_eq_some_iff {raw : ByteArray} {text : String} : String.fromUTF8? raw = some text ↔ text.toByteArray = raw := by
  unfold String.fromUTF8?
  constructor
  · intro h
    split at h
    · cases h
      rfl
    · cases h
  · rintro rfl
    rw [dif_pos text.isValidUTF8]
    rfl

theorem frameText_ok_iff {raw : ByteArray} {text : String} :
    frameText (.bytes raw) = .ok text ↔ raw.size ≤ maxFrameBytes ∧ text.toByteArray = raw := by
  rw [frameText, require_bind_ok_iff, ← fromUTF8?_eq_some_iff]
  cases String.fromUTF8? raw with
  | none => simp [throw, throwThe, MonadExceptOf.throw]
  | some read => simp [pure, Except.pure]

theorem decodeText_ok_iff {raw : ByteArray} {line : String} :
    decodeText (.bytes raw) = .ok line ↔ raw.size ≤ maxFrameBytes ∧ ∃ text : String, text.toByteArray = raw ∧
      LineOf text.toList line.toList ∧ line ≠ "" ∧ '\x00' ∉ line.toList := by
  rw [decodeText, bind_ok_iff]
  simp only [frameText_ok_iff, require_bind_ok_iff, lineOf_iff, pure, Except.pure, Except.ok.injEq]
  constructor
  · rintro ⟨text, ⟨hsize, htext⟩, ⟨hne, hclean⟩, rfl⟩
    refine ⟨hsize, text, htext, ⟨?_, ?_⟩, ?_, ?_⟩
    · simp
    · intro c hc
      rw [String.toList_ofList] at hc
      exact ⟨(hclean c hc).1, (hclean c hc).2.1⟩
    · intro h
      exact hne (by simpa using congrArg String.toList h)
    · intro h
      rw [String.toList_ofList] at h
      exact (hclean _ h).2.2 rfl
  · rintro ⟨hsize, text, htext, ⟨hline, hends⟩, hne, hnul⟩
    refine ⟨text, ⟨hsize, htext⟩, ⟨?_, ?_⟩, ?_⟩
    · rw [hline]
      intro h
      exact hne (by simpa using congrArg String.ofList h)
    · rw [hline]
      intro c hc
      exact ⟨(hends c hc).1, (hends c hc).2, fun h => hnul (h ▸ hc)⟩
    · rw [hline]
      simp

-- The hooks

theorem strictObject_ok_iff {result pairs : List (String × Json)} {value : Json} :
    strictObject result pairs = .ok value ↔
      (pairs.map Prod.fst).Nodup ∧ (∀ key ∈ pairs.map Prod.fst, key ∉ result.map Prod.fst) ∧
        value = .obj (result ++ pairs) := by
  induction pairs generalizing result with
  | nil => simp [strictObject, eq_comm]
  | cons pair pairs ih =>
    obtain ⟨key, first⟩ := pair
    by_cases hkey : key ∈ result.map Prod.fst
    · rw [strictObject, if_pos hkey]
      constructor
      · intro h
        cases h
      · intro h
        exact absurd hkey (h.2.1 key List.mem_cons_self)
    · rw [strictObject, if_neg hkey, ih]
      simp only [List.map_append, List.map_cons, List.map_nil, List.mem_append, List.mem_singleton, List.nodup_cons,
        List.append_assoc, List.singleton_append, List.forall_mem_cons, not_or]
      constructor
      · rintro ⟨hnodup, hfresh, rfl⟩
        exact ⟨⟨fun h => (hfresh key h).2 rfl, hnodup⟩, ⟨hkey, fun k h => (hfresh k h).1⟩, rfl⟩
      · rintro ⟨⟨hnot, hnodup⟩, ⟨_, hfresh⟩, rfl⟩
        exact ⟨hnodup, fun k h => ⟨hfresh k h, fun heq => hnot (heq ▸ h)⟩, rfl⟩

theorem decodeHooks_strict : decodeHooks.Strict where
  objectPairs pairs value := by
    show strictObject [] pairs = .ok value ↔ _
    simp [strictObject_ok_iff]
  parseConstant _ := ⟨invalidJson, rfl⟩

-- The typed helpers

theorem identifier_ok_iff {name text : String} {value : Json} {maximum : Nat} {requestId : Option String} :
    identifier name value maximum requestId = .ok text ↔ value = .str text ∧ IsIdentifier text maximum := by
  cases value with
  | str read =>
    rw [identifier, require_bind_ok_iff]
    constructor
    · rintro ⟨hok, heq⟩
      cases heq
      exact ⟨rfl, hok⟩
    · rintro ⟨heq, hok⟩
      cases heq
      exact ⟨hok, rfl⟩
  | _ => simp [identifier]

theorem positiveInt_ok_iff {name : String} {value : Json} {maximum number : Int} {requestId : Option String} :
    positiveInt name value maximum requestId = .ok number ↔ value = .int number ∧ 0 < number ∧ number ≤ maximum := by
  cases value with
  | int read =>
    rw [positiveInt, require_bind_ok_iff]
    constructor
    · rintro ⟨hok, heq⟩
      cases heq
      exact ⟨rfl, hok⟩
    · rintro ⟨heq, hok⟩
      cases heq
      exact ⟨hok, rfl⟩
  | _ => simp [positiveInt]

theorem exactFields_ok_iff {value : Json} {expected : List String} {context : String} {requestId : Option String}
    {fields : List (String × Json)} :
    exactFields value expected context requestId = .ok fields ↔ value = .obj fields ∧ Json.HasKeys fields expected := by
  cases value with
  | obj read =>
    rw [exactFields, require_bind_ok_iff]
    constructor
    · rintro ⟨hok, heq⟩
      cases heq
      exact ⟨rfl, hok⟩
    · rintro ⟨heq, hok⟩
      cases heq
      exact ⟨hok, rfl⟩
  | _ => simp [exactFields]

theorem text_of_ofText? {text : String} {operation : OperationName} :
    OperationName.ofText? text = some operation ↔ text = operation.text := by
  constructor
  · intro h
    exact (by simpa using List.find?_some h : operation.text = text).symm
  · rintro rfl
    cases operation <;> decide

theorem operationOf_ok_iff {value : Json} {requestId : String} {operation : OperationName} :
    operationOf value requestId = .ok operation ↔ value = .str operation.text := by
  cases value with
  | str text =>
    rw [operationOf, Json.toStr?_str, Option.bind_some]
    cases hread : OperationName.ofText? text with
    | none =>
      constructor
      · intro h
        cases h
      · intro h
        cases h
        rw [text_of_ofText?.mpr rfl] at hread
        cases hread
    | some read =>
      obtain rfl := text_of_ofText?.mp hread
      constructor
      · intro h
        cases h
        rfl
      · intro h
        have htext : read.text = operation.text := by simpa using h
        rw [htext, text_of_ofText?.mpr rfl] at hread
        cases hread
        rfl
  | _ => simp [operationOf, Json.toStr?]

-- The arguments

theorem mem_keys_of_lookup {fields : List (String × Json)} {name : String} {value : Json}
    (h : fields.lookup name = some value) : name ∈ fields.map Prod.fst := by
  obtain ⟨before, after, rfl, _⟩ := List.lookup_eq_some_iff.mp h
  simp

theorem checkArgument_ok_iff {arguments : List (String × Json)} {check : String → Json → Except DecodeError Unit}
    {name : String} :
    checkArgument arguments check name = .ok () ↔ ∀ value, arguments.lookup name = some value → check name value = .ok () := by
  unfold checkArgument
  cases arguments.lookup name <;> simp

def ChecksType (check : String → Json → Except DecodeError Unit) (name : String) : Prop :=
  ∀ value, check name value = .ok () ↔ (argumentType name).Holds value

theorem checkIdentifier_ok_iff {name : String} {value : Json} {requestId : Option String} :
    checkIdentifier requestId name value = .ok () ↔
      ∃ text, value = .str text ∧ IsIdentifier text (if name ≠ "owner_id" then 128 else 64) := by
  rw [checkIdentifier, bind_ok_iff]
  simp [identifier_ok_iff, pure, Except.pure]

theorem drivePulseSpeeds_isSome {action : String} :
    (drivePulseSpeeds action).isSome ↔ action ∈ ["ADVANCE", "TURN_LEFT", "TURN_RIGHT"] := by
  unfold drivePulseSpeeds
  split <;> simp_all

theorem checkAction_ok_iff {name : String} {value : Json} {requestId : Option String} :
    checkAction requestId name value = .ok () ↔ ArgumentType.action.Holds value := by
  have hshort : ∀ action ∈ ["ADVANCE", "TURN_LEFT", "TURN_RIGHT"], IsIdentifier action 32 := by decide
  rw [checkAction, bind_ok_iff]
  constructor
  · rintro ⟨action, hid, hknown⟩
    by_cases hsome : (drivePulseSpeeds action).isSome
    · exact ⟨action, (identifier_ok_iff.mp hid).1, drivePulseSpeeds_isSome.mp hsome⟩
    · rw [require_neg hsome] at hknown
      cases hknown
  · rintro ⟨action, rfl, hknown⟩
    exact ⟨action, identifier_ok_iff.mpr ⟨rfl, hshort action hknown⟩, require_pos (drivePulseSpeeds_isSome.mpr hknown)⟩

theorem checkSequence_ok_iff {name : String} {value : Json} {requestId : Option String} :
    checkSequence requestId name value = .ok () ↔ ArgumentType.sequence.Holds value := by
  rw [checkSequence, bind_ok_iff]
  simp [positiveInt_ok_iff, ArgumentType.Holds, pure, Except.pure]

theorem checkInteger_ok_iff {name : String} {value : Json} {requestId : Option String} :
    checkInteger requestId name value = .ok () ↔ ArgumentType.integer.Holds value := by
  unfold checkInteger
  cases value <;> simp [require, Json.toInt?, ArgumentType.Holds]

theorem seq_ok_iff {x y : Except DecodeError Unit} : (x >>= fun _ => y) = .ok () ↔ x = .ok () ∧ y = .ok () := by
  rw [bind_ok_iff]
  constructor
  · rintro ⟨_, hx, hy⟩
    exact ⟨hx, hy⟩
  · rintro ⟨hx, hy⟩
    exact ⟨(), hx, hy⟩

theorem forM_ok_iff {f : String → Except DecodeError Unit} {names : List String} :
    names.forM f = .ok () ↔ ∀ name ∈ names, f name = .ok () := by
  refine ⟨forM_ok, fun h => ?_⟩
  induction names with
  | nil => rfl
  | cons name names ih =>
    obtain ⟨hname, hnames⟩ := List.forall_mem_cons.mp h
    show (f name >>= fun _ => names.forM f) = .ok ()
    rw [hname]
    exact ih hnames

theorem checkArguments_ok_iff {arguments : List (String × Json)} {requestId : Option String}
    (hnames : ∀ name ∈ arguments.map Prod.fst, name ∈ ["owner_id", "session_id", "command_id", "action", "sequence_id",
      "reference_heartbeat_sequence", "left_speed_dps", "right_speed_dps", "duration_ms"]) :
    checkArguments arguments requestId = .ok () ↔
      ∀ name value, arguments.lookup name = some value → (argumentType name).Holds value := by
  rw [checkArguments, seq_ok_iff, seq_ok_iff, seq_ok_iff, forM_ok_iff, forM_ok_iff, forM_ok_iff]
  simp only [checkArgument_ok_iff, List.forall_mem_cons, checkIdentifier_ok_iff, checkAction_ok_iff,
    checkSequence_ok_iff, checkInteger_ok_iff]
  constructor
  · rintro ⟨⟨howner, hsession, hcommand, _⟩, haction, ⟨hsequence, hreference, _⟩, hleft, hright, hduration, _⟩ name value h
    have hmem := hnames name (mem_keys_of_lookup h)
    simp only [List.mem_cons, List.not_mem_nil, or_false] at hmem
    obtain rfl | rfl | rfl | rfl | rfl | rfl | rfl | rfl | rfl := hmem
    · exact howner value h
    · exact hsession value h
    · exact hcommand value h
    · exact haction value h
    · exact hsequence value h
    · exact hreference value h
    · exact hleft value h
    · exact hright value h
    · exact hduration value h
  · intro h
    exact ⟨⟨h "owner_id", h "session_id", h "command_id", by simp⟩, h "action",
      ⟨h "sequence_id", h "reference_heartbeat_sequence", by simp⟩,
      h "left_speed_dps", h "right_speed_dps", h "duration_ms", by simp⟩

theorem argumentFields_known (operation : OperationName) :
    ∀ name ∈ operation.argumentFields, name ∈ ["owner_id", "session_id", "command_id", "action", "sequence_id",
      "reference_heartbeat_sequence", "left_speed_dps", "right_speed_dps", "duration_ms"] := by
  cases operation <;> decide

-- The envelope

theorem lookup_of_hasKeys {fields : List (String × Json)} {names : List String} (h : Json.HasKeys fields names)
    {name : String} (hname : name ∈ names) : fields.lookup name = some (requestItem fields name) := by
  unfold requestItem
  cases hlookup : fields.lookup name with
  | some value => rfl
  | none =>
    obtain ⟨field, hfield, heq⟩ := List.mem_map.mp (h.1 name hname)
    have hne := List.lookup_eq_none_iff.mp hlookup field hfield
    simp [heq] at hne

theorem decodeEnvelope_ok_iff {host : JsonHost} {value : Json} {receivedAtMs : Int} {r : DecodedRequest} :
    decodeEnvelope host value receivedAtMs = .ok r ↔ ∃ fields version, value = .obj fields ∧
      isVersion host version = true ∧ Schema fields version r ∧ r.receivedAtMs = receivedAtMs := by
  rw [decodeEnvelope, bind_ok_iff]
  simp only [bind_ok_iff, exactFields_ok_iff, identifier_ok_iff, positiveInt_ok_iff, operationOf_ok_iff, require_ok_iff,
    pure, Except.pure, Except.ok.injEq]
  constructor
  · rintro ⟨fields, ⟨rfl, hkeys⟩, requestId, ⟨hrequest, hrequestOk⟩, _, hversion, controllerId, ⟨hcontroller, hcontrollerOk⟩,
      operation, hop, ttl, ⟨httl, httlOk⟩, arguments, ⟨hargs, hargKeys⟩, _, hchecks, rfl⟩
    have hlookup : ∀ name ∈ commonFields, fields.lookup name = some (requestItem fields name) := fun name h =>
      lookup_of_hasKeys hkeys h
    refine ⟨fields, requestItem fields "protocol_version", rfl, hversion, ?_, rfl⟩
    exact {
      keys := hkeys
      protocolVersion := hlookup _ (by decide)
      requestId := hrequest ▸ hlookup _ (by decide)
      requestIdOk := hrequestOk
      controllerId := hcontroller ▸ hlookup _ (by decide)
      controllerIdOk := hcontrollerOk
      operation := hop ▸ hlookup _ (by decide)
      queueTtlMs := httl ▸ hlookup _ (by decide)
      queueTtlMsOk := httlOk
      arguments := hargs ▸ hlookup _ (by decide)
      argumentKeys := hargKeys
      argumentsOk := (checkArguments_ok_iff fun name h => argumentFields_known operation name (hargKeys.2 name h)).mp hchecks }
  · rintro ⟨fields, version, rfl, hversion, hs, rfl⟩
    have hitem : ∀ name value, fields.lookup name = some value → requestItem fields name = value := by
      intro name value h
      rw [requestItem, h, Option.getD_some]
    refine ⟨fields, ⟨rfl, hs.keys⟩, r.requestId, ⟨hitem _ _ hs.requestId, hs.requestIdOk⟩, (), ?_, r.controllerId,
      ⟨hitem _ _ hs.controllerId, hs.controllerIdOk⟩, r.operation, hitem _ _ hs.operation, r.queueTtlMs,
      ⟨hitem _ _ hs.queueTtlMs, hs.queueTtlMsOk⟩, r.arguments, ⟨hitem _ _ hs.arguments, hs.argumentKeys⟩, (), ?_, rfl⟩
    · rw [hitem _ _ hs.protocolVersion]
      exact hversion
    · refine (checkArguments_ok_iff fun name h => ?_).mpr hs.argumentsOk
      exact argumentFields_known r.operation name (hs.argumentKeys.2 name h)

theorem decodeRequest_ok_iff {host : JsonHost} {raw : ByteArray} {receivedAtMs : Int} {r : DecodedRequest} :
    decodeRequest host (.bytes raw) receivedAtMs = .ok r ↔
      ∃ version, isVersion host version = true ∧ IsFrame host version raw receivedAtMs r := by
  rw [decodeRequest, require_bind_ok_iff]
  simp only [bind_ok_iff, decodeText_ok_iff, decodeEnvelope_ok_iff, JsonScan.load_ok_iff decodeHooks_strict]
  constructor
  · rintro ⟨hat, line, ⟨hsize, text, htext, hline, _, _⟩, _, ⟨hscan, hdistinct⟩, fields, version, rfl, hversion, hs, hr⟩
    refine ⟨version, hversion, hat, hr, hsize, text, line.toList, fields, htext, hline, ?_, hdistinct, hs⟩
    rw [String.ofList_toList]
    exact JsonScan.standard?_eq_some_iff.mpr hscan
  · rintro ⟨version, hversion, hat, hr, hsize, text, body, fields, htext, hline, hscan, hdistinct, hs⟩
    have hok : ¬ (String.ofList body = "" ∨ '\x00' ∈ (String.ofList body).toList) := by
      intro h
      rw [host.rejects _ h] at hscan
      cases hscan
    refine ⟨hat, String.ofList body, ⟨hsize, text, htext, ?_, fun h => hok (.inl h), fun h => hok (.inr h)⟩, .obj fields,
      ⟨JsonScan.standard?_eq_some_iff.mp hscan, hdistinct⟩, fields, version, rfl, hversion, hs, hr⟩
    rw [String.toList_ofList]
    exact hline

-- The dispatch

theorem Schema.text? {fields : List (String × Json)} {version : Json} {r : DecodedRequest} (h : Schema fields version r)
    (name : String) (hname : name ∈ r.operation.argumentFields)
    (htype : argumentType name = .action ∨ ∃ maximum, argumentType name = .identifier maximum) :
    ∃ text, r.text? name = some text := by
  have hlookup := lookup_of_hasKeys h.argumentKeys hname
  have hholds := h.argumentsOk _ _ hlookup
  obtain htype | ⟨maximum, htype⟩ := htype <;>
  · rw [htype] at hholds
    obtain ⟨text, htext, _⟩ := hholds
    exact ⟨text, by rw [DecodedRequest.text?, hlookup, htext, Json.toStr?_str]⟩

theorem Schema.number? {fields : List (String × Json)} {version : Json} {r : DecodedRequest} (h : Schema fields version r)
    (name : String) (hname : name ∈ r.operation.argumentFields)
    (htype : argumentType name = .sequence ∨ argumentType name = .integer) : ∃ number, r.number? name = some number := by
  have hlookup := lookup_of_hasKeys h.argumentKeys hname
  have hholds := h.argumentsOk _ _ hlookup
  obtain htype | htype := htype
  · rw [htype] at hholds
    obtain ⟨number, hnumber, _⟩ := hholds
    exact ⟨number, by rw [DecodedRequest.number?, hlookup, hnumber, Json.toInt?_int]⟩
  · rw [htype] at hholds
    obtain ⟨number, hnumber⟩ := hholds
    exact ⟨number, by rw [DecodedRequest.number?, hlookup, hnumber, Json.toInt?_int]⟩

theorem Schema.operation? {fields : List (String × Json)} {version : Json} {r : DecodedRequest}
    (h : Schema fields version r) : ∃ operation, r.operation? = some operation := by
  have htext := h.text?
  have hnumber := h.number?
  unfold DecodedRequest.operation?
  cases hop : r.operation with
  | status | describe | stop | shutdown => exact ⟨_, rfl⟩
  | claim =>
    rw [hop] at htext
    obtain ⟨owner, howner⟩ := htext "owner_id" (by decide) (.inr ⟨_, rfl⟩)
    simp [howner]
  | heartbeat | arm | release =>
    rw [hop] at htext hnumber
    obtain ⟨session, hsession⟩ := htext "session_id" (by decide) (.inr ⟨_, rfl⟩)
    obtain ⟨sequence, hsequence⟩ := hnumber "sequence_id" (by decide) (.inl rfl)
    simp [hsession, hsequence]
  | driveTimed =>
    rw [hop] at htext hnumber
    obtain ⟨session, hsession⟩ := htext "session_id" (by decide) (.inr ⟨_, rfl⟩)
    obtain ⟨sequence, hsequence⟩ := hnumber "sequence_id" (by decide) (.inl rfl)
    obtain ⟨command, hcommand⟩ := htext "command_id" (by decide) (.inr ⟨_, rfl⟩)
    obtain ⟨reference, hreference⟩ := hnumber "reference_heartbeat_sequence" (by decide) (.inl rfl)
    obtain ⟨left, hleft⟩ := hnumber "left_speed_dps" (by decide) (.inr rfl)
    obtain ⟨right, hright⟩ := hnumber "right_speed_dps" (by decide) (.inr rfl)
    obtain ⟨duration, hduration⟩ := hnumber "duration_ms" (by decide) (.inr rfl)
    simp [hsession, hsequence, hcommand, hreference, hleft, hright, hduration]
  | drivePulse =>
    rw [hop] at htext hnumber
    obtain ⟨session, hsession⟩ := htext "session_id" (by decide) (.inr ⟨_, rfl⟩)
    obtain ⟨sequence, hsequence⟩ := hnumber "sequence_id" (by decide) (.inl rfl)
    obtain ⟨command, hcommand⟩ := htext "command_id" (by decide) (.inr ⟨_, rfl⟩)
    obtain ⟨reference, hreference⟩ := hnumber "reference_heartbeat_sequence" (by decide) (.inl rfl)
    obtain ⟨action, haction⟩ := htext "action" (by decide) (.inl rfl)
    simp [hsession, hsequence, hcommand, hreference, haction]

-- Refusals

/-- What is raised, if anything, is a refusal of the protocol. -/
def Refuses (x : Except DecodeError α) : Prop := ∀ e, x = .error e → ∃ refusal, e = .protocol refusal

namespace Refuses

theorem ok (a : α) : Refuses (.ok a) := by
  intro e h
  cases h

theorem protocol (refusal : ProtocolError) : Refuses (.error (.protocol refusal) : Except DecodeError α) := by
  intro e h
  cases h
  exact ⟨refusal, rfl⟩

theorem bind {x : Except DecodeError α} {f : α → Except DecodeError β} (hx : Refuses x) (hf : ∀ a, Refuses (f a)) :
    Refuses (x >>= f) := by
  cases x with
  | ok a => exact hf a
  | error e =>
    intro e' h
    cases h
    exact hx e rfl

theorem require {c : Prop} [Decidable c] (refusal : ProtocolError) : Refuses (Lib.require c (.protocol refusal)) := by
  by_cases h : c
  · rw [require_pos h]
    exact ok ()
  · rw [require_neg h]
    exact protocol refusal

theorem forM {f : String → Except DecodeError Unit} {names : List String} (h : ∀ name, Refuses (f name)) :
    Refuses (names.forM f) := by
  induction names with
  | nil => exact ok ()
  | cons name names ih => exact bind (h name) fun _ => ih

end Refuses

theorem Refuses.not_recursion {x : Except DecodeError α} (h : Refuses x) : x ≠ .error .recursion := by
  intro hx
  obtain ⟨refusal, heq⟩ := h _ hx
  cases heq

theorem Refuses.recursion_iff {α β : Type} {x : Except DecodeError α} {f : α → Except DecodeError β} (hx : Refuses x) :
    (x >>= f) = .error .recursion ↔ ∃ a, x = .ok a ∧ f a = .error .recursion := by
  cases x with
  | ok a => simp
  | error e =>
    have he : e ≠ .recursion := fun h => hx.not_recursion (h ▸ rfl)
    simp [he]

theorem decodeText_refuses (raw : RawFrame) : Refuses (decodeText raw) := by
  refine .bind ?_ fun _ => .bind (.require _) fun _ => .ok _
  cases raw with
  | text raw => exact .bind (.require _) fun _ => .ok _
  | bytes raw =>
    refine .bind (.require _) fun _ => ?_
    cases String.fromUTF8? raw with
    | some text => exact .ok _
    | none => exact .protocol _

theorem identifier_refuses (name : String) (value : Json) (maximum : Nat) (requestId : Option String) :
    Refuses (identifier name value maximum requestId) := by
  cases value with
  | str text => exact .bind (.require _) fun _ => .ok _
  | _ => exact .protocol _

theorem positiveInt_refuses (name : String) (value : Json) (maximum : Int) (requestId : Option String) :
    Refuses (positiveInt name value maximum requestId) := by
  cases value with
  | int number => exact .bind (.require _) fun _ => .ok _
  | _ => exact .protocol _

theorem exactFields_refuses (value : Json) (expected : List String) (context : String) (requestId : Option String) :
    Refuses (exactFields value expected context requestId) := by
  cases value with
  | obj fields => exact .bind (.require _) fun _ => .ok _
  | _ => exact .protocol _

theorem operationOf_refuses (value : Json) (requestId : String) : Refuses (operationOf value requestId) := by
  unfold operationOf
  cases (Json.toStr? (some value)).bind OperationName.ofText? with
  | some operation => exact .ok _
  | none => exact .protocol _

theorem checkArgument_refuses {arguments : List (String × Json)} {check : String → Json → Except DecodeError Unit}
    (h : ∀ name value, Refuses (check name value)) (name : String) : Refuses (checkArgument arguments check name) := by
  unfold checkArgument
  cases arguments.lookup name with
  | some value => exact h name value
  | none => exact .ok ()

theorem checkArguments_refuses (arguments : List (String × Json)) (requestId : Option String) :
    Refuses (checkArguments arguments requestId) := by
  refine .bind (.forM (checkArgument_refuses fun name value => ?_)) fun _ =>
    .bind (checkArgument_refuses (fun name value => ?_) _) fun _ =>
    .bind (.forM (checkArgument_refuses fun name value => ?_)) fun _ =>
    .forM (checkArgument_refuses fun name value => .require _)
  · exact .bind (identifier_refuses _ _ _ _) fun _ => .ok _
  · exact .bind (identifier_refuses _ _ _ _) fun _ => .require _
  · exact .bind (positiveInt_refuses _ _ _ _) fun _ => .ok _

theorem decodeEnvelope_refuses (host : JsonHost) (value : Json) (receivedAtMs : Int) :
    Refuses (decodeEnvelope host value receivedAtMs) := by
  refine .bind (exactFields_refuses _ _ _ _) fun fields => .bind (identifier_refuses _ _ _ _) fun requestId =>
    .bind (.require _) fun _ => .bind (identifier_refuses _ _ _ _) fun controllerId =>
    .bind (operationOf_refuses _ _) fun operation => .bind (positiveInt_refuses _ _ _ _) fun ttl =>
    .bind (exactFields_refuses _ _ _ _) fun arguments => .bind (checkArguments_refuses _ _) fun _ => .ok _

-- The decoder against the schema

/-- The bytes would be a frame if the version did not have to be an integer: it
is `true`, or a float that equals the version. -/
def LooseVersion (host : JsonHost) (raw : ByteArray) (receivedAtMs : Int) : Prop :=
  ∃ version r, (version = .bool true ∨ ∃ text, version = .float text ∧ host.equalsInt text protocolVersion = true) ∧
    IsFrame host version raw receivedAtMs r

/-- `json.loads` runs out of stack on the line that the bytes hold. -/
def TooDeep (host : JsonHost) (raw : ByteArray) (receivedAtMs : Int) : Prop :=
  0 ≤ receivedAtMs ∧ raw.size ≤ maxFrameBytes ∧ ∃ text line : String, text.toByteArray = raw ∧
    LineOf text.toList line.toList ∧ line ≠ "" ∧ '\x00' ∉ line.toList ∧
    (host.scan line).load decodeHooks = .error .recursion

theorem isVersion_iff {host : JsonHost} {version : Json} : isVersion host version = true ↔
    version = .int protocolVersion ∨ version = .bool true ∨
      ∃ text, version = .float text ∧ host.equalsInt text protocolVersion = true := by
  cases version with
  | bool value => cases value <;> simp [isVersion, protocolVersion]
  | _ => simp [isVersion]

theorem lineOf_unique {text body body' : List Char} (h : LineOf text body) (h' : LineOf text body') : body = body' :=
  (lineOf_iff.mp h).1.symm.trans (lineOf_iff.mp h').1

theorem IsFrame.version_unique {host : JsonHost} {version version' : Json} {raw : ByteArray} {receivedAtMs : Int}
    {r r' : DecodedRequest} (h : IsFrame host version raw receivedAtMs r) (h' : IsFrame host version' raw receivedAtMs r') :
    version = version' := by
  obtain ⟨_, _, _, text, body, fields, htext, hline, hscan, _, hs⟩ := h
  obtain ⟨_, _, _, text', body', fields', htext', hline', hscan', _, hs'⟩ := h'
  obtain rfl := String.toByteArray_inj.mp (htext.trans htext'.symm)
  obtain rfl := lineOf_unique hline hline'
  rw [hscan] at hscan'
  cases hscan'
  exact Option.some.inj (hs.protocolVersion.symm.trans hs'.protocolVersion)

theorem decodeRequest_recursion_iff {host : JsonHost} {raw : ByteArray} {receivedAtMs : Int} :
    decodeRequest host (.bytes raw) receivedAtMs = .error .recursion ↔ TooDeep host raw receivedAtMs := by
  have hload : ∀ line, ((host.scan line).load decodeHooks >>= fun value => decodeEnvelope host value receivedAtMs) =
      .error .recursion ↔ (host.scan line).load decodeHooks = .error .recursion := by
    intro line
    cases (host.scan line).load decodeHooks with
    | ok value => simp [(decodeEnvelope_refuses host value receivedAtMs).not_recursion]
    | error e => simp
  have hat : Refuses (require (0 ≤ receivedAtMs) (fatalError "invalid_receive_time" "Local receive time is invalid")) :=
    .require _
  rw [decodeRequest, hat.recursion_iff]
  simp only [require_ok_iff, (decodeText_refuses _).recursion_iff, decodeText_ok_iff, hload]
  constructor
  · rintro ⟨_, hat, line, ⟨hsize, text, htext, hline, hne, hnul⟩, hdeep⟩
    exact ⟨hat, hsize, text, line, htext, hline, hne, hnul, hdeep⟩
  · rintro ⟨hat, hsize, text, line, htext, hline, hne, hnul, hdeep⟩
    exact ⟨(), hat, line, ⟨hsize, text, htext, hline, hne, hnul⟩, hdeep⟩

/-- The decoder does as the schema says on all bytes but those whose version is
equal to an integer without being one, and those nested too deep to be read. -/
theorem decodeRequest_decodes_iff (host : JsonHost) (raw : ByteArray) (receivedAtMs : Int) :
    Decodes host raw receivedAtMs ↔ ¬ LooseVersion host raw receivedAtMs ∧ ¬ TooDeep host raw receivedAtMs := by
  constructor
  · rintro ⟨hframes, hothers⟩
    constructor
    · rintro ⟨version, r, hversion, hframe⟩
      have hok := decodeRequest_ok_iff.mpr ⟨version, isVersion_iff.mpr (.inr hversion), hframe⟩
      obtain rfl := hframe.version_unique ((hframes r).mp hok)
      simp at hversion
    · intro hdeep
      have herror := decodeRequest_recursion_iff.mpr hdeep
      by_cases hframe : ∃ r, IsFrame host (.int protocolVersion) raw receivedAtMs r
      · obtain ⟨r, hr⟩ := hframe
        rw [(hframes r).mpr hr] at herror
        cases herror
      · obtain ⟨e, he⟩ := hothers hframe
        rw [he] at herror
        cases herror
  · rintro ⟨hloose, hdeep⟩
    have hframes : ∀ r, decodeRequest host (.bytes raw) receivedAtMs = .ok r ↔
        IsFrame host (.int protocolVersion) raw receivedAtMs r := by
      intro r
      rw [decodeRequest_ok_iff]
      constructor
      · rintro ⟨version, hversion, hframe⟩
        obtain rfl | hother := isVersion_iff.mp hversion
        · exact hframe
        · exact absurd ⟨version, r, hother, hframe⟩ hloose
      · intro hframe
        exact ⟨_, isVersion_iff.mpr (.inl rfl), hframe⟩
    refine ⟨hframes, fun hnone => ?_⟩
    cases hdecode : decodeRequest host (.bytes raw) receivedAtMs with
    | ok r => exact absurd ⟨r, (hframes r).mp hdecode⟩ hnone
    | error e =>
      cases e with
      | protocol refusal => exact ⟨refusal, rfl⟩
      | recursion => exact absurd (decodeRequest_recursion_iff.mp hdecode) hdeep

-- A version that is no number

def trueVersionText : String :=
  "\x7b\"protocol_version\":true,\"controller_id\":\"ev3\",\"request_id\":\"r1\",\"op\":\"stop\",\"queue_ttl_ms\":500,\"args\":\x7b\x7d\x7d"

def trueVersionFields : List (String × Json) :=
  [("protocol_version", .bool true), ("controller_id", .str "ev3"), ("request_id", .str "r1"), ("op", .str "stop"),
    ("queue_ttl_ms", .int 500), ("args", .obj [])]

def trueVersionScan : JsonScan .value :=
  .obj (.pair "protocol_version" (.bool true) (.pair "controller_id" (.str "ev3") (.pair "request_id" (.str "r1")
    (.pair "op" (.str "stop") (.pair "queue_ttl_ms" (.int 500) (.pair "args" (.obj .noPairs) .noPairs))))))

theorem trueVersionFields_distinct : (Json.obj trueVersionFields).Distinct := by
  refine .obj (by decide) ?_
  simp only [trueVersionFields, List.forall_mem_cons, List.not_mem_nil, false_imp_iff, implies_true, and_true]
  exact ⟨.bool, .str, .str, .str, .int, .obj (by simp) (by simp)⟩

theorem trueVersionFields_schema :
    Schema trueVersionFields (.bool true) ⟨"ev3", "r1", .stop, 500, [], 0⟩ where
  keys := by decide
  protocolVersion := rfl
  requestId := rfl
  requestIdOk := by decide
  controllerId := rfl
  controllerIdOk := by decide
  operation := rfl
  queueTtlMs := rfl
  queueTtlMsOk := by decide
  arguments := rfl
  argumentKeys := by decide
  argumentsOk := by simp

def oneTextHost : JsonHost where
  scan text := if text = trueVersionText then trueVersionScan else .broken
  equalsInt _ _ := false
  rejects text h := by
    have hne : text ≠ trueVersionText := by
      rintro rfl
      revert h
      decide
    rw [if_neg hne]
    rfl

/-- `true` is taken for the version. -/
theorem decodeRequest_true : ¬ Decodes oneTextHost trueVersionText.toByteArray 0 := by
  have hframe : IsFrame oneTextHost (.bool true) trueVersionText.toByteArray 0 ⟨"ev3", "r1", .stop, 500, [], 0⟩ := by
    refine ⟨by decide, rfl, by decide, trueVersionText, trueVersionText.toList, trueVersionFields, rfl,
      ⟨.inl rfl, by decide⟩, ?_, trueVersionFields_distinct, trueVersionFields_schema⟩
    rw [String.ofList_toList]
    rfl
  rintro ⟨hframes, _⟩
  have hok := decodeRequest_ok_iff.mpr ⟨.bool true, rfl, hframe⟩
  have heq := hframe.version_unique ((hframes _).mp hok)
  simp at heq

end RobotLlm.Ev3
