import RobotLlm.Control.RobotControlLaws

/-!
# A start that fails

A start that fails puts back what it saved, and takes the new request out of
those remembered. The oldest request, which was forgotten to make room for the
new one, is not put back.
-/

namespace RobotLlm.Control

open RobotLlm.Lib Prog

-- Requests that come and go

namespace RequestHistory

theorem ext {h h' : RequestHistory} (hrequests : h.requests = h'.requests) : h = h' := by
  have horder : h.order = h'.order := by rw [h.ordered, h'.ordered, hrequests]
  cases h
  cases h'
  simp_all

variable {h : RequestHistory} {request : RobotEpisodeStart} {episodeId : String}

theorem forget_push (hnew : request.clientRequestId ∉ h.requests.keys) :
    (h.push request.clientRequestId (request, episodeId) hnew).forget request episodeId = h := by
  have hnone : h.requests.get? request.clientRequestId = none := Dict.get?_eq_none_iff.mpr hnew
  have hthere : (h.push request.clientRequestId (request, episodeId) hnew).get? request.clientRequestId =
      some (request, episodeId) := Dict.get?_set_self
  rw [forget, if_pos hthere]
  exact ext (Dict.erase_set_new hnone)

theorem forget_remember (hnew : request.clientRequestId ∉ h.requests.keys) :
    (h.remember request episodeId).forget request episodeId =
      if h.order.length = maxRequestHistory then h.dropFirst else h := by
  rw [remember, dif_neg hnew]
  split
  · exact forget_push _
  · exact forget_push hnew

theorem dropFirst_ne (hfull : h.order.length = maxRequestHistory) : h.dropFirst ≠ h := by
  intro heq
  have hlength : h.order.tail.length = h.order.length := congrArg (fun h => h.order.length) heq
  rw [List.length_tail, hfull] at hlength
  exact absurd hlength (by decide)

end RequestHistory

-- What a start may change

/-- The episode of a service and the requests it remembers are the same. -/
structure Unchanged (s s' : RobotControlService) : Prop where
  state : s'.state = s.state
  episodeId : s'.episodeId = s.episodeId
  request : s'.request = s.request
  startedAtUnixMs : s'.startedAtUnixMs = s.startedAtUnixMs
  terminalReason : s'.terminalReason = s.terminalReason
  lastErrorCode : s'.lastErrorCode = s.lastErrorCode
  lastPrimaryErrorCode : s'.lastPrimaryErrorCode = s.lastPrimaryErrorCode
  lastPrimaryErrorMessage : s'.lastPrimaryErrorMessage = s.lastPrimaryErrorMessage
  runtime : s'.runtime = s.runtime
  stopRequested : s'.stopRequested = s.stopRequested
  emergencyStopRequested : s'.emergencyStopRequested = s.emergencyStopRequested
  thread : s'.thread = s.thread
  gate : s'.gate = s.gate
  requestHistory : s'.requestHistory = s.requestHistory

theorem Unchanged.of_control {s s' : RobotControlService}
    (h : control s' = { control s with requestHistory := s'.requestHistory })
    (hrequests : s'.requestHistory = s.requestHistory) : Unchanged s s' := by
  rw [hrequests] at h
  have hfield : ∀ {α : Type} (f : RobotControlService → α), f (control s') = f (control s) := by
    intro α f
    rw [h]
    rfl
  exact ⟨hfield (·.state), hfield (·.episodeId), hfield (·.request), hfield (·.startedAtUnixMs), hfield (·.terminalReason),
    hfield (·.lastErrorCode), hfield (·.lastPrimaryErrorCode), hfield (·.lastPrimaryErrorMessage), hfield (·.runtime),
    hfield (·.stopRequested), hfield (·.emergencyStopRequested), hfield (·.thread), hfield (·.gate), hrequests⟩

theorem OnlyRecords.unchanged {s s' : RobotControlService} (h : OnlyRecords s s') : Unchanged s s' := by
  have hrequests : (control s').requestHistory = (control s).requestHistory := congrArg _ h
  have hrequests : s'.requestHistory = s.requestHistory := hrequests
  refine .of_control ?_ hrequests
  rw [hrequests]
  exact h

-- Before the launch

def GateFree (s : RobotControlService) : Prop := ∀ gate, s.gate = some gate → gate.owner = none

/-- A start gets to the launch, with this id and at this time. -/
structure Reaches (host : ControlHost) (request : RobotEpisodeStart) (s : RobotControlService) (episodeId : String)
    (startedAt : Int) : Prop where
  valid : request.problem = none
  new : s.requestHistory.get? request.clientRequestId = none
  accepting : s.accepting = true
  adapter : host.adapter = true
  idle : s.state = .idle
  quiet : s.controlSignalsInflight = 0
  revision : request.expectedRevision = s.settings.revision
  named : host.validatedId "episode" s.idCalls = .ok episodeId
  timed : host.now s.clockCalls = .ok startedAt
  free : GateFree s

section
variable {host : ControlHost} {request : RobotEpisodeStart} {s : RobotControlService} {episodeId : String} {startedAt : Int}

theorem validatedId_spec (kind : String) : Triple (validatedId host kind) s
    (fun id s' => host.validatedId kind s.idCalls = .ok id ∧ s' = s.takeId) (fun _ s' => s' = s.takeId) := by
  refine (Triple.run _ _).mono (fun id s' hrun => ?_) fun e s' hrun => ?_
  all_goals
    rw [validatedId_run] at hrun
    obtain ⟨hid, rfl⟩ := Prod.mk.inj hrun
  · exact ⟨hid, rfl⟩
  · rfl

theorem now_spec : Triple (now host) s (fun t s' => host.now s.clockCalls = .ok t ∧ s' = s.tick) (fun _ s' => s' = s.tick) := by
  refine (Triple.run _ _).mono (fun t s' hrun => ?_) fun e s' hrun => ?_
  all_goals
    rw [now_run] at hrun
    obtain ⟨htime, rfl⟩ := Prod.mk.inj hrun
  · exact ⟨htime, rfl⟩
  · rfl

def withGate (host : ControlHost) (s : RobotControlService) : RobotControlService :=
  { s with gate := s.gate.map fun _ => ⟨some host.serviceId⟩ }

theorem acquireGate_free (hfree : GateFree s) : acquireGate host s = (.ok true, withGate host s) := by
  unfold acquireGate
  rcases hgate : s.gate with _ | gate
  · cases s
    simp only at hgate
    subst hgate
    rfl
  · simp [withGate, hgate, hfree gate hgate]

theorem acquireGate_busy (hbusy : ¬ GateFree s) : acquireGate host s = (.ok false, s) := by
  obtain ⟨gate, hbusy⟩ := not_forall.mp hbusy
  obtain ⟨hgate, howner⟩ := Classical.not_imp.mp hbusy
  unfold acquireGate
  rw [hgate]
  simp [Option.isSome_iff_ne_none, howner]

theorem start_early (h : ∀ episodeId startedAt, ¬ Reaches host request s episodeId startedAt) :
    Triple (start host request) s (fun _ _ => True) (fun _ => OnlyRecords s) := by
  unfold start
  rcases hvalid : request.problem with _ | e
  · refine Triple.get_bind ?_
    rcases hnew : s.requestHistory.get? request.clientRequestId with _ | ⟨previous, oldId⟩
    · refine Triple.get_bind (Triple.failIf (fun _ => rfl) fun haccepting => Triple.failIf (fun _ => rfl) fun hadapter =>
        Triple.failIf (fun _ => rfl) fun hidle => Triple.failIf (fun _ => rfl) fun hrevision => ?_)
      refine Triple.bind ((validatedId_spec "episode").mono (fun _ _ h => h) fun _ _ h => h ▸ rfl) ?_
      rintro episodeId _ ⟨hnamed, rfl⟩
      refine Triple.bind (now_spec.mono (fun _ _ h => h) fun _ _ h => h ▸ rfl) ?_
      rintro startedAt _ ⟨htimed, rfl⟩
      have hbusy : ¬ GateFree s.takeId.tick := by
        intro hfree
        simp only [not_or, not_not] at hidle hadapter hrevision
        exact h episodeId startedAt ⟨hvalid, hnew, by simpa using haccepting, by simpa using hadapter.1, hidle.1, hidle.2,
          hrevision, hnamed, htimed, hfree⟩
      exact Triple.get_bind (Triple.step (acquireGate_busy hbusy) (Triple.failIf (fun _ => rfl) fun hno => absurd rfl hno))
    · exact Triple.failIf (fun _ => rfl) fun _ => Triple.bind
        ((currentSnapshot_keeps host).triple s) fun _ _ _ => trivial
  · exact Triple.throw rfl

-- The launch

/-- The state in which the start of an episode is recorded. -/
def launching (request : RobotEpisodeStart) (episodeId : String) (startedAt : Int) (s : RobotControlService) :
    RobotControlService :=
  { beginEpisode request episodeId startedAt s with state := .starting }

def withThread (thread : Option String) (s : RobotControlService) : RobotControlService := { s with thread := thread }

/-- It cannot be recorded that the episode starts, or its thread does not start. -/
def LaunchFails (host : ControlHost) (request : RobotEpisodeStart) (episodeId : String) (startedAt : Int)
    (s : RobotControlService) : Prop :=
  ∀ snapshot s₁, RecordsTo host (launching request episodeId startedAt s) (startingText request s.settings.revision) snapshot s₁ →
    ∃ e, host.startThread (withThread (some ("robot-control-" ++ episodeId)) s₁) = .error e

/-- What is left of a launch once the fields are set. -/
def launchRest (host : ControlHost) (request : RobotEpisodeStart) (episodeId : String) (revision : Int) : Ctl Json := do
  let snapshot ← record host (startingText request revision)
  modify (withThread (some ("robot-control-" ++ episodeId)))
  let s ← get
  Prog.ofExcept (host.startThread s)
  return snapshot

theorem launch_run : launch host request episodeId startedAt s =
    launchRest host request episodeId s.settings.revision (launching request episodeId startedAt s) := rfl

theorem launch_spec : Triple (launch host request episodeId startedAt) s
    (fun _ _ => ¬ LaunchFails host request episodeId startedAt s)
    (fun _ s' => LaunchFails host request episodeId startedAt s ∧
      ∃ thread, OnlyRecords (withThread thread (launching request episodeId startedAt s)) s') := by
  suffices h : Triple (launchRest host request episodeId s.settings.revision) (launching request episodeId startedAt s)
      (fun _ _ => ¬ LaunchFails host request episodeId startedAt s)
      (fun _ s' => LaunchFails host request episodeId startedAt s ∧
        ∃ thread, OnlyRecords (withThread thread (launching request episodeId startedAt s)) s') by
    unfold Triple at h ⊢
    rw [launch_run]
    exact h
  refine Triple.bind ((Triple.run _ _).mono (fun _ _ hrun => hrun) fun e s₁ hrun => ⟨?_, ?_⟩) ?_
  · intro snapshot s₂ hrecords
    rw [record_ok_iff.mpr hrecords] at hrun
    cases hrun
  · exact ⟨(launching request episodeId startedAt s).thread, OnlyRecords.of_record hrun⟩
  · intro snapshot s₁ hrun
    have hthread : OnlyRecords (withThread (some ("robot-control-" ++ episodeId)) (launching request episodeId startedAt s))
        (withThread (some ("robot-control-" ++ episodeId)) s₁) :=
      congrArg (withThread (some ("robot-control-" ++ episodeId))) (OnlyRecords.of_record hrun)
    refine Triple.modify_bind (Triple.get_bind (Triple.ofExcept_bind (fun e he => ⟨?_, _, hthread⟩) fun _ hok => ?_))
    · intro snapshot' s₂ hrecords
      have hsame := record_ok_iff.mpr hrecords
      rw [hrun] at hsame
      cases hsame
      exact ⟨e, he⟩
    · refine Triple.pure fun hfails => ?_
      obtain ⟨e, he⟩ := hfails snapshot s₁ (record_ok_iff.mp hrun)
      rw [hok] at he
      cases he

-- The way back

/-- What was saved is put back, the request is taken out and the gate is left. -/
def back (host : ControlHost) (request : RobotEpisodeStart) (episodeId : String) (previous s : RobotControlService) :
    RobotControlService :=
  { restore previous s with
    requestHistory := s.requestHistory.forget request episodeId
    gate := s.gate.map fun gate => if gate.owner = some host.serviceId then ⟨none⟩ else gate }

theorem rollBack_spec (previous : RobotControlService) : Triple (rollBack host request episodeId previous) s
    (fun _ s' => OnlyRecords (back host request episodeId previous s) s') (fun _ _ => False) := by
  refine Triple.modify_bind (Triple.modify_bind ?_)
  refine Triple.bind (Triple.attempt (P := fun _ => OnlyRecords (back host request episodeId previous s)) ?_) fun _ _ h => h
  exact (recordSnapshot_keeps host).triple _

theorem back_launching {thread : Option String} {s' : RobotControlService} (hfree : GateFree s)
    (h : OnlyRecords (withThread thread (launching request episodeId startedAt (withGate host s.takeId.tick))) s') :
    control (back host request episodeId s.takeId.tick s') =
      { control s with requestHistory := (s.requestHistory.remember request episodeId).forget request episodeId } := by
  have hback : ∀ x, control (back host request episodeId s.takeId.tick x) =
      control (back host request episodeId s.takeId.tick (control x)) := fun _ => rfl
  rw [hback, h, ← hback]
  have hgate : (s.gate.map fun _ => (⟨some host.serviceId⟩ : RobotEpisodeGate)).map
      (fun gate => if gate.owner = some host.serviceId then ⟨none⟩ else gate) = s.gate := by
    rcases hgate : s.gate with _ | gate
    · rfl
    · have howner := hfree gate hgate
      cases gate
      simp_all
  cases s
  simp only [control, back, restore, withThread, launching, beginEpisode, withGate, RobotControlService.takeId,
    RobotControlService.tick] at hgate ⊢
  rw [hgate]

-- What a failure leaves behind

theorem startNew_run (h : Reaches host request s episodeId startedAt) : start host request s =
    (do
      let snapshot ← tryCatch (launch host request episodeId startedAt) fun e => do
        rollBack host request episodeId s.takeId.tick
        throw e
      return ⟨episodeId, false, snapshot⟩ : Ctl StartReply) (withGate host s.takeId.tick) := by
  have hidle : ¬ (s.state ≠ .idle ∨ s.controlSignalsInflight ≠ 0) := by simp [h.idle, h.quiet]
  have hopen : ¬ (host.adapter = false ∨ s.state = .disabled) := by simp [h.adapter, h.idle]
  have haccepting : ¬ s.accepting = false := by simp [h.accepting]
  have hrevision : ¬ request.expectedRevision ≠ s.settings.revision := not_not.mpr h.revision
  have hacquire : acquireGate host s.takeId.tick = (.ok true, withGate host s.takeId.tick) := acquireGate_free h.free
  have htimed : host.now s.takeId.clockCalls = .ok startedAt := h.timed
  unfold start startNew
  simp only [h.valid, h.new, bind_run, get_run, failIf, if_neg hidle, if_neg hopen, if_neg haccepting, if_neg hrevision,
    pure_run, validatedId_run, h.named, now_run, htimed, hacquire, Bool.true_eq_false, if_false]

theorem start_reached (h : Reaches host request s episodeId startedAt) : Triple (start host request) s
    (fun _ _ => ¬ LaunchFails host request episodeId startedAt (withGate host s.takeId.tick))
    (fun _ s' => LaunchFails host request episodeId startedAt (withGate host s.takeId.tick) ∧
      control s' = { control s with
        requestHistory := if s.requestHistory.order.length = maxRequestHistory then s.requestHistory.dropFirst
          else s.requestHistory }) := by
  have hnew : request.clientRequestId ∉ s.requestHistory.requests.keys := Dict.get?_eq_none_iff.mp h.new
  suffices hrest : Triple (do
      let snapshot ← tryCatch (launch host request episodeId startedAt) fun e => do
        rollBack host request episodeId s.takeId.tick
        throw e
      return ⟨episodeId, false, snapshot⟩ : Ctl StartReply) (withGate host s.takeId.tick)
      (fun _ _ => ¬ LaunchFails host request episodeId startedAt (withGate host s.takeId.tick))
      (fun _ s' => LaunchFails host request episodeId startedAt (withGate host s.takeId.tick) ∧
        control s' = { control s with
          requestHistory := if s.requestHistory.order.length = maxRequestHistory then s.requestHistory.dropFirst
            else s.requestHistory }) by
    unfold Triple at hrest ⊢
    rw [startNew_run h]
    exact hrest
  refine Triple.bind (Triple.tryCatch launch_spec ?_) fun _ _ hq => hq
  rintro e s' ⟨hfails, thread, honly⟩
  refine Triple.bind ((rollBack_spec s.takeId.tick).mono (fun _ _ hq => hq) fun _ _ hno => hno.elim) ?_
  intro _ s'' hback
  have hcontrol : control s'' = control (back host request episodeId s.takeId.tick s') := hback
  rw [back_launching h.free honly, RequestHistory.forget_remember hnew] at hcontrol
  exact Triple.throw ⟨hfails, hcontrol⟩

/-- A start loses a request: it gets to the launch with a history that is full,
and the launch fails. -/
def LosesRequest (host : ControlHost) (request : RobotEpisodeStart) (s : RobotControlService) : Prop :=
  s.requestHistory.order.length = maxRequestHistory ∧
    ∃ episodeId startedAt, Reaches host request s episodeId startedAt ∧
      LaunchFails host request episodeId startedAt (withGate host s.takeId.tick)

theorem LosesRequest.lost (h : LosesRequest host request s) :
    ∃ e s', start host request s = (.error e, s') ∧ s'.requestHistory ≠ s.requestHistory := by
  obtain ⟨hfull, episodeId, startedAt, hreaches, hfails⟩ := h
  have hspec := start_reached hreaches
  rcases hrun : start host request s with ⟨e | reply, s'⟩
  · have hgone : (control s').requestHistory = s.requestHistory.dropFirst := by
      rw [(hspec.error hrun).2, if_pos hfull]
    refine ⟨e, s', rfl, fun hsame => RequestHistory.dropFirst_ne hfull (hgone.symm.trans hsame)⟩
  · exact absurd hfails (hspec.ok hrun)

end

/-- A start that fails leaves all as it was, unless it loses a request. -/
theorem start_unchanged_iff (host : ControlHost) (request : RobotEpisodeStart) (s : RobotControlService) :
    (∀ e s', start host request s = (.error e, s') → Unchanged s s') ↔ ¬ LosesRequest host request s := by
  by_cases hreaches : ∃ episodeId startedAt, Reaches host request s episodeId startedAt
  · obtain ⟨episodeId, startedAt, hreaches⟩ := hreaches
    have hspec := start_reached hreaches
    constructor
    · intro hunchanged hloses
      obtain ⟨e, s', hrun, hgone⟩ := hloses.lost
      exact hgone (hunchanged e s' hrun).requestHistory
    · intro hkeeps e s' hrun
      obtain ⟨hfails, hcontrol⟩ := (start_reached hreaches).error hrun
      have hroom : s.requestHistory.order.length ≠ maxRequestHistory := fun hfull =>
        hkeeps ⟨hfull, episodeId, startedAt, hreaches, hfails⟩
      rw [if_neg hroom] at hcontrol
      exact OnlyRecords.unchanged hcontrol
  · have hnone : ∀ episodeId startedAt, ¬ Reaches host request s episodeId startedAt := fun episodeId startedAt h =>
      hreaches ⟨episodeId, startedAt, h⟩
    refine ⟨?_, fun _ e s' hrun => ((start_early hnone).error hrun).unchanged⟩
    rintro _ ⟨_, episodeId, startedAt, h, _⟩
    exact hreaches ⟨episodeId, startedAt, h⟩

theorem repr_injective {n m : Nat} (h : Nat.repr n = Nat.repr m) : n = m := by
  have hdigits := congrArg String.toList h
  rw [Nat.toList_repr, Nat.toList_repr] at hdigits
  rw [← Nat.ofDigitChars_ten_toDigits (n := n), hdigits, Nat.ofDigitChars_ten_toDigits]

def manyRequests (count : Nat) : Dict String (RobotEpisodeStart × String) where
  entries := (List.range count).map fun n => (Nat.repr n, (⟨"Look around", "en", Nat.repr n, 1⟩, "episode-1"))
  nodup := by
    rw [List.map_map]
    exact List.nodup_range.map fun _ _ h => repr_injective h

def fullService : RobotControlService where
  settings := ⟨1, false⟩
  state := .idle
  requestHistory := ⟨manyRequests maxRequestHistory, (manyRequests maxRequestHistory).keys, rfl⟩

def threadlessHost : ControlHost := { quietHost with startThread := fun _ => .error (.raised "RuntimeError") }

def newRequest : RobotEpisodeStart := ⟨"Look around", "en", "new", 1⟩

theorem newRequest_new (count : Nat) : (manyRequests count).get? newRequest.clientRequestId = none := by
  rw [Dict.get?_eq_none_iff, manyRequests, Dict.keys, List.map_map, List.mem_map]
  rintro ⟨n, _, hkey⟩
  have hkey : Nat.repr n = "new" := hkey
  have hdigits : 'n' ∈ Nat.toDigits 10 n := by
    rw [← Nat.toList_repr, hkey]
    decide
  exact absurd (Nat.isDigit_of_mem_toDigits (by decide) (by decide) hdigits) (by decide)

theorem manyRequests_length (count : Nat) : (manyRequests count).keys.length = count := by
  rw [Dict.keys, manyRequests, List.length_map, List.length_map, List.length_range]

theorem newRequest_reaches : Reaches threadlessHost newRequest fullService "episode-1" 1000 where
  valid := by decide +kernel
  new := newRequest_new maxRequestHistory
  accepting := rfl
  adapter := rfl
  idle := rfl
  quiet := rfl
  revision := rfl
  named := by decide
  timed := by decide
  free := fun _ h => by cases h

theorem newRequest_loses : LosesRequest threadlessHost newRequest fullService := by
  have horder : fullService.requestHistory.order = (manyRequests maxRequestHistory).keys := by rw [fullService]
  refine And.intro ?_ ?_
  · rw [horder, manyRequests_length]
  · refine ⟨"episode-1", 1000, newRequest_reaches, ?_⟩
    intro _ _ _
    exact ⟨.raised "RuntimeError", rfl⟩

/-- The thread does not start, and a request that was remembered is not any more. -/
theorem start_forgets :
    ¬ ∀ (host : ControlHost) (request : RobotEpisodeStart) (s : RobotControlService) (e : ControlError) (s' : RobotControlService),
      start host request s = (.error e, s') → Unchanged s s' := by
  intro h
  obtain ⟨e, s', hrun, hgone⟩ := newRequest_loses.lost
  exact hgone (h _ _ _ e s' hrun).requestHistory

end RobotLlm.Control
