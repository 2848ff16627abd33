import RobotLlm.Ev3.Daemon
import RobotLlm.Ev3.ProtocolLaws

/-!
# What a session answers

An id is new once, an item leaves its queue once, the item is answered once
and its closure completes once. So no request is executed or succeeds twice,
whatever the threads do between these; and while a stop waits, nothing else
leaves the queues.
-/

namespace RobotLlm.Ev3

open RobotLlm.Lib

-- Responses name their request

namespace SupervisorProtocol

variable {c : ProtocolConfig} {p : SupervisorProtocol} {request : SupervisorRequest}

theorem answer_requestId (cancellation : Option Cancellation) :
    Prog.Triple (answer c request cancellation) p (fun response _ => response.requestId = request.requestId) fun _ _ => True := by
  refine Prog.Triple.tryCatch (F := fun _ _ => True) ?_ fun e p' _ => ?_
  · exact Prog.Triple.bind (Prog.Triple.unknown _ _) fun _ _ _ => Prog.Triple.pure rfl
  · exact Prog.Triple.ite (fun _ => Prog.Triple.pure rfl) fun _ => Prog.Triple.throw trivial

theorem execute_requestId (dispatchAtMs : Option Int) (cancellation : Option Cancellation) :
    Prog.Triple (execute c request dispatchAtMs cancellation) p
      (fun response _ => response.requestId = request.requestId) fun _ _ => True := by
  refine Prog.Triple.ite (fun _ => Prog.Triple.pure rfl) fun _ => ?_
  refine Prog.Triple.bind (Prog.Triple.unknown _ _) fun now p₁ _ => ?_
  refine Prog.Triple.failIf (fun _ => trivial) fun _ => ?_
  exact Prog.Triple.ite (fun _ => Prog.Triple.pure rfl) fun _ => answer_requestId cancellation

theorem published_ok {response r : Response} {error : Option PyError}
    (h : published c request response error = some r) (hok : r.ok = true) : r = response := by
  unfold published at h
  split at h
  · exact (Option.some.inj h).symm
  · split at h
    next e _ hr =>
      unfold alternate at h
      cases hc : e.code with
      | none => simp [hc] at h
      | some code =>
        cases hm : alternateMessage code with
        | none => simp [hc, hm] at h
        | some message =>
          simp [hc, hm] at h
          subst h
          simp [errorResponse, Response.ok] at hok
    next => exact (Option.some.inj h).symm

end SupervisorProtocol

namespace ForegroundSupervisorSession

variable {c : SessionConfig} {l l' : Session} {d d' : Daemon}

def isUrgent (c : SessionConfig) : InboundItem → Bool
  | .request request => targetsStop c request
  | .error _ => false

def requestId? : InboundItem → Option String
  | .request request => some request.requestId
  | .error _ => none

def queue (l : Session) (urgent : Bool) : List InboundItem :=
  if urgent then l.session.urgentQueue else l.session.normalQueue

-- What stands aside

/-- The queues stay, and cells and ids are only added to. -/
structure Still (l l' : Session) : Prop where
  queues : ∀ urgent, queue l' urgent = queue l urgent
  taken : l'.session.taken = l.session.taken
  seen : l.session.seenRequestIds ⊆ l'.session.seenRequestIds
  completed : l.session.completed ⊆ l'.session.completed

structure Aside (l l' : Session) : Prop extends Still l l' where
  proof : l'.preverifiedStopStatus.isSome = true → l.preverifiedStopStatus.isSome = true

theorem Still.trans {l₁ : Session} (h : Still l l₁) (h' : Still l₁ l') : Still l l' :=
  ⟨fun u => (h'.queues u).trans (h.queues u), h'.taken.trans h.taken, fun _ hi => h'.seen (h.seen hi),
    fun _ hi => h'.completed (h.completed hi)⟩

instance : IsPreorder Session Aside where
  refl _ := ⟨⟨fun _ => rfl, rfl, fun _ => id, fun _ => id⟩, id⟩
  trans _ _ _ h h' := ⟨h.toStill.trans h'.toStill, fun hp => h.proof (h'.proof hp)⟩

theorem onSupervisor_aside (x : EV3Supervisor.Sup α) : Prog.Keeps Aside (EV3SupervisorLoop.onSupervisor x : Sess α) :=
  fun _ => ⟨⟨fun _ => rfl, rfl, fun _ => id, fun _ => id⟩, id⟩

theorem onProtocol_aside (x : SupervisorProtocol.Prot α) : Prog.Keeps Aside (onProtocol x) :=
  fun _ => ⟨⟨fun _ => rfl, rfl, fun _ => id, fun _ => id⟩, id⟩

theorem io_aside (x : Io α) : Prog.Keeps Aside (EV3SupervisorLoop.io x : Sess α) := onSupervisor_aside _

theorem session_aside {f : ForegroundSupervisorSession → ForegroundSupervisorSession}
    (hn : ∀ s, (f s).normalQueue = s.normalQueue) (hu : ∀ s, (f s).urgentQueue = s.urgentQueue)
    (ht : ∀ s, (f s).taken = s.taken) (hs : ∀ s, s.seenRequestIds ⊆ (f s).seenRequestIds)
    (hc : ∀ s, s.completed ⊆ (f s).completed) : Prog.Keeps Aside (session f) :=
  .modify fun l => ⟨⟨fun u => by cases u <;> simp [queue, hn, hu], ht _, hs _, hc _⟩, id⟩

theorem requestEmergencyStop_aside : Prog.Keeps Aside requestEmergencyStop := .bind .get fun _ => .ite (io_aside _) (.pure _)

theorem requestShutdown_aside : Prog.Keeps Aside requestShutdown :=
  .bind requestEmergencyStop_aside fun _ =>
    session_aside (fun _ => rfl) (fun _ => rfl) (fun _ => rfl) (fun _ _ => id) fun _ _ => id

theorem failTransport_aside (code : String) : Prog.Keeps Aside (failTransport code) :=
  .bind (session_aside (fun _ => rfl) (fun _ => rfl) (fun _ => rfl) (fun _ _ => id) fun _ _ => id) fun _ => requestShutdown_aside

theorem forgetProof_aside : Prog.Keeps Aside (EV3SupervisorLoop.forgetProof : Sess Unit) :=
  .modify fun _ => ⟨⟨fun _ => rfl, rfl, fun _ => id, fun _ => id⟩, by simp⟩

theorem takeFrame_aside : Prog.Keeps Aside takeFrame :=
  session_aside (fun _ => rfl) (fun _ => rfl) (fun _ => rfl) (fun _ _ => id) fun _ _ => id

theorem startLoop_aside : Prog.Keeps Aside startLoop := by
  refine .bind (onSupervisor_aside _) fun _ => .bind (.modify fun _ => ?_) fun _ => .bind .get fun _ => .bind ?_ fun _ =>
    .ite (io_aside _) (.pure _)
  · exact ⟨⟨fun _ => rfl, rfl, fun _ => id, fun _ => id⟩, by simp⟩
  · exact session_aside (fun _ => rfl) (fun _ => rfl) (fun _ => rfl) (fun _ _ => id) fun _ _ => id

theorem takePreverified_aside : Prog.Keeps Aside (EV3SupervisorLoop.takePreverifiedStopStatus c.toSupervisorConfig : Sess _) :=
  .bind .get fun _ => .bind forgetProof_aside fun _ => .ite (.bind (onSupervisor_aside _) fun _ => .pure _) (.pure _)

theorem preverifiedStopStatus_aside (item : InboundItem) : Prog.Keeps Aside (preverifiedStopStatus c item) := by
  cases item with
  | error e => exact .pure _
  | request request => exact .bind .get fun _ => .ite takePreverified_aside (.pure _)

theorem executeRequest_aside (external : Cancellation) (request : SupervisorRequest) :
    Prog.Keeps Aside (executeRequest c external request) :=
  .bind (onSupervisor_aside _) fun _ => .bind .get fun _ => .bind (onProtocol_aside _) fun _ => .pure _

theorem answerItem_aside (external : Cancellation) (item : InboundItem) : Prog.Keeps Aside (answerItem c external item) := by
  refine .bind (preverifiedStopStatus_aside item) fun proof => ?_
  cases item with
  | error e => exact .pure _
  | request request =>
    cases proof with
    | some status => exact .pure _
    | none => exact executeRequest_aside external request

theorem respond_aside (external : Cancellation) (item : InboundItem) : Prog.Keeps Aside (respond c external item) :=
  .bind (answerItem_aside external item) fun _ => .ite (.pure _) (.bind (failTransport_aside _) fun _ => .pure _)

theorem enqueueResponseWire_aside (frame : Frame) : Prog.Keeps Aside (enqueueResponseWire frame) :=
  .bind .get fun _ => .ite
    (.bind (session_aside (fun _ => rfl) (fun _ => rfl) (fun _ => rfl) (fun _ _ => id) fun _ _ => id) fun _ => .pure _)
    (.bind (failTransport_aside _) fun _ => .pure _)

theorem publishFrame_aside (p : Publication) (frame : Frame) : Prog.Keeps Aside (publishFrame p frame) :=
  .bind (enqueueResponseWire_aside frame) fun _ => .ite
    (.bind (session_aside (fun _ => rfl) (fun _ => rfl) (fun _ => rfl) (fun _ _ => id) fun _ _ => id) fun _ => .pure _) (.pure _)

theorem publish_run (p : Publication) (error : Option PyError) :
    Prog.Triple (publish c p error) l
      (fun frame l' => Aside l l' ∧ p.number ∉ l.session.completed ∧ p.number ∈ l'.session.completed ∧
        ∀ f, frame = some f → p.selected c error = some f)
      (fun _ l' => Aside l l') := by
  have hdone : Aside l { l with session := { l.session with completed := p.number :: l.session.completed } } :=
    ⟨⟨fun _ => rfl, rfl, fun _ => id, fun _ hi => List.mem_cons_of_mem _ hi⟩, id⟩
  refine Prog.Triple.get_bind (Prog.Triple.failIf (fun _ => refl_of Aside l) fun hnew => Prog.Triple.modify_bind ?_)
  split
  next =>
    refine Prog.Triple.frame_bind (failTransport_aside _) (fun _ _ h => trans_of Aside hdone h) fun _ _ h => ?_
    exact Prog.Triple.pure ⟨trans_of Aside hdone h, hnew, h.completed List.mem_cons_self, fun _ hf => nomatch hf⟩
  next frame hsel =>
    refine Prog.Triple.frame_bind (publishFrame_aside p frame) (fun _ _ h => trans_of Aside hdone h) fun put _ h => ?_
    refine Prog.Triple.pure ⟨trans_of Aside hdone h, hnew, h.completed List.mem_cons_self, fun f hf => ?_⟩
    split at hf
    next => exact hf ▸ hsel
    next => cases hf

theorem performRequestedEmergencyStop_run :
    Prog.Triple (EV3SupervisorLoop.performRequestedEmergencyStop c.toSupervisorConfig) l
      (fun error l' => Aside l l' ∨ (error = some EV3SupervisorLoop.externalStopError ∧ Still l l'))
      (fun _ l' => Aside l l') := by
  refine Prog.Triple.frame_bind (io_aside _) (fun _ _ h => h) fun _ l₁ h₁ => Prog.Triple.get_bind ?_
  refine Prog.Triple.ite (fun _ => Prog.Triple.pure (.inl h₁)) fun _ => ?_
  refine Prog.Triple.frame_bind (io_aside _) (fun _ _ h => trans_of Aside h₁ h) fun _ l₂ h₂ => ?_
  have h := trans_of Aside h₁ h₂
  refine Prog.Triple.frame_bind (onSupervisor_aside _) (fun _ _ h' => trans_of Aside h h') fun started l₃ h₃ => ?_
  refine Prog.Triple.frame_bind (onSupervisor_aside _) (fun _ _ h' => trans_of Aside h (trans_of Aside h₃ h')) fun status l₄ h₄ => ?_
  have h := trans_of Aside h (trans_of Aside h₃ h₄)
  refine Prog.Triple.frame_bind (onSupervisor_aside _) (fun _ _ h' => trans_of Aside h h') fun completed l₅ h₅ => ?_
  have h := trans_of Aside h h₅
  refine Prog.Triple.ite (fun _ => Prog.Triple.modify_bind (Prog.Triple.pure (.inr ⟨rfl, ?_⟩)))
    fun _ => Prog.Triple.modify_bind (Prog.Triple.pure (.inl ?_))
  · exact h.toStill.trans ⟨fun _ => rfl, rfl, fun _ => id, fun _ => id⟩
  · exact trans_of Aside h (forgetProof_aside l₅)

-- Items come and go

/-- An item is put at the end of its queue; if it is a request, its id is new. -/
structure Put (c : SessionConfig) (item : InboundItem) (l l' : Session) : Prop where
  into : queue l' (isUrgent c item) = queue l (isUrgent c item) ++ [item]
  other : queue l' (!isUrgent c item) = queue l (!isUrgent c item)
  taken : l'.session.taken = l.session.taken
  seen : l.session.seenRequestIds ⊆ l'.session.seenRequestIds
  completed : l.session.completed ⊆ l'.session.completed
  proof : l'.preverifiedStopStatus.isSome = true → l.preverifiedStopStatus.isSome = true
  fresh : ∀ id ∈ requestId? item, id ∉ l.session.seenRequestIds ∧ id ∈ l'.session.seenRequestIds

def Enqueued (c : SessionConfig) (l l' : Session) : Prop := Aside l l' ∨ ∃ item, Put c item l l'

theorem requestQueueFull_aside : Prog.Keeps Aside requestQueueFull := .bind (failTransport_aside _) fun _ => .pure _

theorem requestBoundStop_aside : Prog.Keeps Aside requestBoundStop :=
  .bind .get fun _ => .ite (io_aside _)
    (session_aside (fun _ => rfl) (fun _ => rfl) (fun _ => rfl) (fun _ _ => id) fun _ _ => id)

section
variable {item : InboundItem} {l₁ : Session}

theorem Put.aside (h : Put c item l l₁) (h' : Aside l₁ l') : Put c item l l' :=
  ⟨(h'.queues _).trans h.into, (h'.queues _).trans h.other, h'.taken.trans h.taken, fun _ hi => h'.seen (h.seen hi),
    fun _ hi => h'.completed (h.completed hi), fun hp => h.proof (h'.proof hp),
    fun id hid => ⟨(h.fresh id hid).1, h'.seen (h.fresh id hid).2⟩⟩

theorem enqueueNormal_run (hu : isUrgent c item = false) (h : Aside l l₁)
    (hid : ∀ id ∈ requestId? item, id ∉ l.session.seenRequestIds ∧ id ∈ l₁.session.seenRequestIds) :
    Prog.Settles (enqueueNormal item) l₁ (Enqueued c l) := by
  refine Prog.Triple.get_bind (Prog.Triple.ite (fun _ => Prog.Triple.modify_bind (Prog.Triple.pure (.inr ⟨item, ?_⟩)))
    fun _ => (requestQueueFull_aside.triple_from h).mono (fun _ _ => .inl) fun _ _ => .inl)
  refine ⟨?_, ?_, h.taken, h.seen, h.completed, h.proof, hid⟩
  · rw [hu, ← h.queues]
    rfl
  · rw [hu, ← h.queues]
    rfl

theorem enqueueUrgent_run (hu : isUrgent c item = true) (h : Aside l l₁)
    (hid : ∀ id ∈ requestId? item, id ∉ l.session.seenRequestIds ∧ id ∈ l₁.session.seenRequestIds) :
    Prog.Settles (enqueueUrgent item) l₁ (Enqueued c l) := by
  refine Prog.Triple.get_bind (Prog.Triple.ite (fun _ => Prog.Triple.modify_bind ?_)
    fun _ => (requestQueueFull_aside.triple_from h).mono (fun _ _ => .inl) fun _ _ => .inl)
  have hput : Put c item l { l₁ with session := { l₁.session with urgentQueue := l₁.session.urgentQueue ++ [item] } } := by
    refine ⟨?_, ?_, h.taken, h.seen, h.completed, h.proof, hid⟩
    · rw [hu, ← h.queues]
      rfl
    · rw [hu, ← h.queues]
      rfl
  exact Prog.Triple.frame_bind requestBoundStop_aside (fun _ _ h' => .inr ⟨item, hput.aside h'⟩)
    fun _ _ h' => Prog.Triple.pure (.inr ⟨item, hput.aside h'⟩)

end

theorem enqueueProtocolError_run (error : RequestError) {l₁ : Session} (h : Aside l l₁) :
    Prog.Settles (enqueueProtocolError error) l₁ (Enqueued c l) := enqueueNormal_run rfl h (by simp [requestId?])

theorem enqueueRequest_run (request : SupervisorRequest) : Prog.Settles (enqueueRequest c request) l (Enqueued c l) := by
  refine Prog.Triple.modify_bind (Prog.Triple.get_bind ?_)
  have h : Aside l { l with session := { l.session with requestCount := l.session.requestCount + 1 } } :=
    ⟨⟨fun _ => rfl, rfl, fun _ => id, fun _ => id⟩, id⟩
  refine Prog.Triple.ite (fun _ => ?_) fun _ => Prog.Triple.ite (fun _ => enqueueProtocolError_run _ h) fun hnew => ?_
  · refine Prog.Triple.frame_bind (failTransport_aside _) (fun _ _ h' => .inl (trans_of Aside h h')) fun _ _ h' => ?_
    exact Prog.Triple.pure (.inl (trans_of Aside h h'))
  refine Prog.Triple.modify_bind ?_
  have h₁ : Aside l { l with session := { l.session with
      requestCount := l.session.requestCount + 1
      seenRequestIds := request.requestId :: l.session.seenRequestIds } } :=
    ⟨⟨fun _ => rfl, rfl, fun _ hi => List.mem_cons_of_mem _ hi, fun _ => id⟩, id⟩
  have hid : ∀ id ∈ requestId? (.request request), id ∉ l.session.seenRequestIds ∧
      id ∈ request.requestId :: l.session.seenRequestIds := by
    rintro _ ⟨⟩
    exact ⟨hnew, List.mem_cons_self⟩
  refine Prog.Triple.ite (fun hs => enqueueUrgent_run hs h₁ hid) fun hs => enqueueNormal_run ?_ h₁ hid
  simpa [isUrgent] using hs

/-- The first item of the urgent queue leaves it, or of the other if that is
empty. -/
structure Dequeued (urgent : Bool) (item : InboundItem) (l l' : Session) : Prop where
  first : queue l urgent = item :: queue l' urgent
  other : queue l' (!urgent) = queue l (!urgent)
  waiting : urgent = false → queue l true = []
  taken : l'.session.taken = l.session.taken + 1
  seen : l'.session.seenRequestIds = l.session.seenRequestIds
  completed : l'.session.completed = l.session.completed
  proof : l'.preverifiedStopStatus = l.preverifiedStopStatus

theorem takeItem_run : Prog.Triple takeItem l
    (fun item l' => ∀ i, item = some i → ∃ urgent, Dequeued urgent i l l') (fun _ _ => False) := by
  refine Prog.Triple.get_bind ?_
  cases hu : l.session.urgentQueue with
  | cons item rest =>
    refine Prog.Triple.modify_bind (Prog.Triple.pure fun i hi => ⟨true, ?_⟩)
    cases hi
    exact ⟨hu, rfl, by simp, rfl, rfl, rfl, rfl⟩
  | nil =>
    cases hn : l.session.normalQueue with
    | cons item rest =>
      refine Prog.Triple.modify_bind (Prog.Triple.pure fun i hi => ⟨false, ?_⟩)
      cases hi
      exact ⟨hn, rfl, fun _ => hu, rfl, rfl, rfl, rfl⟩
    | nil => exact Prog.Triple.pure fun i hi => nomatch hi

-- Answers

/-- Only a request is answered with success, in its own name. -/
def Names (item : InboundItem) (frame : Frame) : Prop :=
  frame.ok = true → ∃ request, item = .request request ∧ frame.requestId = some request.requestId

theorem respond_names (external : Cancellation) (item : InboundItem) :
    Prog.Triple (respond c external item) l (fun frame _ => ∀ f ∈ frame, Names item f) fun _ _ => True := by
  have hanswer : Prog.Triple (answerItem c external item) l (fun frame _ => Names item frame) fun _ _ => True := by
    refine Prog.Triple.bind (Prog.Triple.unknown _ _) fun proof l₁ _ => ?_
    cases item with
    | error e => exact Prog.Triple.pure fun hok => nomatch hok
    | request request =>
      cases proof with
      | some status => exact Prog.Triple.pure fun _ => ⟨request, rfl, rfl⟩
      | none =>
        refine Prog.Triple.bind (Prog.Triple.unknown _ _) fun now l₂ _ => Prog.Triple.get_bind ?_
        refine Prog.Triple.bind (R := fun frame _ => Names (.request request) frame) (Prog.Triple.onPart
          (Q := fun response _ => response.requestId = request.requestId) (E := fun _ _ => True)
          ((SupervisorProtocol.execute_requestId _ _).mono (fun _ _ h => h) fun _ _ h => h)) fun response _ hr => ?_
        exact Prog.Triple.pure fun _ => ⟨request, rfl, congrArg some hr⟩
  refine Prog.Triple.bind hanswer fun frame l₁ hf => Prog.Triple.ite (fun _ => Prog.Triple.pure ?_) fun _ => ?_
  · rintro _ ⟨⟩
    exact hf
  · exact Prog.Triple.bind (Prog.Triple.unknown _ _) fun _ _ _ => Prog.Triple.pure (by simp)

theorem Publication.selected_ok {p : Publication} {error : Option PyError} {frame : Frame}
    (h : p.selected c error = some frame) (hok : frame.ok = true) : frame = p.frame := by
  unfold Publication.selected at h
  split at h
  next request response _ hframe =>
    obtain ⟨r, hr, rfl⟩ := Option.map_eq_some_iff.mp h
    rw [hframe, SupervisorProtocol.published_ok hr hok]
  next => exact (Option.some.inj h).symm

theorem preverifiedStopStatus_run (item : InboundItem) : Prog.Triple (preverifiedStopStatus c item) l
    (fun status l' => status.isSome = true →
      isUrgent c item = true ∧ l.preverifiedStopStatus.isSome = true ∧ l'.preverifiedStopStatus.isSome = false)
    fun _ _ => True := by
  cases item with
  | error e => exact Prog.Triple.pure fun h => nomatch h
  | request request =>
    refine Prog.Triple.get_bind (Prog.Triple.ite (fun hs => ?_) fun _ => Prog.Triple.pure fun h => nomatch h)
    refine Prog.Triple.get_bind (Prog.Triple.modify_bind (Prog.Triple.ite (fun hp => ?_) fun _ => Prog.Triple.pure fun h => nomatch h))
    obtain ⟨reply, hreply, -⟩ := hp
    refine Prog.Triple.frame_bind (onSupervisor_aside _) (fun _ _ _ => trivial) fun status l' h => Prog.Triple.pure fun _ => ?_
    refine ⟨hs.2, by simp [Option.mem_def.mp hreply], Bool.eq_false_iff.mpr fun hp => by simpa using h.proof hp⟩

theorem answeredByProof_uses {item : InboundItem} (external : Cancellation) (h : answeredByProof c item l = true) :
    isUrgent c item = true ∧ l.preverifiedStopStatus.isSome = true ∧
      (respond c external item l).2.preverifiedStopStatus.isSome = false := by
  unfold answeredByProof at h
  split at h
  next status hstatus =>
    rcases hrun : preverifiedStopStatus c item l with ⟨r, l₁⟩
    rw [hrun] at hstatus
    cases hstatus
    obtain ⟨hu, hp, hgone⟩ := (preverifiedStopStatus_run item).ok hrun rfl
    refine ⟨hu, hp, ?_⟩
    have hkept {l' : Session} (ha : Aside l₁ l') : l'.preverifiedStopStatus.isSome = false :=
      Bool.eq_false_iff.mpr fun hs => absurd (ha.proof hs) (by simp [hgone])
    have hanswer : Prog.Settles (answerItem c external item) l (Aside l₁) := by
      refine Prog.Triple.step hrun ?_
      cases item with
      | error e => exact Prog.Triple.pure (refl_of Aside l₁)
      | request request => exact Prog.Triple.pure (refl_of Aside l₁)
    refine Prog.Triple.after (P := fun l' : Session => l'.preverifiedStopStatus.isSome = false) (Prog.Triple.bind
      (hanswer.mono (fun _ _ h => h) fun _ _ h => hkept h) fun frame l₂ h₂ => Prog.Triple.ite (fun _ => hkept h₂) fun _ => ?_)
    exact Prog.Triple.frame_bind (failTransport_aside _) (fun _ _ h => hkept (trans_of Aside h₂ h)) fun _ _ h =>
      Prog.Triple.pure (hkept (trans_of Aside h₂ h))
  next => cases h

-- One step

inductive Moved (c : SessionConfig) (d : Daemon) : DaemonEvent → Daemon → Prop
  | quiet {l : Session} (h : Aside d.loop l) : Moved c d .quiet { d with loop := l }
  | arrived {l : Session} (h : Put c item d.loop l) : Moved c d (.arrived item) { d with loop := l }
  | dequeued {l : Session} (hd : d.dispatching = none) (h : Dequeued urgent item d.loop l) :
      Moved c d (.dequeued d.loop.session.taken item)
        { d with loop := l, dispatching := some (d.loop.session.taken, item) }
  | answered {l : Session} (hd : d.dispatching = some (number, item)) (h : Aside d.loop l)
      (hp : byProof = true → isUrgent c item = true ∧ d.loop.preverifiedStopStatus.isSome = true ∧
        l.preverifiedStopStatus.isSome = false)
      (hnew : ∀ p ∈ publications, p.number = number ∧ p.item = item ∧ Names item p.frame) :
      Moved c d (.answered number item byProof)
        { loop := l, dispatching := none, publications := publications ++ d.publications }
  | proved {l : Session} (h : Still d.loop l) : Moved c d .proved { d with loop := l }
  | framed {l : Session} (hp : p ∈ d.publications) (h : Aside d.loop l) (hopen : p.number ∉ d.loop.session.completed)
      (hdone : p.number ∈ l.session.completed) (hf : frame.ok = true → frame = p.frame) :
      Moved c d (.framed p.number p.item frame) { d with loop := l }

theorem arrival_aside (h : Still l l') : arrival l.session l'.session = none := by
  have hu : l'.session.urgentQueue = l.session.urgentQueue := h.queues true
  have hn : l'.session.normalQueue = l.session.normalQueue := h.queues false
  simp [arrival, hu, hn]

theorem arrival_put {item : InboundItem} (h : Put c item l l') : arrival l.session l'.session = some item := by
  have hinto := h.into
  have hother := h.other
  cases hi : isUrgent c item with
  | true =>
    rw [hi] at hinto
    have hu : l'.session.urgentQueue = l.session.urgentQueue ++ [item] := hinto
    simp [arrival, hu]
  | false =>
    rw [hi] at hinto hother
    have hn : l'.session.normalQueue = l.session.normalQueue ++ [item] := hinto
    have hu : l'.session.urgentQueue = l.session.urgentQueue := hother
    simp [arrival, hu, hn]

theorem reader_moves {x : Sess Bool} (h : Prog.Settles x d.loop (Enqueued c d.loop)) :
    Moved c d (reader x d).1 (reader x d).2 := by
  unfold reader
  dsimp only
  obtain ha | ⟨item, hput⟩ := Prog.Triple.after h
  · rw [arrival_aside ha.toStill]
    exact .quiet ha
  · rw [arrival_put hput]
    exact .arrived hput

theorem quietly_moves {x : Sess α} (h : Prog.Keeps Aside x) : Moved c d (quietly x d).1 (quietly x d).2 := .quiet (h d.loop)

theorem dequeue_moves : Moved c d (dequeue d).1 (dequeue d).2 := by
  unfold dequeue
  split
  next item l hd hrun =>
    obtain ⟨urgent, h⟩ := takeItem_run.ok hrun item rfl
    exact .dequeued hd h
  next => exact .quiet (refl_of Aside d.loop)

theorem answerDispatched_moves (external : Cancellation) :
    Moved c d (answerDispatched c external d).1 (answerDispatched c external d).2 := by
  unfold answerDispatched
  split
  next => exact .quiet (refl_of Aside d.loop)
  next number item hd =>
    have hnames := respond_names (c := c) (l := d.loop) external item
    refine .answered hd (respond_aside external item d.loop) (answeredByProof_uses external) fun p hp => ?_
    rcases hrun : respond c external item d.loop with ⟨e | frame, l⟩ <;> rw [hrun] at hp
    · simp [Except.toOption] at hp
    · simp only [Except.toOption, Option.mem_toList, Option.map_eq_some_iff] at hp
      obtain ⟨f, hf, rfl⟩ := hp
      exact ⟨rfl, rfl, hnames.ok hrun f (by simpa using hf)⟩

theorem runPublication_moves (number : Nat) (error : Option PyError) :
    Moved c d (runPublication c number error d).1 (runPublication c number error d).2 := by
  unfold runPublication
  split
  next => exact .quiet (refl_of Aside d.loop)
  next p hp =>
    have hmem := List.mem_of_find?_eq_some hp
    have hpub := publish_run (c := c) (l := d.loop) p error
    rcases hrun : publish c p error d.loop with ⟨e | frame, l⟩
    · exact .quiet (hpub.error hrun)
    · obtain ⟨ha, hopen, hdone, hsel⟩ := hpub.ok hrun
      cases frame with
      | none => exact .quiet ha
      | some frame => exact .framed hmem ha hopen hdone fun hok => Publication.selected_ok (hsel frame rfl) hok

theorem stopped_moves : Moved c d (stopped c d).1 (stopped c d).2 := by
  unfold stopped
  rcases hrun : EV3SupervisorLoop.performRequestedEmergencyStop c.toSupervisorConfig d.loop with ⟨e | error, l⟩
  · exact .quiet (performRequestedEmergencyStop_run.error hrun)
  · obtain ha | ⟨herror, hs⟩ := performRequestedEmergencyStop_run.ok hrun
    · dsimp only
      split
      next => exact .proved ha.toStill
      next => exact .quiet ha
    · rw [herror]
      exact .proved hs

theorem daemon_moves (i : DaemonStep) : Moved c d ((daemon c).step d i).1 ((daemon c).step d i).2 := by
  cases i with
  | enqueueProtocolError error => exact reader_moves (enqueueProtocolError_run error (refl_of Aside d.loop))
  | enqueueRequest request => exact reader_moves (enqueueRequest_run request)
  | failTransport code => exact quietly_moves (failTransport_aside code)
  | requestShutdown => exact quietly_moves requestShutdown_aside
  | startLoop => exact quietly_moves startLoop_aside
  | takeItem => exact dequeue_moves
  | respond external => exact answerDispatched_moves external
  | publish number error => exact runPublication_moves number error
  | performRequestedEmergencyStop => exact stopped_moves
  | forgetProof => exact quietly_moves forgetProof_aside
  | supervise call => exact quietly_moves (onSupervisor_aside _)
  | takeFrame => exact quietly_moves takeFrame_aside

-- Runs

abbrev DaemonHistory := List (DaemonStep × DaemonEvent)

def arrived (h : DaemonHistory) : List InboundItem := h.filterMap fun x =>
  match x.2 with
  | .arrived item => some item
  | _ => none

/-- The items that left their queue, with their numbers. -/
def dequeued (h : DaemonHistory) : List (Nat × InboundItem) := h.filterMap fun x =>
  match x.2 with
  | .dequeued number item => some (number, item)
  | _ => none

/-- The dispatches that ended, and whether with the proof of a stop. -/
def answers (h : DaemonHistory) : List ((Nat × InboundItem) × Bool) := h.filterMap fun x =>
  match x.2 with
  | .answered number item byProof => some ((number, item), byProof)
  | _ => none

def frames (h : DaemonHistory) : List ((Nat × InboundItem) × Frame) := h.filterMap fun x =>
  match x.2 with
  | .framed number item frame => some ((number, item), frame)
  | _ => none

/-- What arrived for a queue, and what was taken from it. -/
def arrivals (c : SessionConfig) (urgent : Bool) (h : DaemonHistory) : List InboundItem :=
  (arrived h).filter (isUrgent c · = urgent)

def takes (c : SessionConfig) (urgent : Bool) (h : DaemonHistory) : List InboundItem :=
  ((dequeued h).map Prod.snd).filter (isUrgent c · = urgent)

def executed (h : DaemonHistory) : List String := ((answers h).filter (!·.2)).filterMap (requestId? ·.1.2)

def successes (h : DaemonHistory) : List String := ((frames h).filter (·.2.ok)).filterMap (·.2.requestId)

def ByProof (x : DaemonStep × DaemonEvent) : Prop := ∃ number item, x.2 = .answered number item true

def Proved (x : DaemonStep × DaemonEvent) : Prop := x.2 = .proved

structure Inv (c : SessionConfig) (h : DaemonHistory) (d : Daemon) : Prop where
  queues : ∀ urgent, arrivals c urgent h = (queue d.loop urgent).reverse ++ takes c urgent h
  routed : ∀ urgent, ∀ item ∈ queue d.loop urgent, isUrgent c item = urgent
  distinct : ((arrived h).filterMap requestId?).Nodup
  seen : (arrived h).filterMap requestId? ⊆ d.loop.session.seenRequestIds
  numbers : ((dequeued h).map Prod.fst).Nodup
  numbered : ∀ x ∈ dequeued h, x.1 < d.loop.session.taken
  dispatching : ∀ x ∈ d.dispatching, x ∈ dequeued h ∧ ∀ a ∈ answers h, a.1.1 ≠ x.1
  answersOnce : ((answers h).map (·.1.1)).Nodup
  answersOf : ∀ a ∈ answers h, a.1 ∈ dequeued h
  publications : ∀ p ∈ d.publications, (p.number, p.item) ∈ dequeued h ∧ Names p.item p.frame
  framesOnce : ((frames h).map (·.1.1)).Nodup
  framesOf : ∀ f ∈ frames h, f.1 ∈ dequeued h ∧ f.1.1 ∈ d.loop.session.completed ∧ Names f.1.2 f.2
  proof : d.loop.preverifiedStopStatus.isSome = true → Since (fun x => ¬ ByProof x) Proved h

variable {h : DaemonHistory} {i : DaemonStep}

theorem Inv.start (p : SupervisorProtocol) : Inv c [] (Daemon.start p) := by
  constructor <;> simp [arrivals, takes, arrived, dequeued, answers, frames, queue, Daemon.start]

theorem Inv.proofAside (hi : Inv c h d) {l : Session} {e : DaemonEvent} (ha : Aside d.loop l)
    (he : ¬ ByProof (i, e)) (hp : l.preverifiedStopStatus.isSome = true) : Since (fun x => ¬ ByProof x) Proved ((i, e) :: h) :=
  .inr ⟨he, hi.proof (ha.proof hp)⟩

theorem Inv.quiet (hi : Inv c h d) {l : Session} (ha : Aside d.loop l) : Inv c ((i, .quiet) :: h) { d with loop := l } where
  queues u := ha.queues u ▸ hi.queues u
  routed u := ha.queues u ▸ hi.routed u
  distinct := hi.distinct
  seen := fun _ hid => ha.seen (hi.seen hid)
  numbers := hi.numbers
  numbered := ha.taken ▸ hi.numbered
  dispatching := hi.dispatching
  answersOnce := hi.answersOnce
  answersOf := hi.answersOf
  publications := hi.publications
  framesOnce := hi.framesOnce
  framesOf f hf := ⟨(hi.framesOf f hf).1, ha.completed (hi.framesOf f hf).2.1, (hi.framesOf f hf).2.2⟩
  proof := hi.proofAside ha (by simp [ByProof])

theorem Inv.proved (hi : Inv c h d) {l : Session} (hs : Still d.loop l) : Inv c ((i, .proved) :: h) { d with loop := l } where
  queues u := hs.queues u ▸ hi.queues u
  routed u := hs.queues u ▸ hi.routed u
  distinct := hi.distinct
  seen := fun _ hid => hs.seen (hi.seen hid)
  numbers := hi.numbers
  numbered := hs.taken ▸ hi.numbered
  dispatching := hi.dispatching
  answersOnce := hi.answersOnce
  answersOf := hi.answersOf
  publications := hi.publications
  framesOnce := hi.framesOnce
  framesOf f hf := ⟨(hi.framesOf f hf).1, hs.completed (hi.framesOf f hf).2.1, (hi.framesOf f hf).2.2⟩
  proof _ := .inl rfl

theorem Inv.arrived {item : InboundItem} (hi : Inv c h d) {l : Session} (hput : Put c item d.loop l) :
    Inv c ((i, .arrived item) :: h) { d with loop := l } where
  queues u := by
    have hq := hi.queues u
    show (item :: ForegroundSupervisorSession.arrived h).filter (isUrgent c · = u) = _
    obtain rfl | rfl := Bool.eq_or_eq_not u (isUrgent c item)
    · rw [List.filter_cons_of_pos (by simp), hput.into, List.reverse_append]
      exact congrArg (item :: ·) hq
    · rw [List.filter_cons_of_neg (by simp), hput.other]
      exact hq
  routed u x hx := by
    obtain rfl | rfl := Bool.eq_or_eq_not u (isUrgent c item)
    · rw [hput.into, List.mem_append, List.mem_singleton] at hx
      exact hx.elim (hi.routed _ x) fun he => he ▸ rfl
    · rw [hput.other] at hx
      exact hi.routed _ x hx
  distinct := by
    show ((item :: ForegroundSupervisorSession.arrived h).filterMap requestId?).Nodup
    rw [List.filterMap_cons]
    split
    next => exact hi.distinct
    next id hid => exact List.nodup_cons.mpr ⟨fun hm => (hput.fresh id hid).1 (hi.seen hm), hi.distinct⟩
  seen := by
    show (item :: ForegroundSupervisorSession.arrived h).filterMap requestId? ⊆ _
    rw [List.filterMap_cons]
    split
    next => exact fun _ hid => hput.seen (hi.seen hid)
    next id hid => exact List.cons_subset.mpr ⟨(hput.fresh id hid).2, fun _ hm => hput.seen (hi.seen hm)⟩
  numbers := hi.numbers
  numbered := hput.taken ▸ hi.numbered
  dispatching := hi.dispatching
  answersOnce := hi.answersOnce
  answersOf := hi.answersOf
  publications := hi.publications
  framesOnce := hi.framesOnce
  framesOf f hf := ⟨(hi.framesOf f hf).1, hput.completed (hi.framesOf f hf).2.1, (hi.framesOf f hf).2.2⟩
  proof hp := .inr ⟨by simp [ByProof], hi.proof (hput.proof hp)⟩

theorem Inv.dequeued {item : InboundItem} {urgent : Bool} (hi : Inv c h d) {l : Session}
    (ht : Dequeued urgent item d.loop l) :
    Inv c ((i, .dequeued d.loop.session.taken item) :: h) { d with loop := l, dispatching := some (d.loop.session.taken, item) } where
  queues u := by
    have hq := hi.queues u
    have hitem := hi.routed urgent item (by simp [ht.first])
    show arrivals c u h = _ ++ (item :: (ForegroundSupervisorSession.dequeued h).map Prod.snd).filter (isUrgent c · = u)
    obtain rfl | rfl := Bool.eq_or_eq_not u urgent
    · rw [List.filter_cons_of_pos (by simp [hitem]), hq, ht.first, List.reverse_cons, List.append_assoc]
      rfl
    · rw [List.filter_cons_of_neg (by simp [hitem]), hq, ht.other]
      rfl
  routed u x hx := by
    obtain rfl | rfl := Bool.eq_or_eq_not u urgent
    · exact hi.routed _ x (by rw [ht.first]; exact List.mem_cons_of_mem _ hx)
    · exact hi.routed _ x (by rw [← ht.other]; exact hx)
  distinct := hi.distinct
  seen := ht.seen ▸ hi.seen
  numbers := by
    refine List.nodup_cons.mpr ⟨fun hm => ?_, hi.numbers⟩
    obtain ⟨x, hx, he⟩ := List.mem_map.mp hm
    exact Nat.lt_irrefl _ (he ▸ hi.numbered x hx)
  numbered x hx := by
    rw [ht.taken]
    obtain rfl | hx := List.mem_cons.mp hx
    · exact Nat.lt_succ_self _
    · exact Nat.lt_succ_of_lt (hi.numbered x hx)
  dispatching := by
    rintro _ ⟨⟩
    refine ⟨List.mem_cons_self, fun a ha he => ?_⟩
    exact Nat.ne_of_lt (hi.numbered _ (hi.answersOf a ha)) he
  answersOnce := hi.answersOnce
  answersOf a ha := List.mem_cons_of_mem _ (hi.answersOf a ha)
  publications p hp := ⟨List.mem_cons_of_mem _ (hi.publications p hp).1, (hi.publications p hp).2⟩
  framesOnce := hi.framesOnce
  framesOf f hf := ⟨List.mem_cons_of_mem _ (hi.framesOf f hf).1, ht.completed ▸ (hi.framesOf f hf).2.1, (hi.framesOf f hf).2.2⟩
  proof hp := .inr ⟨by simp [ByProof], hi.proof (ht.proof ▸ hp)⟩

theorem Inv.answered {number : Nat} {item : InboundItem} {byProof : Bool} {new : List Publication} (hi : Inv c h d)
    (hd : d.dispatching = some (number, item)) {l : Session} (ha : Aside d.loop l)
    (hp : byProof = true → l.preverifiedStopStatus.isSome = false)
    (hnew : ∀ p ∈ new, p.number = number ∧ p.item = item ∧ Names item p.frame) :
    Inv c ((i, .answered number item byProof) :: h) { loop := l, dispatching := none, publications := new ++ d.publications } where
  queues u := ha.queues u ▸ hi.queues u
  routed u := ha.queues u ▸ hi.routed u
  distinct := hi.distinct
  seen := fun _ hid => ha.seen (hi.seen hid)
  numbers := hi.numbers
  numbered := ha.taken ▸ hi.numbered
  dispatching := by simp
  answersOnce := by
    refine List.nodup_cons.mpr ⟨fun hm => ?_, hi.answersOnce⟩
    obtain ⟨a, ha, he⟩ := List.mem_map.mp hm
    exact (hi.dispatching _ hd).2 a ha he
  answersOf a ha := by
    obtain rfl | ha := List.mem_cons.mp ha
    · exact (hi.dispatching _ hd).1
    · exact hi.answersOf a ha
  publications p hp := by
    obtain hp | hp := List.mem_append.mp hp
    · obtain ⟨hn, hitem, hnames⟩ := hnew p hp
      rw [hn, hitem]
      exact ⟨(hi.dispatching _ hd).1, hnames⟩
    · exact hi.publications p hp
  framesOnce := hi.framesOnce
  framesOf f hf := ⟨(hi.framesOf f hf).1, ha.completed (hi.framesOf f hf).2.1, (hi.framesOf f hf).2.2⟩
  proof hs := by
    cases byProof with
    | true => exact absurd hs (by simp [hp rfl])
    | false => exact hi.proofAside ha (by simp [ByProof]) hs

theorem Inv.framed {p : Publication} {frame : Frame} (hi : Inv c h d) (hp : p ∈ d.publications) {l : Session}
    (ha : Aside d.loop l) (hopen : p.number ∉ d.loop.session.completed) (hdone : p.number ∈ l.session.completed)
    (hf : frame.ok = true → frame = p.frame) :
    Inv c ((i, .framed p.number p.item frame) :: h) { d with loop := l } where
  queues u := ha.queues u ▸ hi.queues u
  routed u := ha.queues u ▸ hi.routed u
  distinct := hi.distinct
  seen := fun _ hid => ha.seen (hi.seen hid)
  numbers := hi.numbers
  numbered := ha.taken ▸ hi.numbered
  dispatching := hi.dispatching
  answersOnce := hi.answersOnce
  answersOf := hi.answersOf
  publications := hi.publications
  framesOnce := by
    refine List.nodup_cons.mpr ⟨fun hm => ?_, hi.framesOnce⟩
    obtain ⟨f, hf, he⟩ := List.mem_map.mp hm
    have he : f.1.1 = p.number := he
    exact hopen (he ▸ (hi.framesOf f hf).2.1)
  framesOf f hmem := by
    obtain rfl | hmem := List.mem_cons.mp hmem
    · exact ⟨(hi.publications p hp).1, hdone, fun hok => hf hok ▸ (hi.publications p hp).2 (hf hok ▸ hok)⟩
    · exact ⟨(hi.framesOf f hmem).1, ha.completed (hi.framesOf f hmem).2.1, (hi.framesOf f hmem).2.2⟩
  proof := hi.proofAside ha (by simp [ByProof])

theorem Inv.step (hi : Inv c h d) (i : DaemonStep) :
    Inv c ((i, ((daemon c).step d i).1) :: h) ((daemon c).step d i).2 := by
  have hm := daemon_moves (c := c) (d := d) i
  revert hm
  rcases (daemon c).step d i with ⟨e, d'⟩
  intro hm
  dsimp only at hm ⊢
  cases hm with
  | quiet ha => exact hi.quiet ha
  | arrived hput => exact hi.arrived hput
  | dequeued hd ht => exact hi.dequeued ht
  | answered hd ha hp hnew => exact hi.answered hd ha (fun h => (hp h).2.2) hnew
  | proved hs => exact hi.proved hs
  | framed hp ha hopen hdone hf => exact hi.framed hp ha hopen hdone hf

theorem inv_of_runs {p : SupervisorProtocol} (hr : (daemon c).Runs Machine.always (Daemon.start p) h d) : Inv c h d :=
  hr.historyInvariant (Inv.start p) fun _ _ i hi _ => hi.step i

theorem Inv.order (hi : Inv c h d) (urgent : Bool) : takes c urgent h <:+ arrivals c urgent h := by
  rw [hi.queues urgent]
  exact List.suffix_append _ _

section
variable {D L : List (Nat × InboundItem)}

theorem Inv.dequeued_ids (hi : Inv c h d) : (((ForegroundSupervisorSession.dequeued h).map Prod.snd).filterMap requestId?).Nodup := by
  have hsplit (items : List InboundItem) : List.Perm
      (items.filter (isUrgent c · = true) ++ items.filter (isUrgent c · = false)) items := by
    have := List.filter_append_perm (isUrgent c ·) items
    simpa using this
  have hsub : List.Subperm ((ForegroundSupervisorSession.dequeued h).map Prod.snd) (ForegroundSupervisorSession.arrived h) := by
    refine (hsplit _).symm.subperm.trans (List.Subperm.trans ?_ (hsplit _).subperm)
    exact (List.Sublist.append (hi.order true).sublist (hi.order false).sublist).subperm
  obtain ⟨items, hperm, hsub⟩ := hsub
  exact ((hperm.filterMap requestId?).nodup_iff).mp (hi.distinct.sublist (hsub.filterMap requestId?))

theorem nodup_ids (hd : ((D.map Prod.snd).filterMap requestId?).Nodup) (hn : (L.map Prod.fst).Nodup) (hs : L ⊆ D) :
    ((L.map Prod.snd).filterMap requestId?).Nodup := by
  obtain ⟨items, hperm, hsub⟩ := List.subperm_of_subset (List.Nodup.of_map _ hn) hs
  have hsub := (hsub.map Prod.snd).filterMap requestId?
  exact (((hperm.map Prod.snd).filterMap requestId?).nodup_iff).mp (hd.sublist hsub)

end

theorem Inv.executed_nodup (hi : Inv c h d) : (executed h).Nodup := by
  have hnum : ((((answers h).filter (!·.2)).map Prod.fst).map Prod.fst).Nodup := by
    rw [List.map_map]
    exact hi.answersOnce.sublist (List.filter_sublist.map _)
  have := nodup_ids hi.dequeued_ids hnum fun x hx => by
    obtain ⟨a, ha, rfl⟩ := List.mem_map.mp hx
    exact hi.answersOf a (List.mem_of_mem_filter ha)
  simpa [executed, List.filterMap_map, Function.comp_def] using this

theorem Inv.successes_nodup (hi : Inv c h d) : (successes h).Nodup := by
  have hnum : ((((frames h).filter (·.2.ok)).map Prod.fst).map Prod.fst).Nodup := by
    rw [List.map_map]
    exact hi.framesOnce.sublist (List.filter_sublist.map _)
  have := nodup_ids hi.dequeued_ids hnum fun x hx => by
    obtain ⟨f, hf, rfl⟩ := List.mem_map.mp hx
    exact (hi.framesOf f (List.mem_of_mem_filter hf)).1
  have hids : successes h = ((frames h).filter (·.2.ok)).filterMap fun f => requestId? f.1.2 := by
    refine List.filterMap_congr fun f hf => ?_
    obtain ⟨hf, hok⟩ := List.mem_filter.mp hf
    obtain ⟨request, hitem, hid⟩ := (hi.framesOf f hf).2.2 hok
    rw [hid, hitem]
    rfl
  rw [hids]
  simpa [List.filterMap_map, Function.comp_def] using this

/-- What a session keeps to, in every order of its threads' steps. -/
structure InOrder (c : SessionConfig) (h : DaemonHistory) : Prop where
  executed : (executed h).Nodup
  successes : (successes h).Nodup
  frames : ((frames h).map (·.1.1)).Nodup ∧ ∀ f ∈ ForegroundSupervisorSession.frames h, f.1 ∈ dequeued h
  numbers : ((dequeued h).map Prod.fst).Nodup
  order : ∀ urgent, takes c urgent h <:+ arrivals c urgent h
  /-- What is no stop leaves its queue only when no stop waits. -/
  urgent : ∀ newer older i number item, h = newer ++ (i, .dequeued number item) :: older → isUrgent c item = false →
    takes c true older = arrivals c true older
  /-- A proof answers a stop for this controller, and was made since the last
  one that did. -/
  proof : ∀ newer older i number item, h = newer ++ (i, .answered number item true) :: older →
    isUrgent c item = true ∧ Since (fun x => ¬ ByProof x) Proved older

theorem requests_answered_in_order {p : SupervisorProtocol} (hr : (daemon c).Runs Machine.always (Daemon.start p) h d) :
    InOrder c h := by
  have hi := inv_of_runs hr
  have hentry {newer older : DaemonHistory} {i : DaemonStep} {e : DaemonEvent} (he : h = newer ++ (i, e) :: older) :
      ∃ d₁ d₂, Inv c older d₁ ∧ Moved c d₁ e d₂ := by
    obtain ⟨d₂, hd₂⟩ := (he ▸ hr).older
    obtain ⟨d₁, hd₁, -, hstep⟩ := hd₂.newest
    refine ⟨d₁, d₂, inv_of_runs hd₁, ?_⟩
    have hm := daemon_moves (c := c) (d := d₁) i
    rwa [hstep] at hm
  refine ⟨hi.executed_nodup, hi.successes_nodup, ⟨hi.framesOnce, fun f hf => (hi.framesOf f hf).1⟩, hi.numbers, hi.order,
    fun newer older i number item he hu => ?_, fun newer older i number item he => ?_⟩
  · obtain ⟨d₁, d₂, hi₁, hm⟩ := hentry he
    cases hm with
    | @dequeued urgent _ _ hd ht =>
      have hurgent : isUrgent c item = urgent := hi₁.routed urgent item (by simp [ht.first])
      have hq := hi₁.queues true
      rw [ht.waiting (hurgent ▸ hu)] at hq
      exact hq.symm
  · obtain ⟨d₁, d₂, hi₁, hm⟩ := hentry he
    cases hm with
    | answered hd ha hp hnew => exact ⟨(hp rfl).1, hi₁.proof (hp rfl).2.1⟩

/-- `config/ev3rstorm.json`, with every frame encoded. -/
def ev3rstormSession : SessionConfig := { SupervisorProtocol.ev3rstormProtocol with encodes := fun _ => true }

/-- A stop overtakes a status, and is proved by the time it is dispatched. -/
def overtaking : List DaemonStep :=
  [.startLoop, .enqueueRequest ⟨"ev3", "status", .status, 1000, 0⟩, .enqueueRequest (SupervisorProtocol.stopRequest "ev3"),
    .performRequestedEmergencyStop, .takeItem, .respond ⟨pure false, .pure _⟩, .publish 0 none, .takeItem,
    .respond ⟨pure false, .pure _⟩, .publish 1 none]

def overtakingRun : DaemonHistory × Daemon :=
  (daemon ev3rstormSession).runList
    (Daemon.start (.start SupervisorProtocol.ev3rstormProtocol (EV3Supervisor.booted
      (EV3Supervisor.answering (EV3Supervisor.bootAnswers ++ List.replicate 2 (EV3Supervisor.quiet 0) ++ EV3Supervisor.stopAnswers 0) 0))))
    overtaking

theorem overtaking_in_order :
    InOrder ev3rstormSession overtakingRun.1 ∧ executed overtakingRun.1 = ["status"] ∧
      successes overtakingRun.1 = ["status", "request"] :=
  ⟨requests_answered_in_order (Machine.runs_runList (Machine.stepsOk_always _ _ overtaking)), by decide +kernel,
    by decide +kernel⟩

end ForegroundSupervisorSession

end RobotLlm.Ev3
