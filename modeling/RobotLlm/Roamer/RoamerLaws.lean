import RobotLlm.Roamer.PhysicalRoamer

/-!
# What a run of the roamer sends

`Proper` says of a log that each request was admissible when it was sent. A
step of the episode keeps the log proper whether it returns or raises; only if
it returns may the episode send more (`Live`). The shutdown closes the log.
-/

namespace RobotLlm.Roamer

open RobotLlm.Lib Prog
open PhysicalRoamer

variable {F σ : Type} [PyFloat F]

-- Logs

namespace RoamerEvent

def request? : RoamerEvent F → Option RoamerRequest
  | .sent request => some request
  | _ => none

def IsDrive : RoamerEvent F → Prop
  | .sent (.drivePulse ..) => True
  | _ => False

def IsStatus : RoamerEvent F → Prop
  | .observed _ _ => True
  | _ => False

end RoamerEvent

abbrev Log (F : Type) := List (RoamerEvent F)

def requests (log : Log F) : List RoamerRequest := log.filterMap RoamerEvent.request?

def sequenceIds (log : Log F) : List Nat := (requests log).filterMap RoamerRequest.sequenceId?

def RoamerRequest.isDrive : RoamerRequest → Bool
  | .drivePulse .. => true
  | _ => false

def drivesIn (log : Log F) : Nat := ((requests log).filter RoamerRequest.isDrive).length

/-- The newest acknowledged heartbeat, and when it was. -/
def lastAck : Log F → Option (Nat × F)
  | [] => none
  | .acknowledged sequenceId seconds :: _ => some (sequenceId, seconds)
  | _ :: older => lastAck older

/-- A rejected answer, a cancellation that was seen, and a heartbeat
acknowledged too late after the one before it. -/
def Halts (older : Log F) : RoamerEvent F → Prop
  | .refused | .cancelSeen => True
  | .acknowledged _ seconds => ∃ last ∈ lastAck older, TooFar last.2 seconds
  | _ => False

def Halted : Log F → Prop
  | [] => False
  | event :: older => Halts older event ∨ Halted older

/-- The turns that were sent since the last status that was clear. -/
def turnsSinceClear : Log F → List RoamerAction
  | [] => []
  | .observed _ .clear :: _ => []
  | .sent (.drivePulse _ _ _ _ action) :: older =>
    if action.IsTurn then action :: turnsSinceClear older else turnsSinceClear older
  | _ :: older => turnsSinceClear older

/-- The last validated status was idle and showed this, and no pulse was sent
since. -/
def IdleSince (obstacle : Obstacle) : Log F → Prop :=
  Since (fun event => ¬ event.IsDrive ∧ ¬ event.IsStatus) (· = .observed .armedIdle obstacle)

structure DriveOk (older : Log F) (reference : Nat) (action : RoamerAction) : Prop where
  status : ∃ obstacle, IdleSince obstacle older ∧ (action = .advance ↔ obstacle = .clear)
  reference : ∃ seconds, lastAck older = some (reference, seconds)
  direction : action.IsTurn → ∀ earlier ∈ turnsSinceClear older, earlier = action

/-- The request may be sent after what happened so far; `first` is the sequence
number the run started from. -/
structure Admissible (first : Nat) (older : Log F) (request : RoamerRequest) : Prop where
  opened : RoamerRequest.shutdown ∉ requests older
  live : request ≠ .shutdown → ¬ Halted older
  sequence : ∀ id ∈ request.sequenceId?, first < id ∧ ∀ earlier ∈ sequenceIds older, earlier < id
  drive : ∀ sessionId id commandId reference action,
    request = .drivePulse sessionId id commandId reference action → DriveOk older reference action

def Proper (first : Nat) : Log F → Prop
  | [] => True
  | event :: older => (∀ request, event = .sent request → Admissible first older request) ∧ Proper first older

theorem Proper.admissible {first : Nat} {newer older : Log F} {request : RoamerRequest}
    (h : Proper first (newer ++ .sent request :: older)) : Admissible first older request := by
  induction newer with
  | nil => exact h.1 request rfl
  | cons event newer ih => exact ih h.2

section
variable {event : RoamerEvent F} {log : Log F}

theorem requests_cons_other (h : event.request? = none) (log : Log F) : requests (event :: log) = requests log := by
  simp [requests, h]

theorem Proper.cons_other {first : Nat} (hp : Proper first log) (h : event.request? = none) :
    Proper first (event :: log) := by
  refine ⟨fun request he => ?_, hp⟩
  rw [he] at h
  cases h

theorem turnsSinceClear_other (hd : ¬ event.IsDrive) (hs : ¬ event.IsStatus) :
    turnsSinceClear (event :: log) = turnsSinceClear log := by
  cases event with
  | sent request => cases request <;> first | rfl | exact absurd trivial hd
  | observed mode obstacle => exact absurd trivial hs
  | _ => rfl

end

-- States

structure Charged (s : RoamerState F σ) : Prop where
  sent : drivesIn s.log ≤ s.episode.pulses
  pulses : s.episode.pulses ≤ maxPulses
  motion : s.episode.commandedMotionMs = pulseAccountingMs * s.episode.pulses

/-- However the episode was left, only a shutdown is to follow. -/
structure Over (first : Nat) (s : RoamerState F σ) : Prop where
  proper : Proper first s.log
  opened : RoamerRequest.shutdown ∉ requests s.log
  charged : Charged s

structure Live (first : Nat) (s : RoamerState F σ) : Prop extends Over first s where
  unhalted : ¬ Halted s.log
  numbered : first ≤ s.sequence ∧ ∀ id ∈ sequenceIds s.log, id ≤ s.sequence
  acknowledged : ∀ id seconds, lastAck s.log = some (id, seconds) →
    s.heartbeatSequence = some id ∧ s.lastHeartbeatAt = some seconds

structure Quiet (s s' : RoamerState F σ) : Prop where
  log : s'.log = s.log
  episode : s'.episode = s.episode
  sequence : s'.sequence = s.sequence
  heartbeatSequence : s'.heartbeatSequence = s.heartbeatSequence
  lastHeartbeatAt : s'.lastHeartbeatAt = s.lastHeartbeatAt

instance : IsPreorder (RoamerState F σ) Quiet where
  refl _ := ⟨rfl, rfl, rfl, rfl, rfl⟩
  trans _ _ _ h h' := ⟨h'.log.trans h.log, h'.episode.trans h.episode, h'.sequence.trans h.sequence,
    h'.heartbeatSequence.trans h.heartbeatSequence, h'.lastHeartbeatAt.trans h.lastHeartbeatAt⟩

/-- A step between a status and the pulse that follows it. -/
structure Calm (s s' : RoamerState F σ) : Prop where
  episode : s'.episode = s.episode
  grown : ∃ new, s'.log = new ++ s.log ∧ ∀ event ∈ new, ¬ event.IsDrive ∧ ¬ event.IsStatus

instance : IsPreorder (RoamerState F σ) Calm where
  refl _ := ⟨rfl, [], rfl, by simp⟩
  trans _ _ _ h h' := by
    obtain ⟨new, hlog, hcalm⟩ := h.grown
    obtain ⟨new', hlog', hcalm'⟩ := h'.grown
    refine ⟨h'.episode.trans h.episode, new' ++ new, by rw [hlog', hlog, List.append_assoc], fun event he => ?_⟩
    rcases List.mem_append.mp he with he | he
    · exact hcalm' event he
    · exact hcalm event he

variable {first : Nat} {s s' : RoamerState F σ} {event : RoamerEvent F}

theorem Quiet.calm (h : Quiet s s') : Calm s s' := ⟨h.episode, [], h.log, by simp⟩

theorem Charged.quiet (h : Charged s) (hlog : s'.log = s.log) (hepisode : s'.episode = s.episode) : Charged s' :=
  ⟨by rw [hlog, hepisode]; exact h.sent, by rw [hepisode]; exact h.pulses, by rw [hepisode]; exact h.motion⟩

theorem Over.quiet (h : Over first s) (hlog : s'.log = s.log) (hepisode : s'.episode = s.episode) : Over first s' :=
  ⟨hlog ▸ h.proper, hlog ▸ h.opened, h.charged.quiet hlog hepisode⟩

theorem Live.quiet (h : Live first s) (hq : Quiet s s') : Live first s' :=
  ⟨h.toOver.quiet hq.log hq.episode, hq.log ▸ h.unhalted, by rw [hq.log, hq.sequence]; exact h.numbered,
    by rw [hq.log, hq.heartbeatSequence, hq.lastHeartbeatAt]; exact h.acknowledged⟩

theorem Over.record (h : Over first s) (he : event.request? = none) :
    Over first { s with log := event :: s.log } := by
  refine ⟨h.proper.cons_other he, ?_, ⟨?_, h.charged.pulses, h.charged.motion⟩⟩
  · rw [requests_cons_other he]
    exact h.opened
  · show drivesIn (event :: s.log) ≤ _
    rw [drivesIn, requests_cons_other he]
    exact h.charged.sent

theorem Live.record (h : Live first s) (he : event.request? = none) (hack : lastAck (event :: s.log) = lastAck s.log)
    (hh : ¬ Halts s.log event) : Live first { s with log := event :: s.log } := by
  refine ⟨h.toOver.record he, ?_, ?_, ?_⟩
  · rintro (hhalts | hhalted)
    · exact hh hhalts
    · exact h.unhalted hhalted
  · show _ ∧ ∀ id ∈ (requests (event :: s.log)).filterMap _, _
    rw [requests_cons_other he]
    exact h.numbered
  · show ∀ id seconds, lastAck (event :: s.log) = _ → _
    rw [hack]
    exact h.acknowledged

theorem Calm.idleSince {obstacle : Obstacle} (h : Calm s s') (hs : IdleSince obstacle s.log) :
    IdleSince obstacle s'.log := by
  obtain ⟨new, hlog, hcalm⟩ := h.grown
  rw [hlog]
  clear hlog
  induction new with
  | nil => exact hs
  | cons event new ih =>
    exact .inr ⟨hcalm event List.mem_cons_self, ih fun other ho => hcalm other (List.mem_cons_of_mem _ ho)⟩

theorem Calm.turns (h : Calm s s') : turnsSinceClear s'.log = turnsSinceClear s.log := by
  obtain ⟨new, hlog, hcalm⟩ := h.grown
  rw [hlog]
  clear hlog
  induction new with
  | nil => rfl
  | cons event new ih =>
    obtain ⟨hd, hs⟩ := hcalm event List.mem_cons_self
    rw [List.cons_append, turnsSinceClear_other hd hs]
    exact ih fun other ho => hcalm other (List.mem_cons_of_mem _ ho)

-- Steps that send nothing

variable {e : PhysicalRoamer F σ}

theorem ask_quiet (x : Prog σ Unit α) : Keeps Quiet (ask x : Act F σ α) := fun _ => ⟨rfl, rfl, rfl, rfl, rfl⟩

theorem now_quiet (e : PhysicalRoamer F σ) : Keeps Quiet e.now := by
  refine Keeps.bind (ask_quiet _) fun value => Keeps.bind (Keeps.ofExcept _) fun current => ?_
  refine Keeps.bind Keeps.get fun s => Keeps.bind (Keeps.failIf _ _) fun _ => ?_
  exact Keeps.bind (Keeps.modify fun _ => ⟨rfl, rfl, rfl, rfl, rfl⟩) fun _ => Keeps.pure _

theorem cancelled_quiet (e : PhysicalRoamer F σ) : Keeps Quiet e.cancelled := by
  unfold cancelled
  split
  · exact Keeps.pure _
  · exact ask_quiet _

theorem checkGap_quiet (seconds : F) : Keeps Quiet (checkGap seconds : Act F σ Unit) :=
  Keeps.bind Keeps.get fun _ => Keeps.failIf _ _

theorem verifyHeartbeatGap_quiet (e : PhysicalRoamer F σ) : Keeps Quiet e.verifyHeartbeatGap :=
  Keeps.bind Keeps.get fun _ => Keeps.ite (Keeps.bind (now_quiet e) fun _ => checkGap_quiet _) (Keeps.pure ())

theorem sleepPoll_quiet (e : PhysicalRoamer F σ) : Keeps Quiet e.sleepPoll :=
  Keeps.bind (ask_quiet _) fun _ => verifyHeartbeatGap_quiet e

theorem late_quiet (e : PhysicalRoamer F σ) (startedAt : F) : Keeps Quiet (e.late startedAt) :=
  Keeps.bind (now_quiet e) fun _ => Keeps.pure _

theorem quiet_bind {x : Act F σ α} {f : α → Act F σ β} {Q : β → RoamerState F σ → Prop} (hx : Keeps Quiet x)
    (hs : Live first s) (hf : ∀ a s', Quiet s s' → Live first s' → Triple (f a) s' Q (fun _ => Over first)) :
    Triple (x >>= f) s Q (fun _ => Over first) :=
  Triple.frame_bind hx (fun _ _ hq => (hs.quiet hq).toOver) fun a s' hq => hf a s' hq (hs.quiet hq)

theorem checkCancelled_run (hs : Live first s) :
    Triple e.checkCancelled s (fun _ s' => Quiet s s') (fun _ => Over first) := by
  refine quiet_bind (cancelled_quiet e) hs fun cancelled s₁ h₁ hs₁ => ?_
  refine Triple.ite (fun _ => ?_) fun _ => Triple.pure h₁
  exact Triple.modify_bind (Triple.throw (hs₁.toOver.record rfl))

theorem refuse_run {halt : Halt} {Q : α → RoamerState F σ → Prop} (hs : Over first s) :
    Triple (refuse halt : Act F σ α) s Q (fun _ => Over first) :=
  Triple.modify_bind (Triple.throw (hs.record rfl))

theorem accept_run {r : Except Halt α} (hs : Over first s) :
    Triple (accept r : Act F σ α) s (fun a s' => r = .ok a ∧ s' = s) (fun _ => Over first) := by
  cases r with
  | ok a => exact Triple.pure ⟨rfl, rfl⟩
  | error halt => exact refuse_run hs

-- Requests

/-- What has to hold when a request other than the shutdown is sent. -/
structure Sendable (first : Nat) (s : RoamerState F σ) (request : RoamerRequest) : Prop where
  ordinary : request ≠ .shutdown
  sequence : ∀ id ∈ request.sequenceId?, first < id ∧ id ≤ s.sequence ∧ ∀ earlier ∈ sequenceIds s.log, earlier < id
  drive : ∀ sessionId id commandId reference action,
    request = .drivePulse sessionId id commandId reference action → DriveOk s.log reference action
  paid : request.isDrive = true → drivesIn s.log < s.episode.pulses

theorem Sendable.quiet {request : RoamerRequest} (h : Sendable first s request) (hq : Quiet s s') :
    Sendable first s' request := by
  obtain ⟨h₁, h₂, h₃, h₄⟩ := h
  exact ⟨h₁, by rwa [hq.log, hq.sequence], by rwa [hq.log], by rwa [hq.log, hq.episode]⟩

theorem Live.sent {request : RoamerRequest} (hs : Live first s) (h : Sendable first s request) :
    Live first { s with log := .sent request :: s.log } := by
  have hadmissible : Admissible first s.log request :=
    ⟨hs.opened, fun _ => hs.unhalted, fun id hid => ⟨(h.sequence id hid).1, (h.sequence id hid).2.2⟩, h.drive⟩
  refine ⟨⟨⟨fun other ho => ?_, hs.proper⟩, ?_, ⟨?_, hs.charged.pulses, hs.charged.motion⟩⟩, ?_, ⟨hs.numbered.1, ?_⟩,
    hs.acknowledged⟩
  · cases ho
    exact hadmissible
  · intro hmem
    rcases List.mem_cons.mp hmem with heq | hmem
    · exact h.ordinary heq.symm
    · exact hs.opened hmem
  · show ((request :: requests s.log).filter _).length ≤ _
    rw [List.filter_cons]
    split
    next hd =>
      have hpaid := h.paid hd
      rw [List.length_cons]
      exact hpaid
    next => exact hs.charged.sent
  · rintro (hhalts | hhalted)
    · exact hhalts
    · exact hs.unhalted hhalted
  · intro id hid
    have hid : id ∈ (request :: requests s.log).filterMap RoamerRequest.sequenceId? := hid
    rw [List.filterMap_cons] at hid
    split at hid
    next => exact hs.numbered.2 id hid
    next hsome =>
      rcases List.mem_cons.mp hid with rfl | hid
      · exact (h.sequence _ hsome).2.1
      · exact hs.numbered.2 id hid

theorem exchange_run {request : RoamerRequest} (hs : Live first s) :
    Triple (e.exchange request) s
      (fun _ s' => Live first s' ∧ ∃ value, ∃ t, Quiet s t ∧ s' = { t with log := .answered value :: t.log })
      (fun _ => Over first) := by
  refine Triple.bind ((ask_quiet _).attempted s) fun r s₁ h₁ => ?_
  have hs₁ := hs.quiet h₁
  cases r with
  | error _ => exact refuse_run hs₁.toOver
  | ok value =>
    refine Triple.modify_bind ?_
    have hs₂ : Live first { s₁ with log := .answered value :: s₁.log } := hs₁.record rfl rfl id
    cases value with
    | obj fields => exact Triple.pure ⟨hs₂, _, s₁, h₁, rfl⟩
    | _ => exact refuse_run hs₂.toOver

structure Exchanged (first : Nat) (s : RoamerState F σ) (request : RoamerRequest) (s' : RoamerState F σ) : Prop
    extends Live first s' where
  log : ∃ value, s'.log = .answered value :: .sent request :: s.log
  episode : s'.episode = s.episode
  sequence : s'.sequence = s.sequence
  heartbeatSequence : s'.heartbeatSequence = s.heartbeatSequence
  lastHeartbeatAt : s'.lastHeartbeatAt = s.lastHeartbeatAt

theorem send_run {request : RoamerRequest} (hs : Live first s) (h : Sendable first s request) :
    Triple (e.send request) s (fun _ => Exchanged first s request) (fun _ => Over first) := by
  refine Triple.bind (checkCancelled_run hs) fun _ s₁ h₁ => Triple.get_bind ?_
  have hs₁ := hs.quiet h₁
  refine Triple.failIf (fun _ => hs₁.toOver) fun _ => Triple.modify_bind (Triple.modify_bind ?_)
  have hcounted : Quiet s { s₁ with controlRequestCount := s₁.controlRequestCount + 1 } :=
    ⟨h₁.log, h₁.episode, h₁.sequence, h₁.heartbeatSequence, h₁.lastHeartbeatAt⟩
  refine Triple.bind (exchange_run ((hs.quiet hcounted).sent (h.quiet hcounted))) ?_
  rintro fields s₂ ⟨hs₂, value, t, ht, rfl⟩
  refine Triple.bind (checkCancelled_run hs₂) fun _ s₃ h₃ => Triple.pure ?_
  exact ⟨hs₂.quiet h₃, ⟨value, by rw [h₃.log, ht.log, ← h₁.log]⟩, h₃.episode.trans (ht.episode.trans h₁.episode),
    h₃.sequence.trans (ht.sequence.trans h₁.sequence),
    h₃.heartbeatSequence.trans (ht.heartbeatSequence.trans h₁.heartbeatSequence),
    h₃.lastHeartbeatAt.trans (ht.lastHeartbeatAt.trans h₁.lastHeartbeatAt)⟩

theorem Exchanged.calm {request : RoamerRequest} (h : Exchanged first s request s') (hr : request.isDrive = false) :
    Calm s s' := by
  obtain ⟨value, hlog⟩ := h.log
  refine ⟨h.episode, [.answered value, .sent request], hlog, fun event he => ?_⟩
  rcases List.mem_pair.mp he with rfl | rfl
  · exact ⟨id, id⟩
  · refine ⟨fun hd => ?_, id⟩
    cases request <;> first | exact hd | cases hr

theorem nextSequence_run (hs : Live first s) :
    nextSequence s = (.ok (s.sequence + 1), { s with sequence := s.sequence + 1 }) ∧
      Live first { s with sequence := s.sequence + 1 } ∧ first < s.sequence + 1 ∧
      ∀ earlier ∈ sequenceIds s.log, earlier < s.sequence + 1 := by
  obtain ⟨hfirst, hids⟩ := hs.numbered
  refine ⟨rfl, ⟨hs.toOver.quiet rfl rfl, hs.unhalted, ⟨Nat.le_succ_of_le hfirst, fun id hid => ?_⟩, hs.acknowledged⟩,
    Nat.lt_succ_of_le hfirst, fun id hid => ?_⟩
  · exact Nat.le_succ_of_le (hids id hid)
  · exact Nat.lt_succ_of_le (hids id hid)

theorem sendable_plain {request : RoamerRequest} (hr : request ≠ .shutdown) (hi : request.sequenceId? = none)
    (hd : request.isDrive = false) : Sendable first s request := by
  refine ⟨hr, by simp [hi], fun _ _ _ _ _ h => ?_, by simp [hd]⟩
  rw [h] at hd
  cases hd

theorem sendable_numbered {request : RoamerRequest} (hs : Live first s) (hr : request ≠ .shutdown)
    (hi : request.sequenceId? = some (s.sequence + 1)) (hd : request.isDrive = false) :
    Sendable first { s with sequence := s.sequence + 1 } request := by
  obtain ⟨-, -, hfirst, hids⟩ := nextSequence_run hs
  refine ⟨hr, fun id hid => ?_, fun _ _ _ _ _ h => ?_, by simp [hd]⟩
  · rw [hi] at hid
    cases hid
    exact ⟨hfirst, Nat.le_refl _, hids⟩
  · rw [h] at hd
    cases hd

theorem gap_bind {f : Unit → Act F σ β} {Q : β → RoamerState F σ → Prop} {seconds : F} (hover : Over first s)
    (hf : (∀ earlier, s.lastHeartbeatAt = some earlier → ¬ TooFar earlier seconds) →
      Triple (f ()) s Q (fun _ => Over first)) :
    Triple (checkGap seconds >>= f) s Q (fun _ => Over first) := by
  refine Triple.bind (Q := fun _ s' => s' = s ∧ ∀ earlier, s.lastHeartbeatAt = some earlier → ¬ TooFar earlier seconds)
    (Triple.get_bind (Triple.check (fun _ => hover) fun hgap => ⟨rfl, fun earlier he hfar => hgap ⟨earlier, he, hfar⟩⟩)) ?_
  rintro _ s' ⟨rfl, hgap⟩
  exact hf hgap

structure Beaten (first : Nat) (s s' : RoamerState F σ) : Prop extends Live first s', Calm s s' where
  beaten : ∃ id seconds, lastAck s'.log = some (id, seconds)

theorem heartbeat_run (hs : Live first s) (sessionId : String) :
    Triple (e.heartbeat sessionId) s (fun _ => Beaten first s) (fun _ => Over first) := by
  refine quiet_bind (now_quiet e) hs fun before s₁ h₁ hs₁ => gap_bind hs₁.toOver fun _ => ?_
  obtain ⟨hrun, hs₂, -, -⟩ := nextSequence_run hs₁
  refine Triple.step hrun (Triple.bind (send_run hs₂ (sendable_numbered hs₁ nofun rfl rfl)) fun response s₃ h₃ => ?_)
  refine Triple.bind (accept_run h₃.toOver) ?_
  rintro _ _ ⟨-, rfl⟩
  refine quiet_bind (now_quiet e) h₃.toLive fun after s₄ h₄ hs₄ => Triple.modify_bind ?_
  refine gap_bind (hs₄.toOver.record rfl) fun hgap => Triple.modify ?_
  have hunhalted : ¬ Halted (RoamerEvent.acknowledged (s₁.sequence + 1) after :: s₄.log) := by
    rintro (⟨⟨id, earlier⟩, hlast, hfar⟩ | hhalted)
    · exact hgap earlier (hs₄.acknowledged id earlier hlast).2 hfar
    · exact hs₄.unhalted hhalted
  refine ⟨⟨hs₄.toOver.record rfl |>.quiet rfl rfl, hunhalted, hs₄.numbered, ?_⟩, ⟨?_, ?_⟩, _, _, rfl⟩
  · intro id seconds hlast
    cases hlast
    exact ⟨rfl, rfl⟩
  · exact h₄.episode.trans (h₃.episode.trans h₁.episode)
  · obtain ⟨value, hlog⟩ := h₃.log
    refine ⟨[.acknowledged (s₁.sequence + 1) after, .answered value, .sent (.heartbeat sessionId (s₁.sequence + 1))], ?_, ?_⟩
    · show _ :: s₄.log = _
      rw [h₄.log, hlog, ← h₁.log]
      rfl
    · intro event he
      simp only [List.mem_cons, List.not_mem_nil, or_false] at he
      rcases he with rfl | rfl | rfl <;> exact ⟨id, id⟩

theorem validateStatus_running {status : Fields} {observation : RoamerMode × Obstacle × String}
    (h : validateStatus status true = .ok observation) : observation.1 ≠ .disarmed := by
  unfold validateStatus at h
  split at h
  next =>
    rcases hmode : modeOf true (status.lookup "state") with halt | mode
    · rw [hmode] at h
      cases h
    · have hnot : mode ≠ some .disarmed := by
        unfold modeOf at hmode
        split at hmode <;> cases hmode <;> nofun
      rw [hmode] at h
      cases mode with
      | none => cases h
      | some mode =>
        have h : validateMode status mode = .ok observation := h
        unfold validateMode at h
        split at h
        · split at h
          · rcases hobstacle : infraredObservation status with halt | seen
            · rw [hobstacle] at h
              cases h
            · rw [hobstacle] at h
              cases h
              exact fun heq => hnot (congrArg some heq)
          · cases h
        · cases h
  next => cases h

theorem observeStatus_run (hs : Live first s) (status : Fields) (allowRunning : Bool) :
    Triple (observeStatus status allowRunning) s
      (fun observation s' => Live first s' ∧ validateStatus status allowRunning = .ok observation ∧
        s' = { s with log := .observed observation.1 observation.2.1 :: s.log })
      (fun _ => Over first) := by
  refine Triple.bind (accept_run hs.toOver) ?_
  rintro observation _ ⟨hvalid, rfl⟩
  exact Triple.modify_bind (Triple.pure ⟨hs.record rfl rfl id, hvalid, rfl⟩)

theorem observeArmed_run (hs : Live first s) (sessionId : String) :
    Triple (e.observeArmed sessionId) s
      (fun observation s' => Live first s' ∧ observation.1 ≠ .disarmed ∧ ∃ t, Calm s t ∧
        s' = { t with log := .observed observation.1 observation.2.1 :: t.log })
      (fun _ => Over first) := by
  refine Triple.bind (heartbeat_run hs sessionId) fun _ s₁ h₁ => ?_
  refine Triple.bind (send_run h₁.toLive (sendable_plain nofun rfl rfl)) fun status s₂ h₂ => ?_
  refine quiet_bind (verifyHeartbeatGap_quiet e) h₂.toLive fun _ s₃ h₃ hs₃ => ?_
  refine (observeStatus_run hs₃ status true).mono ?_ fun _ _ h => h
  rintro observation s₄ ⟨hs₄, hvalid, rfl⟩
  exact ⟨hs₄, validateStatus_running hvalid, s₃, trans_of Calm (trans_of Calm h₁.toCalm (h₂.calm rfl)) h₃.calm, rfl⟩

-- The episode

/-- The turns since the last clear status went the way the episode remembers,
and it only ever remembers to turn. -/
structure Remembers (s : RoamerState F σ) : Prop where
  turns : ∀ action ∈ turnsSinceClear s.log, s.episode.blockedEpisodeTurn = some action
  isTurn : ∀ action, s.episode.blockedEpisodeTurn = some action → action.IsTurn
  next : s.episode.nextBlockedTurn.IsTurn

theorem Remembers.calm (h : Remembers s) (hc : Calm s s') : Remembers s' := by
  refine ⟨fun action ha => ?_, by rw [hc.episode]; exact h.isTurn, by rw [hc.episode]; exact h.next⟩
  rw [hc.turns] at ha
  rw [hc.episode]
  exact h.turns action ha

theorem arm_run (hs : Live first s) (hturns : turnsSinceClear s.log = []) :
    Triple e.arm s (fun _ s' => Live first s' ∧ s'.episode = s.episode ∧ turnsSinceClear s'.log = []) (fun _ => Over first) := by
  have other : ∀ {t t' : RoamerState F σ}, turnsSinceClear t.log = [] → Calm t t' → turnsSinceClear t'.log = [] :=
    fun ht hc => hc.turns.trans ht
  have status : ∀ {mode : RoamerMode} {obstacle : Obstacle} {log : Log F}, turnsSinceClear log = [] →
      turnsSinceClear (.observed mode obstacle :: log) = [] := by
    intro mode obstacle log h
    cases obstacle
    · exact h
    · rfl
  refine Triple.bind (send_run hs (sendable_plain nofun rfl rfl)) fun description s₁ h₁ => ?_
  refine Triple.bind (accept_run h₁.toOver) ?_
  rintro _ _ ⟨-, rfl⟩
  refine Triple.bind (send_run h₁.toLive (sendable_plain nofun rfl rfl)) fun claimed s₂ h₂ => ?_
  refine Triple.bind (accept_run h₂.toOver) ?_
  rintro sessionId _ ⟨-, rfl⟩
  refine Triple.bind (heartbeat_run h₂.toLive sessionId) fun _ s₃ h₃ => ?_
  refine Triple.bind (send_run h₃.toLive (sendable_plain nofun rfl rfl)) fun initial s₄ h₄ => ?_
  refine quiet_bind (verifyHeartbeatGap_quiet e) h₄.toLive fun _ s₅ h₅ hs₅ => ?_
  have hcalm : Calm s s₅ := trans_of Calm (trans_of Calm (h₁.calm rfl) (h₂.calm rfl))
    (trans_of Calm (trans_of Calm h₃.toCalm (h₄.calm rfl)) h₅.calm)
  refine Triple.bind (observeStatus_run hs₅ initial false) ?_
  rintro observation _ ⟨hs₆, -, rfl⟩
  refine Triple.bind (heartbeat_run hs₆ sessionId) fun _ s₇ h₇ => ?_
  obtain ⟨hrun, hs₈, -, -⟩ := nextSequence_run h₇.toLive
  refine Triple.step hrun (Triple.bind (send_run hs₈ (sendable_numbered h₇.toLive nofun rfl rfl)) fun armed s₉ h₉ => ?_)
  refine Triple.bind (observeStatus_run h₉.toLive armed true) ?_
  rintro observation' _ ⟨hs₁₀, -, rfl⟩
  refine Triple.bind (accept_run hs₁₀.toOver) ?_
  rintro _ _ ⟨-, rfl⟩
  refine quiet_bind (now_quiet e) hs₁₀ fun startedAt s₁₁ h₁₁ hs₁₁ => Triple.pure ⟨hs₁₁, ?_, ?_⟩
  · rw [h₁₁.episode]
    exact h₉.episode.trans (h₇.episode.trans hcalm.episode)
  · rw [h₁₁.log]
    have hidle : Calm s₇ { s₇ with sequence := s₇.sequence + 1 } := ⟨rfl, [], rfl, by simp⟩
    exact status (other (other (other (status (other hturns hcalm)) h₇.toCalm) hidle) (h₉.calm rfl))

theorem remember_remembers {t : RoamerState F σ} {mode : RoamerMode} {obstacle : Obstacle} (h : Remembers t) (n : Nat) :
    Remembers { t with
      episode := remember obstacle { t.episode with observations := n }
      log := .observed mode obstacle :: t.log } := by
  obtain ⟨hturns, hturn, hnext⟩ := h
  cases obstacle with
  | clear => exact ⟨nofun, nofun, hnext⟩
  | blocked =>
    cases hblocked : t.episode.blockedEpisodeTurn with
    | some action =>
      have hsame : remember .blocked { t.episode with observations := n } = { t.episode with observations := n } := by
        simp only [remember, hblocked]
      rw [hsame]
      exact ⟨hturns, hturn, hnext⟩
    | none =>
      have hnew : remember .blocked { t.episode with observations := n } =
          { t.episode with
            observations := n
            blockedEpisodeTurn := some t.episode.nextBlockedTurn
            nextBlockedTurn := if t.episode.nextBlockedTurn = .turnLeft then .turnRight else .turnLeft } := by
        simp only [remember, hblocked]
      rw [hnew]
      refine ⟨fun action ha => ?_, fun action ha => ?_, ?_⟩
      · have hnone := hturns action ha
        rw [hblocked] at hnone
        cases hnone
      · cases ha
        exact hnext
      · dsimp only
        split <;> nofun

theorem charge_charged {action : RoamerAction} (h : Charged s) (hpulses : s.episode.pulses < maxPulses) :
    Charged { s with sequence := s.sequence + 1, episode := charge action s.episode } := by
  refine ⟨Nat.le_succ_of_le h.sent, hpulses, ?_⟩
  show s.episode.commandedMotionMs + pulseAccountingMs = pulseAccountingMs * (s.episode.pulses + 1)
  rw [h.motion, Nat.mul_succ]

theorem drive_run (hs : Live first s) (hr : Remembers s) (hpulses : s.episode.pulses < maxPulses) {action : RoamerAction}
    {reference : Nat} (hok : DriveOk s.log reference action)
    (hturn : action.IsTurn → s.episode.blockedEpisodeTurn = some action) (sessionId : String) :
    Triple (e.drive sessionId action reference) s (fun _ s' => Live first s' ∧ Remembers s') (fun _ => Over first) := by
  obtain ⟨hrun, hs₁, hfirst, hids⟩ := nextSequence_run hs
  refine Triple.step hrun (Triple.get_bind (Triple.modify_bind ?_))
  have hs₂ : Live first { s with sequence := s.sequence + 1, episode := charge action s.episode } :=
    ⟨⟨hs.proper, hs.opened, charge_charged hs.charged hpulses⟩, hs.unhalted, hs₁.numbered, hs.acknowledged⟩
  refine Triple.bind (send_run hs₂ ⟨nofun, ?_, ?_, fun _ => Nat.lt_succ_of_le hs.charged.sent⟩) fun fields s₃ h₃ => ?_
  · intro id hid
    cases hid
    exact ⟨hfirst, Nat.le_refl _, hids⟩
  · intro _ _ _ _ _ heq
    cases heq
    exact hok
  have hr₃ : Remembers s₃ := by
    obtain ⟨value, hlog⟩ := h₃.log
    obtain ⟨hturns, hisTurn, hnext⟩ := hr
    refine ⟨fun earlier he => ?_, by rw [h₃.episode]; exact hisTurn, by rw [h₃.episode]; exact hnext⟩
    rw [h₃.episode]
    rw [hlog] at he
    simp only [turnsSinceClear] at he
    split at he
    next hisTurn =>
      rcases List.mem_cons.mp he with rfl | he
      · exact hturn hisTurn
      · exact hturns earlier he
    next => exact hturns earlier he
  refine Triple.bind (observeStatus_run h₃.toLive fields true) ?_
  rintro observation _ ⟨hs₄, -, rfl⟩
  refine Triple.bind (accept_run hs₄.toOver) ?_
  rintro _ _ ⟨-, rfl⟩
  have hr₄ : Remembers { s₃ with log := .observed observation.1 observation.2.1 :: s₃.log } := by
    obtain ⟨hturns, hisTurn, hnext⟩ := hr₃
    refine ⟨fun earlier he => ?_, hisTurn, hnext⟩
    cases hobstacle : observation.2.1 with
    | clear =>
      rw [hobstacle] at he
      cases he
    | blocked =>
      rw [hobstacle] at he
      exact hturns earlier he
  refine quiet_bind (verifyHeartbeatGap_quiet e) hs₄ fun _ s₅ h₅ hs₅ => ?_
  refine Triple.bind (heartbeat_run hs₅ sessionId) fun _ s₆ h₆ => ?_
  refine Triple.frame (sleepPoll_quiet e) (fun _ s₇ h₇ => ?_) fun _ _ h₇ => (h₆.toLive.quiet h₇).toOver
  exact ⟨h₆.toLive.quiet h₇, ((hr₄.calm h₅.calm).calm h₆.toCalm).calm h₇.calm⟩

theorem act_run (hs : Live first s) (hr : Remembers s) (hpulses : s.episode.pulses < maxPulses) {obstacle : Obstacle}
    (hidle : IdleSince obstacle s.log) (sessionId : String) (startedAt : F) :
    Triple (e.act sessionId startedAt obstacle) s (fun _ s' => Live first s' ∧ Remembers s') (fun _ => Over first) := by
  refine Triple.get_bind ?_
  split
  · exact Triple.throw hs.toOver
  next action haction =>
    have hturn : action.IsTurn → s.episode.blockedEpisodeTurn = some action := by
      intro hisTurn
      cases obstacle with
      | clear =>
        cases haction
        exact absurd rfl hisTurn
      | blocked => exact haction
    have hchosen : action = .advance ↔ obstacle = .clear := by
      cases obstacle with
      | clear =>
        cases haction
        exact ⟨fun _ => rfl, fun _ => rfl⟩
      | blocked => exact ⟨fun h => absurd h (hr.isTurn action haction), nofun⟩
    refine Triple.bind (checkCancelled_run hs) fun _ s₁ h₁ => ?_
    refine Triple.bind (heartbeat_run (hs.quiet h₁) sessionId) fun _ s₂ h₂ => ?_
    have hcalm : Calm s s₂ := trans_of Calm h₁.calm h₂.toCalm
    refine quiet_bind (late_quiet e startedAt) h₂.toLive fun late s₃ h₃ hs₃ => ?_
    have hcalm : Calm s s₃ := trans_of Calm hcalm h₃.calm
    refine Triple.ite (fun _ => Triple.pure ⟨hs₃, hr.calm hcalm⟩) fun _ => Triple.get_bind ?_
    split
    · exact Triple.throw hs₃.toOver
    next reference href =>
      have hok : DriveOk s₃.log reference action := by
        obtain ⟨id, seconds, hack⟩ := h₂.beaten
        rw [← h₃.log] at hack
        have hid := (hs₃.acknowledged id seconds hack).1
        rw [href] at hid
        cases hid
        refine ⟨⟨obstacle, hcalm.idleSince hidle, hchosen⟩, ⟨seconds, hack⟩, fun hisTurn earlier he => ?_⟩
        rw [hcalm.turns] at he
        have hearlier := hr.turns earlier he
        rw [hturn hisTurn] at hearlier
        exact (Option.some.inj hearlier).symm
      refine Triple.bind (drive_run hs₃ (hr.calm hcalm) ?_ hok ?_ sessionId) fun _ s₄ h₄ => Triple.pure h₄
      · rw [hcalm.episode]
        exact hpulses
      · rw [hcalm.episode]
        exact hturn

theorem Remembers.congr (h : Remembers s) (hlog : s'.log = s.log) (hepisode : s'.episode = s.episode) : Remembers s' :=
  ⟨by rw [hlog, hepisode]; exact h.turns, by rw [hepisode]; exact h.isTurn, by rw [hepisode]; exact h.next⟩

theorem remember_pulses (obstacle : Obstacle) (episode : RoamerEpisode) :
    (remember obstacle episode).pulses = episode.pulses ∧
      (remember obstacle episode).commandedMotionMs = episode.commandedMotionMs := by
  unfold remember
  split <;> exact ⟨rfl, rfl⟩

theorem turn_run (hs : Live first s) (hr : Remembers s) (hpulses : s.episode.pulses < maxPulses) (sessionId : String)
    (startedAt : F) :
    Triple (e.turn sessionId startedAt) s (fun _ s' => Live first s' ∧ Remembers s') (fun _ => Over first) := by
  refine Triple.bind (observeArmed_run hs sessionId) ?_
  rintro ⟨mode, obstacle, reason⟩ s₁ ⟨hs₁, hmode, t, hcalm, rfl⟩
  refine quiet_bind (now_quiet e) hs₁ fun observedAt s₂ h₂ hs₂ => Triple.failIf (fun _ => hs₂.toOver) fun _ => Triple.modify_bind ?_
  have hepisode : s₂.episode = t.episode := h₂.episode
  have hlog : s₂.log = .observed mode obstacle :: t.log := h₂.log
  obtain ⟨hp, hm⟩ := remember_pulses obstacle { s₂.episode with observations := s₂.episode.observations + 1 }
  have hs₃ : Live first { s₂ with
      episode := remember obstacle { s₂.episode with observations := s₂.episode.observations + 1 } } := by
    refine ⟨⟨hs₂.proper, hs₂.opened, ?_⟩, hs₂.unhalted, hs₂.numbered, hs₂.acknowledged⟩
    exact ⟨hp ▸ hs₂.charged.sent, hp ▸ hs₂.charged.pulses, by rw [hm, hp]; exact hs₂.charged.motion⟩
  have hr₃ : Remembers { s₂ with
      episode := remember obstacle { s₂.episode with observations := s₂.episode.observations + 1 } } := by
    have hremembered : Remembers { t with
        episode := remember obstacle { t.episode with observations := t.episode.observations + 1 }
        log := .observed mode obstacle :: t.log } := remember_remembers (hr.calm hcalm) _
    refine hremembered.congr hlog ?_
    rw [hepisode]
  refine Triple.ite (fun _ => ?_) fun hidle => ?_
  · refine quiet_bind (sleepPoll_quiet e) hs₃ fun _ s₄ h₄ hs₄ => Triple.pure ⟨hs₄, hr₃.calm h₄.calm⟩
  · have harmed : mode = .armedIdle := by
      cases mode with
      | disarmed => exact absurd rfl hmode
      | armedIdle => rfl
      | running => exact absurd rfl hidle
    refine act_run hs₃ hr₃ ?_ ?_ sessionId startedAt
    · show (remember obstacle _).pulses < _
      rw [hp, hepisode, hcalm.episode]
      exact hpulses
    · show IdleSince obstacle s₂.log
      rw [hlog, harmed]
      exact .inl rfl

theorem spent_run (hs : Live first s) (startedAt : F) :
    Triple (e.spent startedAt) s (fun r s' => Quiet s s' ∧ (r = none → s'.episode.pulses < maxPulses))
      (fun _ => Over first) := by
  refine Triple.bind (checkCancelled_run hs) fun _ s₁ h₁ => ?_
  refine quiet_bind (late_quiet e startedAt) (hs.quiet h₁) fun late s₂ h₂ _ => ?_
  have hq : Quiet s s₂ := trans_of Quiet h₁ h₂
  refine Triple.ite (fun _ => Triple.pure ⟨hq, nofun⟩) fun _ => Triple.get_bind (Triple.ite (fun _ => Triple.pure ⟨hq, nofun⟩)
    fun hleft => Triple.ite (fun _ => Triple.pure ⟨hq, nofun⟩) fun _ => Triple.pure ⟨hq, fun _ => Nat.lt_of_not_le hleft⟩)

theorem loop_run (sessionId : String) (startedAt : F) (left : Nat) (hs : Live first s) (hr : Remembers s) :
    Settles (e.loop sessionId startedAt left) s (Over first) := by
  induction left generalizing s with
  | zero =>
    refine Triple.bind (spent_run hs startedAt) ?_
    rintro r s₁ ⟨h₁, -⟩
    exact Triple.pure (hs.quiet h₁).toOver
  | succ left ih =>
    refine Triple.bind (spent_run hs startedAt) ?_
    rintro (_ | termination) s₁ ⟨h₁, hpulses⟩
    · refine Triple.bind (turn_run (hs.quiet h₁) (hr.calm h₁.calm) (hpulses rfl) sessionId startedAt) ?_
      rintro (_ | termination) s₂ ⟨hs₂, hr₂⟩
      · exact ih hs₂ hr₂
      · exact Triple.pure hs₂.toOver
    · exact Triple.pure (hs.quiet h₁).toOver

theorem episode_run (s : RoamerState F σ) :
    Settles e.episode { s with episode := {}, log := [] } (Over s.sequence) := by
  have hs : Live s.sequence { s with episode := {}, log := [] } :=
    ⟨⟨trivial, List.not_mem_nil, ⟨Nat.zero_le _, Nat.zero_le _, rfl⟩⟩, id, ⟨Nat.le_refl _, fun _ h => absurd h List.not_mem_nil⟩, nofun⟩
  refine Triple.bind (arm_run hs rfl) ?_
  rintro ⟨sessionId, startedAt⟩ s₁ ⟨hs₁, hepisode, hturns⟩
  refine loop_run sessionId startedAt _ hs₁ ⟨?_, ?_, ?_⟩
  · rw [hturns]
    exact fun _ h => absurd h List.not_mem_nil
  · rw [hepisode]
    exact nofun
  · rw [hepisode]
    exact nofun

-- Cleanup

/-- The answer shows that nothing moves or may move, and that no session and no
command is left. -/
structure ProvesStop (answer : Json) : Prop where
  motion : Json.IsFalse (answer.get? "motion_allowed")
  session : Json.IsFalse (answer.get? "session_active")
  command : IsNull (answer.get? "active_command_id")

theorem cleanupResult_provesStop {answer : Json} (h : cleanupResultIsSafe F answer = true) : ProvesStop answer := by
  unfold cleanupResultIsSafe at h
  split at h
  · simp only [Bool.and_eq_true, decide_eq_true_eq] at h
    exact ⟨h.1.1.1, h.1.1.2, h.1.2⟩
  · cases h

theorem requestShutdown_run (e : PhysicalRoamer F σ) (s : RoamerState F σ) :
    (e.requestShutdown s).1.operation = "shutdown" ∧ (e.requestShutdown s).2.episode = s.episode ∧
      ∃ newer, (e.requestShutdown s).2.log = newer ++ .sent .shutdown :: s.log ∧ requests newer = [] ∧
        ((e.requestShutdown s).1.succeeded = true → ∃ answer, .answered answer ∈ newer ∧ ProvesStop answer) := by
  unfold requestShutdown
  split
  · exact ⟨rfl, rfl, [], rfl, rfl, nofun⟩
  next value world _ =>
    exact ⟨rfl, rfl, [.answered value], rfl, rfl, fun h => ⟨value, List.mem_singleton_self _, cleanupResult_provesStop h⟩⟩

theorem waitForExit_run (e : PhysicalRoamer F σ) (s : RoamerState F σ) :
    (e.waitForExit s).1.operation = "wait_closed" ∧ (e.waitForExit s).2.episode = s.episode ∧
      ∃ newer, (e.waitForExit s).2.log = newer ++ s.log ∧ requests newer = [] ∧
        ((e.waitForExit s).1.succeeded = true → .exited (some 0) ∈ newer) := by
  unfold waitForExit
  split
  · exact ⟨rfl, rfl, [], rfl, rfl, nofun⟩
  · split
    · exact ⟨rfl, rfl, [], rfl, rfl, nofun⟩
    next returnCode world _ =>
      refine ⟨rfl, rfl, [.exited returnCode], rfl, rfl, fun h => ?_⟩
      rw [of_decide_eq_true h]
      exact List.mem_singleton_self _

theorem closeSession_run (e : PhysicalRoamer F σ) (s : RoamerState F σ) :
    (e.closeSession s).2.episode = s.episode ∧ (e.closeSession s).2.log = s.log ∧
      ∀ outcome ∈ (e.closeSession s).1, outcome.operation = "close" := by
  unfold closeSession
  split
  · exact ⟨rfl, rfl, fun _ h => absurd h List.not_mem_nil⟩
  · refine ⟨rfl, rfl, fun outcome h => ?_⟩
    rw [List.mem_singleton.mp h]

theorem stoppedCleanly_cleanup {r : PhysicalRoamerResult} {shutdown exit : CleanupOutcome} {closed : List CleanupOutcome}
    (hr : r.cleanup = shutdown :: exit :: closed) (hs : shutdown.operation = "shutdown")
    (he : exit.operation = "wait_closed") (hc : ∀ outcome ∈ closed, outcome.operation = "close")
    (h : r.stoppedCleanly = true) : shutdown.succeeded = true ∧ exit.succeeded = true := by
  have hnone : ∀ operation, operation ≠ "close" → closed.filter (·.operation = operation) = [] := by
    intro operation hne
    refine List.filter_eq_nil_iff.mpr fun outcome ho => ?_
    simpa [hc outcome ho] using hne.symm
  simp only [PhysicalRoamerResult.stoppedCleanly, PhysicalRoamerResult.proved, hr, Bool.and_eq_true] at h
  simp [hs, he, hnone] at h
  exact ⟨h.1.1.2, h.2.1.2⟩

-- Runs

structure Orderly (first : Nat) (r : PhysicalRoamerResult) (log : Log F) : Prop where
  admissible : ∀ newer request older, log = newer ++ .sent request :: older → Admissible first older request
  /-- The one shutdown is the last request; a clean stop is proved by what came
  after it. -/
  shutdown : ∃ newer older, log = newer ++ .sent .shutdown :: older ∧ requests newer = [] ∧
    RoamerRequest.shutdown ∉ requests older ∧
    (r.stoppedCleanly = true → (∃ answer, .answered answer ∈ newer ∧ ProvesStop answer) ∧ .exited (some 0) ∈ newer)
  charged : drivesIn log ≤ r.pulses ∧ r.commandedMotionMs = pulseAccountingMs * r.pulses
  budget : r.pulses ≤ maxPulses ∧ r.commandedMotionMs ≤ maxCommandedMotionMs

/-- Whatever the session, the clock and the cancel event do, every run is
orderly. -/
theorem run_orderly (e : PhysicalRoamer F σ) (s : RoamerState F σ) :
    Orderly s.sequence (e.run s).1 (e.run s).2.log := by
  have hover : Over s.sequence (e.episode { s with episode := {}, log := [] }).2 := (episode_run s).after
  revert hover
  unfold run
  generalize e.episode { s with episode := {}, log := [] } = body
  intro hover
  obtain ⟨hop, hep, newer, hlog, hnone, hproved⟩ := requestShutdown_run e body.2
  obtain ⟨hop', hep', newer', hlog', hnone', hexit⟩ := waitForExit_run e (e.requestShutdown body.2).2
  obtain ⟨hep'', hlog'', hclose⟩ := closeSession_run e (e.waitForExit (e.requestShutdown body.2).2).2
  have hepisode : (e.cleanup body.2).2.episode = body.2.episode := hep''.trans (hep'.trans hep)
  have hfinal : (e.cleanup body.2).2.log = (newer' ++ newer) ++ .sent .shutdown :: body.2.log := by
    refine hlog''.trans ?_
    rw [hlog', hlog, List.append_assoc]
  have hquiet : requests (newer' ++ newer) = [] := by
    rw [requests, List.filterMap_append]
    exact congrArg₂ (· ++ ·) hnone' hnone
  have hshutdown : Admissible s.sequence body.2.log .shutdown :=
    ⟨hover.opened, fun h => absurd rfl h, nofun, nofun⟩
  have hproper : Proper s.sequence ((newer' ++ newer) ++ .sent .shutdown :: body.2.log) := by
    have hbase : Proper s.sequence (.sent .shutdown :: body.2.log) :=
      ⟨fun request h => by cases h; exact hshutdown, hover.proper⟩
    revert hquiet
    generalize newer' ++ newer = added
    intro hquiet
    induction added with
    | nil => exact hbase
    | cons event added ih =>
      have hevent : event.request? = none := by
        cases hrequest : event.request? with
        | none => rfl
        | some request => simp [requests, hrequest] at hquiet
      rw [requests_cons_other hevent] at hquiet
      exact (ih hquiet).cons_other hevent
  obtain ⟨hsent, hpulses, hmotion⟩ := hover.charged
  refine ⟨fun above request older heq => ?_, ⟨newer' ++ newer, body.2.log, hfinal, hquiet, hover.opened, fun hclean => ?_⟩, ⟨?_, ?_⟩, ?_, ?_⟩
  · rw [hfinal] at heq
    exact (heq ▸ hproper).admissible
  · obtain ⟨hstop, hcode⟩ := stoppedCleanly_cleanup rfl hop hop' hclose hclean
    obtain ⟨answer, hmem, hproves⟩ := hproved hstop
    exact ⟨⟨answer, List.mem_append_right _ hmem, hproves⟩, List.mem_append_left _ (hexit hcode)⟩
  · show drivesIn (e.cleanup body.2).2.log ≤ (e.cleanup body.2).2.episode.pulses
    rw [hepisode, hfinal, drivesIn, requests, List.filterMap_append]
    rw [requests] at hquiet
    rw [hquiet]
    exact hsent
  · show (e.cleanup body.2).2.episode.commandedMotionMs = _
    rw [hepisode]
    exact hmotion.trans (congrArg _ (congrArg RoamerEpisode.pulses hepisode).symm)
  · show (e.cleanup body.2).2.episode.pulses ≤ maxPulses
    rw [hepisode]
    exact hpulses
  · show (e.cleanup body.2).2.episode.commandedMotionMs ≤ maxCommandedMotionMs
    rw [hepisode, hmotion]
    simp only [pulseAccountingMs, maxPulses, maxCommandedMotionMs] at hpulses ⊢
    omega

end RobotLlm.Roamer
