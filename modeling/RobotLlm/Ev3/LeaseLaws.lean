import RobotLlm.Ev3.CallLaws

/-!
# An unarmed session expires

A session counts from its last heartbeat, or from its claim. A claim names the
session before it reads the clock for it: where that reading fails, the session
stays with nothing to count from, and no poll gives it up.
-/

namespace RobotLlm.Ev3

open RobotLlm.Lib Prog

namespace EV3Supervisor

variable {c : SupervisorConfig} {s s' : EV3Supervisor} {code detail event : String} {made : Option StopResult}

-- What a session counts from

def leaseReference (s : EV3Supervisor) : Option Int := s.lastHeartbeatMs.or s.claimedAtMs

def Leased (s : EV3Supervisor) : Prop := s.sessionId.isSome = true → s.leaseReference.isSome = true

/-- A step that leaves no session without a reference. -/
def Leases (s s' : EV3Supervisor) : Prop := s.Leased → s'.Leased

theorem Leased.of_session (h : s.Leased) (hs : s'.session = s.session) : s'.Leased := by
  have hid : s'.sessionId = s.sessionId := congrArg SessionRecord.sessionId hs
  have hbeat : s'.lastHeartbeatMs = s.lastHeartbeatMs := congrArg SessionRecord.lastHeartbeatMs hs
  have hclaim : s'.claimedAtMs = s.claimedAtMs := congrArg SessionRecord.claimedAtMs hs
  unfold Leased leaseReference
  rw [hid, hbeat, hclaim]
  exact h

theorem leased_of_none (h : s.sessionId = none) : s.Leased := fun hs => by simp [h] at hs

instance : IsPreorder EV3Supervisor Leases where
  refl _ h := h
  trans _ _ _ h h' hs := h' (h hs)

instance : Attendant Leases where
  owner _ _ _ h := h
  session _ _ _ hs h := hs.elim h.of_session fun hover => leased_of_none (congrArg SessionRecord.sessionId hover)
  consumes _ _ h := h
  beats _ _ _ _ _ := rfl
  remembers _ _ h := h

instance : Onlooker Leases where
  owner _ _ h := h
  session _ _ _ hs h := h.of_session hs

-- Readings of the clock

/-- The clock, as the environment would show it at a question to come. -/
def clockAfter (s : EV3Supervisor) (n : Nat) : Except PyError Int := (s.owner.hw.tape (s.owner.hw.calls + n)).clock

/-- The clock can be read then, and has not gone back. -/
def readsClock (s : EV3Supervisor) (n : Nat) : Bool :=
  match s.clockAfter n with
  | .ok now => s.lastPollMs.all (· ≤ now)
  | .error _ => false

def asked (s : EV3Supervisor) : EV3Supervisor := { s with owner := { s.owner with hw := s.owner.hw.answered } }

theorem clockAfter_asked (n : Nat) : s.asked.clockAfter n = s.clockAfter (n + 1) := by
  have hcalls : s.owner.hw.answered.calls = s.owner.hw.calls + 1 := by
    unfold Hardware.answered
    split <;> rfl
  have htape : s.owner.hw.answered.tape = s.owner.hw.tape := (Hardware.answered_read s.owner.hw).tape
  unfold clockAfter asked
  rw [hcalls, htape, Nat.add_assoc, Nat.add_comm 1 n]

theorem ask_run (f : Answer → Except PyError α) :
    Triple (io (Hardware.ask f)) s (fun a s' => f (s.owner.hw.tape s.owner.hw.calls) = .ok a ∧ s' = s.asked)
      (fun e s' => f (s.owner.hw.tape s.owner.hw.calls) = .error e ∧ s' = s.asked) := by
  have hrun : io (Hardware.ask f) s = (f (s.owner.hw.tape s.owner.hw.calls), s.asked) := rfl
  unfold Triple
  rw [hrun]
  cases hanswer : f (s.owner.hw.tape s.owner.hw.calls) <;> exact ⟨rfl, rfl⟩

theorem nowMs_run : Triple nowMs s (fun now s' => s.clockAfter 0 = .ok now ∧ s' = s.asked)
    (fun e s' => s.clockAfter 0 = .error e ∧ s' = s.asked) := ask_run Answer.clock

theorem checkedNowMs_run : Triple checkedNowMs s
    (fun now s' => s.clockAfter 0 = .ok now ∧ (∀ last ∈ s.lastPollMs, last ≤ now) ∧ s' = { s.asked with lastPollMs := some now })
    (fun _ s' => s.readsClock 0 = false ∧ s' = s.asked) := by
  refine Triple.bind (nowMs_run.mono (fun _ _ h => h) fun e _ h => ⟨by simp [readsClock, h.1], h.2⟩) ?_
  rintro now _ ⟨hclock, rfl⟩
  refine Triple.get_bind (Triple.failIf (fun hback => ⟨?_, rfl⟩) fun hon => Triple.modify_bind (Triple.pure ⟨hclock, ?_, rfl⟩))
  · obtain ⟨last, hlast, hlt⟩ := hback
    have hmem : s.lastPollMs = some last := hlast
    simp [readsClock, hclock, hmem, hlt]
  · intro last hlast
    by_contra hlt
    exact hon ⟨last, hlast, by omega⟩

-- Claims

/-- A claim that passes its checks, up to the session's name. -/
def claimable (s : EV3Supervisor) (ownerId : String) : Bool :=
  s.OnDispatchThread && s.state = .disarmed && s.sessionId = none && (validateIdentifier "owner_id" ownerId 64).isOk &&
    match (s.owner.hw.tape s.owner.hw.calls).text with
    | .ok sessionId => (validateIdentifier "session_id" sessionId 128).isOk
    | .error _ => false

/-- The clock serves a claim: once for its time, and once for its event. -/
def claimTimed (s : EV3Supervisor) : Bool := s.readsClock 1 && (s.clockAfter 2).isOk

theorem stopForFault_answers {E : PyError → EV3Supervisor → Prop} : Triple (stopForFault c made) s (fun _ _ => True) E := by
  cases made with
  | some stop => exact Triple.pure trivial
  | none => exact Triple.bind (Triple.attempt (P := fun _ _ => True) (Triple.unknown _ _)) fun _ _ _ => Triple.pure trivial

theorem emit_ends (hs : s.state = .disarmed) (hclock : (s.clockAfter 0).isOk = true) :
    Triple (emit c event) s (fun _ _ => True) (fun _ s' => s'.sessionId = none) := by
  refine Triple.modify_bind (Triple.bind (nowMs_run.mono (fun _ _ h => h) fun e s₁ h => ?_) ?_)
  · have herror : s.clockAfter 0 = .error e := h.1
    simp [herror, Except.isOk, Except.toBool] at hclock
  rintro now _ ⟨_, rfl⟩
  refine Triple.get_bind ?_
  split
  · trivial
  · refine Triple.get_bind (Triple.ite (fun hout => ?_) fun _ => ?_)
    · rcases hout with hout | hout <;> exact absurd (hs.symm.trans hout) (by decide)
    have hfault : Triple (enterFaultSilently c "audit_failure" "Audit sink failed: Audit buffer is full" none)
        ({ s with eventSequence := s.eventSequence + 1 } : EV3Supervisor).asked (fun _ s' => s'.sessionId = none)
        (fun _ s' => s'.sessionId = none) := by
      refine Triple.get_bind (Triple.ite (fun hlatched => absurd (hs.symm.trans hlatched) (by decide)) fun _ => ?_)
      exact Triple.bind stopForFault_answers fun stop s₁ _ => Triple.modify rfl
    exact Triple.bind hfault fun _ _ h => Triple.throw h

/-- What a claim leaves that raised: no session, or the one that was there. -/
def Unclaimed (s s' : EV3Supervisor) : Prop := s'.Leased ∧ (s'.sessionId = none ∨ s'.sessionId = s.sessionId)

theorem claim_leases (hl : s.Leased) (ownerId : String) (htimed : s.claimable ownerId = true → s.claimTimed = true) :
    Triple (claim c ownerId) s (fun _ s' => s'.Leased) (fun _ s' => s.Unclaimed s') := by
  have hself : s.Unclaimed s := ⟨hl, .inr rfl⟩
  refine Triple.bind (requireDispatchThread_run.mono (fun _ _ h => h) fun _ _ h => h ▸ hself) ?_
  rintro _ s ⟨rfl, hthread⟩
  refine Triple.bind ((requireState_run _).mono (fun _ _ h => h) fun _ _ h => h ▸ hself) ?_
  rintro _ s ⟨rfl, hs⟩
  replace hs : s.state = .disarmed := List.mem_singleton.mp hs
  refine Triple.get_bind (Triple.failIf (fun _ => hself) fun hfree => ?_)
  refine Triple.ofExcept_bind (fun _ _ => hself) fun _ howner => ?_
  have hasked {s : EV3Supervisor} (hl : s.Leased) : s.Unclaimed s.asked := ⟨hl.of_session rfl, .inr rfl⟩
  refine Triple.bind ((ask_run Answer.text).mono (fun _ _ h => h) fun _ _ h => h.2 ▸ hasked hl) ?_
  rintro sessionId _ ⟨htext, rfl⟩
  refine Triple.ofExcept_bind (fun _ _ => hasked hl) fun _ hid => Triple.modify_bind ?_
  have hclaimable : s.claimable ownerId = true := by
    simp [claimable, hthread, hs, not_not.mp hfree, howner, htext, hid, Except.isOk, Except.toBool]
  have hclock := htimed hclaimable
  simp only [claimTimed, Bool.and_eq_true] at hclock
  let named : EV3Supervisor := { s.asked with
    ownerId := some ownerId, sessionId := some sessionId, lastSequenceId := 0, lastHeartbeatMs := none
    lastHeartbeatSequence := none }
  have hnamed (n : Nat) : named.clockAfter n = s.clockAfter (n + 1) := clockAfter_asked n
  refine Triple.bind (checkedNowMs_run.mono (fun _ _ h => h) fun e s₂ h => ?_) ?_
  · have hreads : named.readsClock 0 = s.readsClock 1 := by
      unfold readsClock
      rw [hnamed]
      rfl
    exact absurd h.1 (by rw [hreads, hclock.1]; decide)
  rintro now _ ⟨_, _, rfl⟩
  refine Triple.modify_bind ?_
  let timed : EV3Supervisor := { named.asked with lastPollMs := some now, claimedAtMs := some now, seenCommandIds := [] }
  have hleased : timed.Leased := fun _ => rfl
  have hevent : (timed.clockAfter 0).isOk = true := by
    have hlater : timed.clockAfter 0 = s.clockAfter 2 := (clockAfter_asked (s := named) 0).trans (hnamed 1)
    rw [hlater, hclock.2]
  refine Triple.bind (Q := fun _ s' => s'.Leased) ?_ fun _ _ h => Triple.pure h
  refine (((emit_rests (K := Leases) (c := c)).triple timed).and (emit_ends (s := timed) hs hevent)).mono (fun _ _ h => h.1 hleased) ?_
  exact fun _ _ h => ⟨h.1 hleased, .inl h.2⟩

-- Polls

/-- The session and the state as before, and the clock has not gone back. -/
structure Onward (s s' : EV3Supervisor) : Prop where
  session : s'.session = s.session
  state : s'.state = s.state
  clock : ∀ last ∈ s.lastPollMs, ∃ now ∈ s'.lastPollMs, last ≤ now

instance : IsPreorder EV3Supervisor Onward where
  refl _ := ⟨rfl, rfl, fun last h => ⟨last, h, le_refl last⟩⟩
  trans _ _ _ h h' := by
    refine ⟨h'.session.trans h.session, h'.state.trans h.state, fun last hlast => ?_⟩
    obtain ⟨middle, hmiddle, hle⟩ := h.clock last hlast
    obtain ⟨now, hnow, hle'⟩ := h'.clock middle hmiddle
    exact ⟨now, hnow, hle.trans hle'⟩

theorem onOwner_onward (x : MotorOwner.Own α) : Keeps Onward (onOwner x) := fun _ =>
  ⟨rfl, rfl, fun last h => ⟨last, h, le_refl last⟩⟩

theorem modify_onward {f : EV3Supervisor → EV3Supervisor} (hs : ∀ s, (f s).session = s.session) (ht : ∀ s, (f s).state = s.state)
    (hc : ∀ s, (f s).lastPollMs = s.lastPollMs) : Keeps Onward (modify f : Sup Unit) :=
  .modify fun s => ⟨hs s, ht s, fun last h => ⟨last, (hc s).symm ▸ h, le_refl last⟩⟩

theorem checkedNowMs_onward : Keeps Onward checkedNowMs := by
  intro s
  have hrun : Settles checkedNowMs s s.Onward := by
    refine checkedNowMs_run.mono ?_ ?_
    · rintro now _ ⟨-, hlate, rfl⟩
      exact ⟨rfl, rfl, fun last hlast => ⟨now, rfl, hlate last hlast⟩⟩
    · rintro e _ ⟨-, rfl⟩
      exact ⟨rfl, rfl, fun last h => ⟨last, h, le_refl last⟩⟩
  exact hrun.after

theorem readTouch_onward : Keeps Onward readTouch :=
  .bind (onOwner_onward _) fun _ => .bind (.failIf _ _) fun _ =>
    .bind (modify_onward (fun _ => rfl) (fun _ => rfl) fun _ => rfl) fun _ => .bind (onOwner_onward _) fun _ => .pure _

theorem readInfrared_onward : Keeps Onward (readInfrared c) :=
  .bind checkedNowMs_onward fun _ =>
    .bind (.tryCatch (onOwner_onward _) fun _ =>
        .bind (modify_onward (fun _ => rfl) (fun _ => rfl) fun _ => rfl) fun _ => .throw _) fun _ =>
      .bind .get fun _ => .bind (modify_onward (fun _ => rfl) (fun _ => rfl) fun _ => rfl) fun _ => .ofExcept _

theorem checkIdleMotors_onward : Keeps Onward checkIdleMotors := .bind (onOwner_onward _) fun _ => .ofExcept _

structure Due (c : SupervisorConfig) (now : Int) (s : EV3Supervisor) : Prop where
  state : s.state = .disarmed
  session : s.sessionId.isSome = true
  elapsed : ∃ reference ∈ s.leaseReference, reference + c.limits.heartbeatTimeoutMs ≤ now

theorem Due.onward {now : Int} (h : s.Due c now) (ho : s.Onward s') : s'.Due c now := by
  have hid : s'.sessionId = s.sessionId := congrArg SessionRecord.sessionId ho.session
  have hbeat : s'.lastHeartbeatMs = s.lastHeartbeatMs := congrArg SessionRecord.lastHeartbeatMs ho.session
  have hclaim : s'.claimedAtMs = s.claimedAtMs := congrArg SessionRecord.claimedAtMs ho.session
  refine ⟨ho.state.trans h.state, hid ▸ h.session, ?_⟩
  unfold leaseReference
  rw [hbeat, hclaim]
  exact h.elapsed

theorem Due.expired {now now' : Int} (h : s.Due c now) (hle : now ≤ now') : s.leaseExpired c now' = true := by
  obtain ⟨reference, hreference, hover⟩ := h.elapsed
  have hr : s.lastHeartbeatMs.or s.claimedAtMs = some reference := hreference
  simp only [leaseExpired, h.state, h.session, hr, decide_true, Bool.true_and, decide_eq_true_eq]
  omega

theorem emit_unclaimed (hs : s.sessionId = none) : Settles (emit c event) s fun s' => s'.sessionId = none := by
  have hrests : Keeps Rests (emit c event) := emit_rests
  have hnone {s'} (h : s.Rests s') : s'.sessionId = none :=
    h.memory.elim (fun hm => (congrArg Memory.sessionId hm).trans hs) (congrArg Memory.sessionId)
  exact (hrests.triple s).mono (fun _ _ h => hnone h) fun _ _ h => hnone h

theorem pollIdle_expires {now : Int} (h : s.Due c now) (hnow : ∃ last ∈ s.lastPollMs, now ≤ last) :
    Triple (pollIdle c) s (fun _ s' => s'.sessionId = none) (fun _ _ => True) := by
  refine Triple.frame_bind checkIdleMotors_onward (fun _ _ _ => trivial) fun _ s₁ h₁ => ?_
  refine Triple.bind (checkedNowMs_run.mono (fun _ _ h => h) fun _ _ _ => trivial) ?_
  rintro later _ ⟨-, hlate, rfl⟩
  obtain ⟨last, hlast, hle⟩ := hnow
  obtain ⟨last', hlast', hle'⟩ := h₁.clock last hlast
  have hdue : ({ s₁.asked with lastPollMs := some later } : EV3Supervisor).Due c now :=
    ⟨(h.onward h₁).state, (h.onward h₁).session, (h.onward h₁).elapsed⟩
  have hexpired := hdue.expired ((hle.trans hle').trans (hlate last' hlast'))
  refine Triple.get_bind (Triple.failIf (fun _ => trivial) fun _ => Triple.failIf (fun _ => trivial) fun _ => Triple.get_bind ?_)
  refine Triple.ite (fun _ => Triple.modify_bind ?_) fun hn => absurd hexpired hn
  exact (emit_unclaimed rfl).mono (fun _ _ h => h) fun _ _ _ => trivial

theorem pollUnfaulted_expires {now : Int} (h : s.Due c now) (hnow : s.clockAfter 0 = .ok now) :
    Triple (pollUnfaulted c) s (fun _ s' => s'.sessionId = none) (fun _ _ => True) := by
  have hsensors : Triple (pollSensors c) s (fun _ s' => s'.Due c now ∧ ∃ last ∈ s'.lastPollMs, now ≤ last) (fun _ _ => True) := by
    refine Triple.bind (checkedNowMs_run.mono (fun _ _ h => h) fun _ _ _ => trivial) ?_
    rintro first _ ⟨hfirst, -, rfl⟩
    obtain rfl : now = first := Except.ok.inj (hnow.symm.trans hfirst)
    have hdue : ({ s.asked with lastPollMs := some now } : EV3Supervisor).Due c now := ⟨h.state, h.session, h.elapsed⟩
    have hrest : Keeps Onward (do readTouch; readInfrared c; let _ ← checkedNowMs; return () : Sup Unit) :=
      .bind readTouch_onward fun _ => .bind readInfrared_onward fun _ => .bind checkedNowMs_onward fun _ => .pure _
    exact Triple.frame hrest (fun _ _ ho => ⟨hdue.onward ho, ho.clock now rfl⟩) fun _ _ _ => trivial
  refine Triple.bind hsensors ?_
  rintro _ s₁ ⟨hdue, hlast⟩
  refine Triple.get_bind ?_
  simp only [hdue.state]
  exact Triple.bind (pollIdle_expires hdue hlast) fun _ _ h => Triple.pure h

theorem pollOnce_expires {now : Int} (hc : Consistent False s) (h : s.Due c now) (hnow : s.clockAfter 0 = .ok now) :
    Triple (pollOnce c) s (fun _ s' => s'.state ≠ .faultLatched → s'.sessionId = none) (fun _ _ => True) := by
  refine Triple.bind (requireDispatchThread_run.mono (fun _ _ h => h) fun _ _ _ => trivial) ?_
  rintro _ s ⟨rfl, -⟩
  refine Triple.get_bind (Triple.failIf (fun _ => trivial) fun hopen => ?_)
  refine Triple.ite (fun hs => absurd (h.state.symm.trans hs) (by decide)) fun _ => ?_
  have ha : Alive False s := ⟨hc, by simpa using hopen⟩
  have htry : Triple (tryCatch (pollUnfaulted c) (pollFailed c)) s
      (fun _ s' => s'.state ≠ .faultLatched → s'.sessionId = none) (fun _ _ => True) := by
    refine Triple.tryCatch (((pollUnfaulted_run ha False.elim).and (pollUnfaulted_expires h hnow)).mono
      (fun _ _ h _ => h.2) fun _ _ h => h.1) fun e s₁ hr => ?_
    refine Triple.ite (fun _ => ?_) fun _ => trivial
    refine Triple.bind ((enterFault_run hr.ready (.inl rfl)).mono (fun _ _ h => h) fun _ _ _ => trivial) fun _ s₂ hf => ?_
    obtain ⟨code, hl⟩ := hf
    exact Triple.pure fun hn => absurd hl.state hn
  refine Triple.bind htry fun answer s₁ h₁ => ?_
  cases answer with
  | some answer => exact Triple.pure h₁
  | none =>
    refine Triple.frame status_same (fun _ s₂ h₂ hn => ?_) fun _ _ _ => trivial
    rw [h₂.sessionId]
    exact h₁ (h₂.state ▸ hn)

-- Runs

/-- A claim that passes its checks finds a clock that serves it. -/
def Timed (s : EV3Supervisor) : SupervisorCall → Prop
  | .claim ownerId => s.claimable ownerId = true → s.claimTimed = true
  | _ => True

instance (s : EV3Supervisor) : (call : SupervisorCall) → Decidable (Timed s call)
  | .claim ownerId => inferInstanceAs (Decidable (s.claimable ownerId = true → s.claimTimed = true))
  | .heartbeat _ _ | .arm _ _ | .startDrive _ _ | .stop | .release _ _ | .resetFault | .pollOnce | .close
  | .drainAuditEvents => .isTrue trivial

theorem perform_leases (hl : s.Leased) (call : SupervisorCall) (htimed : s.Timed call) :
    Settles (perform c call) s Leased := by
  have hkeeps {call : SupervisorCall} (hx : Keeps Leases (perform c call)) : Settles (perform c call) s Leased :=
    (hx.triple s).mono (fun _ _ h => h hl) fun _ _ h => h hl
  cases call with
  | claim ownerId => exact (claim_leases hl ownerId htimed).mono (fun _ _ h => h) fun _ _ h => h.1
  | startDrive command guard => exact hkeeps (startDrive_attends command guard (startMotion_minds command guard))
  | _ => exact hkeeps (perform_attends trivial)

/-- What is promised of the sessions of a state, and of the calls made in it. -/
structure Expiring (c : SupervisorConfig) (s : EV3Supervisor) : Prop where
  /-- An unarmed session counts from something. -/
  referenced : s.state = .disarmed → s.sessionId ≠ none → s.leaseReference ≠ none
  /-- A poll from the end of its time on gives it up, unless there is a fault. -/
  expires : s.state = .disarmed → s.sessionId ≠ none → ∀ reference ∈ s.leaseReference, ∀ now, s.clockAfter 0 = .ok now →
    reference + c.limits.heartbeatTimeoutMs ≤ now → ∀ status s', pollOnce c s = (.ok status, s') →
      s'.state ≠ .faultLatched → s'.sessionId = none
  /-- A claim that raises leaves no session of its own. -/
  claims : ∀ ownerId, s.Timed (.claim ownerId) → ∀ e s', claim c ownerId s = (.error e, s') →
    s'.sessionId = none ∨ s'.sessionId = s.sessionId

theorem booting_leased (hw : Hardware) (maximumEvents : Nat) : (booting hw maximumEvents).Leased := leased_of_none rfl

/-- In every run of a supervisor that booted, where the clock serves the claims. -/
theorem sessions_expire {hw : Hardware} {maximumEvents : Nat} {s₀ : EV3Supervisor} {h : List (SupervisorCall × Except PyError Reply)}
    (hb : boot c (booting hw maximumEvents) = (.ok (), s₀)) (hr : (ev3Supervisor c).Runs Timed s₀ h s) : s.Expiring c := by
  have hbooted : Leases (booting hw maximumEvents) s₀ := (boot_rests.triple _).ok hb
  have hl : s.Leased :=
    hr.invariant (hbooted (booting_leased hw maximumEvents)) fun _ call hl htimed => (perform_leases hl call htimed).after
  have hc : Consistent False s :=
    runs_consistent (fun _ _ _ => False.elim) ((boot_run (booting_consistent hw maximumEvents) rfl).ok hb) hr
  refine ⟨fun _ hid => ?_, fun hs hid reference hreference now hnow hover status s' hpoll => ?_, fun ownerId htimed e s' hclaim => ?_⟩
  · exact Option.isSome_iff_ne_none.mp (hl (Option.isSome_iff_ne_none.mpr hid))
  · have hdue : s.Due c now := ⟨hs, Option.isSome_iff_ne_none.mpr hid, reference, hreference, hover⟩
    exact (pollOnce_expires hc hdue hnow).ok hpoll
  · exact ((claim_leases hl ownerId htimed).error hclaim).2

/-- A robot that was polled at 100 ms and claimed when the clock shows the given
time. -/
def claimHardware (clock : Int) : Hardware :=
  answering (bootAnswers ++ List.replicate 17 (quiet 100) ++ [named 100 "session"]) clock

/-- The session counts from the claim, and is given up 500 ms later. -/
theorem sessions_expire_sample :
    ((ev3Supervisor ev3rstorm).runList (booted (claimHardware 100)) [.pollOnce, .claim "owner"]).2.leaseReference = some 100 ∧
      Expiring ev3rstorm ((ev3Supervisor ev3rstorm).runList (booted (claimHardware 100)) [.pollOnce, .claim "owner"]).2 :=
  ⟨by decide +kernel, sessions_expire (Prod.ext (by decide +kernel) rfl) (Machine.runs_runList (by decide +kernel))⟩

/-- The clock went back: the claim raises, and its session counts from nothing. -/
theorem claim_without_reference :
    ¬ ∀ (c : SupervisorConfig) (hw : Hardware) (maximumEvents : Nat) (s₀ s : EV3Supervisor)
      (h : List (SupervisorCall × Except PyError Reply)),
      boot c (booting hw maximumEvents) = (.ok (), s₀) → (ev3Supervisor c).Runs Machine.always s₀ h s → s.Expiring c := by
  intro hall
  have hs := hall ev3rstorm (claimHardware 50) 512 (booted (claimHardware 50)) _ _ (Prod.ext (by decide +kernel) rfl)
    (Machine.runs_runList (Machine.stepsOk_always _ _ [.pollOnce, .claim "owner"]))
  exact hs.referenced (by decide +kernel) (by decide +kernel) (by decide +kernel)

end EV3Supervisor

end RobotLlm.Ev3
