import Std.Data.String.ToNat
import RobotLlm.Transport.Session

/-!
# What a session writes and what it returns

The request lock keeps requests apart and their numbers fresh, and the decoder
keeps answers apart. A failure is seen at the moment a request begins; one that
is recorded between that moment and the write comes too late to stop it.
-/

namespace RobotLlm.Transport

open RobotLlm.Lib

-- What a place stands for

/-- The thread is inside `with self._request_lock`. -/
@[simp] def Place.holdsLock : Place → Bool
  | .secondCheck _ | .check _ | .number _ | .beginCheck _ _ | .begin _ _ | .refused _ | .write _ _ | .await _ _
  | .settle _ _ _ _ | .endInflight _ _ _ | .finish _ _ | .unlock _ | .closePoisoned | .closePoll _ | .closeStdin
  | .closeProcess | .closeStreams | .closeUnlock | .waitProcess | .waitUnlock => true
  | .poison _ next | .setFailed _ next | .closeInput next => next.holdsLock
  | _ => false

/-- The request the thread has begun and not ended. -/
@[simp] def Place.inFlight : Place → Option String
  | .write _ requestId | .await _ requestId | .settle _ requestId _ _ | .endInflight _ requestId _ => some requestId
  | .poison _ next | .setFailed _ next | .closeInput next => next.inFlight
  | _ => none

/-- The thread is the one that closes the session. -/
@[simp] def Place.closes : Place → Bool
  | .closeLock | .closePoisoned | .closePoll _ | .closeStdin | .closeProcess | .closeStreams | .closeUnlock
  | .closeFinal => true
  | .check task | .number task | .beginCheck task _ | .begin task _ | .refused task | .write task _ | .await task _
  | .settle task _ _ _ | .endInflight task _ _ | .finish task _ => task.allowClosing
  | .poison _ next | .setFailed _ next | .closeInput next => next.closes
  | _ => false

/-- The request the thread has numbered and not written. -/
@[simp] def Place.unwritten : Place → Option String
  | .beginCheck _ requestId | .begin _ requestId | .write _ requestId => some requestId
  | .poison _ next | .setFailed _ next | .closeInput next => next.unwritten
  | _ => none

/-- The request the thread has written and wants an answer to. -/
@[simp] def Place.asked : Place → Option String
  | .await _ requestId | .settle _ requestId _ _ | .endInflight _ _ (.result requestId _ _)
  | .finish _ (.result requestId _ _) | .unlock (.result requestId _ _) => some requestId
  | .poison _ next | .setFailed _ next | .closeInput next => next.asked
  | _ => none

/-- The answer the thread has taken from the queue, and to which request. -/
@[simp] def Place.answer : Place → Option (String × RawFrame × ResponseBody)
  | .settle _ requestId raw body => some (requestId, raw, body)
  | .endInflight _ _ (.result requestId raw fields) | .finish _ (.result requestId raw fields)
  | .unlock (.result requestId raw fields) => some (requestId, raw, .result fields)
  | .poison _ next | .setFailed _ next | .closeInput next => next.answer
  | _ => none

/-- All that is left is to set the lifecycle to closed. -/
@[simp] def Place.final : Place → Bool
  | .closeFinal => true
  | .poison _ next | .setFailed _ next | .closeInput next => next.final
  | _ => false

def PumpNext.frame : PumpNext → Option RawFrame
  | .line raw => some raw
  | .mark (.line raw) => some raw
  | _ => none

def PumpPc.frame : PumpPc → Option RawFrame
  | .onLine raw => some raw
  | .failing _ next | .setFailed _ next | .closeInput next | .put next => next.frame
  | _ => none

def Session.Failed (s : Session) : Prop := s.poisonInfo ≠ none ∨ s.receiveFailure ≠ none

-- What a step can do

/-- The books of the requests stay, and what went wrong stays wrong. -/
structure Onward (s t : Session) : Prop where
  callers : t.callers = s.callers
  requestLock : t.requestLock = s.requestLock
  inflight : t.inflightRequestId = s.inflightRequestId
  requestNumber : t.requestNumber = s.requestNumber
  closeStarted : t.closeStarted = s.closeStarted
  opened : t.lifecycle = .opened → s.lifecycle = .opened
  closed : t.lifecycle = .closed ↔ s.lifecycle = .closed
  failed : s.Failed → t.Failed

/-- A thread goes on to a place that stands for no more than the one before. -/
structure Place.Follows (p q : Place) : Prop where
  holdsLock : p.holdsLock = q.holdsLock
  inFlight : p.inFlight = q.inFlight
  closes : p.closes = true → q.closes = true
  unwritten : ∀ requestId ∈ p.unwritten, requestId ∈ q.unwritten
  asked : ∀ requestId ∈ p.asked, requestId ∈ q.asked
  answer : ∀ a ∈ p.answer, a ∈ q.answer
  final : p.final = true → q.final = true

structure Place.Clear (p : Place) : Prop where
  inFlight : p.inFlight = none
  unwritten : p.unwritten = none
  asked : p.asked = none
  answer : p.answer = none

def SessionEvent.Silent : SessionEvent → Prop
  | .quiet | .returned .raised => True
  | _ => False

/-- One step of a caller, by what it does to the session. -/
inductive Moves (cfg : SessionConfig) (c : Nat) (s : Session) : SessionEvent → Session → Prop
  | stay : Moves cfg c s .quiet s
  | walk : e.Silent → Onward s t → t.responses ⊆ s.responses → t.pump = s.pump → p.Follows (s.callers c) →
      Moves cfg c s e (t.moveTo c p)
  | acquire : s.requestLock = none → (s.callers c).holdsLock = false → (s.callers c).inFlight = none →
      p.Clear → p.holdsLock = true → (p.closes = true → (s.callers c).closes = true) → p.final = false →
      Moves cfg c s .quiet ({ s with requestLock := some c }.moveTo c p)
  | release : (s.callers c).holdsLock = true → (s.callers c).inFlight = none → p.Clear → p.holdsLock = false →
      (p.closes = true → (s.callers c).closes = true) →
      (∀ requestId raw fields, e = .returned (.result requestId raw fields) →
        (s.callers c).answer = some (requestId, raw, .result fields) ∧ (s.callers c).asked = some requestId) →
      (∀ requestId, e ≠ .written requestId) →
      Moves cfg c s e ({ s with requestLock := none }.moveTo c p)
  | number : s.callers c = .number task → p.holdsLock = true → p.inFlight = none →
      (p.closes = true → task.allowClosing = true) →
      (∀ requestId ∈ p.unwritten, requestId = cfg.requestId (s.requestNumber + 1)) →
      p.asked = none → p.answer = none → p.final = false →
      Moves cfg c s .quiet ({ s with requestNumber := s.requestNumber + 1 }.moveTo c p)
  | begins : s.callers c = .begin task requestId → s.MayBegin task.allowClosing →
      Moves cfg c s .quiet
        ({ s with inflightRequestId := some requestId, inflightResponseLines := 0 }.moveTo c (.write task requestId))
  | writes : s.callers c = .write task requestId →
      p = .await task requestId ∨ (∃ info, p = .poison info (.endInflight task requestId .raised)) →
      Moves cfg c s (.written requestId) (s.moveTo c p)
  | takes : s.callers c = .await task requestId → .line raw ∈ s.responses →
      decodeResponse raw requestId cfg.controllerId = .ok body → responses ⊆ s.responses →
      Moves cfg c s .quiet ({ s with responses := responses }.moveTo c (.settle task requestId raw body))
  | ends : s.callers c = .endInflight task requestId outcome → s.inflightRequestId = some requestId →
      Moves cfg c s .quiet
        ({ s with inflightRequestId := none, inflightResponseLines := 0 }.moveTo c (.finish task outcome))
  | starts : s.callers c = .closeEnter → s.lifecycle ≠ .closed → s.closeStarted = false →
      Moves cfg c s .quiet ({ s with closeStarted := true }.startClosing.moveTo c .closeLock)
  | closes : s.callers c = .closeFinal → Moves cfg c s .quiet ({ s with lifecycle := .closed }.moveTo c .closeNotify)

section
variable {cfg : SessionConfig} {c : Nat} {s t : Session} {e : SessionEvent} {p q : Place}

theorem Onward.refl (s : Session) : Onward s s := ⟨rfl, rfl, rfl, rfl, rfl, id, Iff.rfl, id⟩

theorem Onward.startClosing (s : Session) : Onward s s.startClosing where
  callers := rfl
  requestLock := rfl
  inflight := rfl
  requestNumber := rfl
  closeStarted := rfl
  opened h := by
    unfold Session.startClosing at h
    split at h
    · assumption
    · exact h
  closed := by
    unfold Session.startClosing
    dsimp only
    split <;> simp_all
  failed := id

theorem Onward.recordReceiveFailure (s : Session) (message : String) :
    Onward s (s.recordReceiveFailure message).2 := by
  unfold Session.recordReceiveFailure
  dsimp only
  split
  · rename_i h
    exact ⟨rfl, rfl, rfl, rfl, rfl, nofun, by simp [h.2.1], fun _ => .inl (by simp)⟩
  · refine ⟨rfl, rfl, rfl, rfl, rfl, id, Iff.rfl, Or.imp_right fun h => ?_⟩
    cases hr : s.receiveFailure <;> simp_all

theorem Onward.recordPoison (s : Session) (info : PoisonInfo) : Onward s (s.recordPoison info).2 := by
  unfold Session.recordPoison
  split
  · refine ⟨rfl, rfl, rfl, rfl, rfl, fun h => ?_, ?_, fun _ => .inl (by simp)⟩
    · dsimp only at h
      split at h <;> cases h
    · dsimp only
      split <;> simp_all
  · exact .refl s

theorem Onward.trans {u : Session} (h : Onward s t) (k : Onward t u) : Onward s u where
  callers := k.callers.trans h.callers
  requestLock := k.requestLock.trans h.requestLock
  inflight := k.inflight.trans h.inflight
  requestNumber := k.requestNumber.trans h.requestNumber
  closeStarted := k.closeStarted.trans h.closeStarted
  opened := h.opened ∘ k.opened
  closed := k.closed.trans h.closed
  failed := k.failed ∘ h.failed

theorem Place.Follows.refl (p : Place) : p.Follows p := ⟨rfl, rfl, id, fun _ => id, fun _ => id, fun _ => id, id⟩

theorem Moves.step (hp : p.Follows (s.callers c)) : Moves cfg c s .quiet (s.moveTo c p) :=
  .walk trivial (.refl s) (fun _ => id) rfl hp

theorem Session.Gate.lead_follows {g : Session.Gate} {onward raised : Place} (ho : onward.Follows q) (hr : raised.Follows q) :
    (g.lead onward raised).Follows q := by
  cases g with
  | pass => exact ho
  | raise => exact hr
  | poison message => exact ⟨hr.holdsLock, hr.inFlight, hr.closes, hr.unwritten, hr.asked, hr.answer, hr.final⟩

theorem callerStep_moves (hi : ∀ requestId, (s.callers c).inFlight = some requestId → s.inflightRequestId = some requestId)
    (r : CallerReading) : Moves cfg c s (callerStep cfg c r s).1 (callerStep cfg c r s).2 := by
  unfold callerStep
  cases hp : s.callers c with
  | idle =>
    refine .step ?_
    rw [hp]
    cases r.call <;> constructor <;> simp
  | firstCheck operation valid =>
    refine .step ?_
    rw [hp]
    refine Session.Gate.lead_follows ?_ ?_
    · split <;> constructor <;> simp
    · constructor <;> simp
  | lock operation =>
    dsimp only
    split
    · rename_i hfree
      refine .acquire hfree (by simp [hp]) (by simp [hp]) ?_ (by simp) (by simp) rfl
      constructor <;> simp
    · exact .stay
  | secondCheck operation =>
    refine .step ?_
    rw [hp]
    refine Session.Gate.lead_follows ?_ ?_ <;> constructor <;> simp [Task.allowClosing]
  | check task =>
    refine .step ?_
    rw [hp]
    refine Session.Gate.lead_follows ?_ ?_ <;> constructor <;> simp
  | number task =>
    dsimp only
    cases r.wire with
    | none => refine .number hp ?_ ?_ ?_ ?_ ?_ ?_ ?_ <;> simp
    | some bytes =>
      dsimp only
      split <;> refine .number hp ?_ ?_ ?_ ?_ ?_ ?_ ?_ <;> simp
  | beginCheck task requestId =>
    refine .step ?_
    rw [hp]
    refine Session.Gate.lead_follows ?_ ?_ <;> constructor <;> simp
  | «begin» task requestId =>
    dsimp only
    split
    · exact .begins hp ‹_›
    · refine .step ?_
      rw [hp]
      constructor <;> simp
  | refused task =>
    refine .step ?_
    rw [hp]
    refine Session.Gate.lead_follows ?_ ?_ <;> constructor <;> simp
  | write task requestId =>
    have hunknown : Place.Follows (.poison ⟨"Supervisor request write outcome is unknown", some requestId, true⟩
        (.endInflight task requestId .raised)) (s.callers c) := by
      rw [hp]
      constructor <;> simp
    dsimp only
    split
    · exact .step hunknown
    · cases r.written with
      | complete => exact .writes hp (.inl rfl)
      | partly => exact .writes hp (.inr ⟨_, rfl⟩)
      | refused => exact .step hunknown
  | await task requestId =>
    have hunknown (message : String) : Place.Follows
        (.poison ⟨message, some requestId, true⟩ (.endInflight task requestId .raised)) (s.callers c) := by
      rw [hp]
      constructor <;> simp
    dsimp only
    cases hq : s.responses with
    | nil =>
      dsimp only
      split
      · exact .step (hunknown _)
      · exact .stay
    | cons item responses =>
      have hsub : responses ⊆ s.responses := by
        rw [hq]
        exact List.subset_cons_self _ _
      have hpop : ∀ message, Moves cfg c s .quiet ({ s with responses := responses }.moveTo c
          (.poison ⟨message, some requestId, true⟩ (.endInflight task requestId .raised))) := fun message =>
        .walk (t := { s with responses := responses }) trivial ⟨rfl, rfl, rfl, rfl, rfl, id, Iff.rfl, id⟩ hsub rfl (hunknown message)
      cases item with
      | eof | invalid => exact hpop _
      | line raw =>
        dsimp only
        split
        · exact hpop _
        · rename_i body hd
          exact .takes hp (by rw [hq]; exact List.mem_cons_self) hd hsub
  | settle task requestId raw body =>
    cases body with
    | error code message =>
      have hraise : Place.Follows (.endInflight task requestId .raised) (s.callers c) := by
        rw [hp]
        constructor <;> simp
      simp only [Bool.false_eq_true, and_false, if_false]
      refine .step ?_
      split
      · exact Session.Gate.lead_follows (g := .poison _) hraise hraise
      · exact hraise
    | result fields =>
      have hanswer : Place.Follows (.endInflight task requestId (.result requestId raw fields)) (s.callers c) := by
        rw [hp]
        constructor <;> simp
      simp only [and_true]
      split
      · refine .walk trivial (.trans (t := { s with shutdownSent := true }) ⟨rfl, rfl, rfl, rfl, rfl, id, Iff.rfl, id⟩
          (.startClosing _)) (fun _ => id) rfl ?_
        split <;> exact hanswer
      · refine .step ?_
        split
        · exact Session.Gate.lead_follows (g := .poison _) hanswer hanswer
        · exact hanswer
  | endInflight task requestId outcome =>
    dsimp only
    rw [if_pos (hi requestId (by rw [hp]; rfl))]
    exact .ends hp (hi requestId (by rw [hp]; rfl))
  | finish task outcome =>
    refine .step ?_
    rw [hp]
    cases task <;> cases outcome <;> constructor <;> simp [Task.afterwards, Task.allowClosing]
  | unlock outcome =>
    refine .release (by simp [hp]) (by simp [hp]) ?_ rfl nofun ?_ nofun
    · constructor <;> simp
    · rintro requestId raw fields ⟨⟩
      simp [hp]
  | raiseOut =>
    refine .walk trivial (.refl s) (fun _ => id) rfl ?_
    rw [hp]
    constructor <;> simp
  | poison info next =>
    refine .walk trivial (Onward.recordPoison s info) ?_ ?_ ?_
    · unfold Session.recordPoison
      split <;> exact fun _ => id
    · unfold Session.recordPoison
      split <;> rfl
    · rw [hp]
      constructor <;> simp
  | setFailed closeInput next =>
    refine .walk trivial (t := { s with failed := true }) ⟨rfl, rfl, rfl, rfl, rfl, id, Iff.rfl, id⟩ (fun _ => id) rfl ?_
    rw [hp]
    split <;> constructor <;> simp
  | closeInput next =>
    refine .walk trivial (t := { s with stdinOpen := false }) ⟨rfl, rfl, rfl, rfl, rfl, id, Iff.rfl, id⟩ (fun _ => id) rfl ?_
    rw [hp]
    constructor <;> simp
  | closeEnter =>
    dsimp only
    split
    · refine .step ?_
      rw [hp]
      constructor <;> simp
    · rename_i hclosed
      split
      · refine .step ?_
        rw [hp]
        constructor <;> simp
      · rename_i hstarted
        exact .starts hp hclosed (by simpa using hstarted)
  | closeWait =>
    dsimp only
    split
    · refine .step ?_
      rw [hp]
      constructor <;> simp
    · exact .stay
  | closeLock =>
    dsimp only
    split
    · rename_i hfree
      refine .acquire hfree (by simp [hp]) (by simp [hp]) ?_ (by simp) (by simp [hp]) rfl
      constructor <;> simp
    · exact .stay
  | closePoisoned =>
    refine .step ?_
    rw [hp]
    constructor <;> simp
  | closePoll poisoned =>
    dsimp only
    cases r.running with
    | none =>
      refine .step ?_
      rw [hp]
      constructor <;> simp
    | some running =>
      refine .step ?_
      rw [hp]
      split <;> constructor <;> simp [Task.allowClosing]
  | closeStdin =>
    refine .walk trivial (t := { s with stdinOpen := false }) ⟨rfl, rfl, rfl, rfl, rfl, id, Iff.rfl, id⟩ (fun _ => id) rfl ?_
    rw [hp]
    constructor <;> simp
  | closeProcess | closeStreams =>
    refine .step ?_
    rw [hp]
    constructor <;> simp
  | closeUnlock =>
    refine .release (by simp [hp]) (by simp [hp]) ?_ rfl (by simp [hp]) nofun nofun
    constructor <;> simp
  | closeFinal => exact .closes hp
  | closeNotify =>
    refine .walk trivial (t := { s with closedEvent := true }) ⟨rfl, rfl, rfl, rfl, rfl, id, Iff.rfl, id⟩ (fun _ => id) rfl ?_
    rw [hp]
    constructor <;> simp
  | waitEnter =>
    refine .walk trivial (.startClosing s) (fun _ => id) rfl ?_
    rw [hp]
    constructor <;> simp
  | waitLock =>
    dsimp only
    split
    · rename_i hfree
      refine .acquire hfree (by simp [hp]) (by simp [hp]) ?_ (by simp) (by simp) rfl
      constructor <;> simp
    · exact .stay
  | waitProcess =>
    refine .step ?_
    rw [hp]
    split <;> constructor <;> simp
  | waitUnlock =>
    refine .release (by simp [hp]) (by simp [hp]) ?_ rfl nofun nofun nofun
    constructor <;> simp

-- One at a time

theorem Session.forall_moveTo {P : Nat → Place → Prop} :
    (∀ c', P c' ((s.moveTo c p).callers c')) ↔ P c p ∧ ∀ c', c' ≠ c → P c' (s.callers c') := by
  constructor
  · intro h
    refine ⟨by simpa [Session.moveTo] using h c, fun c' hc => ?_⟩
    simpa [Session.moveTo, hc] using h c'
  · rintro ⟨hself, hother⟩ c'
    by_cases hc : c' = c
    · subst hc
      simpa [Session.moveTo] using hself
    · simpa [Session.moveTo, hc] using hother c' hc

theorem Place.holdsLock_of_inFlight {requestId : String} (h : p.inFlight = some requestId) : p.holdsLock = true := by
  induction p with
  | poison _ _ ih | setFailed _ _ ih | closeInput _ ih => exact ih h
  | write | await | settle | endInflight => rfl
  | _ => cases h

theorem Place.holdsLock_of_unwritten {requestId : String} (h : requestId ∈ p.unwritten) : p.holdsLock = true := by
  induction p with
  | poison _ _ ih | setFailed _ _ ih | closeInput _ ih => exact ih h
  | write | beginCheck | «begin» => rfl
  | _ => cases h

/-- Who is in flight holds the lock, and the session knows the request. -/
structure Locked (s : Session) : Prop where
  lock : ∀ c, (s.callers c).holdsLock = true → s.requestLock = some c
  inflight : ∀ c requestId, (s.callers c).inFlight = some requestId → s.inflightRequestId = some requestId
  held : ∀ requestId, s.inflightRequestId = some requestId → ∃ c, (s.callers c).inFlight = some requestId

theorem Locked.unique (hl : Locked s) {c c' : Nat} (h : (s.callers c).holdsLock = true)
    (h' : (s.callers c').holdsLock = true) : c' = c :=
  Option.some.inj ((hl.lock c' h').symm.trans (hl.lock c h))

theorem Locked.inFlight_of_holdsLock (hl : Locked s) (h : (s.callers c).holdsLock = true) {requestId : String}
    (hi : s.inflightRequestId = some requestId) : (s.callers c).inFlight = some requestId := by
  obtain ⟨c', hc'⟩ := hl.held requestId hi
  exact hl.unique h (Place.holdsLock_of_inFlight hc') ▸ hc'

theorem Locked.walk (hl : Locked s) (hc : t.callers = s.callers) (hr : t.requestLock = s.requestLock)
    (hi : t.inflightRequestId = s.inflightRequestId) (hlock : p.holdsLock = (s.callers c).holdsLock)
    (hflight : p.inFlight = (s.callers c).inFlight) : Locked (t.moveTo c p) where
  lock := by
    show ∀ c', _ → t.requestLock = some c'
    rw [Session.forall_moveTo (P := fun c' q => q.holdsLock = true → t.requestLock = some c'), hc, hr, hlock]
    exact ⟨hl.lock c, fun c' _ => hl.lock c'⟩
  inflight := by
    show ∀ c', ∀ requestId, _ → t.inflightRequestId = some requestId
    rw [Session.forall_moveTo (P := fun c' q => ∀ requestId, q.inFlight = some requestId → t.inflightRequestId = some requestId),
      hc, hi, hflight]
    exact ⟨hl.inflight c, fun c' _ => hl.inflight c'⟩
  held requestId h := by
    obtain ⟨c', hc'⟩ := hl.held requestId (hi ▸ h)
    refine ⟨c', ?_⟩
    by_cases heq : c' = c
    · subst heq
      simpa [Session.moveTo, hflight] using hc'
    · simpa [Session.moveTo, heq, hc] using hc'

theorem Locked.alone (hc : t.callers = s.callers) (ho : ∀ c', c' ≠ c → (s.callers c').holdsLock = false)
    (hlock : p.holdsLock = true → t.requestLock = some c) (hflight : p.inFlight = t.inflightRequestId) :
    Locked (t.moveTo c p) where
  lock := by
    show ∀ c', _ → t.requestLock = some c'
    rw [Session.forall_moveTo (P := fun c' q => q.holdsLock = true → t.requestLock = some c'), hc]
    refine ⟨hlock, fun c' hne h => ?_⟩
    rw [ho c' hne] at h
    cases h
  inflight := by
    show ∀ c', ∀ requestId, _ → t.inflightRequestId = some requestId
    rw [Session.forall_moveTo (P := fun c' q => ∀ requestId, q.inFlight = some requestId → t.inflightRequestId = some requestId),
      hc]
    refine ⟨fun requestId h => hflight ▸ h, fun c' hne requestId h => ?_⟩
    have := Place.holdsLock_of_inFlight h
    rw [ho c' hne] at this
    cases this
  held requestId h := by
    refine ⟨c, ?_⟩
    have : t.inflightRequestId = some requestId := h
    simpa [Session.moveTo, hflight] using this

theorem Locked.others (hl : Locked s) (h : (s.callers c).holdsLock = true) :
    ∀ c', c' ≠ c → (s.callers c').holdsLock = false := by
  intro c' hne
  cases hh : (s.callers c').holdsLock with
  | false => rfl
  | true => exact absurd (hl.unique h hh) hne

theorem Locked.free (hl : Locked s) (h : s.requestLock = none) (c' : Nat) : (s.callers c').holdsLock = false := by
  cases hh : (s.callers c').holdsLock with
  | false => rfl
  | true => exact absurd (hl.lock c' hh) (by rw [h]; nofun)

theorem Locked.inflight_none (hl : Locked s) (h : ∀ c', (s.callers c').inFlight = none) : s.inflightRequestId = none := by
  cases hi : s.inflightRequestId with
  | none => rfl
  | some requestId =>
    obtain ⟨c', hc'⟩ := hl.held requestId hi
    exact absurd hc' (by rw [h c']; nofun)

theorem Locked.inflight_none_of_holder (hl : Locked s) (h : (s.callers c).holdsLock = true)
    (hn : (s.callers c).inFlight = none) : s.inflightRequestId = none := by
  cases hi : s.inflightRequestId with
  | none => rfl
  | some requestId => exact absurd (hl.inFlight_of_holdsLock h hi) (by rw [hn]; nofun)

theorem Locked.moves (hl : Locked s) (hm : Moves cfg c s e t) : Locked t := by
  cases hm with
  | stay => exact hl
  | walk _ ho _ _ hp => exact hl.walk ho.callers ho.requestLock ho.inflight hp.holdsLock hp.inFlight
  | acquire hfree _ _ hclear =>
    refine .alone rfl (fun c' _ => hl.free hfree c') (fun _ => rfl) (hclear.inFlight.trans (Eq.symm ?_))
    refine hl.inflight_none fun c' => ?_
    cases hi : (s.callers c').inFlight with
    | none => rfl
    | some requestId => exact absurd (Place.holdsLock_of_inFlight hi) (by rw [hl.free hfree c']; nofun)
  | release hold hnone hclear hout =>
    exact .alone rfl (hl.others hold) (fun h => by rw [hout] at h; cases h)
      (hclear.inFlight.trans (hl.inflight_none_of_holder hold hnone).symm)
  | number hp _ hflight =>
    have hold : (s.callers c).holdsLock = true := by rw [hp]; rfl
    exact .alone rfl (hl.others hold) (fun _ => hl.lock c hold)
      (hflight.trans (hl.inflight_none_of_holder hold (by rw [hp]; rfl)).symm)
  | begins hp =>
    have hold : (s.callers c).holdsLock = true := by rw [hp]; rfl
    exact .alone rfl (hl.others hold) (fun _ => hl.lock c hold) rfl
  | writes hp hnext =>
    refine hl.walk rfl rfl rfl ?_ ?_ <;> rw [hp] <;> obtain rfl | ⟨info, rfl⟩ := hnext <;> rfl
  | takes hp => exact hl.walk rfl rfl rfl (by rw [hp]; rfl) (by rw [hp]; rfl)
  | ends hp =>
    have hold : (s.callers c).holdsLock = true := by rw [hp]; rfl
    exact .alone rfl (hl.others hold) (fun _ => hl.lock c hold) rfl
  | starts hp => exact hl.walk rfl rfl rfl (by rw [hp]; rfl) (by rw [hp]; rfl)
  | closes hp => exact hl.walk rfl rfl rfl (by rw [hp]; rfl) (by rw [hp]; rfl)

-- Closing

/-- One thread closes the session, and once it is out of the lock, nothing is in
flight for good. -/
structure Closing (s : Session) : Prop where
  started : s.closeStarted = true → s.lifecycle ≠ .opened
  closed : s.lifecycle = .closed → s.closeStarted = true ∧ s.inflightRequestId = none
  closer : ∀ c, (s.callers c).closes = true → s.closeStarted = true
  owner : ∀ c c', (s.callers c).closes = true → (s.callers c').closes = true → c' = c
  final : ∀ c, (s.callers c).final = true → s.inflightRequestId = none

theorem Place.closes_of_final (h : p.final = true) : p.closes = true := by
  induction p with
  | poison _ _ ih | setFailed _ _ ih | closeInput _ ih => exact ih h
  | closeFinal => rfl
  | _ => cases h

theorem Closing.walk (hk : Closing s) (hc : t.callers = s.callers) (hstart : t.closeStarted = s.closeStarted)
    (hopen : t.lifecycle = .opened → s.lifecycle = .opened) (hclosed : t.lifecycle = .closed → s.lifecycle = .closed)
    (hi : t.inflightRequestId = none ∨ t.inflightRequestId = s.inflightRequestId ∨
      s.lifecycle ≠ .closed ∧ ∀ c', (s.callers c').final = false)
    (hp : p.closes = true → (s.callers c).closes = true)
    (hf : p.final = true → t.inflightRequestId = none) : Closing (t.moveTo c p) where
  started h hl := hk.started (hstart ▸ h) (hopen hl)
  closed h := by
    obtain ⟨hs, hn⟩ := hk.closed (hclosed h)
    obtain hi | hi | ⟨hi, -⟩ := hi
    · exact ⟨hstart.trans hs, hi⟩
    · exact ⟨hstart.trans hs, hi.trans hn⟩
    · exact absurd (hclosed h) hi
  closer := by
    show ∀ c', _ → t.closeStarted = true
    rw [Session.forall_moveTo (P := fun _ q => q.closes = true → t.closeStarted = true), hc, hstart]
    exact ⟨fun h => hk.closer c (hp h), fun c' _ => hk.closer c'⟩
  owner := by
    have hold : ∀ c', ((t.moveTo c p).callers c').closes = true → (s.callers c').closes = true := by
      rw [Session.forall_moveTo (P := fun c' q => q.closes = true → (s.callers c').closes = true), hc]
      exact ⟨hp, fun c' _ => id⟩
    exact fun c' c'' h h' => hk.owner c' c'' (hold c' h) (hold c'' h')
  final := by
    show ∀ c', _ → t.inflightRequestId = none
    rw [Session.forall_moveTo (P := fun _ q => q.final = true → t.inflightRequestId = none), hc]
    refine ⟨hf, fun c' _ h => ?_⟩
    obtain hi | hi | ⟨-, hi⟩ := hi
    · exact hi
    · exact hi.trans (hk.final c' h)
    · rw [hi c'] at h
      cases h

theorem Closing.may_begin (hk : Closing s) {task : Task} {requestId : String} (hp : s.callers c = .begin task requestId)
    (hbegin : s.MayBegin task.allowClosing) : s.lifecycle ≠ .closed ∧ ∀ c', (s.callers c').final = false := by
  obtain ⟨-, -, hlife⟩ := hbegin
  constructor
  · intro h
    obtain hl | ⟨-, hl⟩ := hlife <;> rw [h] at hl <;> cases hl
  · intro c'
    cases hf : (s.callers c').final with
    | false => rfl
    | true =>
      have hclose := Place.closes_of_final hf
      obtain hl | ⟨hallow, -⟩ := hlife
      · exact absurd hl (hk.started (hk.closer c' hclose))
      · have : c' = c := hk.owner c c' (by rw [hp]; exact hallow) hclose
        rw [this, hp] at hf
        cases hf

theorem Closing.moves (hk : Closing s) (hl : Locked s) (hm : Moves cfg c s e t) : Closing t := by
  cases hm with
  | stay => exact hk
  | walk _ ho _ _ hp =>
    exact hk.walk ho.callers ho.closeStarted ho.opened ho.closed.mp (.inr (.inl ho.inflight)) hp.closes
      fun h => ho.inflight.trans (hk.final c (hp.final h))
  | acquire _ _ _ _ _ hp hf => exact hk.walk rfl rfl id id (.inr (.inl rfl)) hp (by rw [hf]; nofun)
  | release hold hnone _ _ hp =>
    exact hk.walk rfl rfl id id (.inr (.inl rfl)) hp fun _ => hl.inflight_none_of_holder hold hnone
  | number hp _ _ hcloses _ _ _ hf =>
    exact hk.walk rfl rfl id id (.inr (.inl rfl)) (fun h => by rw [hp]; exact hcloses h) (by rw [hf]; nofun)
  | begins hp hbegin =>
    exact hk.walk rfl rfl id id (.inr (.inr (hk.may_begin hp hbegin))) (by rw [hp]; exact id) nofun
  | writes hp hnext =>
    obtain rfl | ⟨info, rfl⟩ := hnext
    · exact hk.walk rfl rfl id id (.inr (.inl rfl)) (by rw [hp]; exact id) nofun
    · exact hk.walk rfl rfl id id (.inr (.inl rfl)) (by rw [hp]; exact id) nofun
  | takes hp => exact hk.walk rfl rfl id id (.inr (.inl rfl)) (by rw [hp]; exact id) nofun
  | ends hp => exact hk.walk rfl rfl id id (.inl rfl) (by rw [hp]; exact id) nofun
  | starts hp hopen hfresh =>
    have hnobody : ∀ c', (s.callers c').closes = false := fun c' => by
      cases hc : (s.callers c').closes with
      | false => rfl
      | true => exact absurd (hk.closer c' hc) (by rw [hfresh]; nofun)
    have honly : ∀ c', ((({ s with closeStarted := true }.startClosing).moveTo c .closeLock).callers c').closes = true →
        c' = c := by
      rw [Session.forall_moveTo (P := fun c' q => q.closes = true → c' = c)]
      refine ⟨fun _ => rfl, fun c' _ h => ?_⟩
      have hc : (s.callers c').closes = true := h
      rw [hnobody c'] at hc
      cases hc
    have hclosed := (Onward.startClosing { s with closeStarted := true }).closed
    constructor
    case started =>
      show _ → (if s.lifecycle = .opened then Lifecycle.closing else s.lifecycle) ≠ .opened
      split
      · exact nofun
      · exact fun _ => ‹_›
    case closed => exact fun h => absurd (hclosed.mp h) hopen
    case closer => exact fun _ _ => rfl
    case owner => exact fun c' c'' h h' => (honly c'' h').trans (honly c' h).symm
    case final =>
      intro c' h
      have heq := honly c' (Place.closes_of_final h)
      subst heq
      simp [Session.moveTo] at h
  | closes hp =>
    have hfinal : (s.callers c).final = true := by rw [hp]; rfl
    have hcloses := Place.closes_of_final hfinal
    have hold : ∀ c', (({ s with lifecycle := .closed }.moveTo c .closeNotify).callers c').closes = true →
        (s.callers c').closes = true := by
      rw [Session.forall_moveTo (P := fun c' q => q.closes = true → (s.callers c').closes = true)]
      exact ⟨nofun, fun c' _ => id⟩
    constructor
    case started => exact fun _ => nofun
    case closed => exact fun _ => ⟨hk.closer c hcloses, hk.final c hfinal⟩
    case closer => exact fun c' h => hk.closer c' (hold c' h)
    case owner => exact fun c' c'' h h' => hk.owner c' c'' (hold c' h) (hold c'' h')
    case final => exact fun _ _ => hk.final c hfinal

-- Each number once

abbrev SessionEntry := SessionStep × SessionEvent

def SessionEvent.writtenId : SessionEvent → Option String
  | .written requestId => some requestId
  | _ => none

/-- The requests that reached the child, the newest first. -/
def writtenIds (h : List SessionEntry) : List String := h.filterMap fun e => e.2.writtenId

theorem SessionConfig.requestId_injective {m n : Nat} (h : cfg.requestId m = cfg.requestId n) : m = n :=
  Nat.repr_injective ((String.append_right_inj _).mp h)

structure Numbered (cfg : SessionConfig) (h : List SessionEntry) (s : Session) : Prop where
  unwritten : ∀ c, ∀ requestId ∈ (s.callers c).unwritten,
    requestId = cfg.requestId s.requestNumber ∧ requestId ∉ writtenIds h
  numbered : ∀ requestId ∈ writtenIds h, ∃ n ≤ s.requestNumber, requestId = cfg.requestId n
  once : (writtenIds h).Nodup

variable {h : List SessionEntry} {i : SessionStep}

theorem writtenIds_cons (he : e.writtenId = none) : writtenIds ((i, e) :: h) = writtenIds h := by
  simp [writtenIds, he]

theorem Numbered.walk (hn : Numbered cfg h s) (he : e.writtenId = none) (hc : t.callers = s.callers)
    (hr : t.requestNumber = s.requestNumber) (hp : ∀ requestId ∈ p.unwritten, requestId ∈ (s.callers c).unwritten) :
    Numbered cfg ((i, e) :: h) (t.moveTo c p) where
  unwritten := by
    show ∀ c', ∀ requestId ∈ _, requestId = cfg.requestId t.requestNumber ∧ _
    rw [writtenIds_cons he, Session.forall_moveTo (P := fun _ q => ∀ requestId ∈ q.unwritten,
      requestId = cfg.requestId t.requestNumber ∧ requestId ∉ writtenIds h), hc, hr]
    exact ⟨fun requestId hm => hn.unwritten c requestId (hp requestId hm), fun c' _ => hn.unwritten c'⟩
  numbered := by
    rw [writtenIds_cons he]
    show ∀ requestId ∈ _, ∃ n ≤ t.requestNumber, _
    rw [hr]
    exact hn.numbered
  once := by
    rw [writtenIds_cons he]
    exact hn.once

theorem Locked.unwritten_none (hl : Locked s) (hold : (s.callers c).holdsLock = true) {c' : Nat} (hne : c' ≠ c)
    (requestId : String) : requestId ∉ (s.callers c').unwritten := fun h => by
  have := Place.holdsLock_of_unwritten h
  rw [hl.others hold c' hne] at this
  cases this

theorem SessionEvent.Silent.writtenId (h : e.Silent) : e.writtenId = none := by
  cases e with
  | written => exact h.elim
  | _ => rfl

theorem Numbered.moves (hn : Numbered cfg h s) (hl : Locked s) (hm : Moves cfg c s e t) :
    Numbered cfg ((i, e) :: h) t := by
  cases hm with
  | stay =>
    constructor <;> rw [writtenIds_cons rfl]
    · exact hn.unwritten
    · exact hn.numbered
    · exact hn.once
  | walk he ho _ _ hp => exact hn.walk he.writtenId ho.callers ho.requestNumber hp.unwritten
  | acquire _ _ _ hclear => exact hn.walk rfl rfl rfl (by rw [hclear.unwritten]; nofun)
  | release _ _ hclear _ _ _ he =>
    refine hn.walk ?_ rfl rfl (by rw [hclear.unwritten]; nofun)
    cases e with
    | written requestId => exact absurd rfl (he requestId)
    | _ => rfl
  | number hp _ _ _ hfresh =>
    have hold : (s.callers c).holdsLock = true := by rw [hp]; rfl
    constructor
    case unwritten =>
      show ∀ c', ∀ requestId ∈ _, requestId = cfg.requestId (s.requestNumber + 1) ∧ _
      rw [writtenIds_cons rfl, Session.forall_moveTo (P := fun _ q => ∀ requestId ∈ q.unwritten,
        requestId = cfg.requestId (s.requestNumber + 1) ∧ requestId ∉ writtenIds h)]
      refine ⟨fun requestId hm => ⟨hfresh requestId hm, fun hw => ?_⟩,
        fun c' hne requestId hm => absurd hm (hl.unwritten_none hold hne requestId)⟩
      -- the number is larger than any that was written
      obtain ⟨n, hle, hid⟩ := hn.numbered requestId hw
      have := SessionConfig.requestId_injective ((hfresh requestId hm).symm.trans hid)
      omega
    case numbered =>
      rw [writtenIds_cons rfl]
      intro requestId hw
      obtain ⟨n, hle, hid⟩ := hn.numbered requestId hw
      exact ⟨n, Nat.le_succ_of_le hle, hid⟩
    case once =>
      rw [writtenIds_cons rfl]
      exact hn.once
  | begins hp => exact hn.walk rfl rfl rfl (by rw [hp]; exact fun _ => id)
  | @writes task requestId _ hp hnext =>
    have hold : (s.callers c).holdsLock = true := by rw [hp]; rfl
    obtain ⟨hid, hnew⟩ := hn.unwritten c requestId (by rw [hp]; rfl)
    constructor
    case unwritten =>
      show ∀ c', ∀ requestId' ∈ _, requestId' = cfg.requestId s.requestNumber ∧ requestId' ∉ requestId :: writtenIds h
      rw [Session.forall_moveTo (P := fun _ q => ∀ requestId' ∈ q.unwritten,
        requestId' = cfg.requestId s.requestNumber ∧ requestId' ∉ requestId :: writtenIds h)]
      refine ⟨?_, fun c' hne requestId' hm => absurd hm (hl.unwritten_none hold hne requestId')⟩
      obtain rfl | ⟨info, rfl⟩ := hnext <;> nofun
    case numbered =>
      show ∀ requestId' ∈ requestId :: writtenIds h, _
      intro requestId' hw
      obtain rfl | hw := List.mem_cons.mp hw
      · exact ⟨_, Nat.le_refl _, hid⟩
      · exact hn.numbered requestId' hw
    case once => exact List.nodup_cons.mpr ⟨hnew, hn.once⟩
  | takes hp => exact hn.walk rfl rfl rfl nofun
  | ends hp => exact hn.walk rfl rfl rfl nofun
  | starts hp => exact hn.walk rfl rfl rfl nofun
  | closes hp => exact hn.walk rfl rfl rfl nofun

-- Answers

def Received (h : List SessionEntry) (raw : RawFrame) : Prop := ∃ i, (i, SessionEvent.received raw) ∈ h

def Wrote (h : List SessionEntry) (c : Nat) (requestId : String) : Prop :=
  ∃ r, (SessionStep.caller c r, SessionEvent.written requestId) ∈ h

structure Answered (cfg : SessionConfig) (h : List SessionEntry) (s : Session) : Prop where
  queued : ∀ raw, .line raw ∈ s.responses → Received h raw
  pumped : ∀ raw ∈ s.pump.frame, Received h raw
  asked : ∀ c, ∀ requestId ∈ (s.callers c).asked, Wrote h c requestId
  answer : ∀ c, ∀ a ∈ (s.callers c).answer,
    decodeResponse a.2.1 a.1 cfg.controllerId = .ok a.2.2 ∧ Received h a.2.1

theorem Received.older {raw : RawFrame} {x : SessionEntry} (hr : Received h raw) : Received (x :: h) raw :=
  hr.imp fun _ => List.mem_cons_of_mem _

theorem Wrote.older {requestId : String} {x : SessionEntry} (hw : Wrote h c requestId) : Wrote (x :: h) c requestId :=
  hw.imp fun _ => List.mem_cons_of_mem _

theorem Answered.walk (ha : Answered cfg h s) (x : SessionEntry) (hc : t.callers = s.callers)
    (hq : t.responses ⊆ s.responses) (hpump : t.pump = s.pump)
    (hasked : ∀ requestId ∈ p.asked, Wrote (x :: h) c requestId)
    (hanswer : ∀ a ∈ p.answer, decodeResponse a.2.1 a.1 cfg.controllerId = .ok a.2.2 ∧ Received (x :: h) a.2.1) :
    Answered cfg (x :: h) (t.moveTo c p) where
  queued raw hm := (ha.queued raw (hq hm)).older
  pumped raw hm := by
    have hm : raw ∈ t.pump.frame := hm
    rw [hpump] at hm
    exact (ha.pumped raw hm).older
  asked := by
    rw [Session.forall_moveTo (P := fun c' q => ∀ requestId ∈ q.asked, Wrote (x :: h) c' requestId), hc]
    exact ⟨hasked, fun c' _ requestId hm => (ha.asked c' requestId hm).older⟩
  answer := by
    rw [Session.forall_moveTo (P := fun _ q => ∀ a ∈ q.answer,
      decodeResponse a.2.1 a.1 cfg.controllerId = .ok a.2.2 ∧ Received (x :: h) a.2.1), hc]
    exact ⟨hanswer, fun c' _ a hm => (ha.answer c' a hm).imp_right .older⟩

theorem Answered.moves (ha : Answered cfg h s) {r : CallerReading} (hm : Moves cfg c s e t) :
    Answered cfg ((.caller c r, e) :: h) t := by
  cases hm with
  | stay =>
    exact ⟨fun raw hm => (ha.queued raw hm).older, fun raw hm => (ha.pumped raw hm).older,
      fun c' requestId hm => (ha.asked c' requestId hm).older, fun c' a hm => (ha.answer c' a hm).imp_right .older⟩
  | walk _ ho hq hpump hp =>
    exact ha.walk _ ho.callers hq hpump (fun requestId hm => (ha.asked c requestId (hp.asked requestId hm)).older)
      fun a hm => (ha.answer c a (hp.answer a hm)).imp_right .older
  | acquire _ _ _ hclear | release _ _ hclear =>
    exact ha.walk _ rfl (fun _ => id) rfl (by rw [hclear.asked]; nofun) (by rw [hclear.answer]; nofun)
  | number _ _ _ _ _ hasked hanswer =>
    exact ha.walk _ rfl (fun _ => id) rfl (by rw [hasked]; nofun) (by rw [hanswer]; nofun)
  | begins => exact ha.walk _ rfl (fun _ => id) rfl nofun nofun
  | writes hp hnext =>
    obtain rfl | ⟨info, rfl⟩ := hnext
    · refine ha.walk _ rfl (fun _ => id) rfl ?_ nofun
      rintro _ ⟨⟩
      exact ⟨r, List.mem_cons_self⟩
    · exact ha.walk _ rfl (fun _ => id) rfl nofun nofun
  | takes hp hraw hdecode hq =>
    refine ha.walk _ rfl hq rfl (fun requestId hm => ?_) ?_
    · exact (ha.asked c requestId (by rw [hp]; exact hm)).older
    · rintro _ ⟨⟩
      exact ⟨hdecode, (ha.queued _ hraw).older⟩
  | @ends task requestId outcome hp =>
    refine ha.walk _ rfl (fun _ => id) rfl (fun requestId' hm => ?_) fun a hm => ?_
    · cases outcome with
      | raised => cases hm
      | result => exact (ha.asked c requestId' (by rw [hp]; exact hm)).older
    · cases outcome with
      | raised => cases hm
      | result => exact (ha.answer c a (by rw [hp]; exact hm)).imp_right .older
  | starts | closes => exact ha.walk _ rfl (fun _ => id) rfl nofun nofun

end

-- The pump leaves the books alone

section
variable {cfg : SessionConfig} {c : Nat} {s t : Session} {e : SessionEvent} {h : List SessionEntry}

theorem Onward.pump (s : Session) (pc : PumpPc) : Onward s { s with pump := pc } :=
  ⟨rfl, rfl, rfl, rfl, rfl, id, Iff.rfl, id⟩

theorem Onward.markResponseLine (s : Session) : Onward s s.markResponseLine.2 := by
  have hcount : Onward s { s with inflightResponseLines := s.inflightResponseLines + 1 } :=
    ⟨rfl, rfl, rfl, rfl, rfl, id, Iff.rfl, id⟩
  unfold Session.markResponseLine
  dsimp only
  split
  · split
    · exact hcount.trans (.recordReceiveFailure _ _)
    · exact hcount
  · split
    · exact .recordReceiveFailure s _
    · exact .refl s

theorem pumpStep_onward (r : Reading) (s : Session) : Onward s (pumpStep r s).2 := by
  unfold pumpStep
  cases s.pump with
  | check => exact .pump s _
  | readline =>
    cases r with
    | raised => exact .pump s _
    | line raw =>
      dsimp only
      split
      · exact .pump s _
      · split <;> exact .pump s _
  | onLine raw => exact (Onward.markResponseLine s).trans (.pump _ _)
  | failing message next => exact (Onward.recordReceiveFailure s message).trans (.pump _ _)
  | setFailed closeInput next => exact ⟨rfl, rfl, rfl, rfl, rfl, id, Iff.rfl, id⟩
  | closeInput next => exact ⟨rfl, rfl, rfl, rfl, rfl, id, Iff.rfl, id⟩
  | put next =>
    cases next with
    | line raw =>
      dsimp only
      split
      · exact ⟨rfl, rfl, rfl, rfl, rfl, id, Iff.rfl, id⟩
      · exact .pump s _
    | mark item => exact ⟨rfl, rfl, rfl, rfl, rfl, id, Iff.rfl, id⟩
    | stop => exact .pump s _
  | ended => exact .refl s

theorem recordReceiveFailure_responses (s : Session) (message : String) :
    (s.recordReceiveFailure message).2.responses = s.responses := by
  unfold Session.recordReceiveFailure
  dsimp only
  split <;> rfl

theorem markResponseLine_responses (s : Session) : s.markResponseLine.2.responses = s.responses := by
  unfold Session.markResponseLine
  dsimp only
  split <;> split <;> first | rfl | exact recordReceiveFailure_responses _ _

def Session.Holds (s : Session) (raw : RawFrame) : Prop := .line raw ∈ s.responses ∨ raw ∈ s.pump.frame

theorem Session.Holds.mono {raw : RawFrame} (hm : t.Holds raw) (hq : t.responses = s.responses)
    (hf : ∀ raw ∈ t.pump.frame, raw ∈ s.pump.frame) : s.Holds raw :=
  hm.imp (hq ▸ ·) (hf raw)

theorem pumpStep_holds (r : Reading) (s : Session) {raw : RawFrame} (hm : (pumpStep r s).2.Holds raw) :
    s.Holds raw ∨ (pumpStep r s).1 = .received raw := by
  unfold pumpStep at hm ⊢
  cases hp : s.pump with
  | check =>
    simp only [hp] at hm
    refine .inl (hm.mono rfl ?_)
    dsimp only
    split <;> nofun
  | readline =>
    simp only [hp] at hm ⊢
    cases r with
    | raised => exact .inl (hm.mono rfl nofun)
    | line line =>
      dsimp only at hm ⊢
      split at hm
      · exact .inl (hm.mono rfl nofun)
      · split at hm
        · exact .inl (hm.mono rfl nofun)
        · obtain hq | hf := hm
          · exact .inl (.inl hq)
          · rw [if_neg ‹_›, if_neg ‹_›, Option.some.inj hf]
            exact .inr rfl
  | onLine line =>
    simp only [hp] at hm
    refine .inl (hm.mono (markResponseLine_responses s) ?_)
    rw [hp]
    dsimp only
    split <;> exact fun _ => id
  | failing message next =>
    simp only [hp] at hm
    refine .inl (hm.mono (recordReceiveFailure_responses s message) ?_)
    rw [hp]
    exact fun _ => id
  | setFailed closeInput next =>
    simp only [hp] at hm
    refine .inl (hm.mono rfl ?_)
    rw [hp]
    dsimp only
    split <;> exact fun _ => id
  | closeInput next =>
    simp only [hp] at hm
    refine .inl (hm.mono rfl ?_)
    rw [hp]
    exact fun _ => id
  | put next =>
    have hframe : next.frame = some raw → s.Holds raw := fun h => .inr (by rw [hp]; exact h)
    simp only [hp] at hm
    cases next with
    | line line =>
      dsimp only at hm
      split at hm
      · obtain hq | hf := hm
        · obtain hq | hq := List.mem_append.mp hq
          · exact .inl (.inl hq)
          · obtain ⟨rfl⟩ := List.mem_singleton.mp hq
            exact .inl (hframe rfl)
        · cases hf
      · exact .inl (hm.mono rfl nofun)
    | mark item =>
      obtain hq | hf := hm
      · dsimp only at hq
        split at hq
        · obtain hq | hq := List.mem_append.mp hq
          · exact .inl (.inl hq)
          · obtain ⟨rfl⟩ := List.mem_singleton.mp hq
            exact .inl (hframe rfl)
        · exact .inl (.inl hq)
      · cases hf
    | stop => exact .inl (hm.mono rfl nofun)
  | ended =>
    simp only [hp] at hm
    exact .inl hm

theorem pumpStep_silent (r : Reading) (s : Session) :
    (pumpStep r s).1.writtenId = none ∧ ∀ outcome, (pumpStep r s).1 ≠ .returned outcome := by
  unfold pumpStep
  split
  case h_2 =>
    split
    · exact ⟨rfl, nofun⟩
    · split
      · exact ⟨rfl, nofun⟩
      · split <;> exact ⟨rfl, nofun⟩
  case h_7 => split <;> exact ⟨rfl, nofun⟩
  all_goals exact ⟨rfl, nofun⟩

-- Every run

structure Sound (cfg : SessionConfig) (h : List SessionEntry) (s : Session) : Prop where
  locked : Locked s
  closing : Closing s
  numbered : Numbered cfg h s
  answered : Answered cfg h s

theorem sound_start (cfg : SessionConfig) : Sound cfg [] {} where
  locked := ⟨nofun, nofun, nofun⟩
  closing := ⟨nofun, nofun, nofun, nofun, nofun⟩
  numbered := ⟨nofun, nofun, List.nodup_nil⟩
  answered := ⟨nofun, nofun, nofun, nofun⟩

theorem callerStep_sound_moves (hs : Sound cfg h s) (r : CallerReading) :
    Moves cfg c s (callerStep cfg c r s).1 (callerStep cfg c r s).2 :=
  callerStep_moves (hs.locked.inflight c) r

theorem Sound.pump (hs : Sound cfg h s) (r : Reading) :
    Sound cfg ((.pump r, (pumpStep r s).1) :: h) (pumpStep r s).2 := by
  have ho := pumpStep_onward r s
  have he := (pumpStep_silent r s).1
  obtain ⟨hl, hk, hn, ha⟩ := hs
  constructor
  case locked =>
    obtain ⟨lock, inflight, held⟩ := hl
    constructor <;> simp only [ho.callers, ho.requestLock, ho.inflight] <;> assumption
  case closing =>
    obtain ⟨started, closed, closer, owner, final⟩ := hk
    constructor <;> simp only [ho.callers, ho.closeStarted, ho.inflight]
    · exact fun h hopen => started h (ho.opened hopen)
    · exact fun h => closed (ho.closed.mp h)
    · exact closer
    · exact owner
    · exact final
  case numbered =>
    obtain ⟨unwritten, numbered, once⟩ := hn
    constructor <;> rw [writtenIds_cons he]
    · simpa only [ho.callers, ho.requestNumber] using unwritten
    · simpa only [ho.requestNumber] using numbered
    · exact once
  case answered =>
    have hheld : ∀ raw, (pumpStep r s).2.Holds raw → Received ((.pump r, (pumpStep r s).1) :: h) raw := by
      intro raw hm
      obtain (hq | hf) | he := pumpStep_holds r s hm
      · exact (ha.queued raw hq).older
      · exact (ha.pumped raw hf).older
      · exact ⟨.pump r, by rw [he]; exact List.mem_cons_self⟩
    constructor
    case queued => exact fun raw hm => hheld raw (.inl hm)
    case pumped => exact fun raw hm => hheld raw (.inr hm)
    case asked => exact ho.callers ▸ fun c requestId hm => (ha.asked c requestId hm).older
    case answer => exact ho.callers ▸ fun c a hm => (ha.answer c a hm).imp_right .older

theorem Sound.step (hs : Sound cfg h s) (i : SessionStep) :
    Sound cfg ((i, ((supervisorSession cfg).step s i).1) :: h) ((supervisorSession cfg).step s i).2 := by
  cases i with
  | pump r => exact hs.pump r
  | caller c r =>
    have hm := callerStep_sound_moves (c := c) hs r
    exact ⟨hs.locked.moves hm, hs.closing.moves hs.locked hm, hs.numbered.moves hs.locked hm, hs.answered.moves hm⟩

theorem sound_of_runs (hr : (supervisorSession cfg).Runs Machine.always {} h s) : Sound cfg h s :=
  hr.historyInvariant (sound_start cfg) fun _ _ i hs _ => hs.step i

def RawFrame.Carries (raw : RawFrame) (requestId : String) : Prop :=
  ∃ fields, raw.value = some (.obj fields) ∧ fields.lookup "request_id" = some (.str requestId)

theorem decodeResponse_carries {raw : RawFrame} {requestId controllerId : String} {body : ResponseBody}
    (hd : decodeResponse raw requestId controllerId = .ok body) : raw.Carries requestId := by
  unfold decodeResponse at hd
  split at hd
  · cases hd
  split at hd
  · cases hd
  split at hd
  · cases hd
  · rename_i fields hv
    refine ⟨fields, hv, ?_⟩
    split at hd
    · cases hd
    split at hd
    · cases hd
    split at hd
    · cases hd
    · rename_i hid
      cases hl : fields.lookup "request_id" with
      | none => exact absurd trivial (by simp [hl, Json.IsStr] at hid)
      | some value =>
        cases value <;> simp_all [Json.IsStr]
  · cases hd

theorem Moves.returned {requestId : String} {raw : RawFrame} {fields : List (String × Json)}
    (hm : Moves cfg c s (.returned (.result requestId raw fields)) t) :
    (s.callers c).answer = some (requestId, raw, .result fields) ∧ (s.callers c).asked = some requestId := by
  cases hm with
  | walk hsilent => exact hsilent.elim
  | release _ _ _ _ _ hanswer => exact hanswer requestId raw fields rfl

theorem Moves.written {requestId : String} (hm : Moves cfg c s e t) (he : e.writtenId = some requestId) :
    (s.callers c).inFlight = some requestId := by
  cases hm with
  | writes hp =>
    cases he
    rw [hp]
    rfl
  | walk hsilent =>
    rw [hsilent.writtenId] at he
    cases he
  | release _ _ _ _ _ _ hno =>
    cases e with
    | written id => exact absurd rfl (hno id)
    | _ => cases he
  | _ => cases he

/-- What is over stays over: closed, or failed and without a new request in flight. -/
def Over (s t : Session) : Prop :=
  (s.lifecycle = .closed → t.lifecycle = .closed) ∧
    (s.Failed → t.Failed ∧ (t.inflightRequestId = none ∨ t.inflightRequestId = s.inflightRequestId))

theorem Onward.over (ho : Onward s t) : Over s t :=
  ⟨ho.closed.mpr, fun hf => ⟨ho.failed hf, .inr ho.inflight⟩⟩

theorem Moves.over (hm : Moves cfg c s e t) : Over s t := by
  cases hm with
  | walk _ ho => exact ho.over
  | begins _ hbegin => exact ⟨id, fun hf => absurd hf (by simp [Session.Failed, hbegin.1, hbegin.2.1])⟩
  | ends => exact ⟨id, fun hf => ⟨hf, .inl rfl⟩⟩
  | starts _ hopen => exact ⟨fun h => absurd h hopen, fun hf => ⟨hf, .inr rfl⟩⟩
  | closes => exact ⟨fun _ => rfl, fun hf => ⟨hf, .inr rfl⟩⟩
  | stay | acquire | release | number | writes | takes => exact ⟨id, fun hf => ⟨hf, .inr rfl⟩⟩

theorem Sound.returned (hs : Sound cfg h s) {i : SessionStep} {requestId : String} {raw : RawFrame}
    {fields : List (String × Json)} (he : ((supervisorSession cfg).step s i).1 = .returned (.result requestId raw fields)) :
    ∃ c r, i = .caller c r ∧ Wrote h c requestId ∧ Received h raw ∧ raw.Carries requestId ∧
      decodeResponse raw requestId cfg.controllerId = .ok (.result fields) := by
  cases i with
  | pump r => exact absurd he ((pumpStep_silent r s).2 _)
  | caller c r =>
    have hm : Moves cfg c s ((supervisorSession cfg).step s (.caller c r)).1 _ := callerStep_sound_moves hs r
    rw [he] at hm
    obtain ⟨ha, hask⟩ := hm.returned
    obtain ⟨hd, hreceived⟩ := hs.answered.answer c _ ha
    exact ⟨c, r, rfl, hs.answered.asked c requestId hask, hreceived, decodeResponse_carries hd, hd⟩

theorem Sound.written (hs : Sound cfg h s) {i : SessionStep} {requestId : String}
    (he : ((supervisorSession cfg).step s i).1.writtenId = some requestId) : s.inflightRequestId = some requestId := by
  cases i with
  | pump r => exact absurd ((pumpStep_silent r s).1.symm.trans he) nofun
  | caller c r => exact hs.locked.inflight c requestId ((callerStep_sound_moves hs r).written he)

theorem Sound.over (hs : Sound cfg h s) (i : SessionStep) : Over s ((supervisorSession cfg).step s i).2 := by
  cases i with
  | pump r => exact (pumpStep_onward r s).over
  | caller c r => exact (callerStep_sound_moves (c := c) hs r).over

/-- How a run goes on from a session that is closed, or failed. -/
structure Ending (s : Session) (h' : List SessionEntry) (s' : Session) : Prop where
  closed : s.lifecycle = .closed → s'.lifecycle = .closed ∧ writtenIds h' = []
  failed : s.Failed → s'.Failed ∧ (s'.inflightRequestId = none ∨ s'.inflightRequestId = s.inflightRequestId) ∧
    ∀ requestId ∈ writtenIds h', s.inflightRequestId = some requestId

theorem Ending.step {h' : List SessionEntry} {s' : Session} (hend : Ending s h' s') (hs : Sound cfg (h' ++ h) s')
    (i : SessionStep) :
    Ending s ((i, ((supervisorSession cfg).step s' i).1) :: h') ((supervisorSession cfg).step s' i).2 := by
  obtain ⟨hclosed, hfailed⟩ := hs.over i
  constructor
  case closed =>
    intro hc
    obtain ⟨hc', hnone⟩ := hend.closed hc
    refine ⟨hclosed hc', ?_⟩
    cases he : ((supervisorSession cfg).step s' i).1.writtenId with
    | none => rw [writtenIds_cons he, hnone]
    | some requestId => exact absurd (hs.written he) (by rw [(hs.closing.closed hc').2]; nofun)
  case failed =>
    intro hf
    obtain ⟨hf', hi, hwritten⟩ := hend.failed hf
    obtain ⟨hf'', hi'⟩ := hfailed hf'
    refine ⟨hf'', hi'.elim .inl fun hi' => hi.imp hi'.trans hi'.trans, ?_⟩
    cases he : ((supervisorSession cfg).step s' i).1.writtenId with
    | none => rwa [writtenIds_cons he]
    | some requestId =>
      have hnow := hs.written he
      intro requestId' hm
      simp only [writtenIds, List.filterMap_cons, he] at hm
      obtain rfl | hm := List.mem_cons.mp hm
      · obtain hi | hi := hi
        · rw [hi] at hnow
          cases hnow
        · exact hi.symm.trans hnow
      · exact hwritten requestId' hm

/-- In every interleaving: a result comes from a frame that carries the request's
own id, one request is in flight at a time, each id is written at most once,
nothing is written once the session is closed, and once it is poisoned or a
receive failure is on record, nothing but the request then in flight. -/
theorem session_exclusive (cfg : SessionConfig) {h : List SessionEntry} {s : Session}
    (hr : (supervisorSession cfg).Runs Machine.always {} h s) :
    (∀ newer older i requestId raw fields, h = newer ++ (i, .returned (.result requestId raw fields)) :: older →
      ∃ c r, i = .caller c r ∧ Wrote older c requestId ∧ Received older raw ∧ raw.Carries requestId ∧
        decodeResponse raw requestId cfg.controllerId = .ok (.result fields)) ∧
      (∀ c c' requestId requestId', (s.callers c).inFlight = some requestId →
        (s.callers c').inFlight = some requestId' → c' = c) ∧
      (writtenIds h).Nodup ∧
      ∀ h' s', (supervisorSession cfg).Runs Machine.always s h' s' →
        (s.lifecycle = .closed → writtenIds h' = []) ∧
          (s.Failed → ∀ requestId ∈ writtenIds h', s.inflightRequestId = some requestId) := by
  have hs := sound_of_runs hr
  refine ⟨?_, fun c c' _ _ hc hc' => ?_, hs.numbered.once, fun h' s' hr' => ?_⟩
  · rintro newer older i requestId raw fields rfl
    obtain ⟨s₁, hr₁⟩ := hr.older
    obtain ⟨s₂, hr₂, -, he⟩ := hr₁.newest
    exact (sound_of_runs hr₂).returned (congrArg Prod.fst he)
  · exact hs.locked.unique (Place.holdsLock_of_inFlight hc) (Place.holdsLock_of_inFlight hc')
  · have hend : Ending s h' s' ∧ (supervisorSession cfg).Runs Machine.always s h' s' := by
      refine hr'.historyInvariant (I := fun h' s' => Ending s h' s' ∧ (supervisorSession cfg).Runs Machine.always s h' s')
        ⟨⟨fun hc => ⟨hc, rfl⟩, fun hf => ⟨hf, .inr rfl, nofun⟩⟩, .nil⟩ ?_
      rintro h' s' i ⟨hend, hrun⟩ hok
      exact ⟨hend.step (sound_of_runs (hr.append hrun)) i, hrun.cons hok⟩
    exact ⟨fun hc => (hend.1.closed hc).2, fun hf => (hend.1.failed hf).2.2⟩

end

-- Runs on fixed inputs

def sampleConfig : SessionConfig := ⟨"fixed", "ev3"⟩

def sampleReading : CallerReading := { call := .request "status" true }

def beginSteps : List SessionStep := List.replicate 8 (.caller 1 sampleReading)

/-- The pump meets the end of the stream and records it. -/
def eofSteps : List SessionStep := List.replicate 3 (.pump (.line ⟨0, 0, false, none⟩))

def sampleFrame : RawFrame where
  length := 120
  newlines := 1
  endsWithNewline := true
  value := some (.obj [("schema", .str responseSchema), ("request_id", .str "fixed-1"), ("controller_id", .str "ev3"),
    ("ok", .bool true), ("result", .obj [("state", .str "DISARMED")])])

/-- The request is written, answered and returned, and the stream ends. -/
def answeredSteps : List SessionStep :=
  beginSteps ++ .caller 1 sampleReading :: List.replicate 4 (.pump (.line sampleFrame)) ++
    List.replicate 5 (.caller 1 sampleReading) ++ eofSteps

theorem session_exclusive_sample :
    let r := (supervisorSession sampleConfig).runList {} answeredSteps
    (∀ newer older i requestId raw fields, r.1 = newer ++ (i, .returned (.result requestId raw fields)) :: older →
      ∃ c r, i = .caller c r ∧ Wrote older c requestId ∧ Received older raw ∧ raw.Carries requestId ∧
        decodeResponse raw requestId sampleConfig.controllerId = .ok (.result fields)) ∧
      (∀ c c' requestId requestId', (r.2.callers c).inFlight = some requestId →
        (r.2.callers c').inFlight = some requestId' → c' = c) ∧
      (writtenIds r.1).Nodup ∧
      ∀ h' s', (supervisorSession sampleConfig).Runs Machine.always r.2 h' s' →
        (r.2.lifecycle = .closed → writtenIds h' = []) ∧
          (r.2.Failed → ∀ requestId ∈ writtenIds h', r.2.inflightRequestId = some requestId) :=
  session_exclusive sampleConfig (Machine.runs_runList (Machine.stepsOk_always _ _ _))

/-- The end of the stream is on record, and the request that began before is
written all the same. -/
theorem written_after_receive_failure :
    ¬ ∀ (cfg : SessionConfig) h s, (supervisorSession cfg).Runs Machine.always {} h s →
      ∀ h' s', (supervisorSession cfg).Runs Machine.always s h' s' →
        s.lifecycle = .closed ∨ s.Failed → writtenIds h' = [] := by
  intro hall
  have hrun := Machine.runs_runList (Machine.stepsOk_always (supervisorSession sampleConfig) {} (beginSteps ++ eofSteps))
  have hwrite := Machine.runs_runList (Machine.stepsOk_always (supervisorSession sampleConfig)
    ((supervisorSession sampleConfig).runList {} (beginSteps ++ eofSteps)).2 [.caller 1 sampleReading])
  have hfailed : ((supervisorSession sampleConfig).runList {} (beginSteps ++ eofSteps)).2.receiveFailure ≠ none := by
    decide +kernel
  exact absurd (hall sampleConfig _ _ hrun _ _ hwrite (.inr (.inr hfailed))) (by decide +kernel)

end RobotLlm.Transport
