import RobotLlm.Memory.StoreLaws
import RobotLlm.Transport.Channel

/-!
# What the channel writes and what it returns

A frame answers the request whose number it carries and no other, and once the
channel is broken nothing more is written to it. Whoever passed the check of
the flag in time may still write until the input is closed; from then on the
write raises.
-/

namespace RobotLlm.Channel

open RobotLlm.Lib
open RobotLlm.Hazard (Grid)

section
variable {F : Type} {s s' : Channel F} {h : List (ChannelStep F × Event)}

-- Numbers and their texts

theorem padded_value (n : Nat) : Nat.ofDigitChars 10 (padded n).toList 0 = n := by
  have hrepr : n.repr.toList = Nat.toDigits 10 n := by simp [Nat.repr]
  simp [padded, Nat.ofDigitChars_append, hrepr, Nat.ofDigitChars_ten_toDigits]

theorem requestId_inj {m n : Nat} (h : requestId m = requestId n) : m = n := by
  have hpadded : padded m = padded n := (String.append_right_inj _).mp h
  have hm := padded_value m
  rw [hpadded, padded_value n] at hm
  exact hm.symm

-- What a history shows

def Event.frame? : Event → Option Frame
  | .received frame => some frame
  | _ => none

def Event.number? : Event → Option Nat
  | .written number => some number
  | _ => none

def Event.version? : Event → Option Int
  | .accepted _ version => some version
  | _ => none

/-- The frames that were read, the requests that were written and the versions
that were taken over. -/
def frames (h : List (ChannelStep F × Event)) : List Frame := h.filterMap (·.2.frame?)
def numbers (h : List (ChannelStep F × Event)) : List Nat := h.filterMap (·.2.number?)
def versions (h : List (ChannelStep F × Event)) : List Int := h.filterMap (·.2.version?)

/-- The frame was read, it carries the id of this request, which was written,
and a version that is not below any accepted so far. -/
def Answered (h : List (ChannelStep F × Event)) (number : Nat) (frame : Frame) : Prop :=
  frame ∈ frames h ∧ number ∈ numbers h ∧ ∃ fields version, frame.value = some (.obj fields) ∧
    Json.IsStr (requestId number) (fields.lookup "request_id") ∧
    Json.toInt? (fields.lookup "state_version") = some version ∧ ∀ v ∈ versions h, v ≤ version

/-- The request did not end with its own answer, or with a fatal one. -/
def Ending.breaks : Ending → Bool
  | .raised _ => true
  | .remoteError _ error => error.fatal
  | .response _ _ | .operationError _ _ => false

/-- What ends the channel: an abort that took effect, and the end of a written
request that is not its answer. -/
def Breaks (older : List (ChannelStep F × Event)) : Event → Prop
  | .aborted => True
  | .ended (some number) ending => ending.breaks = true ∧ number ∈ numbers older
  | _ => False

-- The invariant

def QueueItem.Received (h : List (ChannelStep F × Event)) : QueueItem → Prop
  | .line frame => frame ∈ frames h
  | .eof | .invalid | .error => True

def Place.Ok (h : List (ChannelStep F × Event)) (s : Channel F) : Place F → Prop
  | .idle | .checkAborted _ | .checkRequest _ => True
  | .number _ => s.started = true
  | .write _ n => s.started = true ∧ n = s.sequence ∧ n ∉ numbers h
  | .flush _ n | .setDeadline _ n | .askCancelled _ n _ | .askClock _ n _ | .take _ n _ => n ∈ numbers h
  | .receive _ n item => n ∈ numbers h ∧ item.Received h
  | .settle _ n frame _ => Answered h n frame
  | .breaking at_ n ending =>
    (at_ ≠ .enter → s.aborted = true) ∧ ∀ frame, ending.frame? = some frame → Answered h n frame
  | .finish none ending => ending.frame? = none
  | .finish (some n) ending =>
    (ending.breaks = true → n ∈ numbers h → s.aborted = true) ∧
      ∀ frame, ending.frame? = some frame → Answered h n frame
  | .aborting at_ => at_ ≠ .enter → s.aborted = true

structure Inv (h : List (ChannelStep F × Event)) (s : Channel F) : Prop where
  once : (numbers h).Nodup
  numbered : ∀ number ∈ numbers h, number ≤ s.sequence
  versioned : ∀ version ∈ versions h, version ≤ s.lastStateVersion
  queued : ∀ item, s.responses = some item → item.Received h
  reading : ∀ item, s.reader = .put item → item.Received h
  others : ∀ thread at_, s.others thread = some at_ → at_ ≠ .enter → s.aborted = true
  place : s.caller.Ok h s

/-- Past the check of the flag, and the input is closed. -/
def Place.Stopped (s : Channel F) : Place F → Prop
  | .checkRequest _ => s.started = false ∨ s.stdinOpen = false
  | .number _ | .write _ _ => s.stdinOpen = false
  | _ => True

/-- The channel is aborted, and a caller that had passed the check of the flag
finds its input closed. -/
def Broken (s : Channel F) : Prop := s.aborted = true ∧ s.caller.Stopped s

-- What the caller does not do

structure Keeps (s s' : Channel F) : Prop where
  sequence : s'.sequence = s.sequence
  version : s'.lastStateVersion = s.lastStateVersion
  started : s'.started = s.started
  aborted : s.aborted = true → s'.aborted = true
  closed : s.stdinOpen = false → s'.stdinOpen = false

structure Beside (s s' : Channel F) : Prop extends Keeps s s' where
  caller : s'.caller = s.caller

/-- A history that is longer by what neither writes nor accepts. -/
structure Longer (h h' : List (ChannelStep F × Event)) : Prop where
  kept : ∀ frame ∈ frames h, frame ∈ frames h'
  written : numbers h' = numbers h
  accepted : versions h' = versions h

theorem Longer.cons {i : ChannelStep F} {e : Event} (hn : e.number? = none) (hv : e.version? = none) :
    Longer h ((i, e) :: h) := by
  refine ⟨fun frame hframe => ?_, ?_, ?_⟩
  · simp only [frames, List.filterMap_cons]
    split
    · exact hframe
    · exact List.mem_cons_of_mem _ hframe
  · simp [numbers, hn]
  · simp [versions, hv]

theorem QueueItem.Received.longer {item : QueueItem} (hi : item.Received h) {h' : List (ChannelStep F × Event)}
    (hl : Longer h h') : item.Received h' := by
  cases item with
  | line frame => exact hl.kept frame hi
  | eof | invalid | error => trivial

theorem Answered.longer {number : Nat} {frame : Frame} (ha : Answered h number frame)
    {h' : List (ChannelStep F × Event)} (hl : Longer h h') : Answered h' number frame := by
  obtain ⟨hframe, hnumber, fields, version, hvalue, hid, hversion, hle⟩ := ha
  exact ⟨hl.kept frame hframe, hl.written ▸ hnumber, fields, version, hvalue, hid, hversion, hl.accepted ▸ hle⟩

theorem Place.Ok.keeps {p : Place F} (hp : p.Ok h s) {h' : List (ChannelStep F × Event)} (hl : Longer h h')
    (hb : Keeps s s') : p.Ok h' s' := by
  have hn := hl.written
  cases p with
  | idle | checkAborted | checkRequest => trivial
  | number => exact hb.started.trans hp
  | write => exact ⟨hb.started.trans hp.1, hp.2.1.trans hb.sequence.symm, hn ▸ hp.2.2⟩
  | flush | setDeadline | askCancelled | askClock | take =>
    simp only [Place.Ok, hn] at hp ⊢
    exact hp
  | receive => exact ⟨hn ▸ hp.1, hp.2.longer hl⟩
  | settle => exact Answered.longer hp hl
  | breaking => exact ⟨fun hne => hb.aborted (hp.1 hne), fun frame hf => (hp.2 frame hf).longer hl⟩
  | finish number =>
    cases number with
    | none => exact hp
    | some number => exact ⟨fun he hm => hb.aborted (hp.1 he (hn ▸ hm)), fun frame hf => (hp.2 frame hf).longer hl⟩
  | aborting => exact fun hne => hb.aborted (hp hne)

theorem Inv.beside (hi : Inv h s) {h' : List (ChannelStep F × Event)} (hl : Longer h h') (hb : Beside s s')
    (hqueued : ∀ item, s'.responses = some item → item.Received h')
    (hreading : ∀ item, s'.reader = .put item → item.Received h')
    (hothers : ∀ thread at_, s'.others thread = some at_ → at_ ≠ .enter → s'.aborted = true) : Inv h' s' := by
  refine ⟨hl.written ▸ hi.once, ?_, ?_, hqueued, hreading, hothers, ?_⟩
  · rw [hl.written, hb.sequence]
    exact hi.numbered
  · rw [hl.accepted, hb.version]
    exact hi.versioned
  · rw [hb.caller]
    exact hi.place.keeps hl hb.toKeeps

theorem Broken.beside (h : Broken s) (hb : Beside s s') : Broken s' := by
  refine ⟨hb.aborted h.1, ?_⟩
  have hplace := h.2
  rw [hb.caller]
  cases hcaller : s.caller with
  | checkRequest =>
    rw [hcaller] at hplace
    exact hplace.imp hb.started.trans hb.closed
  | number | write =>
    rw [hcaller] at hplace
    exact hb.closed hplace
  | _ => trivial

-- Aborting

structure Aborts (s : Channel F) (r : Event × Option AbortPlace × Channel F) : Prop where
  beside : Beside s r.2.2
  rest : r.2.2.responses = s.responses ∧ r.2.2.reader = s.reader ∧ r.2.2.others = s.others
  event : r.1 = .quiet ∨ r.1 = .aborted ∧ r.2.2.aborted = true ∧ (r.2.2.started = false ∨ r.2.2.stdinOpen = false)
  next : ∀ at_, r.2.1 = some at_ → at_ ≠ .enter → r.2.2.aborted = true
  through : r.2.1 = none → r.2.2.aborted = true

theorem abortStep_aborts {at_ : AbortPlace} (ha : at_ ≠ .enter → s.aborted = true) : Aborts s (abortStep s at_) := by
  cases at_ with
  | enter =>
    unfold abortStep
    dsimp only
    split
    · exact ⟨⟨⟨rfl, rfl, rfl, id, id⟩, rfl⟩, ⟨rfl, rfl, rfl⟩, .inl rfl, fun at_ h hne => (hne (Option.some.inj h).symm).elim, nofun⟩
    split
    next haborted =>
      exact ⟨⟨⟨rfl, rfl, rfl, id, id⟩, rfl⟩, ⟨rfl, rfl, rfl⟩, .inl rfl, nofun, fun _ => haborted⟩
    split
    next hstarted =>
      exact ⟨⟨⟨rfl, rfl, rfl, fun _ => rfl, id⟩, rfl⟩, ⟨rfl, rfl, rfl⟩, .inr ⟨rfl, rfl, .inl hstarted⟩, nofun, fun _ => rfl⟩
    · exact ⟨⟨⟨rfl, rfl, rfl, fun _ => rfl, id⟩, rfl⟩, ⟨rfl, rfl, rfl⟩, .inl rfl, fun _ _ _ => rfl, nofun⟩
  | closeStdin =>
    have haborted := ha nofun
    exact ⟨⟨⟨rfl, rfl, rfl, id, fun _ => rfl⟩, rfl⟩, ⟨rfl, rfl, rfl⟩, .inr ⟨rfl, haborted, .inr rfl⟩,
      fun _ _ _ => haborted, nofun⟩
  | terminate =>
    exact ⟨⟨⟨rfl, rfl, rfl, id, id⟩, rfl⟩, ⟨rfl, rfl, rfl⟩, .inl rfl, nofun, fun _ => ha nofun⟩

theorem Aborts.longer {r : Event × Option AbortPlace × Channel F} (ha : Aborts s r) {i : ChannelStep F} :
    Longer h ((i, r.1) :: h) := by
  obtain he | ⟨he, -, -⟩ := ha.event
  · exact .cons (by rw [he]; rfl) (by rw [he]; rfl)
  · exact .cons (by rw [he]; rfl) (by rw [he]; rfl)

theorem Place.Ok.broken (hp : s.caller.Ok h s) (haborted : s.aborted = true)
    (hclosed : s.started = false ∨ s.stdinOpen = false) : Broken s := by
  refine ⟨haborted, ?_⟩
  cases hcaller : s.caller with
  | checkRequest => exact hclosed
  | number =>
    rw [hcaller] at hp
    exact hclosed.resolve_left (by rw [show s.started = true from hp]; nofun)
  | write =>
    rw [hcaller] at hp
    exact hclosed.resolve_left (by rw [hp.1]; nofun)
  | _ => trivial

-- Steps of the others

theorem readerStep_inv (hi : Inv h s) (i : ChannelStep F) (r : Reading) :
    Inv ((i, (readerStep r s).1) :: h) (readerStep r s).2 := by
  have hquiet : Longer h ((i, .quiet) :: h) := .cons rfl rfl
  have hsame : Beside s s := ⟨⟨rfl, rfl, rfl, id, id⟩, rfl⟩
  have hstay : Inv ((i, .quiet) :: h) s :=
    hi.beside hquiet hsame (fun item hr => (hi.queued item hr).longer hquiet)
      (fun item hr => (hi.reading item hr).longer hquiet) hi.others
  have hmark : ∀ item : QueueItem, (∀ frame, item ≠ .line frame) → Inv ((i, .quiet) :: h) { s with reader := .put item } := by
    intro item hitem
    refine hi.beside hquiet ⟨⟨rfl, rfl, rfl, id, id⟩, rfl⟩ (fun item hr => (hi.queued item hr).longer hquiet) ?_ hi.others
    intro item' hput
    cases hput
    cases item with
    | line frame => exact (hitem frame rfl).elim
    | eof | invalid | error => trivial
  unfold readerStep
  split
  · exact hstay
  · exact hstay
  · cases r with
    | raised => exact hmark _ nofun
    | line frame =>
      dsimp only
      split
      · exact hmark _ nofun
      split
      · exact hmark _ nofun
      have hlonger : Longer h ((i, .received frame) :: h) := .cons rfl rfl
      refine hi.beside hlonger ⟨⟨rfl, rfl, rfl, id, id⟩, rfl⟩ (fun item hr => (hi.queued item hr).longer hlonger) ?_ hi.others
      intro item hput
      cases hput
      exact List.mem_cons_self
  · next item hput =>
    split
    · exact hstay
    · refine hi.beside hquiet ⟨⟨rfl, rfl, rfl, id, id⟩, rfl⟩ ?_ ?_ hi.others
      · intro item' hput'
        cases hput'
        exact (hi.reading item hput).longer hquiet
      · intro item' hput'
        cases item <;> cases hput'

theorem readerStep_beside (r : Reading) : Beside s (readerStep r s).2 := by
  unfold readerStep
  repeat' split
  all_goals exact ⟨⟨rfl, rfl, rfl, id, id⟩, rfl⟩

theorem otherStep_beside (hi : Inv h s) (thread : Nat) :
    Beside s (otherStep thread s).2 ∧ Aborts s (abortStep s ((s.others thread).getD .enter)) := by
  have ha : Aborts s (abortStep s ((s.others thread).getD .enter)) := by
    refine abortStep_aborts fun hne => ?_
    cases hat : s.others thread with
    | none => rw [hat] at hne; exact (hne rfl).elim
    | some at_ => rw [hat] at hne; exact hi.others thread at_ hat hne
  have hb := ha.beside
  exact ⟨⟨⟨hb.sequence, hb.version, hb.started, hb.aborted, hb.closed⟩, hb.caller⟩, ha⟩

theorem otherStep_inv (hi : Inv h s) (i : ChannelStep F) (thread : Nat) :
    Inv ((i, (otherStep thread s).1) :: h) (otherStep thread s).2 := by
  obtain ⟨hb, ha⟩ := otherStep_beside hi thread
  have hlonger : Longer h ((i, (otherStep thread s).1) :: h) := ha.longer
  obtain ⟨hresponses, hreader, hothers⟩ := ha.rest
  refine hi.beside hlonger hb ?_ ?_ ?_
  · intro item hr
    exact (hi.queued item (hresponses ▸ hr)).longer hlonger
  · intro item hr
    exact (hi.reading item (hreader ▸ hr)).longer hlonger
  · intro t at_ hat hne
    by_cases ht : t = thread
    · exact ha.next at_ ((if_pos ht).symm.trans hat) hne
    · refine hb.aborted (hi.others t at_ ?_ hne)
      rw [← hothers]
      exact (if_neg ht).symm.trans hat

-- Steps of the caller

theorem Inv.moveTo (hi : Inv h s) (i : ChannelStep F) {p : Place F} (hp : p.Ok h s) :
    Inv ((i, .quiet) :: h) { s with caller := p } := by
  have hlonger : Longer h ((i, .quiet) :: h) := .cons rfl rfl
  refine ⟨hi.once, hi.numbered, hi.versioned, fun item hr => (hi.queued item hr).longer hlonger,
    fun item hr => (hi.reading item hr).longer hlonger, hi.others, ?_⟩
  exact hp.keeps hlonger ⟨rfl, rfl, rfl, id, id⟩

theorem Inv.raise (hi : Inv h s) (i : ChannelStep F) (number : Nat) (message : String) :
    Inv ((i, .quiet) :: h) { s with caller := .breaking .enter number (.raised message) } :=
  hi.moveTo i ⟨fun hne => (hne rfl).elim, nofun⟩

theorem Inv.stay (hi : Inv h s) (i : ChannelStep F) : Inv ((i, .quiet) :: h) s :=
  hi.moveTo i hi.place

theorem Inv.write (hi : Inv h s) (i : ChannelStep F) {number : Nat} (hn : number = s.sequence) (hnew : number ∉ numbers h)
    {p : Place F} (hp : ∀ h', number ∈ numbers h' → p.Ok h' s) :
    Inv ((i, .written number) :: h) { s with caller := p } := by
  have hreceived : ∀ {item : QueueItem}, item.Received h → item.Received ((i, .written number) :: h) := by
    intro item hr
    cases item with
    | line frame => exact hr
    | eof | invalid | error => trivial
  have hplace : ({ s with caller := p } : Channel F).caller.Ok ((i, .written number) :: h) { s with caller := p } := by
    have hp' := hp ((i, .written number) :: h) List.mem_cons_self
    exact hp'.keeps ⟨fun _ hf => hf, rfl, rfl⟩ ⟨rfl, rfl, rfl, id, id⟩
  refine ⟨List.nodup_cons.mpr ⟨hnew, hi.once⟩, ?_, hi.versioned, fun item hr => hreceived (hi.queued item hr),
    fun item hr => hreceived (hi.reading item hr), hi.others, hplace⟩
  intro m hm
  rcases List.mem_cons.mp hm with rfl | hm
  · exact hn.le
  · exact hi.numbered m hm

theorem correlate_ok {controllerId id : String} {last : Int} {value : Json} {response : Correlated}
    (hc : correlate controllerId last id value = .ok response) :
    ∃ fields, value = .obj fields ∧ Json.IsStr id (fields.lookup "request_id") ∧
      Json.toInt? (fields.lookup "state_version") = some response.version ∧ last ≤ response.version := by
  cases value with
  | obj fields =>
    simp only [correlate] at hc
    split at hc
    · cases hc
    split at hc
    · cases hc
    split at hc
    · cases hc
    next version hversion =>
      split at hc
      next hcond =>
        split at hc
        · cases hc
          exact ⟨fields, rfl, hcond.2.2.1, hversion, hcond.2.2.2⟩
        · cases hc
      · cases hc
  | _ => cases hc

theorem Inv.accept (hi : Inv h s) (i : ChannelStep F) {controllerId : String} {r : Request F} {number : Nat} {frame : Frame}
    {value : Json} {response : Correlated} (hnumber : number ∈ numbers h) (hframe : frame ∈ frames h)
    (hvalue : frame.value = some value)
    (hc : correlate controllerId s.lastStateVersion (requestId number) value = .ok response) :
    Inv ((i, .accepted number response.version) :: h)
      { s with lastStateVersion := response.version, caller := .settle r number frame response } := by
  obtain ⟨fields, rfl, hid, hversion, hle⟩ := correlate_ok hc
  have hreceived : ∀ {item : QueueItem}, item.Received h → item.Received ((i, .accepted number response.version) :: h) := by
    intro item hr
    cases item with
    | line frame => exact hr
    | eof | invalid | error => trivial
  have hversions : ∀ v ∈ versions ((i, .accepted number response.version) :: h), v ≤ response.version := by
    intro v hv
    rcases List.mem_cons.mp hv with rfl | hv
    · exact le_refl _
    · exact (hi.versioned v hv).trans hle
  exact ⟨hi.once, hi.numbered, hversions, fun item hr => hreceived (hi.queued item hr),
    fun item hr => hreceived (hi.reading item hr), hi.others, hframe, hnumber, fields, response.version, hvalue, hid, hversion,
    hversions⟩

theorem Inv.abort (hi : Inv h s) (i : ChannelStep F) {at_ : AbortPlace} (hat : at_ ≠ .enter → s.aborted = true)
    {p : Place F} (hp : ∀ h' s', Longer h h' → (∀ a, (abortStep s at_).2.1 = some a → a ≠ .enter → s'.aborted = true) →
      ((abortStep s at_).2.1 = none → s'.aborted = true) → p.Ok h' s') :
    Inv ((i, (abortStep s at_).1) :: h) { (abortStep s at_).2.2 with caller := p } := by
  have ha := abortStep_aborts hat
  have hlonger : Longer h ((i, (abortStep s at_).1) :: h) := ha.longer
  obtain ⟨hresponses, hreader, hothers⟩ := ha.rest
  refine ⟨hlonger.written ▸ hi.once, ?_, ?_, ?_, ?_, ?_, hp _ _ hlonger ha.next ha.through⟩
  · rw [hlonger.written]
    show ∀ number ∈ numbers h, number ≤ (abortStep s at_).2.2.sequence
    rw [ha.beside.sequence]
    exact hi.numbered
  · rw [hlonger.accepted]
    show ∀ version ∈ versions h, version ≤ (abortStep s at_).2.2.lastStateVersion
    rw [ha.beside.version]
    exact hi.versioned
  · intro item hr
    exact (hi.queued item (hresponses ▸ hr)).longer hlonger
  · intro item hr
    exact (hi.reading item (hreader ▸ hr)).longer hlonger
  · intro thread a hthread hne
    exact ha.beside.aborted (hi.others thread a (hothers ▸ hthread) hne)

end

section
variable {F : Type} [PyFloat F] {cfg : ChannelConfig F} {s s' : Channel F} {h : List (ChannelStep F × Event)}

theorem callerStep_inv (hi : Inv h s) (i : ChannelStep F) (c : CallerReading F) :
    Inv ((i, (callerStep cfg c s).1) :: h) (callerStep cfg c s).2 := by
  have hplace := hi.place
  unfold callerStep
  split
  next hcaller =>
    split
    · split
      · exact hi.stay i
      · have hlonger : Longer h ((i, .quiet) :: h) := .cons rfl rfl
        refine ⟨hi.once, hi.numbered, hi.versioned, fun item hr => (hi.queued item hr).longer hlonger, nofun, hi.others, ?_⟩
        show s.caller.Ok _ _
        rw [hcaller]
        trivial
    · exact hi.moveTo i trivial
    · split
      · have hlonger : Longer h ((i, .quiet) :: h) := .cons rfl rfl
        refine ⟨hi.once, hi.numbered, hi.versioned, fun item hr => (hi.queued item hr).longer hlonger,
          fun item hr => (hi.reading item hr).longer hlonger, hi.others, ?_⟩
        show s.caller.Ok _ _
        rw [hcaller]
        trivial
      · exact hi.stay i
    · exact hi.moveTo i fun hne => (hne rfl).elim
  next r hcaller =>
    split
    · exact hi.stay i
    split
    · exact hi.moveTo i rfl
    · exact hi.moveTo i trivial
  next r hcaller =>
    split
    · exact hi.moveTo i rfl
    next hstarted =>
      split
      · exact hi.moveTo i rfl
      · exact hi.moveTo i (Bool.eq_true_of_not_eq_false hstarted)
  next r hcaller =>
    rw [hcaller] at hplace
    have hfresh : s.sequence + 1 ∉ numbers h := fun hm => absurd (hi.numbered _ hm) (by omega)
    have hi' : Inv h { s with sequence := s.sequence + 1, caller := .idle } :=
      ⟨hi.once, fun n hn => (hi.numbered n hn).trans (Nat.le_succ _), hi.versioned, hi.queued, hi.reading, hi.others, trivial⟩
    dsimp only
    split
    · exact hi'.moveTo i ⟨fun _ hm => (hfresh hm).elim, nofun⟩
    · exact hi'.moveTo i ⟨hplace, rfl, hfresh⟩
  next r number hcaller =>
    rw [hcaller] at hplace
    obtain ⟨-, hn, hnew⟩ := hplace
    split
    · exact hi.raise i _ _
    split
    · exact hi.write i hn hnew fun h' hm => hm
    · exact hi.write i hn hnew fun h' hm => ⟨fun hne => (hne rfl).elim, nofun⟩
    · exact hi.raise i _ _
  next r number hcaller =>
    rw [hcaller] at hplace
    split
    · exact hi.moveTo i hplace
    · exact hi.raise i _ _
  next r number hcaller =>
    rw [hcaller] at hplace
    exact hi.moveTo i hplace
  next r number deadline hcaller =>
    rw [hcaller] at hplace
    split
    · exact hi.raise i _ _
    · exact hi.raise i _ _
    · exact hi.moveTo i hplace
  next r number deadline hcaller =>
    rw [hcaller] at hplace
    dsimp only
    split
    · exact hi.raise i _ _
    · exact hi.moveTo i hplace
  next r number deadline hcaller =>
    rw [hcaller] at hplace
    split
    · exact hi.moveTo i hplace
    next item hitem =>
      have hi' : Inv h { s with responses := none, caller := .idle } :=
        ⟨hi.once, hi.numbered, hi.versioned, nofun, hi.reading, hi.others, trivial⟩
      exact hi'.moveTo i ⟨hplace, hi.queued item hitem⟩
  next r number item hcaller =>
    rw [hcaller] at hplace
    obtain ⟨hnumber, hitem⟩ := hplace
    split
    next frame =>
      split
      · exact hi.raise i _ _
      next value hvalue =>
        split
        · exact hi.raise i _ _
        next response hc => exact hi.accept i hnumber hitem hvalue hc
    all_goals exact hi.raise i _ _
  next r number frame response hcaller =>
    rw [hcaller] at hplace
    have hends : ∀ {ending : Ending}, ending.frame? = some frame →
        ∀ frame', ending.frame? = some frame' → Answered h number frame' := by
      intro ending he frame' he'
      rw [he] at he'
      exact Option.some.inj he' ▸ hplace
    split
    · split
      next description _ =>
        have hi' : Inv h { s with
            workerDescription := description
            shutdownComplete := if r.operation = "shutdown" then true else s.shutdownComplete
            caller := .idle } :=
          ⟨hi.once, hi.numbered, hi.versioned, hi.queued, hi.reading, hi.others, trivial⟩
        exact hi'.moveTo i ⟨nofun, hends rfl⟩
      · exact hi.moveTo i ⟨nofun, hends rfl⟩
      · exact hi.raise i _ _
    · split
      · exact hi.raise i _ _
      next error _ =>
        dsimp only
        split
        · exact hi.moveTo i ⟨fun hne => (hne rfl).elim, hends rfl⟩
        next hfatal => exact hi.moveTo i ⟨fun hbreaks => (hfatal hbreaks).elim, hends rfl⟩
  next at_ number ending hcaller =>
    rw [hcaller] at hplace
    refine hi.abort i hplace.1 fun h' s' hl hnext hthrough => ?_
    have hframes : ∀ frame, ending.frame? = some frame → Answered h' number frame :=
      fun frame hf => (hplace.2 frame hf).longer hl
    split
    next a ha => exact ⟨hnext a ha, hframes⟩
    next ha => exact ⟨fun _ _ => hthrough ha, hframes⟩
  next number ending hcaller =>
    have hlonger : Longer h ((i, .ended number ending) :: h) := .cons rfl rfl
    exact ⟨hi.once, hi.numbered, hi.versioned, fun item hr => (hi.queued item hr).longer hlonger,
      fun item hr => (hi.reading item hr).longer hlonger, hi.others, trivial⟩
  next at_ hcaller =>
    rw [hcaller] at hplace
    refine hi.abort i hplace fun h' s' hl hnext hthrough => ?_
    split
    next a ha => exact hnext a ha
    next ha => trivial

-- A broken channel

theorem callerStep_broken (hi : Inv h s) (hb : Broken s) (c : CallerReading F) :
    Broken (callerStep cfg c s).2 ∧ (callerStep cfg c s).1.number? = none := by
  have hplace := hi.place
  obtain ⟨haborted, hclosed⟩ := hb
  have haborts : ∀ {at_ : AbortPlace}, (abortStep s at_).2.2.aborted = true ∧ (abortStep s at_).1.number? = none := by
    intro at_
    have ha : Aborts s (abortStep s at_) := abortStep_aborts fun _ => haborted
    refine ⟨ha.beside.aborted haborted, ?_⟩
    obtain he | ⟨he, -, -⟩ := ha.event
    · rw [he]; rfl
    · rw [he]; rfl
  unfold callerStep
  split
  next hcaller =>
    have hidle : ∀ t : Channel F, t.aborted = true → t.caller = s.caller → Broken t := by
      intro t ht hsame
      exact ⟨ht, by rw [hsame, hcaller]; trivial⟩
    split
    · split
      · exact ⟨hidle s haborted rfl, rfl⟩
      · exact ⟨hidle _ haborted rfl, rfl⟩
    · exact ⟨⟨haborted, trivial⟩, rfl⟩
    · split
      · exact ⟨hidle _ haborted rfl, rfl⟩
      · exact ⟨hidle s haborted rfl, rfl⟩
    · exact ⟨⟨haborted, trivial⟩, rfl⟩
  next r hcaller =>
    split
    · exact ⟨⟨haborted, by rw [hcaller]; trivial⟩, rfl⟩
    · exact ⟨⟨haborted, trivial⟩, rfl⟩
  next r hcaller =>
    rw [hcaller] at hclosed
    split
    · exact ⟨⟨haborted, trivial⟩, rfl⟩
    next hstarted =>
      split
      · exact ⟨⟨haborted, trivial⟩, rfl⟩
      · exact ⟨⟨haborted, hclosed.resolve_left hstarted⟩, rfl⟩
  next r hcaller =>
    rw [hcaller] at hclosed
    dsimp only
    split
    · exact ⟨⟨haborted, trivial⟩, rfl⟩
    · exact ⟨⟨haborted, hclosed⟩, rfl⟩
  next r number hcaller =>
    rw [hcaller] at hclosed
    split
    · exact ⟨⟨haborted, trivial⟩, rfl⟩
    next hopen => exact (hopen hclosed).elim
  next r number hcaller =>
    refine ⟨⟨haborted, ?_⟩, rfl⟩
    dsimp only
    split <;> trivial
  next r number hcaller => exact ⟨⟨haborted, trivial⟩, rfl⟩
  next r number deadline hcaller =>
    dsimp only
    split <;> exact ⟨⟨haborted, trivial⟩, rfl⟩
  next r number deadline hcaller =>
    dsimp only
    split <;> exact ⟨⟨haborted, trivial⟩, rfl⟩
  next r number deadline hcaller =>
    split <;> exact ⟨⟨haborted, trivial⟩, rfl⟩
  next r number item hcaller =>
    split
    · split
      · exact ⟨⟨haborted, trivial⟩, rfl⟩
      · split <;> exact ⟨⟨haborted, trivial⟩, rfl⟩
    all_goals exact ⟨⟨haborted, trivial⟩, rfl⟩
  next r number frame response hcaller =>
    split
    · split <;> exact ⟨⟨haborted, trivial⟩, rfl⟩
    · split
      · exact ⟨⟨haborted, trivial⟩, rfl⟩
      · dsimp only
        split <;> exact ⟨⟨haborted, trivial⟩, rfl⟩
  next at_ number ending hcaller =>
    refine ⟨⟨haborts.1, ?_⟩, haborts.2⟩
    dsimp only
    split <;> trivial
  next number ending hcaller => exact ⟨⟨haborted, trivial⟩, rfl⟩
  next at_ hcaller =>
    refine ⟨⟨haborts.1, ?_⟩, haborts.2⟩
    dsimp only
    split <;> trivial

variable (cfg) in
theorem step_inv (hi : Inv h s) (i : ChannelStep F) :
    Inv ((i, ((navigationChannel cfg).step s i).1) :: h) ((navigationChannel cfg).step s i).2 := by
  cases i with
  | reader r => exact readerStep_inv hi _ r
  | caller c => exact callerStep_inv hi _ c
  | other thread => exact otherStep_inv hi _ thread

variable (cfg) in
theorem step_broken (hi : Inv h s) (hb : Broken s) (i : ChannelStep F) :
    Broken ((navigationChannel cfg).step s i).2 ∧ ((navigationChannel cfg).step s i).1.number? = none := by
  cases i with
  | reader r =>
    refine ⟨hb.beside (readerStep_beside r), ?_⟩
    show (readerStep r s).1.number? = none
    unfold readerStep
    repeat' split
    all_goals rfl
  | caller c => exact callerStep_broken hi hb c
  | other thread =>
    obtain ⟨hbeside, ha⟩ := otherStep_beside hi thread
    refine ⟨hb.beside hbeside, ?_⟩
    show (abortStep s ((s.others thread).getD .enter)).1.number? = none
    obtain he | ⟨he, -, -⟩ := ha.event
    · rw [he]; rfl
    · rw [he]; rfl

-- When an abort is through

def Place.closing : Place F → Bool
  | .breaking .terminate _ _ | .aborting .terminate => true
  | _ => false

def Place.inAbort : Place F → Bool
  | .breaking _ _ _ | .aborting _ => true
  | _ => false

/-- Where the flag is set and the channel is not broken yet, a thread holds the
lock to close the input. -/
def Taking (s : Channel F) : Prop :=
  s.aborted = true → Broken s ∨
    s.abortLock = true ∧ s.caller.closing = false ∧ ∀ thread, s.others thread ≠ some .terminate

variable (cfg) in
theorem callerStep_flags (c : CallerReading F) (hs : s.caller.inAbort = false) :
    (callerStep cfg c s).2.aborted = s.aborted ∧ (callerStep cfg c s).2.abortLock = s.abortLock ∧
      (callerStep cfg c s).2.others = s.others ∧ (callerStep cfg c s).2.caller.closing = false := by
  have hclosing : s.caller.closing = false := by
    cases hcaller : s.caller <;> simp_all [Place.closing, Place.inAbort]
  unfold callerStep
  split
  case h_13 hcaller => rw [hcaller] at hs; cases hs
  case h_15 hcaller => rw [hcaller] at hs; cases hs
  all_goals dsimp only
  all_goals try split
  all_goals try split
  all_goals try split
  all_goals first
    | exact ⟨rfl, rfl, rfl, rfl⟩
    | exact ⟨rfl, rfl, rfl, hclosing⟩

theorem abortStep_taking (hi : Inv h s) (ht : Taking s) {at_ : AbortPlace} (hat : at_ ≠ .enter → s.aborted = true)
    (hterminate : at_ = .terminate → Broken s) (haborted : (abortStep s at_).2.2.aborted = true) :
    Broken (abortStep s at_).2.2 ∨ (abortStep s at_).2.2.abortLock = true ∧ (abortStep s at_).2.1 ≠ some .terminate ∧
      s.caller.closing = false ∧ ∀ thread, s.others thread ≠ some .terminate := by
  have hbeside : Beside s (abortStep s at_).2.2 := (abortStep_aborts hat).beside
  have hplace : (abortStep s at_).2.2.caller.Ok h (abortStep s at_).2.2 := by
    rw [hbeside.caller]
    exact hi.place.keeps ⟨fun _ hf => hf, rfl, rfl⟩ hbeside.toKeeps
  cases at_ with
  | enter =>
    unfold abortStep at haborted hbeside hplace ⊢
    by_cases hlock : s.abortLock = true
    · simp only [hlock, if_true] at haborted ⊢
      obtain hb | ⟨-, hclosing, hothers⟩ := ht haborted
      · exact .inl hb
      · exact .inr ⟨trivial, nofun, hclosing, hothers⟩
    by_cases hflag : s.aborted = true
    · simp only [hlock, hflag, if_true] at haborted ⊢
      exact .inl ((ht hflag).resolve_right fun hheld => hlock hheld.1)
    by_cases hstarted : s.started = false
    · rw [if_neg hlock, if_neg hflag, if_pos hstarted] at hplace ⊢
      exact .inl (hplace.broken rfl (.inl hstarted))
    · rw [if_neg hlock, if_neg hflag, if_neg hstarted]
      refine .inr ⟨rfl, nofun, ?_, fun thread hthread => hflag (hi.others thread _ hthread nofun)⟩
      have hp := hi.place
      cases hcaller : s.caller with
      | breaking a =>
        rw [hcaller] at hp
        cases a with
        | terminate => exact (hflag (hp.1 nofun)).elim
        | _ => rfl
      | aborting a =>
        rw [hcaller] at hp
        cases a with
        | terminate => exact (hflag (hp nofun)).elim
        | _ => rfl
      | _ => rfl
  | closeStdin => exact .inl (hplace.broken haborted (.inr rfl))
  | terminate => exact .inl ((hterminate rfl).beside hbeside)

theorem caller_taking (hi : Inv h s) (ht : Taking s) {at_ : AbortPlace} (hat : at_ ≠ .enter → s.aborted = true)
    (hclosing : at_ = .terminate → s.caller.closing = true) {p : Place F} (hp : p.Stopped s')
    (hnext : (abortStep s at_).2.1 ≠ some .terminate → p.closing = false)
    (hrun : s' = { (abortStep s at_).2.2 with caller := p }) : Taking s' := by
  intro haborted
  have hterminate : at_ = .terminate → Broken s := by
    intro hend
    refine (ht (hat (by rw [hend]; nofun))).resolve_right fun hheld => ?_
    rw [hclosing hend] at hheld
    cases hheld.2.1
  subst hrun
  obtain hb | ⟨hheld, hne, -, hfree⟩ := abortStep_taking hi ht hat hterminate haborted
  · exact .inl ⟨haborted, hp⟩
  · refine .inr ⟨hheld, hnext hne, ?_⟩
    show ∀ thread, (abortStep s at_).2.2.others thread ≠ _
    rw [(abortStep_aborts hat).rest.2.2]
    exact hfree

theorem step_taking (hi : Inv h s) (ht : Taking s) (i : ChannelStep F) :
    Taking ((navigationChannel cfg).step s i).2 := by
  intro haborted
  cases i with
  | reader r =>
    have hb : Beside s (readerStep r s).2 := readerStep_beside r
    have hsame : (readerStep r s).2.aborted = s.aborted ∧ (readerStep r s).2.abortLock = s.abortLock ∧
        (readerStep r s).2.others = s.others := by
      unfold readerStep
      repeat' split
      all_goals exact ⟨rfl, rfl, rfl⟩
    obtain ⟨hflag, hlock, hothers⟩ := hsame
    obtain hbroken | ⟨hheld, hclosing, hfree⟩ := ht (hflag ▸ haborted)
    · exact .inl (hbroken.beside hb)
    · refine .inr ⟨hlock.trans hheld, ?_, ?_⟩
      · show (readerStep r s).2.caller.closing = false
        rw [hb.caller]
        exact hclosing
      · show ∀ thread, (readerStep r s).2.others thread ≠ _
        rw [hothers]
        exact hfree
  | other thread =>
    have hat : (s.others thread).getD .enter ≠ .enter → s.aborted = true := by
      intro hne
      cases hother : s.others thread with
      | none => rw [hother] at hne; exact (hne rfl).elim
      | some at_ => rw [hother] at hne; exact hi.others thread at_ hother hne
    have hterminate : (s.others thread).getD .enter = .terminate → Broken s := by
      intro hget
      cases hother : s.others thread with
      | none => rw [hother] at hget; cases hget
      | some at_ =>
        rw [hother] at hget
        have hown : s.others thread = some .terminate := hother.trans (congrArg some hget)
        exact (ht (hi.others thread _ hown nofun)).resolve_right fun hheld => hheld.2.2 thread hown
    obtain hb | ⟨hheld, hnext, hclosing, hfree⟩ := abortStep_taking hi ht hat hterminate haborted
    · exact .inl (hb.beside ⟨⟨rfl, rfl, rfl, id, id⟩, rfl⟩)
    · refine .inr ⟨hheld, ?_, fun t => ?_⟩
      · show (abortStep s ((s.others thread).getD .enter)).2.2.caller.closing = false
        rw [(abortStep_aborts hat).beside.caller]
        exact hclosing
      · show (if t = thread then (abortStep s ((s.others thread).getD .enter)).2.1
          else (abortStep s ((s.others thread).getD .enter)).2.2.others t) ≠ _
        split
        · exact hnext
        · rw [(abortStep_aborts hat).rest.2.2]
          exact hfree t
  | caller c =>
    by_cases hin : s.caller.inAbort = false
    · obtain ⟨hflag, hlock, hothers, hclosing⟩ := callerStep_flags cfg c hin
      obtain hb | ⟨hheld, -, hfree⟩ := ht (hflag ▸ haborted)
      · exact .inl (callerStep_broken hi hb c).1
      · refine .inr ⟨hlock.trans hheld, hclosing, ?_⟩
        show ∀ thread, (callerStep cfg c s).2.others thread ≠ _
        rw [hothers]
        exact hfree
    · have hp := hi.place
      cases hcaller : s.caller with
      | breaking at_ number ending =>
        rw [hcaller] at hp
        have hrun : (callerStep cfg c s).2 = { (abortStep s at_).2.2 with
            caller := (abortStep s at_).2.1.elim (.finish (some number) ending) (.breaking · number ending) } := by
          unfold callerStep
          rw [hcaller]
          dsimp only
          cases (abortStep s at_).2.1 <;> rfl
        refine caller_taking hi ht hp.1 (fun hend => by rw [hcaller, hend]; rfl) ?_ (fun hne => ?_) hrun haborted
        · cases (abortStep s at_).2.1 <;> trivial
        · cases ha : (abortStep s at_).2.1 with
          | some a => cases a <;> first | rfl | exact (hne ha).elim
          | none => rfl
      | aborting at_ =>
        rw [hcaller] at hp
        have hrun : (callerStep cfg c s).2 = { (abortStep s at_).2.2 with
            caller := (abortStep s at_).2.1.elim .idle .aborting } := by
          unfold callerStep
          rw [hcaller]
          dsimp only
          cases (abortStep s at_).2.1 <;> rfl
        refine caller_taking hi ht hp (fun hend => by rw [hcaller, hend]; rfl) ?_ (fun hne => ?_) hrun haborted
        · cases (abortStep s at_).2.1 <;> trivial
        · cases ha : (abortStep s at_).2.1 with
          | some a => cases a <;> first | rfl | exact (hne ha).elim
          | none => rfl
      | _ => rw [hcaller] at hin; exact (hin rfl).elim

-- Runs

theorem init_inv : Inv [] ({} : Channel F) := ⟨List.nodup_nil, nofun, nofun, nofun, nofun, nofun, trivial⟩

theorem runs_inv {ok : Channel F → ChannelStep F → Prop} (hr : (navigationChannel cfg).Runs ok {} h s) : Inv h s :=
  hr.historyInvariant init_inv fun _ _ i hi _ => step_inv cfg hi i

theorem runs_taking {ok : Channel F → ChannelStep F → Prop} (hr : (navigationChannel cfg).Runs ok {} h s) : Taking s := by
  have hboth : Inv h s ∧ Taking s := by
    refine hr.historyInvariant (I := fun h s => Inv h s ∧ Taking s) ⟨init_inv, nofun⟩ ?_
    intro h s i ⟨hi, ht⟩ _
    exact ⟨step_inv cfg hi i, step_taking hi ht i⟩
  exact hboth.2

theorem callerStep_event (c : CallerReading F) (hs : s.caller.inAbort = false) :
    (callerStep cfg c s).1 = .quiet ∨ (∃ n, (callerStep cfg c s).1 = .written n) ∨
      (∃ n v, (callerStep cfg c s).1 = .accepted n v) ∨
      ∃ number ending, s.caller = .finish number ending ∧ (callerStep cfg c s).1 = .ended number ending := by
  unfold callerStep
  split
  case h_13 hcaller => rw [hcaller] at hs; cases hs
  case h_15 hcaller => rw [hcaller] at hs; cases hs
  case h_14 number ending hcaller => exact .inr (.inr (.inr ⟨number, ending, hcaller, rfl⟩))
  all_goals dsimp only
  all_goals try split
  all_goals try split
  all_goals try split
  all_goals first
    | exact .inl rfl
    | exact .inr (.inl ⟨_, rfl⟩)
    | exact .inr (.inr (.inl ⟨_, _, rfl⟩))

variable (cfg h) in
theorem callerStep_inAbort (c : CallerReading F) (hs : s.caller.inAbort = true) :
    ∃ at_ p, (at_ ≠ .enter → s.caller.Ok h s → s.aborted = true) ∧ (callerStep cfg c s).1 = (abortStep s at_).1 ∧
      (callerStep cfg c s).2 = { (abortStep s at_).2.2 with caller := p } := by
  unfold callerStep
  cases hcaller : s.caller with
  | breaking at_ number ending => exact ⟨at_, _, fun hne hp => hp.1 hne, rfl, rfl⟩
  | aborting at_ => exact ⟨at_, _, fun hne hp => hp hne, rfl, rfl⟩
  | _ => rw [hcaller] at hs; cases hs

theorem breaks_broken (hi : Inv h s) {i : ChannelStep F} {event : Event} (hstep : (navigationChannel cfg).step s i = (event, s'))
    (hbreaks : Breaks h event) : Broken s' := by
  have hi' : Inv ((i, event) :: h) s' := by
    have := step_inv cfg hi i
    rw [hstep] at this
    exact this
  cases i with
  | reader r =>
    have hevent : (readerStep r s).1 = event := congrArg Prod.fst hstep
    unfold readerStep at hevent
    repeat' split at hevent
    all_goals subst hevent; exact hbreaks.elim
  | other thread =>
    obtain ⟨-, ha⟩ := otherStep_beside hi thread
    obtain rfl : (abortStep s ((s.others thread).getD .enter)).1 = event := congrArg Prod.fst hstep
    obtain he | ⟨-, haborted, hclosed⟩ := ha.event
    · rw [he] at hbreaks
      exact hbreaks.elim
    · obtain rfl : (otherStep thread s).2 = s' := congrArg Prod.snd hstep
      exact hi'.place.broken haborted hclosed
  | caller c =>
    obtain rfl : (callerStep cfg c s).1 = event := congrArg Prod.fst hstep
    obtain rfl : (callerStep cfg c s).2 = s' := congrArg Prod.snd hstep
    cases hin : s.caller.inAbort with
    | true =>
      obtain ⟨at_, p, hat, hevent, hstate⟩ := callerStep_inAbort cfg h c hin
      have ha := abortStep_aborts fun hne => hat hne hi.place
      rw [hstate] at hi' ⊢
      obtain he | ⟨-, haborted, hclosed⟩ := ha.event
      · rw [hevent, he] at hbreaks
        exact hbreaks.elim
      · exact hi'.place.broken haborted hclosed
    | false =>
      obtain he | ⟨n, he⟩ | ⟨n, v, he⟩ | ⟨number, ending, hcaller, he⟩ := callerStep_event c hin
      · rw [he] at hbreaks; exact hbreaks.elim
      · rw [he] at hbreaks; exact hbreaks.elim
      · rw [he] at hbreaks; exact hbreaks.elim
      have hp := hi.place
      rw [hcaller] at hp
      rw [he] at hbreaks
      cases number with
      | none => exact hbreaks.elim
      | some number =>
        have haborted := hp.1 hbreaks.1 hbreaks.2
        unfold callerStep
        rw [hcaller]
        exact ⟨haborted, trivial⟩

theorem ended_answered (hi : Inv h s) {i : ChannelStep F} {number : Option Nat} {ending : Ending} {frame : Frame}
    (hstep : (navigationChannel cfg).step s i = (.ended number ending, s')) (hframe : ending.frame? = some frame) :
    ∃ n, number = some n ∧ Answered h n frame := by
  cases i with
  | reader r =>
    have hevent : (readerStep r s).1 = .ended number ending := congrArg Prod.fst hstep
    unfold readerStep at hevent
    repeat' split at hevent
    all_goals cases hevent
  | other thread =>
    obtain ⟨-, ha⟩ := otherStep_beside hi thread
    have hevent : (abortStep s ((s.others thread).getD .enter)).1 = .ended number ending := congrArg Prod.fst hstep
    obtain he | ⟨he, -⟩ := ha.event
    · rw [he] at hevent; cases hevent
    · rw [he] at hevent; cases hevent
  | caller c =>
    have hevent : (callerStep cfg c s).1 = .ended number ending := congrArg Prod.fst hstep
    cases hin : s.caller.inAbort with
    | true =>
      obtain ⟨at_, p, hat, habort, -⟩ := callerStep_inAbort cfg h c hin
      have ha := abortStep_aborts fun hne => hat hne hi.place
      rw [habort] at hevent
      obtain he | ⟨he, -⟩ := ha.event
      · rw [he] at hevent; cases hevent
      · rw [he] at hevent; cases hevent
    | false =>
      obtain he | ⟨n, he⟩ | ⟨n, v, he⟩ | ⟨number', ending', hcaller, he⟩ := callerStep_event c hin
      · rw [he] at hevent; cases hevent
      · rw [he] at hevent; cases hevent
      · rw [he] at hevent; cases hevent
      rw [he] at hevent
      cases hevent
      have hp := hi.place
      rw [hcaller] at hp
      cases number with
      | none => rw [show ending.frame? = none from hp] at hframe; cases hframe
      | some n => exact ⟨n, rfl, hp.2 frame hframe⟩

theorem numbers_of_broken {ok : Channel F → ChannelStep F → Prop} {newer older : List (ChannelStep F × Event)}
    (hr : (navigationChannel cfg).Runs ok {} (newer ++ older) s)
    (hb : ∀ s', (navigationChannel cfg).Runs ok {} older s' → Broken s') : numbers newer = [] ∧ Broken s := by
  induction newer generalizing s with
  | nil => exact ⟨rfl, hb s hr⟩
  | cons e newer ih =>
    obtain ⟨s', hr', -, hstep⟩ := Machine.Runs.newest hr
    obtain ⟨hnone, hb'⟩ := ih hr'
    obtain ⟨hbroken, hevent⟩ := step_broken cfg (runs_inv hr') hb' e.1
    rw [hstep] at hbroken hevent
    have hquiet : e.2.number? = none := hevent
    refine ⟨?_, hbroken⟩
    simp only [numbers, List.filterMap_cons, hquiet]
    exact hnone

/-- Over every run, whatever the worker writes, whenever requests run out of
time or are cancelled and whoever aborts: a request that ends with a frame ends
with one that was read, that carries its own id and a version not below any
accepted before; a frame answers one request only; each id is written at most
once; and after an abort took effect, or a written request ended in any other
way, nothing is written, as it is once the flag of an abort can be read. -/
theorem channel_correlated (hr : (navigationChannel cfg).Runs Machine.always {} h s) :
    (∀ newer i number ending frame older, h = newer ++ (i, .ended number ending) :: older →
      ending.frame? = some frame → ∃ n, number = some n ∧ Answered older n frame) ∧
    (∀ i j m n ending ending' frame, (i, .ended (some m) ending) ∈ h → (j, .ended (some n) ending') ∈ h →
      ending.frame? = some frame → ending'.frame? = some frame → m = n) ∧
    ((numbers h).map requestId).Nodup ∧
    (∀ newer i event older, h = newer ++ (i, event) :: older → Breaks older event → numbers newer = []) ∧
    (∀ newer older s', h = newer ++ older → (navigationChannel cfg).Runs Machine.always {} older s' →
      s'.aborted = true → s'.abortLock = false → numbers newer = []) := by
  have hanswered : ∀ newer i number ending frame older, h = newer ++ (i, .ended number ending) :: older →
      ending.frame? = some frame → ∃ n, number = some n ∧ Answered older n frame := by
    rintro newer i number ending frame older rfl hframe
    obtain ⟨s', hr'⟩ := Machine.Runs.older hr
    obtain ⟨t, ht, -, hstep⟩ := Machine.Runs.newest hr'
    exact ended_answered (runs_inv ht) hstep hframe
  refine ⟨hanswered, ?_, ?_, ?_, ?_⟩
  · intro i j m n ending ending' frame hm hn hframe hframe'
    obtain ⟨newer, older, hh⟩ := List.append_of_mem hm
    obtain ⟨newer', older', hh'⟩ := List.append_of_mem hn
    obtain ⟨m', hm', -, -, fields, version, hvalue, hid, -⟩ := hanswered _ _ _ _ _ _ hh hframe
    obtain ⟨n', hn', -, -, fields', version', hvalue', hid', -⟩ := hanswered _ _ _ _ _ _ hh' hframe'
    cases hm'
    cases hn'
    rw [hvalue] at hvalue'
    cases hvalue'
    revert hid hid'
    cases fields.lookup "request_id" with
    | none => exact fun hid => hid.elim
    | some value =>
      cases value with
      | str text => exact fun hid hid' => requestId_inj (hid.symm.trans hid')
      | _ => exact fun hid => hid.elim
  · exact (runs_inv hr).once.map fun _ _ => requestId_inj
  · rintro newer i event older rfl hbreaks
    refine (numbers_of_broken hr fun s' hr' => ?_).1
    obtain ⟨t, ht, -, hstep⟩ := Machine.Runs.newest hr'
    exact breaks_broken (runs_inv ht) hstep hbreaks
  · rintro newer older s' rfl hr' haborted hlock
    refine (numbers_of_broken hr fun t ht => ?_).1
    rw [hr'.unique ht]
    refine (runs_taking hr' haborted).resolve_right fun hheld => ?_
    rw [hlock] at hheld
    cases hheld.1

end

-- A frame that comes twice

def sampleConfig : ChannelConfig Grid where
  controllerId := "controller-1"
  validateSuccessResult _ description _ := .accepted description

def stopRequest : Request Grid := ⟨"stop", [], ⟨8⟩, false⟩

def stopAnswer : Frame :=
  ⟨100, true, some (.obj [("schema", .str responseSchema), ("controller_id", .str "controller-1"),
    ("request_id", .str "host-0001"), ("ok", .bool true), ("state_version", .int 1), ("result", .obj [])])⟩

def callerSteps (call : Call Grid) (count : Nat) : List (ChannelStep Grid) :=
  List.replicate count (.caller { call := call, now := ⟨0⟩ })

/-- The worker answers the first request twice; the second answer is there when
the next request asks. -/
def repeatedAnswer : List (ChannelStep Grid) :=
  callerSteps .start 1 ++ callerSteps (.request stopRequest) 6 ++
    [.reader (.line stopAnswer), .reader .raised, .reader (.line stopAnswer)] ++ callerSteps (.request stopRequest) 6 ++
    [.reader .raised] ++ callerSteps (.request stopRequest) 20

theorem repeatedAnswer_correlated :
    numbers ((navigationChannel sampleConfig).runList {} repeatedAnswer).1 = [2, 1] ∧
    ((numbers ((navigationChannel sampleConfig).runList {} repeatedAnswer).1).map requestId).Nodup ∧
    ((navigationChannel sampleConfig).runList {} repeatedAnswer).2.aborted = true :=
  ⟨by decide +kernel,
    (channel_correlated (Machine.runs_runList (Machine.stepsOk_always _ _ repeatedAnswer))).2.2.1,
    by decide +kernel⟩

end RobotLlm.Channel
