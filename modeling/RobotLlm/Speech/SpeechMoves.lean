import RobotLlm.Speech.SpeechRuntime

/-!
# What a step of the speech runtime can do

`Moves` says it once, with the event a step leaves; every invariant is derived
from it.
-/

namespace RobotLlm.Speech

open RobotLlm.Lib

abbrev SpeechEntry := SpeechStep × SpeechEvent

namespace SpeechEvent

/-- Events that leave items, admissions and windows alone. -/
def Quiet : SpeechEvent → Prop
  | .none | .started | .refused _ => True
  | _ => False

def Accepts (item : SpeechItem) : SpeechEvent → Prop
  | .queued i _ _ _ | .duplicate i => i = item
  | _ => False

/-- A text was queued for the episode at this revision. -/
def Queues (episodeId : String) (revision : Int) (fingerprint : Fingerprint) : SpeechEvent → Prop
  | .queued i r f _ => i.episodeId = episodeId ∧ r = revision ∧ f = fingerprint
  | _ => False

def Cancels (episodeId : String) : SpeechEvent → Prop
  | .episodeCancelled e _ => e = episodeId
  | _ => False

def Discards (item : SpeechItem) : SpeechEvent → Prop
  | .duplicate i => i = item
  | .queued newer _ _ replaced => replaced = some item ∧ item.sequence < newer.sequence
  | .episodeCancelled e dropped => dropped = some item ∧ e = item.episodeId
  | .closed dropped => dropped = some item
  | _ => False

end SpeechEvent

namespace SpeechRuntime

-- What a step can do

section
variable {s : SpeechRuntime} {which : SpeechItem → Bool}

@[simp] theorem cancelActive_pending : (cancelActive which s).pending = s.pending := by
  unfold cancelActive; split <;> [rfl; (split <;> rfl)]

@[simp] theorem cancelActive_windows : (cancelActive which s).windows = s.windows := by
  unfold cancelActive; split <;> [rfl; (split <;> rfl)]

@[simp] theorem cancelActive_sequence : (cancelActive which s).sequence = s.sequence := by
  unfold cancelActive; split <;> [rfl; (split <;> rfl)]

@[simp] theorem cancelActive_worker : (cancelActive which s).worker = s.worker := by
  unfold cancelActive; split <;> [rfl; (split <;> rfl)]

@[simp] theorem cancelActive_callers : (cancelActive which s).callers = s.callers := by
  unfold cancelActive; split <;> [rfl; (split <;> rfl)]

theorem cancelActive_active : (cancelActive which s).active =
    s.active.map fun active => if which active.item then { active with cancelSet := true } else active := by
  unfold cancelActive
  cases hs : s.active with
  | none => simp [hs]
  | some active =>
    dsimp only
    split
    next h => simp [h]
    next h => simp [hs, h]

/-- An admission that is resolved keeps its state. -/
def Later (s s' : SpeechRuntime) : Prop := ∀ a, s.admissions a ≠ .pending → s'.admissions a = s.admissions a

theorem Later.refl (s : SpeechRuntime) : Later s s := fun _ _ => rfl

theorem Later.trans {s s' t : SpeechRuntime} (h : Later s s') (h' : Later s' t) : Later s t := fun a ha =>
  (h' a (by rw [h a ha]; exact ha)).trans (h a ha)

theorem resolve_later (item : SpeechItem) (state : AdmissionState) : Later s (resolve item state s) := fun a ha => by
  simp [resolve, ha]

theorem resolve_resolved {item : SpeechItem} {state : AdmissionState} {a : Nat} (hstate : state ≠ .pending)
    (ha : item.admission = some a) : (resolve item state s).admissions a ≠ .pending := by
  by_cases hp : s.admissions a = .pending
  · simp [resolve, ha, hp, hstate]
  · simp [resolve, hp]

theorem cancelActive_later : Later s (cancelActive which s) := by
  unfold cancelActive
  split
  · exact .refl s
  · split
    · exact resolve_later _ _
    · exact .refl s

end

variable {fold : TextFold}

def afterQueued (fold : TextFold) (thread : Nat) (o : Offer) (window : Window) (s : SpeechRuntime) : SpeechRuntime :=
  holding thread s.pending .dropped { s with
    sequence := s.sequence + 1
    windows := s.windows.set o.episodeId (Window.add window (fingerprintOf fold o))
    pending := some ⟨o.episodeId, s.sequence + 1, o.text, o.locale, o.admission⟩ }

inductive Moves (fold : TextFold) (s : SpeechRuntime) : SpeechStep → SpeechEvent → SpeechRuntime → Prop
  | quiet (i : SpeechStep) (hevent : event.Quiet) (started : Bool) : Moves fold s i event { s with started := started }
  | queued (hfree : s.callers thread = none) (hwindow : windowFor o s = some window)
      (hnew : fingerprintOf fold o ∉ window.fingerprints) :
    Moves fold s (.offer thread o probe)
      (.queued ⟨o.episodeId, s.sequence + 1, o.text, o.locale, o.admission⟩ o.progressRevision (fingerprintOf fold o) s.pending)
      (afterQueued fold thread o window s)
  | duplicate (hfree : s.callers thread = none) (hwindow : windowFor o s = some window)
      (hold : fingerprintOf fold o ∈ window.fingerprints) :
    Moves fold s (.offer thread o probe) (.duplicate ⟨o.episodeId, s.sequence + 1, o.text, o.locale, o.admission⟩)
      (holding thread (some ⟨o.episodeId, s.sequence + 1, o.text, o.locale, o.admission⟩) .dropped
        { s with sequence := s.sequence + 1, windows := s.windows.set o.episodeId window })
  | episodeCancelled (hfree : s.callers thread = none) :
    Moves fold s (.cancelEpisode thread e) (.episodeCancelled e (droppable (fun item => decide (item.episodeId = e)) s))
      (holding thread (droppable (fun item => decide (item.episodeId = e)) s) .cancelled
        (cancelActive (fun item => decide (item.episodeId = e))
          (dropPending (fun item => decide (item.episodeId = e)) { s with windows := s.windows.erase e })))
  | drained : Moves fold s (.close thread true) (.closed none) { s with accepting := false, closed := true }
  | closed (hfree : s.callers thread = none) :
    Moves fold s (.close thread false) (.closed s.pending) (holding thread s.pending .cancelled
      { cancelActive (fun _ => true) (dropPending (fun _ => true) s) with accepting := false, closed := true })
  | resolved (hheld : s.callers thread = some (item, state)) :
    Moves fold s (.resolve thread) (.resolved item)
      { resolve item state s with callers := fun t => if t = thread then none else s.callers t }
  | playing (hworker : s.worker = .waiting) (hpending : s.pending = some item) :
    Moves fold s .take (.playing item)
      { s with pending := none, active := some ⟨item, false⟩, worker := .speaking item }
  | workerEnded (hworker : s.worker = .waiting) (hpending : s.pending = none) :
    Moves fold s .take .workerEnded { s with worker := .ended }
  | marked : Moves fold s .playbackStarted .marked (resolve item .started s)
  | spoken (hworker : s.worker = .speaking item) (hstate : state ≠ .pending) :
    Moves fold s (.spoken raised) (.spoken item) { s with worker := .settling item state }
  | settled (hworker : s.worker = .settling item state) :
    Moves fold s .settle (.resolved item) { resolve item state s with worker := .clearing item }
  | cleared (hworker : s.worker = .clearing item) :
    Moves fold s .clear (.cleared item)
      { s with worker := .waiting, active := if s.active.any (·.item = item) then none else s.active }

variable {s : SpeechRuntime}

theorem quiet_self (i : SpeechStep) {event : SpeechEvent} (hevent : event.Quiet) : Moves fold s i event s :=
  .quiet i hevent s.started

theorem offer_moves (thread : Nat) (o : Offer) (probe : Probe) (hfree : s.callers thread = none) :
    Moves fold s (.offer thread o probe) (offer fold thread o probe s).1 (offer fold thread o probe s).2 := by
  unfold offer
  split
  · exact quiet_self _ trivial
  · exact quiet_self _ trivial
  · exact quiet_self _ trivial
  next window _ _ hwindow =>
    unfold offerTo
    dsimp only
    split
    next hold => exact .duplicate hfree hwindow hold
    next hnew => exact .queued hfree hwindow hnew

theorem step_moves (s : SpeechRuntime) (i : SpeechStep) :
    Moves fold s i ((speechRuntime fold).step s i).1 ((speechRuntime fold).step s i).2 := by
  have hwhen : ∀ {thread : Nat} {x : SpeechEvent × SpeechRuntime},
      (s.callers thread = none → Moves fold s i x.1 x.2) → Moves fold s i (whenFree thread s x).1 (whenFree thread s x).2 := by
    intro thread x hx
    unfold whenFree
    split
    next h => exact hx (by simpa using h)
    · exact quiet_self i trivial
  cases i with
  | start =>
    simp only [speechRuntime]
    split
    · exact quiet_self _ trivial
    · exact .quiet _ (show SpeechEvent.Quiet .started from trivial) true
  | offer thread o probe => exact hwhen fun hfree => offer_moves thread o probe hfree
  | cancelEpisode thread e =>
    refine hwhen fun hfree => ?_
    unfold cancelEpisode
    split
    · exact quiet_self _ trivial
    · exact .episodeCancelled hfree
  | close thread drain =>
    refine hwhen fun hfree => ?_
    unfold close
    split
    · exact quiet_self _ trivial
    · cases drain with
      | true => exact .drained
      | false =>
        have hall : droppable (fun _ => true) s = s.pending := by
          unfold droppable
          cases s.pending <;> rfl
        have h : Moves fold s _ _ _ := .closed hfree
        rw [← hall] at h
        exact h
  | resolve thread =>
    simp only [speechRuntime, resolveHeld]
    split
    · exact quiet_self _ trivial
    next item state hheld => exact .resolved hheld
  | take =>
    simp only [speechRuntime, take]
    split
    next item _ hworker hpending => exact .playing hworker hpending
    next hworker hpending =>
      split
      · exact .workerEnded hworker hpending
      · exact quiet_self _ trivial
    · exact quiet_self _ trivial
  | playbackStarted =>
    simp only [speechRuntime, playbackStarted]
    split
    · exact .marked
    · exact .marked
    · exact quiet_self _ trivial
  | spoken raised =>
    simp only [speechRuntime, speakerDone]
    split
    next item hworker =>
      refine .spoken hworker ?_
      split
      · decide
      · split <;> decide
    · exact quiet_self _ trivial
  | settle =>
    simp only [speechRuntime, settle]
    split
    next item state hworker => exact .settled hworker
    · exact quiet_self _ trivial
  | clear =>
    simp only [speechRuntime, clear]
    split
    next item hworker => exact .cleared hworker
    · exact quiet_self _ trivial

end SpeechRuntime

end RobotLlm.Speech
