import RobotLlm.Lib.Dict
import RobotLlm.Lib.Machine
import RobotLlm.Navigation.Contract

/-!
# The speech runtime

Latest pending wins: one slot for the item that waits and one for the item
that plays. The machine interleaves any number of callers with the worker. A
caller that has taken an item out of its slot resolves the item's admission
after it has left the lock, which is a step of its own; so is each part of the
worker's round.
-/

namespace RobotLlm.Speech

open RobotLlm.Lib
open RobotLlm.Navigation (strip)

def maxSpeechCharacters : Nat := 160

def maxDeduplicationUtterances : Nat := 64

/-- The locales that are allowed and have a voice. -/
def speechLocales : List String := ["sv", "en"]

-- Texts

/-- What Unicode says of a text: its case-folded compatibility form, and which
characters of it are spaces or punctuation. -/
structure TextFold where
  folded : String → List Char
  isSpace : Char → Bool
  isPunctuation : Char → Bool

/-- The words of the folded text; `current` is the one being read, newest
character first. -/
def TextFold.wordsFrom (fold : TextFold) (current : List Char) : List Char → List String
  | [] => if current.isEmpty then [] else [String.ofList current.reverse]
  | c :: cs =>
    if fold.isSpace c || fold.isPunctuation c then
      if current.isEmpty then fold.wordsFrom [] cs else String.ofList current.reverse :: fold.wordsFrom [] cs
    else fold.wordsFrom (c :: current) cs

def TextFold.normalizedSpeechText (fold : TextFold) (value : String) : String :=
  " ".intercalate (fold.wordsFrom [] (fold.folded value))

/-- `_bounded_text`. -/
def boundedTextOk (value : String) : Bool :=
  let cs := value.toList
  !cs.isEmpty && strip cs == cs && cs.length ≤ maxSpeechCharacters &&
    cs.all fun c => 32 ≤ c.toNat || c == '\n' || c == '\r' || c == '\t'

/-- `_identifier`. -/
def episodeIdOk (value : String) : Bool :=
  let cs := value.toList
  !cs.isEmpty && cs.length ≤ 128 && cs.all fun c => c.toNat < 128 && (c.isAlphanum || c == '-' || c == '_')

-- Items and admissions

inductive AdmissionState where
  | pending
  | started
  | completed
  | failed
  | dropped
  | cancelled
deriving DecidableEq

structure SpeechItem where
  episodeId : String
  sequence : Nat
  text : String
  locale : String
  admission : Option Nat
deriving DecidableEq

/-- `_active` with `_active_cancel`. -/
structure ActiveItem where
  item : SpeechItem
  cancelSet : Bool
deriving DecidableEq

abbrev Fingerprint := String × String

/-- The window of an episode: a progress revision, and what was queued for it,
the oldest first. -/
structure Window where
  progressRevision : Int
  fingerprints : List Fingerprint
deriving DecidableEq

inductive WorkerPlace where
  | waiting
  /-- In the speaker, or in the event before it. -/
  | speaking (item : SpeechItem)
  /-- The speaker is done; the admission is resolved next. -/
  | settling (item : SpeechItem) (state : AdmissionState)
  | clearing (item : SpeechItem)
  | ended
deriving DecidableEq

structure SpeechRuntime where
  pending : Option SpeechItem := none
  active : Option ActiveItem := none
  sequence : Nat := 0
  /-- `_deduplication_windows`. -/
  windows : Dict String Window := .empty
  accepting : Bool := true
  closed : Bool := false
  started : Bool := false
  admissions : Nat → AdmissionState := fun _ => .pending
  worker : WorkerPlace := .waiting
  /-- The item a caller has taken out and resolves next, with the state. -/
  callers : Nat → Option (SpeechItem × AdmissionState) := fun _ => none

-- Steps and events

structure Offer where
  episodeId : String
  text : String
  locale : String
  progressRevision : Int := 0
  admission : Option Nat := none

/-- What `cancel_requested` does. -/
inductive Probe where
  | absent
  | answers (cancelled : Bool)
  | raises

inductive SpeechStep where
  | start
  | offer (thread : Nat) (offer : Offer) (probe : Probe)
  | cancelEpisode (thread : Nat) (episodeId : String)
  | close (thread : Nat) (drain : Bool)
  /-- The caller resolves what it has taken out. -/
  | resolve (thread : Nat)
  /-- The worker takes the pending item, or ends. -/
  | take
  /-- The speaker calls `mark_playback_started`. -/
  | playbackStarted
  /-- The speaker returns, or raises an `Exception`. -/
  | spoken (raised : Bool)
  | settle
  | clear

inductive SpeechEvent where
  /-- The step is not the thread's next one. -/
  | none
  | started
  | refused (code : String)
  | queued (item : SpeechItem) (progressRevision : Int) (fingerprint : Fingerprint) (replaced : Option SpeechItem)
  | duplicate (item : SpeechItem)
  | episodeCancelled (episodeId : String) (dropped : Option SpeechItem)
  | closed (dropped : Option SpeechItem)
  | resolved (item : SpeechItem)
  | playing (item : SpeechItem)
  | workerEnded
  | marked
  | spoken (item : SpeechItem)
  | cleared (item : SpeechItem)

namespace SpeechRuntime

/-- `SpeechAdmission.resolve`: the first state stays. -/
def resolve (item : SpeechItem) (state : AdmissionState) (s : SpeechRuntime) : SpeechRuntime :=
  { s with admissions := fun a =>
      if item.admission = some a ∧ s.admissions a = .pending then state else s.admissions a }

/-- The caller leaves the lock with an item to resolve, if there is one. -/
def holding (thread : Nat) (item : Option SpeechItem) (state : AdmissionState) (s : SpeechRuntime) : SpeechRuntime :=
  { s with callers := fun t => if t = thread then item.map fun i => (i, state) else s.callers t }

-- Offering

def offerError (o : Offer) : Option String :=
  if episodeIdOk o.episodeId = false then some "invalid_speech_episode"
  else if boundedTextOk o.text = false then some "invalid_speech_text"
  else if o.locale ∉ speechLocales then some "unsupported_speech_locale"
  else if o.progressRevision < 0 then some "invalid_speech_progress_revision"
  else none

/-- The checks under the lock that come before the window. -/
def admissionError (probe : Probe) (s : SpeechRuntime) : Option String :=
  if s.started = false ∨ s.accepting = false ∨ s.closed = true then some "speech_runtime_not_accepting"
  else
    match probe with
    | .raises => some "speech_cancellation_probe_failed"
    | .answers true => some "speech_episode_cancelled"
    | .answers false | .absent => none

/-- The window an offer goes to, unless its revision moved backwards. -/
def windowFor (o : Offer) (s : SpeechRuntime) : Option Window :=
  match s.windows.get? o.episodeId with
  | none => some ⟨o.progressRevision, []⟩
  | some window =>
    if o.progressRevision > window.progressRevision then some ⟨o.progressRevision, []⟩
    else if o.progressRevision < window.progressRevision then none
    else some window

/-- The oldest fingerprint goes when the window is full. -/
def Window.add (window : Window) (fingerprint : Fingerprint) : Window :=
  let kept :=
    if window.fingerprints.length ≥ maxDeduplicationUtterances then window.fingerprints.tail else window.fingerprints
  { window with fingerprints := kept ++ [fingerprint] }

variable (fold : TextFold)

def fingerprintOf (o : Offer) : Fingerprint := (o.locale, fold.normalizedSpeechText o.text)

def offerTo (thread : Nat) (o : Offer) (window : Window) (s : SpeechRuntime) : SpeechEvent × SpeechRuntime :=
  let item : SpeechItem := ⟨o.episodeId, s.sequence + 1, o.text, o.locale, o.admission⟩
  let fingerprint := fingerprintOf fold o
  if fingerprint ∈ window.fingerprints then
    (.duplicate item, holding thread (some item) .dropped
      { s with sequence := s.sequence + 1, windows := s.windows.set o.episodeId window })
  else
    (.queued item o.progressRevision fingerprint s.pending, holding thread s.pending .dropped
      { s with
        sequence := s.sequence + 1
        windows := s.windows.set o.episodeId (Window.add window fingerprint)
        pending := some item })

def offer (thread : Nat) (o : Offer) (probe : Probe) (s : SpeechRuntime) : SpeechEvent × SpeechRuntime :=
  match offerError o, admissionError probe s, windowFor o s with
  | some code, _, _ => (.refused code, s)
  | none, some code, _ => (.refused code, s)
  | none, none, none => (.refused "stale_speech_progress_revision", s)
  | none, none, some window => offerTo fold thread o window s

-- Cancelling and closing

/-- The active item is resolved and told to stop, if it is one to be cancelled. -/
def cancelActive (which : SpeechItem → Bool) (s : SpeechRuntime) : SpeechRuntime :=
  match s.active with
  | none => s
  | some active =>
    if which active.item then
      { resolve active.item .cancelled s with active := some { active with cancelSet := true } }
    else s

/-- The pending item, if it is one to be cancelled. -/
def droppable (which : SpeechItem → Bool) (s : SpeechRuntime) : Option SpeechItem := s.pending.filter which

def dropPending (which : SpeechItem → Bool) (s : SpeechRuntime) : SpeechRuntime :=
  { s with pending := s.pending.filter fun item => !which item }

def cancelEpisode (thread : Nat) (episodeId : String) (s : SpeechRuntime) : SpeechEvent × SpeechRuntime :=
  if episodeIdOk episodeId = false then (.refused "invalid_speech_episode", s)
  else
    let which := fun item : SpeechItem => decide (item.episodeId = episodeId)
    let dropped := droppable which s
    (.episodeCancelled episodeId dropped, holding thread dropped .cancelled
      (cancelActive which (dropPending which { s with windows := s.windows.erase episodeId })))

def close (thread : Nat) (drain : Bool) (s : SpeechRuntime) : SpeechEvent × SpeechRuntime :=
  if s.closed then (.none, s)
  else if drain then (.closed none, { s with accepting := false, closed := true })
  else
    let which := fun _ : SpeechItem => true
    let dropped := droppable which s
    (.closed dropped, holding thread dropped .cancelled
      { cancelActive which (dropPending which s) with accepting := false, closed := true })

def resolveHeld (thread : Nat) (s : SpeechRuntime) : SpeechEvent × SpeechRuntime :=
  match s.callers thread with
  | none => (.none, s)
  | some (item, state) =>
    (.resolved item, { resolve item state s with callers := fun t => if t = thread then none else s.callers t })

-- The worker

def take (s : SpeechRuntime) : SpeechEvent × SpeechRuntime :=
  match s.started, s.worker, s.pending with
  | true, .waiting, some item =>
    (.playing item, { s with pending := none, active := some ⟨item, false⟩, worker := .speaking item })
  | true, .waiting, none => if s.closed then (.workerEnded, { s with worker := .ended }) else (.none, s)
  | _, _, _ => (.none, s)

def playbackStarted (s : SpeechRuntime) : SpeechEvent × SpeechRuntime :=
  match s.worker with
  | .speaking item | .settling item _ => (.marked, resolve item .started s)
  | _ => (.none, s)

def cancelIsSet (s : SpeechRuntime) : Bool := s.active.any (·.cancelSet)

def speakerDone (raised : Bool) (s : SpeechRuntime) : SpeechEvent × SpeechRuntime :=
  match s.worker with
  | .speaking item =>
    let state : AdmissionState := if cancelIsSet s then .cancelled else if raised then .failed else .completed
    (.spoken item, { s with worker := .settling item state })
  | _ => (.none, s)

def settle (s : SpeechRuntime) : SpeechEvent × SpeechRuntime :=
  match s.worker with
  | .settling item state => (.resolved item, { resolve item state s with worker := .clearing item })
  | _ => (.none, s)

def clear (s : SpeechRuntime) : SpeechEvent × SpeechRuntime :=
  match s.worker with
  | .clearing item =>
    (.cleared item, { s with worker := .waiting, active := if s.active.any (·.item = item) then none else s.active })
  | _ => (.none, s)

-- The machine

/-- A caller that still holds an item does nothing else. -/
def whenFree (thread : Nat) (s : SpeechRuntime) (x : SpeechEvent × SpeechRuntime) : SpeechEvent × SpeechRuntime :=
  if (s.callers thread).isNone then x else (.none, s)

def speechRuntime : Machine SpeechRuntime SpeechStep SpeechEvent where
  step s
    | .start => if s.closed then (.refused "speech_runtime_closed", s) else (.started, { s with started := true })
    | .offer thread o probe => whenFree thread s (offer fold thread o probe s)
    | .cancelEpisode thread episodeId => whenFree thread s (cancelEpisode thread episodeId s)
    | .close thread drain => whenFree thread s (close thread drain s)
    | .resolve thread => resolveHeld thread s
    | .take => take s
    | .playbackStarted => playbackStarted s
    | .spoken raised => speakerDone raised s
    | .settle => settle s
    | .clear => clear s

end SpeechRuntime

end RobotLlm.Speech
