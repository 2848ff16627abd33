import Mathlib.Algebra.Order.Ring.Int
import Mathlib.Data.List.MinMax
import RobotLlm.Lib.Dict
import RobotLlm.Lib.Machine
import RobotLlm.Lib.Prog

/-!
# The transcription runtime

One worker serves jobs in the order in which they were submitted. Everything
but the provider's call runs under one lock, so the callers and the worker
interleave as whole operations; a job that was cancelled, expired or evicted
meanwhile is found so when the provider answers.
-/

namespace RobotLlm.Stt

open RobotLlm.Lib

structure STTRuntimeError where
  status : Int
  code : String
  message : String
deriving DecidableEq

-- Audio

structure PCM16Wav where
  wavBytes : List UInt8
  durationMs : Nat
  sampleCount : Nat
  sha256 : String
deriving DecidableEq

def sampleRateHz : Nat := 16000
def sampleWidthBytes : Nat := 2
def maxAudioBytes : Nat := 768 * 1024
def minDurationMs : Nat := 250
def maxDurationMs : Nat := 20000

/-- `raw[offset:offset + length]`. -/
def slice (raw : List UInt8) (offset length : Nat) : List UInt8 := (raw.drop offset).take length

def readUInt (raw : List UInt8) (offset length : Nat) : Nat :=
  (slice raw offset length).foldr (fun byte n => byte.toNat + 256 * n) 0

def ascii (text : String) : List UInt8 := text.toList.map fun c => UInt8.ofNat c.toNat

def contractError (code message : String) : STTRuntimeError := ⟨400, code, message⟩

/-- `validate_pcm16_wav`, with the digest as a parameter. -/
def validatePcm16Wav (sha256 : List UInt8 → String) (raw : List UInt8) : Except STTRuntimeError PCM16Wav :=
  let dataSize := readUInt raw 40 4
  let sampleCount := dataSize / sampleWidthBytes
  let durationMs := (sampleCount * 1000 + sampleRateHz - 1) / sampleRateHz
  if ¬ (44 ≤ raw.length ∧ raw.length ≤ maxAudioBytes) then
    .error (contractError "invalid_stt_audio_size" "Speech audio size is outside the accepted range")
  else if slice raw 0 4 ≠ ascii "RIFF" ∨ slice raw 8 4 ≠ ascii "WAVE" ∨ readUInt raw 4 4 ≠ raw.length - 8 ∨
      slice raw 12 4 ≠ ascii "fmt " ∨ readUInt raw 16 4 ≠ 16 then
    .error (contractError "invalid_stt_wav" "Speech audio is not canonical PCM WAV")
  else if readUInt raw 20 2 ≠ 1 ∨ readUInt raw 22 2 ≠ 1 ∨ readUInt raw 24 4 ≠ sampleRateHz ∨
      readUInt raw 28 4 ≠ sampleRateHz * sampleWidthBytes ∨ readUInt raw 32 2 ≠ sampleWidthBytes ∨
      readUInt raw 34 2 ≠ sampleWidthBytes * 8 ∨ slice raw 36 4 ≠ ascii "data" then
    .error (contractError "unsupported_stt_wav" "Speech audio must be mono 16 kHz PCM16 WAV")
  else if dataSize ≠ raw.length - 44 ∨ dataSize % sampleWidthBytes ≠ 0 then
    .error (contractError "invalid_stt_wav" "Speech WAV frame data is inconsistent")
  else if ¬ (minDurationMs ≤ durationMs ∧ durationMs ≤ maxDurationMs) then
    .error (contractError "invalid_stt_duration" "Speech duration is outside the accepted range")
  else .ok { wavBytes := raw, durationMs, sampleCount, sha256 := sha256 raw }

/-- A request that was built; built again, it is the same. -/
structure TranscriptionRequest where
  requestId : String
  languageHint : String
  audio : PCM16Wav
deriving DecidableEq

structure ProviderTranscription where
  text : String
  providerId : String
  modelId : String
  detectedLanguage : Option String
  providerScore : Option Rat
deriving DecidableEq

-- Jobs

inductive JobStatus where
  | queued
  | running
  | completed
  | failed
  | cancelled
  | expired
deriving DecidableEq

/-- `_TERMINAL_STATUSES`. -/
def JobStatus.isTerminal : JobStatus → Bool
  | .completed | .failed | .cancelled => true
  | .queued | .running | .expired => false

/-- `_Job`, an object that is told by its number. -/
structure Job where
  identity : Nat
  transcriptionId : String
  requestId : String
  languageHint : String
  audioSha256 : Option String
  audioDurationMs : Nat
  audioSampleCount : Nat
  audioBytes : List UInt8
  createdAtUnixMs : Int
  createdAtMonotonicMs : Int
  status : JobStatus := .queued
  startedAtUnixMs : Option Int := none
  startedAtMonotonicMs : Option Int := none
  completedAtUnixMs : Option Int := none
  completedAtMonotonicMs : Option Int := none
  expiresAtMonotonicMs : Option Int := none
  result : Option ProviderTranscription := none
  errorCode : Option String := none
  providerInflight : Bool := false
  lateResultDiscarded : Bool := false
deriving DecidableEq

/-- A clock that works: its readings are valid and never go back. -/
structure Clock where
  read : Nat → Int
  nonneg : ∀ n, 0 ≤ read n
  small : ∀ n, read n ≤ 2 ^ 63 - 1
  mono : ∀ m n, m ≤ n → read m ≤ read n

structure STTConfig where
  providerId : String
  modelId : String
  queueCapacity : Nat
  jobCapacity : Nat
  terminalTtlMs : Int
  monotonicClock : Clock
  unixClock : Clock
  sha256 : List UInt8 → String
  queueCapacityOk : 1 ≤ queueCapacity ∧ queueCapacity ≤ 16
  jobCapacityOk : queueCapacity ≤ jobCapacity ∧ jobCapacity ≤ 256
  terminalTtlOk : 1 ≤ terminalTtlMs ∧ terminalTtlMs ≤ 24 * 60 * 60 * 1000

inductive Worker where
  | idle
  /-- The provider has the job's request. -/
  | transcribing (transcriptionId : String) (identity : Nat)
  | finished
deriving DecidableEq

structure STTRuntime where
  jobs : Dict String Job := .empty
  requestIndex : Dict String String := .empty
  pending : List String := []
  /-- Request ids, with the time until which they stay cancelled. -/
  preCancelledRequests : Dict String Int := .empty
  accepting : Bool := true
  shutdownStarted : Bool := false
  worker : Worker := .idle
  monotonicReads : Nat := 0
  unixReads : Nat := 0
  nextIdentity : Nat := 0

namespace STTRuntime

abbrev Stt := Prog STTRuntime STTRuntimeError

-- Clocks and identifiers

def clockValue (name : String) (value : Int) : Except STTRuntimeError Int :=
  if 0 ≤ value ∧ value ≤ 2 ^ 63 - 1 then .ok value
  else .error ⟨500, "invalid_stt_clock", name ++ " returned an invalid value"⟩

def monotonicMs (c : STTConfig) : Stt Int := do
  let s ← get
  modify fun s => { s with monotonicReads := s.monotonicReads + 1 }
  Prog.ofExcept (clockValue "monotonic_clock_ms" (c.monotonicClock.read s.monotonicReads))

def unixMs (c : STTConfig) : Stt Int := do
  let s ← get
  modify fun s => { s with unixReads := s.unixReads + 1 }
  Prog.ofExcept (clockValue "unix_clock_ms" (c.unixClock.read s.unixReads))

/-- `_valid_identifier`; no character of a valid one is a space. -/
def validIdentifier (value : String) (maximum : Nat) : Bool :=
  let cs := value.toList
  !cs.isEmpty && cs.length ≤ maximum &&
    cs.all fun c => c.toNat < 128 && (c.isAlphanum || c == '-' || c == '_' || c == '.')

-- Views

structure ViewedResult where
  text : String
  detectedLanguage : Option String
  providerScore : Option Rat
  validUntilUnixMs : Option Int
deriving DecidableEq

/-- What a caller sees of a job; provider and schema are the runtime's own. -/
structure View where
  transcriptionId : String
  requestId : String
  status : JobStatus
  requestedLanguage : String
  audioDurationMs : Nat
  audioRetained : Bool
  queuedAtUnixMs : Int
  startedAtUnixMs : Option Int
  completedAtUnixMs : Option Int
  queueWaitMs : Option Int
  providerLatencyMs : Option Int
  totalLatencyMs : Option Int
  result : Option ViewedResult
  errorCode : Option String
  /-- For a cancelled job: whether the provider still works, and whether its
  result was discarded. -/
  cancellation : Option (Bool × Bool)
deriving DecidableEq

/-- `max(0, end - start)`, of times that are known. -/
def latency (start finish : Option Int) : Option Int := do return max 0 ((← finish) - (← start))

/-- `_view_locked`. -/
def view (c : STTConfig) (job : Job) : View where
  transcriptionId := job.transcriptionId
  requestId := job.requestId
  status := job.status
  requestedLanguage := job.languageHint
  audioDurationMs := job.audioDurationMs
  audioRetained := !job.audioBytes.isEmpty || job.providerInflight
  queuedAtUnixMs := job.createdAtUnixMs
  startedAtUnixMs := job.startedAtUnixMs
  completedAtUnixMs := job.completedAtUnixMs
  queueWaitMs := latency (some job.createdAtMonotonicMs) job.startedAtMonotonicMs
  providerLatencyMs := latency job.startedAtMonotonicMs job.completedAtMonotonicMs
  totalLatencyMs := latency (some job.createdAtMonotonicMs) job.completedAtMonotonicMs
  result := job.result.map fun result => {
    text := result.text
    detectedLanguage := result.detectedLanguage
    providerScore := result.providerScore
    validUntilUnixMs := job.completedAtUnixMs.map (· + c.terminalTtlMs) }
  errorCode := job.errorCode
  cancellation := if job.status = .cancelled then some (job.providerInflight, job.lateResultDiscarded) else none

/-- What an operation answers, with the number of the job it is about. -/
abbrev Viewed := Nat × View

def viewed (c : STTConfig) (job : Job) : Viewed := (job.identity, view c job)

-- Expiry and eviction

def setJob (job : Job) (s : STTRuntime) : STTRuntime := { s with jobs := s.jobs.set job.transcriptionId job }

/-- `_expire_job_locked`. -/
def expireJob (job : Job) : Job := { job with status := .expired, result := none, audioBytes := [], audioSha256 := none }

def isDue (now : Int) (job : Job) : Bool := job.status.isTerminal && job.expiresAtMonotonicMs.any (· ≤ now)

def expireIfDue (now : Int) (job : Job) : Job := if isDue now job then expireJob job else job

/-- `_expire_due_locked`. -/
def expireDue (now : Int) : Stt Unit := modify fun s => { s with jobs := s.jobs.mapValues (expireIfDue now) }

/-- `_prune_pre_cancelled_locked`: the oldest ids go, up to one that is valid. -/
def prunePreCancelled (now : Int) : Stt Unit :=
  modify fun s => { s with preCancelledRequests := s.preCancelledRequests.dropWhile fun expiresAt => expiresAt ≤ now }

def isEvictable (job : Job) : Bool := (job.status.isTerminal || job.status == .expired) && !job.providerInflight

def evictionKey (job : Job) : Int := job.completedAtMonotonicMs.getD job.createdAtMonotonicMs

/-- The order of the integers, without the suprema that come with it. -/
local instance intPreorder : Preorder Int := Int.instLinearOrder.toPreorder

/-- `_evict_one_locked`. -/
def evictOne : Stt Bool := do
  let s ← get
  match (s.jobs.values.filter isEvictable).argmin evictionKey with
  | none => return false
  | some oldest => do
    modify fun s => { s with
      jobs := s.jobs.erase oldest.transcriptionId
      requestIndex := s.requestIndex.erase oldest.requestId }
    return true

def jobStoreFull : STTRuntimeError := ⟨429, "stt_job_store_full", "Speech transcription job store is full"⟩

/-- `while len(self._jobs) >= self._job_capacity`, for at most so many jobs. -/
def makeRoom (c : STTConfig) : Nat → Stt Unit
  | 0 => return ()
  | n + 1 => do
    let s ← get
    if s.jobs.size < c.jobCapacity then return ()
    else do
      let evicted ← evictOne
      Prog.failIf (evicted = false) jobStoreFull
      makeRoom c n

def expiredError : STTRuntimeError := ⟨410, "stt_expired", "Speech transcription result has expired"⟩

-- Submission

def trustedAudio (c : STTConfig) (request : TranscriptionRequest) : Except STTRuntimeError PCM16Wav := do
  let trusted ← validatePcm16Wav c.sha256 request.audio.wavBytes
  if request.audio.durationMs ≠ trusted.durationMs ∨ request.audio.sampleCount ≠ trusted.sampleCount ∨
      request.audio.sha256 ≠ trusted.sha256 then
    .error ⟨400, "invalid_stt_audio_metadata", "Speech audio metadata does not match its WAV bytes"⟩
  else .ok trusted

def resubmit (c : STTConfig) (request : TranscriptionRequest) (audio : PCM16Wav) (existing : Job) :
    Except STTRuntimeError Viewed :=
  if existing.status = .expired then .error expiredError
  else if existing.audioSha256 ≠ some audio.sha256 ∨ existing.languageHint ≠ request.languageHint then
    .error ⟨409, "stt_idempotency_conflict", "Speech request ID was reused with other input"⟩
  else .ok (viewed c existing)

/-- `"stt-" + raw_id`, of what the id factory gave. -/
def newTranscriptionId (s : STTRuntime) : Option String → Except STTRuntimeError String
  | none => .error ⟨500, "stt_id_factory_failed", "The ID factory raised"⟩
  | some rawId =>
    if validIdentifier rawId 96 = false then
      .error ⟨500, "invalid_stt_id_factory", "Speech job ID factory returned an invalid value"⟩
    else if "stt-" ++ rawId ∈ s.jobs.keys then .error ⟨500, "duplicate_stt_id", "Speech job ID was duplicated"⟩
    else .ok ("stt-" ++ rawId)

def newJob (identity : Nat) (transcriptionId : String) (request : TranscriptionRequest) (audio : PCM16Wav)
    (createdAtUnixMs now : Int) : Job where
  identity := identity
  transcriptionId := transcriptionId
  requestId := request.requestId
  languageHint := request.languageHint
  audioSha256 := some audio.sha256
  audioDurationMs := audio.durationMs
  audioSampleCount := audio.sampleCount
  audioBytes := audio.wavBytes
  createdAtUnixMs := createdAtUnixMs
  createdAtMonotonicMs := now

def addJob (job : Job) (s : STTRuntime) : STTRuntime :=
  { s with
    jobs := s.jobs.set job.transcriptionId job
    requestIndex := s.requestIndex.set job.requestId job.transcriptionId
    nextIdentity := s.nextIdentity + 1 }

def withdrawJob (job : Job) (s : STTRuntime) : STTRuntime :=
  { s with
    jobs := s.jobs.erase job.transcriptionId
    requestIndex := s.requestIndex.erase job.requestId }

def queueFull : STTRuntimeError := ⟨429, "stt_queue_full", "Speech transcription queue is full"⟩

def enqueueJob (c : STTConfig) (job : Job) : Stt Viewed := do
  modify (addJob job)
  let s ← get
  if s.pending.length ≥ c.queueCapacity then do
    modify (withdrawJob job)
    throw queueFull
  else do
    modify fun s => { s with pending := s.pending ++ [job.transcriptionId] }
    return viewed c job

def submitNew (c : STTConfig) (request : TranscriptionRequest) (audio : PCM16Wav) (rawId : Option String) (now : Int) :
    Stt Viewed := do
  let s ← get
  Prog.failIf (s.accepting = false) ⟨503, "stt_stopping", "Speech transcription runtime is stopping"⟩
  makeRoom c s.jobs.size
  let s ← get
  let transcriptionId ← Prog.ofExcept (newTranscriptionId s rawId)
  let createdAtUnixMs ← unixMs c
  enqueueJob c (newJob s.nextIdentity transcriptionId request audio createdAtUnixMs now)

/-- `submit`; the id factory gives `rawId`, or raises. -/
def submit (c : STTConfig) (request : TranscriptionRequest) (rawId : Option String) : Stt Viewed := do
  let audio ← Prog.ofExcept (trustedAudio c request)
  let now ← monotonicMs c
  expireDue now
  prunePreCancelled now
  let s ← get
  Prog.failIf (request.requestId ∈ s.preCancelledRequests.keys)
    ⟨409, "stt_request_cancelled", "Speech transcription request was cancelled"⟩
  match s.requestIndex.get? request.requestId with
  | none => submitNew c request audio rawId now
  | some existingId =>
    match s.jobs.get? existingId with
    | none => throw ⟨500, "KeyError", existingId⟩
    | some existing => Prog.ofExcept (resubmit c request audio existing)

-- Looking and cancelling

def invalidIdentifier (message : String) : STTRuntimeError := ⟨400, "invalid_stt_identifier", message⟩

def notFound : STTRuntimeError := ⟨404, "stt_not_found", "Speech transcription was not found"⟩

/-- The job of an id, if it is there and has not expired. -/
def liveJob (transcriptionId : String) : Stt Job := do
  let s ← get
  match s.jobs.get? transcriptionId with
  | none => throw notFound
  | some job => do
    Prog.failIf (job.status = .expired) expiredError
    return job

def getView (c : STTConfig) (transcriptionId : String) : Stt Viewed := do
  Prog.failIf (validIdentifier transcriptionId 128 = false) (invalidIdentifier "Speech transcription ID is invalid")
  expireDue (← monotonicMs c)
  return viewed c (← liveJob transcriptionId)

/-- `_terminalize_locked`. -/
def terminalize (c : STTConfig) (job : Job) (status : JobStatus) (errorCode : Option String)
    (result : Option ProviderTranscription) : Stt Job := do
  let completedAtUnixMs ← unixMs c
  let completedAtMonotonicMs ← monotonicMs c
  let job := { job with
    status := status
    errorCode := errorCode
    result := result
    completedAtUnixMs := some completedAtUnixMs
    completedAtMonotonicMs := some completedAtMonotonicMs
    expiresAtMonotonicMs := some (completedAtMonotonicMs + c.terminalTtlMs)
    audioBytes := [] }
  modify (setJob job)
  return job

def unqueue (job : Job) (s : STTRuntime) : STTRuntime :=
  if job.status = .queued then { s with pending := s.pending.erase job.transcriptionId } else s

def cancelJob (c : STTConfig) (job : Job) : Stt Viewed := do
  modify (unqueue job)
  let job ← terminalize c job .cancelled (some "stt_cancelled") none
  return viewed c job

def cancel (c : STTConfig) (transcriptionId : String) : Stt Viewed := do
  Prog.failIf (validIdentifier transcriptionId 128 = false) (invalidIdentifier "Speech transcription ID is invalid")
  expireDue (← monotonicMs c)
  let job ← liveJob transcriptionId
  if job.status = .cancelled then return viewed c job
  else do
    Prog.failIf (job.status = .completed ∨ job.status = .failed)
      ⟨409, "stt_not_cancellable", "Speech transcription is already terminal"⟩
    cancelJob c job

/-- The answer to the cancellation of a request that is not known. -/
structure PreCancellation where
  requestId : String
  validUntilUnixMs : Int
  /-- The ids that had to go; the caller is not told. -/
  displaced : List String
deriving DecidableEq

/-- `while len(..) >= self._job_capacity: popitem(last=False)`, for at most so
many ids; the ids that went. -/
def displaceOldest (c : STTConfig) : Nat → Stt (List String)
  | 0 => return []
  | n + 1 => do
    let s ← get
    if s.preCancelledRequests.size < c.jobCapacity then return []
    else do
      modify fun s => { s with preCancelledRequests := s.preCancelledRequests.dropOldest }
      let displaced ← displaceOldest c n
      return s.preCancelledRequests.keys.take 1 ++ displaced

def preCancel (c : STTConfig) (requestId : String) (now : Int) : Stt PreCancellation := do
  let s ← get
  let displaced ← displaceOldest c s.preCancelledRequests.size
  modify fun s => { s with
    preCancelledRequests := (s.preCancelledRequests.erase requestId).set requestId (now + c.terminalTtlMs) }
  let nowUnixMs ← unixMs c
  return { requestId, validUntilUnixMs := nowUnixMs + c.terminalTtlMs, displaced }

/-- What `cancel_request` answers. -/
inductive RequestCancelled where
  | job (viewed : Viewed)
  | preCancelled (answer : PreCancellation)
deriving DecidableEq

def cancelRequest (c : STTConfig) (requestId : String) : Stt RequestCancelled := do
  Prog.failIf (validIdentifier requestId 128 = false) (invalidIdentifier "Speech request ID is invalid")
  let now ← monotonicMs c
  expireDue now
  prunePreCancelled now
  let s ← get
  match s.requestIndex.get? requestId with
  | none => return .preCancelled (← preCancel c requestId now)
  | some transcriptionId => do
    let job ← liveJob transcriptionId
    if job.status = .cancelled then return .job (viewed c job)
    else return .job (← cancelJob c job)

-- The worker

/-- The job of an id starts, and its request goes to the provider. -/
def startJob (c : STTConfig) (job : Job) : Stt (Nat × TranscriptionRequest) := do
  let startedAtUnixMs ← unixMs c
  let startedAtMonotonicMs ← monotonicMs c
  modify (setJob { job with
    status := .running
    startedAtUnixMs := some startedAtUnixMs
    startedAtMonotonicMs := some startedAtMonotonicMs
    providerInflight := true })
  modify fun s => { s with worker := .transcribing job.transcriptionId job.identity }
  return (job.identity, {
    requestId := job.requestId
    languageHint := job.languageHint
    audio := ⟨job.audioBytes, job.audioDurationMs, job.audioSampleCount, job.audioSha256.getD ""⟩ })

/-- `_work`, under the lock: what the provider is called with, if it is. -/
def work (c : STTConfig) : Stt (Option (Nat × TranscriptionRequest)) := do
  let s ← get
  match s.worker, s.pending with
  | .idle, [] =>
    if s.shutdownStarted then do
      modify fun s => { s with worker := .finished }
      return none
    else do
      expireDue (← monotonicMs c)
      return none
  | .idle, transcriptionId :: rest => do
    modify fun s => { s with pending := rest }
    match s.jobs.get? transcriptionId with
    | none => return none
    | some job => if job.status ≠ .queued then return none else return some (← startJob c job)
  | .transcribing _ _, _ | .finished, _ => return none

inductive ProviderAnswer where
  /-- It returns a transcription, or something else. -/
  | returned (result : Option ProviderTranscription)
  | timeoutError
  | unavailableError
  | protocolError
  | contractError
  | otherException
  /-- What no handler of the worker catches. -/
  | baseException

def ProviderAnswer.outcome (c : STTConfig) : ProviderAnswer → Option (Except String ProviderTranscription)
  | .returned (some result) =>
    some (if result.providerId ≠ c.providerId ∨ result.modelId ≠ c.modelId then .error "stt_provider_protocol" else .ok result)
  | .returned none | .protocolError | .contractError => some (.error "stt_provider_protocol")
  | .timeoutError => some (.error "stt_provider_timeout")
  | .unavailableError => some (.error "stt_provider_unavailable")
  | .otherException => some (.error "stt_provider_failed")
  | .baseException => none

/-- The provider is done with a job that is still there. -/
def finishJob (c : STTConfig) (job : Job) (outcome : Except String ProviderTranscription) : Stt Unit := do
  let job := { job with providerInflight := false }
  if job.status ≠ .running then modify (setJob { job with lateResultDiscarded := true })
  else
    match outcome with
    | .error code => do let _ ← terminalize c job .failed (some code) none
    | .ok result => do let _ ← terminalize c job .completed none (some result)

/-- `_work` once the provider has answered. -/
def providerAnswered (c : STTConfig) (answer : ProviderAnswer) : Stt Unit := do
  let s ← get
  match s.worker, answer.outcome c with
  | .transcribing transcriptionId identity, some outcome => do
    modify fun s => { s with worker := .idle }
    match s.jobs.get? transcriptionId with
    | none => return ()
    | some job => if job.identity ≠ identity then return () else finishJob c job outcome
  | .transcribing _ _, none => modify fun s => { s with worker := .finished }
  | .idle, _ | .finished, _ => return ()

-- Shutdown

/-- `for job in self._jobs.values()`: those that wait or run are cancelled. -/
def cancelLive (c : STTConfig) : List Job → Stt Unit
  | [] => return ()
  | job :: jobs => do
    if job.status = .queued ∨ job.status = .running then do
      let _ ← terminalize c job .cancelled (some "stt_stopping") none
      cancelLive c jobs
    else cancelLive c jobs

/-- `shutdown`, up to the joins. -/
def shutdown (c : STTConfig) : Stt Unit := do
  let s ← get
  if s.shutdownStarted then return ()
  else do
    modify fun s => { s with shutdownStarted := true, accepting := false }
    cancelLive c s.jobs.values
    modify fun s => { s with pending := [], preCancelledRequests := .empty }

-- All threads

inductive STTInput where
  | submit (request : TranscriptionRequest) (rawId : Option String)
  | get (transcriptionId : String)
  | cancel (transcriptionId : String)
  | cancelRequest (requestId : String)
  | shutdown
  | work
  | providerAnswered (answer : ProviderAnswer)

inductive STTOutput where
  | nothing
  | raised (error : STTRuntimeError)
  | view (viewed : Viewed)
  | preCancelled (answer : PreCancellation)
  /-- The provider is called for the job of this number. -/
  | called (identity : Nat) (request : TranscriptionRequest)

def RequestCancelled.output : RequestCancelled → STTOutput
  | .job viewed => .view viewed
  | .preCancelled answer => .preCancelled answer

/-- One operation, or one part of the worker's round. -/
def perform (c : STTConfig) : STTInput → Stt STTOutput
  | .submit request rawId => STTOutput.view <$> submit c request rawId
  | .get transcriptionId => STTOutput.view <$> getView c transcriptionId
  | .cancel transcriptionId => STTOutput.view <$> cancel c transcriptionId
  | .cancelRequest requestId => RequestCancelled.output <$> cancelRequest c requestId
  | .shutdown => (fun _ => STTOutput.nothing) <$> shutdown c
  | .work => (fun call => (call.map fun r => STTOutput.called r.1 r.2).getD .nothing) <$> work c
  | .providerAnswered answer => (fun _ => STTOutput.nothing) <$> providerAnswered c answer

def STTOutput.ofResult : Except STTRuntimeError STTOutput → STTOutput
  | .ok output => output
  | .error e => .raised e

def sttRuntime (c : STTConfig) : Machine STTRuntime STTInput STTOutput where
  step s i :=
    let r := perform c i s
    (STTOutput.ofResult r.1, r.2)

end STTRuntime

end RobotLlm.Stt
