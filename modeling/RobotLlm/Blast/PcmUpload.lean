import Mathlib.Algebra.Order.Field.Rat
import RobotLlm.Lib.Prog
import RobotLlm.Lib.PyValue
import RobotLlm.Blast.Adpcm

/-!
# The upload of an utterance

One step at a time, so that navigation gets its turn: begin the transfer, write
a batch of it, start the playback. The bytes travel as AppData frames, the
requests as lines. The caller's thread may claim the timeout of the deadline
between any two steps.
-/

namespace RobotLlm.Blast

open RobotLlm.Lib

-- The deadline

structure BlastPCMDeadline (T : Type) where
  inactivitySeconds : T
  hardExpiresAt : T
  progressExpiresAt : T
  timedOut : Bool := false
  startInFlight : Bool := false

namespace BlastPCMDeadline

variable {T : Type} [LinearOrder T] [Add T]

def expiresAt (d : BlastPCMDeadline T) : T := min d.progressExpiresAt d.hardExpiresAt

def claimTimeout (now : T) (d : BlastPCMDeadline T) : Bool × BlastPCMDeadline T :=
  if d.timedOut = true then (true, d)
  else if d.startInFlight = true then (false, d)
  else if now < d.expiresAt then (false, d)
  else (true, { d with timedOut := true })

def beginStart (now : T) (d : BlastPCMDeadline T) : Bool × BlastPCMDeadline T :=
  if d.timedOut = true ∨ d.expiresAt ≤ now then (false, { d with timedOut := true })
  else (true, { d with startInFlight := true })

def finishStart (d : BlastPCMDeadline T) : BlastPCMDeadline T := { d with startInFlight := false }

def recordProgress (now : T) (d : BlastPCMDeadline T) : Bool × BlastPCMDeadline T :=
  if d.timedOut = true ∨ d.expiresAt ≤ now then (false, { d with timedOut := true })
  else (true, { d with progressExpiresAt := min d.hardExpiresAt (now + d.inactivitySeconds) })

end BlastPCMDeadline

-- The session

def sampledAudioSampleRateHz : Int := 16000
def sampledAudioEncoding : String := "ima_adpcm4_mono_stream_v1"
def appDataWritesPerBatch : Nat := 8
def appDataMaxDataBytes : Int := 509
def writeAppDataCommand : UInt8 := 7
def dmaChunkSamples : Nat := 256
def dmaChunkDurationMs : Nat := 16

def blastAdpcmDurationMs (sampleCount : Nat) : Option Nat :=
  if 1 ≤ sampleCount ∧ sampleCount ≤ adpcmMaxSamples then
    some ((sampleCount + dmaChunkSamples - 1) / dmaChunkSamples * dmaChunkDurationMs)
  else none

/-- How a call of the link is raised out of: a wait that ran out, or anything
else. -/
inductive LinkError where
  | timeout
  | other
deriving DecidableEq

inductive PcmError where
  | link (error : LinkError)
  | startTimeout
  | cancelled
  | valueError
  | runtimeError
  /-- `bytes` of a number that is not a byte. -/
  | byteRange
deriving DecidableEq

/-- What went over the link, and what the caller was told of the timeout. -/
inductive PcmEvent where
  | begin (requestId sampleCount byteCount checksum : Nat)
  | frame (bytes : List UInt8) (response : Bool)
  /-- A batch that was written to its end. -/
  | batch
  /-- `dict(transfer, phase="start")`. -/
  | start (requestId : Nat) (transfer : PyDict Rat)
  | claimed (answer : Bool)

/-- The hub, the event loop, the caller's thread and the clock. A wait that
runs out, or is cancelled, raises in the call that is waiting. -/
structure PcmHost (σ T : Type) where
  /-- `_max_write_size`, if it is a number. -/
  maxWriteSize : Option Int
  connected : σ → Bool
  /-- Whether the hub advertises the capability. -/
  capable : σ → Bool
  clock : σ → T × σ
  /-- How often the caller claims the timeout before the next step. -/
  claims : σ → Nat × σ
  /-- The requests of other operations between two steps. -/
  requests : σ → Nat × σ
  cancelRequested : Prog σ LinkError Bool
  /-- How often the time allows to ask whether the queue has room: never, if
  there is nobody to ask. -/
  readyPolls : σ → Nat × σ
  /-- One such question; it may fail. -/
  canSendWriteWithoutResponse : σ → Option Bool × σ
  writeGattChar : List UInt8 → Bool → Prog σ LinkError Unit
  writeRequest : Prog σ LinkError Unit
  readMessage : Prog σ LinkError (PyDict Rat)

/-- The upload, the runtime's part in it, and everything else. `log` is not in
the code: it records the events, the newest first. -/
structure PcmState (σ T : Type) where
  world : σ
  deadline : BlastPCMDeadline T
  transferId : Option (PyValue Rat) := none
  batchBytes : Nat := 0
  fletcher16 : Int := 0
  offset : Nat := 0
  nextRequestId : Nat := 1
  sampledAudioTransfer : Option (PyDict Rat) := none
  log : List PcmEvent := []

namespace PcmHost

variable {σ T : Type} [LinearOrder T] [Add T] (host : PcmHost σ T)

abbrev Step (σ T : Type) := Prog (PcmState σ T) PcmError

def onWorld (x : Prog σ LinkError α) : Step σ T α :=
  Prog.onPart PcmState.world (fun world s => { s with world := world }) (Prog.mapError .link x)

/-- A read of the world, which may move meanwhile. -/
def reading (f : σ → α × σ) : Step σ T α := onWorld fun s => (.ok (f s).1, (f s).2)

def record (event : PcmEvent) : Step σ T Unit := modify fun s => { s with log := event :: s.log }

def onDeadline (f : T → BlastPCMDeadline T → Bool × BlastPCMDeadline T) : Step σ T Bool := do
  let now ← reading host.clock
  let r := f now (← get).deadline
  modify fun s => { s with deadline := r.2 }
  return r.1

def claim : Step σ T Unit := do
  let answer ← host.onDeadline BlastPCMDeadline.claimTimeout
  record (.claimed answer)

def claimTimes : Nat → Step σ T Unit
  | 0 => return ()
  | n + 1 => do
    host.claim
    claimTimes n

def interleave : Step σ T Unit := do
  let n ← reading host.claims
  host.claimTimes n

/-- A step of the upload after whatever the caller did before it. -/
def await (x : Prog σ LinkError α) : Step σ T α := do
  host.interleave
  onWorld x

def requireCapability : Step σ T Unit := do
  Prog.failIf (host.capable (← get).world = false) .runtimeError

def requireHub : Step σ T Unit := do
  Prog.failIf (host.connected (← get).world = false) .runtimeError

def raiseIfCancelled : Step σ T Unit := do
  let cancelled ← host.await host.cancelRequested
  Prog.failIf (cancelled = true) .cancelled

def appDataWriteSize : Step σ T Nat := do
  host.requireHub
  let dataSize := min appDataMaxDataBytes (host.maxWriteSize.getD 20 - 3)
  Prog.failIf (dataSize < 1) .runtimeError
  return dataSize.toNat

/-- `_write_sampled_audio_request`, with the number it takes. -/
def request (event : Nat → PcmEvent) : Step σ T Nat := do
  let requestId := (← get).nextRequestId
  modify fun s => { s with nextRequestId := s.nextRequestId + 1 }
  host.requireHub
  record (event requestId)
  host.await host.writeRequest
  return requestId

/-- `_validate_sampled_audio_message`. -/
def validated (message : PyDict Rat) (requestId : Nat) (phase : String) : Except PcmError (PyDict Rat) :=
  match PyValue.field message "result" with
  | .dict result =>
    if PyValue.equals (.int requestId) (PyValue.field message "id") = true ∧
        PyValue.isStr "play_pcm" (PyValue.field message "op") = true ∧
        PyValue.isStr phase (PyValue.field message "phase") = true ∧
        PyValue.bool? (PyValue.field message "ok") = some true then
      .ok result
    else .error .runtimeError
  | _ => .error .runtimeError

def begunResult (requestId sampleCount byteCount checksum : Nat) : PyDict Rat :=
  [("transfer_id", .int requestId), ("sample_rate_hz", .int sampledAudioSampleRateHz),
    ("encoding", .str sampledAudioEncoding), ("sample_count", .int sampleCount), ("byte_count", .int byteCount),
    ("fletcher16", .int checksum)]

/-- `begin_pcm`: the metadata and the size of a batch. -/
def beginPcm (payload : List UInt8) : Step σ T (PyDict Rat × Nat) := do
  match adpcmSampleCount payload with
  | .error _ => throw .valueError
  | .ok sampleCount =>
    host.requireCapability
    host.raiseIfCancelled
    let checksum := Blast.fletcher16 payload
    let requestId ← host.request (.begin · sampleCount payload.length checksum)
    let message ← host.await host.readMessage
    let result ← Prog.ofExcept (validated message requestId "begun")
    Prog.failIf (PyValue.equals (.dict (begunResult requestId sampleCount payload.length checksum)) (.dict result) = false)
      .runtimeError
    modify fun s => { s with sampledAudioTransfer := some result }
    let dataSize ← host.appDataWriteSize
    return (result, dataSize * appDataWritesPerBatch)

/-- `_app_data_without_response_ready`, for so many questions. -/
def pollReady : Nat → Step σ T Bool
  | 0 => return false
  | n + 1 => do
    host.raiseIfCancelled
    match ← reading host.canSendWriteWithoutResponse with
    | some true => return true
    | none => return false
    | some false => pollReady n

def withoutResponseReady : Step σ T Bool := do
  let polls ← reading host.readyPolls
  host.pollReady polls

/-- The last frame of a batch is written with response, another one if the
queue has no room for it. -/
def needsResponse (isLast : Bool) : Step σ T Bool :=
  if isLast then pure true else (! ·) <$> host.withoutResponseReady

def writeFrame (dataSize offset : Nat) (batch : List UInt8) (chunkOffset : Nat) : Step σ T Unit := do
  host.raiseIfCancelled
  let frameOffset := offset + chunkOffset
  let chunk := (batch.drop chunkOffset).take dataSize
  Prog.failIf (frameOffset >>> 8 > 255) .byteRange
  let frame := writeAppDataCommand :: UInt8.ofNat (frameOffset &&& 0xFF) :: UInt8.ofNat (frameOffset >>> 8) :: chunk
  let response ← host.needsResponse (chunkOffset + chunk.length = batch.length)
  host.interleave
  record (.frame frame response)
  onWorld (host.writeGattChar frame response)

/-- The frames of a batch, one for each offset of a chunk in it. -/
def writeFrames (dataSize offset : Nat) (batch : List UInt8) : List Nat → Step σ T Unit
  | [] => return ()
  | chunkOffset :: rest => do
    host.writeFrame dataSize offset batch chunkOffset
    writeFrames dataSize offset batch rest

/-- `range(0, stop, step)`. -/
def chunkOffsets (stop step : Nat) : List Nat := List.range' 0 ((stop + step - 1) / step) step

/-- `write_pcm_batch`: the bytes received. -/
def writePcmBatch (offset : Nat) (batch : List UInt8) : Step σ T Nat := do
  host.requireCapability
  let dataSize ← host.appDataWriteSize
  Prog.failIf (¬ (1 ≤ batch.length ∧ batch.length ≤ dataSize * appDataWritesPerBatch) ∨
    offset + batch.length > adpcmMaxBytes) .valueError
  host.writeFrames dataSize offset batch (chunkOffsets batch.length dataSize)
  record .batch
  return offset + batch.length

/-- The metadata that the hub has to confirm of a started playback. -/
def startedResult (transferId : Int) (byteCount : Nat) (sampleCount : PyValue Rat) (checksum : Int) (durationMs : Nat) :
    PyDict Rat :=
  [("transfer_id", .int transferId), ("byte_count", .int byteCount), ("sample_count", sampleCount),
    ("sample_rate_hz", .int sampledAudioSampleRateHz), ("encoding", .str sampledAudioEncoding),
    ("fletcher16", .int checksum), ("duration_ms", .int durationMs)]

def startTransferId : Option (PyValue Rat) → Except PcmError Int
  | some (.int transferId) => if transferId < 1 then .error .valueError else .ok transferId
  | _ => .error .valueError

/-- The transfer that is to start, if it is the one that was begun. -/
def begunTransfer (transferId : Int) : Option (PyDict Rat) → Except PcmError (PyDict Rat)
  | some transfer =>
    if PyValue.equals (.int transferId) (PyValue.field transfer "transfer_id") = true then .ok transfer
    else .error .valueError
  | none => .error .valueError

/-- The duration of a transfer whose number of samples is an integer. -/
def transferDuration : PyValue Rat → Except PcmError Nat
  | .int sampleCount =>
    match blastAdpcmDurationMs sampleCount.toNat with
    | some durationMs => .ok durationMs
    | none => .error .valueError
  | _ => .error .valueError

def startPcm (transferId : Option (PyValue Rat)) (byteCount : Nat) (checksum : Int) : Step σ T (PyDict Rat) := do
  host.requireCapability
  let transferId ← Prog.ofExcept (startTransferId transferId)
  let transfer ← Prog.ofExcept (begunTransfer transferId (← get).sampledAudioTransfer)
  modify fun s => { s with sampledAudioTransfer := none }
  Prog.failIf (¬ (adpcmHeaderBytes ≤ byteCount ∧ byteCount ≤ adpcmMaxBytes) ∨ ¬ (0 ≤ checksum ∧ checksum ≤ 0xFFFF))
    .valueError
  host.raiseIfCancelled
  Prog.failIf (PyValue.equals (.int byteCount) (PyValue.field transfer "byte_count") = false ∨
    PyValue.equals (.int checksum) (PyValue.field transfer "fletcher16") = false) .valueError
  let requestId ← host.request (.start · transfer)
  let message ← host.await host.readMessage
  let result ← Prog.ofExcept (validated message requestId "started")
  let sampleCount := PyValue.field transfer "sample_count"
  let durationMs ← Prog.ofExcept (transferDuration sampleCount)
  Prog.failIf (PyValue.equals (.dict (startedResult transferId byteCount sampleCount checksum durationMs)) (.dict result) =
    false) .runtimeError
  return result

-- One step of the upload

def strictInt : PyValue Rat → Except PcmError Int
  | .int value => .ok value
  | _ => .error .runtimeError

def advanceBegin (payload : List UInt8) : Step σ T Unit := do
  let begun ← host.beginPcm payload
  let checksum ← Prog.ofExcept (strictInt (PyValue.field begun.1 "fletcher16"))
  Prog.failIf (¬ (1 ≤ begun.2 ∧ begun.2 ≤ adpcmMaxBytes) ∨ ¬ (0 ≤ checksum ∧ checksum ≤ 0xFFFF)) .runtimeError
  modify fun s =>
    { s with
      transferId := some (PyValue.field begun.1 "transfer_id")
      batchBytes := begun.2
      fletcher16 := checksum }
  host.interleave
  let _ ← host.onDeadline BlastPCMDeadline.recordProgress

def advanceBatch (payload : List UInt8) : Step σ T Unit := do
  let s ← get
  let batch := (payload.drop s.offset).take s.batchBytes
  let received ← host.writePcmBatch s.offset batch
  Prog.failIf (received ≠ s.offset + batch.length) .runtimeError
  modify fun s => { s with offset := s.offset + batch.length }
  host.interleave
  let _ ← host.onDeadline BlastPCMDeadline.recordProgress

def advanceStart (payload : List UInt8) : Step σ T (PyDict Rat) := do
  host.interleave
  let begun ← host.onDeadline BlastPCMDeadline.beginStart
  Prog.failIf (begun = false) (.link .timeout)
  let s ← get
  tryCatch (host.startPcm s.transferId payload.length s.fletcher16) fun error => do
    host.interleave
    modify fun s => { s with deadline := s.deadline.finishStart }
    throw (if error = .link .timeout then .startTimeout else error)

def advance (payload : List UInt8) : Step σ T (Option (PyDict Rat)) := do
  let s ← get
  if s.transferId.isNone then
    host.advanceBegin payload
    return none
  else if s.offset < payload.length then
    host.advanceBatch payload
    return none
  else
    return some (← host.advanceStart payload)

/-- So many calls, up to the first that returns a result or raises. -/
def upload (payload : List UInt8) : Nat → Step σ T (Option (PyDict Rat))
  | 0 => return none
  | n + 1 => do
    let others ← reading host.requests
    modify fun s => { s with nextRequestId := s.nextRequestId + others }
    match ← host.advance payload with
    | none => upload payload n
    | some result => return some result

end PcmHost

end RobotLlm.Blast
