import RobotLlm.Lib.Machine
import RobotLlm.Blast.Adpcm
import RobotLlm.Blast.PcmUpload

/-!
# The stream through the ring

The firmware plays a decoded utterance through a ring of two halves. Circular
DMA plays the halves in turn; at the end of each the interrupt handler counts
it and, while there is more to come, decodes the next chunk into it.
-/

namespace RobotLlm.Blast

open RobotLlm.Lib

/-- `PB_TYPE_SPEAKER_ADPCM_CHUNK_SIZE`. -/
def speakerChunkSize : Nat := 256

inductive RingHalf where
  | first
  | second
deriving DecidableEq

def RingHalf.other : RingHalf → RingHalf
  | .first => .second
  | .second => .first

/-- The driver, the ring and the DMA. What the DMA played, and what was written
meanwhile, is kept for the record. -/
structure SoundStream where
  first : List Nat
  second : List Nat
  /-- `pbdrv_sound_stream_chunks_remaining`, a `uint32_t`. -/
  chunksRemaining : Nat
  /-- `pbdrv_sound_stream`; the DMA runs as long. -/
  stream : Bool := true
  context : SpeakerState
  playing : RingHalf := .first
  /-- The half whose interrupt is not yet handled. -/
  pending : Option RingHalf := none
  /-- What the half that is playing held when it began to. -/
  began : List Nat
  /-- Each half that was played, as it began and as it ended. -/
  played : List (List Nat × List Nat) := []
  /-- Each half that was written, and the half that played then. -/
  written : List (RingHalf × RingHalf) := []

namespace SoundStream

def half (s : SoundStream) : RingHalf → List Nat
  | .first => s.first
  | .second => s.second

def write (s : SoundStream) (output : List Nat) : RingHalf → SoundStream
  | .first => { s with first := output, written := (.first, s.playing) :: s.written }
  | .second => { s with second := output, written := (.second, s.playing) :: s.written }

def refill (s : SoundStream) (consumed : RingHalf) : SoundStream :=
  let r := s.context.refill speakerChunkSize
  { s with context := r.2 }.write r.1 consumed

/-- `pbdrv_sound_stream_boundary`. -/
def streamBoundary (s : SoundStream) (consumed : RingHalf) : SoundStream :=
  if s.stream = false then s
  else
    let s := { s with chunksRemaining := (s.chunksRemaining + (2 ^ 32 - 1)) % 2 ^ 32 }
    if s.chunksRemaining = 0 then { s with stream := false }
    else if s.chunksRemaining > 1 then s.refill consumed
    else s

/-- The end of `play_adpcm`: both halves are filled, then the DMA starts. -/
def start (speaker : SpeakerState) : SoundStream :=
  let r := speaker.refill (speakerChunkSize * 2)
  { first := r.1.take speakerChunkSize
    second := r.1.drop speakerChunkSize
    chunksRemaining := (speaker.sampleCount + speakerChunkSize - 1) / speakerChunkSize
    context := r.2
    began := r.1.take speakerChunkSize }

inductive Event where
  /-- The DMA comes to the end of a half and goes on with the other. -/
  | halfPlayed
  /-- The handler of the pending interrupt runs. -/
  | interrupt
deriving DecidableEq

def step (s : SoundStream) : Event → SoundStream
  | .halfPlayed =>
    { s with
      played := s.played ++ [(s.began, s.half s.playing)]
      pending := some s.playing
      playing := s.playing.other
      began := s.half s.playing.other }
  | .interrupt =>
    match s.pending with
    | none => s
    | some consumed => { s with pending := none }.streamBoundary consumed

/-- The contract of the hardware: the handler of a half runs before that half is
played again. -/
def Contract (s : SoundStream) : Event → Prop
  | .halfPlayed => s.stream = true ∧ s.pending = none
  | .interrupt => s.pending.isSome = true

instance : Decidable (Contract s event) := by
  cases event <;> unfold Contract <;> infer_instance

def machine : Machine SoundStream Event Unit where
  step s event := ((), s.step event)

end SoundStream

end RobotLlm.Blast
