import Mathlib.Data.List.Basic

/-!
# Speech as IMA ADPCM

The host encodes an utterance into one self-contained stream: a header, then
one nibble for each further sample, the low one of a byte first. The firmware
of the hub checks the stream and decodes it while it plays. Both keep the same
predictor and step index, in two languages.
-/

namespace RobotLlm.Blast

-- The host's encoder

def imaIndexChanges : List Int := [-1, -1, -1, -1, 2, 4, 6, 8]

def imaStepSizes : List Int := [
  7, 8, 9, 10, 11, 12, 13, 14, 16, 17, 19, 21, 23, 25, 28, 31,
  34, 37, 41, 45, 50, 55, 60, 66, 73, 80, 88, 97, 107, 118,
  130, 143, 157, 173, 190, 209, 230, 253, 279, 307, 337, 371,
  408, 449, 494, 544, 598, 658, 724, 796, 876, 963, 1060, 1166,
  1282, 1411, 1552, 1707, 1878, 2066, 2272, 2499, 2749, 3024,
  3327, 3660, 4026, 4428, 4871, 5358, 5894, 6484, 7132, 7845,
  8630, 9493, 10442, 11487, 12635, 13899, 15289, 16818, 18500,
  20350, 22385, 24623, 27086, 29794, 32767]

def adpcmMaxSamples : Nat := 128000

def adpcmHeaderBytes : Nat := 7

def adpcmMaxBytes : Nat := adpcmHeaderBytes + adpcmMaxSamples / 2

structure AdpcmState where
  predictor : Int
  stepIndex : Nat
deriving DecidableEq

structure Quantizer where
  code : Nat
  difference : Int
  decodedDifference : Int

/-- `if difference >= amount: code |= bit; ..`. After the last bit, what is left
of the difference is read by nothing. -/
def Quantizer.take (q : Quantizer) (bit : Nat) (amount : Int) : Quantizer :=
  if q.difference ≥ amount then ⟨q.code ||| bit, q.difference - amount, q.decodedDifference + amount⟩ else q

def quantize (step difference : Int) : Quantizer :=
  let q : Quantizer :=
    if difference < 0 then ⟨8, -difference, step / 8⟩ else ⟨0, difference, step / 8⟩
  ((q.take 4 step).take 2 (step / 2)).take 1 (step / 4)

/-- One turn of the encoder's loop: the nibble, and what it keeps. -/
def encodeSample (s : AdpcmState) (sample : Int) : Nat × AdpcmState :=
  let q := quantize (imaStepSizes.getD s.stepIndex 0) (sample - s.predictor)
  let predictor := if q.code &&& 8 ≠ 0 then s.predictor - q.decodedDifference else s.predictor + q.decodedDifference
  (q.code,
    { predictor := max (-32768) (min 32767 predictor)
      stepIndex := (max 0 (min 88 (s.stepIndex + imaIndexChanges.getD (q.code &&& 7) 0))).toNat })

/-- A nibble goes into the low half of a new byte, or the high half of one begun. -/
def writeNibble (output : List UInt8) (codeIndex code : Nat) : List UInt8 :=
  let byteIndex := adpcmHeaderBytes + codeIndex / 2
  if codeIndex % 2 = 1 then output.set byteIndex (output.getD byteIndex 0 ||| UInt8.ofNat (code <<< 4))
  else output.set byteIndex (UInt8.ofNat code)

/-- The encoder's loop, from the code of that index on. -/
def encodeFrom (codeIndex : Nat) (s : AdpcmState) (output : List UInt8) : List Int → List UInt8 × AdpcmState
  | [] => (output, s)
  | sample :: samples =>
    let r := encodeSample s sample
    encodeFrom (codeIndex + 1) r.2 (writeNibble output codeIndex r.1) samples

/-- The first predictor, the step index and the number of samples, little-endian. -/
def adpcmHeader (predictor : Int) (stepIndex sampleCount : Nat) : List UInt8 :=
  [UInt8.ofNat (predictor % 256).toNat, UInt8.ofNat (predictor / 256 % 256).toNat, UInt8.ofNat stepIndex,
    UInt8.ofNat (sampleCount % 256), UInt8.ofNat (sampleCount / 256 % 256),
    UInt8.ofNat (sampleCount / 65536 % 256), UInt8.ofNat (sampleCount / 16777216)]

/-- `_encode_ima_adpcm_stream`: the stream and the last step index. -/
def encodeImaAdpcmStream (samples : List Int) (initialStepIndex : Int) : Except String (List UInt8 × Nat) :=
  if samples.length > adpcmMaxSamples then .error "ADPCM stream must contain 1..128000 samples"
  else
    match samples with
    | [] => .error "ADPCM stream must contain 1..128000 samples"
    | first :: rest =>
      if ¬ (0 ≤ initialStepIndex ∧ initialStepIndex ≤ 88) then .error "ADPCM step index must be from 0 to 88"
      else
        let r := encodeFrom 0 ⟨first, initialStepIndex.toNat⟩
          (adpcmHeader first initialStepIndex.toNat samples.length ++ List.replicate (samples.length / 2) 0) rest
        .ok (r.1, r.2.stepIndex)

-- The host's checks

def fletcher16 (payload : List UInt8) : Nat :=
  let sums := payload.foldl (fun (s : Nat × Nat) byte =>
    let sum1 := (s.1 + byte.toNat) % 255
    (sum1, (s.2 + sum1) % 255)) (0, 0)
  sums.2 <<< 8 ||| sums.1

/-- The four bytes from the third on, as a number. -/
def sampleCountField (payload : List UInt8) : Nat :=
  (payload.getD 3 0).toNat ||| (payload.getD 4 0).toNat <<< 8 ||| (payload.getD 5 0).toNat <<< 16 |||
    (payload.getD 6 0).toNat <<< 24

def adpcmSampleCount (payload : List UInt8) : Except String Nat :=
  if ¬ (adpcmHeaderBytes ≤ payload.length ∧ payload.length ≤ adpcmMaxBytes) then
    .error "sampled audio payload size is invalid"
  else
    let sampleCount := sampleCountField payload
    if (payload.getD 2 0).toNat > 88 ∨ ¬ (1 ≤ sampleCount ∧ sampleCount ≤ adpcmMaxSamples) then
      .error "sampled audio stream header is invalid"
    else if payload.length ≠ adpcmHeaderBytes + sampleCount / 2 then .error "sampled audio stream length is invalid"
    else if sampleCount % 2 = 0 ∧ (payload.getD (payload.length - 1) 0).toNat &&& 0xF0 ≠ 0 then
      .error "sampled audio padding nibble must be zero"
    else .ok sampleCount

-- The firmware

/-- `pb_type_Speaker_fletcher16`; the sums stay below 510. -/
def speakerFletcher16 (data : List UInt8) : Nat :=
  let sums := data.foldl (fun (s : Nat × Nat) byte =>
    let sum1 := s.1 + byte.toNat
    let sum1 := if sum1 ≥ 255 then sum1 - 255 else sum1
    let sum2 := s.2 + sum1
    (sum1, if sum2 ≥ 255 then sum2 - 255 else sum2)) (0, 0)
  sums.2 <<< 8 ||| sums.1

/-- `pb_type_Speaker_adpcm_state_t`. -/
structure SpeakerState where
  data : List UInt8
  sampleCount : Nat
  sampleIndex : Nat := 0
  predictor : Int := 0
  stepIndex : Nat := 0
deriving DecidableEq

/-- `pb_type_Speaker_adpcm_start`. -/
def SpeakerState.start (s : SpeakerState) : SpeakerState :=
  let predictor : Int := ((s.data.getD 0 0).toNat ||| (s.data.getD 1 0).toNat <<< 8 : Nat)
  { s with
    predictor := if predictor ≥ 0x8000 then predictor - 0x10000 else predictor
    stepIndex := (s.data.getD 2 0).toNat
    sampleIndex := 0 }

def nibbleAt (data : List UInt8) (codeIndex : Nat) : Nat :=
  let byte := (data.getD (adpcmHeaderBytes + codeIndex / 2) 0).toNat
  (if codeIndex % 2 = 1 then byte >>> 4 else byte) &&& 0x0f

/-- `pb_type_Speaker_adpcm_steps`. -/
def speakerAdpcmSteps : List Int := [
  7, 8, 9, 10, 11, 12, 13, 14, 16, 17, 19, 21, 23, 25, 28, 31,
  34, 37, 41, 45, 50, 55, 60, 66, 73, 80, 88, 97, 107, 118,
  130, 143, 157, 173, 190, 209, 230, 253, 279, 307, 337, 371,
  408, 449, 494, 544, 598, 658, 724, 796, 876, 963, 1060, 1166,
  1282, 1411, 1552, 1707, 1878, 2066, 2272, 2499, 2749, 3024,
  3327, 3660, 4026, 4428, 4871, 5358, 5894, 6484, 7132, 7845,
  8630, 9493, 10442, 11487, 12635, 13899, 15289, 16818, 18500,
  20350, 22385, 24623, 27086, 29794, 32767]

/-- The difference a nibble stands for, without its sign. -/
def decodedDifference (step : Int) (code : Nat) : Int :=
  step / 8 + (if code &&& 4 ≠ 0 then step else 0) + (if code &&& 2 ≠ 0 then step / 2 else 0) +
    (if code &&& 1 ≠ 0 then step / 4 else 0)

def decodeNibble (s : AdpcmState) (code : Nat) : AdpcmState :=
  let difference := decodedDifference (speakerAdpcmSteps.getD s.stepIndex 0) code
  let predictor := s.predictor + (if code &&& 8 ≠ 0 then -difference else difference)
  let magnitude : Int := (code &&& 7 : Nat)
  let stepIndex : Int := s.stepIndex + (if magnitude < 4 then -1 else (magnitude - 3) * 2)
  { predictor := if predictor < -32768 then -32768 else if predictor > 32767 then 32767 else predictor
    stepIndex := (if stepIndex < 0 then 0 else if stepIndex > 88 then 88 else stepIndex).toNat }

/-- A predictor as the unsigned value the sound driver takes. -/
def pcmOutput (predictor : Int) : Nat := (predictor + 32768).toNat

/-- One turn of `pb_type_Speaker_adpcm_refill`. -/
def SpeakerState.refillOne (s : SpeakerState) : Nat × SpeakerState :=
  if s.sampleIndex ≥ s.sampleCount then (32768, s)
  else if s.sampleIndex = 0 then (pcmOutput s.predictor, { s with sampleIndex := s.sampleIndex + 1 })
  else
    let next := decodeNibble ⟨s.predictor, s.stepIndex⟩ (nibbleAt s.data (s.sampleIndex - 1))
    (pcmOutput next.predictor,
      { s with predictor := next.predictor, stepIndex := next.stepIndex, sampleIndex := s.sampleIndex + 1 })

/-- `pb_type_Speaker_adpcm_refill`. -/
def SpeakerState.refill : Nat → SpeakerState → List Nat × SpeakerState
  | 0, s => ([], s)
  | n + 1, s =>
    let r := s.refillOne
    let rest := SpeakerState.refill n r.2
    (r.1 :: rest.1, rest.2)

/-- `pb_type_Speaker_play_adpcm`, up to the state it starts to play from. -/
def playAdpcm (payload : List UInt8) (byteCount expectedSampleCount expectedChecksum : Int) (sampleRate : Int := 16000) :
    Except String SpeakerState :=
  if sampleRate ≠ 16000 then .error "sample_rate must be 16000"
  else if byteCount < adpcmHeaderBytes ∨ byteCount > adpcmMaxBytes ∨ byteCount > payload.length ∨
      expectedSampleCount < 1 ∨ expectedSampleCount > adpcmMaxSamples ∨ expectedChecksum < 0 ∨
      expectedChecksum > 65535 then
    .error "ADPCM metadata is invalid"
  else if speakerFletcher16 (payload.take byteCount.toNat) ≠ expectedChecksum then .error "ADPCM checksum mismatch"
  else
    let sampleCount := sampleCountField payload
    if (payload.getD 2 0).toNat > 88 ∨ sampleCount = 0 ∨ sampleCount > adpcmMaxSamples ∨
        (sampleCount : Int) ≠ expectedSampleCount ∨ byteCount ≠ adpcmHeaderBytes + sampleCount / 2 ∨
        (sampleCount % 2 = 0 ∧ (payload.getD (byteCount.toNat - 1) 0).toNat &&& 0xF0 ≠ 0) then
      .error "invalid ima_adpcm4_mono_stream_v1 payload"
    else .ok (SpeakerState.start { data := payload, sampleCount := sampleCount })

end RobotLlm.Blast
