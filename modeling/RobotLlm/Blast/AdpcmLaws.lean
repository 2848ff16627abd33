import Mathlib.Tactic.IntervalCases
import RobotLlm.Blast.Adpcm

/-!
# Host and firmware decode the same speech

A stream that the host encodes passes the host's own check and the firmware's,
and the firmware follows the encoder's predictor and step index nibble by
nibble, so that it plays what the encoder meant it to play.
-/

namespace RobotLlm.Blast

-- Checksums

theorem reduce_eq_mod {n : Nat} (h : n < 510) : (if n ≥ 255 then n - 255 else n) = n % 255 := by
  split <;> omega

theorem fletcher16_step {s : Nat × Nat} (hs : s.1 < 255 ∧ s.2 < 255) (byte : UInt8) :
    let sum1 := (s.1 + byte.toNat) % 255
    (if s.1 + byte.toNat ≥ 255 then s.1 + byte.toNat - 255 else s.1 + byte.toNat) = sum1 ∧
      (if s.2 + sum1 ≥ 255 then s.2 + sum1 - 255 else s.2 + sum1) = (s.2 + sum1) % 255 := by
  have hb := byte.toNat_lt
  exact ⟨reduce_eq_mod (by omega), reduce_eq_mod (by omega)⟩

theorem fletcher16_agrees (payload : List UInt8) : speakerFletcher16 payload = fletcher16 payload := by
  have hfold : ∀ (bytes : List UInt8) (s : Nat × Nat), s.1 < 255 ∧ s.2 < 255 →
      bytes.foldl (fun (s : Nat × Nat) byte =>
        let sum1 := s.1 + byte.toNat
        let sum1 := if sum1 ≥ 255 then sum1 - 255 else sum1
        let sum2 := s.2 + sum1
        (sum1, if sum2 ≥ 255 then sum2 - 255 else sum2)) s =
      bytes.foldl (fun (s : Nat × Nat) byte =>
        let sum1 := (s.1 + byte.toNat) % 255
        (sum1, (s.2 + sum1) % 255)) s := by
    intro bytes
    induction bytes with
    | nil => exact fun _ _ => rfl
    | cons byte bytes ih =>
      intro s hs
      obtain ⟨h1, h2⟩ := fletcher16_step hs byte
      simp only [List.foldl_cons]
      rw [h1, h2]
      exact ih _ ⟨by omega, by omega⟩
  unfold speakerFletcher16 fletcher16
  rw [hfold payload (0, 0) (by decide)]

theorem fletcher16_le (payload : List UInt8) : fletcher16 payload ≤ 65535 := by
  have hfold : ∀ (bytes : List UInt8) (s : Nat × Nat), s.1 < 255 ∧ s.2 < 255 →
      (bytes.foldl (fun (s : Nat × Nat) byte =>
        let sum1 := (s.1 + byte.toNat) % 255
        (sum1, (s.2 + sum1) % 255)) s).1 < 255 ∧
      (bytes.foldl (fun (s : Nat × Nat) byte =>
        let sum1 := (s.1 + byte.toNat) % 255
        (sum1, (s.2 + sum1) % 255)) s).2 < 255 := by
    intro bytes
    induction bytes with
    | nil => exact fun _ hs => hs
    | cons byte bytes ih => exact fun s _ => ih _ ⟨by simp only; omega, by simp only; omega⟩
  obtain ⟨h1, h2⟩ := hfold payload (0, 0) (by decide)
  unfold fletcher16
  rw [← Nat.shiftLeft_add_eq_or_of_lt (i := 8) (by omega)]
  omega

-- One nibble

theorem Quantizer.take_cases (q : Quantizer) (bit : Nat) (amount : Int) :
    q.take bit amount = q ∨ ∃ left, q.take bit amount = ⟨q.code ||| bit, left, q.decodedDifference + amount⟩ := by
  unfold Quantizer.take
  split
  · exact .inr ⟨_, rfl⟩
  · exact .inl rfl

theorem quantize_decodes (step difference : Int) :
    (quantize step difference).code < 16 ∧
      decodedDifference step (quantize step difference).code = (quantize step difference).decodedDifference := by
  unfold quantize
  generalize hq : (if difference < 0 then (⟨8, -difference, step / 8⟩ : Quantizer)
    else ⟨0, difference, step / 8⟩) = q
  have hstart : (q.code = 8 ∨ q.code = 0) ∧ q.decodedDifference = step / 8 := by
    subst hq
    split <;> simp
  obtain ⟨hcode | hcode, hsum⟩ := hstart <;>
  obtain h4 | ⟨left4, h4⟩ := q.take_cases 4 step <;>
  obtain h2 | ⟨left2, h2⟩ := (q.take 4 step).take_cases 2 (step / 2) <;>
  obtain h1 | ⟨left1, h1⟩ := ((q.take 4 step).take 2 (step / 2)).take_cases 1 (step / 4) <;>
  (rw [h1, h2, h4]; simp [hcode, hsum, decodedDifference])

theorem stepSizes_agree : speakerAdpcmSteps = imaStepSizes := rfl

theorem indexChange_agrees {magnitude : Nat} (h : magnitude < 8) :
    (if (magnitude : Int) < 4 then -1 else ((magnitude : Int) - 3) * 2) = imaIndexChanges.getD magnitude 0 := by
  interval_cases magnitude <;> rfl

theorem clamp_eq (low high x : Int) (h : low ≤ high) :
    (if x < low then low else if x > high then high else x) = max low (min high x) := by
  split_ifs <;> omega

theorem decodeNibble_encodeSample (s : AdpcmState) (sample : Int) :
    decodeNibble s (encodeSample s sample).1 = (encodeSample s sample).2 := by
  obtain ⟨hcode, hsum⟩ := quantize_decodes (imaStepSizes.getD s.stepIndex 0) (sample - s.predictor)
  have hmagnitude : (quantize (imaStepSizes.getD s.stepIndex 0) (sample - s.predictor)).code &&& 7 < 8 :=
    Nat.lt_succ_of_le Nat.and_le_right
  unfold decodeNibble encodeSample
  simp only [stepSizes_agree, hsum]
  rw [clamp_eq _ _ _ (by decide), clamp_eq _ _ _ (by decide), indexChange_agrees hmagnitude]
  congr 2
  split <;> omega

-- The nibbles of a stream

theorem writeNibble_length (output : List UInt8) (codeIndex code : Nat) :
    (writeNibble output codeIndex code).length = output.length := by
  unfold writeNibble
  split <;> simp

theorem halves_of_even {code : Nat} (h : code < 16) :
    (UInt8.ofNat code).toNat &&& 0x0f = code ∧ (UInt8.ofNat code).toNat >>> 4 &&& 0x0f = 0 := by
  interval_cases code <;> decide

theorem lt_of_high_blank {byte : UInt8} (h : byte.toNat >>> 4 &&& 0x0f = 0) : byte.toNat < 16 := by
  have hb := byte.toNat_lt
  have hshift : byte.toNat >>> 4 = byte.toNat / 16 := Nat.shiftRight_eq_div_pow _ _
  have hand : byte.toNat >>> 4 &&& 0x0f = (byte.toNat >>> 4) % 16 := Nat.and_two_pow_sub_one_eq_mod _ 4
  omega

theorem halves_of_odd {byte : UInt8} {code : Nat} (h : code < 16) (hhigh : byte.toNat >>> 4 &&& 0x0f = 0) :
    (byte ||| UInt8.ofNat (code <<< 4)).toNat &&& 0x0f = byte.toNat &&& 0x0f ∧
      (byte ||| UInt8.ofNat (code <<< 4)).toNat >>> 4 &&& 0x0f = code := by
  have hlow := lt_of_high_blank hhigh
  have hlit : byte = UInt8.ofNat byte.toNat := by simp
  rw [hlit]
  generalize byte.toNat = low at hlow
  interval_cases code <;> interval_cases low <;> decide


def Blank (output : List UInt8) (codeIndex : Nat) : Prop := ∀ k ≥ codeIndex, nibbleAt output k = 0

theorem getD_set (output : List UInt8) (i j : Nat) (byte : UInt8) (h : i < output.length) :
    (output.set i byte).getD j 0 = if i = j then byte else output.getD j 0 := by
  simp only [List.getD_eq_getElem?_getD, List.getElem?_set]
  split
  · simp_all
  · rfl

theorem nibbleAt_odd {data : List UInt8} {k : Nat} (h : k % 2 = 1) :
    nibbleAt data k = (data.getD (adpcmHeaderBytes + k / 2) 0).toNat >>> 4 &&& 0x0f := by
  simp only [nibbleAt, h, if_true]

theorem nibbleAt_even {data : List UInt8} {k : Nat} (h : ¬ k % 2 = 1) :
    nibbleAt data k = (data.getD (adpcmHeaderBytes + k / 2) 0).toNat &&& 0x0f := by
  simp only [nibbleAt, h, if_false]

theorem nibbleAt_writeNibble {output : List UInt8} {codeIndex code : Nat} (hcode : code < 16)
    (hblank : Blank output codeIndex) (hroom : adpcmHeaderBytes + codeIndex / 2 < output.length) (k : Nat) :
    nibbleAt (writeNibble output codeIndex code) k = if k = codeIndex then code else nibbleAt output k := by
  have hbefore := hblank codeIndex (Nat.le_refl _)
  unfold writeNibble
  by_cases hodd : codeIndex % 2 = 1
  · rw [nibbleAt_odd hodd] at hbefore
    obtain ⟨hlow, hwritten⟩ := halves_of_odd hcode hbefore
    rw [if_pos hodd]
    by_cases hk : k % 2 = 1
    · rw [nibbleAt_odd hk, nibbleAt_odd hk, getD_set _ _ _ _ hroom]
      by_cases hsame : k = codeIndex
      · rw [if_pos (by omega), if_pos hsame, hwritten]
      · rw [if_neg (by omega), if_neg hsame]
    · -- the low half of the byte stays
      rw [nibbleAt_even hk, nibbleAt_even hk, getD_set _ _ _ _ hroom, if_neg (by omega : ¬ k = codeIndex)]
      split
      · rename_i hbyte
        rw [hlow, hbyte]
      · rfl
  · obtain ⟨hwritten, hhigh⟩ := halves_of_even hcode
    rw [if_neg hodd]
    by_cases hk : k % 2 = 1
    · -- the high half of the new byte is as blank as it was
      have hkblank : codeIndex ≤ k → nibbleAt output k = 0 := hblank k
      rw [nibbleAt_odd hk] at hkblank ⊢
      rw [nibbleAt_odd hk, getD_set _ _ _ _ hroom, if_neg (by omega : ¬ k = codeIndex)]
      split
      · rw [hhigh, hkblank (by omega)]
      · rfl
    · rw [nibbleAt_even hk, nibbleAt_even hk, getD_set _ _ _ _ hroom]
      by_cases hsame : k = codeIndex
      · rw [if_pos (by omega), if_pos hsame, hwritten]
      · rw [if_neg (by omega), if_neg hsame]

theorem encodeSample_code (s : AdpcmState) (sample : Int) : (encodeSample s sample).1 < 16 :=
  (quantize_decodes _ _).1

def codesFrom (s : AdpcmState) : List Int → List Nat
  | [] => []
  | sample :: samples => (encodeSample s sample).1 :: codesFrom (encodeSample s sample).2 samples

theorem codesFrom_length (samples : List Int) : ∀ s, (codesFrom s samples).length = samples.length := by
  induction samples with
  | nil => exact fun _ => rfl
  | cons sample samples ih => exact fun s => congrArg (· + 1) (ih _)

theorem encodeFrom_writes (samples : List Int) : ∀ (codeIndex : Nat) (s : AdpcmState) (output : List UInt8),
    Blank output codeIndex → adpcmHeaderBytes + (codeIndex + samples.length + 1) / 2 ≤ output.length →
    (encodeFrom codeIndex s output samples).1.length = output.length ∧
      (∀ i < adpcmHeaderBytes, (encodeFrom codeIndex s output samples).1.getD i 0 = output.getD i 0) ∧
      (∀ k < codeIndex, nibbleAt (encodeFrom codeIndex s output samples).1 k = nibbleAt output k) ∧
      ∀ n, nibbleAt (encodeFrom codeIndex s output samples).1 (codeIndex + n) = (codesFrom s samples).getD n 0 := by
  induction samples with
  | nil =>
    intro codeIndex s output hblank _
    exact ⟨rfl, fun _ _ => rfl, fun _ _ => rfl, fun n => hblank _ (Nat.le_add_right _ _)⟩
  | cons sample samples ih =>
    intro codeIndex s output hblank hroom
    simp only [List.length_cons] at hroom
    have hwritten := nibbleAt_writeNibble (encodeSample_code s sample) hblank (by omega)
    have hlength := writeNibble_length output codeIndex (encodeSample s sample).1
    have hblank' : Blank (writeNibble output codeIndex (encodeSample s sample).1) (codeIndex + 1) := by
      intro k hk
      rw [hwritten, if_neg (by omega), hblank k (by omega)]
    obtain ⟨hlen, hheader, hbefore, hcodes⟩ := ih (codeIndex + 1) (encodeSample s sample).2
      (writeNibble output codeIndex (encodeSample s sample).1) hblank' (by rw [hlength]; omega)
    unfold encodeFrom
    refine ⟨hlen.trans hlength, fun i hi => (hheader i hi).trans ?_, fun k hk => ?_, fun n => ?_⟩
    · unfold writeNibble
      split <;> rw [getD_set _ _ _ _ (by omega), if_neg (by omega)]
    · rw [hbefore k (by omega), hwritten, if_neg (by omega)]
    · cases n with
      | zero => rw [Nat.add_zero, hbefore _ (by omega), hwritten, if_pos (Nat.add_zero _)]; rfl
      | succ n => rw [show codeIndex + (n + 1) = codeIndex + 1 + n by omega, hcodes]; rfl


-- The header

theorem or_shiftLeft {low high i : Nat} (h : low < 2 ^ i) : low ||| high <<< i = high * 2 ^ i + low := by
  rw [Nat.or_comm, ← Nat.shiftLeft_add_eq_or_of_lt h, Nat.shiftLeft_eq]

theorem header_predictor {predictor : Int} (h : -32768 ≤ predictor ∧ predictor ≤ 32767) {raw : Int}
    (hraw : raw = ((UInt8.ofNat (predictor % 256).toNat).toNat |||
      (UInt8.ofNat (predictor / 256 % 256).toNat).toNat <<< 8 : Nat)) :
    (if raw ≥ 0x8000 then raw - 0x10000 else raw) = predictor := by
  rw [or_shiftLeft (UInt8.toNat_lt _)] at hraw
  simp only [UInt8.toNat_ofNat'] at hraw
  split <;> omega

theorem header_sampleCount {predictor : Int} {stepIndex sampleCount : Nat} (h : sampleCount < 2 ^ 32) (rest : List UInt8) :
    sampleCountField (adpcmHeader predictor stepIndex sampleCount ++ rest) = sampleCount := by
  have h3 := UInt8.toNat_lt (UInt8.ofNat (sampleCount % 256))
  have h4 := UInt8.toNat_lt (UInt8.ofNat (sampleCount / 256 % 256))
  have h5 := UInt8.toNat_lt (UInt8.ofNat (sampleCount / 65536 % 256))
  show (UInt8.ofNat (sampleCount % 256)).toNat ||| (UInt8.ofNat (sampleCount / 256 % 256)).toNat <<< 8 |||
    (UInt8.ofNat (sampleCount / 65536 % 256)).toNat <<< 16 ||| (UInt8.ofNat (sampleCount / 16777216)).toNat <<< 24 =
      sampleCount
  rw [or_shiftLeft h3, @or_shiftLeft _ (UInt8.ofNat (sampleCount / 65536 % 256)).toNat 16 (by omega),
    or_shiftLeft (by omega)]
  simp only [UInt8.toNat_ofNat'] at *
  omega

theorem sampleCountField_congr {payload other : List UInt8}
    (h : ∀ i < adpcmHeaderBytes, payload.getD i 0 = other.getD i 0) : sampleCountField payload = sampleCountField other := by
  unfold sampleCountField
  rw [h 3 (by decide), h 4 (by decide), h 5 (by decide), h 6 (by decide)]

-- Following the encoder

def keptAfter (s : AdpcmState) (samples : List Int) : AdpcmState :=
  samples.foldl (fun s sample => (encodeSample s sample).2) s

theorem encodeFrom_state (samples : List Int) : ∀ codeIndex s output,
    (encodeFrom codeIndex s output samples).2 = keptAfter s samples := by
  induction samples with
  | nil => exact fun _ _ _ => rfl
  | cons sample samples ih => exact fun codeIndex s output => ih _ _ _

theorem keptAfter_succ (s : AdpcmState) (samples : List Int) {n : Nat} (h : n < samples.length) :
    keptAfter s (samples.take (n + 1)) = (encodeSample (keptAfter s (samples.take n)) (samples.getD n 0)).2 := by
  rw [List.take_succ_eq_append_getElem h, keptAfter, List.foldl_append, List.getD_eq_getElem?_getD,
    List.getElem?_eq_getElem h]
  rfl

theorem codesFrom_getD (samples : List Int) : ∀ (s : AdpcmState) {n : Nat}, n < samples.length →
    (codesFrom s samples).getD n 0 = (encodeSample (keptAfter s (samples.take n)) (samples.getD n 0)).1 := by
  induction samples with
  | nil => exact fun _ _ h => absurd h (Nat.not_lt_zero _)
  | cons sample samples ih =>
    intro s n h
    cases n with
    | zero => rfl
    | succ n => exact ih _ (Nat.lt_of_succ_lt_succ h)

theorem SpeakerState.refill_succ (n : Nat) : ∀ s : SpeakerState,
    s.refill (n + 1) = ((s.refill n).1 ++ [(s.refill n).2.refillOne.1], (s.refill n).2.refillOne.2) := by
  induction n with
  | zero => exact fun _ => rfl
  | succ n ih =>
    intro s
    have := ih s.refillOne.2
    rw [SpeakerState.refill, this]
    rfl

theorem SpeakerState.refill_follows {s : SpeakerState} {trace : Nat → AdpcmState} (hindex : s.sampleIndex = 0)
    (hstart : (⟨s.predictor, s.stepIndex⟩ : AdpcmState) = trace 0)
    (hstep : ∀ n, n + 1 < s.sampleCount → decodeNibble (trace n) (nibbleAt s.data n) = trace (n + 1))
    {n : Nat} (hn : n ≤ s.sampleCount) :
    s.refill n = ((List.range n).map fun k => pcmOutput (trace k).predictor,
      { s with sampleIndex := n, predictor := (trace (n - 1)).predictor, stepIndex := (trace (n - 1)).stepIndex }) := by
  induction n with
  | zero =>
    cases s
    simp only at hindex
    rw [Nat.zero_sub, ← hstart, hindex]
    rfl
  | succ n ih =>
    rw [refill_succ, ih (by omega), List.range_succ, List.map_append]
    unfold refillOne
    rw [if_neg (by simp only; omega)]
    cases n with
    | zero => rw [if_pos rfl, ← hstart]; simp [← hstart]
    | succ n =>
      have := hstep n (by omega)
      rw [if_neg (Nat.succ_ne_zero _)]
      simp only [Nat.add_sub_cancel, this]
      rfl

-- The whole stream

def blankStream (samples : List Int) (stepIndex : Nat) : List UInt8 :=
  adpcmHeader (samples.headD 0) stepIndex samples.length ++ List.replicate (samples.length / 2) 0

/-- The encoder's predictor and step index after that many nibbles. -/
def encoderAfter (samples : List Int) (initialStepIndex : Int) (nibbles : Nat) : AdpcmState :=
  (encodeFrom 0 ⟨samples.headD 0, initialStepIndex.toNat⟩ (blankStream samples initialStepIndex.toNat)
    (samples.tail.take nibbles)).2

theorem blankStream_blank (samples : List Int) (stepIndex : Nat) : Blank (blankStream samples stepIndex) 0 := by
  intro k _
  have hzero : (blankStream samples stepIndex).getD (adpcmHeaderBytes + k / 2) 0 = 0 := by
    unfold blankStream
    rw [List.getD_eq_getElem?_getD, List.getElem?_append_right (by simp [adpcmHeader, adpcmHeaderBytes]),
      List.getElem?_replicate]
    split <;> rfl
  unfold nibbleAt
  rw [hzero]
  split <;> rfl

theorem encodeImaAdpcmStream_spec {samples : List Int} {initialStepIndex : Int}
    (hlength : 1 ≤ samples.length ∧ samples.length ≤ adpcmMaxSamples)
    (hstep : 0 ≤ initialStepIndex ∧ initialStepIndex ≤ 88) :
    ∃ payload, encodeImaAdpcmStream samples initialStepIndex =
        .ok (payload, (encoderAfter samples initialStepIndex (samples.length - 1)).stepIndex) ∧
      payload.length = adpcmHeaderBytes + samples.length / 2 ∧
      (∀ i < adpcmHeaderBytes, payload.getD i 0 = (blankStream samples initialStepIndex.toNat).getD i 0) ∧
      ∀ n, nibbleAt payload n = (codesFrom ⟨samples.headD 0, initialStepIndex.toNat⟩ samples.tail).getD n 0 := by
  cases samples with
  | nil => exact absurd hlength.1 (by decide)
  | cons first rest =>
    have hroom : (blankStream (first :: rest) initialStepIndex.toNat).length =
        adpcmHeaderBytes + (first :: rest).length / 2 := by
      simp only [blankStream, adpcmHeader, List.length_append, List.length_replicate]
      rfl
    obtain ⟨hlen, hheader, -, hcodes⟩ := encodeFrom_writes rest 0 ⟨first, initialStepIndex.toNat⟩ _
      (blankStream_blank (first :: rest) initialStepIndex.toNat) (by rw [hroom, List.length_cons]; omega)
    refine ⟨_, ?_, hlen.trans hroom, hheader, fun n => by simpa using hcodes n⟩
    have htake : rest.take ((first :: rest).length - 1) = rest := List.take_of_length_le (by simp)
    unfold encodeImaAdpcmStream encoderAfter
    rw [if_neg (by omega), List.tail_cons, htake]
    exact if_neg (not_not_intro hstep)

theorem decodeNibble_encoderAfter (samples : List Int) (initialStepIndex : Int) {n : Nat}
    (h : n + 1 < samples.length) :
    decodeNibble (encoderAfter samples initialStepIndex n)
        ((codesFrom ⟨samples.headD 0, initialStepIndex.toNat⟩ samples.tail).getD n 0) =
      encoderAfter samples initialStepIndex (n + 1) := by
  have hn : n < samples.tail.length := by rw [List.length_tail]; omega
  unfold encoderAfter
  rw [encodeFrom_state, encodeFrom_state, codesFrom_getD _ _ hn, keptAfter_succ _ _ hn, decodeNibble_encodeSample]

theorem adpcmSampleCount_of_layout {payload : List UInt8} {sampleCount : Nat}
    (hcount : 1 ≤ sampleCount ∧ sampleCount ≤ adpcmMaxSamples)
    (hlength : payload.length = adpcmHeaderBytes + sampleCount / 2) (hstep : (payload.getD 2 0).toNat ≤ 88)
    (hfield : sampleCountField payload = sampleCount)
    (hpadding : sampleCount % 2 = 0 → (payload.getD (payload.length - 1) 0).toNat &&& 0xF0 = 0) :
    adpcmSampleCount payload = .ok sampleCount := by
  unfold adpcmSampleCount
  simp only [hfield]
  rw [if_neg (by simp only [adpcmMaxBytes]; omega), if_neg (by omega), if_neg (by omega),
    if_neg (fun h => h.2 (hpadding h.1))]

theorem playAdpcm_of_layout {payload : List UInt8} {sampleCount : Nat}
    (hcount : 1 ≤ sampleCount ∧ sampleCount ≤ adpcmMaxSamples)
    (hlength : payload.length = adpcmHeaderBytes + sampleCount / 2) (hstep : (payload.getD 2 0).toNat ≤ 88)
    (hfield : sampleCountField payload = sampleCount)
    (hpadding : sampleCount % 2 = 0 → (payload.getD (payload.length - 1) 0).toNat &&& 0xF0 = 0) :
    playAdpcm payload payload.length sampleCount (fletcher16 payload) =
      .ok (SpeakerState.start { data := payload, sampleCount := sampleCount }) := by
  have hchecksum := fletcher16_le payload
  unfold playAdpcm
  simp only [hfield, Int.toNat_natCast, List.take_length, fletcher16_agrees]
  rw [if_neg (by decide), if_neg (by simp only [adpcmMaxBytes]; omega), if_neg (by omega), if_neg]
  rintro (h | h | h | h | h | h)
  · omega
  · omega
  · omega
  · exact h rfl
  · omega
  · exact h.2 (hpadding h.1)

theorem padding_blank {payload : List UInt8} {sampleCount : Nat} (hcount : 1 ≤ sampleCount)
    (hlength : payload.length = adpcmHeaderBytes + sampleCount / 2)
    (hbeyond : nibbleAt payload (sampleCount - 1) = 0) (heven : sampleCount % 2 = 0) :
    (payload.getD (payload.length - 1) 0).toNat &&& 0xF0 = 0 := by
  rw [nibbleAt_odd (by omega)] at hbeyond
  have hlow := lt_of_high_blank hbeyond
  rw [show payload.length - 1 = adpcmHeaderBytes + (sampleCount - 1) / 2 by omega]
  generalize (payload.getD (adpcmHeaderBytes + (sampleCount - 1) / 2) 0).toNat = byte at hlow
  interval_cases byte <;> rfl

/-- Host and firmware agree on every stream: both checks accept what the encoder
writes, and the firmware plays the encoder's own predictors, nibble by nibble. -/
theorem firmware_follows_encoder (samples : List Int) (initialStepIndex : Int)
    (hlength : 1 ≤ samples.length ∧ samples.length ≤ 128000)
    (hrange : ∀ sample ∈ samples, -32768 ≤ sample ∧ sample ≤ 32767)
    (hstep : 0 ≤ initialStepIndex ∧ initialStepIndex ≤ 88) :
    (∀ payload, speakerFletcher16 payload = fletcher16 payload) ∧
      ∃ payload playing, encodeImaAdpcmStream samples initialStepIndex =
          .ok (payload, (encoderAfter samples initialStepIndex (samples.length - 1)).stepIndex) ∧
        adpcmSampleCount payload = .ok samples.length ∧
        playAdpcm payload payload.length samples.length (fletcher16 payload) = .ok playing ∧
        playing.sampleCount = samples.length ∧
        (∀ n < samples.length, (⟨(playing.refill (n + 1)).2.predictor, (playing.refill (n + 1)).2.stepIndex⟩ : AdpcmState) =
          encoderAfter samples initialStepIndex n) ∧
        (playing.refill samples.length).1 =
          (List.range samples.length).map fun n => pcmOutput (encoderAfter samples initialStepIndex n).predictor := by
  refine ⟨fletcher16_agrees, ?_⟩
  obtain ⟨payload, hencode, hlen, hheader, hnibbles⟩ := encodeImaAdpcmStream_spec hlength hstep
  have hfield : sampleCountField payload = samples.length := by
    rw [sampleCountField_congr hheader, blankStream, header_sampleCount (by omega)]
  have hindex : (payload.getD 2 0).toNat = initialStepIndex.toNat := by
    rw [hheader 2 (by decide)]
    show (UInt8.ofNat initialStepIndex.toNat).toNat = _
    rw [UInt8.toNat_ofNat']
    omega
  have hpadding := padding_blank hlength.1 hlen (by
    rw [hnibbles, List.getD_eq_getElem?_getD, List.getElem?_eq_none (by rw [codesFrom_length, List.length_tail])]
    rfl)
  have hfirst : -32768 ≤ samples.headD 0 ∧ samples.headD 0 ≤ 32767 := by
    cases samples with
    | nil => exact absurd hlength.1 (by decide)
    | cons first rest => exact hrange first List.mem_cons_self
  -- the decoder starts where the encoder started
  have hstart : (⟨(SpeakerState.start { data := payload, sampleCount := samples.length }).predictor,
      (SpeakerState.start { data := payload, sampleCount := samples.length }).stepIndex⟩ : AdpcmState) =
        encoderAfter samples initialStepIndex 0 := by
    have hpredictor := header_predictor hfirst rfl
    show (⟨_, (payload.getD 2 0).toNat⟩ : AdpcmState) = ⟨samples.headD 0, initialStepIndex.toNat⟩
    rw [hindex]
    congr 1
    have h0 := hheader 0 (by decide)
    have h1 := hheader 1 (by decide)
    unfold SpeakerState.start
    simp only [h0, h1]
    exact hpredictor
  have hfollow := fun n (hn : n ≤ samples.length) => SpeakerState.refill_follows rfl hstart
    (fun n hn => by
      show decodeNibble _ (nibbleAt payload n) = _
      rw [hnibbles, decodeNibble_encoderAfter _ _ hn]) hn
  refine ⟨payload, _, hencode, adpcmSampleCount_of_layout hlength hlen (by omega) hfield hpadding,
    playAdpcm_of_layout hlength hlen (by omega) hfield hpadding, rfl, fun n hn => ?_, ?_⟩
  · rw [hfollow (n + 1) hn]
    rfl
  · rw [hfollow samples.length (Nat.le_refl _)]

/-- Two loud samples, from the middle of the table. -/
theorem firmware_follows_encoder_sample :
    (∀ payload, speakerFletcher16 payload = fletcher16 payload) ∧
      ∃ payload playing, encodeImaAdpcmStream [32767, -32768] 44 =
          .ok (payload, (encoderAfter [32767, -32768] 44 1).stepIndex) ∧
        adpcmSampleCount payload = .ok 2 ∧
        playAdpcm payload payload.length 2 (fletcher16 payload) = .ok playing ∧
        playing.sampleCount = 2 ∧
        (∀ n < 2, (⟨(playing.refill (n + 1)).2.predictor, (playing.refill (n + 1)).2.stepIndex⟩ : AdpcmState) =
          encoderAfter [32767, -32768] 44 n) ∧
        (playing.refill 2).1 =
          (List.range 2).map fun n => pcmOutput (encoderAfter [32767, -32768] 44 n).predictor :=
  firmware_follows_encoder [32767, -32768] 44 (by decide) (by decide) (by decide)

-- What the checksum detects

def fletcherSums (s : Nat × Nat) (bytes : List UInt8) : Nat × Nat :=
  bytes.foldl (fun (s : Nat × Nat) byte =>
    let sum1 := (s.1 + byte.toNat) % 255
    (sum1, (s.2 + sum1) % 255)) s

theorem fletcherSums_cons (s : Nat × Nat) (byte : UInt8) (bytes : List UInt8) : fletcherSums s (byte :: bytes) =
    fletcherSums ((s.1 + byte.toNat) % 255, (s.2 + (s.1 + byte.toNat) % 255) % 255) bytes := rfl

theorem fletcherSums_append (s : Nat × Nat) (first second : List UInt8) :
    fletcherSums s (first ++ second) = fletcherSums (fletcherSums s first) second := List.foldl_append

theorem fletcherSums_lt (bytes : List UInt8) : ∀ s : Nat × Nat, s.1 < 255 ∧ s.2 < 255 →
    (fletcherSums s bytes).1 < 255 ∧ (fletcherSums s bytes).2 < 255 := by
  induction bytes with
  | nil => exact fun _ hs => hs
  | cons byte bytes ih => exact fun s _ => ih _ ⟨Nat.mod_lt _ (by decide), Nat.mod_lt _ (by decide)⟩

/-- The same bytes never bring two different sums together. -/
theorem fletcherSums_ne (bytes : List UInt8) : ∀ s t : Nat × Nat, s.1 < 255 ∧ s.2 < 255 → t.1 < 255 ∧ t.2 < 255 → s ≠ t →
    fletcherSums s bytes ≠ fletcherSums t bytes := by
  induction bytes with
  | nil => exact fun _ _ _ _ hne => hne
  | cons byte bytes ih =>
    intro s t hs ht hne
    refine ih _ _ ⟨Nat.mod_lt _ (by decide), Nat.mod_lt _ (by decide)⟩ ⟨Nat.mod_lt _ (by decide), Nat.mod_lt _ (by decide)⟩ ?_
    intro heq
    obtain ⟨h₁, h₂⟩ := Prod.mk.inj heq
    have hfirst : s.1 = t.1 := by omega
    exact hne (Prod.ext hfirst (by omega))

theorem fletcher16_ne {first second : List UInt8} (h : fletcherSums (0, 0) first ≠ fletcherSums (0, 0) second) :
    fletcher16 first ≠ fletcher16 second := by
  intro heq
  obtain ⟨h₁, h₂⟩ := fletcherSums_lt first (0, 0) (by decide)
  obtain ⟨h₃, h₄⟩ := fletcherSums_lt second (0, 0) (by decide)
  change (fletcherSums (0, 0) first).2 <<< 8 ||| (fletcherSums (0, 0) first).1 =
    (fletcherSums (0, 0) second).2 <<< 8 ||| (fletcherSums (0, 0) second).1 at heq
  rw [← Nat.shiftLeft_add_eq_or_of_lt (i := 8) (by omega), ← Nat.shiftLeft_add_eq_or_of_lt (i := 8) (by omega),
    Nat.shiftLeft_eq, Nat.shiftLeft_eq] at heq
  exact h (Prod.ext (by omega) (by omega))

theorem playAdpcm_refuses {sent received : List UInt8} (hlength : received.length = sent.length) (h : fletcher16 received ≠ fletcher16 sent)
    (sampleCount sampleRate : Int) (playing : SpeakerState) :
    playAdpcm received sent.length sampleCount (fletcher16 sent) sampleRate ≠ .ok playing := by
  intro hok
  unfold playAdpcm at hok
  rw [Int.toNat_natCast, ← hlength, List.take_length, fletcher16_agrees] at hok
  split_ifs at hok with _ _ hsum
  exact hsum (by exact_mod_cast h)

/-- The speaker plays no stream of which one byte has changed, or two neighbours have changed places, under the checksum of
what was sent. What escapes it is a byte that went from 0 to 255 or back. -/
theorem corruption_refused (before after : List UInt8) (b c : UInt8) (hdiffer : b.toNat % 255 ≠ c.toNat % 255)
    (sampleCount sampleRate : Int) (playing : SpeakerState) :
    playAdpcm (before ++ c :: after) (before ++ b :: after).length sampleCount (fletcher16 (before ++ b :: after)) sampleRate ≠ .ok playing ∧
      playAdpcm (before ++ c :: b :: after) (before ++ b :: c :: after).length sampleCount
        (fletcher16 (before ++ b :: c :: after)) sampleRate ≠ .ok playing := by
  have hlt := fletcherSums_lt before (0, 0) (by decide)
  have hmod (n : Nat) : n % 255 < 255 := Nat.mod_lt n (by decide)
  constructor
  · refine playAdpcm_refuses (by simp) (fletcher16_ne ?_) sampleCount sampleRate playing
    rw [fletcherSums_append, fletcherSums_append, fletcherSums_cons, fletcherSums_cons]
    refine fletcherSums_ne after _ _ ⟨hmod _, hmod _⟩ ⟨hmod _, hmod _⟩ fun heq => hdiffer ?_
    have := (Prod.mk.inj heq).1
    omega
  · refine playAdpcm_refuses (by simp) (fletcher16_ne ?_) sampleCount sampleRate playing
    simp only [fletcherSums_append, fletcherSums_cons]
    refine fletcherSums_ne after _ _ ⟨hmod _, hmod _⟩ ⟨hmod _, hmod _⟩ fun heq => hdiffer ?_
    have := (Prod.mk.inj heq).2
    omega

theorem corruption_refused_bit :
    playAdpcm ([1, 2] ++ 3 :: [4]) ([1, 2] ++ 2 :: [4]).length 1 (fletcher16 ([1, 2] ++ 2 :: [4])) 16000 ≠
        .ok { data := [], sampleCount := 1 } ∧
      playAdpcm ([1, 2] ++ 3 :: 2 :: [4]) ([1, 2] ++ 2 :: 3 :: [4]).length 1 (fletcher16 ([1, 2] ++ 2 :: 3 :: [4])) 16000 ≠
        .ok { data := [], sampleCount := 1 } :=
  corruption_refused [1, 2] [4] 2 3 (by decide) 1 16000 _

end RobotLlm.Blast
