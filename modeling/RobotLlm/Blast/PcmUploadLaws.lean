import RobotLlm.Lib.Grown
import RobotLlm.Blast.PcmUpload

/-!
# What an upload sends

Every event of the log is one that what came before it allows: a frame goes on
where the frames before it ended, a start follows all the bytes and no timeout
that the caller was granted. Between two events of its own the upload only
waits, and the caller only claims.
-/

set_option linter.unusedSectionVars false

namespace RobotLlm.Blast

open RobotLlm.Lib Prog

-- What may follow what

def sent : List PcmEvent → List UInt8
  | [] => []
  | .frame bytes _ :: older => sent older ++ bytes.drop 3
  | .begin .. :: older | .batch :: older | .start .. :: older | .claimed _ :: older => sent older

def offsetOf (bytes : List UInt8) : Nat := (bytes.getD 1 0).toNat + 256 * (bytes.getD 2 0).toNat

/-- Whether the last frame was written with response. -/
def lastResponse : List PcmEvent → Option Bool
  | [] => none
  | .frame _ response :: _ => some response
  | .begin .. :: older | .batch :: older | .start .. :: older | .claimed _ :: older => lastResponse older

def Unstarted (log : List PcmEvent) : Prop := ∀ requestId transfer, .start requestId transfer ∉ log

def Carries (fields : PyDict Rat) (key : String) (value : Nat) : Prop :=
  (PyValue.field fields key).number? = some ((value : Int) : Rat)

def Allowed (writeSize : Int) (payload : List UInt8) (older : List PcmEvent) : PcmEvent → Prop
  | .begin _ sampleCount byteCount checksum =>
    adpcmSampleCount payload = .ok sampleCount ∧ byteCount = payload.length ∧ checksum = fletcher16 payload
  | .frame bytes _ =>
    bytes.head? = some writeAppDataCommand ∧ bytes.length ≤ writeSize ∧ (sent older).length < 65536 ∧
      offsetOf bytes = (sent older).length ∧ bytes.drop 3 ≠ [] ∧ sent older ++ bytes.drop 3 <+: payload
  | .batch => lastResponse older = some true
  | .start _ transfer =>
    sent older = payload ∧ Unstarted older ∧ .claimed true ∉ older ∧
      ∃ requestId sampleCount, .begin requestId sampleCount payload.length (fletcher16 payload) ∈ older ∧
        Carries transfer "transfer_id" requestId ∧ Carries transfer "sample_count" sampleCount ∧
        Carries transfer "byte_count" payload.length ∧ Carries transfer "fletcher16" (fletcher16 payload)
  | .claimed _ => True

namespace BlastPCMDeadline

variable {T : Type} [LinearOrder T] (now : T) {d : BlastPCMDeadline T}

theorem claimTimeout_granted (h : (claimTimeout now d).1 = true) : (claimTimeout now d).2.timedOut = true := by
  unfold claimTimeout at h ⊢
  split_ifs at h ⊢
  · assumption
  · rfl

theorem claimTimeout_timedOut (h : d.timedOut = true) : (claimTimeout now d).2.timedOut = true := by
  simp [claimTimeout, h]

theorem claimTimeout_inFlight (hf : d.startInFlight = true) (ht : d.timedOut = false) :
    claimTimeout now d = (false, d) := by
  simp [claimTimeout, hf, ht]

theorem beginStart_begun (h : (beginStart now d).1 = true) :
    (beginStart now d).2.startInFlight = true ∧ (beginStart now d).2.timedOut = false := by
  unfold beginStart at h ⊢
  split_ifs at h ⊢ with hout
  exact ⟨rfl, by simpa using fun ht => hout (.inl ht)⟩

theorem beginStart_timedOut (h : d.timedOut = true) : (beginStart now d).2.timedOut = true := by
  simp [beginStart, h]

theorem recordProgress_timedOut [Add T] (h : d.timedOut = true) : (recordProgress now d).2.timedOut = true := by
  simp [recordProgress, h]

end BlastPCMDeadline

namespace PcmHost

variable {σ T : Type} {s s' t : PcmState σ T}

-- Steps that only wait

/-- The fields of the upload and of the runtime's transfer. -/
def upload? (s : PcmState σ T) : Option (PyValue Rat) × Nat × Int × Nat × Option (PyDict Rat) :=
  (s.transferId, s.batchBytes, s.fletcher16, s.offset, s.sampledAudioTransfer)

/-- Who was told that it is too late was told so for good. -/
def ClaimsHold (s : PcmState σ T) : Prop := .claimed true ∈ s.log → s.deadline.timedOut = true

/-- Whether a start is under way that the caller cannot claim from. -/
def Starting (s : PcmState σ T) : Prop := s.deadline.startInFlight = true ∧ s.deadline.timedOut = false

/-- The caller may have claimed, and nothing else was sent or set. -/
structure Calm (s s' : PcmState σ T) : Prop where
  log : ∃ newer, s'.log = newer ++ s.log ∧ ∀ e ∈ newer, ∃ answer, e = .claimed answer
  fields : upload? s' = upload? s
  claims : ClaimsHold s → ClaimsHold s'
  starting : Starting s → Starting s'

theorem Calm.refl (s : PcmState σ T) : Calm s s := ⟨⟨[], rfl, by simp⟩, rfl, id, id⟩

theorem Calm.trans (h : Calm s s') (h' : Calm s' t) : Calm s t := by
  obtain ⟨newer, hlog, hclaimed⟩ := h.log
  obtain ⟨newer', hlog', hclaimed'⟩ := h'.log
  refine ⟨⟨newer' ++ newer, by rw [hlog', hlog, List.append_assoc], fun e he => ?_⟩, h'.fields.trans h.fields,
    h'.claims ∘ h.claims, h'.starting ∘ h.starting⟩
  rcases List.mem_append.mp he with he | he
  · exact hclaimed' e he
  · exact hclaimed e he

/-- A step that only waits, and does not raise for a number that is no byte. -/
def Quiet (x : Step σ T α) : Prop :=
  ∀ s, Triple x s (fun _ s' => Calm s s') (fun e s' => Calm s s' ∧ e ≠ .byteRange)

theorem Quiet.pure (a : α) : Quiet (Pure.pure a : Step σ T α) := fun s => Calm.refl s

theorem Quiet.bind {x : Step σ T α} {f : α → Step σ T β} (hx : Quiet x) (hf : ∀ a, Quiet (f a)) : Quiet (x >>= f) := by
  intro s
  refine Triple.bind (hx s) fun a s' hs => ?_
  exact (hf a s').mono (fun _ _ h => hs.trans h) fun _ _ h => ⟨hs.trans h.1, h.2⟩

theorem Quiet.failIf (c : Prop) [Decidable c] {e : PcmError} (he : e ≠ .byteRange) :
    Quiet (Prog.failIf c e : Step σ T Unit) := fun s =>
  Triple.check (fun _ => ⟨Calm.refl s, he⟩) fun _ => Calm.refl s

theorem Quiet.get : Quiet (MonadState.get : Step σ T (PcmState σ T)) := fun s => Calm.refl s

theorem onWorld_quiet (x : Prog σ LinkError α) : Quiet (onWorld x : Step σ T α) := by
  intro s
  refine Triple.onPart (Triple.mapError ((Triple.unknown x s.world).mono (fun _ w _ => ?_) fun _ w _ => ?_))
  · exact ⟨⟨[], rfl, by simp⟩, rfl, id, id⟩
  · exact ⟨⟨⟨[], rfl, by simp⟩, rfl, id, id⟩, by simp⟩

theorem reading_quiet (f : σ → α × σ) : Quiet (reading f : Step σ T α) := onWorld_quiet _

section
variable {host : PcmHost σ T} {payload : List UInt8} {k : Nat}

theorem requireCapability_quiet : Quiet host.requireCapability := Quiet.get.bind fun _ => Quiet.failIf _ (by decide)

theorem requireHub_quiet : Quiet host.requireHub := Quiet.get.bind fun _ => Quiet.failIf _ (by decide)

theorem appDataWriteSize_quiet : Quiet host.appDataWriteSize :=
  requireHub_quiet.bind fun _ => (Quiet.failIf _ (by decide)).bind fun _ => Quiet.pure _

/-- A piece of the payload fits a frame of the size that was negotiated. -/
def Fits (host : PcmHost σ T) (dataSize : Nat) : Prop := 1 ≤ dataSize ∧ (dataSize : Int) + 3 ≤ host.maxWriteSize.getD 20

theorem appDataWriteSize_fits : Returns host.Fits host.appDataWriteSize := by
  refine Returns.next fun _ s => ?_
  refine Triple.failIf (fun _ => trivial) fun hsize => Triple.pure ?_
  unfold Fits
  omega

theorem validated_error {message : PyDict Rat} {requestId : Nat} {phase : String} {e : PcmError}
    (h : validated message requestId phase = .error e) : e ≠ .byteRange := by
  unfold validated at h
  split at h
  next =>
    split at h
    · cases h
    · cases h
      decide
  next =>
    cases h
    decide

theorem strictInt_error {value : PyValue Rat} {e : PcmError} (h : strictInt value = .error e) : e ≠ .byteRange := by
  cases value <;> cases h <;> decide

theorem startTransferId_error {transferId : Option (PyValue Rat)} {e : PcmError} (h : startTransferId transferId = .error e) :
    e ≠ .byteRange := by
  unfold startTransferId at h
  split at h
  next =>
    split at h
    · cases h
      decide
    · cases h
  next =>
    cases h
    decide

theorem begunTransfer_error {transferId : Int} {transfer : Option (PyDict Rat)} {e : PcmError}
    (h : begunTransfer transferId transfer = .error e) : e ≠ .byteRange := by
  unfold begunTransfer at h
  split at h
  next =>
    split at h
    · cases h
    · cases h
      decide
  next =>
    cases h
    decide

theorem transferDuration_error {sampleCount : PyValue Rat} {e : PcmError} (h : transferDuration sampleCount = .error e) :
    e ≠ .byteRange := by
  unfold transferDuration at h
  split at h
  next =>
    split at h
    · cases h
    · cases h
      decide
  next =>
    cases h
    decide

-- What holds between the steps

/-- Every event so far was allowed by the ones before it. -/
structure Inv (host : PcmHost σ T) (payload : List UInt8) (s : PcmState σ T) : Prop where
  grown : Grown (Allowed (host.maxWriteSize.getD 20) payload) [] s.log
  claims : ClaimsHold s

/-- So many bytes of the payload were sent, and nothing was started. -/
structure At (host : PcmHost σ T) (payload : List UInt8) (k : Nat) (s : PcmState σ T) : Prop extends Inv host payload s where
  sent_eq : sent s.log = payload.take k
  unstarted : Unstarted s.log

def Failed (host : PcmHost σ T) (payload : List UInt8) (e : PcmError) (s : PcmState σ T) : Prop :=
  Inv host payload s ∧ e ≠ .byteRange

theorem sent_claimed {newer older : List PcmEvent} (h : ∀ e ∈ newer, ∃ answer, e = .claimed answer) :
    sent (newer ++ older) = sent older ∧ lastResponse (newer ++ older) = lastResponse older := by
  induction newer with
  | nil => exact ⟨rfl, rfl⟩
  | cons e newer ih =>
    obtain ⟨answer, rfl⟩ := h e List.mem_cons_self
    exact ih fun e he => h e (List.mem_cons_of_mem _ he)

theorem Calm.sent_eq (h : Calm s s') : sent s'.log = sent s.log := by
  obtain ⟨newer, hlog, hclaimed⟩ := h.log
  rw [hlog, (sent_claimed hclaimed).1]

theorem Calm.lastResponse_eq (h : Calm s s') : lastResponse s'.log = lastResponse s.log := by
  obtain ⟨newer, hlog, hclaimed⟩ := h.log
  rw [hlog, (sent_claimed hclaimed).2]

theorem Calm.mem (h : Calm s s') {e : PcmEvent} (he : e ∈ s.log) : e ∈ s'.log := by
  obtain ⟨newer, hlog, -⟩ := h.log
  rw [hlog]
  exact List.mem_append_right _ he

theorem Calm.unstarted (h : Calm s s') (hu : Unstarted s.log) : Unstarted s'.log := by
  obtain ⟨newer, hlog, hclaimed⟩ := h.log
  intro requestId transfer hmem
  rw [hlog] at hmem
  rcases List.mem_append.mp hmem with hmem | hmem
  · obtain ⟨answer, heq⟩ := hclaimed _ hmem
    cases heq
  · exact hu _ _ hmem

theorem Inv.calm (hi : Inv host payload s) (h : Calm s s') : Inv host payload s' := by
  obtain ⟨newer, hlog, hclaimed⟩ := h.log
  refine ⟨?_, h.claims hi.claims⟩
  rw [hlog]
  refine hi.grown.append fun e he older => ?_
  obtain ⟨answer, rfl⟩ := hclaimed e he
  trivial

theorem At.calm (ha : At host payload k s) (h : Calm s s') : At host payload k s' :=
  ⟨ha.toInv.calm h, h.sent_eq.trans ha.sent_eq, h.unstarted ha.unstarted⟩

theorem Quiet.at {x : Step σ T α} (hx : Quiet x) (ha : At host payload k s) :
    Triple x s (fun _ s' => At host payload k s' ∧ Calm s s') (Failed host payload) :=
  (hx s).mono (fun _ _ h => ⟨ha.calm h, h⟩) fun _ _ h => ⟨ha.toInv.calm h.1, h.2⟩

theorem Inv.record (hi : Inv host payload s) {event : PcmEvent}
    (h : Allowed (host.maxWriteSize.getD 20) payload s.log event) (hc : ∀ answer, event ≠ .claimed answer) :
    Inv host payload { s with log := event :: s.log } := by
  refine ⟨.next hi.grown h, fun hmem => ?_⟩
  rcases List.mem_cons.mp hmem with heq | hmem
  · exact absurd heq.symm (hc true)
  · exact hi.claims hmem

-- The frames of a batch

/-- The log grew, and the fields of the upload are as they were. -/
def Grew (s s' : PcmState σ T) : Prop := upload? s' = upload? s ∧ ∀ e ∈ s.log, e ∈ s'.log

theorem Grew.trans (h : Grew s s') (h' : Grew s' t) : Grew s t :=
  ⟨h'.1.trans h.1, fun e he => h'.2 e (h.2 e he)⟩

theorem Calm.grew (h : Calm s s') : Grew s s' := ⟨h.fields, fun _ he => h.mem he⟩

theorem take_piece {offset count start size : Nat} (hstart : start ≤ ((payload.drop offset).take count).length)
    (hoffset : offset ≤ payload.length) :
    payload.take (offset + start) ++ (((payload.drop offset).take count).drop start).take size =
      payload.take (offset + min (start + size) ((payload.drop offset).take count).length) := by
  have hpiece : (((payload.drop offset).take count).drop start).take size =
      (payload.drop (offset + start)).take (min (start + size) ((payload.drop offset).take count).length - start) := by
    rw [List.drop_take, List.take_take, List.drop_drop, List.take_eq_take_iff]
    simp only [List.length_take, List.length_drop] at hstart ⊢
    omega
  rw [hpiece, ← List.take_add]
  congr 1
  simp only [List.length_take, List.length_drop] at hstart ⊢
  omega

end

section
variable [LinearOrder T] [Add T] {host : PcmHost σ T} {payload : List UInt8} {k : Nat}

-- The steps that wait

theorem claim_quiet : Quiet host.claim := by
  intro s
  have hrun : host.claim s = (.ok (), { s with
      world := (host.clock s.world).2
      deadline := (BlastPCMDeadline.claimTimeout (host.clock s.world).1 s.deadline).2
      log := .claimed (BlastPCMDeadline.claimTimeout (host.clock s.world).1 s.deadline).1 :: s.log }) := rfl
  refine Triple.of_run hrun ⟨⟨[_], rfl, by simp⟩, rfl, fun h hmem => ?_, fun h => ?_⟩
  · rcases List.mem_cons.mp hmem with heq | hmem
    · exact BlastPCMDeadline.claimTimeout_granted _ (PcmEvent.claimed.inj heq).symm
    · exact BlastPCMDeadline.claimTimeout_timedOut _ (h hmem)
  · unfold Starting
    rw [BlastPCMDeadline.claimTimeout_inFlight _ h.1 h.2]
    exact h

theorem claimTimes_quiet (n : Nat) : Quiet (host.claimTimes n) := by
  induction n with
  | zero => exact Quiet.pure ()
  | succ n ih => exact claim_quiet.bind fun _ => ih

theorem interleave_quiet : Quiet host.interleave := (reading_quiet _).bind claimTimes_quiet

theorem await_quiet (x : Prog σ LinkError α) : Quiet (host.await x) := interleave_quiet.bind fun _ => onWorld_quiet x

theorem raiseIfCancelled_quiet : Quiet host.raiseIfCancelled :=
  (await_quiet _).bind fun _ => Quiet.failIf _ (by decide)

theorem pollReady_quiet (n : Nat) : Quiet (host.pollReady n) := by
  induction n with
  | zero => exact Quiet.pure false
  | succ n ih =>
    refine raiseIfCancelled_quiet.bind fun _ => (reading_quiet _).bind fun answer => ?_
    rcases answer with _ | _ | _
    · exact Quiet.pure false
    · exact ih
    · exact Quiet.pure true

theorem withoutResponseReady_quiet : Quiet host.withoutResponseReady := (reading_quiet _).bind pollReady_quiet

theorem needsResponse_quiet (isLast : Bool) : Quiet (host.needsResponse isLast) := by
  unfold needsResponse
  split
  · exact Quiet.pure true
  · exact withoutResponseReady_quiet.bind fun _ => Quiet.pure _

theorem needsResponse_last (isLast : Bool) : Returns (fun response => isLast = true → response = true) (host.needsResponse isLast) := by
  cases isLast with
  | true => exact Returns.pure fun _ => rfl
  | false => exact fun s => (Triple.unknown _ s).mono (fun _ _ _ h => Bool.noConfusion h) fun _ _ h => h

-- The frames of a batch

theorem offset_bytes {n : Nat} (h : n < 65536) :
    (UInt8.ofNat (n &&& 0xFF)).toNat + 256 * (UInt8.ofNat (n >>> 8)).toNat = n := by
  have hlow : n &&& 0xFF = n % 256 := Nat.and_two_pow_sub_one_eq_mod n 8
  rw [hlow, Nat.shiftRight_eq_div_pow, UInt8.toNat_ofNat', UInt8.toNat_ofNat']
  omega

section
variable {offset count dataSize start : Nat} {batch : List UInt8}

/-- A batch of the payload that lies within the bytes of a transfer. -/
structure Batch (payload : List UInt8) (offset count : Nat) (batch : List UInt8) : Prop where
  piece : batch = (payload.drop offset).take count
  inside : offset ≤ payload.length
  fits : offset + batch.length ≤ adpcmMaxBytes

theorem Batch.length_le (hb : Batch payload offset count batch) : offset + batch.length ≤ payload.length := by
  have h := hb.inside
  rw [hb.piece, List.length_take, List.length_drop]
  omega

theorem Batch.sent_length (hb : Batch payload offset count batch) (hstart : start ≤ batch.length)
    (ha : At host payload (offset + start) s) : (sent s.log).length = offset + start := by
  have h := hb.length_le
  rw [ha.sent_eq, List.length_take]
  omega

theorem Batch.offset_lt (hb : Batch payload offset count batch) (hstart : start < batch.length) : offset + start < 65536 := by
  have h := hb.fits
  simp only [adpcmMaxBytes, adpcmHeaderBytes, adpcmMaxSamples] at h
  omega

theorem Batch.allowed (hb : Batch payload offset count batch) (hfits : host.Fits dataSize) (hstart : start < batch.length)
    (ha : At host payload (offset + start) s) (response : Bool) :
    Allowed (host.maxWriteSize.getD 20) payload s.log
      (.frame (writeAppDataCommand :: UInt8.ofNat ((offset + start) &&& 0xFF) :: UInt8.ofNat ((offset + start) >>> 8) ::
        (batch.drop start).take dataSize) response) := by
  have hlength := hb.sent_length hstart.le ha
  have hlt := hb.offset_lt hstart
  have hchunk : ((batch.drop start).take dataSize).length = min dataSize (batch.length - start) := by
    rw [List.length_take, List.length_drop]
  obtain ⟨hpos, hsize⟩ := hfits
  refine ⟨rfl, ?_, by omega, ?_, ?_, ?_⟩
  · simp only [List.length_cons, hchunk]
    omega
  · rw [hlength]
    exact offset_bytes hlt
  · intro hnil
    have hzero : ((batch.drop start).take dataSize).length = 0 := congrArg List.length hnil
    omega
  · rw [ha.sent_eq]
    show _ ++ (batch.drop start).take dataSize <+: payload
    have hstart' := hstart.le
    rw [hb.piece] at hstart' ⊢
    rw [take_piece hstart' hb.inside]
    exact List.take_prefix _ _

theorem writeFrame_run (hb : Batch payload offset count batch) (hfits : host.Fits dataSize) (hstart : start < batch.length)
    (ha : At host payload (offset + start) s) :
    Triple (host.writeFrame dataSize offset batch start) s
      (fun _ s' => At host payload (offset + min (start + dataSize) batch.length) s' ∧
        (batch.length ≤ start + dataSize → lastResponse s'.log = some true) ∧ Grew s s')
      (Failed host payload) := by
  refine Triple.bind (raiseIfCancelled_quiet.at ha) ?_
  rintro _ s₁ ⟨h₁, hcalm₁⟩
  have hlt := hb.offset_lt hstart
  refine Triple.failIf (fun hrange => ?_) fun _ => ?_
  · rw [Nat.shiftRight_eq_div_pow] at hrange
    omega
  refine Triple.bind (((needsResponse_quiet _).at h₁).and (needsResponse_last _ s₁) |>.mono (fun _ _ h => h)
    fun _ _ h => h.1) ?_
  rintro response s₂ ⟨⟨h₂, hcalm₂⟩, hlast⟩
  refine Triple.bind (interleave_quiet.at h₂) ?_
  rintro _ s₃ ⟨h₃, hcalm₃⟩
  refine Triple.step rfl ?_
  have h₄ : At host payload (offset + min (start + dataSize) batch.length)
      { s₃ with log := .frame (writeAppDataCommand :: UInt8.ofNat ((offset + start) &&& 0xFF) ::
        UInt8.ofNat ((offset + start) >>> 8) :: (batch.drop start).take dataSize) response :: s₃.log } := by
    refine ⟨h₃.toInv.record (hb.allowed hfits hstart h₃ response) (by simp), ?_, ?_⟩
    · show sent s₃.log ++ (batch.drop start).take dataSize = _
      have hstart' := hstart.le
      rw [h₃.sent_eq]
      rw [hb.piece] at hstart' ⊢
      exact take_piece hstart' hb.inside
    · intro requestId transfer hmem
      rcases List.mem_cons.mp hmem with heq | hmem
      · cases heq
      · exact h₃.unstarted _ _ hmem
  refine ((onWorld_quiet _).at h₄).mono ?_ fun _ _ h => h
  rintro _ s₄ ⟨h₅, hcalm₅⟩
  refine ⟨h₅, fun hend => ?_, ?_⟩
  · have hresponse : response = true := by
      refine hlast ?_
      simp only [List.length_take, List.length_drop, decide_eq_true_eq]
      omega
    rw [hcalm₅.lastResponse_eq, ← hresponse]
    rfl
  · refine (hcalm₁.trans (hcalm₂.trans hcalm₃)).grew.trans ⟨hcalm₅.fields, fun e he => ?_⟩
    exact hcalm₅.mem (List.mem_cons_of_mem _ he)

theorem writeFrames_run (hb : Batch payload offset count batch) (hfits : host.Fits dataSize) (n : Nat) {start : Nat}
    (hcover : batch.length ≤ start + n * dataSize) (hinside : ∀ c ∈ List.range' start n dataSize, c < batch.length)
    (ha : At host payload (offset + min start batch.length) s)
    (hr : batch.length ≤ start → lastResponse s.log = some true) :
    Triple (host.writeFrames dataSize offset batch (List.range' start n dataSize)) s
      (fun _ s' => At host payload (offset + batch.length) s' ∧ lastResponse s'.log = some true ∧ Grew s s')
      (Failed host payload) := by
  induction n generalizing start s with
  | zero =>
    have hend : batch.length ≤ start := by omega
    rw [min_eq_right hend] at ha
    exact Triple.pure ⟨ha, hr hend, rfl, fun _ he => he⟩
  | succ n ih =>
    rw [List.range'_succ] at hinside ⊢
    have hstart := hinside start List.mem_cons_self
    rw [min_eq_left hstart.le] at ha
    refine Triple.bind (writeFrame_run hb hfits hstart ha) ?_
    rintro _ s₁ ⟨h₁, hr₁, hgrew₁⟩
    refine (ih ?_ (fun c hc => hinside c (List.mem_cons_of_mem _ hc)) h₁ hr₁).mono ?_ fun _ _ h => h
    · rw [Nat.succ_mul] at hcover
      omega
    · exact fun _ s₂ h₂ => ⟨h₂.1, h₂.2.1, hgrew₁.trans h₂.2.2⟩

theorem chunkOffsets_cover {stop step : Nat} (h : 1 ≤ step) :
    stop ≤ 0 + (stop + step - 1) / step * step ∧ ∀ c ∈ List.range' 0 ((stop + step - 1) / step) step, c < stop := by
  have hdiv := Nat.div_add_mod (stop + step - 1) step
  have hmod := Nat.mod_lt (stop + step - 1) h
  rw [Nat.mul_comm] at hdiv
  refine ⟨by omega, fun c hc => ?_⟩
  obtain ⟨i, hi, rfl⟩ := List.mem_range'.mp hc
  have hle : step * (i + 1) ≤ (stop + step - 1) / step * step := by
    rw [Nat.mul_comm step]
    exact Nat.mul_le_mul_right step hi
  rw [Nat.mul_add] at hle
  omega

end

-- The steps of an upload

/-- The transfer that the hub confirmed, and the request it answered. -/
def Confirmed (payload : List UInt8) (s : PcmState σ T) : Prop :=
  ∃ transfer, s.sampledAudioTransfer = some transfer ∧
    ∃ requestId sampleCount, .begin requestId sampleCount payload.length (Blast.fletcher16 payload) ∈ s.log ∧
      PyValue.equals (.dict (begunResult requestId sampleCount payload.length (Blast.fletcher16 payload)))
        (.dict transfer) = true

structure Head (host : PcmHost σ T) (payload : List UInt8) (s : PcmState σ T) : Prop where
  at_offset : At host payload s.offset s
  inside : s.offset ≤ payload.length
  confirmed : s.transferId.isSome = true → Confirmed payload s

theorem upload?_eq : upload? s' = upload? s ↔ s'.transferId = s.transferId ∧ s'.batchBytes = s.batchBytes ∧
    s'.fletcher16 = s.fletcher16 ∧ s'.offset = s.offset ∧ s'.sampledAudioTransfer = s.sampledAudioTransfer := by
  simp [upload?]

theorem Confirmed.grew (h : Confirmed payload s) (hg : Grew s s') : Confirmed payload s' := by
  obtain ⟨transfer, htransfer, requestId, sampleCount, hmem, hequal⟩ := h
  obtain ⟨-, -, -, -, hsame⟩ := upload?_eq.mp hg.1
  exact ⟨transfer, hsame.trans htransfer, requestId, sampleCount, hg.2 _ hmem, hequal⟩

theorem Head.calm (h : Head host payload s) (hc : Calm s s') : Head host payload s' := by
  obtain ⟨htransfer, -, -, hoffset, -⟩ := upload?_eq.mp hc.fields
  refine ⟨?_, ?_, fun hsome => (h.confirmed (htransfer ▸ hsome)).grew hc.grew⟩
  · rw [hoffset]
    exact h.at_offset.calm hc
  · rw [hoffset]
    exact h.inside

theorem Quiet.head {x : Step σ T α} (hx : Quiet x) (h : Head host payload s) :
    Triple x s (fun _ s' => Head host payload s') (Failed host payload) :=
  (hx s).mono (fun _ _ hc => h.calm hc) fun _ _ hc => ⟨h.at_offset.toInv.calm hc.1, hc.2⟩

theorem recordProgress_head (h : Head host payload s) :
    Triple (do let _ ← host.onDeadline BlastPCMDeadline.recordProgress) s (fun _ s' => Head host payload s')
      (Failed host payload) := by
  have ha := h.at_offset
  refine Triple.step rfl (Triple.pure ⟨⟨⟨ha.grown, fun hmem => ?_⟩, ha.sent_eq, ha.unstarted⟩, h.inside, h.confirmed⟩)
  exact BlastPCMDeadline.recordProgress_timedOut _ (ha.claims hmem)

theorem writePcmBatch_run (hpiece : batch = (payload.drop offset).take count) (hinside : offset ≤ payload.length)
    (ha : At host payload offset s) :
    Triple (host.writePcmBatch offset batch) s
      (fun _ s' => At host payload (offset + batch.length) s' ∧ Grew s s') (Failed host payload) := by
  refine Triple.bind (requireCapability_quiet.at ha) ?_
  rintro _ s₁ ⟨h₁, hcalm₁⟩
  refine Triple.bind ((appDataWriteSize_quiet.at h₁).and (appDataWriteSize_fits s₁) |>.mono (fun _ _ h => h)
    fun _ _ h => h.1) ?_
  rintro dataSize s₂ ⟨⟨h₂, hcalm₂⟩, hfits⟩
  refine Triple.failIf (fun _ => ⟨h₂.toInv, by decide⟩) fun hvalid => ?_
  simp only [not_or, not_not, not_lt] at hvalid
  obtain ⟨⟨hpos, -⟩, hmax⟩ := hvalid
  obtain ⟨hcover, hoffsets⟩ := chunkOffsets_cover hfits.1
  have hempty : batch.length ≤ 0 → lastResponse s₂.log = some true := fun h => absurd h (by omega)
  refine Triple.bind (writeFrames_run ⟨hpiece, hinside, hmax⟩ hfits _ hcover hoffsets
    (by rw [Nat.zero_min]; exact h₂) hempty) ?_
  rintro _ s₃ ⟨h₃, hlast, hgrew₃⟩
  refine Triple.step rfl (Triple.pure ⟨⟨h₃.toInv.record hlast (by simp), h₃.sent_eq, ?_⟩, ?_⟩)
  · intro requestId transfer hmem
    rcases List.mem_cons.mp hmem with heq | hmem
    · cases heq
    · exact h₃.unstarted _ _ hmem
  · refine (hcalm₁.trans hcalm₂).grew.trans ⟨hgrew₃.1, fun e he => ?_⟩
    exact List.mem_cons_of_mem _ (hgrew₃.2 e he)

theorem advanceBatch_run (h : Head host payload s) :
    Triple (host.advanceBatch payload) s (fun _ s' => Head host payload s') (Failed host payload) := by
  refine Triple.step get_run ?_
  refine Triple.bind (writePcmBatch_run rfl h.inside h.at_offset) ?_
  rintro received s₁ ⟨h₁, hgrew⟩
  refine Triple.failIf (fun _ => ⟨h₁.toInv, by decide⟩) fun _ => Triple.step rfl ?_
  obtain ⟨htransfer, -, -, hoffset, -⟩ := upload?_eq.mp hgrew.1
  have hhead : Head host payload { s₁ with offset := s₁.offset + ((payload.drop s.offset).take s.batchBytes).length } := by
    have hconfirmed : s₁.transferId.isSome = true → Confirmed payload s₁ := fun hsome =>
      (h.confirmed (htransfer ▸ hsome)).grew hgrew
    refine ⟨?_, ?_, hconfirmed⟩
    · show At host payload (s₁.offset + _) _
      rw [hoffset]
      exact ⟨⟨h₁.grown, h₁.claims⟩, h₁.sent_eq, h₁.unstarted⟩
    · show s₁.offset + _ ≤ _
      have hinside := h.inside
      rw [hoffset, List.length_take, List.length_drop]
      omega
  refine Triple.bind (interleave_quiet.head hhead) ?_
  exact fun _ s₂ h₂ => recordProgress_head h₂

/-- The state right after a request was written down for the log. -/
def Requested (event : PcmEvent) (s t : PcmState σ T) : Prop :=
  t.log = event :: s.log ∧ upload? t = upload? s ∧ t.deadline = s.deadline

theorem request_run {event : Nat → PcmEvent} (hi : Inv host payload s)
    (hallowed : ∀ requestId, Allowed (host.maxWriteSize.getD 20) payload s.log (event requestId))
    (hc : ∀ requestId answer, event requestId ≠ .claimed answer) :
    Triple (host.request event) s
      (fun requestId s' => ∃ t, Requested (event requestId) s t ∧ Inv host payload t ∧ Calm t s') (Failed host payload) := by
  refine Triple.step rfl (Triple.step rfl ?_)
  have hi' : Inv host payload { s with nextRequestId := s.nextRequestId + 1 } := ⟨hi.grown, hi.claims⟩
  unfold requireHub
  refine Triple.bind (Q := fun _ s' => s' = { s with nextRequestId := s.nextRequestId + 1 }) ?_ ?_
  · exact Triple.step get_run (Triple.check (fun _ => ⟨hi', by decide⟩) fun _ => rfl)
  rintro _ _ rfl
  obtain ⟨t, ht⟩ : ∃ t : PcmState σ T, t =
      { s with nextRequestId := s.nextRequestId + 1, log := event s.nextRequestId :: s.log } := ⟨_, rfl⟩
  have hrecorded : Inv host payload t := by
    rw [ht]
    exact hi'.record (hallowed s.nextRequestId) (hc s.nextRequestId)
  have hrequested : Requested (event s.nextRequestId) s t := by
    rw [ht]
    exact ⟨rfl, rfl, rfl⟩
  refine Triple.step (t := t) (by rw [ht]; rfl) ?_
  refine Triple.bind ((await_quiet _ _).mono (fun _ _ h => h) fun _ _ h => ⟨hrecorded.calm h.1, h.2⟩) ?_
  exact fun _ s' h => Triple.pure ⟨t, hrequested, hrecorded, h⟩

theorem beginPcm_run (ha : At host payload k s) :
    Triple (host.beginPcm payload) s
      (fun _ s' => At host payload k s' ∧ s'.offset = s.offset ∧ Confirmed payload s') (Failed host payload) := by
  unfold beginPcm
  split
  next => exact Triple.throw ⟨ha.toInv, by decide⟩
  next sampleCount hcount =>
    refine Triple.bind (requireCapability_quiet.at ha) ?_
    rintro _ s₁ ⟨h₁, hcalm₁⟩
    refine Triple.bind (raiseIfCancelled_quiet.at h₁) ?_
    rintro _ s₂ ⟨h₂, hcalm₂⟩
    refine Triple.bind (request_run h₂.toInv (fun _ => ⟨hcount, rfl, rfl⟩) (by simp)) ?_
    rintro requestId s₃ ⟨t, ⟨hlog, hfields, -⟩, hi, hcalm₃⟩
    have ht : At host payload k t := by
      refine ⟨hi, ?_, fun requestId transfer hmem => ?_⟩
      · rw [hlog]
        exact h₂.sent_eq
      · rw [hlog] at hmem
        rcases List.mem_cons.mp hmem with heq | hmem
        · cases heq
        · exact h₂.unstarted _ _ hmem
    refine Triple.bind ((await_quiet _).at (ht.calm hcalm₃)) ?_
    rintro message s₄ ⟨h₄, hcalm₄⟩
    refine Triple.ofExcept_bind (fun e he => ⟨h₄.toInv, validated_error he⟩) fun result _ => ?_
    refine Triple.failIf (fun _ => ⟨h₄.toInv, by decide⟩) fun hequal => Triple.step rfl ?_
    have hbegin : .begin requestId sampleCount payload.length (Blast.fletcher16 payload) ∈ t.log := by
      rw [hlog]
      exact List.mem_cons_self
    have hconfirmed : Confirmed payload { s₄ with sampledAudioTransfer := some result } :=
      ⟨result, rfl, requestId, sampleCount, (hcalm₃.trans hcalm₄).mem hbegin, by simpa using hequal⟩
    have h₅ : At host payload k { s₄ with sampledAudioTransfer := some result } :=
      ⟨⟨h₄.grown, h₄.claims⟩, h₄.sent_eq, h₄.unstarted⟩
    refine Triple.bind (appDataWriteSize_quiet.at h₅) ?_
    rintro dataSize s₆ ⟨h₆, hcalm₆⟩
    refine Triple.pure ⟨h₆, ?_, hconfirmed.grew hcalm₆.grew⟩
    obtain ⟨-, -, -, hoffset₆, -⟩ := upload?_eq.mp hcalm₆.fields
    obtain ⟨-, -, -, hoffset, -⟩ := upload?_eq.mp
      ((hcalm₃.trans hcalm₄).fields.trans (hfields.trans (hcalm₁.trans hcalm₂).fields))
    exact hoffset₆.trans hoffset

theorem advanceBegin_run (h : Head host payload s) :
    Triple (host.advanceBegin payload) s (fun _ s' => Head host payload s') (Failed host payload) := by
  refine Triple.bind (beginPcm_run h.at_offset) ?_
  rintro begun s₁ ⟨h₁, hoffset, hconfirmed⟩
  refine Triple.ofExcept_bind (fun e he => ⟨h₁.toInv, strictInt_error he⟩) fun checksum _ => ?_
  refine Triple.failIf (fun _ => ⟨h₁.toInv, by decide⟩) fun _ => Triple.step rfl ?_
  have hhead : Head host payload { s₁ with
      transferId := some (PyValue.field begun.1 "transfer_id"), batchBytes := begun.2, fletcher16 := checksum } := by
    refine ⟨?_, ?_, fun _ => hconfirmed⟩
    · show At host payload s₁.offset _
      rw [hoffset]
      exact ⟨⟨h₁.grown, h₁.claims⟩, h₁.sent_eq, h₁.unstarted⟩
    · show s₁.offset ≤ _
      rw [hoffset]
      exact h.inside
  refine Triple.bind (interleave_quiet.head hhead) ?_
  exact fun _ s₂ h₂ => recordProgress_head h₂

theorem Quiet.inv {x : Step σ T α} (hx : Quiet x) (hi : Inv host payload s) :
    Triple x s (fun _ s' => Inv host payload s') (Failed host payload) :=
  (hx s).mono (fun _ _ h => hi.calm h) fun _ _ h => ⟨hi.calm h.1, h.2⟩

theorem begun_carries {requestId sampleCount byteCount checksum : Nat} {transfer : PyDict Rat}
    (h : PyValue.equals (.dict (begunResult requestId sampleCount byteCount checksum)) (.dict transfer) = true) :
    Carries transfer "transfer_id" requestId ∧ Carries transfer "sample_count" sampleCount ∧
      Carries transfer "byte_count" byteCount ∧ Carries transfer "fletcher16" checksum := by
  rw [PyValue.equals, Bool.and_eq_true] at h
  have carries : ∀ key (value : Nat), (key, .int value) ∈ begunResult requestId sampleCount byteCount checksum →
      Carries transfer key value := fun key value hmem =>
    PyValue.equals_int.mp (PyValue.equalsFields_field h.2 hmem)
  exact ⟨carries _ _ (by simp [begunResult]), carries _ _ (by simp [begunResult]), carries _ _ (by simp [begunResult]),
    carries _ _ (by simp [begunResult])⟩

theorem startPcm_run {transferId : Option (PyValue Rat)} {byteCount : Nat} {checksum : Int}
    (ha : At host payload payload.length s) (hs : Starting s) (hconfirmed : Confirmed payload s) :
    Triple (host.startPcm transferId byteCount checksum) s (fun _ s' => Inv host payload s') (Failed host payload) := by
  refine Triple.bind (requireCapability_quiet.at ha) ?_
  rintro _ s₁ ⟨h₁, hcalm₁⟩
  obtain ⟨transfer, htransfer, requestId, sampleCount, hbegin, hequal⟩ := hconfirmed.grew hcalm₁.grew
  refine Triple.ofExcept_bind (fun e he => ⟨h₁.toInv, startTransferId_error he⟩) fun transferId _ => ?_
  refine Triple.step get_run ?_
  refine Triple.ofExcept_bind (fun e he => ⟨h₁.toInv, begunTransfer_error he⟩) fun transfer' htaken => ?_
  have hsame : transfer' = transfer := by
    rw [htransfer, begunTransfer] at htaken
    split at htaken
    next => exact (Except.ok.inj htaken).symm
    next => cases htaken
  subst hsame
  have h₂ : At host payload payload.length { s₁ with sampledAudioTransfer := none } :=
    ⟨⟨h₁.grown, h₁.claims⟩, h₁.sent_eq, h₁.unstarted⟩
  have hs₂ : Starting { s₁ with sampledAudioTransfer := none } := hcalm₁.starting hs
  refine Triple.step rfl (Triple.failIf (fun _ => ⟨h₂.toInv, by decide⟩) fun _ => ?_)
  refine Triple.bind (raiseIfCancelled_quiet.at h₂) ?_
  rintro _ s₃ ⟨h₃, hcalm₃⟩
  refine Triple.failIf (fun _ => ⟨h₃.toInv, by decide⟩) fun _ => ?_
  have hallowed : ∀ requestId, Allowed (host.maxWriteSize.getD 20) payload s₃.log (.start requestId transfer') := by
    refine fun _ => ⟨h₃.sent_eq.trans (List.take_length), h₃.unstarted, fun hclaimed => ?_, requestId, sampleCount,
      hcalm₃.mem hbegin, begun_carries hequal⟩
    have htimedOut := h₃.claims hclaimed
    rw [(hcalm₃.starting hs₂).2] at htimedOut
    cases htimedOut
  refine Triple.bind (request_run h₃.toInv hallowed (by simp)) ?_
  rintro started s₄ ⟨t, -, hi, hcalm₄⟩
  have h₄ := hi.calm hcalm₄
  refine Triple.bind ((await_quiet _).inv h₄) fun message s₅ h₅ => ?_
  refine Triple.ofExcept_bind (fun e he => ⟨h₅, validated_error he⟩) fun result _ => ?_
  refine Triple.ofExcept_bind (fun e he => ⟨h₅, transferDuration_error he⟩) fun durationMs _ => ?_
  exact Triple.failIf (fun _ => ⟨h₅, by decide⟩) fun _ => Triple.pure h₅

theorem advanceStart_run (h : Head host payload s) (hsome : s.transferId.isSome = true) (hend : ¬ s.offset < payload.length) :
    Triple (host.advanceStart payload) s (fun _ s' => Inv host payload s') (Failed host payload) := by
  refine Triple.bind (interleave_quiet s |>.mono (fun _ _ hc => hc) fun _ _ hc => ⟨h.at_offset.toInv.calm hc.1, hc.2⟩) ?_
  intro _ s₁ hcalm
  have h₁ := h.calm hcalm
  obtain ⟨htransfer, -, -, hoffset, -⟩ := upload?_eq.mp hcalm.fields
  refine Triple.step rfl ?_
  have hi : Inv host payload { s₁ with
      world := (host.clock s₁.world).2
      deadline := (BlastPCMDeadline.beginStart (host.clock s₁.world).1 s₁.deadline).2 } :=
    ⟨h₁.at_offset.grown, fun hmem => BlastPCMDeadline.beginStart_timedOut _ (h₁.at_offset.claims hmem)⟩
  refine Triple.failIf (fun _ => ⟨hi, by decide⟩) fun hbegun => Triple.step get_run ?_
  have hstarting := BlastPCMDeadline.beginStart_begun _ (Bool.not_eq_false _ ▸ hbegun)
  have hall : s₁.offset = payload.length := by
    have hinside := h₁.inside
    omega
  have ha : At host payload payload.length { s₁ with
      world := (host.clock s₁.world).2
      deadline := (BlastPCMDeadline.beginStart (host.clock s₁.world).1 s₁.deadline).2 } :=
    ⟨hi, hall ▸ h₁.at_offset.sent_eq, h₁.at_offset.unstarted⟩
  have hconfirmed : Confirmed payload s₁ := h₁.confirmed (htransfer ▸ hsome)
  refine Triple.tryCatch (startPcm_run ha hstarting hconfirmed) ?_
  rintro error s₂ ⟨h₂, hrange⟩
  refine Triple.bind (interleave_quiet.inv h₂) fun _ s₃ h₃ => Triple.step rfl (Triple.throw ⟨⟨h₃.grown, h₃.claims⟩, ?_⟩)
  split
  · decide
  · exact hrange

theorem advance_run (h : Head host payload s) :
    Triple (host.advance payload) s
      (fun r s' => Inv host payload s' ∧ (r = none → Head host payload s')) (Failed host payload) := by
  refine Triple.step get_run (Triple.ite (fun _ => ?_) fun hsome => Triple.ite (fun _ => ?_) fun hend => ?_)
  · refine Triple.bind (advanceBegin_run h) fun _ s₁ h₁ => Triple.pure ⟨h₁.at_offset.toInv, fun _ => h₁⟩
  · refine Triple.bind (advanceBatch_run h) fun _ s₁ h₁ => Triple.pure ⟨h₁.at_offset.toInv, fun _ => h₁⟩
  · refine Triple.bind (advanceStart_run h ?_ hend) fun result s₁ h₁ => Triple.pure ⟨h₁, fun hr => by cases hr⟩
    simpa [Option.isSome_iff_ne_none] using hsome

theorem uploadCalls_run (n : Nat) (h : Head host payload s) :
    Triple (host.upload payload n) s (fun _ s' => Inv host payload s') (Failed host payload) := by
  induction n generalizing s with
  | zero => exact Triple.pure h.at_offset.toInv
  | succ n ih =>
    refine Triple.bind ((reading_quiet _).head h) fun others s₁ h₁ => Triple.step rfl ?_
    have h₂ : Head host payload { s₁ with nextRequestId := s₁.nextRequestId + others } :=
      ⟨⟨⟨h₁.at_offset.grown, h₁.at_offset.claims⟩, h₁.at_offset.sent_eq, h₁.at_offset.unstarted⟩, h₁.inside, h₁.confirmed⟩
    refine Triple.bind (advance_run h₂) ?_
    rintro r s₃ ⟨hi, hhead⟩
    cases r with
    | none => exact ih (hhead rfl)
    | some result => exact Triple.pure hi

/-- Whatever the link, the caller and the clock do, each event of an upload is
one that the events before it allow, and no offset is too large for its bytes. -/
theorem upload_sends (host : PcmHost σ T) (payload : List UInt8) (n : Nat) (s s' : PcmState σ T)
    (r : Except PcmError (Option (PyDict Rat))) (hnew : s.log = [] ∧ s.transferId = none ∧ s.offset = 0)
    (hrun : host.upload payload n s = (r, s')) :
    (∀ newer event older, s'.log = newer ++ event :: older →
      Allowed (host.maxWriteSize.getD 20) payload older event) ∧ r ≠ .error .byteRange := by
  obtain ⟨hlog, htransfer, hoffset⟩ := hnew
  have hhead : Head host payload s := by
    refine ⟨⟨⟨?_, fun hmem => ?_⟩, ?_, fun _ _ hmem => ?_⟩, ?_, fun hsome => ?_⟩
    · rw [hlog]
      exact .none
    · simp [hlog] at hmem
    · rw [hlog, hoffset]
      rfl
    · simp [hlog] at hmem
    · rw [hoffset]
      exact Nat.zero_le _
    · simp [htransfer] at hsome
  have hfinal := uploadCalls_run n hhead
  have hallowed : Inv host payload s' → ∀ newer event older, s'.log = newer ++ event :: older →
      Allowed (host.maxWriteSize.getD 20) payload older event := by
    intro hi newer event older hsplit
    have h : Allowed (host.maxWriteSize.getD 20) payload (older ++ []) event :=
      hi.grown.allowed_at (by rw [List.append_nil]; exact hsplit)
    rwa [List.append_nil] at h
  cases r with
  | ok result => exact ⟨hallowed (hfinal.ok hrun), by simp⟩
  | error e =>
    obtain ⟨hi, hrange⟩ := hfinal.error hrun
    exact ⟨hallowed hi, fun he => hrange (Except.error.inj he)⟩

end

-- An utterance of one sample

def onePayload : List UInt8 := [0, 0, 0, 1, 0, 0, 0]

/-- A hub that confirms the transfer and then its start; the caller claims the
timeout before every step, in vain. -/
def oneHost : PcmHost Nat Nat where
  maxWriteSize := some 20
  connected _ := true
  capable _ := true
  clock w := (0, w)
  claims w := (1, w)
  requests w := (0, w)
  cancelRequested := pure false
  readyPolls w := (0, w)
  canSendWriteWithoutResponse w := (none, w)
  writeGattChar _ _ := pure ()
  writeRequest := pure ()
  readMessage := fun w =>
    let message (phase : String) (result : PyDict Rat) : PyDict Rat :=
      [("id", .int (w + 1 : Nat)), ("op", .str "play_pcm"), ("phase", .str phase), ("ok", .bool true), ("result", .dict result)]
    (.ok (if w = 0 then message "begun" (begunResult 1 1 7 1025)
      else message "started" (startedResult 1 7 (.int 1) 1025 16)), w + 1)

def oneState : PcmState Nat Nat := { world := 0, deadline := ⟨10, 100, 10, false, false⟩ }

/-- A frame of the whole payload, then a start. -/
theorem upload_sends_one :
    sent (oneHost.upload onePayload 3 oneState).2.log = onePayload ∧
    (oneHost.upload onePayload 3 oneState).1.toOption.any Option.isSome = true ∧
    ∀ newer event older, (oneHost.upload onePayload 3 oneState).2.log = newer ++ event :: older →
      Allowed 20 onePayload older event := by
  refine ⟨by decide +kernel, by decide +kernel, ?_⟩
  exact (upload_sends oneHost onePayload 3 oneState _ _ ⟨rfl, rfl, rfl⟩ Prod.mk.eta.symm).1

end PcmHost

end RobotLlm.Blast
