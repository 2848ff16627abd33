import RobotLlm.Blast.AdpcmLaws
import RobotLlm.Blast.SoundStream

/-!
# What the stream plays

Between two boundaries the half that plays holds its chunk and the other half
the next one, if there is a next one; the decoder is at the one after it.
-/

namespace RobotLlm.Blast

open RobotLlm.Lib

-- The decoder in pieces

theorem SpeakerState.refill_add (a b : Nat) (s : SpeakerState) :
    s.refill (a + b) = ((s.refill a).1 ++ ((s.refill a).2.refill b).1, ((s.refill a).2.refill b).2) := by
  induction b with
  | zero => simp [SpeakerState.refill]
  | succ b ih => rw [← Nat.add_assoc, refill_succ, ih, refill_succ, List.append_assoc]

@[simp] theorem SpeakerState.refill_length (n : Nat) (s : SpeakerState) : (s.refill n).1.length = n := by
  induction n generalizing s with
  | zero => rfl
  | succ n ih => simp [SpeakerState.refill, ih]

theorem SpeakerState.refill_index {s : SpeakerState} {n : Nat} (h : s.sampleIndex + n ≤ s.sampleCount) :
    (s.refill n).2.sampleIndex = s.sampleIndex + n ∧ (s.refill n).2.sampleCount = s.sampleCount := by
  induction n with
  | zero => exact ⟨rfl, rfl⟩
  | succ n ih =>
    obtain ⟨hindex, hcount⟩ := ih (by omega)
    rw [refill_succ]
    unfold refillOne
    rw [if_neg (by omega)]
    split
    · exact ⟨by simp only [hindex]; omega, hcount⟩
    · exact ⟨by simp only [hindex]; omega, hcount⟩

theorem SpeakerState.refill_silence {s : SpeakerState} (h : s.sampleIndex ≥ s.sampleCount) (n : Nat) :
    s.refill n = (List.replicate n 32768, s) := by
  induction n with
  | zero => rfl
  | succ n ih => rw [SpeakerState.refill, refillOne, if_pos h, ih, List.replicate_succ]

def chunk (speaker : SpeakerState) (k : Nat) : List Nat :=
  ((speaker.refill (k * speakerChunkSize)).2.refill speakerChunkSize).1

theorem chunks_flatten (speaker : SpeakerState) (k : Nat) :
    ((List.range k).map (chunk speaker)).flatten = (speaker.refill (k * speakerChunkSize)).1 := by
  induction k with
  | zero =>
    rw [Nat.zero_mul]
    rfl
  | succ k ih => rw [List.range_succ, List.map_append, List.flatten_append, ih, Nat.succ_mul, SpeakerState.refill_add,
      List.map_singleton, List.flatten_singleton, chunk]

def chunkCount (sampleCount : Nat) : Nat := (sampleCount + speakerChunkSize - 1) / speakerChunkSize

theorem chunkCount_bounds {n : Nat} (h : 1 ≤ n) :
    1 ≤ chunkCount n ∧ n ≤ chunkCount n * speakerChunkSize ∧ chunkCount n * speakerChunkSize < n + speakerChunkSize := by
  unfold chunkCount speakerChunkSize
  omega

theorem chunks_whole {speaker : SpeakerState} (hindex : speaker.sampleIndex = 0) (hcount : 1 ≤ speaker.sampleCount) :
    ((List.range (chunkCount speaker.sampleCount)).map (chunk speaker)).flatten =
      (speaker.refill speaker.sampleCount).1 ++
        List.replicate (chunkCount speaker.sampleCount * speakerChunkSize - speaker.sampleCount) 32768 := by
  obtain ⟨-, hle, -⟩ := chunkCount_bounds hcount
  obtain ⟨hend, hsame⟩ : (speaker.refill speaker.sampleCount).2.sampleIndex = speaker.sampleIndex + speaker.sampleCount ∧
      (speaker.refill speaker.sampleCount).2.sampleCount = speaker.sampleCount := SpeakerState.refill_index (by omega)
  have hsilent : (speaker.refill speaker.sampleCount).2.sampleIndex ≥ (speaker.refill speaker.sampleCount).2.sampleCount := by
    omega
  have hsplit := SpeakerState.refill_add speaker.sampleCount
    (chunkCount speaker.sampleCount * speakerChunkSize - speaker.sampleCount) speaker
  rw [Nat.add_sub_cancel' hle, SpeakerState.refill_silence hsilent] at hsplit
  rw [chunks_flatten, hsplit]

namespace SoundStream

-- The halves in turn

def halfAt (k : Nat) : RingHalf := if k % 2 = 0 then .first else .second

theorem halfAt_succ (k : Nat) : halfAt (k + 1) = (halfAt k).other := by
  unfold halfAt
  rcases Nat.mod_two_eq_zero_or_one k with h | h
  · simp [h, Nat.add_mod, RingHalf.other]
  · simp [h, Nat.add_mod, RingHalf.other]

theorem other_ne (h : RingHalf) : h ≠ h.other := by
  cases h <;> decide

theorem other_other (h : RingHalf) : h.other.other = h := by
  cases h <;> rfl

theorem half_write (s : SoundStream) (output : List Nat) (h : RingHalf) :
    (s.write output h).half h = output ∧ (s.write output h).half h.other = s.half h.other := by
  cases h <;> exact ⟨rfl, rfl⟩

theorem write_fields (s : SoundStream) (output : List Nat) (h : RingHalf) :
    (s.write output h).chunksRemaining = s.chunksRemaining ∧ (s.write output h).stream = s.stream ∧
      (s.write output h).context = s.context ∧ (s.write output h).playing = s.playing ∧
      (s.write output h).pending = s.pending ∧ (s.write output h).began = s.began ∧
      (s.write output h).played = s.played ∧ (s.write output h).written = (h, s.playing) :: s.written := by
  cases h <;> exact ⟨rfl, rfl, rfl, rfl, rfl, rfl, rfl, rfl⟩

theorem refill_eq (s : SoundStream) (consumed : RingHalf) {output : List Nat} {context : SpeakerState}
    (h : s.context.refill speakerChunkSize = (output, context)) :
    s.refill consumed = { s with context := context }.write output consumed := by
  unfold refill
  rw [h]

theorem streamBoundary_cases (s : SoundStream) (consumed : RingHalf) {n : Nat} (hs : s.stream = true)
    (hn : (s.chunksRemaining + (2 ^ 32 - 1)) % 2 ^ 32 = n) :
    (n = 0 ∧ s.streamBoundary consumed = { s with chunksRemaining := n, stream := false }) ∨
      (n = 1 ∧ s.streamBoundary consumed = { s with chunksRemaining := n }) ∨
      (1 < n ∧ s.streamBoundary consumed = { s with chunksRemaining := n }.refill consumed) := by
  unfold streamBoundary
  rw [if_neg (by simp [hs])]
  simp only [hn]
  by_cases hzero : n = 0
  · exact .inl ⟨hzero, if_pos hzero⟩
  · by_cases hmore : 1 < n
    · exact .inr (.inr ⟨hmore, by rw [if_neg hzero, if_pos hmore]⟩)
    · exact .inr (.inl ⟨by omega, by rw [if_neg hzero, if_neg hmore]⟩)

-- The invariant

/-- The first chunks, each as it was when its half began to play and when it
ended. -/
def chunksPlayed (speaker : SpeakerState) (k : Nat) : List (List Nat × List Nat) :=
  (List.range k).map fun i => (chunk speaker i, chunk speaker i)

/-- What holds after `k` halves, whether or not the last is handled. -/
structure Common (speaker : SpeakerState) (k : Nat) (s : SoundStream) : Prop where
  played : s.played = chunksPlayed speaker k
  playing : s.playing = halfAt k
  began : s.began = s.half (halfAt k)
  written : ∀ w ∈ s.written, w.1 ≠ w.2

/-- Half number `k` plays, and the half before it is handled. -/
structure Steady (speaker : SpeakerState) (k : Nat) (s : SoundStream) : Prop extends Common speaker k s where
  stream : s.stream = true
  pending : s.pending = none
  before_end : k < chunkCount speaker.sampleCount
  remaining : s.chunksRemaining = chunkCount speaker.sampleCount - k
  this : s.half (halfAt k) = chunk speaker k
  next : k + 1 < chunkCount speaker.sampleCount → s.half (halfAt (k + 1)) = chunk speaker (k + 1)
  context : k + 2 < chunkCount speaker.sampleCount → s.context = (speaker.refill ((k + 2) * speakerChunkSize)).2

/-- Half number `k + 1` plays, and the half before it is yet to be handled. -/
structure Due (speaker : SpeakerState) (k : Nat) (s : SoundStream) : Prop extends Common speaker (k + 1) s where
  stream : s.stream = true
  pending : s.pending = some (halfAt k)
  before_end : k < chunkCount speaker.sampleCount
  remaining : s.chunksRemaining = chunkCount speaker.sampleCount - k
  next : k + 1 < chunkCount speaker.sampleCount → s.half (halfAt (k + 1)) = chunk speaker (k + 1)
  context : k + 2 < chunkCount speaker.sampleCount → s.context = (speaker.refill ((k + 2) * speakerChunkSize)).2

structure Over (speaker : SpeakerState) (s : SoundStream) : Prop extends
    Common speaker (chunkCount speaker.sampleCount) s where
  stream : s.stream = false
  pending : s.pending = none

def Inv (speaker : SpeakerState) (events : Nat) (s : SoundStream) : Prop :=
  (∃ k, events = 2 * k ∧ Steady speaker k s) ∨ (∃ k, events = 2 * k + 1 ∧ Due speaker k s) ∨
    (events = 2 * chunkCount speaker.sampleCount ∧ Over speaker s)

variable {speaker : SpeakerState} {s : SoundStream} {k : Nat}

theorem chunksPlayed_succ (speaker : SpeakerState) (k : Nat) :
    chunksPlayed speaker (k + 1) = chunksPlayed speaker k ++ [(chunk speaker k, chunk speaker k)] := by
  simp [chunksPlayed, List.range_succ]

theorem refill_two (speaker : SpeakerState) :
    (speaker.refill (speakerChunkSize * 2)).1.take speakerChunkSize = chunk speaker 0 ∧
      (speaker.refill (speakerChunkSize * 2)).1.drop speakerChunkSize = chunk speaker 1 := by
  have hadd := SpeakerState.refill_add speakerChunkSize speakerChunkSize speaker
  rw [Nat.mul_two, hadd, chunk, chunk, Nat.zero_mul, Nat.one_mul]
  refine ⟨List.take_left' (SpeakerState.refill_length _ _), List.drop_left' (SpeakerState.refill_length _ _)⟩

theorem start_steady (hcount : 1 ≤ speaker.sampleCount) : Steady speaker 0 (start speaker) := by
  obtain ⟨hfirst, hsecond⟩ := refill_two speaker
  unfold start
  generalize hr : speaker.refill (speakerChunkSize * 2) = r at hfirst hsecond
  refine ⟨⟨rfl, rfl, rfl, by simp⟩, rfl, rfl, (chunkCount_bounds hcount).1, rfl, hfirst, fun _ => hsecond, ?_⟩
  intro _
  rw [Nat.zero_add, Nat.mul_comm, hr]

theorem Steady.halfPlayed (h : Steady speaker k s) : Due speaker k (s.step .halfPlayed) := by
  refine ⟨⟨?_, ?_, ?_, h.written⟩, h.stream, ?_, h.before_end, h.remaining, h.next, h.context⟩
  · show s.played ++ [(s.began, s.half s.playing)] = _
    rw [h.played, h.began, h.playing, h.this, chunksPlayed_succ]
  · show s.playing.other = _
    rw [h.playing, halfAt_succ]
  · show s.half s.playing.other = s.half _
    rw [h.playing, halfAt_succ]
  · show some s.playing = _
    rw [h.playing]

theorem written_steady (h : Due speaker k s) (hmore : 1 < chunkCount speaker.sampleCount - (k + 1))
    (hnext : s.half (halfAt (k + 1)) = chunk speaker (k + 1)) :
    Steady speaker (k + 1) (({ s with
      pending := none
      chunksRemaining := chunkCount speaker.sampleCount - (k + 1)
      context := (speaker.refill ((k + 3) * speakerChunkSize)).2 } : SoundStream).write (chunk speaker (k + 2)) (halfAt k)) := by
  generalize ht : ({ s with
    pending := none
    chunksRemaining := chunkCount speaker.sampleCount - (k + 1)
    context := (speaker.refill ((k + 3) * speakerChunkSize)).2 } : SoundStream) = t
  have hfields : t.chunksRemaining = chunkCount speaker.sampleCount - (k + 1) ∧ t.stream = s.stream ∧
      t.context = (speaker.refill ((k + 3) * speakerChunkSize)).2 ∧ t.playing = s.playing ∧ t.pending = none ∧
      t.began = s.began ∧ t.played = s.played ∧ t.written = s.written ∧ ∀ side, t.half side = s.half side := by
    rw [← ht]
    exact ⟨rfl, rfl, rfl, rfl, rfl, rfl, rfl, rfl, fun side => by cases side <;> rfl⟩
  obtain ⟨ht₁, ht₂, ht₃, ht₄, ht₅, ht₆, ht₇, ht₈, hhalves⟩ := hfields
  obtain ⟨hw₁, hw₂, hw₃, hw₄, hw₅, hw₆, hw₇, hw₈⟩ := write_fields t (chunk speaker (k + 2)) (halfAt k)
  obtain ⟨hfilled, hkept⟩ := half_write t (chunk speaker (k + 2)) (halfAt k)
  have htwice : halfAt (k + 1 + 1) = halfAt k := by rw [halfAt_succ, halfAt_succ, other_other]
  rw [← halfAt_succ, hhalves] at hkept
  refine ⟨⟨?_, ?_, ?_, fun w hw => ?_⟩, ?_, ?_, by omega, ?_, hkept.trans hnext, fun _ => ?_, fun _ => ?_⟩
  · rw [hw₇, ht₇, h.played]
  · rw [hw₄, ht₄, h.playing]
  · rw [hw₆, ht₆, hkept, h.began]
  · rw [hw₈, ht₈, ht₄, h.playing] at hw
    rcases List.mem_cons.mp hw with rfl | hw
    · rw [halfAt_succ]
      exact other_ne _
    · exact h.written w hw
  · rw [hw₂, ht₂, h.stream]
  · rw [hw₅, ht₅]
  · rw [hw₁, ht₁]
  · rw [htwice, hfilled]
  · rw [hw₃, ht₃]

theorem Due.interrupt (h : Due speaker k s) (hsize : chunkCount speaker.sampleCount ≤ 500) :
    Steady speaker (k + 1) (s.step .interrupt) ∨
      (chunkCount speaker.sampleCount = k + 1 ∧ Over speaker (s.step .interrupt)) := by
  have hbefore := h.before_end
  have hdecrement : (s.chunksRemaining + (2 ^ 32 - 1)) % 2 ^ 32 = chunkCount speaker.sampleCount - (k + 1) := by
    rw [h.remaining]
    omega
  have hstep : s.step .interrupt = { s with pending := none }.streamBoundary (halfAt k) := by
    simp only [step, h.pending]
  rw [hstep]
  have hnext := h.next
  have htwice : halfAt (k + 2) = halfAt k := by rw [halfAt_succ, halfAt_succ, other_other]
  rcases streamBoundary_cases { s with pending := none } (halfAt k) h.stream hdecrement with
    ⟨hzero, heq⟩ | ⟨hone, heq⟩ | ⟨hmore, heq⟩
  · have hlast : chunkCount speaker.sampleCount = k + 1 := by omega
    rw [heq]
    exact .inr ⟨hlast, ⟨hlast ▸ h.played, hlast ▸ h.playing, hlast ▸ h.began, h.written⟩, rfl, rfl⟩
  · rw [heq]
    exact .inl ⟨⟨h.played, h.playing, h.began, h.written⟩, h.stream, rfl, by omega, rfl, hnext (by omega),
      fun hlt => absurd hlt (by omega), fun hlt => absurd hlt (by omega)⟩
  · have hat := h.context (by omega)
    have hrefill : s.context.refill speakerChunkSize =
        (chunk speaker (k + 2), (speaker.refill ((k + 3) * speakerChunkSize)).2) := by
      rw [Nat.succ_mul, SpeakerState.refill_add, hat, chunk]
    have hwrite := refill_eq { s with pending := none, chunksRemaining := chunkCount speaker.sampleCount - (k + 1) } (halfAt k)
      hrefill
    have hsteady := written_steady h hmore (hnext (by omega))
    rw [heq, hwrite]
    exact .inl hsteady

theorem inv_step (hsize : chunkCount speaker.sampleCount ≤ 500) {events : Nat} {event : Event} (h : Inv speaker events s)
    (hok : s.Contract event) : Inv speaker (events + 1) (s.step event) := by
  cases event with
  | halfPlayed =>
    obtain ⟨hstream, hpending⟩ := hok
    rcases h with ⟨k, hk, h⟩ | ⟨k, -, h⟩ | ⟨-, h⟩
    · exact .inr (.inl ⟨k, congrArg (· + 1) hk, h.halfPlayed⟩)
    · rw [h.pending] at hpending
      cases hpending
    · rw [h.stream] at hstream
      cases hstream
  | interrupt =>
    have hsome : s.pending.isSome = true := hok
    rcases h with ⟨k, -, h⟩ | ⟨k, hk, h⟩ | ⟨-, h⟩
    · simp [h.pending] at hsome
    · rcases h.interrupt hsize with h' | ⟨hlast, h'⟩
      · exact .inl ⟨k + 1, by omega, h'⟩
      · exact .inr (.inr ⟨by omega, h'⟩)
    · simp [h.pending] at hsome

theorem runs_inv {history : List (Event × Unit)} (hcount : 1 ≤ speaker.sampleCount)
    (hsize : chunkCount speaker.sampleCount ≤ 500) (hr : machine.Runs Contract (start speaker) history s) :
    Inv speaker history.length s :=
  hr.historyInvariant (I := fun h s => Inv speaker h.length s) (.inl ⟨0, rfl, start_steady hcount⟩)
    fun _ _ _ h hok => inv_step hsize h hok

theorem Inv.common {events : Nat} (h : Inv speaker events s) :
    ∃ k ≤ chunkCount speaker.sampleCount, Common speaker k s ∧ (s.stream = false → k = chunkCount speaker.sampleCount) ∧
      (s.stream = true → ∃ event, s.Contract event) ∧ events ≤ 2 * chunkCount speaker.sampleCount := by
  rcases h with ⟨k, hk, h⟩ | ⟨k, hk, h⟩ | ⟨hk, h⟩
  · have hlt := h.before_end
    exact ⟨k, hlt.le, h.toCommon, fun hoff => by simp [h.stream] at hoff, fun hon => ⟨.halfPlayed, hon, h.pending⟩, by omega⟩
  · have hlt := h.before_end
    refine ⟨k + 1, hlt, h.toCommon, fun hoff => by simp [h.stream] at hoff, fun _ => ⟨.interrupt, ?_⟩, by omega⟩
    show s.pending.isSome = true
    rw [h.pending]
    rfl
  · exact ⟨_, le_refl _, h.toCommon, fun _ => rfl, fun hon => by simp [h.stream] at hon, hk.le⟩

theorem chunks_prefix (speaker : SpeakerState) {j : Nat} (h : k ≤ j) :
    ((List.range k).map (chunk speaker)).flatten <+: ((List.range j).map (chunk speaker)).flatten := by
  rw [← Nat.add_sub_cancel' h, List.range_add, List.map_append, List.flatten_append]
  exact List.prefix_append _ _

theorem playAdpcm_accepts {payload : List UInt8} {byteCount expectedSampleCount expectedChecksum : Int}
    (h : playAdpcm payload byteCount expectedSampleCount expectedChecksum = .ok speaker) :
    speaker.sampleIndex = 0 ∧ 1 ≤ speaker.sampleCount ∧ speaker.sampleCount ≤ adpcmMaxSamples := by
  unfold playAdpcm at h
  split at h
  next => cases h
  split at h
  next => cases h
  split at h
  next => cases h
  dsimp only at h
  split at h
  next => cases h
  next hvalid =>
    cases h
    simp only [not_or] at hvalid
    exact ⟨rfl, Nat.one_le_iff_ne_zero.mpr hvalid.2.1, Nat.not_lt.mp hvalid.2.2.1⟩

/-- What the DMA played of a stream that the firmware accepted, whenever its
interrupts were handled. -/
structure Plays (speaker : SpeakerState) (events : Nat) (s : SoundStream) : Prop where
  /-- A half held when it began to play what it held when it ended. -/
  whole : ∀ p ∈ s.played, p.1 = p.2
  /-- No half was written while it played. -/
  written : ∀ w ∈ s.written, w.1 ≠ w.2
  count : s.played.length ≤ chunkCount speaker.sampleCount
  order : (s.played.map Prod.fst).flatten <+: (speaker.refill speaker.sampleCount).1 ++
    List.replicate (chunkCount speaker.sampleCount * speakerChunkSize - speaker.sampleCount) 32768
  stopped : s.stream = false → s.played.length = chunkCount speaker.sampleCount ∧
    (s.played.map Prod.fst).flatten = (speaker.refill speaker.sampleCount).1 ++
      List.replicate (chunkCount speaker.sampleCount * speakerChunkSize - speaker.sampleCount) 32768
  /-- The stream goes on until it is stopped, and it is stopped in the end. -/
  goes_on : s.stream = true → ∃ event, s.Contract event
  ends : events ≤ 2 * chunkCount speaker.sampleCount
  duration : blastAdpcmDurationMs speaker.sampleCount = some (chunkCount speaker.sampleCount * dmaChunkDurationMs)

theorem stream_plays (payload : List UInt8) (byteCount expectedSampleCount expectedChecksum : Int) (speaker : SpeakerState)
    (haccepted : playAdpcm payload byteCount expectedSampleCount expectedChecksum = .ok speaker)
    (history : List (Event × Unit)) (s : SoundStream) (hr : machine.Runs Contract (start speaker) history s) :
    Plays speaker history.length s := by
  obtain ⟨hindex, hcount, hmax⟩ := playAdpcm_accepts haccepted
  have hsize : chunkCount speaker.sampleCount ≤ 500 := by
    unfold chunkCount speakerChunkSize
    unfold adpcmMaxSamples at hmax
    omega
  obtain ⟨k, hk, hc, hoff, hon, hevents⟩ := (runs_inv hcount hsize hr).common
  have hfirst : s.played.map Prod.fst = (List.range k).map (chunk speaker) := by
    rw [hc.played, chunksPlayed, List.map_map]
    rfl
  have hlength : s.played.length = k := by rw [hc.played, chunksPlayed, List.length_map, List.length_range]
  have hwhole := chunks_whole hindex hcount
  refine ⟨fun p hp => ?_, hc.written, hlength ▸ hk, ?_, fun hstopped => ⟨hlength.trans (hoff hstopped), ?_⟩, hon, hevents, ?_⟩
  · rw [hc.played] at hp
    obtain ⟨i, -, rfl⟩ := List.mem_map.mp hp
    rfl
  · rw [hfirst, ← hwhole]
    exact chunks_prefix speaker hk
  · rw [hfirst, hoff hstopped, hwhole]
  · unfold blastAdpcmDurationMs
    rw [if_pos ⟨hcount, hmax⟩]
    rfl

/-- A stream of one sample, from its start to its end. -/
theorem stream_plays_one : ∃ speaker, playAdpcm [0, 0, 0, 1, 0, 0, 0] 7 1 1025 = .ok speaker ∧
    (machine.runList (start speaker) [.halfPlayed, .interrupt]).2.stream = false ∧
    ((machine.runList (start speaker) [.halfPlayed, .interrupt]).2.played.map Prod.fst).flatten =
      (speaker.refill 1).1 ++ List.replicate 255 32768 := by
  have haccepted : playAdpcm [0, 0, 0, 1, 0, 0, 0] 7 1 1025 =
      .ok (SpeakerState.start { data := [0, 0, 0, 1, 0, 0, 0], sampleCount := 1 }) := by decide +kernel
  have hr := Machine.runs_runList (show machine.StepsOk Contract
    (start (SpeakerState.start { data := [0, 0, 0, 1, 0, 0, 0], sampleCount := 1 })) [.halfPlayed, .interrupt]
    from ⟨⟨rfl, rfl⟩, rfl, trivial⟩)
  exact ⟨_, haccepted, rfl, ((stream_plays _ _ _ _ _ haccepted _ _ hr).stopped rfl).2⟩

end SoundStream

end RobotLlm.Blast
