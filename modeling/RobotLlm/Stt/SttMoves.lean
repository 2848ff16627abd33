import RobotLlm.Stt.SttRuntime

/-!
# What an operation does to the jobs

A job is told by its number, and its status goes along the edges of one
graph. Everything but a submission, a cancellation and the shutdown leaves
the requests that are not known unknown, and those that are cancelled in
advance cancelled.
-/

namespace RobotLlm.Stt

open RobotLlm.Lib

-- Statuses

/-- The steps of a job's status; a job that has ended is cancelled by its
request only. -/
inductive Edge (byRequest : Bool) : JobStatus → JobStatus → Prop
  | start : Edge byRequest .queued .running
  | complete : Edge byRequest .running .completed
  | fail : Edge byRequest .running .failed
  | cancel (h : a = .queued ∨ a = .running ∨ (byRequest = true ∧ (a = .completed ∨ a = .failed))) : Edge byRequest a .cancelled
  | expire (h : a.isTerminal = true) : Edge byRequest a .expired

abbrev Follows (byRequest : Bool) : JobStatus → JobStatus → Prop := Relation.ReflTransGen (Edge byRequest)

def JobStatus.IsOver (a : JobStatus) : Prop := a = .cancelled ∨ a = .expired

theorem Follows.isOver {byRequest : Bool} {a b : JobStatus} (h : Follows byRequest a b) (ha : a.IsOver) : b.IsOver := by
  induction h with
  | refl => exact ha
  | tail _ he ih =>
    cases he with
    | cancel _ => exact .inl rfl
    | expire _ => exact .inr rfl
    | _ => simp [JobStatus.IsOver] at ih

def isQueued (job : Job) : Bool := job.status == .queued

structure Job.Becomes (byRequest : Bool) (j j' : Job) : Prop where
  identity : j'.identity = j.identity
  transcriptionId : j'.transcriptionId = j.transcriptionId
  requestId : j'.requestId = j.requestId
  status : Follows byRequest j.status j'.status
  started : j.startedAtUnixMs.isSome = true → j'.startedAtUnixMs.isSome = true

/-- Only a completed job has a result, and a queued one was not started. -/
structure Job.Sound (j : Job) : Prop where
  result : j.result.isSome = true → j.status = .completed
  waiting : j.status = .queued → j.startedAtUnixMs = none

theorem Job.Becomes.refl (byRequest : Bool) (j : Job) : j.Becomes byRequest j := ⟨rfl, rfl, rfl, .refl, id⟩

theorem Job.Becomes.trans {byRequest : Bool} {j j₁ j' : Job} (h : j.Becomes byRequest j₁) (h' : j₁.Becomes byRequest j') :
    j.Becomes byRequest j' :=
  ⟨h'.identity.trans h.identity, h'.transcriptionId.trans h.transcriptionId, h'.requestId.trans h.requestId,
    h.status.trans h'.status, fun hs => h'.started (h.started hs)⟩

namespace STTRuntime

variable {c : STTConfig} {s s₁ s' : STTRuntime} {byRequest : Bool}

-- Invariants

/-- A reading of the monotonic clock that was made. -/
def Read (c : STTConfig) (s : STTRuntime) (now : Int) : Prop := ∃ n < s.monotonicReads, now = c.monotonicClock.read n

structure Latest (c : STTConfig) (s : STTRuntime) (now : Int) : Prop where
  read : Read c s now
  last : ∀ earlier, Read c s earlier → earlier ≤ now

def Passed (c : STTConfig) (s : STTRuntime) (time : Int) : Prop := ∃ now, Read c s now ∧ time ≤ now

/-- The index and the jobs agree, and each job is one object. -/
structure Core (c : STTConfig) (s : STTRuntime) : Prop where
  keyed : ∀ id j, s.jobs.get? id = some j → j.transcriptionId = id
  sound : ∀ id j, s.jobs.get? id = some j → j.Sound
  known : ∀ id j, s.jobs.get? id = some j → j.identity < s.nextIdentity
  told : ∀ id id' j j', s.jobs.get? id = some j → s.jobs.get? id' = some j' → j.identity = j'.identity → id = id'
  indexed : ∀ requestId id, s.requestIndex.get? requestId = some id ↔ ∃ j, s.jobs.get? id = some j ∧ j.requestId = requestId
  stamped : ∀ requestId expiresAt, s.preCancelledRequests.get? requestId = some expiresAt →
    ∃ now, Read c s now ∧ expiresAt = now + c.terminalTtlMs
  closed : s.shutdownStarted = true → s.accepting = false

/-- The job of the one id is older than that of the other. -/
def Before (s : STTRuntime) (a b : String) : Prop :=
  ∀ j j', s.jobs.get? a = some j → s.jobs.get? b = some j' → j.identity < j'.identity

/-- The queued jobs wait, in the order in which they came. -/
structure Lined (c : STTConfig) (s : STTRuntime) : Prop where
  pending : s.pending = s.jobs.keysWhere isQueued
  ordered : s.pending.Pairwise (Before s)
  room : s.pending.length ≤ c.queueCapacity

structure Evolves (c : STTConfig) (byRequest : Bool) (s s' : STTRuntime) : Prop where
  core : Core c s'
  next : s.nextIdentity ≤ s'.nextIdentity
  jobs : ∀ id j', s'.jobs.get? id = some j' → (∃ j, s.jobs.get? id = some j ∧ j.Becomes byRequest j') ∨
    (s.nextIdentity ≤ j'.identity ∧ Follows byRequest .queued j'.status)
  reads : s.monotonicReads ≤ s'.monotonicReads

structure Kept (c : STTConfig) (byRequest : Bool) (s s' : STTRuntime) : Prop extends Evolves c byRequest s s' where
  lined : Lined c s → Lined c s'
  unknown : ∀ requestId, s.requestIndex.get? requestId = none → s'.requestIndex.get? requestId = none
  waiting : ∀ requestId expiresAt, s.preCancelledRequests.get? requestId = some expiresAt →
    s'.preCancelledRequests.get? requestId = some expiresAt ∨ Passed c s' expiresAt
  shutdown : s'.shutdownStarted = s.shutdownStarted

theorem Before.later {a b : String} (h : Before s a b)
    (hjobs : ∀ id j', s'.jobs.get? id = some j' → ∃ j, s.jobs.get? id = some j ∧ j'.identity = j.identity) : Before s' a b := by
  intro j j' hj hj'
  obtain ⟨i, hi, he⟩ := hjobs a j hj
  obtain ⟨i', hi', he'⟩ := hjobs b j' hj'
  rw [he, he']
  exact h i i' hi hi'

theorem Read.later {now : Int} (h : Read c s now) (hr : s.monotonicReads ≤ s'.monotonicReads) : Read c s' now :=
  h.imp fun _ h => ⟨Nat.lt_of_lt_of_le h.1 hr, h.2⟩

theorem Passed.later {time : Int} (h : Passed c s time) (hr : s.monotonicReads ≤ s'.monotonicReads) : Passed c s' time :=
  h.imp fun _ h => ⟨h.1.later hr, h.2⟩

theorem Evolves.refl (hc : Core c s) : Evolves c byRequest s s :=
  ⟨hc, Nat.le_refl _, fun _ j hj => .inl ⟨j, hj, .refl _ j⟩, Nat.le_refl _⟩

theorem Evolves.trans (h : Evolves c byRequest s s₁) (h' : Evolves c byRequest s₁ s') : Evolves c byRequest s s' where
  core := h'.core
  next := h.next.trans h'.next
  jobs id j' hj' := by
    obtain ⟨j₁, hj₁, hb'⟩ | ⟨hn, hf⟩ := h'.jobs id j' hj'
    · obtain ⟨j, hj, hb⟩ | ⟨hn, hf⟩ := h.jobs id j₁ hj₁
      · exact .inl ⟨j, hj, hb.trans hb'⟩
      · exact .inr ⟨hb'.identity ▸ hn, hf.trans hb'.status⟩
    · exact .inr ⟨h.next.trans hn, hf⟩
  reads := h.reads.trans h'.reads

theorem Kept.refl (hc : Core c s) : Kept c byRequest s s := ⟨.refl hc, id, fun _ => id, fun _ _ => .inl, rfl⟩

theorem Kept.trans (h : Kept c byRequest s s₁) (h' : Kept c byRequest s₁ s') : Kept c byRequest s s' where
  toEvolves := h.toEvolves.trans h'.toEvolves
  lined hl := h'.lined (h.lined hl)
  unknown r hr := h'.unknown r (h.unknown r hr)
  waiting r e he := by
    obtain he | hp := h.waiting r e he
    · exact h'.waiting r e he
    · exact .inr (hp.later h'.reads)
  shutdown := h'.shutdown.trans h.shutdown

-- Clocks

theorem clockValue_run (clock : Clock) (name : String) (n : Nat) : clockValue name (clock.read n) = .ok (clock.read n) :=
  if_pos ⟨clock.nonneg n, clock.small n⟩

theorem monotonicMs_run : monotonicMs c s =
    (.ok (c.monotonicClock.read s.monotonicReads), { s with monotonicReads := s.monotonicReads + 1 }) := by
  simp [monotonicMs, Prog.bind_run, clockValue_run]

theorem unixMs_run : unixMs c s = (.ok (c.unixClock.read s.unixReads), { s with unixReads := s.unixReads + 1 }) := by
  simp [unixMs, Prog.bind_run, clockValue_run]

theorem Kept.readings (hc : Core c s) {m n : Nat} {w : Worker} (hm : s.monotonicReads ≤ m) :
    Kept c byRequest s { s with monotonicReads := m, unixReads := n, worker := w } where
  core := { hc with stamped := fun r e he => (hc.stamped r e he).imp fun _ h => ⟨h.1.later hm, h.2⟩ }
  next := Nat.le_refl _
  jobs _ j hj := .inl ⟨j, hj, .refl _ j⟩
  reads := hm
  lined hl := ⟨hl.pending, hl.ordered, hl.room⟩
  unknown _ := id
  waiting _ _ := .inl
  shutdown := rfl

-- Expiry and eviction

theorem expireIfDue_becomes (now : Int) (j : Job) : j.Becomes byRequest (expireIfDue now j) := by
  unfold expireIfDue
  split
  next hd =>
    have ht : j.status.isTerminal = true := (Bool.and_eq_true_iff.mp hd).1
    exact ⟨rfl, rfl, rfl, .single (.expire ht), id⟩
  next => exact .refl _ j

theorem expireIfDue_sound (now : Int) {j : Job} (h : j.Sound) : (expireIfDue now j).Sound := by
  unfold expireIfDue
  split
  · exact ⟨by simp [expireJob], by simp [expireJob]⟩
  · exact h

theorem isQueued_expireIfDue (now : Int) (j : Job) : isQueued (expireIfDue now j) = isQueued j := by
  unfold expireIfDue
  split
  next hd =>
    have ht : j.status.isTerminal = true := (Bool.and_eq_true_iff.mp hd).1
    cases hs : j.status <;> simp [isQueued, expireJob, hs, JobStatus.isTerminal] at ht ⊢
  next => rfl

theorem Evolves.of_jobs (hc : Core c s)
    (hget : ∀ id j', s'.jobs.get? id = some j' → ∃ j, s.jobs.get? id = some j ∧ j.Becomes byRequest j' ∧ j'.Sound)
    (hall : ∀ id j, s.jobs.get? id = some j → ∃ j', s'.jobs.get? id = some j')
    (hindex : s'.requestIndex = s.requestIndex) (hpre : s'.preCancelledRequests = s.preCancelledRequests)
    (hnext : s'.nextIdentity = s.nextIdentity) (hreads : s.monotonicReads ≤ s'.monotonicReads)
    (hclosed : s'.shutdownStarted = true → s'.accepting = false) : Evolves c byRequest s s' := by
  refine ⟨⟨fun id j' hj' => ?_, fun id j' hj' => ?_, fun id j' hj' => ?_, fun id id' j₁ j₂ h₁ h₂ he => ?_, fun r id => ?_,
    fun r e he => ?_, hclosed⟩, Nat.le_of_eq hnext.symm, fun id j' hj' => ?_, hreads⟩
  · obtain ⟨j, hj, hb, -⟩ := hget id j' hj'
    exact hb.transcriptionId.trans (hc.keyed id j hj)
  · obtain ⟨j, hj, -, hs⟩ := hget id j' hj'
    exact hs
  · obtain ⟨j, hj, hb, -⟩ := hget id j' hj'
    rw [hb.identity, hnext]
    exact hc.known id j hj
  · obtain ⟨j, hj, hb, -⟩ := hget id j₁ h₁
    obtain ⟨j', hj', hb', -⟩ := hget id' j₂ h₂
    exact hc.told id id' j j' hj hj' (hb.identity.symm.trans (he.trans hb'.identity))
  · rw [hindex]
    refine (hc.indexed r id).trans ⟨fun ⟨j, hj, hr⟩ => ?_, fun ⟨j', hj', hr⟩ => ?_⟩
    · obtain ⟨j', hj'⟩ := hall id j hj
      obtain ⟨j₀, hj₀, hb, -⟩ := hget id j' hj'
      cases hj.symm.trans hj₀
      exact ⟨j', hj', hb.requestId.trans hr⟩
    · obtain ⟨j, hj, hb, -⟩ := hget id j' hj'
      exact ⟨j, hj, hb.requestId.symm.trans hr⟩
  · exact (hc.stamped r e (hpre ▸ he)).imp fun _ h => ⟨h.1.later hreads, h.2⟩
  · obtain ⟨j, hj, hb, -⟩ := hget id j' hj'
    exact .inl ⟨j, hj, hb⟩

theorem expireDue_kept (hc : Core c s) (now : Int) : Kept c byRequest s (expireDue now s).2 := by
  have hjobs : (expireDue now s).2.jobs = s.jobs.mapValues (expireIfDue now) := rfl
  refine ⟨.of_jobs hc (fun id j' hj' => ?_) (fun id j hj => ⟨expireIfDue now j, ?_⟩) rfl rfl rfl (Nat.le_refl _) hc.closed,
    fun hl => ⟨hl.pending.trans (Dict.keysWhere_mapValues (isQueued_expireIfDue now)).symm, hl.ordered.imp (·.later ?_), hl.room⟩, fun _ => id,
    fun _ _ => .inl, rfl⟩
  · rw [hjobs, Dict.get?_mapValues, Option.map_eq_some_iff] at hj'
    obtain ⟨j, hj, rfl⟩ := hj'
    exact ⟨j, hj, expireIfDue_becomes now j, expireIfDue_sound now (hc.sound id j hj)⟩
  · rw [hjobs, Dict.get?_mapValues, hj, Option.map_some]
  · intro id j' hj'
    rw [hjobs, Dict.get?_mapValues, Option.map_eq_some_iff] at hj'
    obtain ⟨j, hj, rfl⟩ := hj'
    exact ⟨j, hj, (@expireIfDue_becomes false now j).identity⟩

theorem prunePreCancelled_kept (hc : Core c s) {now : Int} (hnow : Read c s now) :
    Kept c byRequest s (prunePreCancelled now s).2 where
  core := { hc with stamped := fun r e he => hc.stamped r e (Dict.get?_of_dropWhile he) }
  next := Nat.le_refl _
  jobs _ j hj := .inl ⟨j, hj, .refl _ j⟩
  reads := Nat.le_refl _
  lined hl := ⟨hl.pending, hl.ordered, hl.room⟩
  unknown _ := id
  waiting r e he := (Dict.get?_dropWhile he).imp_right fun hp => ⟨now, hnow, by simpa using hp⟩
  shutdown := rfl

theorem Kept.evicted (hc : Core c s) {old : Job} (hj : s.jobs.get? old.transcriptionId = some old) (hq : isQueued old = false) :
    Kept c byRequest s { s with
      jobs := s.jobs.erase old.transcriptionId, requestIndex := s.requestIndex.erase old.requestId } := by
  have hget {id : String} {j : Job} (h : (s.jobs.erase old.transcriptionId).get? id = some j) :
      id ≠ old.transcriptionId ∧ s.jobs.get? id = some j := by
    rw [Dict.get?_erase] at h
    split at h
    · cases h
    · exact ⟨‹_›, h⟩
  refine ⟨⟨⟨fun id j h => hc.keyed id j (hget h).2, fun id j h => hc.sound id j (hget h).2, fun id j h => hc.known id j (hget h).2,
    fun id id' j j' h h' => hc.told id id' j j' (hget h).2 (hget h').2, fun r id => ?_, hc.stamped, hc.closed⟩,
    Nat.le_refl _, fun id j h => .inl ⟨j, (hget h).2, .refl _ j⟩, Nat.le_refl _⟩, fun hl => ⟨?_, hl.ordered.imp (·.later fun id j h => ⟨j, (hget h).2, rfl⟩), hl.room⟩, fun r hr => ?_,
    fun _ _ => .inl, rfl⟩
  · rw [Dict.get?_erase]
    split
    next hr =>
      refine iff_of_false (by simp) ?_
      rintro ⟨j, h, hjr⟩
      have h₁ := (hc.indexed r id).mpr ⟨j, (hget h).2, hjr⟩
      have h₂ := (hc.indexed r _).mpr ⟨old, hj, hr.symm⟩
      exact absurd (Option.some.inj (h₁.symm.trans h₂)) (hget h).1
    next hr =>
      refine (hc.indexed r id).trans (exists_congr fun j => and_congr_left fun hjr => ⟨fun h => ?_, fun h => (hget h).2⟩)
      rw [Dict.get?_erase, if_neg]
      · exact h
      · rintro rfl
        cases hj.symm.trans h
        exact hr hjr.symm
  · have hnot : old.transcriptionId ∉ s.jobs.keysWhere isQueued := fun hm => by
      obtain ⟨j, h, hq'⟩ := Dict.mem_keysWhere.mp hm
      cases hj.symm.trans h
      simp [hq] at hq'
    rw [Dict.keysWhere_erase, List.erase_of_not_mem hnot]
    exact hl.pending
  · show (s.requestIndex.erase old.requestId).get? r = none
    rw [Dict.get?_erase, hr, ite_self]

theorem evictOne_run (hc : Core c s) : Prog.Settles evictOne s (Kept c byRequest s) := by
  refine Prog.Triple.get_bind ?_
  split
  next => exact Prog.Triple.pure (.refl hc)
  next oldest hmin =>
    refine Prog.Triple.modify_bind (Prog.Triple.pure ?_)
    obtain ⟨hv, he⟩ := List.mem_filter.mp (List.argmin_mem hmin)
    obtain ⟨id, hid⟩ := Dict.mem_values_iff.mp hv
    have hj : s.jobs.get? oldest.transcriptionId = some oldest := (hc.keyed id oldest hid).symm ▸ hid
    refine .evicted hc hj ?_
    cases hs : oldest.status <;> simp [isEvictable, isQueued, hs, JobStatus.isTerminal] at he ⊢

theorem makeRoom_run (n : Nat) (hc : Core c s) : Prog.Settles (makeRoom c n) s (Kept c byRequest s) := by
  induction n generalizing s with
  | zero => exact Prog.Triple.pure (.refl hc)
  | succ n ih =>
    refine Prog.Triple.get_bind (Prog.Triple.ite (fun _ => Prog.Triple.pure (.refl hc)) fun _ => ?_)
    refine Prog.Triple.bind (evictOne_run hc) fun evicted s₁ h₁ => Prog.Triple.failIf (fun _ => h₁) fun _ => ?_
    exact (ih h₁.core).mono (fun _ _ h => h₁.trans h) fun _ _ h => h₁.trans h

-- A job in its place

theorem Evolves.placed (hc : Core c s) {old job : Job} (hjobs : s'.jobs = s.jobs.set job.transcriptionId job)
    (hj : s.jobs.get? job.transcriptionId = some old) (hb : old.Becomes byRequest job) (hs : job.Sound)
    (hindex : s'.requestIndex = s.requestIndex) (hpre : s'.preCancelledRequests = s.preCancelledRequests)
    (hnext : s'.nextIdentity = s.nextIdentity) (hreads : s.monotonicReads ≤ s'.monotonicReads)
    (hclosed : s'.shutdownStarted = true → s'.accepting = false) : Evolves c byRequest s s' := by
  refine .of_jobs hc (fun id j' hj' => ?_) (fun id j h => ?_) hindex hpre hnext hreads hclosed
  · rw [hjobs, Dict.get?_set] at hj'
    split at hj'
    next hid =>
      cases hj'
      exact ⟨old, hid ▸ hj, hb, hs⟩
    next => exact ⟨j', hj', .refl _ j', hc.sound id j' hj'⟩
  · rw [hjobs, Dict.get?_set]
    split
    · exact ⟨job, rfl⟩
    · exact ⟨j, h⟩

theorem Kept.placed (hc : Core c s) {old job : Job} (hjobs : s'.jobs = s.jobs.set job.transcriptionId job)
    (hj : s.jobs.get? job.transcriptionId = some old) (hb : old.Becomes byRequest job) (hs : job.Sound)
    (hq : isQueued job = false) (hp : Lined c s → s'.pending = s.pending.erase job.transcriptionId)
    (hindex : s'.requestIndex = s.requestIndex) (hpre : s'.preCancelledRequests = s.preCancelledRequests)
    (hnext : s'.nextIdentity = s.nextIdentity) (hreads : s.monotonicReads ≤ s'.monotonicReads)
    (haccepting : s'.accepting = s.accepting) (hshutdown : s'.shutdownStarted = s.shutdownStarted) :
    Kept c byRequest s s' where
  toEvolves := .placed hc hjobs hj hb hs hindex hpre hnext hreads (hshutdown ▸ haccepting ▸ hc.closed)
  lined hl := by
    refine ⟨?_, ?_, hp hl ▸ List.length_erase_le.trans hl.room⟩
    · rw [hp hl, hjobs, Dict.keysWhere_set_drop hq, hl.pending]
    · rw [hp hl]
      refine (hl.ordered.sublist List.erase_sublist).imp (·.later fun id j' hj' => ?_)
      rw [hjobs, Dict.get?_set] at hj'
      split at hj'
      next hid =>
        cases hj'
        exact ⟨old, hid ▸ hj, hb.identity⟩
      next => exact ⟨j', hj', rfl⟩
  unknown r hr := hindex ▸ hr
  waiting r e he := .inl (hpre ▸ he)
  shutdown := hshutdown

theorem Lined.erase (hl : Lined c s) {job : Job} (hj : s.jobs.get? job.transcriptionId = some job) (hq : isQueued job = false) :
    s.pending.erase job.transcriptionId = s.pending := by
  refine List.erase_of_not_mem fun hm => ?_
  rw [hl.pending] at hm
  obtain ⟨j, h, hq'⟩ := Dict.mem_keysWhere.mp hm
  cases hj.symm.trans h
  simp [hq] at hq'

/-- What `_terminalize_locked` leaves of a job. -/
structure Ends (status : JobStatus) (result : Option ProviderTranscription) (job job' : Job) : Prop where
  identity : job'.identity = job.identity
  transcriptionId : job'.transcriptionId = job.transcriptionId
  requestId : job'.requestId = job.requestId
  started : job'.startedAtUnixMs = job.startedAtUnixMs
  status : job'.status = status
  result : job'.result = result

theorem Ends.becomes {status : JobStatus} {result : Option ProviderTranscription} {job job' : Job} (h : Ends status result job job')
    (he : Edge byRequest job.status status) : job.Becomes byRequest job' :=
  ⟨h.identity, h.transcriptionId, h.requestId, .single (h.status ▸ he), fun hs => h.started ▸ hs⟩

theorem Ends.sound {status : JobStatus} {result : Option ProviderTranscription} {job job' : Job} (h : Ends status result job job')
    (hr : result.isSome = true → status = .completed) (hq : status ≠ .queued) : job'.Sound :=
  ⟨fun hs => h.status.trans (hr (h.result ▸ hs)), fun hs => absurd (h.status.symm.trans hs) hq⟩

theorem terminalize_run (job : Job) (status : JobStatus) (errorCode : Option String) (result : Option ProviderTranscription) :
    Prog.Triple (terminalize c job status errorCode result) s
      (fun job' s' => Ends status result job job' ∧
        s' = setJob job' { s with monotonicReads := s.monotonicReads + 1, unixReads := s.unixReads + 1 })
      (fun _ _ => False) := by
  refine Prog.Triple.step unixMs_run (Prog.Triple.step monotonicMs_run (Prog.Triple.modify_bind (Prog.Triple.pure ?_)))
  exact ⟨⟨rfl, rfl, rfl, rfl, rfl, rfl⟩, rfl⟩

-- Looking and cancelling

def Seen (c : STTConfig) (s : STTRuntime) (v : Viewed) : Prop := ∃ id j, s.jobs.get? id = some j ∧ v = viewed c j

theorem liveJob_run (id : String) : Prog.Triple (liveJob id) s
    (fun job s' => s' = s ∧ s.jobs.get? id = some job ∧ job.status ≠ .expired) (fun _ s' => s' = s) := by
  refine Prog.Triple.get_bind ?_
  split
  next => exact Prog.Triple.throw rfl
  next job hj => exact Prog.Triple.failIf (fun _ => rfl) fun hs => Prog.Triple.pure ⟨rfl, hj, hs⟩

theorem cancelJob_run (hc : Core c s) {job : Job} (hj : s.jobs.get? job.transcriptionId = some job)
    (he : Edge byRequest job.status .cancelled) :
    Prog.Triple (cancelJob c job) s (fun v s' => Kept c byRequest s s' ∧ Seen c s' v) (fun _ _ => False) := by
  refine Prog.Triple.modify_bind (Prog.Triple.bind (terminalize_run job .cancelled _ none) fun job' s' h => Prog.Triple.pure ?_)
  obtain ⟨hends, rfl⟩ := h
  have hid := hends.transcriptionId
  have hsame : ∀ s : STTRuntime, (unqueue job s).jobs = s.jobs ∧ (unqueue job s).requestIndex = s.requestIndex ∧
      (unqueue job s).preCancelledRequests = s.preCancelledRequests ∧ (unqueue job s).nextIdentity = s.nextIdentity ∧
      (unqueue job s).monotonicReads = s.monotonicReads ∧ (unqueue job s).accepting = s.accepting ∧
      (unqueue job s).shutdownStarted = s.shutdownStarted := fun s => by
    unfold unqueue
    split <;> exact ⟨rfl, rfl, rfl, rfl, rfl, rfl, rfl⟩
  obtain ⟨hjobs, hindex, hpre, hnext, hreads, hacc, hshut⟩ := hsame s
  refine ⟨.placed hc (congrArg (·.set job'.transcriptionId job') hjobs) (hid ▸ hj) (hends.becomes he) (hends.sound (by simp) (by simp))
    (by simp [isQueued, hends.status]) (fun hl => ?_) hindex hpre hnext ?_ hacc hshut, job'.transcriptionId, job', ?_, rfl⟩
  · show (unqueue job s).pending = s.pending.erase job'.transcriptionId
    rw [hid]
    unfold unqueue
    split
    next => rfl
    next hq => exact (hl.erase hj (by simpa [isQueued] using hq)).symm
  · show s.monotonicReads ≤ (unqueue job s).monotonicReads + 1
    omega
  · exact Dict.get?_set_self

theorem look_run {β : Type} {f : Unit → Stt β} {Q : β → STTRuntime → Prop} {E : STTRuntimeError → STTRuntime → Prop} (hc : Core c s)
    (hf : ∀ s₁, Kept c byRequest s s₁ → Prog.Triple (f ()) s₁ Q E) :
    Prog.Triple (monotonicMs c >>= fun now => expireDue now >>= f) s Q E := by
  have h₁ : Kept c byRequest s { s with monotonicReads := s.monotonicReads + 1 } :=
    .readings (n := s.unixReads) (w := s.worker) hc (Nat.le_succ _)
  exact Prog.Triple.step monotonicMs_run (Prog.Triple.modify_bind (hf _ (h₁.trans (expireDue_kept h₁.core _))))

theorem getView_run (hc : Core c s) (id : String) :
    Prog.Triple (getView c id) s (fun v s' => Kept c byRequest s s' ∧ Seen c s' v) (fun _ s' => Kept c byRequest s s') := by
  refine Prog.Triple.failIf (fun _ => .refl hc) fun _ => look_run hc fun s₁ (h₁ : Kept c byRequest s s₁) => ?_
  refine Prog.Triple.bind ((liveJob_run id).mono (fun _ _ h => h) fun _ _ h => h ▸ h₁) ?_
  rintro job s' ⟨rfl, hj, -⟩
  exact Prog.Triple.pure ⟨h₁, id, job, hj, rfl⟩

theorem cancel_run (hc : Core c s) (id : String) :
    Prog.Triple (cancel c id) s (fun v s' => Kept c byRequest s s' ∧ Seen c s' v) (fun _ s' => Kept c byRequest s s') := by
  refine Prog.Triple.failIf (fun _ => .refl hc) fun _ => look_run hc fun s₁ (h₁ : Kept c byRequest s s₁) => ?_
  refine Prog.Triple.bind ((liveJob_run id).mono (fun _ _ h => h) fun _ _ h => h ▸ h₁) ?_
  rintro job s' ⟨rfl, hj, hlive⟩
  refine Prog.Triple.ite (fun _ => Prog.Triple.pure ⟨h₁, id, job, hj, rfl⟩) fun hcancelled => ?_
  refine Prog.Triple.failIf (fun _ => h₁) fun hended => ?_
  have he : Edge byRequest job.status .cancelled := .cancel (by
    cases hs : job.status <;> simp [hs] at hlive hcancelled hended ⊢)
  have hid := h₁.core.keyed id job hj
  exact (cancelJob_run h₁.core (hid.symm ▸ hj) he).mono (fun _ _ h => ⟨h₁.trans h.1, h.2⟩) fun _ _ h => h.elim

-- The worker

/-- The provider is called for a job that was queued, and is started now. -/
structure Called (s s' : STTRuntime) (identity : Nat) (request : TranscriptionRequest) : Prop where
  before : ∃ id j, s.jobs.get? id = some j ∧ j.status = .queued ∧ j.identity = identity ∧ j.requestId = request.requestId
  after : ∃ id j, s'.jobs.get? id = some j ∧ j.identity = identity ∧ j.status = .running

theorem work_run (hc : Core c s) (hl : Lined c s) : Prog.Triple (work c) s
    (fun call s' => Kept c byRequest s s' ∧ ∀ r, call = some r → Called s s' r.1 r.2) (fun _ _ => False) := by
  have hnone {s' : STTRuntime} (h : Kept c byRequest s s') : Kept c byRequest s s' ∧
      ∀ r : Nat × TranscriptionRequest, none = some r → Called s s' r.1 r.2 := ⟨h, fun _ h => nomatch h⟩
  refine Prog.Triple.get_bind ?_
  split
  next hw hp =>
    refine Prog.Triple.ite (fun _ => Prog.Triple.modify_bind (Prog.Triple.pure (hnone ?_))) fun _ => ?_
    · exact .readings (m := s.monotonicReads) (n := s.unixReads) hc (Nat.le_refl _)
    · exact look_run hc fun s₁ (h₁ : Kept c byRequest s s₁) => Prog.Triple.pure (hnone h₁)
  next id rest hw hp =>
    -- the head of the line is a job that is queued
    have hid : id ∈ s.jobs.keysWhere isQueued := by rw [← hl.pending, hp]; exact List.mem_cons_self
    obtain ⟨job, hj, hq⟩ := Dict.mem_keysWhere.mp hid
    have hstatus : job.status = .queued := by simpa [isQueued] using hq
    have hkey := hc.keyed id job hj
    have hjob : s.jobs.get? job.transcriptionId = some job := by rw [hkey]; exact hj
    have hstart : Follows byRequest job.status .running := by rw [hstatus]; exact .single .start
    refine Prog.Triple.modify_bind ?_
    rw [hj]
    dsimp only
    rw [if_neg (by simp [hstatus])]
    refine Prog.Triple.bind (Prog.Triple.step unixMs_run (Prog.Triple.step monotonicMs_run
      (Prog.Triple.modify_bind (Prog.Triple.modify_bind (Prog.Triple.pure (Q := fun r s' =>
        Kept c byRequest s s' ∧ Called s s' r.1 r.2) ⟨?_, ?_, ?_⟩))))) fun r s' h => Prog.Triple.pure ⟨h.1, ?_⟩
    · refine .placed hc rfl hjob ⟨rfl, rfl, rfl, hstart, fun _ => rfl⟩ ⟨?_, ?_⟩ rfl
        (fun _ => ?_) rfl rfl rfl (Nat.le_succ _) rfl rfl
      · exact fun hr => absurd ((hc.sound id job hj).result hr) (by simp [hstatus])
      · exact fun h => nomatch h
      · show rest = s.pending.erase job.transcriptionId
        rw [hp, hkey, List.erase_cons_head]
    · exact ⟨id, job, hj, hstatus, rfl, rfl⟩
    · exact ⟨job.transcriptionId, _, Dict.get?_set_self, rfl, rfl⟩
    · rintro _ ⟨⟩
      exact h.2
  next => exact Prog.Triple.pure (hnone (.refl hc))
  next => exact Prog.Triple.pure (hnone (.refl hc))

theorem finishJob_run (hc : Core c s) {job : Job} (hj : s.jobs.get? job.transcriptionId = some job)
    (outcome : Except String ProviderTranscription) : Prog.Settles (finishJob c job outcome) s (Kept c byRequest s) := by
  have hends {status : JobStatus} {errorCode : Option String} {result : Option ProviderTranscription} (hs : job.status = .running)
      (he : Edge byRequest .running status) (hr : result.isSome = true → status = .completed) (hq : status ≠ .queued) :
      Prog.Settles (do let _ ← terminalize c { job with providerInflight := false } status errorCode result : Stt Unit) s
        (Kept c byRequest s) := by
    refine Prog.Triple.bind ((terminalize_run _ status errorCode result).mono (fun _ _ h => h) fun _ _ h => h.elim)
      fun job' s' h => Prog.Triple.pure ?_
    obtain ⟨hends, rfl⟩ := h
    have hbecomes : job.Becomes byRequest job' :=
      ⟨hends.identity, hends.transcriptionId, hends.requestId, .single (hs ▸ hends.status ▸ he), fun h => hends.started ▸ h⟩
    refine .placed hc rfl (hends.transcriptionId ▸ hj) hbecomes (hends.sound hr hq) (by simpa [isQueued, hends.status] using hq)
      (fun hl => ?_) rfl rfl rfl (Nat.le_succ _) rfl rfl
    rw [hbecomes.transcriptionId, hl.erase hj (by simp [isQueued, hs])]
    rfl
  refine Prog.Triple.ite (fun hs => Prog.Triple.modify ?_) fun hs => ?_
  · have hsound := hc.sound _ job hj
    refine ⟨.placed hc rfl hj ⟨rfl, rfl, rfl, .refl, id⟩ ⟨hsound.result, hsound.waiting⟩ rfl rfl rfl (Nat.le_refl _) hc.closed,
      fun hl => ⟨?_, hl.ordered.imp (·.later fun id j' hj' => ?_), hl.room⟩, fun _ => id, fun _ _ => .inl, rfl⟩
    · refine hl.pending.trans (Dict.keysWhere_set_same (k := job.transcriptionId) hj ?_).symm
      rfl
    · rw [show (setJob { job with providerInflight := false, lateResultDiscarded := true } s).jobs = s.jobs.set job.transcriptionId _
        from rfl, Dict.get?_set] at hj'
      split at hj'
      next hid =>
        cases hj'
        exact ⟨job, hid ▸ hj, rfl⟩
      next => exact ⟨j', hj', rfl⟩
  · have hs : job.status = .running := by simpa using hs
    cases outcome with
    | error code => exact hends hs .fail (by simp) (by simp)
    | ok result => exact hends hs .complete (by simp) (by simp)

theorem providerAnswered_run (hc : Core c s) (answer : ProviderAnswer) :
    Prog.Settles (providerAnswered c answer) s (Kept c byRequest s) := by
  refine Prog.Triple.get_bind ?_
  split
  next id identity outcome _ _ =>
    have h₁ : Kept c byRequest s { s with worker := .idle } :=
      .readings (m := s.monotonicReads) (n := s.unixReads) hc (Nat.le_refl _)
    refine Prog.Triple.modify_bind ?_
    split
    next => exact Prog.Triple.pure h₁
    next job hj =>
      refine Prog.Triple.ite (fun _ => Prog.Triple.pure h₁) fun _ => ?_
      have hkey := hc.keyed id job hj
      exact (finishJob_run h₁.core (hkey.symm ▸ hj) outcome).mono (fun _ _ h => h₁.trans h) fun _ _ h => h₁.trans h
  next => exact Prog.Triple.modify (.readings (m := s.monotonicReads) (n := s.unixReads) hc (Nat.le_refl _))
  next => exact Prog.Triple.pure (.refl hc)
  next => exact Prog.Triple.pure (.refl hc)

-- Submission

/-- No job has this request, and none gets it before the time has passed. -/
def Shielded (requestId : String) (time : Int) (s : STTRuntime) : Prop :=
  s.requestIndex.get? requestId = none ∧
    (s.shutdownStarted = true ∨ ∃ expiresAt, s.preCancelledRequests.get? requestId = some expiresAt ∧ time ≤ expiresAt)

structure Served (c : STTConfig) (byRequest : Bool) (s s' : STTRuntime) : Prop extends Evolves c byRequest s s' where
  lined : Lined c s'
  shielded : ∀ requestId time, Shielded requestId time s → Shielded requestId time s' ∨ Passed c s' time

theorem Kept.shielded (h : Kept c byRequest s s') {requestId : String} {time : Int} (hs : Shielded requestId time s) :
    Shielded requestId time s' ∨ Passed c s' time := by
  obtain ⟨hu, hd | ⟨e, he, ht⟩⟩ := hs
  · exact .inl ⟨h.unknown _ hu, .inl (h.shutdown.trans hd)⟩
  · obtain he' | ⟨now, hr, hn⟩ := h.waiting _ e he
    · exact .inl ⟨h.unknown _ hu, .inr ⟨e, he', ht⟩⟩
    · exact .inr ⟨now, hr, ht.trans hn⟩

theorem Kept.served (h : Kept c byRequest s s') (hl : Lined c s) : Served c byRequest s s' :=
  ⟨h.toEvolves, h.lined hl, fun _ _ => h.shielded⟩

section
variable {job : Job} (hc : Core c s) (hid : s.jobs.get? job.transcriptionId = none)
  (hreq : s.requestIndex.get? job.requestId = none) (hn : job.identity = s.nextIdentity)

include hc hid hreq hn

theorem Core.addJob (hs : job.Sound) : Core c (addJob job s) where
  keyed id j h := by
    rw [show (STTRuntime.addJob job s).jobs = s.jobs.set job.transcriptionId job from rfl, Dict.get?_set] at h
    split at h
    next he => cases h; exact he.symm
    next => exact hc.keyed id j h
  sound id j h := by
    rw [show (STTRuntime.addJob job s).jobs = s.jobs.set job.transcriptionId job from rfl, Dict.get?_set] at h
    split at h
    next => cases h; exact hs
    next => exact hc.sound id j h
  known id j h := by
    rw [show (STTRuntime.addJob job s).jobs = s.jobs.set job.transcriptionId job from rfl, Dict.get?_set] at h
    split at h
    next => cases h; exact Nat.lt_succ_of_le (Nat.le_of_eq hn)
    next => exact Nat.lt_succ_of_lt (hc.known id j h)
  told id id' j j' h h' he := by
    rw [show (STTRuntime.addJob job s).jobs = s.jobs.set job.transcriptionId job from rfl, Dict.get?_set] at h h'
    split at h <;> split at h'
    next hi hi' => exact hi.trans hi'.symm
    next =>
      cases h
      exact absurd (hn ▸ he ▸ hc.known id' j' h') (Nat.lt_irrefl _)
    next =>
      cases h'
      exact absurd (hn ▸ he.symm ▸ hc.known id j h) (Nat.lt_irrefl _)
    next => exact hc.told id id' j j' h h' he
  indexed r id := by
    show (s.requestIndex.set job.requestId job.transcriptionId).get? r = some id ↔
      ∃ j, (s.jobs.set job.transcriptionId job).get? id = some j ∧ j.requestId = r
    rw [Dict.get?_set, Dict.get?_set]
    have hold := hc.indexed r id
    by_cases hr : r = job.requestId <;> by_cases hi : id = job.transcriptionId
    · simp [hr, hi]
    · rw [if_pos hr, if_neg hi, ← hold, hr, hreq]
      simpa using fun h : job.transcriptionId = id => hi h.symm
    · rw [if_neg hr, if_pos hi, hold, hi, hid]
      simpa using fun h : job.requestId = r => hr h.symm
    · rw [if_neg hr, if_neg hi, hold]
  stamped := hc.stamped
  closed := hc.closed

theorem enqueueJob_run (hl : Lined c s) (hs : job.Sound) (hq : job.status = .queued) :
    Prog.Triple (enqueueJob c job) s
      (fun v s' => Evolves c byRequest s s' ∧ Lined c s' ∧ Seen c s' v ∧
        ∀ r time, r ≠ job.requestId → Shielded r time s → Shielded r time s')
      (fun _ s' => Kept c byRequest s s') := by
  have hjobs {id : String} {j' : Job} (h : (addJob job s).jobs.get? id = some j') :
      (∃ j, s.jobs.get? id = some j ∧ j.Becomes byRequest j') ∨
        (s.nextIdentity ≤ j'.identity ∧ Follows byRequest .queued j'.status) := by
    rw [show (addJob job s).jobs = s.jobs.set job.transcriptionId job from rfl, Dict.get?_set] at h
    split at h
    next =>
      cases h
      exact .inr ⟨Nat.le_of_eq hn.symm, hq ▸ .refl⟩
    next => exact .inl ⟨j', h, .refl _ j'⟩
  have hcore := hc.addJob hid hreq hn hs
  refine Prog.Triple.modify_bind (Prog.Triple.get_bind (Prog.Triple.ite (fun _ => ?_) fun hroom => ?_))
  · refine Prog.Triple.modify_bind (Prog.Triple.throw ?_)
    have hback : withdrawJob job (addJob job s) = { s with nextIdentity := s.nextIdentity + 1 } := by
      have hj : (s.jobs.set job.transcriptionId job).erase job.transcriptionId = s.jobs := Dict.erase_set_new hid
      have hr : (s.requestIndex.set job.requestId job.transcriptionId).erase job.requestId = s.requestIndex := Dict.erase_set_new hreq
      simp only [withdrawJob, STTRuntime.addJob, hj, hr]
    rw [hback]
    exact ⟨⟨⟨hc.keyed, hc.sound, fun id j h => Nat.lt_succ_of_lt (hc.known id j h), hc.told, hc.indexed, hc.stamped, hc.closed⟩,
      Nat.le_succ _, fun _ j h => .inl ⟨j, h, .refl _ j⟩, Nat.le_refl _⟩, fun hl => ⟨hl.pending, hl.ordered, hl.room⟩, fun _ => id,
      fun _ _ => .inl, rfl⟩
  · refine Prog.Triple.modify_bind (Prog.Triple.pure ⟨⟨⟨hcore.keyed, hcore.sound, hcore.known, hcore.told, hcore.indexed,
      hcore.stamped, hcore.closed⟩, Nat.le_succ _, fun id j h => hjobs h, Nat.le_refl _⟩, ⟨?_, ?_, ?_⟩, ?_, ?_⟩)
    · show s.pending ++ [job.transcriptionId] = (s.jobs.set job.transcriptionId job).keysWhere isQueued
      rw [Dict.keysWhere_set_new hid (by simp [isQueued, hq]), hl.pending]
    · show (s.pending ++ [job.transcriptionId]).Pairwise _
      have hold {id : String} {j : Job} (hi : id ∈ s.pending) (h : (addJob job s).jobs.get? id = some j) : s.jobs.get? id = some j := by
        obtain ⟨j₀, hj₀, -⟩ := Dict.mem_keysWhere.mp (hl.pending ▸ hi)
        have hne : id ≠ job.transcriptionId := by
          rintro rfl
          cases hid.symm.trans hj₀
        exact (Dict.get?_set_ne hne).symm.trans h
      refine List.pairwise_append.mpr ⟨hl.ordered.imp_of_mem fun ha hb h j j' hj hj' => h j j' (hold ha hj) (hold hb hj'), by simp,
        fun a ha b hb j j' hj hj' => ?_⟩
      cases List.mem_singleton.mp hb
      cases Dict.get?_set_self.symm.trans hj'
      exact hn ▸ hc.known a j (hold ha hj)
    · show (s.pending ++ [job.transcriptionId]).length ≤ c.queueCapacity
      have : ¬ s.pending.length ≥ c.queueCapacity := hroom
      rw [List.length_append, List.length_singleton]
      omega
    · exact ⟨job.transcriptionId, job, Dict.get?_set_self, rfl⟩
    · rintro r time hr ⟨hu, hw⟩
      exact ⟨(Dict.get?_set_ne hr).trans hu, hw⟩

end

theorem lookPruned_run {β : Type} {f : Int → Stt β} {Q : β → STTRuntime → Prop} {E : STTRuntimeError → STTRuntime → Prop}
    (hc : Core c s)
    (hf : ∀ now s₁, Kept c byRequest s s₁ → Latest c s₁ now → Prog.Triple (f now) s₁ Q E) :
    Prog.Triple (monotonicMs c >>= fun now => expireDue now >>= fun _ => prunePreCancelled now >>= fun _ => f now) s Q E := by
  have h₁ : Kept c byRequest s { s with monotonicReads := s.monotonicReads + 1 } :=
    .readings (n := s.unixReads) (w := s.worker) hc (Nat.le_succ _)
  have hread : Read c { s with monotonicReads := s.monotonicReads + 1 } (c.monotonicClock.read s.monotonicReads) :=
    ⟨s.monotonicReads, Nat.lt_succ_self _, rfl⟩
  have h₂ := h₁.trans (expireDue_kept h₁.core (c.monotonicClock.read s.monotonicReads))
  refine Prog.Triple.step monotonicMs_run (Prog.Triple.modify_bind (Prog.Triple.modify_bind (hf _ _ (h₂.trans ?_) ⟨hread, ?_⟩)))
  · exact prunePreCancelled_kept h₂.core hread
  · rintro _ ⟨n, hn, rfl⟩
    exact c.monotonicClock.mono n s.monotonicReads (Nat.le_of_lt_succ hn)

theorem submitNew_run (hc : Core c s) (hl : Lined c s) {request : TranscriptionRequest} (audio : PCM16Wav) (rawId : Option String)
    (now : Int) (hreq : s.requestIndex.get? request.requestId = none)
    (hpre : request.requestId ∉ s.preCancelledRequests.keys) :
    Prog.Triple (submitNew c request audio rawId now) s (fun v s' => Served c byRequest s s' ∧ Seen c s' v)
      (fun _ s' => Kept c byRequest s s') := by
  refine Prog.Triple.get_bind (Prog.Triple.failIf (fun _ => .refl hc) fun hopen => ?_)
  refine Prog.Triple.bind (makeRoom_run s.jobs.size hc) fun _ s₁ h₁ => Prog.Triple.get_bind ?_
  refine Prog.Triple.ofExcept_bind (fun _ _ => h₁) fun id hid => Prog.Triple.step unixMs_run ?_
  have h₂ : Kept c byRequest s₁ { s₁ with unixReads := s₁.unixReads + 1 } :=
    .readings (m := s₁.monotonicReads) (w := s₁.worker) h₁.core (Nat.le_refl _)
  have h := h₁.trans h₂
  have hnew : s₁.jobs.get? id = none := by
    unfold newTranscriptionId at hid
    split at hid
    · cases hid
    · split at hid
      · cases hid
      · split at hid
        · cases hid
        next hnot =>
          cases hid
          exact Dict.get?_eq_none_iff.mpr hnot
  refine (enqueueJob_run h.core hnew (h.unknown _ hreq) rfl (h.lined hl)
    ⟨by simp [newJob], fun _ => rfl⟩ rfl).mono (fun v s' hq => ?_) fun _ _ he => h.trans he
  obtain ⟨hev, hline, hseen, hshield⟩ := hq
  refine ⟨⟨h.toEvolves.trans hev, hline, fun r time hr => ?_⟩, hseen⟩
  have hne : r ≠ request.requestId := by
    rintro rfl
    obtain ⟨-, hshut | ⟨e, he, -⟩⟩ := hr
    · exact hopen (hc.closed hshut)
    · exact hpre (Dict.mem_keys_iff.mpr ⟨e, he⟩)
  obtain hr' | hp := h.shielded hr
  · exact .inl (hshield r time hne hr')
  · exact .inr (hp.later hev.reads)

theorem submit_run (hc : Core c s) (hl : Lined c s) (request : TranscriptionRequest) (rawId : Option String) :
    Prog.Triple (submit c request rawId) s (fun v s' => Served c byRequest s s' ∧ Seen c s' v)
      (fun _ s' => Served c byRequest s s') := by
  refine Prog.Triple.ofExcept_bind (fun _ _ => (Kept.refl hc).served hl) fun audio _ => ?_
  refine lookPruned_run hc fun now s₁ (h₁ : Kept c byRequest s s₁) hnow => Prog.Triple.get_bind ?_
  refine Prog.Triple.failIf (fun _ => h₁.served hl) fun hpre => ?_
  split
  next hreq =>
    have hjoin {s' : STTRuntime} (h : Served c byRequest s₁ s') : Served c byRequest s s' := by
      refine ⟨h₁.toEvolves.trans h.toEvolves, h.lined, fun r time hr => ?_⟩
      obtain hr | hp := h₁.shielded hr
      · exact h.shielded r time hr
      · exact .inr (hp.later h.reads)
    exact (submitNew_run h₁.core (h₁.lined hl) audio rawId now hreq hpre).mono (fun _ _ h => ⟨hjoin h.1, h.2⟩)
      fun _ _ h => (h₁.trans h).served hl
  next id hid =>
    split
    next => exact Prog.Triple.throw (h₁.served hl)
    next existing hj =>
      refine Prog.Triple.ofExcept ?_
      unfold resubmit
      split
      next v hv =>
        split at hv
        · cases hv
        · split at hv
          · cases hv
          · cases hv
            exact ⟨h₁.served hl, id, existing, hj, rfl⟩
      next => exact h₁.served hl

-- Cancellation by request

/-- The request is cancelled in advance, from the last reading on. -/
structure Acknowledged (c : STTConfig) (s' : STTRuntime) (requestId : String) : Prop where
  unknown : s'.requestIndex.get? requestId = none
  waits : ∃ now, Latest c s' now ∧ s'.preCancelledRequests.get? requestId = some (now + c.terminalTtlMs)

theorem displaceOldest_run (n : Nat) : Prog.Triple (displaceOldest c n) s
    (fun displaced s' => (∃ pre, s' = { s with preCancelledRequests := pre }) ∧
      (∀ r e, s'.preCancelledRequests.get? r = some e → s.preCancelledRequests.get? r = some e) ∧
      ∀ r e, s.preCancelledRequests.get? r = some e → r ∉ displaced → s'.preCancelledRequests.get? r = some e)
    (fun _ _ => False) := by
  induction n generalizing s with
  | zero => exact Prog.Triple.pure ⟨⟨_, rfl⟩, fun _ _ => id, fun _ _ h _ => h⟩
  | succ n ih =>
    refine Prog.Triple.get_bind (Prog.Triple.ite (fun _ => Prog.Triple.pure ⟨⟨_, rfl⟩, fun _ _ => id, fun _ _ h _ => h⟩) fun _ => ?_)
    refine Prog.Triple.modify_bind (Prog.Triple.bind ih fun displaced s' h => Prog.Triple.pure ?_)
    obtain ⟨⟨pre, hs'⟩, hback, hkeep⟩ := h
    refine ⟨⟨pre, hs'⟩, fun r e he => Dict.get?_of_dropOldest (hback r e he), fun r e he hd => ?_⟩
    rw [List.mem_append, not_or] at hd
    exact hkeep r e ((Dict.get?_dropOldest he).resolve_right hd.1) hd.2

theorem preCancel_run (hc : Core c s) (hl : Lined c s) {requestId : String} {now : Int} (hnow : Latest c s now)
    (hu : s.requestIndex.get? requestId = none) :
    Prog.Triple (preCancel c requestId now) s
      (fun a s' => Evolves c byRequest s s' ∧ Lined c s' ∧ a.requestId = requestId ∧ Acknowledged c s' requestId ∧
        ∀ r time, r ∉ a.displaced → Shielded r time s → Shielded r time s')
      (fun _ _ => False) := by
  refine Prog.Triple.get_bind (Prog.Triple.bind (displaceOldest_run s.preCancelledRequests.size) fun displaced s₁ h => ?_)
  obtain ⟨⟨pre, rfl⟩, hback, hkeep⟩ := h
  refine Prog.Triple.modify_bind (Prog.Triple.step unixMs_run (Prog.Triple.pure ?_))
  have hget (r : String) : ((pre.erase requestId).set requestId (now + c.terminalTtlMs)).get? r =
      if r = requestId then some (now + c.terminalTtlMs) else pre.get? r := by
    rw [Dict.get?_set]
    split
    · rfl
    next hr => rw [Dict.get?_erase, if_neg hr]
  refine ⟨⟨⟨hc.keyed, hc.sound, hc.known, hc.told, hc.indexed, fun r e he => ?_, hc.closed⟩, Nat.le_refl _,
    fun _ j hj => .inl ⟨j, hj, .refl _ j⟩, Nat.le_refl _⟩, ⟨hl.pending, hl.ordered, hl.room⟩, rfl, ⟨hu, now, ⟨hnow.read, hnow.last⟩, ?_⟩,
    fun r time hr hs => ⟨hs.1, ?_⟩⟩
  · rw [hget] at he
    split at he
    · cases he
      exact ⟨now, hnow.read, rfl⟩
    · exact hc.stamped r e (hback r e he)
  · exact (hget requestId).trans (if_pos rfl)
  · refine hs.2.imp_right ?_
    rintro ⟨e, he, ht⟩
    rw [hget]
    split
    next =>
      -- the same id again: its new time is no earlier than the old one
      obtain ⟨earlier, hread, rfl⟩ := hc.stamped r e he
      have := hnow.last earlier hread
      exact ⟨_, rfl, by omega⟩
    next => exact ⟨e, hkeep r e he hr, ht⟩

/-- What an answer to `cancel_request` leaves behind it. -/
def RequestServed (c : STTConfig) (s s' : STTRuntime) : RequestCancelled → Prop
  | .job v => Served c true s s' ∧ Seen c s' v
  | .preCancelled a => Evolves c true s s' ∧ Lined c s' ∧ Acknowledged c s' a.requestId ∧
    ∀ r time, r ∉ a.displaced → Shielded r time s → Shielded r time s' ∨ Passed c s' time

theorem cancelRequest_run (hc : Core c s) (hl : Lined c s) (requestId : String) :
    Prog.Triple (cancelRequest c requestId) s (fun answer s' => RequestServed c s s' answer)
      (fun _ s' => Served c true s s') := by
  refine Prog.Triple.failIf (fun _ => (Kept.refl hc).served hl) fun _ => ?_
  refine lookPruned_run hc fun now s₁ (h₁ : Kept c true s s₁) hnow => Prog.Triple.get_bind ?_
  split
  next hu =>
    have hpre := @preCancel_run c s₁ true h₁.core (h₁.lined hl) requestId now hnow hu
    refine Prog.Triple.bind (hpre.mono (fun _ _ h => h) fun _ _ h => h.elim) fun a s' h => Prog.Triple.pure ?_
    obtain ⟨hev, hline, rfl, hack, hshield⟩ := h
    refine ⟨h₁.toEvolves.trans hev, hline, hack, fun r time hr hs => ?_⟩
    exact (h₁.shielded hs).imp (hshield r time hr) (·.later hev.reads)
  next id hid =>
    refine Prog.Triple.bind ((liveJob_run id).mono (fun _ _ h => h) fun _ _ h => h ▸ h₁.served hl) ?_
    rintro job s' ⟨rfl, hj, hlive⟩
    refine Prog.Triple.ite (fun _ => Prog.Triple.pure ⟨h₁.served hl, id, job, hj, rfl⟩) fun hcancelled => ?_
    have he : Edge true job.status .cancelled := .cancel (by
      cases hs : job.status <;> simp [hs] at hlive hcancelled ⊢)
    have hkey := h₁.core.keyed id job hj
    refine Prog.Triple.bind ((cancelJob_run h₁.core (hkey.symm ▸ hj) he).mono (fun _ _ h => h) fun _ _ h => h.elim)
      fun v s' h => Prog.Triple.pure ⟨(h₁.trans h.1).served hl, h.2⟩

-- Shutdown

theorem cancelLive_run (jobs : List Job) (hc : Core c s) (hjobs : ∀ j ∈ jobs, s.jobs.get? j.transcriptionId = some j)
    (hnodup : (jobs.map Job.transcriptionId).Nodup) :
    Prog.Triple (cancelLive c jobs) s
      (fun _ s' => Evolves c byRequest s s' ∧ s'.requestIndex = s.requestIndex ∧ s'.shutdownStarted = s.shutdownStarted ∧
        ∀ id j, s'.jobs.get? id = some j → isQueued j = true → s.jobs.get? id = some j ∧ id ∉ jobs.map Job.transcriptionId)
      (fun _ _ => False) := by
  induction jobs generalizing s with
  | nil => exact Prog.Triple.pure ⟨.refl hc, rfl, rfl, fun id j hj _ => ⟨hj, by simp⟩⟩
  | cons job jobs ih =>
    obtain ⟨hnot, hnodup⟩ := List.nodup_cons.mp hnodup
    have hjob := hjobs job List.mem_cons_self
    refine Prog.Triple.ite (fun hlive => ?_) fun hdone => ?_
    · refine Prog.Triple.bind ((terminalize_run job .cancelled _ none).mono (fun _ _ h => h) fun _ _ h => h) fun job' s₁ h => ?_
      obtain ⟨hends, rfl⟩ := h
      have hkey := hends.transcriptionId
      have hev : Evolves c byRequest s (setJob job' { s with monotonicReads := s.monotonicReads + 1, unixReads := s.unixReads + 1 }) :=
        .placed hc rfl (hkey ▸ hjob) (hends.becomes (.cancel (hlive.imp_right .inl))) (hends.sound (by simp) (by simp))
          rfl rfl rfl (Nat.le_succ _) hc.closed
      refine (ih hev.core (fun j hj => ?_) hnodup).mono (fun _ s' h => ?_) fun _ _ h => h
      · have hne : j.transcriptionId ≠ job'.transcriptionId := fun he => hnot (hkey ▸ he ▸ List.mem_map_of_mem hj)
        exact (Dict.get?_set_ne hne).trans (hjobs j (List.mem_cons_of_mem _ hj))
      · obtain ⟨hev', hindex, hshut, hqueued⟩ := h
        refine ⟨hev.trans hev', hindex, hshut, fun id j hj hq => ?_⟩
        obtain ⟨hj', hid⟩ := hqueued id j hj hq
        have hset : (s.jobs.set job'.transcriptionId job').get? id = some j := hj'
        rw [Dict.get?_set] at hset
        split at hset
        next =>
          cases hset
          simp [isQueued, hends.status] at hq
        next hne => exact ⟨hset, by simpa [hkey ▸ hne] using hid⟩
    · refine (ih hc (fun j hj => hjobs j (List.mem_cons_of_mem _ hj)) hnodup).mono (fun _ s' h => ?_) fun _ _ h => h
      obtain ⟨hev, hindex, hshut, hqueued⟩ := h
      refine ⟨hev, hindex, hshut, fun id j hj hq => ?_⟩
      obtain ⟨hj', hid⟩ := hqueued id j hj hq
      have hne : id ≠ job.transcriptionId := by
        rintro rfl
        cases hjob.symm.trans hj'
        simp [isQueued, not_or.mp hdone] at hq
      exact ⟨hj', by simpa [hne] using hid⟩

theorem shutdown_run (hc : Core c s) (hl : Lined c s) :
    Prog.Triple (shutdown c) s (fun _ s' => Served c byRequest s s') (fun _ _ => False) := by
  refine Prog.Triple.get_bind (Prog.Triple.ite (fun _ => Prog.Triple.pure ((Kept.refl hc).served hl)) fun _ => Prog.Triple.modify_bind ?_)
  have hc₁ : Core c { s with shutdownStarted := true, accepting := false } := { hc with closed := fun _ => rfl }
  have hkeys : s.jobs.values.map Job.transcriptionId = s.jobs.keys := by
    simp only [Dict.values, Dict.keys, List.map_map]
    refine List.map_congr_left fun e he => ?_
    exact hc.keyed e.1 e.2 (Dict.get?_eq_some_iff.mpr he)
  have hnodup : (s.jobs.values.map Job.transcriptionId).Nodup := hkeys ▸ s.jobs.keys_nodup
  have hjobs : ∀ j ∈ s.jobs.values, s.jobs.get? j.transcriptionId = some j := fun j hj => by
    obtain ⟨id, hid⟩ := Dict.mem_values_iff.mp hj
    exact (hc.keyed id j hid).symm ▸ hid
  refine Prog.Triple.bind (@cancelLive_run c _ byRequest s.jobs.values hc₁ hjobs hnodup) fun _ s₁ h => Prog.Triple.modify ?_
  · obtain ⟨hev, hindex, hshut, hqueued⟩ := h
    have hcore := hev.core
    refine ⟨⟨{ hcore with stamped := fun r e he => by cases he }, hev.next, hev.jobs, hev.reads⟩, ⟨?_, .nil, Nat.zero_le _⟩,
      fun r time hr => .inl ⟨?_, .inl hshut⟩⟩
    · refine (List.eq_nil_iff_forall_not_mem.mpr fun id hid => ?_).symm
      obtain ⟨j, hj, hq⟩ := Dict.mem_keysWhere.mp hid
      obtain ⟨hj', hnot⟩ := hqueued id j hj hq
      rw [hkeys] at hnot
      exact hnot (Dict.mem_keys_iff.mpr ⟨j, hj'⟩)
    · exact (congrArg (·.get? r) hindex).trans hr.1

-- The loops come to their end

end STTRuntime

end RobotLlm.Stt
