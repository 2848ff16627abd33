import RobotLlm.Stt.SttMoves

/-!
# The transcription runtime over whole runs

Every operation is one step of the same kind. What a step leaves of a job
that is over, of one that was begun, and of a request that is cancelled in
advance, every later step leaves of it.
-/

namespace RobotLlm.Stt

open RobotLlm.Lib

namespace STTRuntime

variable {c : STTConfig} {s s₁ s' : STTRuntime} {h : List (STTInput × STTOutput)}

-- One step

def byRequest : STTInput → Bool
  | .cancelRequest _ => true
  | _ => false

structure Stepped (c : STTConfig) (i : STTInput) (s s' : STTRuntime) (o : STTOutput) : Prop extends
    Evolves c (byRequest i) s s' where
  lined : Lined c s'
  seen : ∀ v, o = .view v → Seen c s' v
  called : ∀ identity request, o = .called identity request → Called s s' identity request
  acknowledged : ∀ a, o = .preCancelled a → Acknowledged c s' a.requestId
  shielded : ∀ r time, (∀ a, o = .preCancelled a → r ∉ a.displaced) → Shielded r time s →
    Shielded r time s' ∨ Passed c s' time

theorem Served.stepped {i : STTInput} (h : Served c (byRequest i) s s') {o : STTOutput} (hseen : ∀ v, o = .view v → Seen c s' v)
    (hcalled : ∀ identity request, o ≠ .called identity request) (hack : ∀ a, o ≠ .preCancelled a) : Stepped c i s s' o :=
  ⟨h.toEvolves, h.lined, hseen, fun n r ho => absurd ho (hcalled n r), fun a ho => absurd ho (hack a),
    fun r time _ => h.shielded r time⟩

theorem Served.viewed {i : STTInput} {v : Viewed} (h : Served c (byRequest i) s s') (hv : Seen c s' v) :
    Stepped c i s s' (.view v) :=
  h.stepped (fun _ ho => by cases ho; exact hv) (fun _ _ => by simp) fun _ => by simp

theorem Served.raised {i : STTInput} {e : STTRuntimeError} (h : Served c (byRequest i) s s') : Stepped c i s s' (.raised e) :=
  h.stepped (fun _ ho => by simp at ho) (fun _ _ => by simp) fun _ => by simp

theorem Served.nothing {i : STTInput} (h : Served c (byRequest i) s s') : Stepped c i s s' .nothing :=
  h.stepped (fun _ ho => by simp at ho) (fun _ _ => by simp) fun _ => by simp

theorem perform_run (hc : Core c s) (hl : Lined c s) (i : STTInput) :
    Prog.Triple (perform c i) s (fun o s' => Stepped c i s s' o) (fun e s' => Stepped c i s s' (.raised e)) := by
  cases i with
  | submit request rawId =>
    exact Prog.Triple.map ((submit_run hc hl request rawId).mono (fun _ _ h => h.1.viewed h.2) fun _ _ h => h.raised)
  | get id =>
    exact Prog.Triple.map ((getView_run hc id).mono (fun _ _ h => (h.1.served hl).viewed h.2) fun _ _ h => (h.served hl).raised)
  | cancel id =>
    exact Prog.Triple.map ((cancel_run hc id).mono (fun _ _ h => (h.1.served hl).viewed h.2) fun _ _ h => (h.served hl).raised)
  | cancelRequest requestId =>
    refine Prog.Triple.map ((cancelRequest_run hc hl requestId).mono (fun answer s' h => ?_) fun _ _ h => h.raised)
    cases answer with
    | job v => exact h.1.viewed h.2
    | preCancelled a =>
      obtain ⟨hev, hline, hack, hshield⟩ := h
      refine ⟨hev, hline, fun _ ho => ?_, fun _ _ ho => ?_, fun _ ho => ?_, fun r time hr => hshield r time (hr a rfl)⟩
      · simp [RequestCancelled.output] at ho
      · simp [RequestCancelled.output] at ho
      · cases ho
        exact hack
  | shutdown => exact Prog.Triple.map ((shutdown_run hc hl).mono (fun _ _ h => h.nothing) fun _ _ h => h.elim)
  | work =>
    have hwork := @work_run c s (byRequest .work) hc hl
    refine Prog.Triple.map (hwork.mono (fun call s' h => ?_) fun _ _ h => h.elim)
    cases call with
    | none => exact (h.1.served hl).nothing
    | some r =>
      have hs := (h.1.served hl).nothing
      exact ⟨hs.toEvolves, hs.lined, fun _ ho => by simp at ho, fun n request ho => by cases ho; exact h.2 r rfl,
        fun _ ho => by simp at ho, fun r time _ => hs.shielded r time fun _ ho => by simp at ho⟩
  | providerAnswered answer =>
    exact Prog.Triple.map ((providerAnswered_run hc answer).mono (fun _ _ h => (h.served hl).nothing) fun _ _ h => (h.served hl).raised)

theorem step_stepped (hc : Core c s) (hl : Lined c s) (i : STTInput) :
    Stepped c i s ((sttRuntime c).step s i).2 ((sttRuntime c).step s i).1 := by
  have h := perform_run hc hl i
  unfold Prog.Triple at h
  show Stepped c i s (perform c i s).2 (STTOutput.ofResult (perform c i s).1)
  rcases hr : perform c i s with ⟨_ | _, _⟩ <;> rw [hr] at h <;> exact h

-- Runs

theorem Core.init : Core c {} where
  keyed _ _ h := nomatch h
  sound _ _ h := nomatch h
  known _ _ h := nomatch h
  told _ _ _ _ h := nomatch h
  indexed _ _ := ⟨fun h => (nomatch h), fun ⟨_, h, _⟩ => nomatch h⟩
  stamped _ _ h := nomatch h
  closed h := nomatch h

theorem Lined.init : Lined c {} := ⟨rfl, .nil, Nat.zero_le _⟩

theorem core_lined (hr : (sttRuntime c).Runs Machine.always s₁ h s) (hi : Core c s₁ ∧ Lined c s₁) : Core c s ∧ Lined c s :=
  hr.invariant (I := fun s => Core c s ∧ Lined c s) hi fun _ i hi _ =>
    ⟨(step_stepped hi.1 hi.2 i).core, (step_stepped hi.1 hi.2 i).lined⟩

structure Is (P : JobStatus → Prop) (identity : Nat) (s : STTRuntime) : Prop where
  known : identity < s.nextIdentity
  status : ∀ id j, s.jobs.get? id = some j → j.identity = identity → P j.status

theorem Is.of_job {P : JobStatus → Prop} (hc : Core c s) {id : String} {j : Job} (hj : s.jobs.get? id = some j) (hp : P j.status) :
    Is P j.identity s := by
  refine ⟨hc.known id j hj, fun id' j' hj' he => ?_⟩
  cases hc.told id id' j j' hj hj' he.symm
  cases hj.symm.trans hj'
  exact hp

theorem Is.later {P : JobStatus → Prop} (hp : ∀ byRequest a b, P a → Follows byRequest a b → P b) {identity : Nat}
    {byRequest : Bool} (hev : Evolves c byRequest s s') (h : Is P identity s) : Is P identity s' := by
  refine ⟨Nat.lt_of_lt_of_le h.known hev.next, fun id j' hj' he => ?_⟩
  obtain ⟨j, hj, hb⟩ | ⟨hn, -⟩ := hev.jobs id j' hj'
  · exact hp byRequest j.status j'.status (h.status id j hj (hb.identity.symm.trans he)) hb.status
  · exact absurd (he ▸ hn) (Nat.not_le_of_lt h.known)

theorem Follows.begun {byRequest : Bool} {a b : JobStatus} (ha : a ≠ .queued) (hf : Follows byRequest a b) : b ≠ .queued := by
  induction hf with
  | refl => exact ha
  | tail _ he _ => cases he <;> simp

-- From a state of a run on

theorem kept_on {I : STTRuntime → Prop} (hr : (sttRuntime c).Runs Machine.always s₁ h s) (hi : Core c s₁ ∧ Lined c s₁) (h₁ : I s₁)
    (hstep : ∀ i s s' o, (i, o) ∈ h → Stepped c i s s' o → I s → I s') :
    I s ∧ ∀ i o, (i, o) ∈ h → ∃ s s', Core c s ∧ I s ∧ Stepped c i s s' o ∧ I s' := by
  induction hr with
  | nil => exact ⟨h₁, fun _ _ h => nomatch h⟩
  | @cons h _ i hr _ ih =>
    obtain ⟨hs, hall⟩ := ih fun i s s' o ho => hstep i s s' o (List.mem_cons_of_mem _ ho)
    obtain ⟨hc, hl⟩ := core_lined hr hi
    have hst := step_stepped hc hl i
    have hnext := hstep i _ _ _ List.mem_cons_self hst hs
    refine ⟨hnext, fun i' o' ho => ?_⟩
    rcases List.mem_cons.mp ho with he | ho
    · cases he
      exact ⟨_, _, hc, hs, hst, hnext⟩
    · exact hall i' o' ho

theorem silent_on (hr : (sttRuntime c).Runs Machine.always s₁ h s) (hi : Core c s₁ ∧ Lined c s₁) {id : String} {j : Job}
    (hj : s₁.jobs.get? id = some j) (hover : j.status.IsOver) {i : STTInput} {v : View} (hv : (i, .view (j.identity, v)) ∈ h) :
    v.result = none := by
  obtain ⟨-, hall⟩ := kept_on hr hi (I := Is JobStatus.IsOver j.identity) (.of_job hi.1 hj hover) fun i s s' o _ hst =>
    Is.later (fun _ _ _ ha hf => hf.isOver ha) hst.toEvolves
  obtain ⟨s, s', -, -, hst, hs'⟩ := hall i _ hv
  obtain ⟨id', j', hj', he⟩ := hst.seen _ rfl
  obtain ⟨hid, rfl⟩ := Prod.mk.inj he
  have hnone : j'.result = none := by
    by_contra hr
    have hdone := (hst.core.sound id' j' hj').result (Option.isSome_iff_ne_none.mpr hr)
    rcases hs'.status id' j' hj' hid.symm with h | h <;> simp [hdone] at h
  simp [view, hnone]

/-- The jobs for which the provider was called, the last one first. -/
def calls (h : List (STTInput × STTOutput)) : List Nat :=
  h.filterMap fun e => match e.2 with
    | .called identity _ => some identity
    | _ => none

theorem mem_calls {n : Nat} : n ∈ calls h ↔ ∃ i request, (i, .called n request) ∈ h := by
  simp only [calls, List.mem_filterMap, Prod.exists]
  constructor
  · rintro ⟨i, o, hm, ho⟩
    split at ho
    next request =>
      cases ho
      exact ⟨i, request, hm⟩
    next => cases ho
  · rintro ⟨i, request, hm⟩
    exact ⟨i, _, hm, rfl⟩

theorem uncalled_on (hr : (sttRuntime c).Runs Machine.always s₁ h s) (hi : Core c s₁ ∧ Lined c s₁) {n : Nat}
    (hbegun : Is (· ≠ .queued) n s₁) : n ∉ calls h := by
  intro hm
  obtain ⟨i, request, hm⟩ := mem_calls.mp hm
  obtain ⟨-, hall⟩ := kept_on hr hi hbegun fun i s s' o _ hst => Is.later (fun _ _ _ ha hf => Follows.begun ha hf) hst.toEvolves
  obtain ⟨s, s', -, hs, hst, -⟩ := hall i _ hm
  obtain ⟨id', j', hj', hq, he, -⟩ := (hst.called _ _ rfl).before
  exact hs.status id' j' hj' he hq

theorem calls_begun (hr : (sttRuntime c).Runs Machine.always s₁ h s) (hi : Core c s₁ ∧ Lined c s₁) :
    (calls h).Nodup ∧ ∀ n ∈ calls h, Is (· ≠ .queued) n s := by
  induction hr with
  | nil => exact ⟨.nil, fun _ h => nomatch h⟩
  | @cons h _ i hr _ ih =>
    obtain ⟨hnodup, hbegun⟩ := ih
    obtain ⟨hc, hl⟩ := core_lined hr hi
    have hst := step_stepped hc hl i
    have hlater {n : Nat} (hn : Is (· ≠ .queued) n _) := Is.later (fun _ _ _ ha hf => Follows.begun ha hf) hst.toEvolves hn
    cases ho : ((sttRuntime c).step _ i).1 with
    | called n request =>
      obtain ⟨id, j, hj, hq, he, -⟩ := (hst.called n request ho).before
      obtain ⟨id', j', hj', he', hrun⟩ := (hst.called n request ho).after
      have hcalls : calls ((i, STTOutput.called n request) :: h) = n :: calls h := rfl
      rw [hcalls]
      refine ⟨List.nodup_cons.mpr ⟨fun hm => (hbegun n hm).status id j hj he hq, hnodup⟩, fun m hm => ?_⟩
      rcases List.mem_cons.mp hm with rfl | hm
      · exact he' ▸ .of_job hst.core hj' (by simp [hrun])
      · exact hlater (hbegun m hm)
    | _ => exact ⟨hnodup, fun m hm => hlater (hbegun m hm)⟩

theorem precancelled_on {i : STTInput} {n : Nat} {request : TranscriptionRequest}
    (hr : (sttRuntime c).Runs Machine.always s₁ ((i, .called n request) :: h) s) (hi : Core c s₁ ∧ Lined c s₁) {time : Int}
    (hs : Shielded request.requestId time s₁) (hstay : ∀ i a, (i, .preCancelled a) ∈ h → request.requestId ∉ a.displaced) :
    Passed c s time := by
  obtain ⟨s', hr', -, hstep⟩ := hr.newest
  obtain ⟨hkept, -⟩ := kept_on hr' hi (I := fun s => Shielded request.requestId time s ∨ Passed c s time) (.inl hs) (by
    rintro i s s' o ho hst (hs | hp)
    · exact hst.shielded _ time (fun a ha => hstay i a (ha ▸ ho)) hs
    · exact .inr (hp.later hst.reads))
  obtain ⟨hc, hl⟩ := core_lined hr' hi
  have hst := step_stepped hc hl i
  rw [hstep] at hst
  obtain hsh | hp := hkept
  · obtain ⟨id, j, hj, -, -, hreq⟩ := (hst.called n request rfl).before
    have := (hc.indexed request.requestId id).mpr ⟨j, hj, hreq⟩
    rw [hsh.1] at this
    cases this
  · exact hp.later hst.reads

-- All runs

structure Serves (c : STTConfig) (h : List (STTInput × STTOutput)) (s : STTRuntime) : Prop where
  /-- The status of a job goes along edges, whatever comes next. -/
  edges : ∀ i id j', ((sttRuntime c).step s i).2.jobs.get? id = some j' →
    (∃ j, s.jobs.get? id = some j ∧ j'.identity = j.identity ∧ Follows (byRequest i) j.status j'.status) ∨
      (s.nextIdentity ≤ j'.identity ∧ Follows (byRequest i) .queued j'.status)
  /-- A text is that of a completed job. -/
  shown : ∀ i v, (i, .view v) ∈ h → v.2.result.isSome = true → v.2.status = .completed
  /-- No text is shown once the job is cancelled or expired. -/
  silent : ∀ newer older s₁, h = newer ++ older → (sttRuntime c).Runs Machine.always {} older s₁ →
    ∀ id j, s₁.jobs.get? id = some j → j.status.IsOver → ∀ i v, (i, .view (j.identity, v)) ∈ newer → v.result = none
  /-- The provider is called once for a job, at most. -/
  once : (calls h).Nodup
  /-- It is never called for a job that a step has cancelled while it was queued. -/
  unstarted : ∀ newer e older s₁ s₂, h = newer ++ e :: older → (sttRuntime c).Runs Machine.always {} older s₁ →
    (sttRuntime c).Runs Machine.always {} (e :: older) s₂ → ∀ id j id' j', s₁.jobs.get? id = some j → j.status = .queued →
    s₂.jobs.get? id' = some j' → j'.identity = j.identity → j'.status = .cancelled → j.identity ∉ calls h
  /-- If it is called for a request that was cancelled in advance and not
  displaced since, then the time of that cancellation has passed. -/
  preCancelled : ∀ i n request between i₀ a older, h = (i, .called n request) :: between ++ (i₀, .preCancelled a) :: older →
    a.requestId = request.requestId → (∀ i' a', (i', .preCancelled a') ∈ between → a.requestId ∉ a'.displaced) →
    ∃ s₁ now, (sttRuntime c).Runs Machine.always {} ((i₀, .preCancelled a) :: older) s₁ ∧ Latest c s₁ now ∧
      Passed c s (now + c.terminalTtlMs)
  /-- The queued jobs wait, in the order of their numbers. -/
  lined : Lined c s
  /-- The index is one to one with the jobs. -/
  indexed : ∀ requestId id, s.requestIndex.get? requestId = some id ↔ ∃ j, s.jobs.get? id = some j ∧ j.requestId = requestId
  single : ∀ requestId requestId' id, s.requestIndex.get? requestId = some id → s.requestIndex.get? requestId' = some id →
    requestId = requestId'

def silence : List UInt8 :=
  ascii "RIFF" ++ [100, 31, 0, 0] ++ ascii "WAVEfmt " ++ [16, 0, 0, 0, 1, 0, 1, 0, 128, 62, 0, 0, 0, 125, 0, 0, 2, 0, 16, 0] ++
    ascii "data" ++ [64, 31, 0, 0] ++ List.replicate 8000 0

def sampleClock : Clock where
  read n := min n 1000
  nonneg n := by omega
  small n := by omega
  mono m n h := by omega

def sampleConfig : STTConfig where
  providerId := "local"
  modelId := "small"
  queueCapacity := 1
  jobCapacity := 2
  terminalTtlMs := 5
  monotonicClock := sampleClock
  unixClock := sampleClock
  sha256 _ := "digest"
  queueCapacityOk := by decide
  jobCapacityOk := by decide
  terminalTtlOk := by decide

def sampleRequest (requestId : String) : TranscriptionRequest := ⟨requestId, "en", ⟨silence, 250, 4000, "digest"⟩⟩

/-- One request is served and cancelled too late; one is cancelled in advance. -/
def sampleInputs : List STTInput :=
  [.submit (sampleRequest "one") (some "1"), .work, .cancelRequest "two", .submit (sampleRequest "two") (some "2"),
    .providerAnswered (.returned (some ⟨"stop", "local", "small", none, none⟩)), .get "stt-1", .cancelRequest "one", .get "stt-1"]

end STTRuntime

end RobotLlm.Stt
