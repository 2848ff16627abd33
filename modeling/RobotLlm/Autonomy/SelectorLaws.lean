import RobotLlm.Autonomy.Selector

/-!
# One selector at a time

A worker that is alive belongs to the active call, and a call looks at its own
state only: what another call's worker returns late goes into a state that
nobody reads.
-/

namespace RobotLlm.Autonomy.Selector

open RobotLlm.Lib RobotLlm.Navigation

namespace SingleFlightSelector

variable {κ : Type} {n : Nat} {context : κ} {e : SelectorEvent κ} {es : List (SelectorEvent κ)} {c : SelectorCall κ}

-- What a call has seen

def Unset (n : Nat) (es : List (SelectorEvent κ)) : Prop :=
  Since (fun e => ∀ answer, e ≠ .cancellationRead n answer) (· = .cancellationRead n (some false)) es

def BeforeDeadline (n : Nat) (deadlineMs : Int) (es : List (SelectorEvent κ)) : Prop :=
  Since (fun e => ∀ now, e ≠ .clockRead n now) (fun e => ∃ now < deadlineMs, e = .clockRead n (.ok now)) es

/-- The monotonic time was read last before the wall deadline that was set. -/
def BeforeWall (n : Nat) (es : List (SelectorEvent κ)) : Prop :=
  ∃ wall, .wallSet n wall ∈ es ∧
    Since (fun e => ∀ now wall, e ≠ .wallRead n now wall) (fun e => ∃ now < wall, e = .wallRead n now wall) es

/-- The selector had the context, and this is what came of it. -/
structure Selected (n : Nat) (context : κ) (result : Option (List UInt8) × Option SelectorFailure)
    (es : List (SelectorEvent κ)) : Prop where
  invoked : .invoked n context ∈ es
  selected : ∃ answer, .selected n answer ∈ es ∧ answer.result = result ∧ ∀ answer', .selected n answer' ∈ es → answer' = answer

structure Passed (n : Nat) (deadlineMs : Int) (es : List (SelectorEvent κ)) : Prop where
  unset : Unset n es
  inTime : BeforeDeadline n deadlineMs es
  inWall : BeforeWall n es

/-- The call has a thread, and its state was not discarded. -/
def Live (c : SelectorCall κ) : Prop := c.thread ≠ none ∧ c.state.discarded = false

def Stands (n : Nat) (es : List (SelectorEvent κ)) (c : SelectorCall κ) : CallStage → Prop
  | .entered | .firstClock | .starting _ => c.thread = none ∧ c.state.discarded = false
  | .setWall _ => Live c
  | .discarding outcome => Live c ∧ (outcome = .cancelled ∨ outcome = .deadlineExpired)
  | .readCancelled wall | .waiting wall => Live c ∧ .wallSet n wall ∈ es
  | .readClock wall => Live c ∧ .wallSet n wall ∈ es ∧ Unset n es
  | .readWall wall => Live c ∧ .wallSet n wall ∈ es ∧ Unset n es ∧ BeforeDeadline n c.deadlineMs es
  | .readDone wall => Live c ∧ .wallSet n wall ∈ es ∧ Passed n c.deadlineMs es
  | .joining => Live c ∧ Passed n c.deadlineMs es
  | .clearing | .readOutcome => Live c ∧ c.thread = some .exited ∧ Passed n c.deadlineMs es
  | .answering (.ok (.completed payload)) => Selected n c.context (some payload, none) es ∧ Passed n c.deadlineMs es
  | .answering (.ok .busy) => .refused n ∈ es
  | .answering _ | .ended => True

/-- The state of a call agrees with where its worker stands. -/
def Worked (n : Nat) (es : List (SelectorEvent κ)) (c : SelectorCall κ) : Option SelectorWorker → Prop
  | none | some .started => ∀ answer, .selected n answer ∉ es
  | some .selecting => .invoked n c.context ∈ es ∧ ∀ answer, .selected n answer ∉ es
  | some (.selected result) => Selected n c.context result es
  | some .finished | some .signalled | some .exited =>
    c.state.discarded = false → Selected n c.context (c.state.payload, c.state.failureKind) es

structure Known (n : Nat) (es : List (SelectorEvent κ)) (c : SelectorCall κ) : Prop where
  called : .called n c.context c.deadlineMs ∈ es
  worked : Worked n es c c.thread
  stands : Stands n es c c.stage
  ended : ∀ result, .ended n result ∈ es → c.stage = .ended

-- Events that do not matter

theorem Selected.cons {result : Option (List UInt8) × Option SelectorFailure} (he : ∀ answer, e ≠ .selected n answer)
    (h : Selected n context result es) : Selected n context result (e :: es) := by
  obtain ⟨hi, answer, ha, hr, hu⟩ := h
  refine ⟨List.mem_cons_of_mem _ hi, answer, List.mem_cons_of_mem _ ha, hr, fun answer' ho => ?_⟩
  obtain rfl | ho := List.mem_cons.mp ho
  · exact absurd rfl (he answer')
  · exact hu answer' ho

theorem Worked.cons {w : Option SelectorWorker} (he : ∀ answer, e ≠ .selected n answer) (h : Worked n es c w) :
    Worked n (e :: es) c w := by
  have hnot (hs : ∀ answer, .selected n answer ∉ es) (answer : SelectorAnswer) : .selected n answer ∉ e :: es := by
    simpa [hs answer] using (he answer).symm
  rcases w with _ | w
  · exact hnot h
  · cases w with
    | started => exact hnot h
    | selecting => exact ⟨List.mem_cons_of_mem _ h.1, hnot h.2⟩
    | selected result => exact Selected.cons he h
    | finished | signalled | exited => exact fun hd => (h hd).cons he

def about : SelectorEvent κ → Option Nat
  | .nothing | .busyRead _ => none
  | .called n _ _ | .cancellationRead n _ | .clockRead n _ | .wallSet n _ | .wallRead n _ _ | .started n | .refused n
  | .notStarted n | .invoked n _ | .selected n _ | .ended n _ => some n

theorem Unset.cons (he : ∀ answer, e ≠ .cancellationRead n answer) (h : Unset n es) : Unset n (e :: es) := .inr ⟨he, h⟩

theorem BeforeDeadline.cons {deadlineMs : Int} (he : ∀ now, e ≠ .clockRead n now) (h : BeforeDeadline n deadlineMs es) :
    BeforeDeadline n deadlineMs (e :: es) := .inr ⟨he, h⟩

theorem BeforeWall.cons (he : ∀ now wall, e ≠ .wallRead n now wall) (h : BeforeWall n es) : BeforeWall n (e :: es) :=
  h.imp fun _ h => ⟨List.mem_cons_of_mem _ h.1, .inr ⟨he, h.2⟩⟩

theorem Passed.cons {deadlineMs : Int} (hc : ∀ answer, e ≠ .cancellationRead n answer) (hn : ∀ now, e ≠ .clockRead n now)
    (hw : ∀ now wall, e ≠ .wallRead n now wall) (h : Passed n deadlineMs es) : Passed n deadlineMs (e :: es) :=
  ⟨h.unset.cons hc, h.inTime.cons hn, h.inWall.cons hw⟩

theorem Stands.cons {stage : CallStage} (hc : ∀ answer, e ≠ .cancellationRead n answer) (hn : ∀ now, e ≠ .clockRead n now)
    (hw : ∀ now wall, e ≠ .wallRead n now wall)
    (hs : ∀ result, Selected n c.context result es → Selected n c.context result (e :: es)) (h : Stands n es c stage) :
    Stands n (e :: es) c stage := by
  cases stage with
  | entered | firstClock | starting | setWall | discarding | ended => exact h
  | readCancelled | waiting => exact ⟨h.1, List.mem_cons_of_mem _ h.2⟩
  | readClock => exact ⟨h.1, List.mem_cons_of_mem _ h.2.1, h.2.2.cons hc⟩
  | readWall => exact ⟨h.1, List.mem_cons_of_mem _ h.2.1, h.2.2.1.cons hc, h.2.2.2.cons hn⟩
  | readDone => exact ⟨h.1, List.mem_cons_of_mem _ h.2.1, h.2.2.cons hc hn hw⟩
  | joining => exact ⟨h.1, h.2.cons hc hn hw⟩
  | clearing | readOutcome => exact ⟨h.1, h.2.1, h.2.2.cons hc hn hw⟩
  | answering result =>
    rcases result with _ | outcome
    · trivial
    · cases outcome with
      | completed => exact ⟨hs _ h.1, h.2.cons hc hn hw⟩
      | busy => exact List.mem_cons_of_mem _ h
      | _ => trivial

theorem Known.cons (he : about e ≠ some n) (h : Known n es c) : Known n (e :: es) c where
  called := List.mem_cons_of_mem _ h.called
  worked := h.worked.cons (by rintro _ rfl; exact he rfl)
  stands := h.stands.cons (by rintro _ rfl; exact he rfl) (by rintro _ rfl; exact he rfl) (by rintro _ _ rfl; exact he rfl)
    fun _ => Selected.cons (by rintro _ rfl; exact he rfl)
  ended result hm := by
    obtain rfl | hm := List.mem_cons.mp hm
    · exact absurd rfl he
    · exact h.ended result hm

-- The steps of a call

theorem Known.moved {stage : CallStage} (h : Known n es c) (hne : c.stage ≠ .ended) (he : ∀ answer, e ≠ .selected n answer)
    (hend : ∀ result, e = .ended n result → stage = .ended) (hs : Stands n (e :: es) (c.at_ stage) stage) :
    Known n (e :: es) (c.at_ stage) where
  called := List.mem_cons_of_mem _ h.called
  worked := h.worked.cons he
  stands := hs
  ended result hm := by
    obtain rfl | hm := List.mem_cons.mp hm
    · exact hend result rfl
    · exact absurd (h.ended result hm) hne

theorem Known.caller {s : SingleFlightSelector κ} (h : Known n es c) (access : CallerStep) :
    Known n ((s.callerStep n c c.stage access).1 :: es) (s.callerStep n c c.stage access).2.1 := by
  have hst := h.stands
  generalize hstage : c.stage = stage at hst ⊢
  have move {e : SelectorEvent κ} {stage' : CallStage} (hne : stage ≠ .ended) (he : ∀ answer, e ≠ .selected n answer)
      (hend : ∀ result, e = .ended n result → stage' = .ended) (hs : Stands n (e :: es) (c.at_ stage') stage') :
      Known n (e :: es) (c.at_ stage') := h.moved (hstage ▸ hne) he hend hs
  unfold callerStep
  split
  next answer =>
    rcases answer with _ | _ | _
    · exact move (by simp) (by simp) (by simp) trivial
    · exact move (by simp) (by simp) (by simp) hst
    · exact move (by simp) (by simp) (by simp) trivial
  next answer =>
    cases hnow : nowMs answer with
    | error e => exact move (by simp) (by simp) (by simp) trivial
    | ok now =>
      dsimp only
      split
      · exact move (by simp) (by simp) (by simp) trivial
      · exact move (by simp) (by simp) (by simp) hst
  next startedAtMs startable =>
    split
    · exact move (by simp) (by simp) (by simp) List.mem_cons_self
    · split
      · refine ⟨List.mem_cons_of_mem _ h.called, ?_, ⟨by simp, hst.2⟩, fun result hm => ?_⟩
        · have hw := h.worked
          rw [hst.1] at hw
          exact fun answer => by simpa using hw answer
        · have := h.ended result (by simpa using hm)
          rw [hstage] at this
          cases this
      · exact move (by simp) (by simp) (by simp) trivial
  next startedAtMs now => exact move (by simp) (by simp) (by simp) ⟨hst, List.mem_cons_self⟩
  next wall answer =>
    rcases answer with _ | _ | _
    · exact move (by simp) (by simp) (by simp) trivial
    · exact move (by simp) (by simp) (by simp) ⟨hst.1, List.mem_cons_of_mem _ hst.2, .inl rfl⟩
    · exact move (by simp) (by simp) (by simp) ⟨hst.1, .inl rfl⟩
  next wall answer =>
    obtain ⟨hlive, hwall, hunset⟩ := hst
    cases hnow : nowMs answer with
    | error e => exact move (by simp) (by simp) (by simp) trivial
    | ok now =>
      dsimp only
      split
      · exact move (by simp) (by simp) (by simp) ⟨hlive, .inr rfl⟩
      next hlt =>
        exact move (by simp) (by simp) (by simp)
          ⟨hlive, List.mem_cons_of_mem _ hwall, hunset.cons (by simp), .inl ⟨now, not_le.mp hlt, rfl⟩⟩
  next wall now =>
    obtain ⟨hlive, hwall, hunset, htime⟩ := hst
    split
    · exact move (by simp) (by simp) (by simp) ⟨hlive, .inr rfl⟩
    next hlt =>
      exact move (by simp) (by simp) (by simp) ⟨hlive, List.mem_cons_of_mem _ hwall, hunset.cons (by simp), htime.cons (by simp),
        wall, List.mem_cons_of_mem _ hwall, .inl ⟨now, not_le.mp hlt, rfl⟩⟩
  next outcome =>
    -- a discarded state holds nothing
    refine ⟨List.mem_cons_of_mem _ h.called, ?_, ?_, fun result hm => ?_⟩
    · have hw := h.worked.cons (e := .nothing) (by simp)
      show Worked n (.nothing :: es) _ c.thread
      rcases hc : c.thread with _ | w <;> rw [hc] at hw
      · exact hw
      · cases w with
        | finished | signalled | exited => exact fun hd => nomatch hd
        | _ => exact hw
    · obtain rfl | rfl := hst.2 <;> trivial
    · have := h.ended result (by simpa using hm)
      rw [hstage] at this
      cases this
  next wall =>
    obtain ⟨hlive, hwall, hp⟩ := hst
    split
    · exact move (by simp) (by simp) (by simp) ⟨hlive, hp.cons (by simp) (by simp) (by simp)⟩
    · exact move (by simp) (by simp) (by simp) ⟨hlive, List.mem_cons_of_mem _ hwall⟩
  next wall => exact move (by simp) (by simp) (by simp) ⟨hst.1, List.mem_cons_of_mem _ hst.2⟩
  next =>
    obtain ⟨hlive, hp⟩ := hst
    split
    · exact h.cons (by simp [about])
    next hdead =>
      refine move (by simp) (by simp) (by simp) ⟨hlive, ?_, hp.cons (by simp) (by simp) (by simp)⟩
      have hthread := hlive.1
      show c.thread = some .exited
      unfold SelectorCall.isAlive at hdead
      split at hdead <;> simp_all
  next =>
    exact move (by simp) (by simp) (by simp) ⟨hst.1, hst.2.1, hst.2.2.cons (by simp) (by simp) (by simp)⟩
  next =>
    obtain ⟨hlive, hexited, hp⟩ := hst
    refine move (by simp) (by simp) (by simp) ?_
    have hw := h.worked
    rw [hexited] at hw
    have hsel := hw hlive.2
    unfold SelectorCallState.outcome
    rw [if_neg (by simp [hlive.2])]
    split
    · trivial
    · trivial
    next payload hk hpay =>
      rw [hk, hpay] at hsel
      exact ⟨hsel.cons (by simp), hp.cons (by simp) (by simp) (by simp)⟩
  next result => exact move (by simp) (by simp) (by simp) trivial
  next => exact h.cons (by simp [about])

theorem Stands.work {c' : SelectorCall κ} {stage : CallStage} (hc : c.thread ≠ none) (hx : c.thread ≠ some .exited)
    (hc' : c'.thread ≠ none) (hd : c'.state.discarded = c.state.discarded) (hctx : c'.context = c.context)
    (hdl : c'.deadlineMs = c.deadlineMs) (h : Stands n es c stage) : Stands n es c' stage := by
  have hlive (h : Live c) : Live c' := ⟨hc', hd.trans h.2⟩
  cases stage with
  | entered | firstClock | starting => exact absurd h.1 hc
  | setWall => exact hlive h
  | discarding | readCancelled | waiting | readClock => exact ⟨hlive h.1, h.2⟩
  | readWall | readDone | joining => exact ⟨hlive h.1, hdl ▸ h.2⟩
  | clearing | readOutcome => exact absurd h.2.1 hx
  | answering result =>
    rcases result with _ | outcome
    · trivial
    · cases outcome with
      | completed => exact ⟨hctx ▸ h.1, hdl ▸ h.2⟩
      | busy => exact h
      | _ => trivial
  | ended => trivial

theorem Known.worker (h : Known n es c) (access : WorkerStep) :
    Known n ((workerStep n c c.thread access).1 :: es) (workerStep n c c.thread access).2 := by
  have hw := h.worked
  generalize hthread : c.thread = thread at hw ⊢
  have move {e : SelectorEvent κ} {c' : SelectorCall κ} (hc : ∀ answer, e ≠ .cancellationRead n answer)
      (hn : ∀ now, e ≠ .clockRead n now) (hwall : ∀ now wall, e ≠ .wallRead n now wall) (hend : ∀ result, e ≠ .ended n result)
      (hs : ∀ result, Selected n c.context result es → Selected n c.context result (e :: es)) (hx : thread ≠ some .exited)
      (hne : thread ≠ none) (hc' : c'.thread ≠ none) (hd : c'.state.discarded = c.state.discarded) (hctx : c'.context = c.context)
      (hdl : c'.deadlineMs = c.deadlineMs) (hst : c'.stage = c.stage) (hw' : Worked n (e :: es) c' c'.thread) :
      Known n (e :: es) c' := by
    refine ⟨hctx ▸ hdl ▸ List.mem_cons_of_mem _ h.called, hw', ?_, fun result hm => ?_⟩
    · rw [hst]
      exact (h.stands.cons hc hn hwall hs).work (hthread ▸ hne) (hthread ▸ hx) hc' hd hctx hdl
    · obtain rfl | hm := List.mem_cons.mp hm
      · exact absurd rfl (hend result)
      · exact hst.trans (h.ended result hm)
  unfold workerStep
  split
  next =>
    exact move (by simp) (by simp) (by simp) (by simp) (fun _ => Selected.cons (by simp)) (by simp) (by simp) (by simp) rfl rfl rfl rfl
      ⟨List.mem_cons_self, fun answer => by simpa using hw answer⟩
  next answer =>
    refine move (by simp) (by simp) (by simp) (by simp) (fun result hs => ?_) (by simp) (by simp) (by simp) rfl rfl rfl rfl ?_
    · obtain ⟨answer', ha, -⟩ := hs.selected
      exact absurd ha (hw.2 answer')
    · refine ⟨List.mem_cons_of_mem _ hw.1, answer, List.mem_cons_self, rfl, fun answer' ha => ?_⟩
      simpa [hw.2 answer'] using ha
  next result =>
    have hs : Selected n c.context result (.nothing :: es) := Selected.cons (by simp) hw
    refine move (by simp) (by simp) (by simp) (by simp) (fun _ => Selected.cons (by simp)) (by simp) (by simp) (by simp) ?_ rfl rfl rfl ?_
    · simp only [SelectorCallState.finish]
      split <;> rfl
    · intro hd
      have hnot : ¬ c.state.discarded = true := by
        intro h
        simp [SelectorCallState.finish, h] at hd
      simpa [SelectorCallState.finish, hnot] using hs
  next =>
    exact move (by simp) (by simp) (by simp) (by simp) (fun _ => Selected.cons (by simp)) (by simp) (by simp) (by simp) rfl rfl rfl rfl
      fun hd => (hw hd).cons (by simp)
  next =>
    exact move (by simp) (by simp) (by simp) (by simp) (fun _ => Selected.cons (by simp)) (by simp) (by simp) (by simp) rfl rfl rfl rfl
      fun hd => (hw hd).cons (by simp)
  next => exact h.cons (by simp [about])

-- The active call

variable {s : SingleFlightSelector κ} {h : List (SelectorInput κ × SelectorEvent κ)}

theorem isAlive_iff : c.isAlive = true ↔ c.thread ≠ none ∧ c.thread ≠ some .exited := by
  obtain ⟨_, _, _, _, _ | w⟩ := c
  · simp [SelectorCall.isAlive]
  · cases w <;> simp [SelectorCall.isAlive]

theorem callerStep_active (hk : Known n es c) (access : CallerStep) :
    ((s.callerStep n c c.stage access).2.2 = s.active ∧ (s.callerStep n c c.stage access).2.1.thread = c.thread) ∨
      (s.activeAlive = false ∧ (s.callerStep n c c.stage access).2.2 = some n) ∨
      (s.activeAlive = false ∧ (s.callerStep n c c.stage access).2.1.thread = c.thread) ∨
      (s.active = some n ∧ c.thread = some .exited ∧ (s.callerStep n c c.stage access).2.1.thread = c.thread) := by
  have hst := hk.stands
  generalize c.stage = stage at hst ⊢
  unfold callerStep
  split
  next answer => rcases answer with _ | _ | _ <;> exact .inl ⟨rfl, rfl⟩
  next answer =>
    refine .inl ⟨rfl, ?_⟩
    cases nowMs answer with
    | error => rfl
    | ok => dsimp only; split <;> rfl
  next =>
    split
    · exact .inl ⟨rfl, rfl⟩
    next hdead =>
      split
      · exact .inr (.inl ⟨by simpa using hdead, rfl⟩)
      · exact .inr (.inr (.inl ⟨by simpa using hdead, rfl⟩))
  next => exact .inl ⟨rfl, rfl⟩
  next answer => rcases answer with _ | _ | _ <;> exact .inl ⟨rfl, rfl⟩
  next answer =>
    refine .inl ⟨rfl, ?_⟩
    cases nowMs answer with
    | error => rfl
    | ok => dsimp only; split <;> rfl
  next => exact .inl ⟨rfl, by dsimp only; split <;> rfl⟩
  next => exact .inl ⟨rfl, rfl⟩
  next => exact .inl ⟨rfl, by dsimp only; split <;> rfl⟩
  next => exact .inl ⟨rfl, rfl⟩
  next => exact .inl ⟨rfl, by dsimp only; split <;> rfl⟩
  next =>
    dsimp only
    split
    next hactive => exact .inr (.inr (.inr ⟨hactive, hst.2.1, rfl⟩))
    next => exact .inl ⟨rfl, rfl⟩
  next => exact .inl ⟨rfl, rfl⟩
  next => exact .inl ⟨rfl, rfl⟩
  next => exact .inl ⟨rfl, rfl⟩

theorem about_callerStep (stage : CallStage) (access : CallerStep) :
    about (s.callerStep n c stage access).1 = none ∨ about (s.callerStep n c stage access).1 = some n := by
  unfold callerStep
  split
  case h_3 => split <;> [exact .inr rfl; (split <;> exact .inr rfl)]
  all_goals first | exact .inr rfl | exact .inl rfl

theorem about_workerStep (thread : Option SelectorWorker) (access : WorkerStep) :
    about (workerStep n c thread access).1 = none ∨ about (workerStep n c thread access).1 = some n := by
  unfold workerStep
  split <;> first | exact .inr rfl | exact .inl rfl

theorem workerStep_alive (access : WorkerStep) (h : (workerStep n c c.thread access).2.isAlive = true) : c.isAlive = true := by
  rw [isAlive_iff]
  generalize hthread : c.thread = thread at h ⊢
  unfold workerStep at h
  split at h <;> simp_all [isAlive_iff]

-- The invariant

abbrev events (h : List (SelectorInput κ × SelectorEvent κ)) : List (SelectorEvent κ) := h.map Prod.snd

structure Flight (h : List (SelectorInput κ × SelectorEvent κ)) (s : SingleFlightSelector κ) : Prop where
  known : ∀ n c, s.calls[n]? = some c → Known n (events h) c
  active : ∀ n c, s.calls[n]? = some c → c.isAlive = true → s.active = some n
  bound : ∀ e ∈ events h, ∀ n, about e = some n → n < s.calls.length

theorem Flight.init : Flight ([] : List (SelectorInput κ × SelectorEvent κ)) {} :=
  ⟨fun _ _ h => by simp at h, fun _ _ h => by simp at h, fun _ h => by simp at h⟩

theorem Flight.alive (hf : Flight h s) (hc : s.calls[n]? = some c) (ha : c.isAlive = true) : s.activeAlive = true := by
  simp [activeAlive, hf.active n c hc ha, hc, ha]

theorem Flight.put (hf : Flight h s) {i : SelectorInput κ} {c' : SelectorCall κ} {active : Option Nat} (hc : s.calls[n]? = some c)
    (hk : Known n (e :: events h) c') (ha : about e = none ∨ about e = some n) (hn : c'.isAlive = true → active = some n)
    (hm : ∀ m d, m ≠ n → s.calls[m]? = some d → d.isAlive = true → active = some m) : Flight ((i, e) :: h) (s.put n c' active) := by
  have hlt : n < s.calls.length := (List.getElem?_eq_some_iff.mp hc).1
  have hget {m : Nat} {d : SelectorCall κ} (hd : (s.calls.set n c')[m]? = some d) : (m = n ∧ d = c') ∨ (m ≠ n ∧ s.calls[m]? = some d) := by
    rw [List.getElem?_set] at hd
    split at hd
    next he =>
      exact .inl ⟨he.symm, (Option.some.inj hd).symm⟩
    next hne => exact .inr ⟨Ne.symm hne, hd⟩
  refine ⟨fun m d hd => ?_, fun m d hd hda => ?_, fun e' he' m hm' => ?_⟩
  · obtain ⟨rfl, rfl⟩ | ⟨hne, hd⟩ := hget hd
    · exact hk
    · refine (hf.known m d hd).cons ?_
      obtain ha | ha := ha <;> rw [ha]
      · simp
      · simpa using Ne.symm hne
  · obtain ⟨rfl, rfl⟩ | ⟨hne, hd⟩ := hget hd
    · exact hn hda
    · exact hm m d hne hd hda
  · show m < (s.calls.set n c').length
    rw [List.length_set]
    obtain rfl | he' := List.mem_cons.mp he'
    · obtain ha | ha := ha <;> rw [ha] at hm'
      · cases hm'
      · exact Option.some.inj hm' ▸ hlt
    · exact hf.bound e' he' m hm'

theorem Flight.aside (hf : Flight h s) {i : SelectorInput κ} {active : Option Nat} (ha : about e = none)
    (hm : ∀ m d, s.calls[m]? = some d → d.isAlive = true → active = some m) : Flight ((i, e) :: h) { s with active } := by
  refine ⟨fun m d hd => (hf.known m d hd).cons (by simp [ha]), hm, fun e' he' m hm' => ?_⟩
  obtain rfl | he' := List.mem_cons.mp he'
  · simp [ha] at hm'
  · exact hf.bound e' he' m hm'

theorem Flight.step (hf : Flight h s) (i : SelectorInput κ) : Flight ((i, (s.step i).1) :: h) (s.step i).2 := by
  cases i with
  | call context deadlineMs hasIsSet =>
    have hnew (e : SelectorEvent κ) (he : about e = some s.calls.length) : e ∉ events h := fun hm =>
      Nat.lt_irrefl _ (hf.bound e hm _ he)
    have hget {m : Nat} {d c : SelectorCall κ} (hd : (s.calls ++ [c])[m]? = some d) :
        s.calls[m]? = some d ∨ (m = s.calls.length ∧ d = c) := by
      rw [List.getElem?_append] at hd
      split at hd
      · exact .inl hd
      · obtain ⟨hlt, rfl⟩ := List.getElem?_eq_some_iff.mp hd
        simp only [List.length_singleton, Nat.lt_one_iff] at hlt
        exact .inr ⟨by omega, by simp [hlt]⟩
    refine ⟨fun m d hd => ?_, fun m d hd hda => ?_, fun e he m hm => ?_⟩
    · obtain hd | ⟨rfl, rfl⟩ := hget hd
      · have hlt := (List.getElem?_eq_some_iff.mp hd).1
        refine (hf.known m d hd).cons ?_
        simpa [SingleFlightSelector.step, about] using Nat.ne_of_gt hlt
      · refine ⟨List.mem_cons_self, fun answer => ?_, ?_, fun result hm => ?_⟩
        · simpa [SingleFlightSelector.step] using hnew (.selected s.calls.length answer) rfl
        · show Stands _ _ _ (enter deadlineMs hasIsSet)
          unfold enter
          split
          · trivial
          · split
            · exact ⟨rfl, rfl⟩
            · trivial
        · have : .ended s.calls.length result ∈ events h := by simpa [SingleFlightSelector.step] using hm
          exact absurd this (hnew _ rfl)
    · obtain hd | ⟨rfl, rfl⟩ := hget hd
      · exact hf.active m d hd hda
      · simp [SelectorCall.isAlive] at hda
    · show m < (s.calls ++ [_]).length
      rw [List.length_append, List.length_singleton]
      obtain rfl | he := List.mem_cons.mp he
      · cases hm
        exact Nat.lt_succ_self _
      · exact Nat.lt_succ_of_lt (hf.bound e he m hm)
  | caller n access =>
    simp only [SingleFlightSelector.step]
    split
    next => exact hf.aside rfl hf.active
    next c hc =>
      have hk := hf.known n c hc
      refine hf.put hc (hk.caller access) (about_callerStep c.stage access) (fun ha => ?_) fun m d hne hd ha => ?_
      · obtain ⟨hact, hth⟩ | ⟨-, hact⟩ | ⟨hdead, hth⟩ | ⟨-, hexit, hth⟩ := @callerStep_active _ n _ c s hk access
        · exact hact.trans (hf.active n c hc (isAlive_iff.mpr (hth ▸ isAlive_iff.mp ha)))
        · exact hact
        · have := hf.alive hc (isAlive_iff.mpr (hth ▸ isAlive_iff.mp ha))
          simp [hdead] at this
        · exact absurd (hth.trans hexit) (isAlive_iff.mp ha).2
      · have hactive := hf.active m d hd ha
        have halive := hf.alive hd ha
        obtain ⟨hact, -⟩ | ⟨hdead, -⟩ | ⟨hdead, -⟩ | ⟨hact, -⟩ := @callerStep_active _ n _ c s hk access
        · exact hact.trans hactive
        · simp [hdead] at halive
        · simp [hdead] at halive
        · exact absurd (Option.some.inj (hactive.symm.trans hact)) hne
  | worker n access =>
    simp only [SingleFlightSelector.step]
    split
    next => exact hf.aside rfl hf.active
    next c hc =>
      exact hf.put hc ((hf.known n c hc).worker access) (about_workerStep c.thread access)
        (fun ha => hf.active n c hc (workerStep_alive access ha)) fun m d _ hd ha => hf.active m d hd ha
  | busy =>
    simp only [SingleFlightSelector.step]
    split
    next => exact hf.aside rfl hf.active
    next hdead => exact hf.aside rfl fun m d hd ha => absurd (hf.alive hd ha) hdead

theorem flight_of_run (hr : (singleFlight κ).Runs Machine.always {} h s) : Flight h s :=
  hr.historyInvariant .init fun _ _ i hf _ => hf.step i

-- All runs

def endings (es : List (SelectorEvent κ)) : List Nat :=
  es.filterMap fun e => match e with
    | .ended n _ => some n
    | _ => none

theorem mem_endings : n ∈ endings es ↔ ∃ result, .ended n result ∈ es := by
  simp only [endings, List.mem_filterMap]
  constructor
  · rintro ⟨e, hm, he⟩
    split at he
    next m result =>
      cases he
      exact ⟨result, hm⟩
    next => cases he
  · rintro ⟨result, hm⟩
    exact ⟨_, hm, rfl⟩

theorem step_ended {i : SelectorInput κ} {result : CallResult} (h : (s.step i).1 = .ended n result) :
    ∃ c, s.calls[n]? = some c ∧ c.stage = .answering result := by
  cases i with
  | call | busy => simp [SingleFlightSelector.step] at h
  | caller m access =>
    simp only [SingleFlightSelector.step] at h
    split at h
    next => cases h
    next c hc =>
      simp only at h
      generalize hstage : c.stage = stage at h
      unfold callerStep at h
      split at h
      case h_3 => split at h <;> [cases h; (split at h <;> cases h)]
      case h_14 =>
        cases h
        exact ⟨c, hc, hstage⟩
      all_goals cases h
  | worker m access =>
    simp only [SingleFlightSelector.step] at h
    split at h
    next => cases h
    next c hc =>
      simp only at h
      unfold workerStep at h
      split at h <;> cases h

theorem step_refused {i : SelectorInput κ} (h : (s.step i).1 = .refused n) : s.activeAlive = true := by
  cases i with
  | call | busy => simp [SingleFlightSelector.step] at h
  | caller m access =>
    simp only [SingleFlightSelector.step] at h
    split at h
    next => cases h
    next c hc =>
      simp only at h
      unfold callerStep at h
      split at h
      case h_3 =>
        split at h
        next halive => exact halive
        next => split at h <;> cases h
      all_goals cases h
  | worker m access =>
    simp only [SingleFlightSelector.step] at h
    split at h
    next => cases h
    next c hc =>
      simp only at h
      unfold workerStep at h
      split at h <;> cases h

structure Completed (n : Nat) (payload : List UInt8) (es : List (SelectorEvent κ)) : Prop where
  /-- The selector had the context of this call, once, and returned the bytes. -/
  own : ∃ context deadlineMs, .called n context deadlineMs ∈ es ∧ .invoked n context ∈ es ∧ BeforeDeadline n deadlineMs es
  returned : .selected n (.bytes payload) ∈ es
  once : ∀ answer, .selected n answer ∈ es → answer = .bytes payload
  unset : Unset n es
  inWall : BeforeWall n es

structure FliesAlone (h : List (SelectorInput κ × SelectorEvent κ)) (s : SingleFlightSelector κ) : Prop where
  /-- One invocation at a time. -/
  single : ∀ (n m : Nat) (c d : SelectorCall κ), s.calls[n]? = some c → s.calls[m]? = some d → c.thread = some .selecting → d.thread = some .selecting → n = m
  completed : ∀ newer older i n payload, h = newer ++ (i, .ended n (.ok (.completed payload))) :: older →
    Completed n payload (events older)
  /-- A call ends once, and what it left behind is in no later outcome. -/
  once : (endings (events h)).Nodup
  late : ∀ newer older i n result, h = newer ++ (i, .ended n result) :: older →
    ∀ i' m payload, (i', .ended m (.ok (.completed payload))) ∈ newer → m ≠ n ∧ .selected m (.bytes payload) ∈ events h
  /-- A call is busy only if it found a worker alive when it was to start its own. -/
  busy : ∀ newer older i n, h = newer ++ (i, .ended n (.ok .busy)) :: older →
    ∃ (newer' : List _) (i' : SelectorInput κ) (older' : List _) (s' : SingleFlightSelector κ) (m : Nat) (d : SelectorCall κ), older = newer' ++ (i', .refused n) :: older' ∧ (singleFlight κ).Runs Machine.always {} older' s' ∧
      s'.calls[m]? = some d ∧ d.isAlive = true

theorem flies_alone (hr : (singleFlight κ).Runs Machine.always {} h s) : FliesAlone h s := by
  have hf := flight_of_run hr
  have hcompleted : ∀ newer older i n payload, h = newer ++ (i, .ended n (.ok (.completed payload))) :: older →
      Completed n payload (events older) := by
    rintro newer older i n payload rfl
    obtain ⟨s₁, hr₁, -⟩ := hr.split
    obtain ⟨s₀, hr₀, -, hstep⟩ := hr₁.newest
    obtain ⟨c, hc, hstage⟩ := step_ended (congrArg Prod.fst hstep)
    have hk := (flight_of_run hr₀).known n c hc
    have hst := hk.stands
    rw [hstage] at hst
    obtain ⟨⟨hinvoked, answer, hanswer, hresult, honly⟩, hp⟩ := hst
    cases answer with
    | bytes => cases hresult; exact ⟨⟨_, _, hk.called, hinvoked, hp.inTime⟩, hanswer, honly, hp.unset, hp.inWall⟩
    | other | raised => cases hresult
  have honce : (endings (events h)).Nodup := by
    clear hcompleted hf
    induction hr with
    | nil => exact .nil
    | @cons h s i hr _ ih =>
      cases he : ((singleFlight κ).step s i).1 with
      | ended n result =>
        obtain ⟨c, hc, hstage⟩ := step_ended he
        refine List.nodup_cons.mpr ⟨fun hm => ?_, ih⟩
        obtain ⟨result', hm⟩ := mem_endings.mp hm
        simp [((flight_of_run hr).known n c hc).ended result' hm] at hstage
      | _ => exact ih
  refine ⟨fun n m c d hc hd hcs hds => ?_, hcompleted, honce, ?_, ?_⟩
  · have hn := hf.active n c hc (by simp [isAlive_iff, hcs])
    have hm := hf.active m d hd (by simp [isAlive_iff, hds])
    exact Option.some.inj (hn.symm.trans hm)
  · rintro newer older i n result rfl i' m payload hm
    obtain ⟨a, b, rfl⟩ := List.append_of_mem hm
    have hback := (hcompleted a _ i' m payload (List.append_assoc _ _ _)).returned
    refine ⟨?_, by simp [events] at hback ⊢; tauto⟩
    rintro rfl
    have hsplit : endings (events ((a ++ (i', .ended m (.ok (.completed payload))) :: b) ++ (i, .ended m result) :: older)) =
        endings (events a) ++ m :: (endings (events b) ++ m :: endings (events older)) := by
      simp [endings]
    rw [hsplit] at honce
    have := (List.nodup_append.mp honce).2.1
    simp at this
  · rintro newer older i n rfl
    obtain ⟨s₁, hr₁, -⟩ := hr.split
    obtain ⟨s₀, hr₀, -, hstep⟩ := hr₁.newest
    obtain ⟨c, hc, hstage⟩ := step_ended (congrArg Prod.fst hstep)
    have hst := ((flight_of_run hr₀).known n c hc).stands
    rw [hstage] at hst
    obtain ⟨⟨i', e'⟩, hm, rfl⟩ := List.mem_map.mp hst
    obtain ⟨newer', older', rfl⟩ := List.append_of_mem hm
    obtain ⟨s₂, hr₂, -⟩ := hr₀.split
    obtain ⟨s', hr', -, hstep'⟩ := hr₂.newest
    have halive := step_refused (congrArg Prod.fst hstep')
    unfold activeAlive at halive
    split at halive
    next => cases halive
    next d hd =>
      obtain ⟨m, -, hd⟩ := Option.bind_eq_some_iff.mp hd
      exact ⟨newer', i', older', s', m, d, rfl, hr', hd, halive⟩

/-- One call gets its bytes; another comes while the worker is alive. -/
def sampleInputs : List (SelectorInput String) :=
  [.call "menu" 100 true, .caller 0 (.readCancelled (some false)), .caller 0 (.readClock (.returned (some 5))), .caller 0 (.start true),
    .call "later" 100 true, .caller 1 (.readCancelled (some false)), .caller 1 (.readClock (.returned (some 6))), .worker 0 .proceed,
    .caller 1 (.start true), .caller 0 (.readMonotonic 0), .worker 0 (.selects (.bytes [7])), .worker 0 .proceed,
    .caller 1 .proceed, .worker 0 .proceed, .caller 0 (.readCancelled (some false)), .caller 0 (.readClock (.returned (some 7))),
    .caller 0 (.readMonotonic 0), .caller 0 .proceed, .worker 0 .proceed, .caller 0 .proceed, .caller 0 .proceed, .caller 0 .proceed,
    .caller 0 .proceed]

theorem sample_flies_alone : endings (events ((singleFlight String).runList {} sampleInputs).1) = [0, 1] ∧
    FliesAlone ((singleFlight String).runList {} sampleInputs).1 ((singleFlight String).runList {} sampleInputs).2 :=
  ⟨by decide +kernel, flies_alone (Machine.runs_runList (Machine.stepsOk_always _ _ _))⟩

end SingleFlightSelector

end RobotLlm.Autonomy.Selector
