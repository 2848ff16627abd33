import RobotLlm.Ev3.Loop
import RobotLlm.Ev3.ProtocolLaws
import RobotLlm.Ev3.StopLaws

/-!
# Emergency stops are served

Between a request and the next stop the loop enters its hook at most once, and
it does not end without a stop. A completion that begins while a request waits
is told of an error, and what is published then is no success, unless it
answers a stop.
-/

namespace RobotLlm.Ev3

open RobotLlm.Lib Prog

-- Requests in the log

def flagUp : List Happening → Bool
  | [] => false
  | .requested _ :: _ => true
  | .taken :: _ | .loopCreated :: _ => false
  | _ :: log => flagUp log

/-- How often the hook was entered since the oldest request that waits for a
stop, while the owner has its lock. -/
def owed : List Happening → Option Nat
  | [] => none
  | .requested _ :: log => if .released ∈ log then none else some ((owed log).getD 0)
  | .stopBegun :: _ | .released :: _ | .loopCreated :: _ => none
  | .dispatched :: log => (owed log).map (· + 1)
  | _ :: log => owed log

def flagUpAtCompletion : List Happening → Bool
  | [] => false
  | .completing :: log => flagUp log
  | _ :: log => flagUpAtCompletion log

/-- At every moment: at most one dispatch is between a request and its stop,
and no completion was told of no error while a request waited. -/
structure Books (log : List Happening) : Prop where
  dispatches : ∀ older, older <:+ log → ∀ k ∈ owed older, k ≤ 1
  told : ∀ older, .completed none :: older <:+ log → flagUpAtCompletion older = false

def Watched (log : List Happening) : Prop := flagUp log = false → owed log = none

/-- Nothing was dispatched since a request that still waits. -/
structure Calm (log : List Happening) : Prop where
  watched : Watched log
  fresh : ∀ k ∈ owed log, k = 0

section
variable {log newer : List Happening} {e : Happening}

theorem owed_of_released (h : .released ∈ log) : owed log = none := by
  induction log with
  | nil => simp at h
  | cons e log ih => cases e <;> simp_all [owed]

theorem Calm.of_owed (h : owed log = none) : Calm log := ⟨fun _ => h, by simp [h]⟩

theorem Calm.cons_own (hc : Calm log) (he : e.Own) : Calm (e :: log) := by
  cases e with
  | requested bound =>
    refine ⟨by simp [Watched, flagUp], fun k hk => ?_⟩
    cases ho : owed log with
    | none => simp_all [owed]
    | some k' => simp_all [owed, hc.fresh k' ho]
  | stopBegun => exact .of_owed rfl
  | released => exact .of_owed rfl
  | wrote path file value => exact ⟨hc.watched, hc.fresh⟩
  | stopEnded record => exact ⟨hc.watched, hc.fresh⟩
  | _ => exact he.elim

theorem Watched.cons_own (hw : Watched log) (he : e.Own) : Watched (e :: log) := by
  cases e with
  | requested bound => simp [Watched, flagUp]
  | stopBegun => exact fun _ => rfl
  | released => exact fun _ => rfl
  | wrote path file value => exact hw
  | stopEnded record => exact hw
  | _ => exact he.elim

theorem Books.cons (hb : Books log) (hd : ∀ k ∈ owed (e :: log), k ≤ 1)
    (ht : e = .completed none → flagUpAtCompletion log = false) : Books (e :: log) where
  dispatches older ho := by
    rcases List.suffix_cons_iff.mp ho with rfl | ho
    · exact hd
    · exact hb.dispatches older ho
  told older ho := by
    rcases List.suffix_cons_iff.mp ho with h | ho
    · obtain ⟨rfl, rfl⟩ := List.cons.inj h
      exact ht rfl
    · exact hb.told older ho

theorem Books.cons_same (hb : Books log) (ho : owed (e :: log) = owed log) (he : e ≠ .completed none) : Books (e :: log) :=
  hb.cons (by rw [ho]; exact hb.dispatches log List.suffix_rfl) fun h => absurd h he

theorem Books.cons_own (hb : Books log) (he : e.Own) : Books (e :: log) := by
  have hlog := hb.dispatches log List.suffix_rfl
  refine hb.cons ?_ (by rintro rfl; exact he.elim)
  cases e with
  | requested bound =>
    intro k hk
    cases ho : owed log with
    | none =>
      simp [owed, ho] at hk
      omega
    | some k' =>
      have h := hlog k' ho
      simp_all [owed]
  | stopBegun => simp [owed]
  | released => simp [owed]
  | wrote path file value => exact hlog
  | stopEnded record => exact hlog
  | _ => exact he.elim

theorem flagUp_own (hn : ∀ e ∈ newer, e.Own) (log : List Happening) :
    flagUp (newer ++ log) = (newer.any Happening.isRequest || flagUp log) := by
  induction newer with
  | nil => rfl
  | cons e newer ih =>
    have he := hn e List.mem_cons_self
    have ih := ih fun e he => hn e (List.mem_cons_of_mem _ he)
    cases e <;> simp_all [flagUp, Happening.isRequest, Happening.Own]

theorem flagUpAtCompletion_own (hn : ∀ e ∈ newer, e.Own) (log : List Happening) :
    flagUpAtCompletion (newer ++ log) = flagUpAtCompletion log := by
  induction newer with
  | nil => rfl
  | cons e newer ih =>
    have he := hn e List.mem_cons_self
    have ih := ih fun e he => hn e (List.mem_cons_of_mem _ he)
    cases e <;> simp_all [flagUpAtCompletion, Happening.Own]

theorem append_own {P : List Happening → Prop} (hP : ∀ {log e}, P log → e.Own → P (e :: log)) (h : P log)
    (hn : ∀ e ∈ newer, e.Own) : P (newer ++ log) := by
  induction newer with
  | nil => exact h
  | cons e newer ih =>
    exact hP (ih fun e he => hn e (List.mem_cons_of_mem _ he)) (hn e List.mem_cons_self)

end

-- The states of the loop

namespace EV3SupervisorLoop

variable {ω : Type} {c : SupervisorConfig} {l l' : EV3SupervisorLoop ω}

def log (l : EV3SupervisorLoop ω) : List Happening := l.supervisor.owner.hw.log

structure Orderly (l : EV3SupervisorLoop ω) : Prop where
  thread : l.supervisor.OnDispatchThread
  shut : l.supervisor.Shut → .released ∈ l.log
  flag : l.supervisor.owner.hw.emergencyStopRequested = flagUp l.log
  books : Books l.log

/-- A request that waits is known; one dispatch may have come after it. -/
structure Attentive (l : EV3SupervisorLoop ω) : Prop extends Orderly l where
  watched : Watched l.log

/-- Nothing was dispatched since a request that waits. -/
structure Served (l : EV3SupervisorLoop ω) : Prop extends Orderly l where
  calm : Calm l.log

theorem Served.attentive (h : l.Served) : l.Attentive := ⟨h.toOrderly, h.calm.watched⟩

theorem Grows.log (hg : l.Grows l') : ∃ newer, l'.log = newer ++ l.log ∧ (∀ e ∈ newer, e.Own) ∧
    l'.supervisor.owner.hw.emergencyStopRequested =
      (newer.any Happening.isRequest || l.supervisor.owner.hw.emergencyStopRequested) := by
  obtain ⟨newer, hlog, hn, hflag, -⟩ := hg.hw.log
  exact ⟨newer, hlog, hn, hflag⟩

theorem Orderly.grows (h : l.Orderly) (hg : l.Grows l') : l'.Orderly := by
  obtain ⟨newer, hlog, hn, hflag⟩ := hg.log
  refine ⟨?_, fun hs => ?_, ?_, ?_⟩
  · have ht : l.supervisor.dispatchThreadId = l.supervisor.owner.hw.thread := h.thread
    exact hg.dispatchThreadId.trans (ht.trans hg.hw.thread.symm)
  · exact (hg.shut hs).elim (fun hs => hg.hw.mem (h.shut hs)) id
  · rw [hflag, h.flag, hlog, flagUp_own hn]
  · rw [hlog]
    exact append_own Books.cons_own h.books hn

theorem Attentive.grows (h : l.Attentive) (hg : l.Grows l') : l'.Attentive := by
  refine ⟨h.toOrderly.grows hg, ?_⟩
  obtain ⟨newer, hlog, hn, -⟩ := hg.log
  rw [hlog]
  exact append_own Watched.cons_own h.watched hn

theorem Served.grows (h : l.Served) (hg : l.Grows l') : l'.Served := by
  refine ⟨h.toOrderly.grows hg, ?_⟩
  obtain ⟨newer, hlog, hn, -⟩ := hg.log
  rw [hlog]
  exact append_own Calm.cons_own h.calm hn

/-- Steps between which nothing is dispatched while a request waits. -/
def Serves (x : Loop ω α) : Prop := ∀ l, Served l → Triple x l (fun _ => Served) (fun _ => Orderly)

theorem Serves.of_grows {x : Loop ω α} (hx : Keeps Grows x) : Serves x := fun l h =>
  (hx.triple l).mono (fun _ _ hg => h.grows hg) fun _ _ hg => h.toOrderly.grows hg

theorem Serves.bind {x : Loop ω α} {f : α → Loop ω β} (hx : Serves x) (hf : ∀ a, Serves (f a)) : Serves (x >>= f) :=
  fun l h => Triple.bind (hx l h) fun a l' h' => hf a l' h'

theorem Serves.ite [Decidable p] {x y : Loop ω α} (hx : Serves x) (hy : Serves y) : Serves (if p then x else y) := by
  split <;> assumption

theorem onSupervisor_grows {x : EV3Supervisor.Sup α} (hx : Keeps EV3Supervisor.Grows x) :
    Keeps Grows (onSupervisor x : Loop ω α) := .onPart (fun _ _ h => h) hx

theorem io_grows {x : Io α} (hx : Keeps Hardware.Later x) : Keeps Grows (io x : Loop ω α) :=
  onSupervisor_grows (EV3Supervisor.Same.grows (EV3Supervisor.io_same hx))

theorem yield_grows : Keeps Grows (yield : Loop ω Unit) := io_grows (Hardware.ask_later _)

theorem modify_grows {f : EV3SupervisorLoop ω → EV3SupervisorLoop ω} (hf : ∀ l, (f l).supervisor = l.supervisor) :
    Keeps Grows (modify f : Loop ω Unit) := .modify fun l => by
  unfold Grows
  rw [hf]
  exact refl_of EV3Supervisor.Grows l.supervisor

theorem forgetProof_grows : Keeps Grows (forgetProof : Loop ω Unit) := modify_grows fun _ => rfl

theorem checkedNowMs_grows : Keeps Grows (onSupervisor EV3Supervisor.checkedNowMs : Loop ω Int) :=
  onSupervisor_grows EV3Supervisor.checkedNowMs_grows

theorem status_grows : Keeps Grows (onSupervisor (EV3Supervisor.status c) : Loop ω SupervisorStatus) :=
  onSupervisor_grows EV3Supervisor.status_grows

theorem enterFault_grows (code detail : String) : Keeps Grows (enterFault c code detail : Loop ω Unit) :=
  onSupervisor_grows EV3Supervisor.enterFault_grows

/-- The same loop, with one more happening in its log. -/
def noted (e : Happening) (l : EV3SupervisorLoop ω) : EV3SupervisorLoop ω :=
  { l with supervisor := { l.supervisor with owner := { l.supervisor.owner with
    hw := { l.supervisor.owner.hw with log := e :: l.log } } } }

theorem note_run (e : Happening) (l : EV3SupervisorLoop ω) : note e l = (.ok (), l.noted e) := rfl

theorem Orderly.noted (h : l.Orderly) {e : Happening} (hf : flagUp (e :: l.log) = flagUp l.log)
    (hb : Books (e :: l.log)) : (l.noted e).Orderly :=
  ⟨h.thread, fun hs => List.mem_cons_of_mem _ (h.shut hs), h.flag.trans hf.symm, hb⟩

-- Stops and dispatches

theorem stop_serves (h : l.Orderly) :
    Triple (onSupervisor (EV3Supervisor.stop c)) l (fun _ => Served) (fun _ => Orderly) := by
  have hgrows : Keeps Grows (onSupervisor (EV3Supervisor.stop c) : Loop ω EV3Supervisor.Reply) :=
    onSupervisor_grows EV3Supervisor.stop_grows
  by_cases hs : l.supervisor.Shut
  · refine (hgrows.triple l).mono (fun _ l' hg => ⟨h.grows hg, ?_⟩) fun _ _ hg => h.grows hg
    exact .of_owed (owed_of_released (hg.hw.mem (h.shut hs)))
  · have hbegins : Triple (onSupervisor (EV3Supervisor.stop c)) l (fun _ l' => l.supervisor.Begun l'.supervisor)
        fun _ l' => l.supervisor.Begun l'.supervisor :=
      Triple.onPart ((EV3Supervisor.stop_begins h.thread hs).mono (fun _ _ h => h) fun _ _ h => h)
    refine ((hgrows.triple l).and hbegins).mono (fun _ l' hg => ⟨h.grows hg.1, ?_⟩) fun _ _ hg => h.grows hg.1
    obtain ⟨newer, hlog, hn⟩ := hg.2
    have hlog : l'.log = newer ++ .stopBegun :: l.log := hlog
    rw [hlog]
    exact append_own Calm.cons_own (.of_owed rfl) hn

theorem performTaken_run (h : l.Orderly) (requestBound : Bool) :
    Triple (performTaken c requestBound) l (fun outcome l' => l'.Served ∧ outcome ≠ none) (fun _ => Orderly) := by
  refine Triple.frame_bind checkedNowMs_grows (fun _ _ hg => h.grows hg) fun _ l₁ hg₁ => ?_
  refine Triple.bind (stop_serves (h.grows hg₁)) fun status l₂ h₂ => ?_
  refine Triple.frame_bind checkedNowMs_grows (fun _ _ hg => h₂.toOrderly.grows hg) fun _ l₃ hg₃ => ?_
  have h₃ := h₂.grows hg₃
  refine Triple.ite (fun _ => Triple.modify_bind (Triple.pure ⟨h₃.grows ?_, by simp⟩)) fun _ =>
    Triple.modify_bind (Triple.pure ⟨h₃.grows ?_, by simp⟩)
  · exact refl_of EV3Supervisor.Grows l₃.supervisor
  · exact refl_of EV3Supervisor.Grows l₃.supervisor

theorem Orderly.taken (h : l.Orderly) : Triple (io takeFlags) l (fun _ => Orderly) (fun _ _ => False) := by
  refine Triple.of_run (show io takeFlags l = (.ok (), _) from rfl) ?_
  exact ⟨h.thread, fun hs => List.mem_cons_of_mem _ (h.shut hs), rfl, h.books.cons_same rfl (by simp)⟩

theorem perform_run (h : l.Attentive) :
    Triple (performRequestedEmergencyStop c) l
      (fun outcome l' => l'.Served ∧
        (outcome = none → flagUp l.log = false ∧ flagUpAtCompletion l'.log = flagUpAtCompletion l.log))
      (fun _ => Orderly) := by
  refine Triple.frame_bind yield_grows (fun _ _ hg => h.toOrderly.grows hg) fun _ l₁ hg₁ => ?_
  have h₁ := h.grows hg₁
  obtain ⟨newer, hlog, hn, hflag⟩ := hg₁.log
  refine Triple.get_bind (Triple.ite (fun hf => Triple.pure ⟨⟨h₁.toOrderly, ?_⟩, fun _ => ⟨?_, ?_⟩⟩) fun _ => ?_)
  · exact .of_owed (h₁.watched (h₁.flag.symm.trans hf))
  · rw [h₁.flag, hlog, flagUp_own hn, Bool.or_eq_false_iff] at hf
    exact hf.2
  · rw [hlog, flagUpAtCompletion_own hn]
  · refine Triple.bind (h₁.toOrderly.taken.mono (fun _ _ h => h) fun _ _ h => h.elim) fun _ l₂ h₂ => ?_
    exact (performTaken_run h₂ _).mono (fun _ _ h => ⟨h.1, fun hn => absurd hn h.2⟩) fun _ _ h => h

theorem forgetProofIf_grows (outcome : Option PyError) : Keeps Grows (forgetProofIf outcome : Loop ω Unit) :=
  .ite forgetProof_grows (.pure _)

theorem raised_run (h : l.Orderly) (default : String) (e : PyError) :
    Triple (raised c default e : Loop ω α) l (fun _ _ => False) (fun _ => Orderly) := by
  refine Triple.frame_bind (enterFault_grows _ _) (fun _ _ hg => h.grows hg) fun _ l₁ hg₁ => ?_
  exact Triple.throw (h.grows hg₁)

theorem Served.dispatched (h : l.Served) : (l.noted .dispatched).Attentive := by
  refine ⟨h.toOrderly.noted rfl (h.books.cons (fun k hk => ?_) (by simp)), fun hf => ?_⟩
  · obtain ⟨k', hk', rfl⟩ := Option.mem_map.mp hk
    rw [h.calm.fresh k' hk']
  · have ho := h.calm.watched hf
    show (owed l.log).map (· + 1) = none
    rw [ho]
    rfl

theorem dispatchHook_serves (hook : DispatchHook ω) : Serves (dispatchHook c hook) := by
  intro l h
  refine Triple.frame_bind yield_grows (fun _ _ hg => h.toOrderly.grows hg) fun _ l₁ hg₁ => ?_
  refine Triple.step (note_run .dispatched l₁) ?_
  have h₁ := (h.grows hg₁).dispatched
  refine Triple.bind (Triple.tryCatch (Q := fun _ => Attentive) (F := fun _ => Orderly)
    ((hook.grows.triple _).mono (fun _ _ hg => h₁.grows hg) fun _ _ hg => h₁.toOrderly.grows hg) fun e l₂ h₂ => ?_) ?_
  · refine Triple.frame_bind forgetProof_grows (fun _ _ hg => h₂.grows hg) fun _ l₃ hg₃ => ?_
    exact (raised_run (h₂.grows hg₃) _ e).mono (fun _ _ h => h.elim) fun _ _ h => h
  · intro completion l₂ h₂
    refine Triple.frame_bind forgetProof_grows (fun _ _ hg => h₂.toOrderly.grows hg) fun _ l₃ hg₃ => ?_
    refine Triple.bind (perform_run (h₂.grows hg₃)) fun outcome l₄ h₄ => ?_
    exact Triple.frame_bind (forgetProofIf_grows _) (fun _ _ hg => h₄.1.toOrderly.grows hg) fun _ _ hg =>
      Triple.pure (h₄.1.grows hg)

theorem dispatchOne_serves (hook : Option (DispatchHook ω)) : Serves (dispatchOne c hook) := by
  cases hook with
  | none => exact .of_grows (.bind forgetProof_grows fun _ => .pure _)
  | some hook => exact dispatchHook_serves hook

-- Completions

theorem perform_serves : Serves (performRequestedEmergencyStop c : Loop ω (Option PyError)) := fun _ h =>
  (perform_run h.attentive).mono (fun _ _ h => h.1) fun _ _ h => h

theorem raiseIfUnconfirmed_grows (outcome : Option PyError) : Keeps Grows (raiseIfUnconfirmed outcome : Loop ω Unit) := by
  cases outcome with
  | none => exact .pure _
  | some e => exact .failIf _ _

theorem runCompletion_run (h : l.Served) (completion : Completion ω) {error : Option PyError}
    (ht : error = none → flagUpAtCompletion l.log = false) :
    Triple (runCompletion c completion error) l (fun _ => Served) (fun _ => Orderly) := by
  refine Triple.frame_bind yield_grows (fun _ _ hg => h.toOrderly.grows hg) fun _ l₁ hg₁ => ?_
  have h₁ := h.grows hg₁
  obtain ⟨newer, hlog, hn, -⟩ := hg₁.log
  have hbooks : Books (.completed error :: l₁.log) := by
    refine h₁.books.cons (h₁.books.dispatches l₁.log List.suffix_rfl) fun he => ?_
    rw [hlog, flagUpAtCompletion_own hn]
    exact ht (by simpa using he)
  have h₂ : (l₁.noted (.completed error)).Served :=
    ⟨h₁.toOrderly.noted rfl hbooks, ⟨h₁.calm.watched, h₁.calm.fresh⟩⟩
  refine Triple.step (note_run _ l₁) (Triple.bind (Triple.tryCatch (F := fun _ => Orderly)
    (((completion.grows error).triple _).mono (fun _ _ hg => h₂.grows hg) fun _ _ hg => h₂.toOrderly.grows hg)
    fun e l₃ h₃ => (raised_run h₃ _ e).mono (fun _ _ h => h.elim) fun _ _ h => h) fun _ l₃ h₃ => ?_)
  have hrest : Serves (do
      let outcome ← performRequestedEmergencyStop c
      forgetProof
      raiseIfUnconfirmed outcome : Loop ω Unit) :=
    perform_serves.bind fun outcome => .of_grows (.bind forgetProof_grows fun _ => raiseIfUnconfirmed_grows outcome)
  exact hrest l₃ h₃

theorem preferDispatchError_ne_none {first : Option PyError} (hf : first ≠ none) (second : Option PyError) :
    preferDispatchError first second ≠ none := by
  obtain ⟨e, rfl⟩ := Option.ne_none_iff_exists'.mp hf
  unfold preferDispatchError
  split
  · simp
  split
  next h =>
    obtain ⟨e', he', -⟩ := h
    rw [Option.mem_def.mp he']
    simp
  · simp

theorem completeDispatch_serves (dispatched : Dispatched ω) (postDispatchError : Option PyError) :
    Serves (completeDispatch c dispatched postDispatchError) := by
  intro l h
  have h₁ : (l.noted .completing).Served :=
    ⟨h.toOrderly.noted rfl (h.books.cons_same rfl (by simp)), ⟨h.calm.watched, h.calm.fresh⟩⟩
  refine Triple.step (note_run _ l) (Triple.bind (perform_run h₁.attentive) ?_)
  rintro outcome l₂ ⟨h₂, ht⟩
  refine Triple.frame_bind (forgetProofIf_grows _) (fun _ _ hg => h₂.toOrderly.grows hg) fun _ l₃ hg₃ => ?_
  have h₃ := h₂.grows hg₃
  obtain ⟨newer, hlog, hn, -⟩ := hg₃.log
  cases dispatched with
  | nothing => exact Triple.pure h₃
  | notCallable => exact (raised_run h₃.toOrderly _ _).mono (fun _ _ h => h.elim) fun _ _ h => h
  | completion completion =>
    refine runCompletion_run h₃ completion fun he => ?_
    by_cases ho : outcome = none
    · obtain ⟨hf, hat⟩ := ht ho
      rw [hlog, flagUpAtCompletion_own hn, hat]
      exact hf
    · rw [if_neg ho] at he
      exact absurd he (preferDispatchError_ne_none ho _)

-- The run

theorem missDeadline_grows (now : Int) (e : PyError) : Keeps Grows (missDeadline c now e : Loop ω Unit) :=
  .bind (enterFault_grows _ _) fun _ => modify_grows fun _ => rfl

theorem sleepStatus_grows : Keeps Grows (sleepStatus c : Loop ω SupervisorStatus) :=
  .bind
    (.bind (onSupervisor_grows (EV3Supervisor.Same.grows EV3Supervisor.nowMs_same)) fun now =>
      .bind (modify_grows fun l => by split <;> rfl) fun _ => io_grows (Hardware.ask_later _))
    fun _ => status_grows

theorem dispatchLate_serves (hook : Option (DispatchHook ω)) (now : Int) (e : PyError) :
    Serves (dispatchLate c hook now e) :=
  (Serves.of_grows (missDeadline_grows now e)).bind fun _ => perform_serves.bind fun _ =>
    (dispatchOne_serves hook).bind fun _ => (completeDispatch_serves _ _).bind fun _ => .of_grows sleepStatus_grows

theorem completeLate_serves (dispatched : Dispatched ω × Option PyError) (now : Int) (e : PyError) :
    Serves (completeLate c dispatched now e) :=
  (Serves.of_grows (missDeadline_grows now e)).bind fun _ => perform_serves.bind fun _ =>
    (completeDispatch_serves _ _).bind fun _ => .of_grows sleepStatus_grows

theorem completedLate_serves (now : Int) (e : PyError) : Serves (completedLate c now e : Loop ω SupervisorStatus) :=
  (Serves.of_grows (missDeadline_grows now e)).bind fun _ => perform_serves.bind fun outcome =>
    .of_grows (.bind (raiseIfUnconfirmed_grows outcome) fun _ => sleepStatus_grows)

theorem sleepUntilNextTick_grows (now : Int) : Keeps Grows (sleepUntilNextTick c now : Loop ω SupervisorStatus) :=
  .bind .get fun _ => .bind (.ite (io_grows (Hardware.ask_later _)) (.pure _)) fun _ => status_grows

theorem get_serves : Serves (get : Loop ω (EV3SupervisorLoop ω)) := .of_grows .get

theorem completeInTime_serves (dispatched : Dispatched ω × Option PyError) : Serves (completeInTime c dispatched) :=
  (completeDispatch_serves _ _).bind fun _ => (Serves.of_grows checkedNowMs_grows).bind fun _ => get_serves.bind fun _ =>
    .ite (completedLate_serves _ _) (.of_grows (sleepUntilNextTick_grows _))

theorem dispatchInTime_serves (hook : Option (DispatchHook ω)) : Serves (dispatchInTime c hook) :=
  (dispatchOne_serves hook).bind fun _ => (Serves.of_grows checkedNowMs_grows).bind fun _ => get_serves.bind fun _ =>
    .ite (completeLate_serves _ _ _) (completeInTime_serves _)

theorem pollInTime_serves (hook : Option (DispatchHook ω)) : Serves (pollInTime c hook) :=
  perform_serves.bind fun _ => (Serves.of_grows (onSupervisor_grows EV3Supervisor.pollOnce_grows)).bind fun _ =>
    (Serves.of_grows (modify_grows (f := fun l => { l with nextTickMs := l.nextTickMs + c.limits.pollIntervalMs })
      fun _ => rfl)).bind fun _ => perform_serves.bind fun _ =>
        (Serves.of_grows checkedNowMs_grows).bind fun _ => get_serves.bind fun _ =>
          .ite (dispatchLate_serves _ _ _) (dispatchInTime_serves hook)

theorem bindToCurrentThread_same : Keeps EV3Supervisor.Same bindToCurrentThread :=
  .bind .get fun _ => .failIf _ _

theorem runOnce_serves (hook : Option (DispatchHook ω)) : Serves (runOnce c hook) :=
  (Serves.of_grows (onSupervisor_grows (EV3Supervisor.Same.grows bindToCurrentThread_same))).bind fun _ =>
    (Serves.of_grows checkedNowMs_grows).bind fun _ => get_serves.bind fun _ =>
      .ite (dispatchLate_serves _ _ _) (pollInTime_serves hook)

theorem ticks_serves (hook : Option (DispatchHook ω)) (shutdown : Cancellation) (n : Nat) :
    Serves (ticks c hook shutdown n) := by
  induction n with
  | zero => exact .of_grows (.pure _)
  | succ n ih =>
    exact (Serves.of_grows (io_grows (Hardware.Grew.keeps_later shutdown.reads))).bind fun _ =>
      .ite (.of_grows (.pure _)) ((runOnce_serves hook).bind fun _ => ih)

/-- Since the loop ended, all motors were stopped, or the lock had been given up
before. -/
def StoppedAtEnd (log : List Happening) : Prop :=
  ∃ newer older, log = newer ++ .closing :: older ∧ (.stopBegun ∈ newer ∨ .released ∈ older)

theorem StoppedAtEnd.grows (h : StoppedAtEnd l.log) (hg : l.Grows l') : StoppedAtEnd l'.log := by
  obtain ⟨newer, older, hlog, hs⟩ := h
  obtain ⟨newer', hlog', -⟩ := hg.log
  exact ⟨newer' ++ newer, older, by rw [hlog', hlog, List.append_assoc], hs.imp_left (List.mem_append_right _)⟩

theorem close_stops (h : l.Orderly) :
    Settles (onSupervisor (EV3Supervisor.close c)) (l.noted .closing) fun l' => l'.Orderly ∧ StoppedAtEnd l'.log := by
  have hclosing : (l.noted .closing).Orderly := h.noted rfl (h.books.cons_same rfl (by simp))
  have hgrows : Keeps Grows (onSupervisor (EV3Supervisor.close c) : Loop ω _) := onSupervisor_grows EV3Supervisor.close_grows
  by_cases hs : (l.noted .closing).supervisor.Shut
  · have hstopped : StoppedAtEnd (l.noted .closing).log := ⟨[], l.log, rfl, .inr (h.shut hs)⟩
    exact (hgrows.triple _).mono (fun _ _ hg => ⟨hclosing.grows hg, hstopped.grows hg⟩)
      fun _ _ hg => ⟨hclosing.grows hg, hstopped.grows hg⟩
  · have hbegins : Settles (onSupervisor (EV3Supervisor.close c)) (l.noted .closing)
        fun l' => (l.noted .closing).supervisor.Begun l'.supervisor :=
      Triple.onPart ((EV3Supervisor.close_begins hclosing.thread hs).mono (fun _ _ h => h) fun _ _ h => h)
    have hstopped (l' : EV3SupervisorLoop ω) (hb : (l.noted .closing).supervisor.Begun l'.supervisor) :
        StoppedAtEnd l'.log := by
      obtain ⟨newer, hlog, -⟩ := hb
      refine ⟨newer ++ [.stopBegun], l.log, ?_, .inl (by simp)⟩
      rw [List.append_assoc]
      exact hlog
    exact ((hgrows.triple _).and hbegins).mono (fun _ _ hg => ⟨hclosing.grows hg.1, hstopped _ hg.2⟩)
      fun _ _ hg => ⟨hclosing.grows hg.1, hstopped _ hg.2⟩

theorem exitStatus_grows (closed : Except PyError (Option SupervisorStatus)) :
    Keeps Grows (exitStatus c closed : Loop ω (Option SupervisorStatus)) := by
  cases closed with
  | ok status => exact .pure _
  | error e =>
    exact .bind .get fun _ => .ite (onSupervisor_grows EV3Supervisor.close_grows) (.bind status_grows fun _ => .pure _)

theorem closeLoop_run (h : l.Orderly) (looped : Except PyError Bool) :
    Settles (closeLoop c looped) l fun l' => l'.Orderly ∧ StoppedAtEnd l'.log := by
  refine Triple.step (note_run .closing l) (Triple.bind (Triple.attempt
    (P := fun _ l' => l'.Orderly ∧ StoppedAtEnd l'.log) (close_stops h)) ?_)
  rintro closed l₁ ⟨h₁, hs₁⟩
  have hrest : Keeps Grows (do
      let status ← exitStatus c closed
      let status ← Prog.ofExcept (requireStatus status)
      Prog.ofExcept (raiseKept closed)
      Prog.ofExcept (raiseKept looped)
      return status : Loop ω SupervisorStatus) :=
    .bind (exitStatus_grows closed) fun _ => .bind (.ofExcept _) fun _ => .bind (.ofExcept _) fun _ =>
      .bind (.ofExcept _) fun _ => .pure _
  exact (hrest.triple l₁).mono (fun _ _ hg => ⟨h₁.grows hg, hs₁.grows hg⟩) fun _ _ hg => ⟨h₁.grows hg, hs₁.grows hg⟩

theorem bindToCurrentThread_ok (ht : l.supervisor.OnDispatchThread) :
    onSupervisor bindToCurrentThread l = (.ok (), l) := by
  have ht : l.supervisor.dispatchThreadId = l.supervisor.owner.hw.thread := ht
  simp [onSupervisor, bindToCurrentThread, bind_run, failIf, ht]

theorem runForever_run (h : l.Served) (hook : Option (DispatchHook ω)) (shutdown : Cancellation) (n : Nat) :
    Triple (runForever c hook shutdown n) l
      (fun answer l' => Books l'.log ∧ (answer ≠ none → StoppedAtEnd l'.log))
      (fun _ l' => Books l'.log ∧ StoppedAtEnd l'.log) := by
  refine Triple.step (bindToCurrentThread_ok h.thread) (Triple.bind (Triple.attempt (P := fun _ => Orderly)
    ((ticks_serves hook shutdown n l h).mono (fun _ _ h => h.toOrderly) fun _ _ h => h)) fun looped l₁ h₁ => ?_)
  have hclose (looped : Except PyError Bool) : Triple (do return some (← closeLoop c looped) : Loop ω _) l₁
      (fun answer l' => Books l'.log ∧ (answer ≠ none → StoppedAtEnd l'.log))
      (fun _ l' => Books l'.log ∧ StoppedAtEnd l'.log) :=
    Triple.bind ((closeLoop_run h₁ looped).mono (fun _ _ h => h) fun _ _ h => ⟨h.1.books, h.2⟩)
      fun _ _ h => Triple.pure ⟨h.1.books, fun _ => h.2⟩
  match looped with
  | .ok false => exact Triple.pure ⟨h₁.books, fun hn => absurd rfl hn⟩
  | .ok true => exact hclose _
  | .error e => exact hclose _

theorem Books.of_own {newer : List Happening} (hn : ∀ e ∈ newer, e.Own) : Books newer := by
  have hnil : Books [] := ⟨by simp [owed], by simp⟩
  have h := append_own Books.cons_own hnil hn
  rwa [List.append_nil] at h

theorem runs_grow {s s' : EV3Supervisor} {h : List (EV3Supervisor.SupervisorCall × Except PyError EV3Supervisor.Reply)}
    (hr : (ev3Supervisor c).Runs Machine.always s h s') : s.Grows s' :=
  hr.invariant (I := s.Grows) (refl_of EV3Supervisor.Grows s) fun s call hg _ =>
    trans_of EV3Supervisor.Grows hg (EV3Supervisor.perform_grows call s)

structure Created (c : SupervisorConfig) (session : ω) (l : EV3SupervisorLoop ω) : Prop where
  started : ∃ (hw : Hardware) (maximumEvents : Nat) (s₀ s : EV3Supervisor)
    (h : List (EV3Supervisor.SupervisorCall × Except PyError EV3Supervisor.Reply)) (tick : Int) (s₁ : EV3Supervisor),
    hw.log = [] ∧ EV3Supervisor.boot c (EV3Supervisor.booting hw maximumEvents) = (.ok (), s₀) ∧
    (ev3Supervisor c).Runs Machine.always s₀ h s ∧ firstTick s = (.ok tick, s₁) ∧
    l = { supervisor := s₁, nextTickMs := tick, session := session }
  thread : l.supervisor.OnDispatchThread

theorem firstTick_run (s : EV3Supervisor) :
    Triple firstTick s (fun _ s' => ∃ s₁, s.Grows s₁ ∧ s' = { s₁ with owner := { s₁.owner with hw := (newFlags s₁.owner.hw).2 } })
      (fun _ _ => True) := by
  refine Triple.get_bind (Triple.frame_bind EV3Supervisor.checkedNowMs_grows (fun _ _ _ => trivial) fun now s₁ hg => ?_)
  exact Triple.step (show EV3Supervisor.io newFlags s₁ = (.ok (), _) from rfl) (Triple.pure ⟨s₁, hg, rfl⟩)

theorem Created.served {session : ω} (h : Created c session l) : l.Served := by
  obtain ⟨⟨hw, maximumEvents, s₀, s, history, tick, s₁, hfresh, hb, hr, hf, rfl⟩, hthread⟩ := h
  obtain ⟨s₂, hg₂, rfl⟩ := (firstTick_run s).ok hf
  have hg₀ := (EV3Supervisor.boot_grows.triple _).ok hb
  have hg : (EV3Supervisor.booting hw maximumEvents).Grows s₂ :=
    trans_of EV3Supervisor.Grows (trans_of EV3Supervisor.Grows hg₀ (runs_grow hr)) hg₂
  obtain ⟨newer, hlog, hn, -⟩ := hg.hw.log
  have hlog : s₂.owner.hw.log = newer := by rw [hlog, EV3Supervisor.booting, hfresh, List.append_nil]
  have hbooks : Books s₂.owner.hw.log := hlog ▸ Books.of_own hn
  refine ⟨⟨hthread, fun hs => List.mem_cons_of_mem _ ?_, rfl, hbooks.cons (by simp [owed]) (by simp)⟩, .of_owed rfl⟩
  have hs₂ : s₂.Shut := hs
  exact (hg.shut hs₂).resolve_left (by simp [EV3Supervisor.Shut, EV3Supervisor.booting])

theorem published_not_ok {c : ProtocolConfig} {request : SupervisorRequest} {response sent : Response} {e : PyError}
    (hs : request.operation.isStop = false)
    (hsent : sent ∈ SupervisorProtocol.published c request response (some e)) : sent.ok = false := by
  have he : SupervisorProtocol.publishedError request (some e) = some e := by
    simp [SupervisorProtocol.publishedError, hs]
  unfold SupervisorProtocol.published at hsent
  rw [he] at hsent
  dsimp only at hsent
  split at hsent
  next =>
    simp only [SupervisorProtocol.alternate, Option.bind_eq_bind, Option.mem_def, Option.bind_eq_some_iff] at hsent
    obtain ⟨code, -, message, -, hsent⟩ := hsent
    obtain rfl := Option.some.inj hsent
    rfl
  next hok =>
    obtain rfl := Option.some.inj hsent
    simpa using hok

/-- Every run of the loop, whatever the hook, the clocks and the other threads
do, and every publication. -/
theorem emergency_stops_served {session : ω} (hl : Created c session l) (hook : Option (DispatchHook ω))
    (shutdown : Cancellation) (n : Nat) :
    Triple (runForever c hook shutdown n) l
      (fun answer l' => Books l'.log ∧ (answer ≠ none → StoppedAtEnd l'.log))
      (fun _ l' => Books l'.log ∧ StoppedAtEnd l'.log) ∧
    ∀ (c : ProtocolConfig) (request : SupervisorRequest) (response : Response) (e : PyError),
      request.operation.isStop = false →
        ∀ sent ∈ SupervisorProtocol.published c request response (some e), sent.ok = false :=
  ⟨runForever_run hl.served hook shutdown n, fun _ _ _ _ hs _ hsent => published_not_ok hs hsent⟩

open EV3Supervisor in
/-- The robot stands, and one request is made while it answers that question. -/
def requestedAt (question : Nat) : Hardware :=
  { tape := fun n => if n = question then { quiet 0 with request := some false } else bootAnswers.getD n (quiet 0) }

/-- The loop of a supervisor that booted on such a robot. -/
def newLoop (question : Nat) : EV3SupervisorLoop Unit :=
  { supervisor := (firstTick (EV3Supervisor.booted (requestedAt question))).2, nextTickMs := 0, session := () }

def idleHook : DispatchHook Unit := ⟨pure .nothing, .pure _⟩

def given (signal : Bool) : Cancellation := ⟨pure signal, .pure _⟩

theorem newLoop_created {question : Nat}
    (hb : (EV3Supervisor.boot EV3Supervisor.ev3rstorm (EV3Supervisor.booting (requestedAt question) 512)).1 = .ok ())
    (hf : (firstTick (EV3Supervisor.booted (requestedAt question))).1 = .ok 0)
    (ht : (newLoop question).supervisor.OnDispatchThread) :
    Created EV3Supervisor.ev3rstorm () (newLoop question) :=
  ⟨⟨requestedAt question, 512, _, _, [], 0, _, rfl, Prod.ext hb rfl, .nil, Prod.ext hf rfl, rfl⟩, ht⟩

theorem emergency_stops_served_sample :
    Triple (runForever EV3Supervisor.ev3rstorm (some idleHook) (given false) 1) (newLoop 66)
      (fun answer l' => Books l'.log ∧ (answer ≠ none → StoppedAtEnd l'.log))
      (fun _ l' => Books l'.log ∧ StoppedAtEnd l'.log) ∧
    ∀ (c : ProtocolConfig) (request : SupervisorRequest) (response : Response) (e : PyError),
      request.operation.isStop = false →
        ∀ sent ∈ SupervisorProtocol.published c request response (some e), sent.ok = false :=
  emergency_stops_served (newLoop_created (by decide +kernel) (by decide +kernel) (by decide +kernel)) _ _ _

/-- A request made after the last look at the flag before a dispatch, and one
made during the closing stop. -/
theorem emergency_stop_races :
    (¬ ∀ (c : SupervisorConfig) (l : EV3SupervisorLoop Unit) (hook : Option (DispatchHook Unit)) (shutdown : Cancellation)
        (n : Nat) (bound : Bool) (newer mid older : List Happening), Created c () l →
      (runForever c hook shutdown n l).2.log = newer ++ .dispatched :: (mid ++ .requested bound :: older) →
      .stopBegun ∈ mid) ∧
    ¬ ∀ (c : SupervisorConfig) (l : EV3SupervisorLoop Unit) (hook : Option (DispatchHook Unit)) (shutdown : Cancellation)
        (n : Nat) (bound : Bool) (newer older : List Happening), Created c () l →
      (runForever c hook shutdown n l).1 ≠ .ok none →
      (runForever c hook shutdown n l).2.log = newer ++ .requested bound :: older → .stopBegun ∈ newer := by
  have hcreated : ∀ question ∈ [66, 75], Created EV3Supervisor.ev3rstorm () (newLoop question) := by
    intro question hq
    rcases List.mem_cons.mp hq with rfl | hq
    · exact newLoop_created (by decide +kernel) (by decide +kernel) (by decide +kernel)
    · obtain rfl := List.mem_singleton.mp hq
      exact newLoop_created (by decide +kernel) (by decide +kernel) (by decide +kernel)
  constructor
  · intro hall
    have hlog : (runForever EV3Supervisor.ev3rstorm (some idleHook) (given false) 1 (newLoop 66)).2.log =
        (runForever EV3Supervisor.ev3rstorm (some idleHook) (given false) 1 (newLoop 66)).2.log.take 16 ++
          .dispatched :: ([] ++ .requested false ::
            (runForever EV3Supervisor.ev3rstorm (some idleHook) (given false) 1 (newLoop 66)).2.log.drop 18) := by
      decide +kernel
    exact absurd (hall _ _ _ _ _ _ _ _ _ (hcreated 66 (by simp)) hlog) (by simp)
  · intro hall
    have hended : (runForever EV3Supervisor.ev3rstorm (some idleHook) (given true) 1 (newLoop 75)).1 ≠ .ok none := by
      decide +kernel
    have hlog : (runForever EV3Supervisor.ev3rstorm (some idleHook) (given true) 1 (newLoop 75)).2.log =
        [] ++ .requested false ::
          (runForever EV3Supervisor.ev3rstorm (some idleHook) (given true) 1 (newLoop 75)).2.log.drop 1 := by
      decide +kernel
    exact absurd (hall _ _ _ _ _ _ _ _ (hcreated 75 (by simp)) hended hlog) (by simp)

end EV3SupervisorLoop

end RobotLlm.Ev3
