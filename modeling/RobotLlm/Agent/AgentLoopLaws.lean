import Mathlib.Data.Bool.Basic
import Mathlib.Data.Int.Order.Basic
import Mathlib.Data.Nat.Basic
import RobotLlm.Agent.AgentLoop
import RobotLlm.Lib.Check

/-!
# What an episode does and how it ends

Most calls leave the budgets alone and only make the log longer. The turn of
the loop is followed call by call; whatever ends it, the terminal stop comes
after the last motion.
-/

namespace RobotLlm.AgentLoop

open RobotLlm.Lib RobotLlm.Lib.Prog
open RobotLlm.Navigation (identifierOk counterMax Between)

variable {σ : Type} {a : ClosedLoopAgent σ} {goal : MotorPositionGoal} {s s' : AgentState σ} {log : List Event}

-- What a log shows

def Event.motion? : Event → Option Motion
  | .executed m => some m
  | _ => none

/-- Neither a planner turn nor a replan nor a motion. -/
def Event.isQuiet : Event → Bool
  | .planned | .replanned | .executed _ => false
  | .clock _ | .capabilities _ | .observed _ | .stopAsked _ | .stopAnswered _ => true

def Event.isPlanned : Event → Bool
  | .planned => true
  | _ => false

def Event.isReplanned : Event → Bool
  | .replanned => true
  | _ => false

/-- The motions that were executed, newest first, and how long they were. -/
def motionsIn (log : List Event) : List Motion := log.filterMap Event.motion?
def motionMs (log : List Event) : Nat := ((motionsIn log).map (·.request.command.durationMs)).sum
def plannedIn (log : List Event) : Nat := log.countP Event.isPlanned
def replannedIn (log : List Event) : Nat := log.countP Event.isReplanned

def latestObservation : List Event → Option ObservationEnvelope
  | [] => none
  | .observed o :: _ => some o
  | _ :: older => latestObservation older

def latestClock : List Event → Option Int
  | [] => none
  | .clock now :: _ => some now
  | _ :: older => latestClock older

/-- Equal state versions of one controller mean equal states. -/
def Consistent (log : List Event) : Prop :=
  ∀ o o', .observed o ∈ log → .observed o' ∈ log → o.identity = o'.identity → o.stateVersion = o'.stateVersion →
    o.state = o'.state

structure MotionOk (a : ClosedLoopAgent σ) (goal : MotorPositionGoal) (older : List Event) (m : Motion) : Prop where
  motor : m.request.command.motorRole = goal.motorRole
  latest : latestObservation older = some m.observation
  toward : ∃ position, goal.position m.observation = .ok position ∧
    0 < (goal.targetDegrees - position) * m.request.command.speedDps
  proposed : m.proposal.decision =
    .act ⟨m.request.command.motorRole, m.request.command.speedDps, m.request.command.durationMs⟩
  own : m.proposal.goalId = goal.goalId
  bound : m.proposal.basedOnStateVersion = m.observation.stateVersion ∧
    m.request.context.basedOnStateVersion = m.observation.stateVersion
  distinct : m.proposal.proposalId ∉ (motionsIn older).map (·.proposal.proposalId)
  safe : Consistent older → safeObservation m.observation = true
  started : older.getLast? = some (.clock m.startedAtMs) ∧ m.startedAtMs ≤ m.request.context.issuedAtHostMs
  issued : latestClock older = some m.request.context.issuedAtHostMs
  fits : m.request.context.issuedAtHostMs - m.startedAtMs + m.request.command.durationMs +
    a.limits.terminalStopReserveMs < a.limits.maxElapsedMs

def Proper (a : ClosedLoopAgent σ) (goal : MotorPositionGoal) : List Event → Prop
  | [] => True
  | .executed m :: older => MotionOk a goal older m ∧ Proper a goal older
  | _ :: older => Proper a goal older

def Stopped (log : List Event) : Prop :=
  ∃ newer request older, log = newer ++ .stopAsked request :: older ∧ motionsIn newer = []

theorem Proper.at {newer older : List Event} {m : Motion} (h : Proper a goal (newer ++ .executed m :: older)) :
    MotionOk a goal older m := by
  induction newer with
  | nil => exact h.1
  | cons e newer ih =>
    cases e with
    | executed m' => exact ih h.2
    | _ => exact ih h

-- Logs that grow quietly

section
variable {new : List Event} (hq : ∀ e ∈ new, e.isQuiet = true)
include hq

theorem motionsIn_quiet : motionsIn (new ++ log) = motionsIn log := by
  have hnone : motionsIn new = [] := by
    refine List.filterMap_eq_nil_iff.mpr fun e he => ?_
    have hquiet := hq e he
    cases e <;> first | rfl | cases hquiet
  rw [motionsIn, List.filterMap_append]
  exact (congrArg (· ++ motionsIn log) hnone).trans (List.nil_append _)

theorem plannedIn_quiet : plannedIn (new ++ log) = plannedIn log := by
  have hnone : new.countP Event.isPlanned = 0 := by
    refine List.countP_eq_zero.mpr fun e he => ?_
    have hquiet := hq e he
    cases e <;> first | exact Bool.false_ne_true | cases hquiet
  rw [plannedIn, List.countP_append, hnone, Nat.zero_add]
  rfl

theorem replannedIn_quiet : replannedIn (new ++ log) = replannedIn log := by
  have hnone : new.countP Event.isReplanned = 0 := by
    refine List.countP_eq_zero.mpr fun e he => ?_
    have hquiet := hq e he
    cases e <;> first | exact Bool.false_ne_true | cases hquiet
  rw [replannedIn, List.countP_append, hnone, Nat.zero_add]
  rfl

theorem Proper.quiet (h : Proper a goal log) : Proper a goal (new ++ log) := by
  induction new with
  | nil => exact h
  | cons e new ih =>
    have hquiet := hq e List.mem_cons_self
    have hrest := ih fun e he => hq e (List.mem_cons_of_mem _ he)
    cases e with
    | executed m => cases hquiet
    | _ => exact hrest

theorem Stopped.quiet (h : Stopped log) : Stopped (new ++ log) := by
  obtain ⟨newer, request, older, rfl, hnone⟩ := h
  refine ⟨new ++ newer, request, older, by rw [List.append_assoc], ?_⟩
  rw [motionsIn_quiet hq]
  exact hnone

end

structure Quiet (s s' : AgentState σ) : Prop where
  log : ∃ new, s'.log = new ++ s.log ∧ ∀ e ∈ new, e.isQuiet = true
  counters : s'.counters = s.counters
  seen : s'.seenProposals = s.seenProposals
  controller : s'.controller = s.controller

instance : IsPreorder (AgentState σ) Quiet where
  refl _ := ⟨⟨[], rfl, by simp⟩, rfl, rfl, rfl⟩
  trans := by
    rintro s t u ⟨⟨new, hnew, hq⟩, hc, hs, hk⟩ ⟨⟨new', hnew', hq'⟩, hc', hs', hk'⟩
    refine ⟨⟨new' ++ new, by rw [hnew', hnew, List.append_assoc], fun e he => ?_⟩, hc'.trans hc, hs'.trans hs, hk'.trans hk⟩
    exact (List.mem_append.mp he).elim (hq' e) (hq e)

theorem Quiet.mem {e : Event} (h : Quiet s s') (he : e ∈ s.log) : e ∈ s'.log := by
  obtain ⟨new, hnew, -⟩ := h.log
  rw [hnew]
  exact List.mem_append_right _ he

theorem Quiet.stopped (h : Quiet s s') (hs : Stopped s.log) : Stopped s'.log := by
  obtain ⟨new, hnew, hq⟩ := h.log
  rw [hnew]
  exact hs.quiet hq

-- The calls

def Noted (events : List Event) (s s' : AgentState σ) : Prop :=
  ∃ world, s' = { s with world := world, log := events ++ s.log }

theorem Noted.quiet {events : List Event} (h : Noted events s s') (hq : ∀ e ∈ events, e.isQuiet = true) : Quiet s s' := by
  obtain ⟨world, rfl⟩ := h
  exact ⟨⟨events, rfl, hq⟩, rfl, rfl, rfl⟩

theorem Noted.trans {events events' : List Event} {t : AgentState σ} (h : Noted events s t) (h' : Noted events' t s') :
    Noted (events' ++ events) s s' := by
  obtain ⟨world, rfl⟩ := h
  obtain ⟨world', rfl⟩ := h'
  exact ⟨world', by simp [List.append_assoc]⟩

theorem onWorld_noted {α : Type} (x : Prog σ Raised α) (s : AgentState σ) :
    Triple (onWorld x) s (fun _ => Noted [] s) (fun _ => Noted [] s) :=
  Triple.onPart ((Triple.unknown x s.world).mono (fun _ w _ => ⟨w, rfl⟩) fun _ w _ => ⟨w, rfl⟩)

theorem note_noted (e : Event) (s : AgentState σ) {E : Raised → AgentState σ → Prop} :
    Triple (note e) s (fun _ => Noted [e] s) E :=
  Triple.modify ⟨s.world, rfl⟩

theorem noted_run {α : Type} (x : Prog σ Raised α) (event : α → Event) (s : AgentState σ) :
    Triple (do let v ← onWorld x; note (event v); return v : Call σ α) s (fun v => Noted [event v] s)
      (fun _ => Noted [] s) := by
  refine Triple.bind (onWorld_noted x s) fun v s₁ h₁ => ?_
  refine Triple.bind (note_noted (event v) s₁) fun _ s₂ h₂ => Triple.pure ?_
  exact h₁.trans h₂

theorem observe_run (s : AgentState σ) :
    Triple a.observe s (fun o => Noted [.observed o] s) (fun _ => Noted [] s) :=
  noted_run a.robot.observe .observed s

theorem capabilities_run (s : AgentState σ) :
    Triple a.capabilities s (fun c => Noted [.capabilities c] s) (fun _ => Noted [] s) :=
  noted_run a.robot.capabilities .capabilities s

theorem nowMs_run (s : AgentState σ) :
    Triple a.nowMs s (fun now => Noted [.clock now] s) (fun _ => Noted [] s) := by
  refine Triple.bind (onWorld_noted _ s) fun now s₁ h₁ => ?_
  refine Triple.bind (Q := fun _ s₂ => s₂ = s₁) ?_ ?_
  · refine Triple.ofExcept ?_
    cases integer now 0 counterMax with
    | ok now => rfl
    | error e => exact h₁
  · rintro now' s₂ rfl
    refine Triple.bind (note_noted (.clock now') s₂) fun _ s₃ h₃ => Triple.pure ?_
    exact h₁.trans h₃

theorem stopAll_run (request : StopRequest) (s : AgentState σ) :
    Triple (a.stopAll request) s (fun receipt => Noted [.stopAnswered receipt, .stopAsked request] s)
      (fun _ => Noted [.stopAsked request] s) := by
  refine Triple.bind (note_noted (.stopAsked request) s) fun _ s₁ h₁ => ?_
  refine Triple.bind ((onWorld_noted _ s₁).mono (fun _ _ h => h) fun _ _ h => h₁.trans h) fun receipt s₂ h₂ => ?_
  refine Triple.bind (note_noted (.stopAnswered receipt) s₂) fun _ s₃ h₃ => Triple.pure ?_
  exact (h₁.trans h₂).trans h₃

theorem deadlineNow_run (started required : Int) (s : AgentState σ) :
    Triple (a.deadlineNow started required) s (fun r s' => Noted [.clock r.1] s s' ∧ (r.2 = false →
      started ≤ r.1 ∧ r.1 - started + required + a.limits.terminalStopReserveMs < a.limits.maxElapsedMs))
      (fun _ => Noted [] s) := by
  refine Triple.bind (nowMs_run s) fun now s₁ h₁ => Triple.pure ⟨h₁, fun hopen => ?_⟩
  have hnot := of_decide_eq_false hopen
  constructor <;> omega

theorem freshObservation_run (o : ObservationEnvelope) (s : AgentState σ) :
    Triple (a.freshObservation o) s (fun fresh s' => ∃ now, Noted [.clock now] s s' ∧ (fresh = true →
      o.receivedAtHostMs ≤ now ∧ now - o.receivedAtHostMs ≤ a.limits.maxObservationAgeMs)) (fun _ => Noted [] s) := by
  refine Triple.bind (nowMs_run s) fun now s₁ h₁ => Triple.pure ⟨now, h₁, fun hfresh => of_decide_eq_true hfresh⟩

-- The stop request is valid

theorem dropWhile_of_head {p : Char → Bool} {c : Char} {cs : List Char} (h : p c = false) :
    (c :: cs).dropWhile p = c :: cs := by
  rw [List.dropWhile_cons, if_neg (by rw [h]; exact Bool.false_ne_true)]

theorem head_of_strip {c : Char} {cs : List Char} (h : Navigation.strip (c :: cs) = c :: cs) :
    Navigation.isSpace c = false := by
  by_contra hspace
  have hspace : Navigation.isSpace c = true := Bool.eq_true_of_not_eq_false hspace
  have hlength : (Navigation.strip (c :: cs)).length ≤ cs.length := by
    simp only [Navigation.strip, List.length_reverse, List.dropWhile_cons, hspace, if_true]
    refine Nat.le_trans (List.dropWhile_suffix _).length_le ?_
    rw [List.length_reverse]
    exact (List.dropWhile_suffix _).length_le
  rw [h, List.length_cons] at hlength
  omega

theorem identifierOk_suffix {text suffix : String} (init : List Char) (last : Char) {m n : Nat}
    (h : identifierOk text m = true) (hsuffix : suffix.toList = init ++ [last]) (hlast : Navigation.isSpace last = false)
    (hchars : ∀ c ∈ suffix.toList, 32 ≤ c.toNat) (hn : m + suffix.toList.length ≤ n) :
    identifierOk (text ++ suffix) n = true := by
  simp only [identifierOk, Bool.and_eq_true, Bool.not_eq_true', beq_iff_eq, decide_eq_true_eq, List.all_eq_true] at h ⊢
  obtain ⟨⟨⟨hempty, hstrip⟩, hlength⟩, hall⟩ := h
  rw [String.toList_append]
  cases htext : text.toList with
  | nil => rw [htext] at hempty; cases hempty
  | cons c cs =>
    rw [htext] at hstrip hlength hall
    refine ⟨⟨⟨rfl, ?_⟩, ?_⟩, ?_⟩
    · have hhead : ((c :: cs) ++ suffix.toList).dropWhile Navigation.isSpace = (c :: cs) ++ suffix.toList :=
        dropWhile_of_head (head_of_strip hstrip)
      have hrev : ((c :: cs) ++ suffix.toList).reverse = last :: (init.reverse ++ (c :: cs).reverse) := by
        rw [hsuffix, List.reverse_append, List.reverse_append]
        rfl
      rw [Navigation.strip, hhead, hrev, dropWhile_of_head hlast, ← hrev, List.reverse_reverse]
    · rw [List.length_append]
      omega
    · intro d hd
      exact (List.mem_append.mp hd).elim (hall d) (hchars d)

theorem stopRequest_ok {episodeId : String} (hid : identifierOk episodeId 48 = true) (c : ControllerCapabilities) :
    ∃ request, a.stopRequest episodeId c = .ok request := by
  obtain ⟨hrobot, hcontroller, hinstance, -⟩ := c.identityOk
  have hsuffix : ∀ n, 53 ≤ n → identifierOk (episodeId ++ "-stop") n = true := fun n hn =>
    identifierOk_suffix "-sto".toList 'p' hid rfl (by decide) (by decide) hn
  unfold ClosedLoopAgent.stopRequest StopRequest.check
  dsimp only
  rw [if_pos ⟨hrobot, hcontroller, hinstance, hsuffix 128 (by decide), a.sourceIdOk, hsuffix 96 (by decide)⟩]
  exact ⟨_, rfl⟩

-- Stopping

def Verified (a : ClosedLoopAgent σ) (final : ObservationEnvelope) (log : List Event) : Prop :=
  ∃ c request receipt now older, log = .clock now :: .observed final :: .stopAnswered receipt :: .stopAsked request :: older ∧
    StopMatches request receipt c final ∧ final.receivedAtHostMs ≤ now ∧
    now - final.receivedAtHostMs ≤ a.limits.maxObservationAgeMs

theorem Verified.stopped {final : ObservationEnvelope} (h : Verified a final log) : Stopped log := by
  obtain ⟨c, request, receipt, now, older, rfl, -⟩ := h
  exact ⟨[.clock now, .observed final, .stopAnswered receipt], request, older, rfl, rfl⟩

theorem quiet_of_noted {events : List Event} (h : Noted events s s') (hq : events.all Event.isQuiet = true := by rfl) :
    Quiet s s' :=
  h.quiet (List.all_eq_true.mp hq)

theorem stopOnce_run (request : StopRequest) (c : ControllerCapabilities) (previous : Option ObservationEnvelope)
    (s : AgentState σ) :
    Triple (a.stopOnce request c previous) s (fun final s' => Quiet s s' ∧ Verified a final s'.log)
      (fun _ s' => Quiet s s' ∧ Stopped s'.log) := by
  have hasked : ∀ events {t}, Noted (events ++ [.stopAsked request]) s t → motionsIn events = [] → Stopped t.log := by
    rintro events t ⟨world, rfl⟩ hnone
    exact ⟨events, request, s.log, by simp, hnone⟩
  refine Triple.bind ((stopAll_run request s).mono (fun _ _ h => h) fun _ t h => ⟨quiet_of_noted h, hasked [] h rfl⟩)
    fun receipt s₁ h₁ => ?_
  refine Triple.bind ((observe_run s₁).mono (fun _ _ h => h) fun _ t h => ?_) fun final s₂ h₂ => ?_
  · exact ⟨quiet_of_noted (h₁.trans h), hasked [.stopAnswered receipt] (h₁.trans h) rfl⟩
  have h₂ := h₁.trans h₂
  have hstopped : Quiet s s₂ ∧ Stopped s₂.log :=
    ⟨quiet_of_noted h₂, hasked [.observed final, .stopAnswered receipt] h₂ rfl⟩
  refine Triple.failIf (fun _ => hstopped) fun hmatch => ?_
  refine Triple.bind ((freshObservation_run final s₂).mono (fun _ _ h => h) fun _ t h => ?_) fun fresh s₃ h₃ => ?_
  · exact ⟨quiet_of_noted (h₂.trans h), hasked [.observed final, .stopAnswered receipt] (h₂.trans h) rfl⟩
  obtain ⟨now, h₃, hfresh⟩ := h₃
  have h₃ := h₂.trans h₃
  refine Triple.failIf (fun _ => ?_) fun hchecked => Triple.pure ⟨quiet_of_noted h₃, ?_⟩
  · exact ⟨quiet_of_noted h₃, hasked [.clock now, .observed final, .stopAnswered receipt] h₃ rfl⟩
  · obtain ⟨world, rfl⟩ := h₃
    obtain ⟨hle, hage⟩ := hfresh (not_not.mp hchecked).1
    exact ⟨c, request, receipt, now, s.log, rfl, not_not.mp hmatch, hle, hage⟩

theorem stopRounds_run (request : StopRequest) (c : ControllerCapabilities) (previous : Option ObservationEnvelope)
    (rounds : Nat) (s : AgentState σ) (hs : 0 < rounds ∨ Stopped s.log) :
    Triple (a.stopRounds request c previous rounds) s (fun final s' => Quiet s s' ∧ Verified a final s'.log)
      (fun _ s' => Quiet s s' ∧ Stopped s'.log) := by
  induction rounds generalizing s with
  | zero => exact Triple.throw ⟨refl_of Quiet s, hs.resolve_left (Nat.lt_irrefl 0)⟩
  | succ rounds ih =>
    refine Triple.bind (Triple.attempt (P := fun r s' => Prog.Ended
      (fun final => Quiet s s' ∧ Verified a final s'.log) (fun _ => Quiet s s' ∧ Stopped s'.log) r) (stopOnce_run request c previous s)) fun r s₁ h₁ => ?_
    cases r with
    | ok final => exact Triple.pure h₁
    | error e =>
      obtain ⟨hquiet, hstopped⟩ := h₁
      have hagain : Triple (a.stopRounds request c previous rounds) s₁
          (fun final s' => Quiet s s' ∧ Verified a final s'.log) (fun _ s' => Quiet s s' ∧ Stopped s'.log) :=
        (ih s₁ (.inr hstopped)).mono (fun _ _ h => ⟨trans_of Quiet hquiet h.1, h.2⟩)
          fun _ _ h => ⟨trans_of Quiet hquiet h.1, h.2⟩
      cases e with
      | interrupt => exact Triple.throw ⟨hquiet, hstopped⟩
      | _ => exact hagain

theorem stopAndVerify_run {episodeId : String} (hid : identifierOk episodeId 48 = true) (c : ControllerCapabilities)
    (previous : Option ObservationEnvelope) (s : AgentState σ) :
    Triple (a.stopAndVerify episodeId c previous) s (fun final s' => Quiet s s' ∧ Verified a final s'.log)
      (fun _ s' => Quiet s s' ∧ Stopped s'.log) := by
  obtain ⟨request, hrequest⟩ := stopRequest_ok (a := a) hid c
  have hrun : (Prog.ofExcept (a.stopRequest episodeId c) : Call σ StopRequest) s = (.ok request, s) := by rw [hrequest]; rfl
  exact Triple.step hrun (stopRounds_run request c previous 2 s (.inl Nat.two_pos))

theorem stopBlindly_run (request : StopRequest) (rounds : Nat) (s : AgentState σ) :
    Settles (a.stopBlindly request rounds) s (Quiet s) := by
  induction rounds generalizing s with
  | zero => exact Triple.pure (refl_of Quiet s)
  | succ rounds ih =>
    have hasked : Settles (a.stopAll request) s (Quiet s) :=
      (stopAll_run request s).mono (fun _ _ h => quiet_of_noted h) fun _ _ h => quiet_of_noted h
    refine Triple.bind (Triple.attempt (P := fun _ => Quiet s) hasked) fun r s₁ h₁ => ?_
    have hagain : Settles (a.stopBlindly request rounds) s₁ (Quiet s) :=
      (ih s₁).mono (fun _ _ h => trans_of Quiet h₁ h) fun _ _ h => trans_of Quiet h₁ h
    cases r with
    | ok _ => exact Triple.pure h₁
    | error e =>
      cases e with
      | interrupt => exact Triple.throw h₁
      | _ => exact hagain

-- The end of an episode

def Obtained (log : List Event) : Prop := ∃ c, .capabilities c ∈ log

/-- Once there are capabilities, a stop follows the last motion. -/
def Ends (log : List Event) : Prop := Obtained log → Stopped log

/-- The capabilities are kept where they were obtained. -/
def Tracked (s : AgentState σ) : Prop := Obtained s.log → s.controller.isSome = true

theorem Ends.quiet (h : Ends s.log) (hq : Quiet s s') (hsame : Obtained s'.log → Obtained s.log) : Ends s'.log :=
  fun hobtained => hq.stopped (h (hsame hobtained))

theorem Noted.obtained {events : List Event} (h : Noted events s s') (hn : ∀ c, .capabilities c ∉ events) :
    Obtained s'.log → Obtained s.log := by
  obtain ⟨world, rfl⟩ := h
  rintro ⟨c, hc⟩
  exact ⟨c, (List.mem_append.mp hc).resolve_left (hn c)⟩

theorem knownCapabilities_run (s : AgentState σ) (h : Obtained s.log → Stopped s.log ∨ s.controller.isSome = true) :
    Triple (a.knownCapabilities s.controller) s (fun _ => Quiet s) (fun _ s' => Quiet s s' ∧ Ends s'.log) := by
  cases hc : s.controller with
  | some c => exact Triple.pure (refl_of Quiet s)
  | none =>
    refine (capabilities_run s).mono (fun _ _ h => quiet_of_noted h) fun _ s' hnoted => ?_
    have hquiet : Quiet s s' := quiet_of_noted hnoted
    refine ⟨hquiet, fun hobtained => ?_⟩
    obtain hstopped | hsome := h (hnoted.obtained (fun _ => List.not_mem_nil) hobtained)
    · exact hquiet.stopped hstopped
    · rw [hc] at hsome
      cases hsome

theorem finishStop_run {episodeId : String} (hid : identifierOk episodeId 48 = true) (ht : Tracked s)
    (observation : Option ObservationEnvelope) :
    Triple (a.finishStop episodeId observation) s (fun final s' => Quiet s s' ∧ Verified a final s'.log)
      (fun _ s' => Quiet s s' ∧ Ends s'.log) := by
  refine Triple.get_bind (Triple.bind (knownCapabilities_run s fun h => .inr (ht h)) fun c s₁ h₁ => ?_)
  refine (stopAndVerify_run hid c observation s₁).mono (fun _ _ h => ⟨trans_of Quiet h₁ h.1, h.2⟩) fun _ _ h => ?_
  exact ⟨trans_of Quiet h₁ h.1, fun _ => h.2⟩

theorem bestEffort_run {episodeId : String} (hid : identifierOk episodeId 48 = true)
    (h : Obtained s.log → Stopped s.log ∨ s.controller.isSome = true) :
    Settles (a.bestEffortTerminalStop episodeId s.controller) s fun s' => Quiet s s' ∧ Ends s'.log := by
  refine Triple.bind (Triple.attempt (P := fun r s' => match r with
    | .ok _ => Quiet s s'
    | .error _ => Quiet s s' ∧ Ends s'.log) (knownCapabilities_run s h)) fun r s₁ h₁ => ?_
  cases r with
  | error _ => exact Triple.pure h₁
  | ok c =>
    have hstopped : Settles (a.stopAndVerify episodeId c none) s₁ fun s' => Quiet s s' ∧ Stopped s'.log :=
      (stopAndVerify_run hid c none s₁).mono (fun _ _ h => ⟨trans_of Quiet h₁ h.1, h.2.stopped⟩)
        fun _ _ h => ⟨trans_of Quiet h₁ h.1, h.2⟩
    refine Triple.bind (Triple.attempt (P := fun _ s' => Quiet s s' ∧ Stopped s'.log) hstopped) fun r s₂ h₂ => ?_
    obtain ⟨hquiet, hstopped⟩ := h₂
    cases r with
    | ok _ => exact Triple.pure ⟨hquiet, fun _ => hstopped⟩
    | error _ =>
      obtain ⟨request, hrequest⟩ := stopRequest_ok (a := a) hid c
      have hgo : Settles (a.stopBlindly request 2) s₂ fun s' => Quiet s s' ∧ Ends s'.log :=
        (stopBlindly_run request 2 s₂).mono (fun _ _ h => ⟨trans_of Quiet hquiet h, fun _ => h.stopped hstopped⟩)
          fun _ _ h => ⟨trans_of Quiet hquiet h, fun _ => h.stopped hstopped⟩
      dsimp only
      rw [hrequest]
      exact hgo

structure Reported (a : ClosedLoopAgent σ) (goal : MotorPositionGoal) (r : EpisodeResult) (s : AgentState σ) : Prop where
  counters : r.counters = s.counters
  completed : r.completed = true → r.termination = .goalSatisfied ∧ ∃ final, r.finalObservation = some final ∧
    Verified a final s.log ∧ safeObservation final = true ∧ goal.satisfied final = .ok true

theorem completion_completed {termination : Termination} {final : Option ObservationEnvelope}
    (h : (ClosedLoopAgent.completion goal termination final).1 = true) :
    termination = .goalSatisfied ∧ (ClosedLoopAgent.completion goal termination final).2 = .goalSatisfied ∧
      ∃ o, final = some o ∧ goal.satisfied o = .ok true := by
  cases final with
  | none => cases h
  | some o =>
    unfold ClosedLoopAgent.completion at h ⊢
    dsimp only at h ⊢
    split at h
    next hgoal =>
      rw [if_pos hgoal]
      cases hs : goal.satisfied o with
      | error e => rw [hs] at h; cases h
      | ok satisfied =>
        rw [hs] at h
        obtain rfl : satisfied = true := h
        exact ⟨hgoal, hgoal, o, rfl, hs⟩
    · cases h

theorem report_run (termination : Termination) (final : Option ObservationEnvelope) (s : AgentState σ)
    {E : Raised → AgentState σ → Prop} :
    Triple (ClosedLoopAgent.report goal termination final) s (fun r s' => Quiet s s' ∧ s'.log = s.log ∧
      r.counters = s'.counters ∧ r.finalObservation = final ∧
      (r.completed, r.termination) = ClosedLoopAgent.completion goal termination final) E :=
  Triple.modify_bind (Triple.get_bind (Triple.pure ⟨⟨⟨[], rfl, by simp⟩, rfl, rfl, rfl⟩, rfl, rfl, rfl, rfl⟩))

theorem finish_run {episodeId : String} (hid : identifierOk episodeId 48 = true) (ht : Tracked s)
    (termination : Termination) (observation : Option ObservationEnvelope) :
    Triple (a.finish goal episodeId termination observation) s
      (fun r s' => Quiet s s' ∧ Ends s'.log ∧ Reported a goal r s') (fun _ s' => Quiet s s' ∧ Ends s'.log) := by
  refine Triple.modify_bind ?_
  have hsay : Quiet s { s with trace := s.trace ++ ["STOPPING"] } := ⟨⟨[], rfl, by simp⟩, rfl, rfl, rfl⟩
  have ht : Tracked { s with trace := s.trace ++ ["STOPPING"] } := ht
  refine Triple.bind (Triple.attempt (P := fun r s' => Prog.Ended
    (fun final => Quiet s s' ∧ Verified a final s'.log) (fun _ => Quiet s s' ∧ Ends s'.log) r) ((finishStop_run hid ht observation).mono
      (fun _ _ h => ⟨trans_of Quiet hsay h.1, h.2⟩) fun _ _ h => ⟨trans_of Quiet hsay h.1, h.2⟩)) fun r s₁ h₁ => ?_
  obtain ⟨hquiet, hends⟩ : Quiet s s₁ ∧ Ends s₁.log := by
    cases r with
    | ok final => exact ⟨h₁.1, fun _ => h₁.2.stopped⟩
    | error _ => exact h₁
  have hreport : ∀ t final, (t = .goalSatisfied → ∀ o, final = some o → Verified a o s₁.log ∧ safeObservation o = true) →
      Triple (ClosedLoopAgent.report goal t final) s₁ (fun r s' => Quiet s s' ∧ Ends s'.log ∧ Reported a goal r s')
        (fun _ s' => Quiet s s' ∧ Ends s'.log) := by
    intro t final hgood
    refine (report_run t final s₁).mono (fun r s₂ h₂ => ?_) fun _ _ h => h
    obtain ⟨hq, hlog, hcounters, hfinal, hcompletion⟩ := h₂
    refine ⟨trans_of Quiet hquiet hq, hlog ▸ hends, hcounters, fun hcompleted => ?_⟩
    have hcompleted' : (ClosedLoopAgent.completion goal t final).1 = true := hcompletion ▸ hcompleted
    obtain ⟨hgoal, htermination, o, ho, hsatisfied⟩ := completion_completed hcompleted'
    obtain ⟨hverified, hsafe⟩ := hgood hgoal o ho
    exact ⟨(congrArg Prod.snd hcompletion).trans htermination, o, hfinal.trans ho, hlog ▸ hverified, hsafe, hsatisfied⟩
  cases r with
  | ok final =>
    refine hreport _ _ fun hgoal o ho => ?_
    cases ho
    refine ⟨h₁.2, Bool.eq_true_of_not_eq_false fun hunsafe => ?_⟩
    unfold ClosedLoopAgent.stoppedTermination at hgoal
    split at hgoal
    · cases hgoal
    next hnot => exact hnot ⟨hgoal, hunsafe⟩
  | error e =>
    cases e with
    | interrupt => exact Triple.throw ⟨hquiet, hends⟩
    | _ => exact hreport _ _ nofun

-- The budgets

structure Over (a : ClosedLoopAgent σ) (goal : MotorPositionGoal) (s : AgentState σ) : Prop where
  proper : Proper a goal s.log
  turns : s.counters.plannerTurns ≤ plannedIn s.log ∧ plannedIn s.log ≤ a.limits.maxPlannerTurns
  actions : (motionsIn s.log).length = s.counters.actions ∧ s.counters.actions ≤ a.limits.maxActions
  replans : replannedIn s.log = s.counters.replans ∧ s.counters.replans ≤ a.limits.maxReplans
  motion : motionMs s.log = s.counters.totalMotionMs ∧ s.counters.totalMotionMs ≤ a.limits.maxTotalMotionMs

structure Live (a : ClosedLoopAgent σ) (goal : MotorPositionGoal) (started : Int) (s : AgentState σ) : Prop
    extends Over a goal s where
  turn : plannedIn s.log = s.counters.plannerTurns
  known : s.controller.isSome = true
  seen : ∀ m ∈ motionsIn s.log, m.proposal.proposalId ∈ s.seenProposals
  began : s.log.getLast? = some (.clock started)

variable {started : Int} {episodeId : String} {c : ControllerCapabilities} {o : ObservationEnvelope}
  {p : DecisionProposal} {intent : MotionIntent} {feedback : Option PlannerFeedback}

def Out (a : ClosedLoopAgent σ) (goal : MotorPositionGoal) (s : AgentState σ) : Prop := Over a goal s ∧ Tracked s

theorem Live.out (h : Live a goal started s) : Out a goal s := ⟨h.toOver, fun _ => h.known⟩

theorem Over.quiet (h : Over a goal s) (hq : Quiet s s') : Over a goal s' := by
  obtain ⟨new, hnew, hquiet⟩ := hq.log
  have hmotions : motionsIn (new ++ s.log) = motionsIn s.log := motionsIn_quiet hquiet
  have hms : motionMs s'.log = motionMs s.log := by rw [hnew, motionMs, hmotions]; rfl
  rw [← hnew] at hmotions
  have hplanned : plannedIn s'.log = plannedIn s.log := hnew ▸ plannedIn_quiet hquiet
  have hreplanned : replannedIn s'.log = replannedIn s.log := hnew ▸ replannedIn_quiet hquiet
  refine ⟨hnew ▸ h.proper.quiet hquiet, ?_, ?_, ?_, ?_⟩
  · rw [hplanned, hq.counters]; exact h.turns
  · rw [hmotions, hq.counters]; exact h.actions
  · rw [hreplanned, hq.counters]; exact h.replans
  · rw [hms, hq.counters]; exact h.motion

theorem getLast?_append_of_some {α : Type} {new old : List α} {x : α} (h : old.getLast? = some x) :
    (new ++ old).getLast? = some x := by
  rw [List.getLast?_append, h]
  rfl

theorem Live.quiet (h : Live a goal started s) (hq : Quiet s s') : Live a goal started s' := by
  obtain ⟨new, hnew, hquiet⟩ := hq.log
  refine ⟨h.toOver.quiet hq, ?_, ?_, ?_, ?_⟩
  · rw [hq.counters, hnew, plannedIn_quiet hquiet]; exact h.turn
  · rw [hq.controller]; exact h.known
  · rw [hq.seen, hnew, motionsIn_quiet hquiet]; exact h.seen
  · rw [hnew]; exact getLast?_append_of_some h.began

theorem quiet_of_same {s s' : AgentState σ} (hlog : s'.log = s.log) (hcounters : s'.counters = s.counters)
    (hseen : s'.seenProposals = s.seenProposals) (hcontroller : s'.controller = s.controller) : Quiet s s' :=
  ⟨⟨[], by rw [hlog]; rfl, by simp⟩, hcounters, hseen, hcontroller⟩

-- Calls of the body

theorem plain_run {α : Type} {x : Call σ α} {Q : α → AgentState σ → Prop} {P : AgentState σ → Prop}
    (h : Triple x s Q (fun _ => P)) : Triple (plain x) s Q (fun _ => P) :=
  Triple.mapError h

theorem orFinish_run {α : Type} {x : Call σ α} {Q : α → AgentState σ → Prop} {P : AgentState σ → Prop}
    {caught : Raised → Bool} {t : Termination} {o : Option ObservationEnvelope} (h : Triple x s Q (fun _ => P)) :
    Triple (orFinish caught t o x) s Q (fun _ => P) :=
  Triple.mapError h

theorem noted_out {α : Type} {x : Call σ α} {events : α → List Event} (h : Live a goal started s)
    (hx : Triple x s (fun v => Noted (events v) s) (fun _ => Noted [] s)) :
    Triple x s (fun v => Noted (events v) s) (fun _ => Out a goal) :=
  hx.mono (fun _ _ h => h) fun _ _ hn => (h.quiet (quiet_of_noted hn)).out

theorem deadline_out (h : Live a goal started s) (required : Int) :
    Triple (a.deadlineNow started required) s (fun r s' => Noted [.clock r.1] s s' ∧ (r.2 = false →
      started ≤ r.1 ∧ r.1 - started + required + a.limits.terminalStopReserveMs < a.limits.maxElapsedMs))
      (fun _ => Out a goal) :=
  (deadlineNow_run started required s).mono (fun _ _ h => h) fun _ _ hn => (h.quiet (quiet_of_noted hn)).out

theorem checked_out {α : Type} (h : Live a goal started s) (r : Except Raised α) :
    Triple (Prog.ofExcept r : Call σ α) s (fun v s' => r = .ok v ∧ s' = s) (fun _ => Out a goal) := by
  refine Triple.ofExcept ?_
  cases r with
  | ok v => exact ⟨rfl, rfl⟩
  | error e => exact h.out

theorem say_run (texts : List String) (s : AgentState σ) {E : Raised → AgentState σ → Prop} :
    Triple (say texts) s (fun _ => Quiet s) E :=
  Triple.modify (quiet_of_same rfl rfl rfl rfl)

theorem enter_run (h : Live a goal started s) :
    Triple (a.enter goal c started o) s (fun _ s' => Quiet s s' ∧ sameController c o = true ∧ safeObservation o = true ∧
      s'.counters.plannerTurns < a.limits.maxPlannerTurns ∧ s'.counters.actions < a.limits.maxActions)
      (fun _ => Out a goal) := by
  refine Triple.failIf (fun _ => h.out) fun hsafe => ?_
  refine Triple.bind (plain_run (deadline_out h 0)) fun deadline s₁ h₁ => ?_
  have hquiet := quiet_of_noted h₁.1
  have hl₁ := h.quiet hquiet
  refine Triple.get_bind (Triple.failIf (fun _ => hl₁.out) fun hbudget => ?_)
  refine Triple.bind (plain_run (checked_out hl₁ _)) fun satisfied s₂ h₂ => ?_
  obtain ⟨-, rfl⟩ := h₂
  refine Triple.check (fun _ => hl₁.out) fun _ => ⟨hquiet, ?_⟩
  obtain ⟨hsame, hsafe⟩ := not_or.mp hsafe
  obtain ⟨-, hturns⟩ := not_or.mp hbudget
  obtain ⟨hturns, hactions⟩ := not_or.mp hturns
  exact ⟨Bool.eq_true_of_not_eq_false hsame, Bool.eq_true_of_not_eq_false hsafe, not_le.mp hturns, not_le.mp hactions⟩

structure Turned (s s' : AgentState σ) : Prop where
  log : ∃ new, s'.log = new ++ s.log
  turns : s'.counters.plannerTurns = s.counters.plannerTurns + 1
  actions : s'.counters.actions = s.counters.actions

theorem called_out (h : Live a goal started s) (hturns : s.counters.plannerTurns < a.limits.maxPlannerTurns)
    (events : List Event) (hq : ∀ e ∈ events, e.isQuiet = true) (hn : Noted (events ++ [.planned]) s s') :
    Out a goal s' ∧ Live a goal started { s' with counters := { s'.counters with plannerTurns := s'.counters.plannerTurns + 1 } } := by
  obtain ⟨world, rfl⟩ := hn
  have hlog : (events ++ [.planned]) ++ s.log = events ++ .planned :: s.log := by simp
  have hcalled : Over a goal { s with log := .planned :: s.log } := by
    refine ⟨h.proper, ?_, h.actions, h.replans, h.motion⟩
    have hplanned : plannedIn (.planned :: s.log) = s.counters.plannerTurns + 1 := by
      rw [← h.turn]; exact List.countP_cons_of_pos rfl
    show _ ≤ plannedIn (.planned :: s.log) ∧ plannedIn (.planned :: s.log) ≤ _
    rw [hplanned]
    exact ⟨Nat.le_succ _, hturns⟩
  have hgrown : Quiet { s with log := .planned :: s.log }
      { s with world := world, log := (events ++ [.planned]) ++ s.log } :=
    ⟨⟨events, hlog, hq⟩, rfl, rfl, rfl⟩
  have hover := hcalled.quiet hgrown
  have hplanned : plannedIn ((events ++ [.planned]) ++ s.log) = s.counters.plannerTurns + 1 := by
    rw [hlog, plannedIn_quiet hq, ← h.turn]
    exact List.countP_cons_of_pos rfl
  have hmotions : motionsIn ((events ++ [.planned]) ++ s.log) = motionsIn s.log := by
    rw [hlog, motionsIn_quiet hq]
    rfl
  refine ⟨⟨hover, fun _ => h.known⟩, ⟨hover.proper, ?_, hover.actions, hover.replans, hover.motion⟩, hplanned, h.known, ?_, ?_⟩
  · show _ ≤ plannedIn ((events ++ [.planned]) ++ s.log) ∧ plannedIn ((events ++ [.planned]) ++ s.log) ≤ _
    rw [hplanned]
    exact ⟨Nat.le_refl _, hturns⟩
  · show ∀ m ∈ motionsIn ((events ++ [.planned]) ++ s.log), _
    rw [hmotions]
    exact h.seen
  · exact getLast?_append_of_some h.began

theorem callPlanner_run (context : PlanningContext) (s : AgentState σ) {E : Raised → AgentState σ → Prop} :
    Triple (a.callPlanner context) s (fun _ => Noted [.planned] s) E := by
  refine Triple.bind (note_noted .planned s) fun _ t ht => ?_
  have hcalled : Settles (onWorld (a.planner context)) t (Noted [.planned] s) :=
    (onWorld_noted _ t).mono (fun _ _ hu => ht.trans hu) fun _ _ hu => ht.trans hu
  exact Triple.attempt hcalled

theorem plan_run (h : Live a goal started s) (hturns : s.counters.plannerTurns < a.limits.maxPlannerTurns) :
    Triple (a.plan goal started o feedback) s (fun _ s' => Live a goal started s' ∧ Turned s s') (fun _ => Out a goal) := by
  refine Triple.bind (plain_run (say_run _ _)) fun _ s₁ hq₁ => ?_
  have hl₁ := h.quiet hq₁
  refine Triple.get_bind (Triple.bind (plain_run (noted_out hl₁ (nowMs_run s₁))) fun began s₂ h₂ => ?_)
  have hq₂ := trans_of Quiet hq₁ (quiet_of_noted h₂)
  have hl₂ := h.quiet hq₂
  have hturns₂ : s₂.counters.plannerTurns < a.limits.maxPlannerTurns := by rw [hq₂.counters]; exact hturns
  have hturned : ∀ {events t}, (∀ e ∈ events, e.isQuiet = true) → Noted (events ++ [.planned]) s₂ t →
      Turned s { t with counters := { t.counters with plannerTurns := t.counters.plannerTurns + 1 } } := by
    rintro events t - ⟨world, rfl⟩
    obtain ⟨new, hnew, -⟩ := hq₂.log
    refine ⟨⟨events ++ [.planned] ++ new, ?_⟩, ?_, ?_⟩
    · show events ++ [.planned] ++ s₂.log = _
      rw [hnew, ← List.append_assoc]
    · exact congrArg (·.plannerTurns + 1) hq₂.counters
    · exact congrArg (·.actions) hq₂.counters
  refine Triple.bind (plain_run (callPlanner_run _ s₂)) fun raw s₃ h₃ => ?_
  cases raw with
  | error e =>
    have hl₄ := (called_out hl₂ hturns₂ [] (by simp) h₃).2
    exact Triple.modify_bind (Triple.throw hl₄.out)
  | ok raw =>
    have hnow : Triple a.nowMs s₃ (fun now => Noted [.clock now] s₃) (fun _ => Out a goal) :=
      (nowMs_run s₃).mono (fun _ _ h => h) fun _ _ hn => (called_out hl₂ hturns₂ [] (by simp) (h₃.trans hn)).1
    refine Triple.bind (plain_run hnow) fun completed s₄ h₄ => ?_
    have h₄ : Noted ([.clock completed] ++ [.planned]) s₂ s₄ := h₃.trans h₄
    have hquiet : ∀ e ∈ [Event.clock completed], e.isQuiet = true := by simp [Event.isQuiet]
    obtain ⟨-, hl₅⟩ := called_out hl₂ hturns₂ _ hquiet h₄
    have hcounted := hturned hquiet h₄
    refine Triple.modify_bind (Triple.failIf (fun _ => hl₅.out) fun _ => ?_)
    refine Triple.bind (plain_run (deadline_out hl₅ 0)) fun deadline s₆ h₆ => ?_
    have hq₆ := quiet_of_noted h₆.1
    have hl₆ := hl₅.quiet hq₆
    refine Triple.failIf (fun _ => hl₆.out) fun _ => Triple.pure ⟨hl₆, ?_⟩
    obtain ⟨new, hnew⟩ := hcounted.log
    obtain ⟨new', hnew', -⟩ := hq₆.log
    exact ⟨⟨new' ++ new, by rw [hnew', hnew, List.append_assoc]⟩, hq₆.counters ▸ hcounted.turns, hq₆.counters ▸ hcounted.actions⟩

-- Between two turns

def Onward (a : ClosedLoopAgent σ) (goal : MotorPositionGoal) (started : Int) (turns : Nat)
    (next : ObservationEnvelope × Option PlannerFeedback) (s : AgentState σ) : Prop :=
  Live a goal started s ∧ .observed next.1 ∈ s.log ∧ s.counters.plannerTurns = turns

theorem replan_run (h : Live a goal started s) (hreplans : s.counters.replans < a.limits.maxReplans)
    {t : Termination} {o : Option ObservationEnvelope} {next : ObservationEnvelope → Option PlannerFeedback} :
    Triple (do
      modify fun s => { s with
        counters := { s.counters with replans := s.counters.replans + 1 }
        log := .replanned :: s.log }
      plain (say ["REPLANNING", "OBSERVING"])
      let o ← orFinish Raised.apiError t o a.observe
      return (o, next o) : Body σ _) s (Onward a goal started s.counters.plannerTurns) (fun _ => Out a goal) := by
  have hreplanned : replannedIn (.replanned :: s.log) = s.counters.replans + 1 := by
    rw [← h.replans.1]
    exact List.countP_cons_of_pos rfl
  refine Triple.modify_bind ?_
  have hbegan : ([Event.replanned] ++ s.log).getLast? = some (.clock started) := getLast?_append_of_some h.began
  have hl₁ : Live a goal started { s with
      counters := { s.counters with replans := s.counters.replans + 1 }
      log := .replanned :: s.log } :=
    ⟨⟨h.proper, h.turns, h.actions, ⟨hreplanned, hreplans⟩, h.motion⟩, h.turn, h.known, h.seen, hbegan⟩
  refine Triple.bind (plain_run (say_run _ _)) fun _ s₂ h₂ => ?_
  have hl₂ := hl₁.quiet h₂
  refine Triple.bind (orFinish_run (noted_out hl₂ (observe_run s₂))) fun o s₃ h₃ => Triple.pure ?_
  have hquiet := quiet_of_noted h₃
  obtain ⟨world, rfl⟩ := h₃
  exact ⟨hl₂.quiet hquiet, List.mem_cons_self, congrArg (·.plannerTurns) h₂.counters⟩

theorem reject_run (h : Live a goal started s) {code : String} {id : Option String} :
    Triple (a.rejectAndReobserve goal code id o) s (Onward a goal started s.counters.plannerTurns) (fun _ => Out a goal) := by
  refine Triple.bind (plain_run (checked_out h _)) fun error s₁ h₁ => ?_
  obtain ⟨-, rfl⟩ := h₁
  refine Triple.modify_bind ?_
  have hl₂ := h.quiet (quiet_of_same rfl rfl rfl rfl : Quiet s₁
    { s₁ with steps := s₁.steps ++ [⟨id, code, none, o.stateVersion, o.stateVersion, error, error⟩] })
  refine Triple.get_bind (Triple.failIf (fun _ => hl₂.out) fun hreplans => ?_)
  exact replan_run hl₂ (not_le.mp hreplans)

-- A proposal

structure Considered (goal : MotorPositionGoal) (o : ObservationEnvelope) (p : DecisionProposal) (s : AgentState σ) : Prop where
  fresh : p.proposalId ∉ (motionsIn s.log).map (·.proposal.proposalId)
  seen : p.proposalId ∈ s.seenProposals
  own : p.goalId = goal.goalId
  bound : p.basedOnStateVersion = o.stateVersion

structure SameButSeen (s s' : AgentState σ) : Prop where
  log : s'.log = s.log
  counters : s'.counters = s.counters

theorem consider_run (h : Live a goal started s) :
    Triple (ClosedLoopAgent.considerProposal goal o p) s
      (fun _ s' => Live a goal started s' ∧ SameButSeen s s' ∧ Considered goal o p s')
      (fun _ s' => Live a goal started s' ∧ SameButSeen s s') := by
  refine Triple.get_bind (Triple.failIf (fun _ => ⟨h, rfl, rfl⟩) fun hnew => Triple.modify_bind ?_)
  have hfresh : p.proposalId ∉ (motionsIn s.log).map (·.proposal.proposalId) := by
    intro hmem
    obtain ⟨m, hm, hid⟩ := List.mem_map.mp hmem
    exact hnew (hid ▸ h.seen m hm)
  have hl : Live a goal started { s with seenProposals := p.proposalId :: s.seenProposals } :=
    ⟨⟨h.proper, h.turns, h.actions, h.replans, h.motion⟩, h.turn, h.known, fun m hm => List.mem_cons_of_mem _ (h.seen m hm),
      h.began⟩
  refine Triple.failIf (fun _ => ⟨hl, rfl, rfl⟩) fun hgoal => Triple.check (fun _ => ⟨hl, rfl, rfl⟩) fun hversion => ?_
  exact ⟨hl, ⟨rfl, rfl⟩, hfresh, List.mem_cons_self, not_not.mp hgoal, not_not.mp hversion⟩

structure Authorized (a : ClosedLoopAgent σ) (goal : MotorPositionGoal) (c : ControllerCapabilities) (o : ObservationEnvelope)
    (intent : MotionIntent) (current : ObservationEnvelope) (s : AgentState σ) : Prop where
  latest : latestObservation s.log = some current ∧ .observed current ∈ s.log
  same : sameController c current = true ∧ current.stateVersion = o.stateVersion
  motor : intent.motorRole = goal.motorRole
  toward : ∃ position, goal.position current = .ok position ∧ 0 < (goal.targetDegrees - position) * intent.speedDps
  budget : s.counters.totalMotionMs + intent.durationMs ≤ a.limits.maxTotalMotionMs

theorem checkIntent_run (current : ObservationEnvelope) (s : AgentState σ) :
    Triple (a.checkIntent goal c intent current) s (fun _ s' => s' = s ∧ intent.motorRole = goal.motorRole ∧
      (∃ position, goal.position current = .ok position ∧ 0 < (goal.targetDegrees - position) * intent.speedDps) ∧
      s.counters.totalMotionMs + intent.durationMs ≤ a.limits.maxTotalMotionMs) (fun _ s' => s' = s) := by
  have hread : ∀ {α : Type} (r : Except Raised α),
      Triple (Prog.ofExcept r : Call σ α) s (fun v s' => r = .ok v ∧ s' = s) (fun _ s' => s' = s) := by
    intro α r
    cases r with
    | ok v => exact Triple.ofExcept ⟨rfl, rfl⟩
    | error e => exact Triple.ofExcept rfl
  refine Triple.failIf (fun _ => rfl) fun hmotor => ?_
  refine Triple.bind (hread _) fun position s₁ h₁ => ?_
  obtain ⟨hposition, rfl⟩ := h₁
  refine Triple.failIf (fun _ => rfl) fun htoward => ?_
  refine Triple.bind (hread _) fun motor s₂ h₂ => ?_
  obtain ⟨-, rfl⟩ := h₂
  refine Triple.failIf (fun _ => rfl) fun _ => Triple.failIf (fun _ => rfl) fun _ => Triple.failIf (fun _ => rfl) fun _ => ?_
  refine Triple.get_bind (Triple.check (fun _ => rfl) fun hbudget => ?_)
  exact ⟨rfl, not_not.mp hmotor, ⟨position, hposition, not_le.mp htoward⟩, not_lt.mp hbudget⟩

theorem authorize_run (s : AgentState σ) :
    Triple (a.authorize goal c started o intent) s (fun current s' => Quiet s s' ∧ Authorized a goal c o intent current s')
      (fun _ => Quiet s) := by
  refine Triple.bind (plain_run ((observe_run s).mono (fun _ _ h => h) fun _ _ hn => quiet_of_noted hn)) fun current s₁ h₁ => ?_
  have hq₁ := quiet_of_noted h₁
  refine Triple.failIf (fun _ => hq₁) fun hsame => ?_
  refine Triple.bind (plain_run ((deadlineNow_run started 0 s₁).mono (fun _ _ h => h) fun _ _ hn =>
    trans_of Quiet hq₁ (quiet_of_noted hn))) fun deadline s₂ h₂ => ?_
  have h₂ := h₁.trans h₂.1
  have hq₂ := quiet_of_noted h₂
  refine Triple.failIf (fun _ => hq₂) fun _ => ?_
  refine Triple.bind (plain_run ((checkIntent_run current s₂).mono (fun _ _ h => h) fun _ _ hs => hs ▸ hq₂)) fun _ s₃ h₃ =>
    Triple.pure ?_
  obtain ⟨rfl, hmotor, htoward, hbudget⟩ := h₃
  obtain ⟨hcontroller, hversion⟩ := not_or.mp hsame
  refine ⟨hq₂, ?_, ⟨Bool.eq_true_of_not_eq_false hcontroller, not_not.mp hversion⟩, hmotor, htoward, hbudget⟩
  obtain ⟨world, rfl⟩ := h₂
  exact ⟨rfl, List.mem_cons_of_mem _ List.mem_cons_self⟩

-- A motion

theorem Live.execute (h : Live a goal started s) {m : Motion} (hm : MotionOk a goal s.log m)
    (hseen : m.proposal.proposalId ∈ s.seenProposals) (hactions : s.counters.actions < a.limits.maxActions)
    (hbudget : s.counters.totalMotionMs + m.request.command.durationMs ≤ a.limits.maxTotalMotionMs) {t : List String} :
    Live a goal started { s with
      counters := { s.counters with
        actions := s.counters.actions + 1
        totalMotionMs := s.counters.totalMotionMs + m.request.command.durationMs }
      trace := t
      log := .executed m :: s.log } := by
  have hbegan : ([Event.executed m] ++ s.log).getLast? = some (.clock started) := getLast?_append_of_some h.began
  refine ⟨⟨⟨hm, h.proper⟩, h.turns, ⟨?_, hactions⟩, h.replans, ?_, hbudget⟩, h.turn, h.known, ?_, hbegan⟩
  · exact congrArg (· + 1) h.actions.1
  · show m.request.command.durationMs + motionMs s.log = _
    rw [h.motion.1, Nat.add_comm]
  · intro m' hm'
    rcases List.mem_cons.mp hm' with rfl | hm'
    · exact hseen
    · exact h.seen m' hm'

theorem execute_run (h : Live a goal started s) (hactions : s.counters.actions < a.limits.maxActions)
    (hconsidered : Considered goal o p s) {current : ObservationEnvelope} (hauth : Authorized a goal c o intent current s)
    (hdecision : p.decision = .act intent) (hobserved : .observed o ∈ s.log) (hcontroller : sameController c o = true)
    (hsafe : safeObservation o = true) :
    Triple (a.execute goal episodeId c started current p intent) s
      (fun r s' => Live a goal started s' ∧ .observed r.1 ∈ s'.log ∧
        s'.counters.plannerTurns = s.counters.plannerTurns) (fun _ => Out a goal) := by
  refine Triple.get_bind (Triple.bind (plain_run (deadline_out h _)) fun deadline s₁ h₁ => ?_)
  obtain ⟨h₁, hfits⟩ := h₁
  have hl₁ := h.quiet (quiet_of_noted h₁)
  refine Triple.failIf (fun _ => hl₁.out) fun hopen => ?_
  obtain ⟨hafter, hfits⟩ := hfits (Bool.eq_false_of_not_eq_true hopen)
  obtain ⟨world, rfl⟩ := h₁
  refine Triple.bind (plain_run (checked_out hl₁ _)) fun _ s₂ h₂ => ?_
  obtain ⟨-, rfl⟩ := h₂
  refine Triple.bind (plain_run (checked_out hl₁ _)) fun errorBefore s₃ h₃ => ?_
  obtain ⟨-, rfl⟩ := h₃
  refine Triple.modify_bind (Triple.modify_bind ?_)
  generalize hrequest : a.motionRequest episodeId c started deadline.1 current intent (s.counters.actions + 1) = request
  have hm : MotionOk a goal (.clock deadline.1 :: s.log) ⟨p, current, started, request⟩ := by
    subst hrequest
    refine ⟨hauth.motor, hauth.latest.1, hauth.toward, hdecision, hconsidered.own, ⟨?_, rfl⟩, hconsidered.fresh, ?_,
      ⟨hl₁.began, hafter⟩, rfl, hfits⟩
    · exact hconsidered.bound.trans hauth.same.2.symm
    · intro hconsistent
      have hidentity : current.identity = o.identity :=
        (of_decide_eq_true hauth.same.1).trans (of_decide_eq_true hcontroller).symm
      have hstate := hconsistent current o (List.mem_cons_of_mem _ hauth.latest.2) (List.mem_cons_of_mem _ hobserved)
        hidentity hauth.same.2
      unfold safeObservation at hsafe ⊢
      rw [hstate]
      exact hsafe
  have hduration : request.command.durationMs = intent.durationMs := by rw [← hrequest]; rfl
  have hlive := hl₁.execute (m := ⟨p, current, started, request⟩) (t := s.trace ++ ["EXECUTING"]) hm hconsidered.seen
    hactions (hduration ▸ hauth.budget)
  rw [hduration] at hlive
  refine Triple.bind (orFinish_run (Triple.modify_bind ((onWorld_noted _ _).mono (fun _ _ h => h) fun _ _ hn =>
    (hlive.quiet (quiet_of_noted hn)).out))) fun receipt s₄ h₄ => ?_
  have hl₄ := hlive.quiet (quiet_of_noted h₄)
  refine Triple.bind (plain_run (say_run _ _)) fun _ s₅ h₅ => ?_
  have hl₅ := hl₄.quiet h₅
  refine Triple.bind (orFinish_run (noted_out hl₅ (observe_run s₅))) fun post s₆ h₆ => ?_
  have hl₆ := hl₅.quiet (quiet_of_noted h₆)
  have hturns : s₆.counters.plannerTurns = s.counters.plannerTurns := by
    rw [(quiet_of_noted h₆).counters, h₅.counters, (quiet_of_noted h₄).counters]
  refine Triple.bind (Q := fun _ s' => s' = s₆) (orFinish_run (Triple.check (fun _ => hl₆.out) fun _ => rfl)) fun _ s₇ h₇ => ?_
  subst h₇
  refine Triple.bind (orFinish_run (checked_out hl₆ _)) fun _ s₈ h₈ => ?_
  obtain ⟨-, rfl⟩ := h₈
  refine Triple.bind (orFinish_run (checked_out hl₆ _)) fun errorAfter s₉ h₉ => Triple.pure ?_
  obtain ⟨-, rfl⟩ := h₉
  obtain ⟨world₆, rfl⟩ := h₆
  exact ⟨hl₆, List.mem_cons_self, hturns⟩

theorem evaluate_run (h : Live a goal started s) {post : ObservationEnvelope} {actionId : String} {before after : Int}
    (hpost : .observed post ∈ s.log) :
    Triple (a.evaluate goal started o p post actionId before after feedback) s
      (Onward a goal started s.counters.plannerTurns) (fun _ => Out a goal) := by
  refine Triple.modify_bind ?_
  generalize hs₁ : ({ s with steps := _ } : AgentState σ) = s₁
  have hq₁ : Quiet s s₁ := hs₁ ▸ quiet_of_same rfl rfl rfl rfl
  have hl₁ := h.quiet hq₁
  refine Triple.bind (plain_run (deadline_out hl₁ 0)) fun deadline s₂ h₂ => ?_
  have hq₂ := trans_of Quiet hq₁ (quiet_of_noted h₂.1)
  have hl₂ := h.quiet hq₂
  refine Triple.failIf (fun _ => hl₂.out) fun _ => ?_
  refine Triple.bind (plain_run (checked_out hl₂ _)) fun satisfied s₃ h₃ => ?_
  obtain ⟨-, rfl⟩ := h₃
  refine Triple.failIf (fun _ => hl₂.out) fun _ => Triple.ite (fun _ => ?_) fun _ => ?_
  · exact Triple.pure ⟨hl₂, hq₂.mem hpost, congrArg (·.plannerTurns) hq₂.counters⟩
  · refine Triple.get_bind (Triple.failIf (fun _ => hl₂.out) fun hreplans => ?_)
    rw [← hq₂.counters]
    exact replan_run hl₂ (not_le.mp hreplans)

-- The loop

theorem act_run (h : Live a goal started s) (hactions : s.counters.actions < a.limits.maxActions)
    (hconsidered : Considered goal o p s) (hdecision : p.decision = .act intent) (hobserved : .observed o ∈ s.log)
    (hcontroller : sameController c o = true) (hsafe : safeObservation o = true) :
    Triple (a.act goal episodeId c started o feedback p intent) s (Onward a goal started s.counters.plannerTurns)
      (fun _ => Out a goal) := by
  refine Triple.bind (plain_run (say_run _ _)) fun _ s₁ hq₁ => ?_
  have hl₁ := h.quiet hq₁
  refine Triple.bind (Triple.attempt (P := fun r s' => Quiet s s' ∧ ∀ current, r = .ok current →
    Authorized a goal c o intent current s') ((authorize_run s₁).mono ?_ ?_)) fun r s₂ h₂ => ?_
  · rintro current s' ⟨hq, hauth⟩
    exact ⟨trans_of Quiet hq₁ hq, fun current' hr => by cases hr; exact hauth⟩
  · intro e s' hq
    exact ⟨trans_of Quiet hq₁ hq, nofun⟩
  obtain ⟨hq₂, hauth⟩ := h₂
  have hl₂ := h.quiet hq₂
  have hturns : s.counters.plannerTurns = s₂.counters.plannerTurns := by rw [hq₂.counters]
  cases r with
  | error e =>
    cases e with
    | finish => exact Triple.throw hl₂.out
    | raised e => exact Triple.ite (fun _ => hturns ▸ reject_run hl₂) fun _ => Triple.throw hl₂.out
  | ok current =>
    obtain ⟨new, hnew, hquiet⟩ := hq₂.log
    have hconsidered₂ : Considered goal o p s₂ := by
      refine ⟨?_, ?_, hconsidered.own, hconsidered.bound⟩
      · rw [hnew, motionsIn_quiet hquiet]; exact hconsidered.fresh
      · rw [hq₂.seen]; exact hconsidered.seen
    have hactions₂ : s₂.counters.actions < a.limits.maxActions := by rw [hq₂.counters]; exact hactions
    refine Triple.bind (execute_run hl₂ hactions₂ hconsidered₂ (hauth current rfl) hdecision (hq₂.mem hobserved) hcontroller
      hsafe) fun r s₃ h₃ => ?_
    obtain ⟨hl₃, hpost, hturns₃⟩ := h₃
    rw [hturns, ← hturns₃]
    exact evaluate_run hl₃ hpost

theorem turn_run (h : Live a goal started s) (hturns : s.counters.plannerTurns < a.limits.maxPlannerTurns)
    (hactions : s.counters.actions < a.limits.maxActions) (hobserved : .observed o ∈ s.log)
    (hcontroller : sameController c o = true) (hsafe : safeObservation o = true) :
    Triple (a.turn goal episodeId c started o feedback) s (Onward a goal started (s.counters.plannerTurns + 1))
      (fun _ => Out a goal) := by
  refine Triple.bind (plan_run h hturns) fun raw s₁ h₁ => ?_
  obtain ⟨hl₁, hturned⟩ := h₁
  rw [← hturned.turns]
  have hobserved₁ : .observed o ∈ s₁.log := by
    obtain ⟨new, hnew⟩ := hturned.log
    rw [hnew]
    exact List.mem_append_right _ hobserved
  cases decodeDecisionProposal raw with
  | error e => exact reject_run hl₁
  | ok p =>
    refine Triple.bind (Triple.attempt (P := fun r s' => Live a goal started s' ∧ SameButSeen s₁ s' ∧
      ∀ u, r = .ok u → Considered goal o p s') ((consider_run hl₁).mono (fun _ _ h => ⟨h.1, h.2.1, fun _ _ => h.2.2⟩)
        fun _ _ h => ⟨h.1, h.2, nofun⟩)) fun r s₂ h₂ => ?_
    obtain ⟨hl₂, hsame, hconsidered⟩ := h₂
    have hturns₂ : s₁.counters.plannerTurns = s₂.counters.plannerTurns := by rw [hsame.counters]
    rw [hturns₂]
    cases r with
    | error e => exact reject_run hl₂
    | ok u =>
      cases hdecision : p.decision with
      | abort code => exact Triple.throw hl₂.out
      | act intent =>
        have hactions₂ : s₂.counters.actions < a.limits.maxActions := by
          rw [hsame.counters, hturned.actions]; exact hactions
        exact act_run hl₂ hactions₂ (hconsidered u rfl) hdecision (hsame.log ▸ hobserved₁) hcontroller hsafe

theorem loop_run (left : Nat) (h : Live a goal started s) (hobserved : .observed o ∈ s.log)
    (hleft : s.counters.plannerTurns + left = a.limits.maxPlannerTurns) :
    Triple (a.loop goal episodeId c started left o feedback) s (fun _ _ => False) (fun _ => Out a goal) := by
  induction left generalizing s o feedback with
  | zero =>
    refine Triple.bind (enter_run h) fun _ s₁ h₁ => ?_
    obtain ⟨hq, -, -, hturns, -⟩ := h₁
    rw [hq.counters] at hturns
    omega
  | succ left ih =>
    refine Triple.bind (enter_run h) fun _ s₁ h₁ => ?_
    obtain ⟨hq, hcontroller, hsafe, hturns, hactions⟩ := h₁
    refine Triple.bind (turn_run (h.quiet hq) hturns hactions (hq.mem hobserved) hcontroller hsafe) fun next s₂ h₂ => ?_
    obtain ⟨hl₂, hnext, hcount⟩ := h₂
    refine ih hl₂ hnext ?_
    rw [hcount, hq.counters]
    omega

-- Episodes

theorem initial_over (w : σ) : Over a goal { world := w } :=
  ⟨trivial, ⟨Nat.le_refl _, Nat.zero_le _⟩, ⟨rfl, Nat.zero_le _⟩, ⟨rfl, Nat.zero_le _⟩, ⟨rfl, Nat.zero_le _⟩⟩

theorem begin_run (h : Over a goal s) (hnew : ¬ Obtained s.log) (hseen : motionsIn s.log = [])
    (hturn : plannedIn s.log = s.counters.plannerTurns) (hbegan : s.log.getLast? = some (.clock started)) :
    Triple (a.begin goal) s (fun _ s' => Live a goal started s' ∧ s'.counters = s.counters) (fun _ => Out a goal) := by
  refine Triple.bind ((capabilities_run s).mono (fun _ _ h => h) fun _ s' hn => ?_) fun c s₁ h₁ => ?_
  · refine ⟨h.quiet (quiet_of_noted hn), fun hobtained => ?_⟩
    exact (hnew (hn.obtained (fun _ => List.not_mem_nil) hobtained)).elim
  have hq₁ := quiet_of_noted h₁
  have hover := h.quiet hq₁
  obtain ⟨world, rfl⟩ := h₁
  refine Triple.modify_bind ?_
  have hlog : ([Event.capabilities c] ++ s.log).getLast? = some (.clock started) := getLast?_append_of_some hbegan
  have hl : Live a goal started { s with
      world := world
      log := [Event.capabilities c] ++ s.log
      controller := some c } := by
    refine ⟨⟨hover.proper, hover.turns, hover.actions, hover.replans, hover.motion⟩, hturn, rfl, fun m hm => ?_, hlog⟩
    have hm : m ∈ motionsIn s.log := hm
    rw [hseen] at hm
    exact (List.not_mem_nil hm).elim
  refine Triple.bind (checked_out hl _) fun _ s₂ h₂ => ?_
  obtain ⟨-, rfl⟩ := h₂
  refine Triple.modify_bind (Triple.pure ⟨hl.quiet (quiet_of_same rfl rfl rfl rfl), rfl⟩)

theorem body_run (w : σ) :
    Triple (a.body goal episodeId) { world := w } (fun _ _ => False) (fun _ => Out a goal) := by
  refine Triple.bind (plain_run ((nowMs_run _).mono (fun _ _ h => h) fun _ s' hn => ?_)) fun started s₁ h₁ => ?_
  · refine ⟨(initial_over w).quiet (quiet_of_noted hn), fun hobtained => ?_⟩
    obtain ⟨c, hc⟩ := hn.obtained (fun _ => List.not_mem_nil) hobtained
    exact (List.not_mem_nil hc).elim
  have hover : Over a goal s₁ := (initial_over w).quiet (quiet_of_noted h₁)
  obtain ⟨world, rfl⟩ := h₁
  have hnew : ¬ Obtained [Event.clock started] := by
    rintro ⟨c, hc⟩
    cases List.mem_singleton.mp hc
  refine Triple.bind (orFinish_run (begin_run hover hnew rfl rfl rfl)) fun c s₂ h₂ => ?_
  obtain ⟨hl₂, hcounters⟩ := h₂
  refine Triple.bind (orFinish_run (noted_out hl₂ (observe_run s₂))) fun o s₃ h₃ => ?_
  have hq₃ := quiet_of_noted h₃
  have hl₃ := hl₂.quiet hq₃
  have hchecked : Triple (ClosedLoopAgent.checkFirst goal c o) s₃ (fun _ s' => s' = s₃) (fun _ => Out a goal) := by
    refine Triple.failIf (fun _ => hl₃.out) fun _ => Triple.bind (checked_out hl₃ _) fun _ s₄ h₄ => Triple.pure h₄.2
  refine Triple.bind (orFinish_run hchecked) fun _ s₄ h₄ => ?_
  rw [h₄]
  have hturns : s₃.counters.plannerTurns = 0 := by rw [hq₃.counters, hcounters]
  obtain ⟨world₃, rfl⟩ := h₃
  exact loop_run _ hl₃ List.mem_cons_self (by omega)

theorem runEpisode_run {episodeId : String} (hid : identifierOk episodeId 48 = true) (w : σ) :
    Triple (a.runEpisode goal episodeId) { world := w }
      (fun r s' => Over a goal s' ∧ Ends s'.log ∧ Reported a goal r s')
      (fun _ s' => Over a goal s' ∧ (Obtained s'.log → Stopped s'.log ∨ s'.controller.isSome = true)) := by
  refine Triple.bind (Triple.attempt (P := fun r s' => Out a goal s' ∧ ∀ u, r ≠ .ok u)
    ((body_run w).mono (fun _ _ h => h.elim) fun _ _ h => ⟨h, nofun⟩)) fun r s₁ h₁ => ?_
  obtain ⟨⟨hover, htracked⟩, hended⟩ := h₁
  cases r with
  | ok u => exact (hended u rfl).elim
  | error e =>
    cases e with
    | raised e => exact Triple.throw ⟨hover, fun h => .inr (htracked h)⟩
    | finish termination observation =>
      refine (finish_run hid htracked termination observation).mono ?_ ?_
      · rintro r s' ⟨hq, hends, hreported⟩
        exact ⟨hover.quiet hq, hends, hreported⟩
      · rintro e s' ⟨hq, hends⟩
        exact ⟨hover.quiet hq, fun h => .inl (hends h)⟩

structure Episode (a : ClosedLoopAgent σ) (goal : MotorPositionGoal) (r : Except Raised EpisodeResult) (s : AgentState σ) :
    Prop where
  bounded : Over a goal s
  ends : Ends s.log
  reported : ∀ result, r = .ok result → Reported a goal result s

theorem guardedEpisode_run {episodeId : String} (hid : identifierOk episodeId 48 = true) (w : σ) :
    Triple (a.guardedEpisode goal episodeId) { world := w } (fun r s' => Episode a goal (.ok r) s')
      (fun e s' => Episode a goal (.error e) s') := by
  refine Triple.bind (Triple.attempt (P := fun r s' => Over a goal s' ∧ Prog.Ended (fun r => Ends s'.log ∧ Reported a goal r s')
    (fun _ => Obtained s'.log → Stopped s'.log ∨ s'.controller.isSome = true) r) (runEpisode_run hid w)) fun r s₁ h₁ => ?_
  obtain ⟨hover, h₁⟩ := h₁
  cases r with
  | ok result => exact Triple.pure ⟨hover, h₁.1, fun r hr => by cases hr; exact h₁.2⟩
  | error e =>
    refine Triple.get_bind ?_
    refine Triple.bind (Q := fun _ s' => Episode a goal (.error e) s') ?_ fun _ s₂ h₂ => Triple.throw h₂
    exact (bestEffort_run hid h₁).mono (fun _ _ h => ⟨hover.quiet h.1, h.2, nofun⟩)
      fun _ _ h => ⟨hover.quiet h.1, h.2, nofun⟩

theorem run_episode (a : ClosedLoopAgent σ) (goal : MotorPositionGoal) (w : σ) :
    Episode a goal (a.run goal w).1 (a.run goal w).2 := by
  have hnothing : ∀ (w : σ) (e : Raised), Episode a goal (.error e) ({ world := w } : AgentState σ) := by
    intro w e
    refine ⟨initial_over w, ?_, nofun⟩
    rintro ⟨c, hc⟩
    exact (List.not_mem_nil hc).elim
  unfold ClosedLoopAgent.run
  rcases a.idFactory w with ⟨e | episodeId, w'⟩
  · exact hnothing w' e
  · dsimp only
    split
    next hid =>
      have h : Triple (a.guardedEpisode goal episodeId) { world := w' } (fun r s' => Episode a goal (.ok r) s')
        (fun e s' => Episode a goal (.error e) s') := guardedEpisode_run hid w'
      unfold Triple at h
      rcases hr : a.guardedEpisode goal episodeId { world := w' } with ⟨e | result, s'⟩ <;> rw [hr] at h <;> exact h
    · exact hnothing w' _

/-- Over every robot, planner, clock and id factory, whatever they answer or
raise: every motion that is executed is all right where it is, the budgets are
kept, once the capabilities were obtained a stop was asked for after the last
motion, and a completed episode ends with a verified stop whose fresh
observation satisfies the goal, without fault, touch or running motor. -/
theorem episode_bounded (a : ClosedLoopAgent σ) (goal : MotorPositionGoal) (w : σ) :
    (∀ newer m older, (a.run goal w).2.log = newer ++ .executed m :: older → MotionOk a goal older m) ∧
    ((motionsIn (a.run goal w).2.log).length ≤ a.limits.maxActions ∧
      plannedIn (a.run goal w).2.log ≤ a.limits.maxPlannerTurns ∧
      replannedIn (a.run goal w).2.log ≤ a.limits.maxReplans ∧
      motionMs (a.run goal w).2.log ≤ a.limits.maxTotalMotionMs) ∧
    (Obtained (a.run goal w).2.log → Stopped (a.run goal w).2.log) ∧
    ∀ result, (a.run goal w).1 = .ok result → result.counters = (a.run goal w).2.counters ∧
      (result.completed = true → ∃ final, result.finalObservation = some final ∧
        Verified a final (a.run goal w).2.log ∧ safeObservation final = true ∧ goal.satisfied final = .ok true) := by
  obtain ⟨hover, hends, hreported⟩ := run_episode a goal w
  refine ⟨?_, ⟨?_, hover.turns.2, ?_, ?_⟩, hends, fun result hresult => ⟨(hreported result hresult).counters, fun hcompleted => ?_⟩⟩
  · intro newer m older hlog
    have hproper := hover.proper
    rw [hlog] at hproper
    exact hproper.at
  · rw [hover.actions.1]
    exact hover.actions.2
  · rw [hover.replans.1]
    exact hover.replans.2
  · rw [hover.motion.1]
    exact hover.motion.2
  · exact ((hreported result hresult).completed hcompleted).2

end RobotLlm.AgentLoop
