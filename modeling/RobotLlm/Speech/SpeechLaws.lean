import RobotLlm.Speech.WindowLaws

/-!
# What becomes of an offered utterance

An item whose admission still waits is in a slot or in the hands of a call
that resolves it next. Items start in the order of their numbers, a cancelled
episode leaves nothing behind, and a text comes again only after as many
others as the window holds.
-/

namespace RobotLlm.Speech

open RobotLlm.Lib

namespace SpeechRuntime

variable {fold : TextFold} {s s' : SpeechRuntime} {i : SpeechStep} {event : SpeechEvent}

-- Admissions

theorem Moves.later (hm : Moves fold s i event s') : Later s s' := by
  cases hm with
  | episodeCancelled => exact cancelActive_later (s := dropPending _ { s with windows := _ })
  | closed => exact cancelActive_later (s := dropPending _ s)
  | resolved => exact resolve_later _ _
  | marked => exact resolve_later _ _
  | settled => exact resolve_later _ _
  | _ => exact fun _ _ => rfl

def workerItem : WorkerPlace → Option SpeechItem
  | .waiting | .ended => none
  | .speaking item | .settling item _ | .clearing item => some item

/-- The worker's item is the active one, and what is about to be resolved gets
a final state. -/
structure WorkerOk (s : SpeechRuntime) : Prop where
  active : s.active.map (·.item) = workerItem s.worker
  settled : ∀ item a, s.worker = .clearing item → item.admission = some a → s.admissions a ≠ .pending
  settling : ∀ item state, s.worker = .settling item state → state ≠ .pending
  held : ∀ thread item state, s.callers thread = some (item, state) → state ≠ .pending

theorem holding_held {thread t : Nat} {item : Option SpeechItem} {state state' : AdmissionState} {held : SpeechItem}
    (hstate : state ≠ .pending) (hheld : ∀ thread item state, s.callers thread = some (item, state) → state ≠ .pending)
    (h : (holding thread item state s).callers t = some (held, state')) : state' ≠ .pending := by
  simp only [holding] at h
  split at h
  · obtain ⟨_, _, heq⟩ := Option.map_eq_some_iff.mp h
    cases heq
    exact hstate
  · exact hheld t held state' h

theorem WorkerOk.moves (hw : WorkerOk s) (hm : Moves fold s i event s') : WorkerOk s' := by
  have hlater := hm.later
  obtain ⟨hactive, hsettled, hsettling, hheld⟩ := hw
  have hcancel : ∀ which : SpeechItem → Bool, ∀ t : SpeechRuntime, t.active = s.active →
      (cancelActive which t).active.map (·.item) = workerItem s.worker := fun which t ht => by
    rw [cancelActive_active, ht, ← hactive, Option.map_map]
    congr 1
    funext active
    simp only [Function.comp]
    split <;> rfl
  cases hm with
  | quiet => exact ⟨hactive, hsettled, hsettling, hheld⟩
  | queued => exact ⟨hactive, hsettled, hsettling, fun _ _ _ => holding_held (by decide) hheld⟩
  | duplicate => exact ⟨hactive, hsettled, hsettling, fun _ _ _ => holding_held (by decide) hheld⟩
  | episodeCancelled =>
    refine ⟨?_, ?_, ?_, fun _ _ _ => holding_held (by decide) (by simpa [dropPending] using hheld)⟩
    · exact (hcancel _ (dropPending _ { s with windows := _ }) rfl).trans (by simp [holding, dropPending])
    · intro item a hworker ha
      have hne := hsettled item a (by simpa [holding, dropPending] using hworker) ha
      rw [hlater a hne]
      exact hne
    · exact fun item state hworker => hsettling item state (by simpa [holding, dropPending] using hworker)
  | drained => exact ⟨hactive, hsettled, hsettling, hheld⟩
  | closed =>
    refine ⟨?_, ?_, ?_, fun _ _ _ => holding_held (by decide) (by simpa [dropPending] using hheld)⟩
    · exact (hcancel (fun _ => true) (dropPending (fun _ => true) s) rfl).trans (by simp [holding, dropPending])
    · intro item a hworker ha
      have hne := hsettled item a (by simpa [holding, dropPending] using hworker) ha
      rw [hlater a hne]
      exact hne
    · exact fun item state hworker => hsettling item state (by simpa [holding, dropPending] using hworker)
  | resolved =>
    refine ⟨hactive, fun item a hworker ha => ?_, hsettling, fun t item state h => ?_⟩
    · have hne := hsettled item a hworker ha
      rw [hlater a hne]
      exact hne
    · dsimp only at h
      split at h
      · cases h
      · exact hheld t item state h
  | playing => exact ⟨rfl, by simp, by simp, hheld⟩
  | workerEnded hworker => exact ⟨by rw [hactive, hworker]; rfl, by simp, by simp, hheld⟩
  | marked =>
    refine ⟨hactive, fun item a hworker ha => ?_, hsettling, hheld⟩
    have hne := hsettled item a hworker ha
    rw [hlater a hne]
    exact hne
  | spoken hworker hstate =>
    refine ⟨by rw [hactive, hworker]; rfl, by simp, ?_, hheld⟩
    rintro _ _ ⟨⟩
    exact hstate
  | settled hworker =>
    refine ⟨by show s.active.map _ = _; rw [hactive, hworker]; rfl, ?_, by simp, hheld⟩
    rintro _ a ⟨⟩ ha
    exact resolve_resolved (hsettling _ _ hworker) ha
  | cleared hworker =>
    rw [hworker] at hactive
    obtain ⟨active, hsome, hitem⟩ := Option.map_eq_some_iff.mp hactive
    refine ⟨?_, by simp, by simp, hheld⟩
    simp [hsome, hitem, workerItem]

/-- The item waits, plays, or is about to be resolved by the call that took it out. -/
def Held (s : SpeechRuntime) (item : SpeechItem) : Prop :=
  s.pending = some item ∨ (∃ cancelSet, s.active = some ⟨item, cancelSet⟩) ∨
    ∃ thread state, s.callers thread = some (item, state)

theorem holding_keeps {thread : Nat} {dropped : Option SpeechItem} {state : AdmissionState} {item : SpeechItem}
    (hfree : s.callers thread = none) (h : ∃ t st, s.callers t = some (item, st)) :
    ∃ t st, (holding thread dropped state s).callers t = some (item, st) := by
  obtain ⟨t, st, ht⟩ := h
  have hne : t ≠ thread := by
    rintro rfl
    rw [hfree] at ht
    cases ht
  exact ⟨t, st, by simpa [holding, hne] using ht⟩

theorem holding_takes (thread : Nat) (state : AdmissionState) (item : SpeechItem) :
    ∃ t st, (holding thread (some item) state s).callers t = some (item, st) := ⟨thread, state, by simp [holding]⟩

theorem Moves.held (hm : Moves fold s i event s') (hw : WorkerOk s) {item : SpeechItem} {a : Nat}
    (ha : item.admission = some a) (hheld : Held s item) (hpending : s'.admissions a = .pending) : Held s' item := by
  have hstill : s.admissions a = .pending := by
    by_contra hne
    exact hne ((hm.later a hne).symm.trans hpending)
  have hcancel : ∀ which : SpeechItem → Bool, ∀ t : SpeechRuntime, t.active = s.active →
      (∃ c, s.active = some ⟨item, c⟩) → ∃ c, (cancelActive which t).active = some ⟨item, c⟩ := by
    rintro which t ht ⟨c, hc⟩
    rw [cancelActive_active, ht, hc, Option.map_some]
    split
    · exact ⟨true, rfl⟩
    · exact ⟨c, rfl⟩
  have hdrop : ∀ which : SpeechItem → Bool, s.pending = some item →
      s.pending.filter (fun item => !which item) = some item ∨ droppable which s = some item := by
    intro which hp
    rw [droppable, hp]
    cases hwhich : which item <;> simp [hwhich]
  obtain hp | hact | hcall := hheld
  · -- the item waits
    cases hm with
    | quiet => exact .inl hp
    | queued =>
      rw [afterQueued, hp]
      exact .inr (.inr (holding_takes _ _ item))
    | duplicate => exact .inl hp
    | @episodeCancelled thread e =>
      obtain hkept | hdropped := hdrop (fun item => decide (item.episodeId = e)) hp
      · exact .inl (by simpa [holding, dropPending] using hkept)
      · rw [hdropped]
        exact .inr (.inr (holding_takes _ _ item))
    | drained => exact .inl hp
    | closed =>
      rw [hp]
      exact .inr (.inr (holding_takes _ _ item))
    | resolved => exact .inl hp
    | playing _ hpend =>
      cases hp.symm.trans hpend
      exact .inr (.inl ⟨false, rfl⟩)
    | workerEnded => exact .inl hp
    | marked => exact .inl hp
    | spoken => exact .inl hp
    | settled => exact .inl hp
    | cleared => exact .inl hp
  · -- the item plays
    have hitem : workerItem s.worker = some item := by
      obtain ⟨c, hc⟩ := hact
      rw [← hw.active, hc]
      rfl
    cases hm with
    | episodeCancelled => exact .inr (.inl (hcancel _ (dropPending _ { s with windows := _ }) rfl hact))
    | closed => exact .inr (.inl (hcancel _ (dropPending _ s) rfl hact))
    | playing hworker =>
      rw [hworker] at hitem
      cases hitem
    | cleared hworker =>
      rw [hworker] at hitem
      cases hitem
      exact absurd hstill (hw.settled item a hworker ha)
    | _ => exact .inr (.inl hact)
  · -- a call holds the item
    cases hm with
    | queued hfree => exact .inr (.inr (holding_keeps hfree hcall))
    | duplicate hfree => exact .inr (.inr (holding_keeps hfree hcall))
    | episodeCancelled hfree =>
      exact .inr (.inr (holding_keeps (s := cancelActive _ (dropPending _ { s with windows := _ })) (by simpa [dropPending] using hfree)
        (by simpa [dropPending] using hcall)))
    | closed hfree =>
      refine .inr (.inr (holding_keeps (s := { cancelActive _ (dropPending _ s) with accepting := _, closed := _ }) ?_ ?_))
      · simpa [dropPending] using hfree
      · simpa [dropPending] using hcall
    | @resolved thread item' state hheld =>
      obtain ⟨t, st, ht⟩ := hcall
      by_cases heq : t = thread
      · subst heq
        cases hheld.symm.trans ht
        exact absurd hpending (resolve_resolved (hw.held t item state ht) ha)
      · exact .inr (.inr ⟨t, st, by simpa [heq] using ht⟩)
    | _ => exact .inr (.inr hcall)

-- The slots

theorem Moves.pending (hm : Moves fold s i event s') {item : SpeechItem} (hp : s'.pending = some item) :
    (s.pending = some item ∧ s.sequence ≤ s'.sequence) ∨
      item.sequence = s.sequence + 1 ∧ s'.sequence = s.sequence + 1 ∧
        ∃ revision fingerprint replaced, event = .queued item revision fingerprint replaced := by
  have hfilter : ∀ which : SpeechItem → Bool, s.pending.filter which = some item → s.pending = some item := fun which h => by
    rw [Option.filter_eq_some_iff] at h
    exact h.1
  cases hm with
  | queued =>
    cases hp
    exact .inr ⟨rfl, rfl, _, _, _, rfl⟩
  | duplicate => exact .inl ⟨hp, Nat.le_succ _⟩
  | episodeCancelled =>
    simp only [holding, cancelActive_pending, cancelActive_sequence, dropPending] at hp ⊢
    exact .inl ⟨hfilter _ hp, Nat.le_refl _⟩
  | closed =>
    simp only [holding, cancelActive_pending, cancelActive_sequence, dropPending] at hp ⊢
    exact .inl ⟨hfilter _ hp, Nat.le_refl _⟩
  | playing => cases hp
  | _ => exact .inl ⟨hp, Nat.le_refl _⟩

theorem Moves.sequence (hm : Moves fold s i event s') : s.sequence ≤ s'.sequence := by
  cases hm with
  | queued => exact Nat.le_succ _
  | duplicate => exact Nat.le_succ _
  | episodeCancelled => simp [holding, dropPending]
  | closed => simp [holding, dropPending]
  | _ => exact Nat.le_refl _

theorem Moves.plays (hm : Moves fold s i event s') {item : SpeechItem} (hevent : event = .playing item) :
    s.pending = some item ∧ s'.pending = none := by
  cases hm with
  | quiet _ hquiet =>
    subst hevent
    cases hquiet
  | playing _ hpending =>
    cases hevent
    exact ⟨hpending, rfl⟩
  | _ => cases hevent

theorem Moves.fate (hm : Moves fold s i event s') {item : SpeechItem} (hp : s.pending = some item)
    (hle : item.sequence ≤ s.sequence) : s'.pending = some item ∨ event = .playing item ∨ event.Discards item := by
  cases hm with
  | queued => exact .inr (.inr ⟨hp, Nat.lt_succ_of_le hle⟩)
  | @episodeCancelled thread e =>
    by_cases he : item.episodeId = e
    · exact .inr (.inr ⟨by simp [droppable, hp, he], he.symm⟩)
    · exact .inl (by simp [holding, dropPending, hp, he])
  | closed => exact .inr (.inr hp)
  | playing _ hpending =>
    cases hp.symm.trans hpending
    exact .inr (.inl rfl)
  | _ => exact .inl hp

theorem Moves.accepts (hm : Moves fold s i event s') {item : SpeechItem} (ha : event.Accepts item) :
    (s'.pending = some item ∨ event.Discards item) ∧ Held s' item := by
  cases hm with
  | quiet _ hquiet => cases event <;> first | exact False.elim hquiet | exact False.elim ha
  | queued =>
    cases ha
    exact ⟨.inl rfl, .inl rfl⟩
  | duplicate =>
    cases ha
    exact ⟨.inr rfl, .inr (.inr (holding_takes _ _ _))⟩
  | _ => exact ha.elim

-- Order and fate

/-- The numbers of the items that started, newest first. -/
def startedNumbers : List SpeechEntry → List Nat
  | [] => []
  | (_, .playing item) :: h => item.sequence :: startedNumbers h
  | _ :: h => startedNumbers h

theorem startedNumbers_cons (i : SpeechStep) (event : SpeechEvent) (h : List SpeechEntry) :
    startedNumbers ((i, event) :: h) = startedNumbers h ∨
      ∃ item, event = .playing item ∧ startedNumbers ((i, event) :: h) = item.sequence :: startedNumbers h := by
  cases event <;> first | exact .inl rfl | exact .inr ⟨_, rfl, rfl⟩

/-- What waits is newer than whatever started, and what started did so in order. -/
structure Ordered (h : List SpeechEntry) (s : SpeechRuntime) : Prop where
  pending : ∀ item, s.pending = some item → item.sequence ≤ s.sequence ∧ ∀ n ∈ startedNumbers h, n < item.sequence
  started : ∀ n ∈ startedNumbers h, n ≤ s.sequence
  sorted : (startedNumbers h).Pairwise (· > ·)

theorem Ordered.moves {h : List SpeechEntry} (ho : Ordered h s) (hm : Moves fold s i event s') :
    Ordered ((i, event) :: h) s' := by
  obtain hsame | ⟨item, rfl, hcons⟩ := startedNumbers_cons i event h
  · refine ⟨fun item hp => ?_, fun n hn => ?_, hsame ▸ ho.sorted⟩
    · rw [hsame]
      obtain ⟨hp, hle⟩ | ⟨hitem, hs', -⟩ := hm.pending hp
      · exact ⟨Nat.le_trans (ho.pending item hp).1 hle, (ho.pending item hp).2⟩
      · refine ⟨by omega, fun n hn => ?_⟩
        have := ho.started n hn
        omega
    · rw [hsame] at hn
      exact Nat.le_trans (ho.started n hn) hm.sequence
  · obtain ⟨hp, hp'⟩ := hm.plays rfl
    obtain ⟨hle, hlt⟩ := ho.pending item hp
    refine ⟨fun other hother => ?_, fun n hn => ?_, ?_⟩
    · rw [hp'] at hother
      cases hother
    · rw [hcons, List.mem_cons] at hn
      obtain rfl | hn := hn
      · exact Nat.le_trans hle hm.sequence
      · exact Nat.le_trans (ho.started n hn) hm.sequence
    · rw [hcons]
      exact List.Pairwise.cons hlt ho.sorted

def Accounted (h : List SpeechEntry) (s : SpeechRuntime) : Prop :=
  ∀ item, (∃ x ∈ h, x.2.Accepts item) →
    (∃ x ∈ h, x.2 = .playing item) ∨ s.pending = some item ∨ ∃ x ∈ h, x.2.Discards item

theorem Accounted.moves {h : List SpeechEntry} (ha : Accounted h s) (ho : Ordered h s) (hm : Moves fold s i event s') :
    Accounted ((i, event) :: h) s' := by
  rintro item ⟨x, hx, hacc⟩
  obtain rfl | hx := List.mem_cons.mp hx
  · obtain hp | hd := (hm.accepts hacc).1
    · exact .inr (.inl hp)
    · exact .inr (.inr ⟨_, List.mem_cons_self, hd⟩)
  · obtain ⟨y, hy, hplays⟩ | hp | ⟨y, hy, hd⟩ := ha item ⟨x, hx, hacc⟩
    · exact .inl ⟨y, List.mem_cons_of_mem _ hy, hplays⟩
    · obtain hp' | rfl | hd := hm.fate hp (ho.pending item hp).1
      · exact .inr (.inl hp')
      · exact .inl ⟨_, List.mem_cons_self, rfl⟩
      · exact .inr (.inr ⟨_, List.mem_cons_self, hd⟩)
    · exact .inr (.inr ⟨y, List.mem_cons_of_mem _ hy, hd⟩)

-- Cancelled episodes

/-- Nothing of the episode waits or plays on but what was offered later. -/
structure Quieted (episodeId : String) (later : List SpeechEntry) (s : SpeechRuntime) : Prop where
  pending : ∀ item, s.pending = some item → item.episodeId = episodeId → ∃ x ∈ later, x.2.Accepts item
  active : ∀ active, s.active = some active → active.item.episodeId = episodeId →
    active.cancelSet = true ∨ ∃ x ∈ later, x.2.Accepts active.item

theorem Moves.active (hm : Moves fold s i event s') {active : ActiveItem} (ha : s'.active = some active) :
    s.pending = some active.item ∨
      ∃ before, s.active = some before ∧ before.item = active.item ∧ (before.cancelSet = true → active.cancelSet = true) := by
  have hcancel : ∀ which : SpeechItem → Bool, ∀ t : SpeechRuntime, t.active = s.active →
      (cancelActive which t).active = some active →
      ∃ before, s.active = some before ∧ before.item = active.item ∧ (before.cancelSet = true → active.cancelSet = true) := by
    intro which t ht h
    rw [cancelActive_active, ht] at h
    obtain ⟨before, hbefore, heq⟩ := Option.map_eq_some_iff.mp h
    refine ⟨before, hbefore, ?_⟩
    subst heq
    split <;> simp
  cases hm with
  | episodeCancelled => exact .inr (hcancel _ (dropPending _ { s with windows := _ }) rfl ha)
  | closed => exact .inr (hcancel _ (dropPending _ s) rfl ha)
  | playing _ hpending =>
    cases ha
    exact .inl hpending
  | cleared =>
    dsimp only at ha
    split at ha
    · cases ha
    · exact .inr ⟨active, ha, rfl, id⟩
  | _ => exact .inr ⟨active, ha, rfl, id⟩

theorem Quieted.moves {e : String} {later : List SpeechEntry} (hq : Quieted e later s) (hm : Moves fold s i event s') :
    Quieted e ((i, event) :: later) s' := by
  refine ⟨fun item hp he => ?_, fun active ha he => ?_⟩
  · obtain ⟨hp, -⟩ | ⟨-, -, _, _, _, rfl⟩ := hm.pending hp
    · obtain ⟨x, hx, hacc⟩ := hq.pending item hp he
      exact ⟨x, List.mem_cons_of_mem _ hx, hacc⟩
    · exact ⟨_, List.mem_cons_self, rfl⟩
  · obtain hp | ⟨before, hbefore, hitem, hset⟩ := hm.active ha
    · obtain ⟨x, hx, hacc⟩ := hq.pending active.item hp he
      exact .inr ⟨x, List.mem_cons_of_mem _ hx, hacc⟩
    · obtain hc | ⟨x, hx, hacc⟩ := hq.active before hbefore (by rw [hitem]; exact he)
      · exact .inl (hset hc)
      · exact .inr ⟨x, List.mem_cons_of_mem _ hx, hitem ▸ hacc⟩

theorem Moves.quieted (hm : Moves fold s i event s') {e : String} (hc : event.Cancels e) : Quieted e [] s' := by
  cases hm with
  | quiet _ hquiet => cases event <;> first | exact False.elim hquiet | exact False.elim hc
  | @episodeCancelled thread =>
    cases hc
    refine ⟨fun item hp he => ?_, fun active ha he => ?_⟩
    · simp only [holding, cancelActive_pending, dropPending, Option.filter_eq_some_iff] at hp
      simp [he] at hp
    · have ha' : (cancelActive (fun item => decide (item.episodeId = e)) (dropPending
          (fun item => decide (item.episodeId = e)) { s with windows := s.windows.erase e })).active = some active := ha
      rw [cancelActive_active] at ha'
      obtain ⟨before, -, heq⟩ := Option.map_eq_some_iff.mp ha'
      subst heq
      split at he
      next hw => exact .inl (by simp [hw])
      next hw => exact absurd (decide_eq_true he) hw
  | _ => exact hc.elim

-- Runs

structure Sound (h : List SpeechEntry) (s : SpeechRuntime) : Prop where
  worker : WorkerOk s
  ordered : Ordered h s
  accounted : Accounted h s
  windows : WindowsOk s
  held : ∀ item, (∃ x ∈ h, x.2.Accepts item) → ∀ a, item.admission = some a → s.admissions a = .pending → Held s item

theorem Sound.empty : Sound [] {} where
  worker := ⟨rfl, nofun, nofun, nofun⟩
  ordered := ⟨nofun, nofun, .nil⟩
  accounted := by
    rintro item ⟨x, hx, -⟩
    cases hx
  windows := by
    intro e window hget
    cases (Dict.get?_empty (k := e)).symm.trans hget
  held := by
    rintro item ⟨x, hx, -⟩
    cases hx

theorem Sound.moves {h : List SpeechEntry} (hs : Sound h s) (hm : Moves fold s i event s') : Sound ((i, event) :: h) s' where
  worker := hs.worker.moves hm
  ordered := hs.ordered.moves hm
  accounted := hs.accounted.moves hs.ordered hm
  windows := hs.windows.moves hm
  held := by
    rintro item ⟨x, hx, hacc⟩ a ha hpending
    obtain rfl | hx := List.mem_cons.mp hx
    · exact (hm.accepts hacc).2
    · refine hm.held hs.worker ha (hs.held item ⟨x, hx, hacc⟩ a ha ?_) hpending
      by_contra hne
      exact hne ((hm.later a hne).symm.trans hpending)

variable {h newer mid older : List SpeechEntry}

theorem runs_sound {ok : SpeechRuntime → SpeechStep → Prop} (hr : (speechRuntime fold).Runs ok {} h s) : Sound h s :=
  hr.historyInvariant .empty fun _ s i hs _ => hs.moves (step_moves s i)

theorem runs_later {ok : SpeechRuntime → SpeechStep → Prop} {s₀ : SpeechRuntime} (hr : (speechRuntime fold).Runs ok s₀ h s) :
    Later s₀ s :=
  hr.invariant (.refl s₀) fun t i hl _ => hl.trans (show Moves fold t i _ _ from step_moves t i).later

theorem runs_quieted {ok : SpeechRuntime → SpeechStep → Prop} {e : String} {x : SpeechEntry}
    (hr : (speechRuntime fold).Runs ok {} (newer ++ x :: older) s) (hc : x.2.Cancels e) : Quieted e newer s := by
  induction newer generalizing s with
  | nil =>
    obtain ⟨t, -, -, hstep⟩ := Machine.Runs.newest hr
    have hm : Moves fold t x.1 _ _ := step_moves t x.1
    rw [hstep] at hm
    exact hm.quieted hc
  | cons y newer ih =>
    obtain ⟨t, ht, -, hstep⟩ := Machine.Runs.newest hr
    have hm : Moves fold t y.1 _ _ := step_moves t y.1
    rw [hstep] at hm
    exact (ih ht).moves hm

theorem runs_remembered {ok : SpeechRuntime → SpeechStep → Prop} {e : String} {revision : Int} {fingerprint : Fingerprint}
    {x : SpeechEntry} (hr : (speechRuntime fold).Runs ok {} (mid ++ x :: older) s)
    (hx : x.2.Queues e revision fingerprint) (hc : ∀ y ∈ mid, ¬ y.2.Cancels e) :
    Remembered e revision fingerprint mid s ∨ Crowded e revision fingerprint mid := by
  induction mid generalizing s with
  | nil =>
    obtain ⟨t, -, -, hstep⟩ := Machine.Runs.newest hr
    have hm : Moves fold t x.1 _ _ := step_moves t x.1
    rw [hstep] at hm
    exact .inl (hm.remembers hx)
  | cons y mid ih =>
    obtain ⟨t, ht, -, hstep⟩ := Machine.Runs.newest hr
    have hm : Moves fold t y.1 _ _ := step_moves t y.1
    rw [hstep] at hm
    obtain hrem | hcrowd := ih ht fun z hz => hc z (List.mem_cons_of_mem _ hz)
    · exact remembered_moves (runs_sound ht).windows hm (hc y List.mem_cons_self) hrem
    · exact .inr hcrowd.grow

theorem runs_crowded {ok : SpeechRuntime → SpeechStep → Prop} {e : String} {revision : Int} {fingerprint : Fingerprint}
    {x y : SpeechEntry} (hr : (speechRuntime fold).Runs ok {} (newer ++ y :: (mid ++ x :: older)) s)
    (hx : x.2.Queues e revision fingerprint) (hy : y.2.Queues e revision fingerprint)
    (hc : ∀ z ∈ mid, ¬ z.2.Cancels e) : Crowded e revision fingerprint mid := by
  obtain ⟨t, ht⟩ := Machine.Runs.older hr
  obtain ⟨t', ht', -, hstep⟩ := Machine.Runs.newest ht
  have hm : Moves fold t' y.1 _ _ := step_moves t' y.1
  rw [hstep] at hm
  obtain hrem | hcrowd := runs_remembered ht' hx hc
  · exact absurd hy (hm.not_queued hrem)
  · exact hcrowd

/-- Every run of the runtime: an admission that still waits belongs to an item
that is in a slot or about to be resolved by the call that took it out, and one
that is resolved stays so; items start in the order of their numbers, and one
that does not was a duplicate, replaced, cancelled or closed; a cancelled
episode has nothing pending and its active item is told to stop; equal texts of
one revision lie a full window apart. -/
theorem speechRuntime_sound (hr : (speechRuntime fold).Runs Machine.always {} h s) :
    (∀ item, (∃ x ∈ h, x.2.Accepts item) → ∀ a, item.admission = some a → s.admissions a = .pending → Held s item) ∧
    (∀ newer older s₀, h = newer ++ older → (speechRuntime fold).Runs Machine.always {} older s₀ → Later s₀ s) ∧
    (startedNumbers h).Pairwise (· > ·) ∧ Accounted h s ∧
    (∀ newer x older e, h = newer ++ x :: older → x.2.Cancels e → Quieted e newer s) ∧
    (∀ newer y mid x older e revision fingerprint, h = newer ++ y :: (mid ++ x :: older) →
      x.2.Queues e revision fingerprint → y.2.Queues e revision fingerprint → (∀ z ∈ mid, ¬ z.2.Cancels e) →
      Crowded e revision fingerprint mid) := by
  have hs := runs_sound hr
  refine ⟨hs.held, ?_, hs.ordered.sorted, hs.accounted, ?_, ?_⟩
  · rintro newer older s₀ rfl hr₀
    obtain ⟨t, ht, hrest⟩ := Machine.Runs.split hr
    rw [Machine.Runs.unique hr₀ ht] at hrest
    exact runs_later hrest
  · rintro newer x older e rfl hc
    exact runs_quieted hr hc
  · rintro newer y mid x older e revision fingerprint rfl hx hy hc
    exact runs_crowded hr hx hy hc

def latinFold : TextFold where
  folded text := text.toList.map Char.toLower
  isSpace c := c == ' '
  isPunctuation c := c == '.' || c == ',' || c == '!' || c == '?'

def patrolOffer (text locale : String) (admission : Option Nat) : Offer :=
  { episodeId := "patrol", text := text, locale := locale, admission := admission }

/-- A run whose second offer takes the place of the first one's item. -/
def replacingRun : List SpeechEntry × SpeechRuntime :=
  (speechRuntime latinFold).runList {} [.start, .offer 0 (patrolOffer "first" "en" (some 0)) .absent,
    .offer 1 (patrolOffer "second" "en" (some 1)) .absent]

def firstItem : SpeechItem := ⟨"patrol", 1, "first", "en", some 0⟩

theorem speechRuntime_sound_replacing : replacingRun.2.admissions 0 = .pending ∧ Held replacingRun.2 firstItem := by
  have hpending : replacingRun.2.admissions 0 = .pending := by decide +kernel
  have haccepted : ∃ x ∈ replacingRun.1, x.2.Accepts firstItem :=
    ⟨_, .tail _ (.head _), show _ = firstItem by decide +kernel⟩
  exact ⟨hpending,
    (speechRuntime_sound (Machine.runs_runList (Machine.stepsOk_always _ _ _))).1 firstItem haccepted 0 rfl hpending⟩

def shortText (k : Nat) : String := String.ofList [Char.ofNat (97 + k / 8), Char.ofNat (97 + k % 8)]

def bothLocales : List SpeechStep :=
  (List.range 64).map fun k =>
    .offer (k + 1) (patrolOffer (shortText (k / 2)) (if k % 2 = 0 then "sv" else "en") none) .absent

def textsQueued (h : List SpeechEntry) : List String :=
  h.filterMap fun x => match x.2 with
    | .queued _ _ fingerprint _ => some fingerprint.2
    | _ => none

instance (e : String) (revision : Int) (fingerprint : Fingerprint) (event : SpeechEvent) :
    Decidable (event.Queues e revision fingerprint) := by
  cases event <;> (simp only [SpeechEvent.Queues]; infer_instance)

instance (e : String) (event : SpeechEvent) : Decidable (event.Cancels e) := by
  cases event <;> (simp only [SpeechEvent.Cancels]; infer_instance)

/-- The item that was replaced is in no slot while its admission still waits;
and two equal texts with only thirty-two others between them are queued, when
those come in both locales. -/
theorem waits_in_no_slot_and_repeats_early :
    (∃ h s item a, (speechRuntime latinFold).Runs Machine.always {} h s ∧ (∃ x ∈ h, x.2.Accepts item) ∧
      item.admission = some a ∧ s.admissions a = .pending ∧ s.pending ≠ some item ∧ s.active = none) ∧
    (∃ newer y mid x older s fingerprint,
      (speechRuntime latinFold).Runs Machine.always {} (newer ++ y :: (mid ++ x :: older)) s ∧
      x.2.Queues "patrol" 0 fingerprint ∧ y.2.Queues "patrol" 0 fingerprint ∧ (∀ z ∈ mid, ¬ z.2.Cancels "patrol") ∧
      (textsQueued mid).eraseDups.length = 32) := by
  constructor
  · refine ⟨replacingRun.1, replacingRun.2, firstItem, 0, Machine.runs_runList (Machine.stepsOk_always _ _ _),
      ⟨_, .tail _ (.head _), show _ = firstItem by decide +kernel⟩, rfl, ?_, ?_, ?_⟩ <;> decide +kernel
  · let m := speechRuntime latinFold
    let repeated := SpeechStep.offer 0 (patrolOffer (shortText 32) "sv" none) .absent
    let started := (m.step {} .start).2
    let between := m.runList (m.step started repeated).2 bothLocales
    have hfirst : m.Runs Machine.always {} _ (m.step started repeated).2 := .cons (.cons .nil trivial) trivial
    have hbetween : m.Runs Machine.always (m.step started repeated).2 between.1 between.2 :=
      Machine.runs_runList (Machine.stepsOk_always _ _ _)
    refine ⟨[], (repeated, (m.step between.2 repeated).1), between.1, _, _, _, ("sv", shortText 32),
      .cons (hfirst.append hbetween) trivial, ?_, ?_, ?_, ?_⟩ <;> decide +kernel

end SpeechRuntime

end RobotLlm.Speech
