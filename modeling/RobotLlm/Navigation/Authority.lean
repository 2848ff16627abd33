import Mathlib.Data.List.AList
import RobotLlm.Lib.Machine
import RobotLlm.Lib.ReplayWindow
import RobotLlm.Navigation.Contract

/-!
# One-shot motion authority

`MotionAuthority` is the registry between a motion supervisor and one motion
bus. A pulse is authorized, then consumed or cancelled once; a STOP revokes
every pulse still pending. Spent identifiers are remembered in a replay
window. Each method runs under the lock, so callers interleave call by call.
-/

namespace RobotLlm.Navigation

open RobotLlm.Lib

structure MotionAuthority where
  maxPending : Nat
  replayWindow : Nat
  /-- Pending pulses under their decision id, the newest first. -/
  pending : AList fun _ : String => DrivePulse
  consumed : ReplayWindow String

namespace MotionAuthority

def new (maxPending : Nat := 64) (replayWindow : Nat := 4096) :
    Except NavigationContractError MotionAuthority := do
  let _ ← integer "max_pending" maxPending 1 10000
  let _ ← integer "replay_window" replayWindow maxPending 100000
  return ⟨maxPending, replayWindow, ∅, .empty⟩

/-- `_remember_consumed_locked`. -/
def rememberConsumed (a : MotionAuthority) (decisionId : String) : MotionAuthority :=
  { a with consumed := a.consumed.remember a.replayWindow decisionId }

/-- What a STOP does to the pulses still pending: all are spent, the oldest
first. -/
def revokePending (a : MotionAuthority) : MotionAuthority :=
  a.pending.keys.reverse.foldl rememberConsumed { a with pending := ∅ }

def authorize (a : MotionAuthority) (pulse : DrivePulse) :
    Except NavigationContractError Unit × MotionAuthority :=
  if pulse.decisionId ∈ a.pending ∨ pulse.decisionId ∈ a.consumed.ids then
    (.error ⟨"duplicate_motion_authorization", "Motion decision ID has already been authorized"⟩, a)
  else
    let a := if pulse.kind = .stop then a.revokePending else a
    if a.pending.entries.length ≥ a.maxPending then
      (.error ⟨"motion_authority_full", "Pending motion authorization capacity exhausted"⟩, a)
    else
      (.ok (), { a with pending := a.pending.insert pulse.decisionId pulse })

/-- The common body of `consume` and `cancel`: take out exactly this pulse,
or refuse. -/
def take (refusal : NavigationContractError) (a : MotionAuthority) (pulse : DrivePulse) :
    Except NavigationContractError Unit × MotionAuthority :=
  if a.pending.lookup pulse.decisionId = some pulse then
    (.ok (), { a with pending := a.pending.erase pulse.decisionId }.rememberConsumed pulse.decisionId)
  else
    (.error refusal, a)

def consume : MotionAuthority → DrivePulse → Except NavigationContractError Unit × MotionAuthority :=
  take ⟨"unauthorized_motion_owner", "Drive pulse has no matching one-shot authorization"⟩

def cancel : MotionAuthority → DrivePulse → Except NavigationContractError Unit × MotionAuthority :=
  take ⟨"unknown_motion_authorization", "Drive pulse has no matching pending authorization"⟩

end MotionAuthority

inductive AuthorityCall where
  | authorize (pulse : DrivePulse)
  | consume (pulse : DrivePulse)
  | cancel (pulse : DrivePulse)
deriving DecidableEq

/-- The registry as its callers see it, one locked call after the other. -/
def motionAuthority : Machine MotionAuthority AuthorityCall (Except NavigationContractError Unit) where
  step a
    | .authorize pulse => a.authorize pulse
    | .consume pulse => a.consume pulse
    | .cancel pulse => a.cancel pulse

abbrev AuthorityEvent := AuthorityCall × Except NavigationContractError Unit

/-- A successful consume or cancel of exactly this pulse. -/
def AuthorityEvent.Spends (pulse : DrivePulse) (e : AuthorityEvent) : Prop :=
  e = (.consume pulse, .ok ()) ∨ e = (.cancel pulse, .ok ())

/-- A successful call after which nothing is left of an earlier authorization
under this identifier: the pulse was consumed or cancelled, or a STOP was
authorized. -/
def AuthorityEvent.Ends (decisionId : String) : AuthorityEvent → Prop
  | (.authorize pulse, .ok ()) => pulse.kind = .stop
  | (.consume pulse, .ok ()) => pulse.decisionId = decisionId
  | (.cancel pulse, .ok ()) => pulse.decisionId = decisionId
  | (_, .error _) => False

-- What a call does

namespace MotionAuthority

variable {a a' : MotionAuthority} {p q : DrivePulse} {id : String}

@[simp] theorem rememberConsumed_pending : (a.rememberConsumed id).pending = a.pending := rfl
@[simp] theorem rememberConsumed_maxPending : (a.rememberConsumed id).maxPending = a.maxPending := rfl
@[simp] theorem rememberConsumed_replayWindow :
    (a.rememberConsumed id).replayWindow = a.replayWindow := rfl

theorem foldl_rememberConsumed (ids : List String) (a : MotionAuthority) :
    ids.foldl rememberConsumed a =
      { a with consumed := ids.foldl (ReplayWindow.remember a.replayWindow) a.consumed } := by
  induction ids generalizing a with
  | nil => rfl
  | cons id ids ih => rw [List.foldl_cons, ih]; rfl

theorem revokePending_eq : a.revokePending =
    { a with
      pending := ∅
      consumed := a.pending.keys.reverse.foldl (ReplayWindow.remember a.replayWindow) a.consumed } := by
  rw [revokePending, foldl_rememberConsumed]

/-- The registry invariant: spent identifiers are remembered soundly, pending
ones are keyed by their own identifier, the two are apart, and both are in
bounds. -/
structure Inv (a : MotionAuthority) : Prop where
  maxPending_pos : 0 < a.maxPending
  maxPending_le : a.maxPending ≤ a.replayWindow
  consumed_sound : a.consumed.Sound a.replayWindow
  keyed : ∀ id p, a.pending.lookup id = some p → p.decisionId = id
  apart : ∀ id, id ∈ a.pending → id ∉ a.consumed.ids
  pending_bound : a.pending.entries.length ≤ a.maxPending

theorem Inv.replayWindow_pos (h : a.Inv) : 0 < a.replayWindow :=
  Nat.lt_of_lt_of_le h.maxPending_pos h.maxPending_le

theorem new_inv {maxPending replayWindow : Nat} (h : new maxPending replayWindow = .ok a) : a.Inv := by
  simp only [new, bind, Except.bind] at h
  split at h
  · cases h
  rename_i hp
  split at h
  · cases h
  rename_i hw
  cases h
  obtain ⟨-, hp⟩ := integer_ok hp
  obtain ⟨-, hw⟩ := integer_ok hw
  refine ⟨by simp only; omega, by simp only; omega, ReplayWindow.empty_sound, ?_, ?_, by simp⟩
  · intro id p h
    simp at h
  · intro id h
    simp at h

theorem revokePending_inv (h : a.Inv) : a.revokePending.Inv := by
  rw [revokePending_eq]
  refine ⟨h.maxPending_pos, h.maxPending_le, ?_, ?_, ?_, by simp⟩
  · refine ReplayWindow.remember_all_sound h.consumed_sound h.replayWindow_pos ?_ fun id hid => ?_
    · exact List.nodup_reverse.mpr a.pending.keys_nodup
    · exact h.apart _ (AList.mem_keys.mpr (List.mem_reverse.mp hid))
  · intro id p h
    simp at h
  · intro id h
    simp at h

theorem mem_revokePending (h : id ∈ a.revokePending.consumed.ids) :
    id ∈ a.pending ∨ id ∈ a.consumed.ids := by
  rw [revokePending_eq] at h
  rcases ReplayWindow.mem_remember_all h with h | h
  · exact .inl (AList.mem_keys.mpr (List.mem_reverse.mp h))
  · exact .inr h

theorem authorize_cases (a : MotionAuthority) (p : DrivePulse) :
    (∃ e, a.authorize p = (.error e, a)) ∨
    (∃ e, p.kind = .stop ∧ a.maxPending = 0 ∧ a.authorize p = (.error e, a.revokePending)) ∨
    (p.decisionId ∉ a.pending ∧ p.decisionId ∉ a.consumed.ids ∧ ∃ b,
      b = (if p.kind = .stop then a.revokePending else a) ∧ b.pending.entries.length < b.maxPending ∧
      a.authorize p = (.ok (), { b with pending := b.pending.insert p.decisionId p })) := by
  unfold authorize
  split
  next => exact .inl ⟨_, rfl⟩
  next hfresh =>
    obtain ⟨hp, hc⟩ := not_or.mp hfresh
    generalize hb : (if p.kind = .stop then a.revokePending else a) = b
    dsimp only
    split
    next hfull =>
      by_cases hstop : p.kind = .stop
      · rw [if_pos hstop] at hb
        subst hb
        rw [revokePending_eq] at hfull
        exact .inr (.inl ⟨_, hstop, by simpa using hfull, rfl⟩)
      · rw [if_neg hstop] at hb
        exact .inl ⟨_, by rw [hb]⟩
    next hroom => exact .inr (.inr ⟨hp, hc, b, rfl, Nat.not_le.mp hroom, rfl⟩)

theorem take_cases (refusal : NavigationContractError) (a : MotionAuthority) (p : DrivePulse) :
    a.take refusal p = (.error refusal, a) ∨
    (a.pending.lookup p.decisionId = some p ∧ a.take refusal p =
      (.ok (), { a with pending := a.pending.erase p.decisionId }.rememberConsumed p.decisionId)) := by
  unfold take
  split
  · exact .inr ⟨‹_›, rfl⟩
  · exact .inl rfl

theorem insert_inv (h : a.Inv) (hroom : a.pending.entries.length < a.maxPending)
    (hp : p.decisionId ∉ a.pending) (hc : p.decisionId ∉ a.consumed.ids) :
    { a with pending := a.pending.insert p.decisionId p }.Inv := by
  refine ⟨h.maxPending_pos, h.maxPending_le, h.consumed_sound, ?_, ?_, ?_⟩
  · intro id q hq
    by_cases hid : id = p.decisionId
    · subst hid
      simp only [AList.lookup_insert, Option.some.injEq] at hq
      rw [← hq]
    · rw [AList.lookup_insert_ne hid] at hq
      exact h.keyed _ _ hq
  · intro id hid
    rcases AList.mem_insert _ |>.mp hid with rfl | hid
    · exact hc
    · exact h.apart _ hid
  · simp only [AList.entries_insert_of_notMem hp, List.length_cons]
    omega

theorem authorize_inv (h : a.Inv) : (a.authorize p).2.Inv := by
  rcases authorize_cases a p with ⟨e, he⟩ | ⟨e, -, -, he⟩ | ⟨hp, hc, b, hb, hroom, he⟩
  · rw [he]; exact h
  · rw [he]; exact revokePending_inv h
  · rw [he]
    split at hb
    next hstop =>
      subst hb
      refine insert_inv (revokePending_inv h) hroom ?_ fun hm => ?_
      · rw [revokePending_eq]; simp
      · exact (mem_revokePending hm).elim hp hc
    next hdrive =>
      subst hb
      exact insert_inv h hroom hp hc

theorem take_inv (h : a.Inv) : (a.take refusal p).2.Inv := by
  rcases take_cases refusal a p with he | ⟨hp, he⟩
  · rw [he]; exact h
  · have hmem : p.decisionId ∈ a.pending := AList.lookup_isSome.mp (by rw [hp]; rfl)
    have hlen := List.length_erase_of_mem (AList.mem_keys.mp hmem)
    rw [he]
    refine ⟨h.maxPending_pos, h.maxPending_le, ?_, ?_, ?_, ?_⟩
    · exact ReplayWindow.remember_sound h.consumed_sound h.replayWindow_pos (h.apart _ hmem)
    · intro id q hq
      by_cases hid : id = p.decisionId
      · subst hid; simp at hq
      · rw [rememberConsumed_pending, AList.lookup_erase_ne hid] at hq
        exact h.keyed _ _ hq
    · intro id hid hc
      obtain ⟨hne, hid⟩ := AList.mem_erase.mp hid
      rcases ReplayWindow.mem_remember hc with rfl | hc
      · exact hne rfl
      · exact h.apart _ hid hc
    · have hb := h.pending_bound
      have : (a.pending.erase p.decisionId).entries.length = (a.pending.keys.erase p.decisionId).length := by
        rw [← AList.keys_erase, AList.keys, List.keys, List.length_map]
      rw [AList.keys, List.keys, List.length_map] at hlen
      simp only [rememberConsumed_pending, rememberConsumed_maxPending]
      rw [this, AList.keys, List.keys, hlen]
      omega

theorem step_inv (h : a.Inv) (c : AuthorityCall) : (motionAuthority.step a c).2.Inv := by
  cases c with
  | authorize p => exact authorize_inv h
  | consume p => exact take_inv h
  | cancel p => exact take_inv h

-- The past of a pending pulse

/-- How a history accounts for a registry: what is pending was authorized and
has not ended since, and no pulse was spent, or stands to be spent, more often
than it was authorized. -/
structure Accounted (h : List AuthorityEvent) (a : MotionAuthority) : Prop where
  inv : a.Inv
  since : ∀ p, a.pending.lookup p.decisionId = some p →
    Since (fun e => ¬ AuthorityEvent.Ends p.decisionId e) (· = (.authorize p, .ok ())) h
  count : ∀ p, h.count (.consume p, .ok ()) + h.count (.cancel p, .ok ()) +
    (if a.pending.lookup p.decisionId = some p then 1 else 0) ≤ h.count (.authorize p, .ok ())

variable {h : List AuthorityEvent}

theorem accounted_new {maxPending replayWindow : Nat} (hn : new maxPending replayWindow = .ok a) :
    Accounted [] a := by
  have hi := new_inv hn
  simp only [new, bind, Except.bind] at hn
  split at hn
  · cases hn
  split at hn
  · cases hn
  cases hn
  exact ⟨hi, by simp, by simp⟩

theorem Accounted.refused (ha : Accounted h a) (hi : a'.Inv)
    (hp : ∀ id p, a'.pending.lookup id = some p → a.pending.lookup id = some p) :
    Accounted ((c, .error e) :: h) a' := by
  refine ⟨hi, fun p hl => .inr ⟨by simp [AuthorityEvent.Ends], ha.since p (hp _ _ hl)⟩, fun p => ?_⟩
  have hc := ha.count p
  have : (if a'.pending.lookup p.decisionId = some p then 1 else 0) ≤
      if a.pending.lookup p.decisionId = some p then 1 else 0 := by
    split
    next hl => rw [if_pos (hp _ _ hl)]
    next => exact Nat.zero_le _
  simp only [List.count_cons, beq_iff_eq, Prod.mk.injEq, reduceCtorEq, and_false, ↓reduceIte]
  omega

theorem Accounted.authorize (ha : Accounted h a) (p : DrivePulse) :
    Accounted ((.authorize p, (a.authorize p).1) :: h) (a.authorize p).2 := by
  have hi := authorize_inv (p := p) ha.inv
  rcases authorize_cases a p with ⟨e, he⟩ | ⟨e, -, -, he⟩ | ⟨hp, hc, b, hb, hroom, he⟩
  · rw [he] at hi ⊢
    exact ha.refused hi fun _ _ h => h
  · rw [he] at hi ⊢
    refine ha.refused hi fun id q hq => ?_
    rw [revokePending_eq] at hq
    simp at hq
  · rw [he] at hi ⊢
    have hlook : ∀ id q, b.pending.lookup id = some q →
        p.kind ≠ .stop ∧ a.pending.lookup id = some q := by
      intro id q hq
      split at hb
      next hstop => rw [hb, revokePending_eq] at hq; simp at hq
      next hdrive => rw [← hb]; exact ⟨hdrive, hq⟩
    refine ⟨hi, fun q hq => ?_, fun q => ?_⟩
    · by_cases hid : q.decisionId = p.decisionId
      · rw [hid, AList.lookup_insert] at hq
        cases hq
        exact .inl rfl
      · rw [AList.lookup_insert_ne hid] at hq
        obtain ⟨hdrive, hq⟩ := hlook _ _ hq
        exact .inr ⟨by simpa [AuthorityEvent.Ends] using hdrive, ha.since q hq⟩
    · have hcount := ha.count q
      by_cases hid : q.decisionId = p.decisionId
      · -- a fresh identifier had nothing pending, so the new entry is the one authorization added
        have hnone : a.pending.lookup q.decisionId = none := by
          rw [hid]; exact AList.lookup_eq_none.mpr hp
        simp only [hnone, reduceCtorEq, ↓reduceIte] at hcount
        rw [hid, AList.lookup_insert]
        simp only [Option.some.injEq, List.count_cons, beq_iff_eq, Prod.mk.injEq, reduceCtorEq,
          AuthorityCall.authorize.injEq, and_true, ↓reduceIte]
        omega
      · have hne : p ≠ q := fun h => hid (by rw [h])
        have : (if b.pending.lookup q.decisionId = some q then 1 else 0) ≤
            if a.pending.lookup q.decisionId = some q then 1 else 0 := by
          split
          next hl => rw [if_pos (hlook _ _ hl).2]
          next => exact Nat.zero_le _
        rw [AList.lookup_insert_ne hid]
        simp only [List.count_cons, beq_iff_eq, Prod.mk.injEq,
          reduceCtorEq, AuthorityCall.authorize.injEq, hne, and_true, ↓reduceIte]
        omega

theorem Accounted.take (ha : Accounted h a) (p : DrivePulse)
    (hc : c = .consume p ∨ c = .cancel p) :
    Accounted ((c, (a.take refusal p).1) :: h) (a.take refusal p).2 := by
  have hi : (a.take refusal p).2.Inv := take_inv ha.inv
  rcases take_cases refusal a p with he | ⟨hp, he⟩
  · rw [he] at hi ⊢
    exact ha.refused hi fun _ _ h => h
  · rw [he] at hi ⊢
    refine ⟨hi, fun q hq => ?_, fun q => ?_⟩
    · by_cases hid : q.decisionId = p.decisionId
      · rw [rememberConsumed_pending, hid, AList.lookup_erase] at hq
        cases hq
      · rw [rememberConsumed_pending, AList.lookup_erase_ne hid] at hq
        refine .inr ⟨?_, ha.since q hq⟩
        rcases hc with rfl | rfl <;> exact fun h => hid h.symm
    · have hcount := ha.count q
      have hspent : ((c, .ok ()) :: h).count (.consume q, .ok ()) + ((c, .ok ()) :: h).count (.cancel q, .ok ()) =
          h.count (.consume q, .ok ()) + h.count (.cancel q, .ok ()) + if p = q then 1 else 0 := by
        rcases hc with rfl | rfl <;>
          simp only [List.count_cons, beq_iff_eq, Prod.mk.injEq, reduceCtorEq, and_true,
            AuthorityCall.consume.injEq, AuthorityCall.cancel.injEq, ↓reduceIte] <;> omega
      have hauth : ((c, .ok ()) :: h).count (.authorize q, .ok ()) = h.count (.authorize q, .ok ()) := by
        rcases hc with rfl | rfl <;>
          simp only [List.count_cons, beq_iff_eq, Prod.mk.injEq, reduceCtorEq, and_true, ↓reduceIte, Nat.add_zero]
      rw [rememberConsumed_pending, hspent, hauth]
      by_cases hq : p = q
      · subst hq
        rw [if_pos hp] at hcount
        rw [AList.lookup_erase, if_pos rfl]
        simpa using hcount
      · rw [if_neg hq]
        by_cases hid : q.decisionId = p.decisionId
        · rw [hid, AList.lookup_erase]
          simp only [reduceCtorEq, ↓reduceIte]
          omega
        · rw [AList.lookup_erase_ne hid]
          omega

theorem Accounted.step (ha : Accounted h a) (c : AuthorityCall) :
    Accounted ((c, (motionAuthority.step a c).1) :: h) (motionAuthority.step a c).2 := by
  cases c with
  | authorize p => exact ha.authorize p
  | consume p => exact ha.take p (.inl rfl)
  | cancel p => exact ha.take p (.inr rfl)

theorem accounted_of_runs {maxPending replayWindow : Nat} {a₀ : MotionAuthority}
    (hn : new maxPending replayWindow = .ok a₀) (hr : motionAuthority.Runs Machine.always a₀ h a) :
    Accounted h a :=
  hr.historyInvariant (accounted_new hn) fun _ _ c ha _ => ha.step c

theorem Accounted.spent (ha : Accounted h a) {c : AuthorityCall} {p : DrivePulse}
    (hs : AuthorityEvent.Spends p (c, (motionAuthority.step a c).1)) :
    Since (fun e => ¬ AuthorityEvent.Ends p.decisionId e) (· = (.authorize p, .ok ())) h := by
  have htake : ∀ refusal, (a.take refusal p).1 = .ok () → a.pending.lookup p.decisionId = some p := by
    intro refusal hok
    rcases take_cases refusal a p with he | ⟨hp, -⟩
    · rw [he] at hok; cases hok
    · exact hp
  refine ha.since p ?_
  rcases hs with hs | hs
  · obtain ⟨rfl, hok⟩ := Prod.mk.inj hs
    exact htake _ hok
  · obtain ⟨rfl, hok⟩ := Prod.mk.inj hs
    exact htake _ hok

theorem authorize_stop (hi : a.Inv) (hstop : p.kind = .stop) (hp : p.decisionId ∉ a.pending)
    (hc : p.decisionId ∉ a.consumed.ids) : (a.authorize p).1 = .ok () := by
  rcases authorize_cases a p with ⟨e, he⟩ | ⟨e, -, hzero, -⟩ | ⟨-, -, b, -, -, he⟩
  · simp only [authorize, hp, hc, or_self, ↓reduceIte, hstop] at he
    rw [revokePending_eq] at he
    have := hi.maxPending_pos
    simp [show ¬ a.maxPending = 0 by omega] at he
  · exact absurd hzero (by have := hi.maxPending_pos; omega)
  · rw [he]

theorem maxPending_step (a : MotionAuthority) (c : AuthorityCall) :
    (motionAuthority.step a c).2.maxPending = a.maxPending ∧
      (motionAuthority.step a c).2.replayWindow = a.replayWindow := by
  cases c with
  | authorize p =>
    show (a.authorize p).2.maxPending = _ ∧ (a.authorize p).2.replayWindow = _
    rcases authorize_cases a p with ⟨e, he⟩ | ⟨e, -, -, he⟩ | ⟨-, -, b, hb, -, he⟩
    · rw [he]; exact ⟨rfl, rfl⟩
    · rw [he, revokePending_eq]; exact ⟨rfl, rfl⟩
    · rw [he, hb]
      split
      · rw [revokePending_eq]; exact ⟨rfl, rfl⟩
      · exact ⟨rfl, rfl⟩
  | consume p =>
    show (a.take _ p).2.maxPending = _ ∧ (a.take _ p).2.replayWindow = _
    rcases take_cases _ a p with he | ⟨-, he⟩ <;> rw [he] <;> exact ⟨rfl, rfl⟩
  | cancel p =>
    show (a.take _ p).2.maxPending = _ ∧ (a.take _ p).2.replayWindow = _
    rcases take_cases _ a p with he | ⟨-, he⟩ <;> rw [he] <;> exact ⟨rfl, rfl⟩

theorem new_limits {maxPending replayWindow : Nat} (hn : new maxPending replayWindow = .ok a) :
    a.maxPending = maxPending ∧ a.replayWindow = replayWindow := by
  simp only [new, bind, Except.bind] at hn
  split at hn
  · cases hn
  split at hn
  · cases hn
  cases hn
  exact ⟨rfl, rfl⟩

end MotionAuthority

/-- One-shot authority over every interleaving: each successful consume or
cancel takes back an authorization of exactly that pulse which nothing has
ended in between, none is taken back twice, the two id sets stay apart and in
bounds, and a STOP under a fresh identifier is never refused. -/
theorem motionAuthority_oneShot {maxPending replayWindow : Nat} {a₀ a : MotionAuthority}
    {h : List AuthorityEvent} (hn : MotionAuthority.new maxPending replayWindow = .ok a₀)
    (hr : motionAuthority.Runs Machine.always a₀ h a) :
    (∀ newer e older p, h = newer ++ e :: older → AuthorityEvent.Spends p e →
      Since (fun x => ¬ AuthorityEvent.Ends p.decisionId x) (· = (.authorize p, .ok ())) older) ∧
    (∀ p, h.count (.consume p, .ok ()) + h.count (.cancel p, .ok ()) ≤ h.count (.authorize p, .ok ())) ∧
    (∀ id, id ∈ a.pending → id ∉ a.consumed.ids) ∧
    a.pending.entries.length ≤ maxPending ∧
    a.consumed.ids.card ≤ replayWindow ∧ a.consumed.order.length ≤ replayWindow ∧
    (∀ p, p.kind = .stop → p.decisionId ∉ a.pending → p.decisionId ∉ a.consumed.ids →
      (motionAuthority.step a (.authorize p)).1 = .ok ()) := by
  have ha := MotionAuthority.accounted_of_runs hn hr
  have hlimits : a.maxPending = maxPending ∧ a.replayWindow = replayWindow :=
    hr.invariant (I := fun a => a.maxPending = maxPending ∧ a.replayWindow = replayWindow)
      (MotionAuthority.new_limits hn) fun s c hl _ => by
        obtain ⟨hp, hw⟩ := MotionAuthority.maxPending_step s c
        exact ⟨hp.trans hl.1, hw.trans hl.2⟩
  obtain ⟨rfl, rfl⟩ := hlimits
  refine ⟨?_, fun p => ?_, ha.inv.apart, ha.inv.pending_bound, ?_, ha.inv.consumed_sound.bound, ?_⟩
  · rintro newer ⟨c, o⟩ older p rfl hs
    obtain ⟨s, hr⟩ := Machine.Runs.older hr
    obtain ⟨s', hr', -, hstep⟩ := Machine.Runs.newest hr
    have hso : (motionAuthority.step s' c).1 = o := by rw [hstep]
    rw [← hso] at hs
    exact (MotionAuthority.accounted_of_runs hn hr').spent hs
  · have := ha.count p
    omega
  · rw [ha.inv.consumed_sound.card]
    exact ha.inv.consumed_sound.bound
  · exact fun p hstop hp hc => MotionAuthority.authorize_stop ha.inv hstop hp hc

/-- A short drive pulse under the given identifier. -/
def samplePulse (decisionId : String) : DrivePulse where
  decisionId := decisionId
  arbiterId := "navigation-motion-supervisor"
  robotId := "ev3rstorm"
  controllerInstanceId := "controller-1"
  goalId := "goal-1"
  goalEpoch := 1
  planRevision := 1
  basedOnStateVersion := 1
  basedOnWorldModelVersion := 1
  kind := .drive
  leftSpeedDps := 300
  rightSpeedDps := 300
  durationMs := 100
  reasonCode := "authorized_advance"

def sampleAuthority (maxPending replayWindow : Nat) : MotionAuthority :=
  ⟨maxPending, replayWindow, ∅, .empty⟩

theorem motionAuthority_oneShot_sample :
    (∀ newer e older p, (motionAuthority.runList (sampleAuthority 2 4)
        [.authorize (samplePulse "a"), .consume (samplePulse "a")]).1 = newer ++ e :: older →
      AuthorityEvent.Spends p e →
        Since (fun x => ¬ AuthorityEvent.Ends p.decisionId x) (· = (.authorize p, .ok ())) older) ∧
    (motionAuthority.runList (sampleAuthority 2 4)
        [.authorize (samplePulse "a"), .consume (samplePulse "a")]).1 =
      [(.consume (samplePulse "a"), .ok ()), (.authorize (samplePulse "a"), .ok ())] :=
  ⟨(motionAuthority_oneShot (show MotionAuthority.new 2 4 = .ok (sampleAuthority 2 4) from rfl)
    (Machine.runs_runList (Machine.stepsOk_always _ _ _))).1, rfl⟩

/-- A cancelled pulse can be consumed after all: once the replay window has
forgotten its identifier, it may be authorized again. -/
theorem cancelled_pulse_consumed :
    ¬ ∀ (maxPending replayWindow : Nat) (a₀ a : MotionAuthority) (h : List AuthorityEvent),
      MotionAuthority.new maxPending replayWindow = .ok a₀ →
      motionAuthority.Runs Machine.always a₀ h a →
      ∀ newer older p, h = newer ++ (.consume p, .ok ()) :: older → (.cancel p, .ok ()) ∉ older := by
  intro hall
  have hrun := Machine.runs_runList <| Machine.stepsOk_always motionAuthority (sampleAuthority 1 1)
    [.authorize (samplePulse "a"), .cancel (samplePulse "a"), .authorize (samplePulse "b"),
      .cancel (samplePulse "b"), .authorize (samplePulse "a"), .consume (samplePulse "a")]
  exact hall 1 1 _ _ _ rfl hrun [] _ (samplePulse "a") rfl (List.elem_iff.mp rfl)

end RobotLlm.Navigation
