import Mathlib.Data.List.Dedup
import Mathlib.Data.Prod.Lex
import Mathlib.Data.String.Basic
import RobotLlm.Navigation.ArbitrationLaws

/-!
# Batches of proposals

What a decision takes from a batch: the order of its proposals and those that
stand below the best valid one do not matter, as long as the replay window
forgets no identifier of the batch while it goes through it. And what it
spends: a source's sequence number drives at most once in a run.
-/

namespace RobotLlm.Navigation

open RobotLlm.Lib Prog

namespace MotionSupervisor

variable {m : MotionSupervisor} {s s' : State} {snapshot : NavigationSnapshot} {goal : WaypointGoal} {now : Int}
  {batch batch' : List StampedProposal}

-- The replay window over a batch

def see (m : MotionSupervisor) (window : ReplayWindow String) (v : StampedProposal) : ReplayWindow String :=
  if v.proposal.proposalId ∈ window.ids then window
  else window.remember m.policy.proposalReplayWindow v.proposal.proposalId

/-- No identifier that the window held before the batch leaves it before the
batch asks for it. -/
def Remembers (m : MotionSupervisor) (window : ReplayWindow String) (batch : List StampedProposal) : Prop :=
  ∀ before v after, batch = before ++ v :: after → v.proposal.proposalId ∈ window.ids →
    v.proposal.proposalId ∈ (before.foldl m.see window).ids

theorem mem_see {window : ReplayWindow String} {v : StampedProposal} {id : String}
    (h : id ∈ (m.see window v).ids) : id = v.proposal.proposalId ∨ id ∈ window.ids := by
  unfold see at h
  split at h
  · exact .inr h
  · exact ReplayWindow.mem_remember h

theorem mem_foldl_see {window : ReplayWindow String} {values : List StampedProposal} {id : String}
    (h : id ∈ (values.foldl m.see window).ids) :
    (∃ v ∈ values, id = v.proposal.proposalId) ∨ id ∈ window.ids := by
  induction values generalizing window with
  | nil => exact .inr h
  | cons v values ih =>
    rcases ih h with ⟨w, hw, heq⟩ | h
    · exact .inl ⟨w, List.mem_cons_of_mem _ hw, heq⟩
    · rcases mem_see h with heq | h
      · exact .inl ⟨v, List.mem_cons_self, heq⟩
      · exact .inr h

theorem remembers_of_room {window : ReplayWindow String}
    (hroom : window.order.length + batch.length ≤ m.policy.proposalReplayWindow) : m.Remembers window batch := by
  have hkeeps : ∀ (values : List StampedProposal) (w : ReplayWindow String),
      w.order.length + values.length ≤ m.policy.proposalReplayWindow → w.ids ⊆ (values.foldl m.see w).ids := by
    intro values
    induction values with
    | nil => exact fun _ _ => Finset.Subset.refl _
    | cons v values ih =>
      intro w hw
      rw [List.length_cons] at hw
      have hsee : w.ids ⊆ (m.see w v).ids ∧ (m.see w v).order.length ≤ w.order.length + 1 := by
        unfold see
        split
        · exact ⟨Finset.Subset.refl _, Nat.le_succ _⟩
        · unfold ReplayWindow.remember
          rw [if_neg (by omega)]
          exact ⟨Finset.subset_insert _ _, by simp⟩
      exact hsee.1.trans (ih _ (by omega))
  rintro before v after rfl hv
  rw [List.length_append] at hroom
  exact hkeeps before window (by omega) hv

-- What is valid

/-- The proposals of a batch with the identifier of `v`, and with its source
and sequence number. -/
def sameId (v w : StampedProposal) : Bool := w.proposal.proposalId = v.proposal.proposalId

def sameSequence (v w : StampedProposal) : Bool := w.sourceId = v.sourceId ∧ w.sourceSequence = v.sourceSequence

/-- What a proposal of a batch must be, judged by the state before the batch. -/
def Valid (m : MotionSupervisor) (snapshot : NavigationSnapshot) (goal : WaypointGoal) (now : Int) (s : State)
    (batch : List StampedProposal) (v : StampedProposal) : Prop :=
  v.proposal.proposalId ∉ s.seenProposals.ids ∧ batch.countP (sameId v) = 1 ∧ batch.countP (sameSequence v) = 1 ∧
    (s.sourceHighWater.lookup v.sourceId).getD 0 < v.sourceSequence ∧ v.receivedAtMs ≤ now ∧ now < v.validUntilMs ∧
    v.validUntilMs - v.receivedAtMs ≤ m.policy.maxProposalTtlMs ∧ BindingMatches v snapshot goal

instance : Decidable (Valid m snapshot goal now s batch v) :=
  inferInstanceAs (Decidable (_ ∧ _ ∧ _ ∧ _ ∧ _ ∧ _ ∧ _ ∧ _))

theorem consumeOne_state (acc : State × List StampedProposal) (v : StampedProposal) :
    (m.consumeOne batch previous snapshot goal now acc v).1 =
      { acc.1 with
        seenProposals := m.see acc.1.seenProposals v
        sourceHighWater := acc.1.sourceHighWater.insert v.sourceId
          (max ((acc.1.sourceHighWater.lookup v.sourceId).getD 0) v.sourceSequence) } := by
  unfold consumeOne
  dsimp only
  split <;> simp only [see, decide_eq_true_eq]

theorem consumeOne_kept (acc : State × List StampedProposal) (v : StampedProposal)
    (hseen : batch.countP (sameId v) = 1 →
      (v.proposal.proposalId ∈ acc.1.seenProposals.ids ↔ v.proposal.proposalId ∈ s.seenProposals.ids)) :
    (m.consumeOne batch s.sourceHighWater snapshot goal now acc v).2 =
      acc.2 ++ [v].filter (Valid m snapshot goal now s batch) := by
  have hid : (fun w : StampedProposal => Decidable.decide (w.proposal.proposalId = v.proposal.proposalId)) = sameId v := rfl
  have hsequence : (fun w : StampedProposal => Decidable.decide
      (w.sourceId = v.sourceId ∧ w.sourceSequence = v.sourceSequence)) = sameSequence v := rfl
  unfold consumeOne
  dsimp only
  rw [hid, hsequence]
  by_cases hvalid : Valid m snapshot goal now s batch v
  · rw [show [v].filter (Valid m snapshot goal now s batch) = [v] by simp [hvalid]]
    obtain ⟨hnew, hone, hpair, hhigh, hreceived, huntil, httl, hbinding⟩ := hvalid
    have hnew' : v.proposal.proposalId ∉ acc.1.seenProposals.ids := fun h => hnew ((hseen hone).mp h)
    rw [if_neg]
    simp only [hnew', hone, hpair, hbinding, decide_false, Bool.false_eq_true, not_true, ne_eq, or_false, false_or]
    omega
  · rw [show [v].filter (Valid m snapshot goal now s batch) = [] by simp [hvalid], List.append_nil, if_pos]
    by_contra hnot
    simp only [not_or, decide_eq_true_eq, ne_eq, not_not, not_le, not_lt] at hnot
    obtain ⟨hnew, hone, hpair, hhigh, hreceived, huntil, httl, hbinding⟩ := hnot
    exact hvalid ⟨fun h => hnew ((hseen hone).mpr h), hone, hpair, hhigh, hreceived, huntil, httl, hbinding⟩

theorem filtered_eq (hr : m.Remembers s.seenProposals batch) :
    (m.filtered snapshot goal now batch s).2 = batch.filter (Valid m snapshot goal now s batch) := by
  have hfold : ∀ (after before : List StampedProposal) (acc : State × List StampedProposal),
      batch = before ++ after → acc.1.seenProposals = before.foldl m.see s.seenProposals →
      (after.foldl (m.consumeOne batch s.sourceHighWater snapshot goal now) acc).2 =
        acc.2 ++ after.filter (Valid m snapshot goal now s batch) := by
    intro after
    induction after with
    | nil => exact fun _ _ _ _ => (List.append_nil _).symm
    | cons v after ih =>
      intro before acc hbatch hseen
      have hstep : batch.countP (sameId v) = 1 →
          (v.proposal.proposalId ∈ acc.1.seenProposals.ids ↔ v.proposal.proposalId ∈ s.seenProposals.ids) := by
        intro hone
        rw [hseen]
        refine ⟨fun hmem => ?_, hr before v after hbatch⟩
        rcases mem_foldl_see hmem with ⟨w, hw, heq⟩ | hmem
        · -- an earlier proposal of the batch has the identifier, so it is not alone with it
          rw [hbatch, List.countP_append, List.countP_cons] at hone
          have hbefore : 0 < before.countP (sameId v) :=
            List.countP_pos_iff.mpr ⟨w, hw, decide_eq_true heq.symm⟩
          have hself : sameId v v = true := decide_eq_true rfl
          simp only [hself, if_true] at hone
          omega
        · exact hmem
      rw [List.foldl_cons, ih (before ++ [v]) _ (by simpa using hbatch) (by
        rw [consumeOne_state, hseen, List.foldl_append, List.foldl_cons, List.foldl_nil]),
        consumeOne_kept acc v hstep, List.append_assoc, ← List.filter_append, List.singleton_append]
  exact hfold batch [] (s, []) rfl rfl

-- What is selected

def standing (v : StampedProposal) : Int ×ₗ Int := toLex (v.authorityRank, v.priority)

def top (values : List StampedProposal) : List StampedProposal :=
  highest (·.priority) (highest (·.authorityRank) values)

theorem top_eq (values : List StampedProposal) :
    top values = values.filter fun v => ∀ w ∈ values, standing w ≤ standing v := by
  unfold top
  conv_lhs => unfold highest
  rw [List.filter_filter]
  refine List.filter_congr fun v hv => ?_
  rw [Bool.eq_iff_iff]
  simp only [List.all_filter, Bool.and_eq_true, List.all_eq_true, Bool.or_eq_true, Bool.not_eq_true',
    decide_eq_true_eq, standing, Prod.Lex.toLex_le_toLex]
  constructor
  · rintro ⟨hpriority, hrank⟩ w hw
    rcases lt_or_eq_of_le (hrank w hw) with hlt | heq
    · exact .inl hlt
    · refine .inr ⟨heq, (hpriority w hw).resolve_left ?_⟩
      simp only [← Bool.not_eq_true, List.all_eq_true, decide_eq_true_eq, not_not]
      exact fun u hu => heq ▸ hrank u hu
  · intro hbest
    have hrank : ∀ w ∈ values, w.authorityRank ≤ v.authorityRank := fun w hw =>
      (hbest w hw).elim le_of_lt fun h => le_of_eq h.1
    refine ⟨fun w hw => ?_, hrank⟩
    by_cases hlower : w.authorityRank < v.authorityRank
    · left
      simp only [← Bool.not_eq_true, List.all_eq_true, decide_eq_true_eq, not_forall]
      exact ⟨v, hv, not_le.mpr hlower⟩
    · exact .inr (((hbest w hw).resolve_left hlower).2)

theorem top_perm {values values' : List StampedProposal} (h : values.Perm values') : (top values).Perm (top values') := by
  have hsame : values.filter (fun v => ∀ w ∈ values, standing w ≤ standing v) =
      values.filter fun v => ∀ w ∈ values', standing w ≤ standing v :=
    List.filter_congr fun v _ => by simp only [h.mem_iff]
  rw [top_eq, top_eq, hsame]
  exact h.filter _

theorem top_append {values lower : List StampedProposal}
    (hlower : ∀ w ∈ lower, ∃ v ∈ values, standing w < standing v) : top (values ++ lower) = top values := by
  rw [top_eq, top_eq, List.filter_append]
  have hnone : lower.filter (fun v => ∀ w ∈ values ++ lower, standing w ≤ standing v) = [] := by
    rw [List.filter_eq_nil_iff]
    intro w hw hbest
    obtain ⟨v, hv, hlt⟩ := hlower w hw
    exact absurd (of_decide_eq_true hbest v (List.mem_append_left _ hv)) (not_le.mpr hlt)
  rw [hnone, List.append_nil]
  refine List.filter_congr fun v _ => decide_eq_decide.mpr ?_
  refine ⟨fun hbest w hw => hbest w (List.mem_append_left _ hw), fun hbest w hw => ?_⟩
  rcases List.mem_append.mp hw with hw | hw
  · exact hbest w hw
  · obtain ⟨u, hu, hlt⟩ := hlower w hw
    exact hlt.le.trans (hbest u hu)

def selectionKey (v : StampedProposal) : List Char ×ₗ List Char :=
  toLex (v.sourceId.toList, v.proposal.proposalId.toList)

theorem precedes_iff {v w : StampedProposal} : precedes v w = true ↔ selectionKey v < selectionKey w := by
  unfold precedes selectionKey
  rw [Prod.Lex.lt_iff]
  simp only [Bool.or_eq_true, Bool.and_eq_true, decide_eq_true_eq, ofLex_toLex, String.toList_inj]
  exact Iff.rfl

theorem selected_least {values : List StampedProposal} {v : StampedProposal} (h : selected values = some v) :
    ∀ w ∈ values, selectionKey v ≤ selectionKey w := by
  cases values with
  | nil => cases h
  | cons x rest =>
    cases h
    have hfold : ∀ (values : List StampedProposal) (best : StampedProposal), ∀ w ∈ best :: values,
        selectionKey (values.foldl (fun best w => if precedes w best then w else best) best) ≤ selectionKey w := by
      intro values
      induction values with
      | nil =>
        intro best w hw
        rw [List.mem_singleton.mp hw]
        exact le_rfl
      | cons x values ih =>
        intro best w hw
        rw [List.foldl_cons]
        have hnext : selectionKey (if precedes x best then x else best) ≤ selectionKey x ∧
            selectionKey (if precedes x best then x else best) ≤ selectionKey best := by
          split
          next hx => exact ⟨le_rfl, (precedes_iff.mp hx).le⟩
          next hx => exact ⟨not_lt.mp fun hlt => hx (precedes_iff.mpr hlt), le_rfl⟩
        have hhead := ih _ _ (List.mem_cons_self (a := if precedes x best then x else best))
        rcases List.mem_cons.mp hw with rfl | hw
        · exact hhead.trans hnext.2
        · rcases List.mem_cons.mp hw with rfl | hw
          · exact hhead.trans hnext.1
          · exact ih _ w (List.mem_cons_of_mem _ hw)
    exact hfold rest x

/-- No two proposals of the list share an identifier. -/
def DistinctIds (values : List StampedProposal) : Prop :=
  ∀ v ∈ values, ∀ w ∈ values, v.proposal.proposalId = w.proposal.proposalId → v = w

theorem selected_perm {values values' : List StampedProposal} (h : values.Perm values') (hd : DistinctIds values) :
    selected values = selected values' := by
  rcases hv : selected values with _ | v <;> rcases hw : selected values' with _ | w
  · rfl
  · cases values with
    | nil => exact absurd (h.symm.subset (selected_mem hw)) List.not_mem_nil
    | cons x rest => cases hv
  · cases values' with
    | nil => exact absurd (h.subset (selected_mem hv)) List.not_mem_nil
    | cons x rest => cases hw
  · have hwv := h.symm.subset (selected_mem hw)
    have hkey : selectionKey v = selectionKey w :=
      le_antisymm (selected_least hv w hwv) (selected_least hw v (h.subset (selected_mem hv)))
    have hids : v.proposal.proposalId.toList = w.proposal.proposalId.toList :=
      congrArg (fun key => (ofLex key).2) hkey
    rw [hd v (selected_mem hv) w hwv (String.toList_inj.mp hids)]

theorem arbitrate_perm {values values' : List StampedProposal} (h : (top values).Perm (top values'))
    (hd : DistinctIds (top values)) (fresh : Except NavigationContractError String) :
    m.arbitrate fresh snapshot values = m.arbitrate fresh snapshot values' := by
  have hselected := selected_perm h hd
  have hmeanings := ((h.map (·.proposal.semanticKey)).dedup).length_eq
  unfold top at hselected hmeanings
  unfold arbitrate
  simp only [hselected, hmeanings]

-- Bystanders

/-- `batch'` is `batch` with `extra`, in any order, and no other proposal of it
has the identifier or the sequence number of one that was added. -/
structure Adds (batch batch' extra : List StampedProposal) : Prop where
  perm : batch'.Perm (batch ++ extra)
  ids : ∀ v ∈ extra, batch'.countP (sameId v) = 1
  sequences : ∀ v ∈ extra, batch'.countP (sameSequence v) = 1

/-- Every proposal of `extra` stands below one that is valid in `batch`. -/
def Below (m : MotionSupervisor) (snapshot : NavigationSnapshot) (goal : WaypointGoal) (now : Int) (s : State)
    (batch extra : List StampedProposal) : Prop :=
  ∀ v ∈ extra, ∃ w ∈ batch, Valid m snapshot goal now s batch w ∧ standing v < standing w

theorem Adds.of_perm (h : batch'.Perm batch) : Adds batch batch' [] :=
  ⟨by rwa [List.append_nil], by simp, by simp⟩

theorem valid_adds {extra : List StampedProposal} (h : Adds batch batch' extra) {v : StampedProposal}
    (hv : v ∈ batch) : Valid m snapshot goal now s batch' v ↔ Valid m snapshot goal now s batch v := by
  have hcount : ∀ same : StampedProposal → StampedProposal → Bool, (∀ v, same v v = true) →
      (∀ v w, same v w = true → same w v = true) → (∀ w ∈ extra, batch'.countP (same w) = 1) →
      batch'.countP (same v) = batch.countP (same v) := by
    intro same hrefl hsymm halone
    rw [h.perm.countP_eq, List.countP_append]
    have hnone : extra.countP (same v) = 0 := by
      refine List.countP_eq_zero.mpr fun w hw hsame => ?_
      -- `v` itself is another of the batch that is the same as `w`
      have hone := halone w hw
      rw [h.perm.countP_eq, List.countP_append] at hone
      have hleft : 0 < batch.countP (same w) := List.countP_pos_iff.mpr ⟨v, hv, hsymm _ _ hsame⟩
      have hright : 0 < extra.countP (same w) := List.countP_pos_iff.mpr ⟨w, hw, hrefl w⟩
      omega
    omega
  have hids := hcount sameId (fun _ => decide_eq_true rfl) (fun v w hsame => decide_eq_true (of_decide_eq_true hsame).symm) h.ids
  have hsequences := hcount sameSequence (fun _ => decide_eq_true ⟨rfl, rfl⟩)
    (fun v w hsame => by
      obtain ⟨hsource, hsequence⟩ := of_decide_eq_true hsame
      exact decide_eq_true ⟨hsource.symm, hsequence.symm⟩) h.sequences
  simp only [Valid, hids, hsequences]

theorem eq_of_countP {v w : StampedProposal} (hone : batch.countP (sameId v) = 1) (hv : v ∈ batch) (hw : w ∈ batch)
    (hid : w.proposal.proposalId = v.proposal.proposalId) : v = w := by
  rw [List.countP_eq_length_filter, List.length_eq_one_iff] at hone
  obtain ⟨u, hu⟩ := hone
  have hvu : v ∈ batch.filter (sameId v) := List.mem_filter.mpr ⟨hv, decide_eq_true rfl⟩
  have hwu : w ∈ batch.filter (sameId v) := List.mem_filter.mpr ⟨hw, decide_eq_true hid⟩
  rw [hu] at hvu hwu
  exact (List.mem_singleton.mp hvu).trans (List.mem_singleton.mp hwu).symm

theorem valid_distinctIds (values : List StampedProposal) (hv : values ⊆ batch.filter (Valid m snapshot goal now s batch)) :
    DistinctIds values := by
  intro v hmem w hmem' hid
  obtain ⟨hvb, hvalid⟩ := List.mem_filter.mp (hv hmem)
  have hwb := (List.mem_filter.mp (hv hmem')).1
  exact eq_of_countP (of_decide_eq_true hvalid).2.1 hvb hwb hid.symm

theorem top_filtered_perm {extra : List StampedProposal} (h : Adds batch batch' extra)
    (hlower : m.Below snapshot goal now s batch extra) (hr : m.Remembers s.seenProposals batch)
    (hr' : m.Remembers s.seenProposals batch') :
    (top (m.filtered snapshot goal now batch s).2).Perm (top (m.filtered snapshot goal now batch' s).2) := by
  rw [filtered_eq hr, filtered_eq hr']
  have hsame : batch.filter (Valid m snapshot goal now s batch') = batch.filter (Valid m snapshot goal now s batch) :=
    List.filter_congr fun v hv => decide_eq_decide.mpr (valid_adds h hv)
  have hvalid : (batch'.filter (Valid m snapshot goal now s batch')).Perm
      (batch.filter (Valid m snapshot goal now s batch) ++ extra.filter (Valid m snapshot goal now s batch')) := by
    have hperm := h.perm.filter (Valid m snapshot goal now s batch')
    rwa [List.filter_append, hsame] at hperm
  refine ((top_perm hvalid).trans ?_).symm
  rw [top_append]
  intro v hv
  obtain ⟨w, hw, hwvalid, hlt⟩ := hlower v (List.mem_of_mem_filter hv)
  exact ⟨w, List.mem_filter.mpr ⟨hw, decide_eq_true hwvalid⟩, hlt⟩

theorem consumed_authority (values : List StampedProposal) (acc : State × List StampedProposal) :
    (values.foldl (m.consumeOne batch previous snapshot goal now) acc).1.authority = acc.1.authority := by
  induction values generalizing acc with
  | nil => rfl
  | cons v values ih => rw [List.foldl_cons, ih, consumeOne_state]

theorem onAuthority_run (f : MotionAuthority → Except NavigationContractError Unit × MotionAuthority) (s : State) :
    onAuthority f s = ((f s.authority).1, { s with authority := (f s.authority).2 }) := rfl

theorem issue_authority {t : State} (h : s.authority = t.authority)
    (fresh : Except NavigationContractError String) (plan : PulsePlan) :
    (m.issue fresh snapshot plan s).1 = (m.issue fresh snapshot plan t).1 := by
  unfold issue authorizePulse
  simp only [bind_run, ofExcept_run]
  rcases decisionId fresh with error | id
  · rfl
  · dsimp only
    rcases DrivePulse.new (m.planned snapshot plan id) with error | pulse
    · rfl
    · simp only [onAuthority_run, h]
      rcases (t.authority.authorize pulse).1 with error | _ <;> rfl

theorem decide_adds {extra : List StampedProposal} {clock : Except NavigationContractError Int}
    (h : Adds batch batch' extra)
    (hlower : ∀ now, nowMs clock = .ok now → m.Below snapshot goal now (begun goal s) batch extra)
    (hr : m.Remembers (begun goal s).seenProposals batch) (hr' : m.Remembers (begun goal s).seenProposals batch')
    (fresh : Except NavigationContractError String) :
    (m.decide clock fresh snapshot goal batch' s).1 = (m.decide clock fresh snapshot goal batch s).1 := by
  cases decide_course m clock snapshot goal s with
  | fails error hfails => rw [hfails, hfails]
  | stops reason s₁ _ _ hstops => rw [hstops, hstops]
  | arbitrates now hnow harbitrates =>
    have htop : top (m.filtered snapshot goal now batch (begun goal s)).2 ⊆
        batch.filter (Valid m snapshot goal now (begun goal s) batch) := by
      rw [← filtered_eq hr, top_eq]
      exact List.filter_subset_self _
    have hsame : m.arbitrate fresh snapshot (m.filtered snapshot goal now batch (begun goal s)).2 =
        m.arbitrate fresh snapshot (m.filtered snapshot goal now batch' (begun goal s)).2 :=
      arbitrate_perm (top_filtered_perm h (hlower now hnow) hr hr') (valid_distinctIds _ htop) fresh
    obtain ⟨plan, -, hplan⟩ := arbitrate_issues m snapshot (m.filtered snapshot goal now batch (begun goal s)).2
    rw [harbitrates, harbitrates, ← hsame, hplan]
    exact issue_authority ((consumed_authority _ _).trans (consumed_authority _ _).symm) fresh plan

/-- Two pulses of one plan differ in their identifiers at most. -/
def SameButId (p p' : DrivePulse) : Prop := p' = { p with decisionId := p'.decisionId }

theorem decide_sameButId {clock : Except NavigationContractError Int}
    {fresh fresh' : Except NavigationContractError String} {p p' : DrivePulse} {t t' : State}
    (h : m.decide clock fresh snapshot goal batch s = (.ok p, t))
    (h' : m.decide clock fresh' snapshot goal batch s = (.ok p', t')) : SameButId p p' := by
  have hissued : ∃ plan s₁, ∀ fresh, m.decide clock fresh snapshot goal batch s = m.issue fresh snapshot plan s₁ := by
    cases decide_course m clock snapshot goal s with
    | fails error hfails =>
      rw [hfails] at h
      cases h
    | stops reason s₁ _ _ hstops => exact ⟨_, s₁, fun fresh => hstops fresh batch⟩
    | arbitrates now _ harbitrates =>
      obtain ⟨plan, -, hplan⟩ := arbitrate_issues m snapshot (m.filtered snapshot goal now batch (begun goal s)).2
      exact ⟨plan, _, fun fresh => by rw [harbitrates, hplan]⟩
  obtain ⟨plan, s₁, hissue⟩ := hissued
  rw [hissue] at h h'
  obtain ⟨id, rfl⟩ := (issue_planned fresh plan s₁).ok h
  obtain ⟨id', rfl⟩ := (issue_planned fresh' plan s₁).ok h'
  rfl

-- High water

/-- The highest sequence number a source was heard with. -/
def high (s : State) (source : String) : Int := (s.sourceHighWater.lookup source).getD 0

def Rises (s s' : State) : Prop := ∀ source, high s source ≤ high s' source

instance : IsPreorder State Rises where
  refl _ _ := le_rfl
  trans _ _ _ h h' source := (h source).trans (h' source)

theorem Rises.of_eq (h : s'.sourceHighWater = s.sourceHighWater) : Rises s s' := fun source => by
  rw [high, high, h]

theorem consumeOne_high (acc : State × List StampedProposal) (v : StampedProposal) (source : String) :
    high (m.consumeOne batch previous snapshot goal now acc v).1 source =
      if source = v.sourceId then max (high acc.1 source) v.sourceSequence else high acc.1 source := by
  unfold high
  rw [consumeOne_state]
  split
  next h =>
    rw [h, AList.lookup_insert]
    rfl
  next h => rw [AList.lookup_insert_ne h]

theorem consumed_high (values : List StampedProposal) (acc : State × List StampedProposal) :
    Rises acc.1 (values.foldl (m.consumeOne batch previous snapshot goal now) acc).1 ∧
    ∀ v ∈ values, v.sourceSequence ≤
      high (values.foldl (m.consumeOne batch previous snapshot goal now) acc).1 v.sourceId := by
  induction values generalizing acc with
  | nil => exact ⟨fun _ => le_rfl, by simp⟩
  | cons v values ih =>
    obtain ⟨hrises, hcovers⟩ := ih (m.consumeOne batch previous snapshot goal now acc v)
    have hone : ∀ source, high acc.1 source ≤ high (m.consumeOne batch previous snapshot goal now acc v).1 source := by
      intro source
      rw [consumeOne_high]
      split
      · exact le_max_left _ _
      · exact le_rfl
    refine ⟨fun source => (hone source).trans (hrises source), fun w hw => ?_⟩
    rcases List.mem_cons.mp hw with rfl | hw
    · refine le_trans ?_ (hrises w.sourceId)
      rw [consumeOne_high, if_pos rfl]
      exact le_max_right _ _
    · exact hcovers w hw

theorem filtered_fresh {v : StampedProposal} (hv : v ∈ (m.filtered snapshot goal now batch s).2) :
    batch.countP (sameId v) = 1 ∧ high s v.sourceId < v.sourceSequence := by
  have hfold : ∀ (values : List StampedProposal) (acc : State × List StampedProposal),
      (∀ w ∈ acc.2, batch.countP (sameId w) = 1 ∧ high s w.sourceId < w.sourceSequence) →
      ∀ w ∈ (values.foldl (m.consumeOne batch s.sourceHighWater snapshot goal now) acc).2,
        batch.countP (sameId w) = 1 ∧ high s w.sourceId < w.sourceSequence := by
    intro values
    induction values with
    | nil => exact fun _ h => h
    | cons x values ih =>
      intro acc hacc
      refine ih _ ?_
      unfold consumeOne
      dsimp only
      split
      · exact hacc
      next hkept =>
        simp only [not_or, ne_eq, not_not, not_le] at hkept
        obtain ⟨-, hone, -, hnewer, -⟩ := hkept
        intro w hw
        rcases List.mem_append.mp hw with hw | hw
        · exact hacc w hw
        · rw [List.mem_singleton.mp hw]
          exact ⟨hone, hnewer⟩
  exact hfold batch (s, []) (by simp) v hv

theorem issue_rises (fresh : Except NavigationContractError String) (plan : PulsePlan) :
    Keeps Rises (m.issue fresh snapshot plan) := by
  refine Keeps.bind (Keeps.ofExcept _) fun id => Keeps.bind (Keeps.ofExcept _) fun pulse => ?_
  exact Keeps.bind (fun _ _ => le_rfl) fun _ => Keeps.pure _

/-- The proposal for which a decision of a run returned a DRIVE pulse. -/
def Drives (v : StampedProposal) : SupervisorEvent → Prop
  | (.decide _ _ _ _ proposals, .pulse (.ok pulse)) =>
    pulse.kind = .drive ∧ v ∈ proposals ∧ pulse.proposalId = some v.proposal.proposalId
  | _ => False

theorem Decided.drive {plan : PulsePlan} (h : m.Decided snapshot valid plan) (hk : plan.kind = .drive) :
    ∃ value ∈ valid, plan.proposalId = some value.proposal.proposalId := by
  cases h with
  | stop _ => cases hk
  | advance hmem _ _ _ => exact ⟨_, hmem, rfl⟩
  | turn hmem => exact ⟨_, hmem, rfl⟩

theorem arbitrate_rises (fresh : Except NavigationContractError String) (valid : List StampedProposal) :
    Keeps Rises (m.arbitrate fresh snapshot valid) := by
  obtain ⟨plan, -, hissues⟩ := arbitrate_issues m snapshot valid
  rw [hissues]
  exact issue_rises fresh plan

theorem arbitrate_drive {fresh : Except NavigationContractError String} {pulse : DrivePulse}
    (h : m.arbitrate fresh snapshot valid s = (.ok pulse, s')) (hk : pulse.kind = .drive) :
    ∃ value ∈ valid, pulse.proposalId = some value.proposal.proposalId := by
  obtain ⟨plan, hplan, hissues⟩ := arbitrate_issues m snapshot valid
  rw [hissues] at h
  obtain ⟨id, rfl⟩ := (issue_planned fresh plan s).ok h
  exact hplan.drive hk

theorem begun_high (goal : WaypointGoal) (s : State) : high (begun goal s) = high s := by
  funext source
  rw [high, begun_sourceHighWater, high]

theorem filtered_high (m : MotionSupervisor) (snapshot : NavigationSnapshot) (goal : WaypointGoal) (now : Int)
    (batch : List StampedProposal) (s : State) :
    Rises s (m.filtered snapshot goal now batch s).1 ∧
    ∀ v ∈ batch, v.sourceSequence ≤ high (m.filtered snapshot goal now batch s).1 v.sourceId :=
  consumed_high batch (s, [])

theorem decide_rises (m : MotionSupervisor) (clock : Except NavigationContractError Int)
    (fresh : Except NavigationContractError String) (snapshot : NavigationSnapshot) (goal : WaypointGoal)
    (batch : List StampedProposal) : Keeps Rises (m.decide clock fresh snapshot goal batch) := by
  intro s
  cases decide_course m clock snapshot goal s with
  | fails error hfails =>
    rw [hfails]
    exact refl_of Rises s
  | stops reason s₁ _ hhigh hstops =>
    rw [hstops]
    exact trans_of Rises (.of_eq hhigh) (issue_rises fresh _ s₁)
  | arbitrates now _ harbitrates =>
    rw [harbitrates]
    have hbegun : Rises s (begun goal s) := .of_eq (begun_sourceHighWater goal s)
    have hfiltered := (filtered_high m snapshot goal now batch (begun goal s)).1
    exact trans_of Rises hbegun (trans_of Rises hfiltered (arbitrate_rises fresh _ _))

theorem decide_drive {clock : Except NavigationContractError Int} {fresh : Except NavigationContractError String}
    {pulse : DrivePulse} {v : StampedProposal} (h : m.decide clock fresh snapshot goal batch s = (.ok pulse, s'))
    (hd : Drives v (.decide clock fresh snapshot goal batch, .pulse (.ok pulse))) :
    high s v.sourceId < v.sourceSequence ∧ v.sourceSequence ≤ high s' v.sourceId := by
  obtain ⟨hk, hv, hid⟩ := hd
  cases decide_course m clock snapshot goal s with
  | fails error hfails =>
    rw [hfails] at h
    cases h
  | stops reason s₁ _ _ hstops =>
    rw [hstops] at h
    obtain ⟨id, rfl⟩ := (issue_planned fresh _ s₁).ok h
    cases hk
  | arbitrates now _ harbitrates =>
    rw [harbitrates] at h
    obtain ⟨value, hvalue, hvid⟩ := arbitrate_drive h hk
    obtain ⟨hone, hnewer⟩ := filtered_fresh hvalue
    have hmem := filtered_subset hvalue
    have hsame : v.proposal.proposalId = value.proposal.proposalId := Option.some.inj (hid.symm.trans hvid)
    have hcovers := (filtered_high m snapshot goal now batch (begun goal s)).2 value hmem
    have hrises := ((arbitrate_rises fresh _).triple _).ok h
    rw [← eq_of_countP hone hmem hv hsame]
    exact ⟨begun_high goal s ▸ hnewer, hcovers.trans (hrises value.sourceId)⟩

-- Runs

theorem step_rises (m : MotionSupervisor) (s : State) (c : SupervisorCall) : Rises s (m.machine.step s c).2 := by
  cases c with
  | decide clock fresh snapshot goal proposals => exact decide_rises m clock fresh snapshot goal proposals s
  | observeEmergency snapshot =>
    have hkeeps : Keeps Rises (m.observeEmergency snapshot) := by
      unfold observeEmergency
      refine Keeps.ite (Keeps.pure _) (Keeps.ite ?_ (Keeps.pure _))
      exact Keeps.bind (Keeps.modify fun _ => .of_eq rfl) fun _ => Keeps.pure _
    exact hkeeps s
  | requestRearm clock goal snapshots =>
    have hkeeps : Keeps Rises (m.requestRearm clock goal snapshots) := by
      unfold requestRearm
      refine Keeps.bind Keeps.get fun s => Keeps.ite (Keeps.pure _) (Keeps.ite (Keeps.pure _) ?_)
      split
      · exact Keeps.pure _
      refine Keeps.ite (Keeps.pure _) (Keeps.bind (Keeps.ofExcept _) fun _ => Keeps.ite ?_ (Keeps.pure _))
      exact Keeps.bind (Keeps.modify fun _ => .of_eq rfl) fun _ => Keeps.pure _
    exact hkeeps s
  | forceStop fresh snapshot reasonCode =>
    have hstop : m.forceStop fresh snapshot reasonCode = m.issue fresh snapshot ⟨.stop, 0, 0, 0, reasonCode, none⟩ := rfl
    have hkeeps : Keeps Rises (m.forceStop fresh snapshot reasonCode) := hstop ▸ issue_rises fresh _
    exact hkeeps s
  | authority call => exact .of_eq rfl

/-- No two entries of a history drive for one sequence number of a source. -/
def DrivesOnce (h : List SupervisorEvent) : Prop :=
  h.Pairwise fun later earlier => ∀ v w, Drives v later → Drives w earlier →
    (v.sourceId, v.sourceSequence) ≠ (w.sourceId, w.sourceSequence)

def Covered (h : List SupervisorEvent) (s : State) : Prop :=
  ∀ e ∈ h, ∀ v, Drives v e → v.sourceSequence ≤ high s v.sourceId

theorem step_drives {c : SupervisorCall} {v : StampedProposal} (hd : Drives v (c, (m.machine.step s c).1)) :
    high s v.sourceId < v.sourceSequence ∧ v.sourceSequence ≤ high (m.machine.step s c).2 v.sourceId := by
  cases c with
  | decide clock fresh snapshot goal proposals =>
    rcases hrun : m.decide clock fresh snapshot goal proposals s with ⟨error | pulse, t⟩
    · simp only [machine, hrun, Drives] at hd
    · simp only [machine, hrun] at hd ⊢
      exact decide_drive hrun hd
  | _ => exact hd.elim

theorem drivesOnce_of_runs {s₀ : State} {h : List SupervisorEvent} (hr : m.machine.Runs Machine.always s₀ h s) :
    DrivesOnce h := by
  have hinv : DrivesOnce h ∧ Covered h s := by
    induction hr with
    | nil => exact ⟨.nil, by simp [Covered]⟩
    | cons _ _ ih =>
      obtain ⟨honce, hcovered⟩ := ih
      refine ⟨List.pairwise_cons.mpr ⟨fun e he v w hv hw heq => ?_, honce⟩, fun e he v hv => ?_⟩
      · injection heq with hsource hsequence
        have hlt := (step_drives hv).1
        have hle := hcovered e he w hw
        rw [hsource, hsequence] at hlt
        omega
      · rcases List.mem_cons.mp he with rfl | he
        · exact (step_drives hv).2
        · exact (hcovered e he v hv).trans (step_rises m _ _ v.sourceId)
  exact hinv.1

/-- The decision on a batch does not change when bystanders join it or leave
it, in any order, as long as the window remembers both batches; and no run
drives for one sequence number of a source twice. -/
theorem decide_order_free (m : MotionSupervisor) :
    (∀ (s : State) (clock : Except NavigationContractError Int) (snapshot : NavigationSnapshot) (goal : WaypointGoal)
        (batch batch' extra : List StampedProposal), Adds batch batch' extra →
      (∀ now, nowMs clock = .ok now → m.Below snapshot goal now (begun goal s) batch extra) →
      m.Remembers (begun goal s).seenProposals batch → m.Remembers (begun goal s).seenProposals batch' →
      (∀ fresh, (m.decide clock fresh snapshot goal batch' s).1 = (m.decide clock fresh snapshot goal batch s).1) ∧
      ∀ fresh fresh' p p' t t', m.decide clock fresh snapshot goal batch s = (.ok p, t) →
        m.decide clock fresh' snapshot goal batch' s = (.ok p', t') → SameButId p p') ∧
    ∀ s₀ h s, m.machine.Runs Machine.always s₀ h s → DrivesOnce h := by
  refine ⟨fun s clock snapshot goal batch batch' extra hadds hbelow hr hr' => ?_, fun s₀ h s => drivesOnce_of_runs⟩
  have hsame := decide_adds hadds hbelow hr hr'
  refine ⟨hsame, fun fresh fresh' p p' t t' h h' => ?_⟩
  rcases hrun : m.decide clock fresh' snapshot goal batch s with ⟨r, u⟩
  have hr := hsame fresh'
  rw [h', hrun] at hr
  exact decide_sameButId h (hrun.trans (congrArg (·, u) hr.symm))

-- A window of one

/-- An avoidance turn, the second time under its old identifier. -/
def sampleTurn (again : Bool) : StampedProposal :=
  { sampleHold with
    proposal :=
      { sampleHold.proposal with
        proposalId := "turn-1"
        decision :=
          .nextSegment (.turn { angleMdeg := 9000, angularSpeedMdegS := 90000, angularSpeedOk := ⟨by decide, by decide⟩ })
        proposalIdOk := by decide }
    sourceId := "avoidance"
    sourceSequence := if again then 2 else 1
    authorityRank := 2
    sourceIdOk := by decide
    sourceSequenceOk := by cases again <;> decide
    authorityRankOk := ⟨by decide, by decide⟩ }

/-- The turn is decided with or without the hold below it, and before or after
it. -/
theorem turn_beside_hold :
    (∀ fresh, (sampleSupervisor.decide (.ok 960) fresh sampleClear sampleGoal [sampleHold, sampleTurn false]
        { authority := sampleAuthority 4 8 }).1 =
      (sampleSupervisor.decide (.ok 960) fresh sampleClear sampleGoal [sampleTurn false]
        { authority := sampleAuthority 4 8 }).1) ∧
    DrivesOnce (sampleRun [.decide (.ok 960) (.ok "decision-1") sampleClear sampleGoal [sampleTurn false]]).1 := by
  have h := decide_order_free sampleSupervisor
  have hadds : Adds [sampleTurn false] [sampleHold, sampleTurn false] [sampleHold] :=
    ⟨List.Perm.swap _ _ [], by decide, by decide⟩
  have hbelow : ∀ now, nowMs (.ok 960) = .ok now → sampleSupervisor.Below sampleClear sampleGoal now
      (begun sampleGoal { authority := sampleAuthority 4 8 }) [sampleTurn false] [sampleHold] := by
    intro now hnow
    cases hnow
    intro v hv
    rw [List.mem_singleton.mp hv]
    exact ⟨sampleTurn false, List.mem_cons_self, by decide +kernel, by decide⟩
  refine ⟨(h.1 _ _ _ _ _ _ _ hadds hbelow ?_ ?_).1, ?_⟩
  · exact remembers_of_room (by decide)
  · exact remembers_of_room (by decide)
  · exact h.2 _ _ _ (Machine.runs_runList (Machine.stepsOk_always _ _ _))

def forgetfulSupervisor : MotionSupervisor :=
  { sampleSupervisor with
    policy := { sampleSupervisor.policy with proposalReplayWindow := 1, replayOk := by decide }
    withinCalibration := by decide }

def turnedState : State :=
  (forgetfulSupervisor.decide (.ok 960) (.ok "decision-1") sampleClear sampleGoal [sampleTurn false]
    { authority := sampleAuthority 4 8 }).2

/-- A turn repeated under its old identifier is a replay, unless a proposal
before it has pushed that identifier out of the window. -/
theorem replay_by_order :
    ¬ ∀ (m : MotionSupervisor) (s : State) (clock : Except NavigationContractError Int)
        (fresh fresh' : Except NavigationContractError String) (snapshot : NavigationSnapshot) (goal : WaypointGoal)
        (batch batch' : List StampedProposal) (p p' : DrivePulse) (t t' : State), batch'.Perm batch →
      m.decide clock fresh snapshot goal batch s = (.ok p, t) →
      m.decide clock fresh' snapshot goal batch' s = (.ok p', t') → SameButId p p' := by
  intro hall
  have hkinds : ((forgetfulSupervisor.decide (.ok 960) (.ok "decision-2") sampleClear sampleGoal
        [sampleTurn true, sampleHold] turnedState).1.toOption.any fun p =>
      (forgetfulSupervisor.decide (.ok 960) (.ok "decision-3") sampleClear sampleGoal
        [sampleHold, sampleTurn true] turnedState).1.toOption.any fun p' =>
      (p.kind = .stop ∧ p'.kind = .drive : Bool)) = true := by decide +kernel
  rcases hfirst : forgetfulSupervisor.decide (.ok 960) (.ok "decision-2") sampleClear sampleGoal
      [sampleTurn true, sampleHold] turnedState with ⟨error | p, t⟩ <;>
    rcases hsecond : forgetfulSupervisor.decide (.ok 960) (.ok "decision-3") sampleClear sampleGoal
      [sampleHold, sampleTurn true] turnedState with ⟨error' | p', t'⟩ <;> rw [hfirst, hsecond] at hkinds
  · cases hkinds
  · cases hkinds
  · cases hkinds
  · obtain ⟨hstop, hdrive⟩ := of_decide_eq_true hkinds
    have hsame := hall _ _ _ _ _ _ _ _ _ p p' t t' (List.Perm.swap _ _ []) hfirst hsecond
    have hkind : p'.kind = p.kind := by rw [hsame]
    rw [hstop, hdrive] at hkind
    cases hkind

end MotionSupervisor

end RobotLlm.Navigation
