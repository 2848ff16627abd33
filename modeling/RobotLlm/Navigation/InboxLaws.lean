import RobotLlm.Navigation.Inbox

/-!
# Laws of the inbox

What was published is what was drained and what waits, in the order of
publication and under the policy of its source. Whatever the order of the
calls, the memory of spent ids agrees with itself.
-/

namespace RobotLlm.Navigation

open RobotLlm.Lib

-- What a history tells

/-- The proposals that were published, the first one first. -/
def published : List (InboxCall × InboxAnswer) → List StampedProposal
  | [] => []
  | (_, .published (.ok stamped)) :: h => published h ++ [stamped]
  | _ :: h => published h

def drained : List (InboxCall × InboxAnswer) → List StampedProposal
  | [] => []
  | (_, .drained values) :: h => drained h ++ values
  | _ :: h => drained h

namespace InboxCall

def Offers (proposal : PlannerProposal) (sourceId : String) : InboxCall → Prop
  | .publish p s _ _ | .publishHost p s _ => p = proposal ∧ s = sourceId
  | .drain => False

end InboxCall

/-- The proposal is stamped with the authority, priority and time to live of its policy. -/
structure StampedProposal.Under (stamped : StampedProposal) (policy : ProposalSourcePolicy) : Prop where
  sourceId : stamped.sourceId = policy.sourceId
  authorityRank : stamped.authorityRank = policy.authorityRank
  priority : stamped.priority = policy.priority
  validUntilMs : stamped.validUntilMs = stamped.receivedAtMs + policy.ttlMs

-- One call

namespace ProposalInbox

variable {b b' : ProposalInbox} {call : InboxCall} {answer : InboxAnswer}

theorem new_ok {proposal : PlannerProposal} {sourceId : String} {sequence received valid rank priority : Int}
    {stamped : StampedProposal}
    (h : StampedProposal.new proposal sourceId sequence received valid rank priority = .ok stamped) :
    stamped.proposal = proposal ∧ stamped.sourceId = sourceId ∧ stamped.sourceSequence = sequence ∧
      stamped.receivedAtMs = received ∧ stamped.validUntilMs = valid ∧ stamped.authorityRank = rank ∧
        stamped.priority = priority := by
  unfold StampedProposal.new at h
  split_ifs at h
  cases h
  exact ⟨rfl, rfl, rfl, rfl, rfl, rfl, rfl⟩

/-- A proposal is accepted under its policy, with a new id, a new sequence and room for it. -/
structure Stamped (b : ProposalInbox) (proposal : PlannerProposal) (sourceId : String) (stamped : StampedProposal) :
    Prop where
  proposal : stamped.proposal = proposal
  sourceId : stamped.sourceId = sourceId
  policy : ∃ policy ∈ b.policies, stamped.Under policy
  fresh : stamped.proposal.proposalId ∉ b.proposalIds.ids
  advances : b.highWater stamped.sourceId < stamped.sourceSequence
  room : b.queue.length < b.capacity

theorem stamp_ok {proposal : PlannerProposal} {sourceId : String} {sequence now : Int} {stamped : StampedProposal}
    (h : b.stamp proposal sourceId sequence now = .ok stamped) : b.Stamped proposal sourceId stamped := by
  unfold stamp at h
  cases hp : b.policies.find? (·.sourceId = sourceId) with
  | none => rw [hp] at h; cases h
  | some policy =>
    rw [hp] at h
    dsimp only at h
    have hsource : policy.sourceId = sourceId := by simpa using List.find?_some hp
    split_ifs at h with hid hseq hroom
    obtain ⟨hproposal, hs, hq, hr, hv, ha, hpr⟩ := new_ok h
    refine ⟨hproposal, hs, ⟨policy, List.mem_of_find?_eq_some hp, ?_⟩, ?_, ?_, not_le.mp hroom⟩
    · exact ⟨hs.trans hsource.symm, ha, hpr, by rw [hv, hr]⟩
    · rw [hproposal]
      exact hid
    · rw [hs, hq]
      exact not_le.mp hseq

/-- What a call may do: refuse and leave everything as it was, accept a proposal, or hand
out all that waits. -/
inductive Moves (b : ProposalInbox) (call : InboxCall) : InboxAnswer → ProposalInbox → Prop
  | refused (e : InboxError) : Moves b call (.published (.error e)) b
  | accepted {proposal : PlannerProposal} {sourceId : String} {stamped : StampedProposal} :
      call.Offers proposal sourceId → b.Stamped proposal sourceId stamped →
      Moves b call (.published (.ok stamped)) (b.accept stamped)
  | drained : Moves b call (.drained b.queue) { b with queue := [] }

theorem publishLocked_moves {proposal : PlannerProposal} {sourceId : String} (sequence now : Int)
    (hc : call.Offers proposal sourceId) :
    b.Moves call (.published (b.publishLocked proposal sourceId sequence now).1)
      (b.publishLocked proposal sourceId sequence now).2 := by
  unfold publishLocked
  cases hs : b.stamp proposal sourceId sequence now with
  | ok stamped => exact .accepted hc (stamp_ok hs)
  | error e => exact .refused _

theorem step_moves (b : ProposalInbox) (call : InboxCall) :
    b.Moves call (proposalInbox.step b call).1 (proposalInbox.step b call).2 := by
  cases call with
  | publish proposal sourceId sequence clock =>
    simp only [proposalInbox, publish]
    cases publishTime sourceId sequence clock with
    | ok now => exact publishLocked_moves sequence now ⟨rfl, rfl⟩
    | error e => exact .refused e
  | publishHost proposal sourceId clock =>
    simp only [proposalInbox, publishHost]
    cases publishHostTime sourceId clock with
    | ok now => exact publishLocked_moves _ now ⟨rfl, rfl⟩
    | error e => exact .refused e
  | drain => exact .drained

-- The invariant

/-- What holds after every call: the queue is bounded, the memory is sound, and what was
published agrees with the high-water marks and with what was drained. -/
structure Inv (policies : List ProposalSourcePolicy) (capacity replayWindow : Nat) (h : List (InboxCall × InboxAnswer))
    (b : ProposalInbox) : Prop where
  samePolicies : b.policies = policies
  sameCapacity : b.capacity = capacity
  sameWindow : b.replayWindow = replayWindow
  length : b.queue.length ≤ capacity
  ids : b.proposalIds.Sound replayWindow
  published : published h = drained h ++ b.queue
  below : ∀ stamped ∈ Navigation.published h, stamped.sourceSequence ≤ b.highWater stamped.sourceId
  increasing : (Navigation.published h).Pairwise fun x y => x.sourceId = y.sourceId → x.sourceSequence < y.sourceSequence
  under : ∀ call stamped, (call, InboxAnswer.published (.ok stamped)) ∈ h →
    call.Offers stamped.proposal stamped.sourceId ∧ ∃ policy ∈ policies, stamped.Under policy

theorem highWater_accept (b : ProposalInbox) (stamped : StampedProposal) (sourceId : String) :
    (b.accept stamped).highWater sourceId =
      if sourceId = stamped.sourceId then stamped.sourceSequence else b.highWater sourceId := by
  unfold highWater accept
  by_cases h : sourceId = stamped.sourceId
  · rw [if_pos h, h, AList.lookup_insert]
    rfl
  · rw [if_neg h, AList.lookup_insert_ne h]

variable {policies : List ProposalSourcePolicy} {capacity replayWindow : Nat} {h : List (InboxCall × InboxAnswer)}

theorem Inv.step (hb : b.Inv policies capacity replayWindow h) (hw : 0 < replayWindow) (hm : b.Moves call answer b') :
    b'.Inv policies capacity replayWindow ((call, answer) :: h) := by
  cases hm with
  | refused e =>
    refine ⟨hb.samePolicies, hb.sameCapacity, hb.sameWindow, hb.length, hb.ids, hb.published, hb.below, hb.increasing, ?_⟩
    intro c stamped hmem
    obtain heq | hmem := List.mem_cons.mp hmem
    · cases heq
    · exact hb.under c stamped hmem
  | accepted hc hs =>
    rename_i stamped
    have hbelow : ∀ old ∈ Navigation.published h, old.sourceId = stamped.sourceId →
        old.sourceSequence < stamped.sourceSequence := fun old hold hid =>
      (hid ▸ hb.below old hold).trans_lt hs.advances
    constructor
    · exact hb.samePolicies
    · exact hb.sameCapacity
    · exact hb.sameWindow
    · have hroom := hs.room
      rw [hb.sameCapacity] at hroom
      simp only [accept, List.length_append, List.length_singleton]
      omega
    · rw [← hb.sameWindow]
      exact ReplayWindow.remember_sound (hb.sameWindow ▸ hb.ids) (hb.sameWindow ▸ hw) hs.fresh
    · simp only [Navigation.published, Navigation.drained, accept, hb.published, List.append_assoc]
    · intro x hx
      rw [highWater_accept]
      obtain hx | hx := List.mem_append.mp hx
      · split
        next hid => exact (hbelow x hx hid).le
        next => exact hb.below x hx
      · obtain rfl := List.mem_singleton.mp hx
        rw [if_pos rfl]
    · refine List.pairwise_append.mpr ⟨hb.increasing, List.pairwise_singleton _ _, fun x hx y hy => ?_⟩
      obtain rfl := List.mem_singleton.mp hy
      exact hbelow x hx
    · intro c x hmem
      obtain heq | hmem := List.mem_cons.mp hmem
      · cases heq
        exact ⟨by rw [hs.proposal, hs.sourceId]; exact hc, hb.samePolicies ▸ hs.policy⟩
      · exact hb.under c x hmem
  | drained =>
    refine ⟨hb.samePolicies, hb.sameCapacity, hb.sameWindow, Nat.zero_le _, hb.ids, ?_, hb.below, hb.increasing, ?_⟩
    · simp only [Navigation.published, Navigation.drained, List.append_nil]
      exact hb.published
    · intro c x hmem
      obtain heq | hmem := List.mem_cons.mp hmem
      · cases heq
      · exact hb.under c x hmem

theorem new_inv (hn : ProposalInbox.new policies capacity replayWindow = .ok b) :
    0 < replayWindow ∧ b.Inv policies capacity replayWindow [] := by
  unfold ProposalInbox.new at hn
  by_cases hp : policies = []
  · rw [if_pos hp] at hn
    cases hn
  rw [if_neg hp] at hn
  cases hc : integer "capacity" capacity 1 10000 with
  | error e => rw [hc] at hn; cases hn
  | ok c =>
    cases hw : integer "replay_window" replayWindow capacity 100000 with
    | error e => rw [hc, hw] at hn; cases hn
    | ok w =>
      rw [hc, hw] at hn
      by_cases hd : (policies.map (·.sourceId)).Nodup
      · rw [if_neg (not_not_intro hd)] at hn
        cases hn
        have hlow := (integer_ok hc).2.1
        have hwindow := (integer_ok hw).2.1
        refine ⟨by omega, ?_⟩
        exact {
          samePolicies := rfl
          sameCapacity := rfl
          sameWindow := rfl
          length := Nat.zero_le _
          ids := ReplayWindow.empty_sound
          published := rfl
          below := fun _ hmem => absurd hmem List.not_mem_nil
          increasing := List.Pairwise.nil
          under := fun _ _ hmem => absurd hmem List.not_mem_nil }
      · rw [if_pos hd] at hn
        cases hn

theorem runs_inv {b₀ : ProposalInbox} (hn : ProposalInbox.new policies capacity replayWindow = .ok b₀)
    (hr : proposalInbox.Runs Machine.always b₀ h b) : b.Inv policies capacity replayWindow h := by
  obtain ⟨hw, hi⟩ := new_inv hn
  refine hr.historyInvariant (I := fun h b => b.Inv policies capacity replayWindow h) hi ?_
  intro h b call hb _
  exact hb.step hw (step_moves b call)

theorem Inv.nodup (hb : b.Inv policies capacity replayWindow h) : (Navigation.published h).Nodup :=
  hb.increasing.imp fun hlt heq => absurd (hlt (congrArg _ heq)) (by rw [heq]; exact lt_irrefl _)

end ProposalInbox

/-- In every order of the calls: what was published is what was drained and what waits, each
once; it stands under the policy of its source; the sequences of a source increase; a
refusal changes nothing, and the memory of spent ids is sound. -/
theorem proposalInbox_conserves {policies : List ProposalSourcePolicy} {capacity replayWindow : Nat}
    {b₀ b : ProposalInbox} {h : List (InboxCall × InboxAnswer)}
    (hn : ProposalInbox.new policies capacity replayWindow = .ok b₀) (hr : proposalInbox.Runs Machine.always b₀ h b) :
    (published h = drained h ++ b.queue ∧ (published h).Nodup) ∧
      (∀ call stamped, (call, .published (.ok stamped)) ∈ h →
        call.Offers stamped.proposal stamped.sourceId ∧ ∃ policy ∈ policies, stamped.Under policy) ∧
      (∀ sourceId, (((drained h).filter (·.sourceId = sourceId)).map (·.sourceSequence)).Pairwise (· < ·)) ∧
      b.queue.length ≤ capacity ∧
      (∀ call e, (proposalInbox.step b call).1 = .published (.error e) → (proposalInbox.step b call).2 = b) ∧
      (∀ id, id ∈ b.proposalIds.ids ↔ id ∈ b.proposalIds.order) ∧ b.proposalIds.order.Nodup ∧
        b.proposalIds.order.length ≤ replayWindow := by
  have hb := ProposalInbox.runs_inv hn hr
  refine ⟨⟨hb.published, hb.nodup⟩, hb.under, fun sourceId => ?_, hb.length, fun call e he => ?_,
    hb.ids.mem, hb.ids.nodup, hb.ids.bound⟩
  · have hdrained : (drained h).Pairwise fun x y => x.sourceId = y.sourceId → x.sourceSequence < y.sourceSequence := by
      have hincreasing := hb.increasing
      rw [hb.published] at hincreasing
      exact (List.pairwise_append.mp hincreasing).1
    refine List.pairwise_map.mpr ((hdrained.filter _).imp_of_mem fun hx hy hlt => hlt ?_)
    have hx := of_decide_eq_true (List.mem_filter.mp hx).2
    have hy := of_decide_eq_true (List.mem_filter.mp hy).2
    exact hx.trans hy.symm
  · have hm := ProposalInbox.step_moves b call
    generalize (proposalInbox.step b call).2 = b' at hm ⊢
    rw [he] at hm
    cases hm
    rfl

def holdProposal : PlannerProposal where
  proposalId := "proposal-1"
  goalId := "goal-1"
  goalEpoch := 1
  planRevision := 1
  basedOnStateVersion := 1
  basedOnWorldModelVersion := 1
  decision := .hold { text := "waiting", ok := rfl }
  confidenceMilli := 900
  proposalIdOk := rfl
  goalEpochOk := between_one_counterMax
  planRevisionOk := between_one_counterMax
  stateVersionOk := between_one_counterMax
  worldModelVersionOk := between_one_counterMax
  confidenceOk := ⟨by decide, by decide⟩

def plannerPolicy : ProposalSourcePolicy where
  sourceId := "planner"
  authorityRank := 10
  priority := 5
  ttlMs := 1000

/-- Published, refused a second time, and drained. -/
theorem proposalInbox_conserves_sample : ∃ b₀ h b, ProposalInbox.new [plannerPolicy] = .ok b₀ ∧
    proposalInbox.Runs Machine.always b₀ h b ∧ published h = drained h ++ b.queue ∧ (drained h).length = 1 ∧
      b.queue.length ≤ 64 := by
  have hr := Machine.runs_runList (Machine.stepsOk_always proposalInbox ⟨[plannerPolicy], 64, 4096, [], .empty, ∅⟩
    [.publish holdProposal "planner" 3 (.ok 100), .publishHost holdProposal "planner" (.ok 90), .drain])
  have hn : ProposalInbox.new [plannerPolicy] = .ok ⟨[plannerPolicy], 64, 4096, [], .empty, ∅⟩ := by rfl
  obtain ⟨⟨hpublished, -⟩, -, -, hlength, -⟩ := proposalInbox_conserves hn hr
  exact ⟨_, _, _, hn, hr, hpublished, by decide, hlength⟩

end RobotLlm.Navigation
