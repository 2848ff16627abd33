import Mathlib.Data.List.AList
import RobotLlm.Lib.Machine
import RobotLlm.Lib.ReplayWindow
import RobotLlm.Navigation.Contract

/-!
# The inbox of proposals

Many producers publish, the host drains. The host owns authority, priority and
time to live: they come from the policy of the source. A call reads the clock
before it takes the lock, so callers interleave call by call and the times of
their proposals need not increase.
-/

namespace RobotLlm.Navigation

open RobotLlm.Lib

structure ProposalSourcePolicy where
  sourceId : String
  authorityRank : Int
  priority : Int
  ttlMs : Int
  sourceIdOk : identifierOk sourceId := by decide
  authorityRankOk : Between authorityRank 0 10000 := by decide
  priorityOk : Between priority 0 10000 := by decide
  ttlOk : Between ttlMs 1 10000 := by decide

/-- `StampedProposal(..)`. -/
def StampedProposal.new (proposal : PlannerProposal) (sourceId : String)
    (sourceSequence receivedAtMs validUntilMs authorityRank priority : Int) :
    Except NavigationContractError StampedProposal :=
  if hs : identifierOk sourceId then
    if hq : Between sourceSequence 1 counterMax then
      if hr : Between receivedAtMs 0 counterMax then
        if hv : Between validUntilMs (receivedAtMs + 1) counterMax then
          if ha : Between authorityRank 0 10000 then
            if hp : Between priority 0 10000 then
              .ok {
                proposal := proposal
                sourceId := sourceId
                sourceSequence := sourceSequence
                receivedAtMs := receivedAtMs
                validUntilMs := validUntilMs
                authorityRank := authorityRank
                priority := priority
                sourceIdOk := hs
                sourceSequenceOk := hq
                receivedAtOk := hr
                validUntilOk := hv
                authorityRankOk := ha
                priorityOk := hp }
            else .error ⟨"invalid_integer", "priority is invalid"⟩
          else .error ⟨"invalid_integer", "authority_rank is invalid"⟩
        else .error ⟨"invalid_integer", "valid_until_ms is invalid"⟩
      else .error ⟨"invalid_integer", "received_at_ms is invalid"⟩
    else .error ⟨"invalid_integer", "source_sequence is invalid"⟩
  else .error ⟨"invalid_identifier", "source_id is invalid"⟩

/-- What a call of the inbox raises: its own error, or what the clock raised. -/
inductive InboxError where
  | contract (error : NavigationContractError)
  | clock (error : String)
deriving DecidableEq

structure ProposalInbox where
  /-- One policy for each source. -/
  policies : List ProposalSourcePolicy
  capacity : Nat
  replayWindow : Nat
  queue : List StampedProposal
  /-- `_proposal_ids` and `_proposal_id_order`. -/
  proposalIds : ReplayWindow String
  sourceHighWater : AList fun _ : String => Int

namespace ProposalInbox

def new (policies : List ProposalSourcePolicy) (capacity : Nat := 64) (replayWindow : Nat := 4096) :
    Except NavigationContractError ProposalInbox := do
  if policies = [] then throw ⟨"invalid_inbox_configuration", "Proposal inbox configuration is invalid"⟩
  let _ ← integer "capacity" capacity 1 10000
  let _ ← integer "replay_window" replayWindow capacity 100000
  if ¬ (policies.map (·.sourceId)).Nodup then throw ⟨"duplicate_source_policy", "Proposal source policy is duplicated"⟩
  return ⟨policies, capacity, replayWindow, [], .empty, ∅⟩

/-- `_source_high_water.get(source_id, 0)`. -/
def highWater (b : ProposalInbox) (sourceId : String) : Int := (b.sourceHighWater.lookup sourceId).getD 0

/-- The proposal under its policy's authority, where every check passes. -/
def stamp (b : ProposalInbox) (proposal : PlannerProposal) (sourceId : String) (sourceSequence nowMs : Int) :
    Except NavigationContractError StampedProposal :=
  match b.policies.find? (·.sourceId = sourceId) with
  | none => .error ⟨"unknown_proposal_source", "Proposal source is not allowlisted"⟩
  | some policy =>
    if proposal.proposalId ∈ b.proposalIds.ids then
      .error ⟨"duplicate_proposal_id", "Proposal ID has already been published"⟩
    else if sourceSequence ≤ b.highWater sourceId then
      .error ⟨"replayed_source_sequence", "Source sequence did not advance"⟩
    else if b.capacity ≤ b.queue.length then
      .error ⟨"proposal_inbox_full", "Proposal inbox capacity was exhausted"⟩
    else
      StampedProposal.new proposal sourceId sourceSequence nowMs (nowMs + policy.ttlMs) policy.authorityRank policy.priority

/-- What becomes of the inbox once the proposal is stamped. -/
def accept (b : ProposalInbox) (stamped : StampedProposal) : ProposalInbox :=
  { b with
    queue := b.queue ++ [stamped]
    proposalIds := b.proposalIds.remember b.replayWindow stamped.proposal.proposalId
    sourceHighWater := b.sourceHighWater.insert stamped.sourceId stamped.sourceSequence }

def publishLocked (b : ProposalInbox) (proposal : PlannerProposal) (sourceId : String) (sourceSequence nowMs : Int) :
    Except InboxError StampedProposal × ProposalInbox :=
  match b.stamp proposal sourceId sourceSequence nowMs with
  | .ok stamped => (.ok stamped, b.accept stamped)
  | .error e => (.error (.contract e), b)

def nowMs (clock : Except String Int) : Except InboxError Int :=
  match clock with
  | .ok value => (integer "clock_ms" value 0 counterMax).mapError .contract
  | .error e => .error (.clock e)

/-- The checks of `publish` before the lock, and the time it is called at. -/
def publishTime (sourceId : String) (sourceSequence : Int) (clock : Except String Int) : Except InboxError Int := do
  let _ ← (identifier "source_id" sourceId).mapError .contract
  let _ ← (integer "source_sequence" sourceSequence 1 counterMax).mapError .contract
  nowMs clock

def publish (b : ProposalInbox) (proposal : PlannerProposal) (sourceId : String) (sourceSequence : Int)
    (clock : Except String Int) : Except InboxError StampedProposal × ProposalInbox :=
  match publishTime sourceId sourceSequence clock with
  | .ok now => b.publishLocked proposal sourceId sourceSequence now
  | .error e => (.error e, b)

/-- The checks of `publish_host` before the lock. -/
def publishHostTime (sourceId : String) (clock : Except String Int) : Except InboxError Int := do
  let _ ← (identifier "source_id" sourceId).mapError .contract
  nowMs clock

def publishHost (b : ProposalInbox) (proposal : PlannerProposal) (sourceId : String) (clock : Except String Int) :
    Except InboxError StampedProposal × ProposalInbox :=
  match publishHostTime sourceId clock with
  | .ok now => b.publishLocked proposal sourceId (b.highWater sourceId + 1) now
  | .error e => (.error e, b)

def drain (b : ProposalInbox) : List StampedProposal × ProposalInbox := (b.queue, { b with queue := [] })

end ProposalInbox

/-- A call, with what its reading of the clock gives. -/
inductive InboxCall where
  | publish (proposal : PlannerProposal) (sourceId : String) (sourceSequence : Int) (clock : Except String Int)
  | publishHost (proposal : PlannerProposal) (sourceId : String) (clock : Except String Int)
  | drain

inductive InboxAnswer where
  | published (result : Except InboxError StampedProposal)
  | drained (values : List StampedProposal)

/-- The inbox as its callers see it, one locked call after the other. -/
def proposalInbox : Machine ProposalInbox InboxCall InboxAnswer where
  step b
    | .publish proposal sourceId sourceSequence clock =>
      let r := b.publish proposal sourceId sourceSequence clock
      (.published r.1, r.2)
    | .publishHost proposal sourceId clock =>
      let r := b.publishHost proposal sourceId clock
      (.published r.1, r.2)
    | .drain => (.drained b.drain.1, b.drain.2)

end RobotLlm.Navigation
