import RobotLlm.Physical.Experience

/-!
# The ledger counts what was recorded

However many attempts there were, the maps of the ledger hold of them what a look
through all of them would find: the latest attempt of each identity, with or
without its basis, and the counts of each action on each basis.
-/

namespace RobotLlm.Physical.Experience

open RobotLlm.Lib

-- Maps with a latest key

section
variable {κ α : Type} [DecidableEq κ] {d : Dict κ α} {k k' : κ} {v : α}

theorem get?_touch : (touch d k v).get? k' = if k' = k then some v else d.get? k' := by
  rw [touch, Dict.get?_set, Dict.get?_erase]
  by_cases h : k' = k <;> simp [h]

theorem size_touch_le : (touch d k v).size ≤ d.size + 1 := by
  have hkeys : (d.erase k).keys.length ≤ d.keys.length := by
    rw [Dict.keys_erase]
    exact List.length_filter_le _ _
  have hnew : k ∉ (d.erase k).keys := by simp [Dict.keys_erase]
  rw [touch, Dict.size_eq_length_keys, Dict.size_eq_length_keys, Dict.keys_set_of_not_mem hnew, List.length_append,
    List.length_singleton]
  omega

theorem trimmed_of_le (h : d.size ≤ maxSeenKeys) : trimmed d = d := by
  rw [trimmed, Nat.sub_eq_zero_of_le h]
  rfl

end

-- Records

/-- A call that succeeded, and the entry it returned. -/
structure LedgerRecord where
  call : RecordCall
  entry : NavigationExperience

section
variable {digest : List Char → String} {ledger ledger' : NavigationExperienceLedger} {call : RecordCall}
  {entry : NavigationExperience}

theorem record_ok_iff : ledger.record digest call = .ok (entry, ledger') ↔
    (0 < call.turn ∧ call.action ∈ sortedActions ∧ call.source ∈ actionSources) ∧
    ∃ outcome, outcomeFacts call.result = .ok outcome ∧ entry = ledger.entryOf digest call outcome ∧ ledger' = ledger.keep entry := by
  rw [NavigationExperienceLedger.record, require_bind_ok_iff, bind_ok_iff]
  constructor
  · rintro ⟨hvalid, outcome, houtcome, hreturn⟩
    obtain ⟨rfl, rfl⟩ := Prod.mk.inj (Except.ok.inj hreturn)
    exact ⟨hvalid, outcome, houtcome, rfl, rfl⟩
  · rintro ⟨hvalid, outcome, houtcome, rfl, rfl⟩
    exact ⟨hvalid, outcome, houtcome, rfl⟩

end

/-- A ledger to which these calls were made, in this order. -/
inductive Recorded (digest : List Char → String) (episodeId : String) (maxEntries : Nat)
    (hvalid : 1 ≤ maxEntries ∧ maxEntries ≤ maxEntriesLimit) : List LedgerRecord → NavigationExperienceLedger → Prop
  | new : Recorded digest episodeId maxEntries hvalid []
      { episodeId := episodeId, maxEntries := maxEntries, maxEntries_valid := hvalid }
  | record {records : List LedgerRecord} {ledger ledger' : NavigationExperienceLedger} {call : RecordCall}
      {entry : NavigationExperience} (hrecorded : Recorded digest episodeId maxEntries hvalid records ledger)
      (hrecord : ledger.record digest call = .ok (entry, ledger')) :
      Recorded digest episodeId maxEntries hvalid (records ++ [⟨call, entry⟩]) ledger'

-- A look through the records

namespace LedgerRecord

def key (r : LedgerRecord) : AttemptIdentity × String := (r.entry.attemptIdentity, r.entry.basisBeforeId)

def actionKey (r : LedgerRecord) : String × String := (r.entry.action, r.entry.basisBeforeId)

end LedgerRecord

/-- The sequence of the latest record that is like this. -/
def latestSequence (p : LedgerRecord → Bool) (records : List LedgerRecord) : Option Nat :=
  (records.filter p).getLast?.map fun r => r.entry.sequence

theorem latestSequence_append (p : LedgerRecord → Bool) (records : List LedgerRecord) (r : LedgerRecord) :
    latestSequence p (records ++ [r]) = if p r then some r.entry.sequence else latestSequence p records := by
  unfold latestSequence
  rw [List.filter_append]
  by_cases h : p r <;> simp [h]

/-- All records of an action on a basis, as one rollup. -/
def rollupOf (records : List LedgerRecord) : Option Rollup :=
  records.foldl (fun prior r => some (addToRollup prior r.entry.sequence r.entry.outcome)) none

theorem rollupOf_append (records : List LedgerRecord) (r : LedgerRecord) :
    rollupOf (records ++ [r]) = some (addToRollup (rollupOf records) r.entry.sequence r.entry.outcome) := by
  simp [rollupOf]

theorem rollupOf_counts (records : List LedgerRecord) :
    match rollupOf records with
    | none => records = []
    | some rollup => rollup.attemptCount = records.length ∧
        rollup.distribution = Dict.tally (records.map fun r => r.entry.outcome.classification) := by
  induction records using List.reverseRecOn with
  | nil => rfl
  | append_singleton records r ih =>
    rw [rollupOf_append]
    cases hprior : rollupOf records with
    | none =>
      rw [hprior] at ih
      subst ih
      exact ⟨rfl, rfl⟩
    | some rollup =>
      rw [hprior] at ih
      obtain ⟨hcount, hdistribution⟩ := ih
      refine ⟨?_, ?_⟩
      · simp [addToRollup, hcount]
      · simp [addToRollup, hdistribution, Dict.tally_snoc]

-- What a ledger holds

/-- The ledger holds what a look through the records would find. -/
structure Summarises (records : List LedgerRecord) (ledger : NavigationExperienceLedger) : Prop where
  sequence : ledger.sequence = records.length
  entries : ledger.entries = lastN ledger.maxEntries (records.map LedgerRecord.entry)
  attempts : ∀ identity, ledger.lastAttemptSequence.get? identity =
    latestSequence (fun r => r.entry.attemptIdentity = identity) records
  seen : ∀ key, ledger.seenAttemptBasis.get? key = latestSequence (fun r => r.key = key) records
  seenSize : ledger.seenAttemptBasis.size ≤ records.length
  rollups : ∀ key, ledger.actionBasisRollups.get? key = rollupOf (records.filter fun r => r.actionKey = key)
  rollupsSize : ledger.actionBasisRollups.size ≤ records.length

/-- What the entry of a record says, seen from the records before it. -/
structure Told (digest : List Char → String) (earlier : List LedgerRecord) (r : LedgerRecord) : Prop where
  sequence : r.entry.sequence = earlier.length + 1
  action : r.entry.action = r.call.action
  identity : r.entry.attemptIdentity = attemptIdentity r.call.action r.entry.outcome
  outcome : outcomeFacts r.call.result = .ok r.entry.outcome
  basisBeforeId : r.entry.basisBeforeId = r.call.basisBefore.id digest
  relation : r.entry.attemptRelation =
    if latestSequence (fun e => e.entry.attemptIdentity = r.entry.attemptIdentity) earlier = none then .firstAttempt
    else if latestSequence (fun e => e.key = r.key) earlier ≠ none then .unchangedBasisRepeat
    else .retryAfterBasisChange
  prior : r.entry.priorSameBasisSequence = latestSequence (fun e => e.key = r.key) earlier

theorem lastN_lastN_append (n : Nat) (l : List α) (x : α) : lastN n (lastN n l ++ [x]) = lastN n (l ++ [x]) := by
  have hdrop : lastN n l ++ [x] = (l ++ [x]).drop (l.length - n) := by
    rw [lastN, List.drop_append_of_le_length (Nat.sub_le _ _)]
  rw [hdrop, lastN, List.drop_drop, lastN]
  congr 1
  simp only [List.length_drop, List.length_append, List.length_singleton]
  omega

section
variable {digest : List Char → String} {records : List LedgerRecord} {ledger : NavigationExperienceLedger}

theorem Summarises.told (h : Summarises records ledger) (call : RecordCall) {outcome : OutcomeFacts}
    (houtcome : outcomeFacts call.result = .ok outcome) : Told digest records ⟨call, ledger.entryOf digest call outcome⟩ where
  sequence := congrArg (· + 1) h.sequence
  action := rfl
  identity := rfl
  outcome := houtcome
  basisBeforeId := rfl
  relation := by
    rw [← h.attempts, ← h.seen]
    rfl
  prior := by
    rw [← h.seen]
    rfl

theorem Summarises.keep (h : Summarises records ledger) (hroom : records.length < maxSeenKeys) {r : LedgerRecord}
    (hsequence : r.entry.sequence = records.length + 1) : Summarises (records ++ [r]) (ledger.keep r.entry) := by
  have hseen : (touch ledger.seenAttemptBasis (r.entry.attemptIdentity, r.entry.basisBeforeId) r.entry.sequence).size ≤
      records.length + 1 := size_touch_le.trans (Nat.succ_le_succ h.seenSize)
  have hrollups : (touch ledger.actionBasisRollups (r.entry.action, r.entry.basisBeforeId)
      (addToRollup (ledger.actionBasisRollups.get? (r.entry.action, r.entry.basisBeforeId)) r.entry.sequence r.entry.outcome)).size ≤
      records.length + 1 := size_touch_le.trans (Nat.succ_le_succ h.rollupsSize)
  constructor
  case sequence =>
    rw [List.length_append, List.length_singleton, ← hsequence]
    rfl
  case entries =>
    rw [List.map_append, List.map_singleton]
    show lastN ledger.maxEntries (ledger.entries ++ [r.entry]) = _
    rw [h.entries, lastN_lastN_append]
    rfl
  case attempts =>
    intro identity
    rw [NavigationExperienceLedger.keep, latestSequence_append, Dict.get?_set, h.attempts]
    by_cases hsame : identity = r.entry.attemptIdentity
    · simp [hsame]
    · simp [hsame, Ne.symm hsame]
  case seen =>
    intro key
    rw [NavigationExperienceLedger.keep, trimmed_of_le (hseen.trans hroom), get?_touch, latestSequence_append, h.seen]
    by_cases hsame : key = r.key
    · simp [hsame, LedgerRecord.key]
    · have hother : ¬ key = (r.entry.attemptIdentity, r.entry.basisBeforeId) := hsame
      simp [hother, Ne.symm hsame]
  case seenSize =>
    rw [NavigationExperienceLedger.keep, trimmed_of_le (hseen.trans hroom), List.length_append, List.length_singleton]
    exact hseen
  case rollups =>
    intro key
    rw [NavigationExperienceLedger.keep, trimmed_of_le (hrollups.trans hroom), get?_touch, List.filter_append]
    by_cases hsame : key = r.actionKey
    · subst hsame
      have hprior := h.rollups (r.entry.action, r.entry.basisBeforeId)
      simp [rollupOf_append, LedgerRecord.actionKey, hprior]
    · have hother : ¬ key = (r.entry.action, r.entry.basisBeforeId) := hsame
      simp [hother, Ne.symm hsame, h.rollups]
  case rollupsSize =>
    rw [NavigationExperienceLedger.keep, trimmed_of_le (hrollups.trans hroom), List.length_append, List.length_singleton]
    exact hrollups

end

theorem Recorded.summarises {digest : List Char → String} {episodeId : String} {maxEntries : Nat}
    {hvalid : 1 ≤ maxEntries ∧ maxEntries ≤ maxEntriesLimit} {records : List LedgerRecord} {ledger : NavigationExperienceLedger}
    (h : Recorded digest episodeId maxEntries hvalid records ledger) (hcount : records.length ≤ maxSeenKeys) :
    Summarises records ledger ∧ ledger.maxEntries = maxEntries ∧
      ∀ k r, records[k]? = some r → Told digest (records.take k) r := by
  induction h with
  | new =>
    refine ⟨⟨rfl, by simp [lastN], fun _ => rfl, fun _ => rfl, Nat.zero_le _, fun _ => rfl, Nat.zero_le _⟩, rfl, ?_⟩
    intro k r hr
    cases hr
  | @record records ledger ledger' call entry hrecorded hrecord ih =>
    rw [List.length_append, List.length_singleton] at hcount
    obtain ⟨hsummary, hentries, htold⟩ := ih (by omega)
    obtain ⟨_, outcome, houtcome, rfl, rfl⟩ := record_ok_iff.mp hrecord
    have hnew : Told digest records ⟨call, ledger.entryOf digest call outcome⟩ := hsummary.told call houtcome
    refine ⟨hsummary.keep (r := ⟨call, _⟩) hcount hnew.sequence, hentries, ?_⟩
    intro k r hr
    have hbound := (List.getElem?_eq_some_iff.mp hr).1
    rcases Nat.lt_or_ge k records.length with hlt | hge
    · rw [List.getElem?_append_left hlt] at hr
      rw [List.take_append_of_le_length hlt.le]
      exact htold k r hr
    · obtain rfl : k = records.length := by simp at hbound; omega
      obtain rfl : _ = r := by simpa using hr
      rw [List.take_left]
      exact hnew

-- The latest of its kind

theorem latestSequence_eq_none {p : LedgerRecord → Bool} {records : List LedgerRecord} :
    latestSequence p records = none ↔ ∀ r ∈ records, p r = false := by
  simp [latestSequence]

theorem latestSequence_eq_some {p : LedgerRecord → Bool} {records : List LedgerRecord} {sequence : Nat}
    (h : latestSequence p records = some sequence) : ∃ j r, records[j]? = some r ∧ p r = true ∧ r.entry.sequence = sequence ∧
      ∀ (j' : Nat) (r' : LedgerRecord), j < j' → records[j']? = some r' → p r' = false := by
  induction records using List.reverseRecOn with
  | nil => cases h
  | append_singleton records last ih =>
    rw [latestSequence_append] at h
    by_cases hlast : p last = true
    · rw [if_pos hlast] at h
      refine ⟨records.length, last, by simp, hlast, Option.some.inj h, fun j' r' hj hr => ?_⟩
      have hbound := (List.getElem?_eq_some_iff.mp hr).1
      rw [List.length_append, List.length_singleton] at hbound
      omega
    · rw [if_neg hlast] at h
      obtain ⟨j, r, hr, hp, hsequence, hafter⟩ := ih h
      have hj := (List.getElem?_eq_some_iff.mp hr).1
      refine ⟨j, r, by rw [List.getElem?_append_left hj, hr], hp, hsequence, fun j' r' hlt hr' => ?_⟩
      have hbound := (List.getElem?_eq_some_iff.mp hr').1
      rcases Nat.lt_or_ge j' records.length with hlt' | hge
      · rw [List.getElem?_append_left hlt'] at hr'
        exact hafter j' r' hlt hr'
      · obtain rfl : j' = records.length := by simp at hbound; omega
        obtain rfl : last = r' := by simpa using hr'
        simpa using hlast

-- What is shown

section
variable {ledger : NavigationExperienceLedger} {currentBasisId : String}

theorem fitEntries_ok {entries entries' : List NavigationExperience}
    (h : ledger.fitEntries currentBasisId entries = .ok entries') :
    entries' <:+ entries ∧ (ledger.valueWith currentBasisId [] entries').size ≤ maxContextBytes := by
  induction entries with
  | nil =>
    rw [NavigationExperienceLedger.fitEntries] at h
    split at h
    next hfits =>
      cases h
      exact ⟨List.suffix_refl _, hfits⟩
    next => cases h
  | cons entry entries ih =>
    rw [NavigationExperienceLedger.fitEntries] at h
    split at h
    next hfits =>
      cases h
      exact ⟨List.suffix_refl _, hfits⟩
    next =>
      obtain ⟨hsuffix, hfits⟩ := ih h
      exact ⟨hsuffix.trans (List.suffix_cons _ _), hfits⟩

theorem growBuckets_fits {entries : List NavigationExperience} {retainedKeys candidates : List (String × OutcomeClassification)}
    (h : (ledger.valueWith currentBasisId retainedKeys entries).size ≤ maxContextBytes) :
    (ledger.valueWith currentBasisId (ledger.growBuckets currentBasisId entries retainedKeys candidates) entries).size ≤
      maxContextBytes := by
  induction candidates generalizing retainedKeys with
  | nil => exact h
  | cons candidate candidates ih =>
    rw [NavigationExperienceLedger.growBuckets]
    split
    next hfits => exact ih hfits
    next => exact h

theorem context_ok {digest : List Char → String} {currentBasis : EvidenceBasis} {value : ContextValue}
    (h : ledger.context digest currentBasis = .ok value) : value.size ≤ maxContextBytes ∧ value.entries <:+ ledger.entries ∧
      ∃ retainedKeys, value.rollups = sortedActions.map fun action =>
        rollupView action retainedKeys (ledger.actionBasisRollups.get? (action, currentBasis.id digest)) := by
  rw [NavigationExperienceLedger.context] at h
  obtain ⟨entries, hentries, hvalue⟩ := bind_ok_iff.mp h
  obtain ⟨hsuffix, hfits⟩ := fitEntries_ok hentries
  cases hvalue
  exact ⟨growBuckets_fits hfits, hsuffix, _, rfl⟩

end

structure Conserves (records : List LedgerRecord) (v : RollupView) : Prop where
  attempts : v.attemptCount = records.length
  split : (v.attemptCount : Int) = v.outcomeAttemptRetainedCount + v.outcomeAttemptOmittedCount
  omitted : 0 ≤ v.outcomeAttemptOmittedCount
  retained : v.outcomeAttemptRetainedCount = (v.outcomeDistribution.map Prod.snd).sum
  buckets : v.outcomeBucketCount = (records.map fun r => r.entry.outcome.classification).dedup.length
  bucketSplit : (v.outcomeBucketCount : Int) = v.outcomeBucketRetainedCount + v.outcomeBucketOmittedCount
  bucketsRetained : v.outcomeBucketRetainedCount = v.outcomeDistribution.length
  bucketsOmitted : 0 ≤ v.outcomeBucketOmittedCount

theorem rollupView_conserves (action : String) (retainedKeys : List (String × OutcomeClassification)) (records : List LedgerRecord) :
    Conserves records (rollupView action retainedKeys (rollupOf records)) := by
  have hcounts := rollupOf_counts records
  cases hrollup : rollupOf records with
  | none =>
    rw [hrollup] at hcounts
    subst hcounts
    exact ⟨rfl, rfl, le_rfl, rfl, rfl, rfl, rfl, le_rfl⟩
  | some rollup =>
    rw [hrollup] at hcounts
    obtain ⟨hcount, hdistribution⟩ := hcounts
    have hperm : (sortedBuckets rollup.distribution).Perm rollup.distribution.entries := List.perm_insertionSort _ _
    have htotal : ((sortedBuckets rollup.distribution).map Prod.snd).sum = records.length := by
      rw [(hperm.map Prod.snd).sum_eq, hdistribution]
      exact Dict.total_tally.trans (List.length_map _)
    have hsplit := Dict.sum_filter_add Prod.snd (fun bucket => (action, bucket.1) ∈ retainedKeys) (sortedBuckets rollup.distribution)
    have hlength : ((sortedBuckets rollup.distribution).filter fun bucket => (action, bucket.1) ∈ retainedKeys).length ≤
        rollup.distribution.size := (List.length_filter_le _ _).trans hperm.length_eq.le
    constructor
    case attempts => exact hcount
    case split => simp only [rollupView]; omega
    case omitted => simp only [rollupView]; omega
    case retained => rfl
    case buckets =>
      simp only [rollupView]
      rw [hdistribution, Dict.size_tally]
    case bucketSplit => simp only [rollupView]; omega
    case bucketsRetained => rfl
    case bucketsOmitted => simp only [rollupView]; omega

-- The records and the ledger

/-- Two records of the same attempt, as the calls were. -/
def SameAttempt (e r : LedgerRecord) : Prop :=
  attemptIdentity e.call.action e.entry.outcome = attemptIdentity r.call.action r.entry.outcome

def SameBasis (e r : LedgerRecord) : Prop := e.call.basisBefore.text = r.call.basisBefore.text

/-- A record says what the records before it make of it. -/
structure Related (earlier : List LedgerRecord) (r : LedgerRecord) : Prop where
  first : r.entry.attemptRelation = .firstAttempt ↔ ∀ e ∈ earlier, ¬ SameAttempt e r
  unchanged : r.entry.attemptRelation = .unchangedBasisRepeat ↔ ∃ e ∈ earlier, SameAttempt e r ∧ SameBasis e r
  retry : r.entry.attemptRelation = .retryAfterBasisChange ↔
    (∃ e ∈ earlier, SameAttempt e r) ∧ ∀ e ∈ earlier, SameAttempt e r → ¬ SameBasis e r
  names : r.entry.attemptRelation = .unchangedBasisRepeat → ∃ j e, earlier[j]? = some e ∧ SameAttempt e r ∧ SameBasis e r ∧
    (∀ (j' : Nat) (e' : LedgerRecord), j < j' → earlier[j']? = some e' → ¬ (SameAttempt e' r ∧ SameBasis e' r)) ∧
    r.entry.priorSameBasisSequence = some (j + 1)

section
variable {digest : List Char → String} (hdigest : Function.Injective digest)

include hdigest in
theorem id_eq_iff {first second : EvidenceBasis} : first.id digest = second.id digest ↔ first.text = second.text := by
  rw [EvidenceBasis.id, EvidenceBasis.id, String.append_right_inj, hdigest.eq_iff]

section
variable {records : List LedgerRecord} {k : Nat} {r : LedgerRecord}
  (htold : ∀ (j : Nat) (e : LedgerRecord), records[j]? = some e → Told digest (records.take j) e)
include htold

theorem told_earlier {j : Nat} {e : LedgerRecord} (he : (records.take k)[j]? = some e) : Told digest (records.take j) e := by
  rw [List.getElem?_take] at he
  split at he
  next => exact htold j e he
  next => cases he

theorem sameAttempt_iff (hr : records[k]? = some r) {e : LedgerRecord} (he : e ∈ records.take k) :
    e.entry.attemptIdentity = r.entry.attemptIdentity ↔ SameAttempt e r := by
  obtain ⟨j, hj⟩ := List.mem_iff_getElem?.mp he
  rw [(told_earlier htold hj).identity, (htold k r hr).identity, SameAttempt]

include hdigest in
theorem key_eq_iff (hr : records[k]? = some r) {e : LedgerRecord} (he : e ∈ records.take k) :
    e.key = r.key ↔ SameAttempt e r ∧ SameBasis e r := by
  obtain ⟨j, hj⟩ := List.mem_iff_getElem?.mp he
  rw [LedgerRecord.key, LedgerRecord.key, Prod.mk.injEq, sameAttempt_iff htold hr he, (told_earlier htold hj).basisBeforeId,
    (htold k r hr).basisBeforeId, id_eq_iff hdigest, SameBasis]

theorem never_iff (hr : records[k]? = some r) :
    latestSequence (fun e => e.entry.attemptIdentity = r.entry.attemptIdentity) (records.take k) = none ↔
      ∀ e ∈ records.take k, ¬ SameAttempt e r := by
  rw [latestSequence_eq_none]
  exact forall₂_congr fun e he => by simpa using not_congr (sameAttempt_iff htold hr he)

include hdigest in
theorem nowhere_iff (hr : records[k]? = some r) :
    latestSequence (fun e => e.key = r.key) (records.take k) = none ↔
      ∀ e ∈ records.take k, ¬ (SameAttempt e r ∧ SameBasis e r) := by
  rw [latestSequence_eq_none]
  exact forall₂_congr fun e he => by simpa using not_congr (key_eq_iff hdigest htold hr he)

include hdigest in
theorem names_latest (hr : records[k]? = some r) (hsome : latestSequence (fun e => e.key = r.key) (records.take k) ≠ none) :
    ∃ j e, (records.take k)[j]? = some e ∧ SameAttempt e r ∧ SameBasis e r ∧
      (∀ (j' : Nat) (e' : LedgerRecord), j < j' → (records.take k)[j']? = some e' → ¬ (SameAttempt e' r ∧ SameBasis e' r)) ∧
      r.entry.priorSameBasisSequence = some (j + 1) := by
  obtain ⟨sequence, hsequence⟩ := Option.ne_none_iff_exists'.mp hsome
  obtain ⟨j, e, hj, hkey, hnumber, hafter⟩ := latestSequence_eq_some hsequence
  have hsame := (key_eq_iff hdigest htold hr (List.mem_of_getElem? hj)).mp (by simpa using hkey)
  have hjk : j ≤ records.length := by
    have hbound := (List.getElem?_eq_some_iff.mp hj).1
    rw [List.length_take] at hbound
    omega
  have hplace := (told_earlier htold hj).sequence
  rw [List.length_take, Nat.min_eq_left hjk] at hplace
  refine ⟨j, e, hj, hsame.1, hsame.2, fun j' e' hlt he' hboth => ?_, ?_⟩
  · have hother := hafter j' e' hlt he'
    have hkey' := (key_eq_iff hdigest htold hr (List.mem_of_getElem? he')).mpr hboth
    simp [hkey'] at hother
  · rw [(htold k r hr).prior, hsequence, ← hnumber, hplace]

include hdigest in
theorem Told.related (hr : records[k]? = some r) : Related (records.take k) r := by
  have hnever := never_iff htold hr
  have hnowhere := nowhere_iff hdigest htold hr
  have hrelation := (htold k r hr).relation
  by_cases hfirst : ∀ e ∈ records.take k, ¬ SameAttempt e r
  · rw [if_pos (hnever.mpr hfirst)] at hrelation
    constructor <;> simp only [hrelation, reduceCtorEq, true_iff, false_iff, false_implies]
    · exact hfirst
    · exact fun ⟨e, he, h, _⟩ => hfirst e he h
    · exact fun ⟨⟨e, he, h⟩, _⟩ => hfirst e he h
  · rw [if_neg (mt hnever.mp hfirst)] at hrelation
    have htried : ∃ e ∈ records.take k, SameAttempt e r := by simpa using hfirst
    by_cases hother : ∀ e ∈ records.take k, ¬ (SameAttempt e r ∧ SameBasis e r)
    · rw [if_neg (not_not.mpr (hnowhere.mpr hother))] at hrelation
      constructor <;> simp only [hrelation, reduceCtorEq, true_iff, false_iff, false_implies]
      · exact hfirst
      · exact fun ⟨e, he, h⟩ => hother e he h
      · exact ⟨htried, fun e he h h' => hother e he ⟨h, h'⟩⟩
    · rw [if_pos (mt hnowhere.mp hother)] at hrelation
      have hthere : ∃ e ∈ records.take k, SameAttempt e r ∧ SameBasis e r := by
        by_contra hnone
        exact hother fun e he h => hnone ⟨e, he, h⟩
      constructor <;> simp only [hrelation, reduceCtorEq, true_iff, false_iff, forall_const]
      · exact hfirst
      · exact hthere
      · rintro ⟨_, hno⟩
        obtain ⟨e, he, h, h'⟩ := hthere
        exact hno e he h h'
      · exact names_latest hdigest htold hr (mt hnowhere.mp hother)

end

include hdigest in
theorem filter_actionKey {records : List LedgerRecord} (currentBasis : EvidenceBasis) (action : String)
    (htold : ∀ (j : Nat) (e : LedgerRecord), records[j]? = some e → Told digest (records.take j) e) :
    (records.filter fun r => r.actionKey = (action, currentBasis.id digest)) =
      records.filter fun r => r.call.action = action ∧ r.call.basisBefore.text = currentBasis.text := by
  refine List.filter_congr fun r hr => ?_
  obtain ⟨j, hj⟩ := List.mem_iff_getElem?.mp hr
  have htr := htold j r hj
  rw [decide_eq_decide, LedgerRecord.actionKey, Prod.mk.injEq, htr.action, htr.basisBeforeId, id_eq_iff hdigest]

end

theorem rollupView_action (action : String) (retainedKeys : List (String × OutcomeClassification)) (rollup : Option Rollup) :
    (rollupView action retainedKeys rollup).action = action := by
  cases rollup <;> rfl

/-- As long as no more was recorded than the ledger has room for, every record is
related to those before it, and what is shown of them counts them all. -/
theorem ledger_conserves (digest : List Char → String) (hdigest : Function.Injective digest) (episodeId : String)
    (maxEntries : Nat) (hvalid : 1 ≤ maxEntries ∧ maxEntries ≤ maxEntriesLimit) (records : List LedgerRecord)
    (ledger : NavigationExperienceLedger) (hrecorded : Recorded digest episodeId maxEntries hvalid records ledger)
    (hcount : records.length ≤ 43200) :
    (∀ (k : Nat) (r : LedgerRecord), records[k]? = some r → Related (records.take k) r) ∧
    ∀ (currentBasis : EvidenceBasis) (value : ContextValue), ledger.context digest currentBasis = .ok value →
      value.size ≤ 64 * 1024 ∧
      value.entries <:+ lastN maxEntries (records.map LedgerRecord.entry) ∧
      value.rollups.map RollupView.action = sortedActions ∧
      ∀ v ∈ value.rollups, Conserves
        (records.filter fun r => r.call.action = v.action ∧ r.call.basisBefore.text = currentBasis.text) v := by
  obtain ⟨hsummary, hentries, htold⟩ := hrecorded.summarises hcount
  refine ⟨fun k r hr => Told.related hdigest htold hr, fun currentBasis value hvalue => ?_⟩
  obtain ⟨hfits, hsuffix, retainedKeys, hrollups⟩ := context_ok hvalue
  refine ⟨hfits, ?_, ?_, ?_⟩
  · rw [← hentries, ← hsummary.entries]
    exact hsuffix
  · rw [hrollups, List.map_map]
    exact List.map_id'' (fun action => rollupView_action action _ _) _
  · intro v hv
    rw [hrollups] at hv
    obtain ⟨action, _, rfl⟩ := List.mem_map.mp hv
    rw [hsummary.rollups, rollupView_action, ← filter_actionKey hdigest currentBasis action htold]
    exact rollupView_conserves action retainedKeys _

def observeCall : RecordCall where
  turn := 1
  action := "OBSERVE"
  source := "PLANNER_ACTION"
  result := .obj [("operation", .str "observe"), ("status", .str "COMPLETED")]
  basisBefore := ⟨"map-1", true, 0, 0, 0, .obj [], []⟩
  basisAfter := ⟨"map-1", true, 0, 0, 0, .obj [], []⟩

def observed : OutcomeFacts := ⟨"observe", "COMPLETED", none, none, none, none, none, none, none, none, none⟩

def freshLedger : NavigationExperienceLedger where
  episodeId := "episode-1"
  maxEntries := 8
  maxEntries_valid := ⟨by decide, by decide⟩

theorem freshLedger_records (digest : List Char → String) :
    freshLedger.record digest observeCall = .ok (freshLedger.entryOf digest observeCall observed,
      freshLedger.keep (freshLedger.entryOf digest observeCall observed)) :=
  record_ok_iff.mpr ⟨by decide, observed, rfl, rfl, rfl⟩

def observedRecord : LedgerRecord := ⟨observeCall, freshLedger.entryOf String.ofList observeCall observed⟩

theorem ledger_conserves_observed : Related [] observedRecord ∧
    ∀ value, (freshLedger.keep observedRecord.entry).context String.ofList observeCall.basisBefore = .ok value →
      ∀ v ∈ value.rollups, Conserves ([observedRecord].filter fun r =>
        r.call.action = v.action ∧ r.call.basisBefore.text = observeCall.basisBefore.text) v := by
  obtain ⟨hrelated, hshown⟩ := ledger_conserves String.ofList (fun _ _ h => String.ofList_injective h) "episode-1" 8
    ⟨by decide, by decide⟩ [observedRecord] _ (.record .new (freshLedger_records String.ofList)) (by decide)
  exact ⟨hrelated 0 observedRecord rfl, fun value hvalue => (hshown observeCall.basisBefore value hvalue).2.2.2⟩

end RobotLlm.Physical.Experience
