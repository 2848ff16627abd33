import Mathlib.Tactic.Common
import RobotLlm.Research.ResearchLoop

/-!
# What a research episode keeps

Every budget is counted down by the turn that uses it, so the loop ends, and an
answer cites only evidence that a tool call of this episode brought in.
-/

namespace RobotLlm.Research

open RobotLlm.Lib

variable {F : Type} {host : ResearchHost F} {world : World F} {limits : ResearchLimits} {goal : ResearchGoal}
variable {startedAtMs : Int} {s s' : Episode} {n : Nat}

-- What evidence rests on

/-- All three lifetimes of the evidence of a result still last. -/
structure Lasts (host : ResearchHost F) (limits : ResearchLimits) (result : WeatherResearchResult F) (receivedAtMs now : Int) :
    Prop where
  provenance : result.ttls ≠ [] ∧ ∀ ttl ∈ result.ttls, ∃ ms, ttl = some ms ∧ now < receivedAtMs + ms
  limit : now < receivedAtMs + limits.evidenceTtlMs
  observation : ∃ observedAtMs, host.isoUnixMs result.observedAt = some observedAtMs ∧
    now < receivedAtMs + (limits.maxWeatherObservationSkewMs - max 0 (result.retrievedAtUnixMs - observedAtMs))

/-- What a request asks for: the place that a proposal named, from now on to
the deadline of the episode at most. -/
structure Asked (host : ResearchHost F) (world : World F) (limits : ResearchLimits) (startedAtMs : Int)
    (acted : List (ResearchPlanningContext × ResearchDecision)) (request : WeatherResearchRequest) : Prop where
  proposed : ∃ p ∈ acted, ∃ tool, p.2.decision = .callTool tool ∧
    validateTool host tool.name tool.arguments = .ok request.locationQuery
  issued : ∃ i, world.clockMs i = .ok (some request.issuedAtMonotonicMs)
  deadline : request.validUntilMonotonicMs =
    min (request.issuedAtMonotonicMs + limits.toolRequestTtlMs) (startedAtMs + limits.maxElapsedMs)

/-- The evidence is what the weather tool answered to this request. -/
structure Answers (host : ResearchHost F) (limits : ResearchLimits) (e : ResearchEvidenceEnvelope)
    (request : WeatherResearchRequest) (result : WeatherResearchResult F) : Prop where
  toolCallId : e.toolCallId = request.requestId
  ofRequest : MatchesRequest result request e.receivedAtMonotonicMs
  sources : SourcesMatch host result request.locationQuery
  inTime : request.issuedAtMonotonicMs ≤ e.receivedAtMonotonicMs ∧ e.receivedAtMonotonicMs < request.validUntilMonotonicMs
  lasts : ∀ now, now < e.validUntilMonotonicMs → Lasts host limits result e.receivedAtMonotonicMs now

/-- The evidence was gathered by a tool call of this episode. -/
def Gathered (host : ResearchHost F) (world : World F) (limits : ResearchLimits) (startedAtMs : Int) (s : Episode)
    (e : ResearchEvidenceEnvelope) (request : WeatherResearchRequest) (result : WeatherResearchResult F) : Prop :=
  (∃ earlier, request :: earlier <:+ s.requests ∧ world.weather earlier.length = .ok (.result result)) ∧
    Asked host world limits startedAtMs s.acted request ∧ Answers host limits e request result

-- What holds at any time

/-- The budgets, and what was acted on and gathered within them. -/
structure Kept (host : ResearchHost F) (world : World F) (limits : ResearchLimits) (goal : ResearchGoal) (startedAtMs : Int)
    (s : Episode) : Prop where
  plannerCalls : s.contexts.length ≤ limits.maxPlannerTurns
  plannerTurns : s.plannerTurns ≤ limits.maxPlannerTurns
  requests : s.requests.length ≤ s.toolCalls
  toolCalls : s.toolCalls ≤ limits.maxToolCalls
  replans : s.replans ≤ limits.maxReplans
  ids : (s.acted.map (·.2.proposalId)).Nodup
  idsUsed : ∀ p ∈ s.acted, p.2.proposalId ∈ s.proposalHistory
  current : ∀ p ∈ s.acted, p.1 ∈ s.contexts ∧ p.2.turnId = p.1.turnId ∧ p.2.turnId = goal.turnId ∧
    p.2.basedOnContextVersion = p.1.contextVersion
  versions : s.contexts.Pairwise fun later earlier => earlier.contextVersion < later.contextVersion
  versionsUsed : ∀ c ∈ s.contexts, c.contextVersion ≤ s.contextVersion
  evidenceIds : (s.evidence.map (·.evidenceId)).Nodup
  evidenceSeen : ∀ e ∈ s.evidence, e.evidenceId ∈ s.seenEvidenceIds
  evidence : ∀ e ∈ s.evidence, ∃ request result, Gathered host world limits startedAtMs s e request result

structure Asking (host : ResearchHost F) (world : World F) (limits : ResearchLimits) (goal : ResearchGoal) (startedAtMs : Int)
    (n : Nat) (s : Episode) : Prop extends Kept host world limits goal startedAtMs s where
  turns : s.plannerTurns = n
  calls : s.contexts.length = n

structure Ready (host : ResearchHost F) (world : World F) (limits : ResearchLimits) (goal : ResearchGoal) (startedAtMs : Int)
    (n : Nat) (s : Episode) : Prop extends Asking host world limits goal startedAtMs n s where
  fresh : ∀ c ∈ s.contexts, c.contextVersion < s.contextVersion

structure Grounded (host : ResearchHost F) (world : World F) (limits : ResearchLimits) (goal : ResearchGoal) (startedAtMs : Int)
    (s : Episode) (result : ResearchEpisodeResult) : Prop where
  distinct : result.citationIds.Nodup
  required : goal.requireEvidence = true → result.citationIds ≠ []
  /-- `now` is the reading of the clock before the answer, the last one. -/
  cited : ∃ now, 0 < s.clockReads ∧ world.clockMs (s.clockReads - 1) = .ok (some now) ∧
    ∀ id ∈ result.citationIds, ∃ e ∈ s.evidence, e.evidenceId = id ∧ e.receivedAtMonotonicMs ≤ now ∧
      ∃ request result, Gathered host world limits startedAtMs s e request result ∧
        Lasts host limits result e.receivedAtMonotonicMs now

def Goes (host : ResearchHost F) (world : World F) (limits : ResearchLimits) (goal : ResearchGoal) (startedAtMs : Int)
    (n : Nat) : Option ResearchEpisodeResult → Episode → Prop
  | none, s => Ready host world limits goal startedAtMs n s
  | some result, s => Kept host world limits goal startedAtMs s ∧
      (result.termination = .answered → Grounded host world limits goal startedAtMs s result)

-- Steps that touch none of it

/-- Only the clock, the ids and the trace have moved on. -/
def Quiet (s s' : Episode) : Prop :=
  ∃ clockReads idsMade trace seenToolCallIds,
    s' = { s with clockReads, idsMade, trace, seenToolCallIds }

instance : IsPreorder Episode Quiet where
  refl s := ⟨_, _, _, _, rfl⟩
  trans := by
    rintro _ _ _ ⟨_, _, _, _, rfl⟩ ⟨_, _, _, _, rfl⟩
    exact ⟨_, _, _, _, rfl⟩

theorem Kept.quiet (k : Kept host world limits goal startedAtMs s) (h : Quiet s s') :
    Kept host world limits goal startedAtMs s' := by
  obtain ⟨_, _, _, _, rfl⟩ := h
  exact { k with }

theorem Quiet.replans (h : Quiet s s') : s.replans = s'.replans := by
  obtain ⟨_, _, _, _, rfl⟩ := h
  rfl

theorem Gathered.quiet {e : ResearchEvidenceEnvelope} {request : WeatherResearchRequest} {result : WeatherResearchResult F}
    (hg : Gathered host world limits startedAtMs s e request result) (h : Quiet s s') :
    Gathered host world limits startedAtMs s' e request result := by
  obtain ⟨_, _, _, _, rfl⟩ := h
  exact hg

theorem Asking.quiet (k : Asking host world limits goal startedAtMs n s) (h : Quiet s s') :
    Asking host world limits goal startedAtMs n s' := by
  have hk := k.toKept.quiet h
  obtain ⟨_, _, _, _, rfl⟩ := h
  exact { hk with turns := k.turns, calls := k.calls }

theorem Ready.quiet (k : Ready host world limits goal startedAtMs n s) (h : Quiet s s') :
    Ready host world limits goal startedAtMs n s' := by
  have hk := k.toAsking.quiet h
  obtain ⟨_, _, _, _, rfl⟩ := h
  exact { hk with fresh := k.fresh }

theorem nowMs_quiet : Prog.Keeps Quiet (nowMs world) := by
  refine Prog.Keeps.of_get fun s => ?_
  unfold checked
  rcases h : world.clockMs s.clockReads with _ | _ | _ <;> exact ⟨_, _, _, _, rfl⟩

theorem deadline_quiet : Prog.Keeps Quiet (deadline world limits startedAtMs) :=
  nowMs_quiet.bind fun _ => .pure _

theorem note_quiet (event : String) : Prog.Keeps Quiet (note event) := .modify fun _ => ⟨_, _, _, _, rfl⟩

theorem makeId_quiet (kind : String) : Prog.Keeps Quiet (makeId world kind) := by
  refine Prog.Keeps.of_get fun s => ?_
  rcases h : world.newId s.idsMade with _ | _ <;> exact ⟨_, _, _, _, rfl⟩

section
variable {x : Checked α} {f : α → Loop β} {R : β → Episode → Prop} {E : Raised → Episode → Prop}

theorem checked_triple {Q : α → Episode → Prop} (he : ∀ e, E e s) (hq : ∀ a, x = .ok a → Q a s) : Prog.Triple (checked x) s Q E := by
  cases x with
  | ok a => exact hq a rfl
  | error e => exact he _

theorem checked_bind (he : ∀ e, E e s) (hf : ∀ a, x = .ok a → Prog.Triple (f a) s R E) : Prog.Triple (checked x >>= f) s R E :=
  Prog.Triple.bind (checked_triple (Q := fun a s' => x = .ok a ∧ s' = s) he fun _ h => ⟨h, rfl⟩) fun _ _ h => h.2 ▸ hf _ h.1

end

-- Ends and replans

theorem giveUp_triple (k : Kept host world limits goal startedAtMs s) {termination : Termination} (ht : termination ≠ .answered) :
    Prog.Triple (giveUp goal termination) s (Goes host world limits goal startedAtMs n)
      (fun _ => Kept host world limits goal startedAtMs) := by
  refine Prog.Triple.bind (Q := fun _ => Quiet s) ((note_quiet _).triple_from (refl_of Quiet s) |>.mono (fun _ _ h => h) fun _ _ => k.quiet) ?_
  intro _ s₁ hq
  exact ⟨k.quiet hq, fun h => absurd h ht⟩

theorem advance_triple (k : Asking host world limits goal startedAtMs n s) (hr : s.replans < limits.maxReplans) (code : String)
    (toolCallId : Option String) :
    Prog.Triple (advance code toolCallId) s (fun _ => Ready host world limits goal startedAtMs n)
      (fun _ => Kept host world limits goal startedAtMs) := by
  have hk : Kept host world limits goal startedAtMs { s with replans := s.replans + 1 } :=
    { k.toKept with replans := hr }
  refine Prog.Triple.modify_bind (Prog.Triple.get_bind (checked_bind (fun _ => hk) fun feedback _ => ?_))
  exact {
    hk with
    turns := k.turns
    calls := k.calls
    versionsUsed := fun c hc => Int.le_add_one (k.versionsUsed c hc)
    fresh := fun c hc => Int.lt_add_one_of_le (k.versionsUsed c hc) }

theorem note_none_triple (k : Ready host world limits goal startedAtMs n s) (event : String) :
    Prog.Triple (do note event; return none) s (Goes host world limits goal startedAtMs n)
      (fun _ => Kept host world limits goal startedAtMs) := by
  have hq := note_quiet event s
  exact k.quiet hq

theorem replanOr_triple (k : Asking host world limits goal startedAtMs n s) {termination : Termination} (ht : termination ≠ .answered)
    (code : String) (toolCallId : Option String) :
    Prog.Triple (replanOr limits goal termination code toolCallId) s (Goes host world limits goal startedAtMs n)
      (fun _ => Kept host world limits goal startedAtMs) := by
  refine Prog.Triple.get_bind (Prog.Triple.ite (fun _ => giveUp_triple k.toKept ht) fun hr => ?_)
  exact Prog.Triple.bind (advance_triple k (by omega) code toolCallId) fun _ _ hready => note_none_triple hready _

-- Evidence

theorem ttlValues_ok : ∀ {values : List (Option Int)} {ttls : List Int}, ttlValues values = .ok ttls → values = ttls.map some := by
  intro values
  induction values with
  | nil =>
    intro ttls h
    cases h
    rfl
  | cons value values ih =>
    intro ttls h
    cases value with
    | none => cases h
    | some ttl =>
      rw [ttlValues, require_bind_ok_iff, bind_ok_iff] at h
      obtain ⟨-, rest, hrest, h⟩ := h
      cases h
      simp [ih hrest]

theorem minTtl_ok {ttls : List Int} {least : Int} (h : minTtl ttls = .ok least) : ttls ≠ [] ∧ ∀ ttl ∈ ttls, least ≤ ttl := by
  unfold minTtl at h
  split at h
  next ttl hmin =>
    cases h
    have hleast := List.min?_eq_some_iff.mp hmin
    exact ⟨List.ne_nil_of_mem hleast.1, hleast.2⟩
  next => cases h

theorem remainingFreshness_ok {result : WeatherResearchResult F} {remaining : Int}
    (h : remainingFreshness host limits result = .ok remaining) : ∃ observedAtMs, host.isoUnixMs result.observedAt = some observedAtMs ∧
      remaining = limits.maxWeatherObservationSkewMs - max 0 (result.retrievedAtUnixMs - observedAtMs) := by
  unfold remainingFreshness at h
  split at h
  · cases h
  next observedAtMs hiso =>
    rw [require_bind_ok_iff] at h
    exact ⟨observedAtMs, hiso, (Except.ok.inj h.2).symm⟩

theorem weatherLifetime_ok {result : WeatherResearchResult F} {request : WeatherResearchRequest} {receivedAtMs lifetime : Int}
    {payload : List (String × Json)} (h : weatherLifetime host limits result request receivedAtMs = .ok (lifetime, payload)) :
    MatchesRequest result request receivedAtMs ∧ SourcesMatch host result request.locationQuery ∧
      ∀ now, now < receivedAtMs + lifetime → Lasts host limits result receivedAtMs now := by
  rw [weatherLifetime, require_bind_ok_iff, require_bind_ok_iff, bind_ok_iff] at h
  obtain ⟨hmatches, hsources, remaining, hremaining, h⟩ := h
  rw [bind_ok_iff] at h
  obtain ⟨ttls, httls, h⟩ := h
  rw [bind_ok_iff] at h
  obtain ⟨ttl, httl, h⟩ := h
  rw [bind_ok_iff] at h
  obtain ⟨_, -, h⟩ := h
  cases h
  refine ⟨hmatches, hsources, fun now hnow => ?_⟩
  obtain ⟨observedAtMs, hiso, rfl⟩ := remainingFreshness_ok hremaining
  obtain ⟨hne, hleast⟩ := minTtl_ok httl
  refine ⟨⟨by simpa [ttlValues_ok httls] using hne, ?_⟩, by omega, observedAtMs, hiso, by omega⟩
  rw [ttlValues_ok httls]
  rintro _ hmem
  obtain ⟨ms, hms, rfl⟩ := List.mem_map.mp hmem
  have := hleast ms hms
  exact ⟨ms, rfl, by omega⟩

theorem ResearchEvidenceEnvelope.new_ok {e e' : ResearchEvidenceEnvelope} (h : e.new host = .ok e') : e' = e := by
  rw [ResearchEvidenceEnvelope.new, bind_ok_iff] at h
  obtain ⟨_, -, h⟩ := h
  rw [bind_ok_iff] at h
  obtain ⟨_, -, h⟩ := h
  rw [bind_ok_iff] at h
  obtain ⟨_, -, h⟩ := h
  rw [bind_ok_iff] at h
  obtain ⟨_, -, h⟩ := h
  rw [require_bind_ok_iff, bind_ok_iff] at h
  obtain ⟨-, _, -, h⟩ := h
  exact (Except.ok.inj h).symm

/-- What a tool call leaves: the request was handed on, or was not. -/
def Handed (request : WeatherResearchRequest) (s s' : Episode) : Prop :=
  Quiet s s' ∨ Quiet { s with requests := request :: s.requests } s'

theorem weatherEvidence_triple {result : WeatherResearchResult F} {request : WeatherResearchRequest} {toolName : String}
    {contextVersion receivedAtMs : Int} (hin : request.issuedAtMonotonicMs ≤ receivedAtMs ∧ receivedAtMs < request.validUntilMonotonicMs) :
    Prog.Triple (weatherEvidence host world limits result toolName request contextVersion receivedAtMs) s
      (fun e s' => Quiet s s' ∧ Answers host limits e request result) (fun _ => Quiet s) := by
  refine checked_bind (fun _ => refl_of Quiet s) ?_
  rintro ⟨lifetime, payload⟩ hx
  obtain ⟨hmatches, hsources, hlasts⟩ := weatherLifetime_ok hx
  refine Prog.Triple.frame_bind (makeId_quiet _) (fun _ _ h => h) fun evidenceId s₁ hq => ?_
  refine checked_bind (fun _ => hq) fun _ _ => checked_triple (fun _ => hq) fun e hnew => ?_
  obtain rfl := ResearchEvidenceEnvelope.new_ok hnew
  exact ⟨hq, rfl, hmatches, hsources, hin, hlasts⟩
theorem nowMs_triple (s : Episode) : Prog.Triple (nowMs world) s
    (fun now s' => s' = { s with clockReads := s.clockReads + 1 } ∧ world.clockMs s.clockReads = .ok (some now)) (fun _ => Quiet s) := by
  have hq : Quiet s { s with clockReads := s.clockReads + 1 } := ⟨_, _, _, _, rfl⟩
  refine Prog.Triple.get_bind (Prog.Triple.modify_bind ?_)
  cases hc : world.clockMs s.clockReads with
  | error e => exact hq
  | ok reading =>
    cases reading with
    | none => exact hq
    | some value =>
      refine checked_triple (fun _ => hq) fun now hnow => ⟨rfl, ?_⟩
      rw [integer] at hnow
      split at hnow
      · exact Except.ok.inj hnow ▸ rfl
      · cases hnow

theorem deadline_triple (s : Episode) : Prog.Triple (deadline world limits startedAtMs) s
    (fun r s' => s' = { s with clockReads := s.clockReads + 1 } ∧ world.clockMs s.clockReads = .ok (some r.1)) (fun _ => Quiet s) :=
  Prog.Triple.bind (nowMs_triple s) fun _ _ h => h

theorem execute_triple {name : String} {arguments : List (String × Json)} {request : WeatherResearchRequest}
    (hquery : validateTool host name arguments = .ok request.locationQuery) :
    Prog.Triple (execute host world name arguments request.requestId request.issuedAtMonotonicMs request.validUntilMonotonicMs) s
      (fun result s' => s' = { s with requests := request :: s.requests } ∧ world.weather s.requests.length = .ok (.result result))
      (fun _ => Handed request s) := by
  refine checked_bind (fun _ => .inl (refl_of Quiet s)) fun query hq => ?_
  obtain rfl : request.locationQuery = query := Except.ok.inj (hquery.symm.trans hq)
  refine Prog.Triple.failIf (fun _ => .inl (refl_of Quiet s)) fun _ => Prog.Triple.get_bind (Prog.Triple.modify_bind ?_)
  have hhanded : Handed request s { s with requests := request :: s.requests } := .inr (refl_of Quiet _)
  cases hw : world.weather s.requests.length with
  | error e => exact hhanded
  | ok answer =>
    cases answer with
    | result result => exact ⟨rfl, rfl⟩
    | otherValue => exact hhanded

theorem gather_triple {tool : ToolCallIntent} {request : WeatherResearchRequest} {contextVersion : Int}
    (hquery : validateTool host tool.name tool.arguments = .ok request.locationQuery) :
    Prog.Triple (gather host world limits tool request contextVersion) s
      (fun e s' => Quiet { s with requests := request :: s.requests } s' ∧
        ∃ result, world.weather s.requests.length = .ok (.result result) ∧ Answers host limits e request result)
      (fun _ => Handed request s) := by
  refine Prog.Triple.bind (execute_triple hquery) ?_
  rintro result _ ⟨rfl, hweather⟩
  refine Prog.Triple.frame_bind nowMs_quiet (fun _ _ h => .inr h) fun completed s₂ hq => ?_
  refine Prog.Triple.failIf (fun _ => .inr hq) fun htime => ?_
  rw [not_or, Int.not_lt, Int.not_le] at htime
  exact (weatherEvidence_triple htime).mono (fun e _ h => ⟨trans_of Quiet hq h.1, result, hweather, h.2⟩)
    fun _ _ h => .inr (trans_of Quiet hq h)

-- Tool calls

theorem Kept.ask (k : Kept host world limits goal startedAtMs s) (h : s.requests.length < s.toolCalls) (request : WeatherResearchRequest) :
    Kept host world limits goal startedAtMs { s with requests := request :: s.requests } where
  __ := k
  requests := h
  evidence := fun e he => by
    obtain ⟨r, result, ⟨earlier, hsuffix, hweather⟩, hrest⟩ := k.evidence e he
    exact ⟨r, result, ⟨earlier, hsuffix.trans (List.suffix_cons _ _), hweather⟩, hrest⟩

theorem Asking.ask (k : Asking host world limits goal startedAtMs n s) (h : s.requests.length < s.toolCalls)
    (request : WeatherResearchRequest) : Asking host world limits goal startedAtMs n { s with requests := request :: s.requests } :=
  { k.toKept.ask h request with turns := k.turns, calls := k.calls }

theorem Asking.handed (k : Asking host world limits goal startedAtMs n s) (h : s.requests.length < s.toolCalls)
    {request : WeatherResearchRequest} (hh : Handed request s s') : Asking host world limits goal startedAtMs n s' := by
  obtain hq | hq := hh
  · exact k.quiet hq
  · exact (k.ask h request).quiet hq

theorem Asking.add (k : Asking host world limits goal startedAtMs n s) {e : ResearchEvidenceEnvelope}
    {request : WeatherResearchRequest} {result : WeatherResearchResult F} (hnew : e.evidenceId ∉ s.seenEvidenceIds)
    (he : Gathered host world limits startedAtMs s e request result) :
    Asking host world limits goal startedAtMs n
      { s with seenEvidenceIds := e.evidenceId :: s.seenEvidenceIds, evidence := s.evidence ++ [e] } where
  __ := k
  evidenceIds := by
    rw [List.map_append, List.nodup_append]
    refine ⟨k.evidenceIds, by simp, ?_⟩
    rintro _ hmem _ hlast rfl
    obtain ⟨e', he', hid⟩ := List.mem_map.mp hmem
    have hid' : e'.evidenceId = e.evidenceId := hid.trans (List.mem_singleton.mp hlast)
    exact hnew (hid' ▸ k.evidenceSeen e' he')
  evidenceSeen := by
    intro e' hmem
    obtain hmem | hmem := List.mem_append.mp hmem
    · exact List.mem_cons_of_mem _ (k.evidenceSeen e' hmem)
    · rw [List.mem_singleton.mp hmem]
      exact List.mem_cons_self
  evidence := by
    intro e' hmem
    obtain hmem | hmem := List.mem_append.mp hmem
    · exact k.evidence e' hmem
    · rw [List.mem_singleton.mp hmem]
      exact ⟨request, result, he⟩

theorem take_ok_triple (k : Asking host world limits goal startedAtMs n s) (hr : s.replans < limits.maxReplans)
    {e : ResearchEvidenceEnvelope} {request : WeatherResearchRequest} {result : WeatherResearchResult F}
    (he : Gathered host world limits startedAtMs s e request result) (toolCallId : String) :
    Prog.Triple (take limits goal toolCallId (.ok e)) s (Goes host world limits goal startedAtMs n)
      (fun _ => Kept host world limits goal startedAtMs) := by
  refine Prog.Triple.get_bind (Prog.Triple.ite (fun _ => giveUp_triple k.toKept (by decide)) fun hnew => ?_)
  refine Prog.Triple.modify_bind (Prog.Triple.bind (advance_triple (k.add hnew he) hr _ _) fun _ s₁ hready => ?_)
  exact Prog.Triple.frame_bind (note_quiet _) (fun _ _ h => hready.toKept.quiet h) fun _ _ h => note_none_triple (hready.quiet h) _

theorem take_error_triple (k : Asking host world limits goal startedAtMs n s) (toolCallId : String) (e : Raised) :
    Prog.Triple (take limits goal toolCallId (.error e)) s (Goes host world limits goal startedAtMs n)
      (fun _ => Kept host world limits goal startedAtMs) := by
  cases e with
  | research => exact replanOr_triple k (by decide) _ _
  | loop e => exact Prog.Triple.ite (fun _ => giveUp_triple k.toKept (by decide)) fun _ => replanOr_triple k (by decide) _ _
  | other name => exact k.toKept

theorem gatherAndTake_triple (k : Asking host world limits goal startedAtMs n s) (hcounted : s.requests.length < s.toolCalls)
    (hr : s.replans < limits.maxReplans) {tool : ToolCallIntent} {request : WeatherResearchRequest} {contextVersion : Int}
    (hquery : validateTool host tool.name tool.arguments = .ok request.locationQuery)
    (hasked : Asked host world limits startedAtMs s.acted request) :
    Prog.Triple (do
        let gathered ← Prog.attempt (gather host world limits tool request contextVersion)
        take limits goal request.requestId gathered) s (Goes host world limits goal startedAtMs n)
      (fun _ => Kept host world limits goal startedAtMs) := by
  refine Prog.Triple.bind (Prog.Triple.attempt (P := fun r s' => match r with
    | .ok e => Quiet { s with requests := request :: s.requests } s' ∧
        ∃ result, world.weather s.requests.length = .ok (.result result) ∧ Answers host limits e request result
    | .error _ => Handed request s s') (gather_triple hquery)) ?_
  rintro (e | e) s₁ h
  · exact take_error_triple (k.handed hcounted h) _ e
  · obtain ⟨hq, result, hweather, hanswers⟩ := h
    have hg : Gathered host world limits startedAtMs { s with requests := request :: s.requests } e request result :=
      ⟨⟨s.requests, List.suffix_refl _, hweather⟩, hasked, hanswers⟩
    exact take_ok_triple ((k.ask hcounted request).quiet hq) (hq.replans ▸ hr) (hg.quiet hq) _

theorem callTool_triple (k : Asking host world limits goal startedAtMs n s) (ht : s.toolCalls < limits.maxToolCalls)
    (hr : s.replans < limits.maxReplans) {tool : ToolCallIntent} {query : String}
    (hquery : validateTool host tool.name tool.arguments = .ok query) (hacted : ∃ p ∈ s.acted, p.2.decision = .callTool tool) :
    Prog.Triple (callTool host world limits goal startedAtMs tool query) s (Goes host world limits goal startedAtMs n)
      (fun _ => Kept host world limits goal startedAtMs) := by
  refine Prog.Triple.frame_bind (makeId_quiet _) (fun _ _ h => k.toKept.quiet h) ?_
  rintro toolCallId _ ⟨_, _, _, _, rfl⟩
  refine checked_bind (fun _ => { k.toKept with }) fun _ _ => Prog.Triple.get_bind ?_
  refine Prog.Triple.ite (fun _ => ?_) fun _ => ?_
  · refine giveUp_triple ?_ (by decide)
    exact { k.toKept with }
  refine Prog.Triple.modify_bind (Prog.Triple.bind ((deadline_triple _).mono (fun _ _ h => h) fun _ _ h => k.toKept.quiet ?_) ?_)
  · exact trans_of Quiet ⟨_, _, _, _, rfl⟩ h
  rintro ⟨issued, exhausted⟩ _ ⟨rfl, hclock⟩
  refine Prog.Triple.ite (fun _ => ?_) fun _ => Prog.Triple.modify_bind (Prog.Triple.modify_bind ?_)
  · refine giveUp_triple ?_ (by decide)
    exact { k.toKept with }
  -- the request is counted before it is made
  refine gatherAndTake_triple ?_ ?_ ?_ ?_ ?_
  · exact { k with requests := Nat.le_succ_of_le k.requests, toolCalls := ht }
  · exact Nat.lt_succ_of_le k.requests
  · exact hr
  · exact hquery
  · obtain ⟨p, hp, hdecision⟩ := hacted
    exact ⟨⟨p, hp, tool, hdecision, hquery⟩, ⟨_, hclock⟩, rfl⟩

theorem useTool_triple (k : Asking host world limits goal startedAtMs n s) {tool : ToolCallIntent}
    (hacted : ∃ p ∈ s.acted, p.2.decision = .callTool tool) :
    Prog.Triple (useTool host world limits goal startedAtMs tool) s (Goes host world limits goal startedAtMs n)
      (fun _ => Kept host world limits goal startedAtMs) := by
  refine Prog.Triple.get_bind (Prog.Triple.ite (fun _ => giveUp_triple k.toKept (by decide)) fun ht => ?_)
  refine Prog.Triple.ite (fun _ => giveUp_triple k.toKept (by decide)) fun hr => ?_
  rw [ge_iff_le, Nat.not_le] at ht hr
  cases hquery : validateTool host tool.name tool.arguments with
  | error e => exact replanOr_triple k (by decide) _ _
  | ok query => exact callTool_triple k ht hr hquery hacted

-- Answers

theorem cites_mem {evidence : List ResearchEvidenceEnvelope} {now : Int} {id : String} (h : cites evidence now id = true) :
    ∃ e ∈ evidence, e.evidenceId = id ∧ e.receivedAtMonotonicMs ≤ now ∧ now < e.validUntilMonotonicMs := by
  unfold cites at h
  cases hfind : evidence.reverse.find? (·.evidenceId == id) with
  | none =>
    rw [hfind] at h
    cases h
  | some e =>
    rw [hfind] at h
    have hfresh : e.fresh now = true := h
    rw [ResearchEvidenceEnvelope.fresh, Bool.and_eq_true, decide_eq_true_iff, decide_eq_true_iff] at hfresh
    exact ⟨e, List.mem_reverse.mp (List.mem_of_find?_eq_some hfind), by simpa using List.find?_some hfind, hfresh⟩

theorem Kept.grounded (k : Kept host world limits goal startedAtMs s) {now : Int} {answer : AnswerIntent}
    (hclock : world.clockMs s.clockReads = .ok (some now)) (hvalid : citationsValid goal s.evidence now answer.evidenceIds = true)
    {result : ResearchEpisodeResult} (hresult : result.citationIds = answer.evidenceIds)
    (hs : ∃ trace, s' = { s with clockReads := s.clockReads + 1, trace }) :
    Grounded host world limits goal startedAtMs s' result := by
  obtain ⟨trace, rfl⟩ := hs
  rw [citationsValid, Bool.and_eq_true, List.all_eq_true] at hvalid
  rw [← hresult] at hvalid
  refine ⟨hresult ▸ answer.evidenceIdsOk.2, fun hrequired hnil => ?_, now, Nat.succ_pos _, hclock, fun id hid => ?_⟩
  · rw [hnil, hrequired] at hvalid
    exact absurd hvalid.2 (by decide)
  · obtain ⟨e, he, hid', hreceived, hnow⟩ := cites_mem (hvalid.1 id hid)
    obtain ⟨request, weather, hg⟩ := k.evidence e he
    exact ⟨e, he, hid', hreceived, request, weather, hg, hg.2.2.lasts now hnow⟩

theorem answerWith_triple (k : Asking host world limits goal startedAtMs n s) (answer : AnswerIntent) :
    Prog.Triple (answerWith world limits goal startedAtMs answer) s (Goes host world limits goal startedAtMs n)
      (fun _ => Kept host world limits goal startedAtMs) := by
  refine Prog.Triple.bind ((deadline_triple s).mono (fun _ _ h => h) fun _ _ h => k.toKept.quiet h) ?_
  rintro ⟨now, exhausted⟩ _ ⟨rfl, hclock⟩
  have hk : Asking host world limits goal startedAtMs n { s with clockReads := s.clockReads + 1 } := k.quiet ⟨_, _, _, _, rfl⟩
  refine Prog.Triple.ite (fun _ => giveUp_triple hk.toKept (by decide)) fun _ => Prog.Triple.get_bind ?_
  refine Prog.Triple.ite (fun hvalid => ?_) fun _ => replanOr_triple hk (by decide) _ _
  exact ⟨hk.toKept.quiet ⟨_, _, _, _, rfl⟩, fun _ => k.toKept.grounded hclock hvalid rfl ⟨_, rfl⟩⟩

-- Turns

theorem act_triple (k : Asking host world limits goal startedAtMs n s) {decision : Decision}
    (hacted : ∃ p ∈ s.acted, p.2.decision = decision) :
    Prog.Triple (act host world limits goal startedAtMs decision) s (Goes host world limits goal startedAtMs n)
      (fun _ => Kept host world limits goal startedAtMs) := by
  cases decision with
  | abort => exact giveUp_triple k.toKept (by decide)
  | clarify question => exact ⟨k.toKept.quiet ⟨_, _, _, _, rfl⟩, fun h => by cases h⟩
  | answer answer => exact answerWith_triple k answer
  | callTool tool => exact useTool_triple k hacted

theorem Asking.use (k : Asking host world limits goal startedAtMs n s) (id : String) :
    Asking host world limits goal startedAtMs n { s with proposalHistory := s.proposalHistory ++ [id] } where
  __ := k
  idsUsed := fun p hp => List.mem_append_left _ (k.idsUsed p hp)

theorem examine_triple (k : Asking host world limits goal startedAtMs n s) (raw : RawDecision) :
    Prog.Triple (examine host goal raw) s
      (fun p s' => s' = { s with proposalHistory := s.proposalHistory ++ [p.proposalId] } ∧ p.proposalId ∉ s.proposalHistory ∧
        p.turnId = goal.turnId ∧ p.basedOnContextVersion = s.contextVersion)
      (fun _ => Asking host world limits goal startedAtMs n) := by
  refine Prog.Triple.ofExcept_bind (fun _ _ => k) fun p _ => Prog.Triple.get_bind ?_
  refine Prog.Triple.failIf (fun _ => k) fun hnew => Prog.Triple.modify_bind ?_
  refine Prog.Triple.failIf (fun _ => k.use _) fun hturn => Prog.Triple.failIf (fun _ => k.use _) fun hversion => ?_
  exact ⟨rfl, hnew, not_not.mp hturn, not_not.mp hversion⟩

theorem Asking.acts (k : Asking host world limits goal startedAtMs n s) {p : ResearchDecision} {c : ResearchPlanningContext}
    (hnew : p.proposalId ∉ s.proposalHistory) (hc : c ∈ s.contexts) (hcturn : c.turnId = goal.turnId)
    (hcversion : c.contextVersion = s.contextVersion) (hturn : p.turnId = goal.turnId)
    (hversion : p.basedOnContextVersion = s.contextVersion) :
    Asking host world limits goal startedAtMs n
      { s with proposalHistory := s.proposalHistory ++ [p.proposalId], acted := (c, p) :: s.acted } where
  __ := k.use p.proposalId
  ids := List.nodup_cons.mpr ⟨fun hmem => by
    obtain ⟨q, hq, hid⟩ := List.mem_map.mp hmem
    have hid' : q.2.proposalId = p.proposalId := hid
    exact hnew (hid' ▸ k.idsUsed q hq), k.ids⟩
  idsUsed := by
    intro q hq
    obtain rfl | hq := List.mem_cons.mp hq
    · exact List.mem_append_right _ (List.mem_singleton.mpr rfl)
    · exact (k.use p.proposalId).idsUsed q hq
  current := by
    intro q hq
    obtain rfl | hq := List.mem_cons.mp hq
    · exact ⟨hc, hturn.trans hcturn.symm, hturn, hversion.trans hcversion.symm⟩
    · exact k.current q hq
  evidence := by
    intro e he
    obtain ⟨request, result, hrequest, ⟨⟨q, hq, hproposed⟩, hissued, hdeadline⟩, hanswers⟩ := k.evidence e he
    exact ⟨request, result, hrequest, ⟨⟨q, List.mem_cons_of_mem _ hq, hproposed⟩, hissued, hdeadline⟩, hanswers⟩

structure Current (goal : ResearchGoal) (s : Episode) (c : ResearchPlanningContext) : Prop where
  mem : c ∈ s.contexts
  turnId : c.turnId = goal.turnId
  version : c.contextVersion = s.contextVersion

theorem Current.quiet {c : ResearchPlanningContext} (hc : Current goal s c) (h : Quiet s s') : Current goal s' c := by
  obtain ⟨_, _, _, _, rfl⟩ := h
  exact { hc with }

theorem follow_triple (k : Asking host world limits goal startedAtMs n s) {c : ResearchPlanningContext} (hc : Current goal s c)
    (raw : RawDecision) :
    Prog.Triple (follow host world limits goal startedAtMs c raw) s (Goes host world limits goal startedAtMs n)
      (fun _ => Kept host world limits goal startedAtMs) := by
  refine Prog.Triple.bind (Prog.Triple.attempt (P := fun r s' => match r with
    | .ok p => s' = { s with proposalHistory := s.proposalHistory ++ [p.proposalId] } ∧ p.proposalId ∉ s.proposalHistory ∧
        p.turnId = goal.turnId ∧ p.basedOnContextVersion = s.contextVersion
    | .error _ => Asking host world limits goal startedAtMs n s') (examine_triple k raw)) ?_
  rintro (e | p) s₁ h
  · exact replanOr_triple h (by decide) _ _
  · obtain ⟨rfl, hnew, hturn, hversion⟩ := h
    have hk := k.acts hnew hc.mem hc.turnId hc.version hturn hversion
    exact Prog.Triple.modify_bind (act_triple hk ⟨(c, p), List.mem_cons_self, rfl⟩)

theorem Ready.call (k : Ready host world limits goal startedAtMs n s) (hn : s.plannerTurns < limits.maxPlannerTurns)
    {c : ResearchPlanningContext} (hc : c.contextVersion = s.contextVersion) :
    Kept host world limits goal startedAtMs { s with contexts := c :: s.contexts } where
  __ := k.toKept
  plannerCalls := by
    have hcalls : s.contexts.length = s.plannerTurns := k.calls.trans k.turns.symm
    exact hcalls ▸ hn
  current := fun p hp => ⟨List.mem_cons_of_mem _ (k.current p hp).1, (k.current p hp).2⟩
  versions := List.pairwise_cons.mpr ⟨fun c' hc' => hc ▸ k.fresh c' hc', k.versions⟩
  versionsUsed := by
    intro c' hc'
    obtain rfl | hc' := List.mem_cons.mp hc'
    · exact Int.le_of_eq hc
    · exact k.versionsUsed c' hc'

theorem Ready.called (k : Ready host world limits goal startedAtMs n s) (hn : s.plannerTurns < limits.maxPlannerTurns)
    {c : ResearchPlanningContext} (hc : c.contextVersion = s.contextVersion) :
    Asking host world limits goal startedAtMs (n + 1)
      { s with contexts := c :: s.contexts, plannerTurns := s.plannerTurns + 1 } where
  __ := k.call hn hc
  plannerTurns := hn
  turns := congrArg (· + 1) k.turns
  calls := congrArg (· + 1) k.calls

theorem consult_triple (k : Ready host world limits goal startedAtMs n s) (hn : s.plannerTurns < limits.maxPlannerTurns)
    {c : ResearchPlanningContext} (hturn : c.turnId = goal.turnId) (hversion : c.contextVersion = s.contextVersion) :
    Prog.Triple (consult host world limits goal startedAtMs c) s (Goes host world limits goal startedAtMs (n + 1))
      (fun _ => Kept host world limits goal startedAtMs) := by
  refine Prog.Triple.modify_bind (Prog.Triple.frame_bind nowMs_quiet (fun _ _ h => k.toKept.quiet ?_) ?_)
  · exact trans_of Quiet ⟨_, _, _, _, rfl⟩ h
  rintro plannerStarted _ ⟨_, _, _, _, rfl⟩
  refine Prog.Triple.get_bind (Prog.Triple.modify_bind ?_)
  have hk : Kept host world limits goal startedAtMs { s with contexts := c :: s.contexts } := k.call hn hversion
  have ha := k.called hn hversion
  have hc : Current goal { s with contexts := c :: s.contexts, plannerTurns := s.plannerTurns + 1 } c :=
    ⟨List.mem_cons_self, hturn, hversion⟩
  cases world.planner s.contexts.length with
  | error =>
    refine Prog.Triple.modify_bind (giveUp_triple ?_ (by decide))
    exact ha.toKept.quiet ⟨_, _, _, _, rfl⟩
  | ok raw =>
    refine Prog.Triple.frame_bind nowMs_quiet (fun _ _ h => hk.quiet (trans_of Quiet ⟨_, _, _, _, rfl⟩ h)) ?_
    rintro plannerCompleted _ ⟨_, _, _, _, rfl⟩
    refine Prog.Triple.modify_bind (Prog.Triple.ite (fun _ => ?_) fun _ => ?_)
    · refine giveUp_triple ?_ (by decide)
      exact ha.toKept.quiet ⟨_, _, _, _, rfl⟩
    refine Prog.Triple.frame_bind deadline_quiet (fun _ _ h => ha.toKept.quiet ?_) ?_
    · exact trans_of Quiet ⟨_, _, _, _, rfl⟩ h
    rintro ⟨_, exhausted⟩ _ ⟨_, _, _, _, rfl⟩
    refine Prog.Triple.ite (fun _ => ?_) fun _ => ?_
    · refine giveUp_triple ?_ (by decide)
      exact ha.toKept.quiet ⟨_, _, _, _, rfl⟩
    · refine follow_triple ?_ ?_ raw
      · exact ha.quiet ⟨_, _, _, _, rfl⟩
      · exact hc.quiet ⟨_, _, _, _, rfl⟩

theorem ResearchPlanningContext.new_ok {c c' : ResearchPlanningContext} (h : c.new = .ok c') : c' = c := by
  rw [ResearchPlanningContext.new, bind_ok_iff] at h
  obtain ⟨_, -, h⟩ := h
  rw [bind_ok_iff] at h
  obtain ⟨_, -, h⟩ := h
  rw [require_bind_ok_iff, bind_ok_iff] at h
  obtain ⟨-, _, -, h⟩ := h
  rw [require_bind_ok_iff, bind_ok_iff] at h
  obtain ⟨-, _, -, h⟩ := h
  rw [bind_ok_iff] at h
  obtain ⟨_, -, h⟩ := h
  rw [require_bind_ok_iff] at h
  exact (Except.ok.inj h.2).symm

theorem turn_triple (k : Ready host world limits goal startedAtMs n s) :
    Prog.Triple (turn host world limits goal startedAtMs) s
      (fun r s' => Goes host world limits goal startedAtMs (n + 1) r s' ∧ (limits.maxPlannerTurns ≤ n → r ≠ none))
      (fun _ => Kept host world limits goal startedAtMs) := by
  refine Prog.Triple.frame_bind deadline_quiet (fun _ _ h => k.toKept.quiet h) fun r s₁ hq => Prog.Triple.get_bind ?_
  have hk := k.quiet hq
  refine Prog.Triple.ite (fun _ => ?_) fun hgo => ?_
  · have hgive : Prog.Triple (giveUp goal .budgetExhausted) s₁ (Goes host world limits goal startedAtMs (n + 1))
        (fun _ => Kept host world limits goal startedAtMs) := giveUp_triple hk.toKept (by decide)
    exact ⟨hgive, fun _ => nofun⟩
  rw [not_or, ge_iff_le, Nat.not_le] at hgo
  refine checked_bind (fun _ => hk.toKept) fun c hc => ?_
  obtain rfl := ResearchPlanningContext.new_ok hc
  refine (consult_triple hk hgo.2 rfl rfl).mono (fun r s' h => ⟨h, fun hn => ?_⟩) fun _ _ h => h
  rw [hk.turns] at hgo
  exact absurd hn (Nat.not_le.mpr hgo.2)

theorem turns_triple : ∀ {fuel n : Nat} {s : Episode}, Ready host world limits goal startedAtMs n s → limits.maxPlannerTurns < n + fuel →
    Prog.Triple (turns host world limits goal startedAtMs fuel) s
      (fun r s' => ∃ result, r = some result ∧ Kept host world limits goal startedAtMs s' ∧
        (result.termination = .answered → Grounded host world limits goal startedAtMs s' result))
      (fun _ => Kept host world limits goal startedAtMs) := by
  intro fuel
  induction fuel with
  | zero =>
    intro n s k hn
    have hturns := k.plannerTurns
    rw [k.turns] at hturns
    omega
  | succ fuel ih =>
    intro n s k hn
    refine Prog.Triple.bind (turn_triple k) fun r s' h => ?_
    cases r with
    | some result => exact ⟨result, rfl, h.1⟩
    | none => exact ih h.1 (by omega)

-- A run

structure Held (limits : ResearchLimits) (goal : ResearchGoal) (s : Episode) : Prop where
  plannerCalls : s.contexts.length ≤ limits.maxPlannerTurns
  toolCalls : s.requests.length ≤ limits.maxToolCalls
  replans : s.replans ≤ limits.maxReplans
  actedOnce : (s.acted.map (·.2.proposalId)).Nodup
  current : ∀ p ∈ s.acted, p.1 ∈ s.contexts ∧ p.2.turnId = p.1.turnId ∧ p.2.turnId = goal.turnId ∧
    p.2.basedOnContextVersion = p.1.contextVersion
  /-- The last context stands first. -/
  versions : s.contexts.Pairwise fun later earlier => earlier.contextVersion < later.contextVersion
  evidenceIds : (s.evidence.map (·.evidenceId)).Nodup

theorem Kept.held (k : Kept host world limits goal startedAtMs s) : Held limits goal s :=
  ⟨k.plannerCalls, Nat.le_trans k.requests k.toolCalls, k.replans, k.ids, k.current, k.versions, k.evidenceIds⟩

theorem ready_empty : Ready host world limits goal startedAtMs 0 {} := by
  constructor
  case fresh => simp
  constructor
  case turns => rfl
  case calls => rfl
  constructor <;> simp

/-- An episode stays within its budgets, comes to an end, and answers with
evidence of its own. -/
theorem research_answers_grounded (host : ResearchHost F) (world : World F) (limits : ResearchLimits) (goal : ResearchGoal) :
    Prog.Triple (run host world limits goal) {}
      (fun r s => Held limits goal s ∧ ∃ result startedAtMs, r = some result ∧ world.clockMs 0 = .ok (some startedAtMs) ∧
        (result.termination = .answered → Grounded host world limits goal startedAtMs s result))
      (fun _ s => Held limits goal s) := by
  have hempty : Ready host world limits goal 0 0 {} := ready_empty
  refine Prog.Triple.bind ((nowMs_triple {}).mono (fun _ _ h => h) fun _ _ h => (hempty.quiet h).held) ?_
  rintro startedAtMs _ ⟨rfl, hclock⟩
  have k : Ready host world limits goal startedAtMs 0 { ({} : Episode) with clockReads := 1 } := ready_empty.quiet ⟨_, _, _, _, rfl⟩
  refine (turns_triple k (by omega)).mono ?_ fun _ _ h => h.held
  rintro r s ⟨result, rfl, hk, hgrounded⟩
  exact ⟨hk.held, result, startedAtMs, rfl, hclock, hgrounded⟩

end RobotLlm.Research
