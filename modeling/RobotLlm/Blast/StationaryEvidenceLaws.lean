import Mathlib
import RobotLlm.Blast.MotionExecutionLaws
import RobotLlm.Blast.StationaryEvidence

/-!
# What stationary evidence rests on

An outcome that shows a range rests on one command: its receipt and the
snapshot after it belong to the session in which the command was issued. What
an earlier attempt showed counts only where it, too, stayed in its session; a
receipt from a session that has ended is not looked at.
-/

namespace RobotLlm.Blast

open RobotLlm.Lib RobotLlm.Odometry

variable {F : Type} [PyFloat F] {q : EvidenceRequest F} {o : Outside}

-- What an observation shows

structure Still (q : EvidenceRequest F) (observation : List (String × Json)) : Prop where
  idle : Json.IsFalse (observation.lookup "motion_active")
  drives : driveState F observation q.expected = .ok .matched
  body : q.bodyValid observation = true

def ShowsDistance (F : Type) [PyFloat F] (observation : List (String × Json)) (is : F → Bool) : Prop :=
  blastRangeState F (observation.lookup "distance_mm") = .ok .measured ∧
    ∃ distance, finiteNumber F (observation.lookup "distance_mm") = .ok (some distance) ∧ is distance = true

/-- A measured distance that is not above the minimum. -/
def ShowsUnsafe (q : EvidenceRequest F) (observation : List (String × Json)) : Prop :=
  ShowsDistance F observation fun distance => PyMath.le distance q.minimumSafeDistanceMm

def SameDrives (F : Type) [PyFloat F] (a b : List (String × Json)) : Prop :=
  ∃ x y, driveAngles F a = .ok (some x) ∧ driveAngles F b = .ok (some y) ∧ floatEq F x.1 y.1 = true ∧ floatEq F x.2 y.2 = true

theorem stationary_ok {observation : List (String × Json)} (h : stationary q observation = .ok true) : Still q observation := by
  unfold stationary at h
  split at h
  · cases h
  next hidle =>
    rw [bind_ok_iff] at h
    obtain ⟨state, hstate, h⟩ := h
    cases state with
    | matched => exact ⟨by simpa using hidle, hstate, by simpa using h⟩
    | discontinuous | missing => cases h

theorem see_ok {observation : List (String × Json)} {seen : Seen (F := F)} (h : see q (some observation) = .ok seen)
    (hs : seen.stationary = true) : Still q observation ∧ blastRangeState F (observation.lookup "distance_mm") = .ok seen.state ∧
      finiteNumber F (observation.lookup "distance_mm") = .ok seen.distance := by
  simp only [see, bind_ok_iff] at h
  obtain ⟨still, hstill, h⟩ := h
  cases still with
  | false =>
    cases h
    cases hs
  | true =>
    simp only [↓reduceIte, bind_ok_iff] at h
    obtain ⟨state, hstate, distance, hdistance, h⟩ := h
    cases h
    exact ⟨stationary_ok hstill, hstate, hdistance⟩

theorem not_showsUnsafe {observation : List (String × Json)} {seen : Seen (F := F)} (h : see q (some observation) = .ok seen)
    (hs : seen.stationary = true) (hu : seen.unsafe_ q = false) : ¬ ShowsUnsafe q observation := by
  rintro ⟨hstate, distance, hd, hle⟩
  obtain ⟨-, hstate', hd'⟩ := see_ok h hs
  rw [hstate] at hstate'
  rw [hd] at hd'
  simp [Seen.unsafe_, ← Except.ok.inj hstate', ← Except.ok.inj hd', hle] at hu

structure Accepted (q : EvidenceRequest F) (received observed : Option (List (String × Json))) : Prop where
  received : ∀ observation ∈ received, Still q observation ∧ ¬ ShowsUnsafe q observation
  observed : ∀ observation ∈ observed, Still q observation ∧ ¬ ShowsUnsafe q observation

structure Evidence (q : EvidenceRequest F) (status : EvidenceStatus) (received observed : List (String × Json)) : Prop where
  drives : SameDrives F received observed
  safe : status = .measuredSafe →
    ShowsDistance F received (PyMath.lt q.minimumSafeDistanceMm) ∧ ShowsDistance F observed (PyMath.lt q.minimumSafeDistanceMm)
  noValid : status = .exactNvd → blastRangeState F (received.lookup "distance_mm") = .ok .noValidDistance ∧
    blastRangeState F (observed.lookup "distance_mm") = .ok .noValidDistance

/-- The status that a classification is evidence for. -/
def Classification.status? : Classification → Option EvidenceStatus
  | .measuredSafe => some .measuredSafe
  | .exactNvd => some .exactNvd
  | .hard _ | .open_ _ => none

theorem receiptClassification_ok {result snapshot : Json} {issuedAfterMs nowMs : Int} {k : Classification}
    (h : receiptClassification q result snapshot issuedAfterMs nowMs = .ok k) (hk : ∀ reason, k ≠ .hard reason) :
    Accepted q (receiptObservation result) (causalObservation q snapshot issuedAfterMs nowMs) ∧
      ∀ status, k.status? = some status → ∃ received observed, receiptObservation result = some received ∧
        causalObservation q snapshot issuedAfterMs nowMs = some observed ∧ Evidence q status received observed := by
  simp only [receiptClassification, bind_ok_iff] at h
  obtain ⟨fromResult, hres, fromSnapshot, hsnap, h⟩ := h
  split at h
  next => exact absurd (Except.ok.inj h).symm (hk _)
  next hunsafe =>
    split at h
    next => exact absurd (Except.ok.inj h).symm (hk _)
    next hstill =>
      simp only [Bool.or_eq_true, not_or, Bool.not_eq_true, Bool.and_eq_true, Bool.not_eq_true', not_and, Bool.not_eq_false] at hunsafe hstill
      have hreceived : ∀ observation ∈ receiptObservation result, Still q observation ∧ ¬ ShowsUnsafe q observation := by
        intro observation hobs
        have hsome : receiptObservation result = some observation := hobs
        rw [hsome] at hres hstill
        have hs := hstill.1 rfl
        exact ⟨(see_ok hres hs).1, not_showsUnsafe hres hs hunsafe.1⟩
      have hobserved : ∀ observation ∈ causalObservation q snapshot issuedAfterMs nowMs,
          Still q observation ∧ ¬ ShowsUnsafe q observation := by
        intro observation hobs
        have hsome : causalObservation q snapshot issuedAfterMs nowMs = some observation := hobs
        rw [hsome] at hsnap hstill
        have hs := hstill.2 rfl
        exact ⟨(see_ok hsnap hs).1, not_showsUnsafe hsnap hs hunsafe.2⟩
      refine ⟨⟨hreceived, hobserved⟩, fun status hstatus => ?_⟩
      cases hro : receiptObservation result with
      | none =>
        rw [hro] at h
        cases Except.ok.inj h
        cases hstatus
      | some received =>
        cases hso : causalObservation q snapshot issuedAfterMs nowMs with
        | none =>
          rw [hro, hso] at h
          cases Except.ok.inj h
          cases hstatus
        | some observed =>
          rw [hro, hso] at h hstill
          rw [hro] at hres
          rw [hso] at hsnap
          obtain ⟨-, hstate, hdist⟩ := see_ok hres (hstill.1 rfl)
          obtain ⟨-, hstate', hdist'⟩ := see_ok hsnap (hstill.2 rfl)
          refine ⟨received, observed, rfl, rfl, ?_⟩
          simp only [bind_ok_iff] at h
          obtain ⟨a, ha, b, hb, h⟩ := h
          split at h
          next => exact absurd (Except.ok.inj h).symm (hk _)
          next hsame =>
            have hdrives : SameDrives F received observed := by
              have hreceived := (hreceived received hro).1.drives
              have hobserved := (hobserved observed hso).1.drives
              rcases a with _ | a
              · simp [driveState, ha] at hreceived
              · rcases b with _ | b
                · simp [driveState, hb] at hobserved
                · exact ⟨a, b, ha, hb, by simpa [sameAngles] using hsame⟩
            split at h
            next =>
              cases Except.ok.inj h
              cases hstatus
            next =>
              split at h
              next hnvd =>
                cases Except.ok.inj h
                cases hstatus
                exact ⟨hdrives, by simp, fun _ => ⟨hnvd.1 ▸ hstate, hnvd.2 ▸ hstate'⟩⟩
              next =>
                split at h
                next hmeasured =>
                  split at h
                  next hsafe =>
                    cases Except.ok.inj h
                    cases hstatus
                    simp only [Seen.safe, Bool.and_eq_true, Option.any_eq_true] at hsafe
                    obtain ⟨⟨d, hd, hlt⟩, d', hd', hlt'⟩ := hsafe
                    exact ⟨hdrives, fun _ => ⟨⟨hmeasured.1 ▸ hstate, d, hd ▸ hdist, hlt⟩, hmeasured.2 ▸ hstate', d', hd' ▸ hdist', hlt'⟩,
                      by simp⟩
                  next => exact absurd (Except.ok.inj h).symm (hk _)
                next =>
                  cases Except.ok.inj h
                  cases hstatus

-- What one command leads to

/-- Evidence that rests on the command issued at `c`: the snapshot before it and
the reading of the session came just before, the snapshot after it, the reading
of the session and the clock came after. -/
structure Grounds (q : EvidenceRequest F) (o : Outside) (c : Nat) (status : EvidenceStatus)
    (pre receipt snapshot : Json) (received observed : List (String × Json)) : Prop where
  before : o.snapshot (c - 2) = .ok pre
  command : o.command c = .ok receipt
  after : o.snapshot (c + 3) = .ok snapshot
  oneSession : ∀ t, c - 1 ≤ t → t ≤ c + 4 → o.sessionGeneration t = o.sessionGeneration c
  receiptHas : receiptObservation receipt = some received
  snapshotHas : ∃ fields observedMs, onlineSnapshot snapshot = some fields ∧ observationOf fields = some observed ∧
    Json.toInt? (fields.lookup "last_observed_at_monotonic_ms") = some observedMs ∧ issuedAfter pre < observedMs ∧
    0 ≤ o.monotonicMs (c + 5) - observedMs ∧ o.monotonicMs (c + 5) - observedMs ≤ q.maxObservationAgeMs
  still : Still q received ∧ Still q observed
  evidence : Evidence q status received observed

/-- A command whose session lasted showed nothing that forbids to go on. -/
def Unshown (q : EvidenceRequest F) (o : Outside) (c : Nat) : Prop :=
  ∀ pre receipt snapshot, o.snapshot (c - 2) = .ok pre → o.command c = .ok receipt → o.snapshot (c + 3) = .ok snapshot →
    o.sessionGeneration (c - 1) = o.sessionGeneration (c + 4) →
    Accepted q (receiptObservation receipt) (causalObservation q snapshot (issuedAfter pre) (o.monotonicMs (c + 5)))

structure Bounded (s : Collecting) : Prop where
  counted : s.commands.length = s.attempts
  attempts : s.attempts ≤ maxSettledAttempts
  reconnects : s.reconnects ≤ 1

def left (q : EvidenceRequest F) (s : Collecting) : Nat := (maxSettledAttempts - s.attempts) + (q.reconnectPollLimit - s.polls)

structure Rests (q : EvidenceRequest F) (o : Outside) (out : EvidenceOutcome) (s : Collecting) : Prop where
  attempts : out.settledAttempts = s.attempts
  reconnects : out.reconnectGenerations = s.reconnects
  grounds : out.status = .measuredSafe ∨ out.status = .exactNvd → ∃ c earlier pre receipt snapshot received observed,
    s.commands = c :: earlier ∧ Grounds q o c out.status pre receipt snapshot received observed ∧
      out.receipt = some (fieldsOf receipt) ∧ out.observation = some observed ∧ ∀ c' ∈ earlier, Unshown q o c'

/-- What a turn leaves that could go on for `n` turns. -/
def Turned (q : EvidenceRequest F) (o : Outside) (n : Nat) : Option EvidenceOutcome → Collecting → Prop
  | some out, s => Bounded s ∧ Rests q o out s
  | none, s => Bounded s ∧ (∀ c ∈ s.commands, Unshown q o c) ∧ left q s < n

variable {s : Collecting} {n : Nat} {β : Type} {Q : β → Collecting → Prop} {E : Fault → Collecting → Prop}

theorem new_ok {out out' : EvidenceOutcome} (h : EvidenceOutcome.new out = .ok out') : out' = out := by
  simp only [EvidenceOutcome.new, require_bind_ok_iff] at h
  exact (Except.ok.inj h.2.2.2).symm

theorem finish_run {status : EvidenceStatus} {observation receipt : Option (List (String × Json))} {control : Option Json}
    {reason : Option String} (hb : Bounded s)
    (hg : ∀ out, out.status = status → out.settledAttempts = s.attempts → out.reconnectGenerations = s.reconnects →
      out.observation = observation → out.receipt = receipt → Rests q o out s) :
    Prog.Triple (finish status observation receipt control reason) s (Turned q o n) (fun _ s' => Bounded s') := by
  refine Prog.Triple.get_bind (Prog.Triple.ofExcept_bind (fun _ _ => hb) fun out hout => Prog.Triple.pure ⟨hb, ?_⟩)
  cases new_ok hout
  exact hg _ rfl rfl rfl rfl rfl

theorem exhausted_run {reason : String} (hb : Bounded s) :
    Prog.Triple (exhausted reason) s (Turned q o n) (fun _ s' => Bounded s') :=
  finish_run hb fun _ hs ha hr _ _ => ⟨ha, hr, by simp [hs]⟩

theorem Bounded.asked (hb : Bounded s) (n : Nat) : Bounded { s with asked := n } := ⟨hb.counted, hb.attempts, hb.reconnects⟩

theorem unlessControlled_run {next : Collector (Option EvidenceOutcome)} (hb : Bounded s)
    (hnext : Prog.Triple next { s with asked := s.asked + 1 } (Turned q o n) (fun _ s' => Bounded s')) :
    Prog.Triple (unlessControlled o next) s (Turned q o n) (fun _ s' => Bounded s') := by
  refine Prog.Triple.step (t := { s with asked := s.asked + 1 }) rfl ?_
  refine Prog.Triple.ofExcept_bind (fun _ _ => hb.asked _) fun value _ => ?_
  cases value with
  | none => exact hnext
  | some value => exact finish_run (hb.asked _) fun _ hs ha hr _ _ => ⟨ha, hr, by simp [hs]⟩

theorem noteGeneration_bind {value : Int} {f : Option String → Collector β} (hb : Bounded s)
    (hf : ∀ r k g, k ≤ 1 → (r = none → g = value) →
      Prog.Triple (f r) { s with reconnects := k, activeGeneration := g } Q E) :
    Prog.Triple (noteGeneration value >>= f) s Q E := by
  refine Prog.Triple.bind (Q := fun r s' => ∃ k g, k ≤ 1 ∧ (r = none → g = value) ∧
    s' = { s with reconnects := k, activeGeneration := g }) ?_ fun r s' h => ?_
  · refine Prog.Triple.get_bind ?_
    refine Prog.Triple.ite (fun _ => Prog.Triple.pure ⟨s.reconnects, s.activeGeneration, hb.reconnects, by simp, rfl⟩) fun _ => ?_
    refine Prog.Triple.ite (fun he => Prog.Triple.pure ⟨s.reconnects, s.activeGeneration, hb.reconnects, fun _ => he.symm, rfl⟩)
      fun _ => ?_
    refine Prog.Triple.ite (fun _ => Prog.Triple.pure ⟨s.reconnects, s.activeGeneration, hb.reconnects, by simp, rfl⟩) fun hr => ?_
    exact Prog.Triple.modify_bind (Prog.Triple.pure ⟨s.reconnects + 1, value, by omega, fun _ => rfl, rfl⟩)
  · obtain ⟨k, g, hk, hg, rfl⟩ := h
    exact hf r k g hk hg

theorem Bounded.noted (hb : Bounded s) {k : Nat} (g : Int) (hk : k ≤ 1) : Bounded { s with reconnects := k, activeGeneration := g } :=
  ⟨hb.counted, hb.attempts, hk⟩

theorem askSnapshot_bind {f : Json → Collector β} (he : ∀ e, E e { s with asked := s.asked + 1 })
    (hf : ∀ snapshot, o.snapshot s.asked = .ok snapshot → Prog.Triple (f snapshot) { s with asked := s.asked + 1 } Q E) :
    Prog.Triple (askSnapshot o >>= f) s Q E := by
  refine Prog.Triple.bind (Q := fun snapshot s' => o.snapshot s.asked = .ok snapshot ∧ s' = { s with asked := s.asked + 1 }) ?_ ?_
  · refine Prog.Triple.step (t := { s with asked := s.asked + 1 }) rfl ?_
    cases hs : o.snapshot s.asked with
    | ok snapshot => exact Prog.Triple.pure ⟨rfl, rfl⟩
    | error e => exact Prog.Triple.throw (he _)
  · rintro snapshot _ ⟨hs, rfl⟩
    exact hf snapshot hs

theorem commandFailed_run {issuedGeneration : Int} {error : BlastControllerError} (hb : Bounded s)
    (hq : ∀ c ∈ s.commands, Unshown q o c) (hn : left q s < n) :
    Prog.Triple (commandFailed o issuedGeneration error) s (Turned q o n) (fun _ s' => Bounded s') := by
  refine unlessControlled_run hb (Prog.Triple.step (t := { s with asked := s.asked + 2 }) rfl ?_)
  refine noteGeneration_bind (hb.asked _) fun r k g hk _ => ?_
  have hb' := (hb.asked (s.asked + 2)).noted g hk
  cases r with
  | some reason => exact exhausted_run hb'
  | none =>
    refine Prog.Triple.ite (fun _ => exhausted_run hb') fun _ => Prog.Triple.modify_bind (Prog.Triple.get_bind ?_)
    have hb'' : Bounded { s with
        asked := s.asked + 2, reconnects := k, activeGeneration := g, requireNewGeneration := some issuedGeneration } :=
      ⟨hb.counted, hb.attempts, hk⟩
    exact Prog.Triple.ite (fun _ => exhausted_run hb'') fun _ => Prog.Triple.pure ⟨hb'', hq, hn⟩

/-- The command issued at `c` returned: the state is that after it. -/
structure Issued (q : EvidenceRequest F) (o : Outside) (c : Nat) (pre result : Json) (s : Collecting) : Prop where
  asked : s.asked = c + 1
  before : o.snapshot (c - 2) = .ok pre
  command : o.command c = .ok result
  earlier : ∃ earlier, s.commands = c :: earlier ∧ ∀ c' ∈ earlier, Unshown q o c'

theorem oneSession_of (hm : Monotone o.sessionGeneration) {c : Nat} (h : o.sessionGeneration (c - 1) = o.sessionGeneration (c + 4))
    (t : Nat) (h₁ : c - 1 ≤ t) (h₂ : t ≤ c + 4) : o.sessionGeneration t = o.sessionGeneration c := by
  have hall (t : Nat) (h₁ : c - 1 ≤ t) (h₂ : t ≤ c + 4) : o.sessionGeneration t = o.sessionGeneration (c - 1) :=
    le_antisymm ((hm h₂).trans_eq h.symm) (hm h₁)
  rw [hall t h₁ h₂, hall c (by omega) (by omega)]

theorem conclude_run {c : Nat} {pre result snapshot : Json} {k : Classification} (hb : Bounded s)
    (hearlier : ∃ earlier, s.commands = c :: earlier ∧ ∀ c' ∈ earlier, Unshown q o c')
    (hopen : ∀ reason, k = .open_ reason → Unshown q o c) (hn : left q s < n)
    (hg : ∀ status, k.status? = some status → ∃ received observed, Grounds q o c status pre result snapshot received observed ∧
      observationOf (fieldsOf snapshot) = some observed) :
    Prog.Triple (conclude o result snapshot k) s (Turned q o n) (fun _ s' => Bounded s') := by
  obtain ⟨earlier, hcommands, hunshown⟩ := hearlier
  have hev {status : EvidenceStatus} (hs : k.status? = some status) :
      Prog.Triple (unlessControlled o (finish status (observationOf (fieldsOf snapshot)) (some (fieldsOf result)) none none)) s
        (Turned q o n) (fun _ s' => Bounded s') := by
    refine unlessControlled_run hb (finish_run (hb.asked _) fun out hstatus ha hr hobs hrec => ⟨ha, hr, fun _ => ?_⟩)
    obtain ⟨received, observed, hgr, hof⟩ := hg status hs
    exact ⟨c, earlier, pre, result, snapshot, received, observed, hcommands, hstatus ▸ hgr, hrec, hobs.trans hof, hunshown⟩
  cases k with
  | measuredSafe => exact hev rfl
  | exactNvd => exact hev rfl
  | hard reason => exact exhausted_run hb
  | open_ reason =>
    refine Prog.Triple.get_bind (Prog.Triple.ite (fun _ => exhausted_run hb) fun _ => Prog.Triple.pure ⟨hb, fun c' hc' => ?_, hn⟩)
    rw [hcommands] at hc'
    obtain rfl | hc' := List.mem_cons.mp hc'
    · exact hopen reason rfl
    · exact hunshown c' hc'

theorem causalObservation_some {snapshot : Json} {issuedAfterMs nowMs : Int} {observed : List (String × Json)}
    (h : causalObservation q snapshot issuedAfterMs nowMs = some observed) : ∃ fields observedMs,
      onlineSnapshot snapshot = some fields ∧ observationOf fields = some observed ∧
      Json.toInt? (fields.lookup "last_observed_at_monotonic_ms") = some observedMs ∧ issuedAfterMs < observedMs ∧
      0 ≤ nowMs - observedMs ∧ nowMs - observedMs ≤ q.maxObservationAgeMs := by
  simp only [causalObservation, Option.bind_eq_bind, Option.bind_eq_some_iff] at h
  obtain ⟨fields, hf, observation, ho, t, ht, h⟩ := h
  split at h
  next htime =>
    cases h
    exact ⟨fields, t, hf, ho, ht, htime⟩
  next => cases h

theorem onlineSnapshot_fields {snapshot : Json} {fields : List (String × Json)} (h : onlineSnapshot snapshot = some fields) :
    fieldsOf snapshot = fields := by
  unfold onlineSnapshot at h
  split at h
  next =>
    split at h
    · cases h
      rfl
    · cases h
  next => cases h

theorem commandReturned_run (hm : Monotone o.sessionGeneration) {c : Nat} {pre result : Json} (hb : Bounded s)
    (hi : Issued q o c pre result s) (hn : left q s < n) :
    Prog.Triple (commandReturned q o (issuedAfter pre) (o.sessionGeneration (c - 1)) result) s (Turned q o n)
      (fun _ s' => Bounded s') := by
  obtain ⟨hasked, hbefore, hcommand, hearlier⟩ := hi
  refine unlessControlled_run hb (Prog.Triple.step (t := { s with asked := s.asked + 2 }) rfl ?_)
  refine noteGeneration_bind (hb.asked _) fun r k g hk _ => ?_
  have hb₁ := (hb.asked (s.asked + 2)).noted g hk
  cases r with
  | some reason => exact exhausted_run hb₁
  | none =>
    refine askSnapshot_bind (fun _ => hb₁.asked _) fun snapshot hsnapshot => ?_
    have hafter : o.snapshot (c + 3) = .ok snapshot := by simpa [hasked] using hsnapshot
    refine Prog.Triple.step (t := { s with asked := s.asked + 4, reconnects := k, activeGeneration := g }) rfl ?_
    have hread : o.sessionGeneration (s.asked + 3) = o.sessionGeneration (c + 4) := by rw [hasked]
    have hb₂ : Bounded { s with asked := s.asked + 4, reconnects := k, activeGeneration := g } := hb₁.asked _
    refine noteGeneration_bind hb₂ fun r k g hk _ => ?_
    have hb₃ := hb₂.noted g hk
    cases r with
    | some reason => exact exhausted_run hb₃
    | none =>
      -- the session is compared before the receipt is looked at
      refine Prog.Triple.bind (Q := fun k' s' => Bounded s' ∧ s'.commands = s.commands ∧ left q s' = left q s ∧
        (∀ reason, k' = .open_ reason → Unshown q o c) ∧
        ∀ status, k'.status? = some status → ∃ received observed, Grounds q o c status pre result snapshot received observed ∧
          observationOf (fieldsOf snapshot) = some observed) ?_ fun k' s' h => ?_
      · refine Prog.Triple.ite (fun hne => Prog.Triple.pure ⟨hb₃, rfl, rfl, fun _ _ pre' receipt snapshot' _ _ _ hsame => ?_, by
          simp [Classification.status?]⟩) fun hsame => ?_
        · exact absurd (hsame.trans hread.symm) hne
        · have hsession : o.sessionGeneration (c - 1) = o.sessionGeneration (c + 4) := (not_not.mp hsame).trans hread
          refine Prog.Triple.step (t := { s with asked := s.asked + 5, reconnects := k, activeGeneration := g }) rfl ?_
          have hnow : o.monotonicMs (s.asked + 4) = o.monotonicMs (c + 5) := by rw [hasked]
          refine Prog.Triple.ofExcept ?_
          cases hk : receiptClassification q result snapshot (issuedAfter pre) (o.monotonicMs (s.asked + 4)) with
          | error => exact hb₃.asked _
          | ok k' =>
            rw [hnow] at hk
            refine ⟨hb₃.asked _, rfl, rfl, fun reason hr pre' receipt snapshot' hp hr' hs' _ => ?_, fun status hstatus => ?_⟩
            · cases hbefore.symm.trans hp
              cases hcommand.symm.trans hr'
              cases hafter.symm.trans hs'
              exact (receiptClassification_ok hk (by simp [hr])).1
            · obtain ⟨hacc, hev⟩ := receiptClassification_ok hk (by rintro _ rfl; cases hstatus)
              obtain ⟨received, observed, hrec, hobs, hev⟩ := hev status hstatus
              obtain ⟨fields, t, hf, hof, ht, htime⟩ := causalObservation_some hobs
              exact ⟨received, observed, ⟨hbefore, hcommand, hafter, oneSession_of hm hsession, hrec, ⟨fields, t, hf, hof, ht, htime⟩,
                ⟨(hacc.received _ hrec).1, (hacc.observed _ hobs).1⟩, hev⟩, (onlineSnapshot_fields hf).symm ▸ hof⟩
      · obtain ⟨hb', hcommands, hleft, hopen, hg⟩ := h
        exact conclude_run hb' (hcommands ▸ hearlier) hopen (hleft ▸ hn) hg

-- One turn

theorem waitForSession_run {reason : String} (hb : Bounded s) (hq : ∀ c ∈ s.commands, Unshown q o c) :
    Prog.Triple (waitForSession q reason) s (Turned q o (left q s)) (fun _ s' => Bounded s') := by
  refine Prog.Triple.ite (fun _ => exhausted_run hb) fun _ => Prog.Triple.modify_bind (Prog.Triple.get_bind ?_)
  have hb' : Bounded { s with polls := s.polls + 1 } := ⟨hb.counted, hb.attempts, hb.reconnects⟩
  refine Prog.Triple.ite (fun _ => exhausted_run hb') fun hlt => ?_
  refine Prog.Triple.step (t := { s with polls := s.polls + 1, asked := s.asked + 1 }) rfl (Prog.Triple.pure ⟨hb'.asked _, hq, ?_⟩)
  have : ¬ s.polls + 1 ≥ q.reconnectPollLimit := hlt
  simp only [left]
  omega

theorem attempt_run (hm : Monotone o.sessionGeneration) {snapshot : Json} (hb : Bounded s) (hq : ∀ c ∈ s.commands, Unshown q o c)
    (hlt : s.attempts < maxSettledAttempts) (hbefore : o.snapshot (s.asked - 2) = .ok snapshot)
    (hactive : s.activeGeneration = o.sessionGeneration (s.asked - 1)) :
    Prog.Triple (attempt q o snapshot) s (Turned q o (left q s)) (fun _ s' => Bounded s') := by
  refine Prog.Triple.modify_bind (Prog.Triple.get_bind (Prog.Triple.modify_bind ?_))
  have hb' : Bounded { s with
      asked := s.asked + 1, attempts := s.attempts + 1, commands := s.asked :: s.commands, requireNewGeneration := none } :=
    ⟨by simp [hb.counted], hlt, hb.reconnects⟩
  have hleft : left q { s with
      asked := s.asked + 1, attempts := s.attempts + 1, commands := s.asked :: s.commands, requireNewGeneration := none } < left q s := by
    simp only [left]
    omega
  refine Prog.Triple.step (t := { s with
    asked := s.asked + 1, attempts := s.attempts + 1, commands := s.asked :: s.commands, requireNewGeneration := none }) rfl ?_
  cases hc : o.command s.asked with
  | error error =>
    refine commandFailed_run hb' (fun c hmem => ?_) hleft
    obtain rfl | hmem := List.mem_cons.mp hmem
    · intro _ _ _ _ hr
      rw [hc] at hr
      cases hr
    · exact hq c hmem
  | ok result =>
    have h := commandReturned_run hm hb' ⟨rfl, hbefore, hc, s.commands, rfl, hq⟩ hleft
    rw [← hactive] at h
    exact h

theorem collectOnce_run (hm : Monotone o.sessionGeneration) (hb : Bounded s) (hq : ∀ c ∈ s.commands, Unshown q o c)
    (hlt : s.attempts < maxSettledAttempts) :
    Prog.Triple (collectOnce q o) s (Turned q o (left q s)) (fun _ s' => Bounded s') := by
  refine unlessControlled_run hb (Prog.Triple.step (t := { s with asked := s.asked + 2 }) rfl ?_)
  refine noteGeneration_bind (hb.asked _) fun first k g hk hfirst => ?_
  have hb₁ := (hb.asked (s.asked + 2)).noted g hk
  refine askSnapshot_bind (fun _ => hb₁.asked _) fun snapshot hsnapshot => ?_
  refine Prog.Triple.step (t := { s with asked := s.asked + 4, reconnects := k, activeGeneration := g }) rfl ?_
  have hb₂ : Bounded { s with asked := s.asked + 4, reconnects := k, activeGeneration := g } := hb₁.asked _
  cases first with
  | some reason => exact Prog.Triple.step (a := some reason) rfl (exhausted_run hb₂)
  | none =>
    refine noteGeneration_bind hb₂ fun r k g hk hg => ?_
    have hb₃ := hb₂.noted g hk
    cases r with
    | some reason => exact exhausted_run hb₃
    | none =>
      refine Prog.Triple.ofExcept_bind (fun _ _ => hb₃) fun v _ => Prog.Triple.get_bind ?_
      refine Prog.Triple.ite (fun _ => waitForSession_run hb₃ hq) fun _ => ?_
      exact attempt_run hm hb₃ hq hlt hsnapshot (hg rfl)

theorem collectLoop_run (hm : Monotone o.sessionGeneration) (n : Nat) (hb : Bounded s) (hq : ∀ c ∈ s.commands, Unshown q o c) :
    Prog.Triple (collectLoop q o n) s
      (fun r s' => Bounded s' ∧ (left q s < n → r ≠ none) ∧ ∀ out ∈ r, Rests q o out s') (fun _ s' => Bounded s') := by
  have hdone {s₁ s' : Collecting} {m k : Nat} {r : Option EvidenceOutcome} (hr : r ≠ none) (h : Turned q o k r s') :
      Bounded s' ∧ (left q s₁ < m → r ≠ none) ∧ ∀ out ∈ r, Rests q o out s' := by
    cases r with
    | none => exact absurd rfl hr
    | some out => exact ⟨h.1, fun _ => hr, by rintro _ ⟨⟩; exact h.2⟩
  induction n generalizing s with
  | zero => exact Prog.Triple.pure ⟨hb, by simp, by simp⟩
  | succ n ih =>
    refine Prog.Triple.get_bind (Prog.Triple.ite (fun _ => ?_) fun hlt => ?_)
    · refine Prog.Triple.get_bind (Prog.Triple.ofExcept_bind (fun _ _ => hb) fun out hout => Prog.Triple.pure ?_)
      cases new_ok hout
      exact ⟨hb, by simp, by rintro _ ⟨⟩; exact ⟨rfl, rfl, by simp⟩⟩
    · refine Prog.Triple.bind (collectOnce_run hm hb hq (by simpa using hlt)) fun r s' h => ?_
      cases r with
      | some out => exact Prog.Triple.pure (hdone (by simp) h)
      | none =>
        obtain ⟨hb', hq', hlt'⟩ := h
        exact (ih hb' hq').mono (fun _ _ h => ⟨h.1, fun hl => h.2.1 (by omega), h.2.2⟩) fun _ _ => id

-- All calls

/-- The collector comes to its end with two commands and one change of session
at most, and its evidence rests on the last command. -/
theorem stationary_evidence_grounded (hm : Monotone o.sessionGeneration) :
    (collectBlastStationaryEvidence q o).1 ≠ .ok none ∧ (collectBlastStationaryEvidence q o).2.commands.length ≤ 2 ∧
      (collectBlastStationaryEvidence q o).2.reconnects ≤ 1 ∧
      ∀ out, (collectBlastStationaryEvidence q o).1 = .ok (some out) → Rests q o out (collectBlastStationaryEvidence q o).2 := by
  simp only [collectBlastStationaryEvidence]
  split
  next => simp
  next =>
    have hrun := @collectLoop_run F _ q o { asked := 1, activeGeneration := o.sessionGeneration 0 } hm
      (maxSettledAttempts + q.reconnectPollLimit + 1) ⟨rfl, by simp, by simp⟩ (by simp)
    have hend {s' : Collecting} (hb : Bounded s') : s'.commands.length ≤ 2 ∧ s'.reconnects ≤ 1 :=
      ⟨hb.counted.trans_le hb.attempts, hb.reconnects⟩
    unfold Prog.Triple at hrun
    rcases hr : collectLoop q o (maxSettledAttempts + q.reconnectPollLimit + 1) { asked := 1, activeGeneration := o.sessionGeneration 0 }
      with ⟨e | r, s'⟩ <;> rw [hr] at hrun
    · exact ⟨by simp, (hend hrun).1, (hend hrun).2, by simp⟩
    · refine ⟨fun h => hrun.2.1 (by simp [left]) (Except.ok.inj h), (hend hrun.1).1, (hend hrun.1).2, fun out h => ?_⟩
      exact hrun.2.2 out (Except.ok.inj h)

-- A receipt from a session that has ended

/-- No command but the last showed a distance that is not safe, or encoders
that moved. -/
def NeverShown (q : EvidenceRequest F) (o : Outside) : Prop :=
  ∀ out, (collectBlastStationaryEvidence q o).1 = .ok (some out) → out.status = .measuredSafe ∨ out.status = .exactNvd →
    ∀ c ∈ (collectBlastStationaryEvidence q o).2.commands.tail, ∀ receipt observation, o.command c = .ok receipt →
      receiptObservation receipt = some observation →
      ¬ ShowsUnsafe q observation ∧ driveState F observation q.expected ≠ .ok .discontinuous

def settledObservation (distanceMm : Int) : Json :=
  .obj [("motion_active", .bool false), ("distance_mm", .int distanceMm),
    ("motor_angles_deg", .obj [("left_drive", .int 0), ("right_drive", .int 0), ("body", .int 158)])]

def settledReceipt (distanceMm : Int) : Json :=
  .obj [("robot_id", .str robotId), ("controller_id", .str controllerId), ("command", .str "observe_settled"),
    ("accepted", .bool true), ("completed", .bool true), ("observation_settled", .bool true),
    ("observation", settledObservation distanceMm)]

def settledSnapshot (observedMs : Int) : Json :=
  .obj [("robot_id", .str robotId), ("controller_id", .str controllerId), ("state", .str "online"),
    ("last_observed_at_monotonic_ms", .int observedMs), ("observation", settledObservation 400)]

/-- The session changes while the first command is under way. -/
def reconnecting : Outside where
  sessionGeneration t := if t ≤ 5 then 0 else 1
  monotonicMs t := 100 * t
  controlOutcome _ := .ok none
  snapshot t := .ok (settledSnapshot (100 * t))
  command t := .ok (settledReceipt (if t ≤ 5 then 40 else 400))

def besideObstacle : EvidenceRequest Exact where
  expected := (0, 0)
  minimumSafeDistanceMm := (150 : Rat)
  bodyValid := navigationBodyValid
  maxObservationAgeMs := 3000
  reconnectPollLimit := 80
  minimumOk := by decide +kernel
  maxObservationAgeOk := by decide
  reconnectPollLimitOk := by decide

theorem reconnecting_monotone : Monotone reconnecting.sessionGeneration := by
  intro a b h
  simp only [reconnecting]
  split <;> split <;> omega

theorem stale_receipt_ignored : ¬ (Monotone reconnecting.sessionGeneration → NeverShown besideObstacle reconnecting) := by
  intro h
  have hsafe : ((collectBlastStationaryEvidence besideObstacle reconnecting).1.toOption.bind id).map EvidenceOutcome.status =
      some .measuredSafe := by decide +kernel
  have hcommands : (collectBlastStationaryEvidence besideObstacle reconnecting).2.commands = [14, 5] := by decide +kernel
  rcases hr : (collectBlastStationaryEvidence besideObstacle reconnecting).1 with e | out
  · simp [hr, Except.toOption] at hsafe
  · rcases out with _ | out
    · simp [hr, Except.toOption] at hsafe
    · have hstatus : out.status = .measuredSafe := by simpa [hr, Except.toOption] using hsafe
      have hmem : 5 ∈ (collectBlastStationaryEvidence besideObstacle reconnecting).2.commands.tail := by simp [hcommands]
      exact (h reconnecting_monotone out hr (.inl hstatus) 5 hmem _ _ rfl rfl).1
        ⟨by decide +kernel, (40 : Rat), by decide +kernel, by decide +kernel⟩

/-- The second command of that call is what the outcome rests on. -/
theorem reconnecting_grounded : ((collectBlastStationaryEvidence besideObstacle reconnecting).1 ≠ .ok none ∧
    (collectBlastStationaryEvidence besideObstacle reconnecting).2.commands.length ≤ 2 ∧
    (collectBlastStationaryEvidence besideObstacle reconnecting).2.reconnects ≤ 1 ∧
    ∀ out, (collectBlastStationaryEvidence besideObstacle reconnecting).1 = .ok (some out) →
      Rests besideObstacle reconnecting out (collectBlastStationaryEvidence besideObstacle reconnecting).2) ∧
    (collectBlastStationaryEvidence besideObstacle reconnecting).2.commands = [14, 5] :=
  ⟨stationary_evidence_grounded reconnecting_monotone, by decide +kernel⟩

end RobotLlm.Blast
