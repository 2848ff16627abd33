import RobotLlm.Physical.ManeuverCommitment

/-!
# How long a route stands

A route is taken up or changed only while the robot observes, and with scan evidence for its
target. From then on it stands until the model completes or abandons it.
-/

namespace RobotLlm.Physical

open RobotLlm.Lib
open RobotLlm.Lib.PyValue (field hasKeys equals)

variable {R : Type} {value : PyValue R} {call : ManeuverCall R} {c c' : ManeuverCommitment}

/-- What a call that does not raise makes of the commitment. -/
inductive Moves (call : ManeuverCall R) (c : ManeuverCommitment) : ManeuverCommitment → Prop
  | kept : (∀ m ∈ c.active, m.targetHypothesisId ∈ call.published) → Moves call c c
  | started (p : Proposal) : c.active = none → call.action = .observe → p.targetHypothesisId ∈ call.published →
      call.scanReady p.targetHypothesisId = true → p.revision = 1 → p.successFactKeys ≠ [] →
      Moves call c { c with active := some (p.authored call.turn call.turn) }
  | continued (m : ActiveManeuver) (focus : Option FactKey) : c.active = some m → m.targetHypothesisId ∈ call.published →
      Moves call c { c with active := some { m with currentFocusFactKey := focus, lastConfirmedTurn := call.turn } }
  | revised (m : ActiveManeuver) (p : Proposal) : c.active = some m → m.targetHypothesisId ∈ call.published →
      p.revision = m.revision + 1 → p.targetHypothesisId ∈ call.published → p.successFactKeys ≠ [] →
      (RouteChanged p m → call.action = .observe ∧ call.scanReady p.targetHypothesisId = true) →
      Moves call c { c with active := some { p.authored m.startedTurn call.turn with commitmentId := m.commitmentId } }
  | completed (m : ActiveManeuver) : c.active = some m → m.targetHypothesisId ∈ call.published →
      call.action = .observe ∨ call.action = .finish →
      (∀ key ∈ m.successFactKeys, factHolds call.factValues m.targetHypothesisId key = .ok true) →
      Moves call c { active := none, lastTerminal := some ⟨.complete, m.commitmentId, call.turn, true, none⟩ }
  | abandoned (m : ActiveManeuver) (reason : Option String) : c.active = some m → call.action = .observe →
      Moves call c { active := none, lastTerminal := some ⟨.abandon, m.commitmentId, call.turn, false, reason⟩ }

-- One call

theorem shapeKeys_ne_nil {keys : List FactKey} (h : shapeKeys value = .ok keys) : keys ≠ [] := by
  unfold shapeKeys at h
  split at h
  · rw [require_bind_ok_iff] at h
    obtain ⟨⟨hlength, -⟩, h⟩ := h
    rw [bind_ok_iff] at h
    obtain ⟨named, hnamed, h⟩ := h
    have hcount := (mapM_ok_forall₂ hnamed).length_eq
    split at h
    · rename_i keys' hkeys
      rw [require_bind_ok_iff] at h
      obtain rfl := Except.ok.inj h.2
      rintro rfl
      cases named with
      | nil =>
        rw [hcount] at hlength
        cases hlength
      | cons first rest =>
        rw [List.mapM_cons] at hkeys
        cases first with
        | none => cases hkeys
        | some key =>
          obtain ⟨_, -, hrest⟩ := Option.bind_eq_some_iff.mp hkeys
          obtain ⟨_, -, hcons⟩ := Option.bind_eq_some_iff.mp hrest
          cases hcons
    · cases h
  · cases h

theorem begin_moves {p : Proposal} (h : begin c p call = .ok c') (hnone : c.active = none) (hkeys : p.successFactKeys ≠ []) :
    Moves call c c' := by
  unfold begin at h
  simp only [require_bind_ok_iff] at h
  obtain ⟨-, hrevision, hpublished, hready, haction, h⟩ := h
  obtain rfl := Except.ok.inj h
  exact .started p hnone haction hpublished hready hrevision hkeys

theorem held_all {f : FactKey → Except CommitmentError Bool} {keys : List FactKey} {held : List Bool}
    (h : keys.mapM f = .ok held) (hall : held.all id = true) : ∀ key ∈ keys, f key = .ok true := by
  have hpairs := mapM_ok_forall₂ h
  clear h
  induction hpairs with
  | nil => simp
  | cons hfact _ ih =>
    rw [List.all_cons, Bool.and_eq_true] at hall
    exact List.forall_mem_cons.mpr ⟨hall.1 ▸ hfact, ih hall.2⟩

theorem advance_moves {m : ActiveManeuver} {p : Proposal} (h : advance c m p call = .ok c') (hactive : c.active = some m)
    (hpublished : m.targetHypothesisId ∈ call.published ∨ p.transition = .abandon)
    (hkeys : p.successFactKeys ≠ []) : Moves call c c' := by
  unfold advance at h
  cases htransition : p.transition <;> rw [htransition] at h hpublished <;> try cases h
  case continues =>
    rw [require_bind_ok_iff] at h
    obtain rfl := Except.ok.inj h.2
    exact .continued m _ hactive (hpublished.resolve_right (by decide))
  case revise =>
    simp only [require_bind_ok_iff] at h
    obtain ⟨hrevision, htarget, hobserve, hready, h⟩ := h
    obtain rfl := Except.ok.inj h
    exact .revised m p hactive (hpublished.resolve_right (by decide)) hrevision htarget hkeys
      fun hchanged => ⟨hobserve hchanged, hready hchanged⟩
  case complete =>
    rw [require_bind_ok_iff, require_bind_ok_iff, bind_ok_iff] at h
    obtain ⟨-, haction, held, hheld, h⟩ := h
    rw [require_bind_ok_iff] at h
    obtain ⟨hall, h⟩ := h
    obtain rfl := Except.ok.inj h
    exact .completed m hactive (hpublished.resolve_right (by decide)) haction (held_all hheld hall)
  case abandon =>
    simp only [require_bind_ok_iff] at h
    obtain ⟨-, haction, h⟩ := h
    obtain rfl := Except.ok.inj h
    exact .abandoned m _ hactive haction

variable [Ring R] [DecidableEq R]

theorem shape_ne_nil {p : Proposal} (h : shape value = .ok (some p)) : p.successFactKeys ≠ [] := by
  unfold shape at h
  split at h
  · rw [require_bind_ok_iff, bind_ok_iff] at h
    obtain ⟨-, transition, -, h⟩ := h
    split at h
    · cases h
    · rw [require_bind_ok_iff] at h
      cases h.2
    · rw [bind_ok_iff] at h
      obtain ⟨proposal, hroute, h⟩ := h
      obtain rfl := Option.some.inj (Except.ok.inj h)
      unfold shapeRoute at hroute
      split at hroute
      · rw [bind_ok_iff] at hroute
        obtain ⟨side, -, hroute⟩ := hroute
        split at hroute
        · cases hroute
        · rw [bind_ok_iff] at hroute
          obtain ⟨keys, hkeys, hroute⟩ := hroute
          have hne := shapeKeys_ne_nil hkeys
          split_ifs at hroute <;> rw [require_bind_ok_iff, require_bind_ok_iff] at hroute <;>
            obtain rfl := Except.ok.inj hroute.2.2 <;> exact hne
      · cases hroute
  · cases h

theorem apply_moves (h : apply c value call = .ok c') : Moves call c c' := by
  unfold apply at h
  rw [bind_ok_iff] at h
  obtain ⟨proposal, hshape, h⟩ := h
  cases hactive : c.active with
  | none =>
    rw [hactive] at h
    dsimp only at h
    rw [require_bind_ok_iff] at h
    cases proposal with
    | none =>
      obtain rfl := Except.ok.inj h.2
      exact .kept (by simp [hactive])
    | some p => exact begin_moves h.2 hactive (shape_ne_nil hshape)
  | some m =>
    rw [hactive] at h
    dsimp only at h
    simp only [require_bind_ok_iff] at h
    obtain ⟨-, hpublished, h⟩ := h
    cases proposal with
    | none =>
      obtain rfl := Except.ok.inj h
      simp only [Option.mem_def, reduceCtorEq, false_and, exists_false, or_false] at hpublished
      exact .kept (by simpa [hactive] using hpublished)
    | some p =>
      dsimp only at h
      rw [require_bind_ok_iff] at h
      exact advance_moves h.2 hactive (by simpa using hpublished) (shape_ne_nil hshape)

-- Runs

/-- A route: whose it is, around what it leads, and on which side. -/
def route (m : ActiveManeuver) : String × String × DetourSide := (m.commitmentId, m.targetHypothesisId, m.detourSide)

abbrev CommitmentEntry (R : Type) := (PyValue R × ManeuverCall R) × Except CommitmentError ManeuverCommitment

/-- The call raised, or it left the robot with this route. -/
def Shows (r : String × String × DetourSide) (e : CommitmentEntry R) : Prop := ∀ c, e.2 = .ok c → c.active.map route = some r

/-- The call left the robot with this route, while it observed and with scan evidence for the target. -/
def Authorises (r : String × String × DetourSide) (e : CommitmentEntry R) : Prop :=
  (∃ c, e.2 = .ok c ∧ c.active.map route = some r) ∧ e.1.2.action = .observe ∧ r.2.1 ∈ e.1.2.published ∧
    e.1.2.scanReady r.2.1 = true

theorem step_cases (c : ManeuverCommitment) (input : PyValue R × ManeuverCall R) :
    (∃ e, (commitmentMachine R).step c input = (.error e, c)) ∨
      ∃ c', (commitmentMachine R).step c input = (.ok c', c') ∧ Moves input.2 c c' := by
  cases h : apply c input.1 input.2 with
  | error e => exact .inl ⟨e, by simp only [commitmentMachine, h]; rfl⟩
  | ok c' => exact .inr ⟨c', by simp only [commitmentMachine, h]; rfl, apply_moves h⟩

theorem route_revised {m : ActiveManeuver} {p : Proposal} {started turn : Int} (h : ¬ RouteChanged p m) :
    route { p.authored started turn with commitmentId := m.commitmentId } = route m := by
  rw [RouteChanged, not_or, not_not, not_not] at h
  simp only [route, Proposal.authored, h.1, h.2]

/-- Whatever was proposed, the route that stands was set by a call under OBSERVE that had scan evidence for its target,
and every call since then raised or showed the same route. -/
theorem active_authorised (h : List (CommitmentEntry R)) (s : ManeuverCommitment)
    (hr : (commitmentMachine R).Runs Machine.always {} h s) (m : ActiveManeuver) (hm : s.active = some m) :
    Since (Shows (route m)) (Authorises (route m)) h := by
  refine Machine.Runs.historyInvariant (I := fun h s => ∀ m, s.active = some m → Since (Shows (route m)) (Authorises (route m)) h)
    hr (fun m hm => by cases hm) ?_ m hm
  intro h c input ih _ m hm
  obtain ⟨e, hstep⟩ | ⟨c', hstep, hmoves⟩ := step_cases c input <;> rw [hstep] at hm ⊢
  · refine .inr ⟨?_, ih m hm⟩
    rintro _ ⟨⟩
  · have hshows : Shows (route m) ((input, .ok c') : CommitmentEntry R) := by
      rintro _ ⟨⟩
      exact congrArg (Option.map route) hm
    cases hmoves with
    | kept => exact .inr ⟨hshows, ih m hm⟩
    | started p hnone haction hpublished hready =>
      obtain rfl := Option.some.inj hm
      exact .inl ⟨⟨_, rfl, rfl⟩, haction, hpublished, hready⟩
    | continued m' focus hactive =>
      obtain rfl := Option.some.inj hm
      exact .inr ⟨hshows, ih m' hactive⟩
    | revised m' p hactive _ _ hpublished _ hchanged =>
      obtain rfl := Option.some.inj hm
      by_cases hroute : RouteChanged p m'
      · exact .inl ⟨⟨_, rfl, rfl⟩, (hchanged hroute).1, hpublished, (hchanged hroute).2⟩
      · rw [route_revised hroute] at hshows ⊢
        exact .inr ⟨hshows, ih m' hactive⟩
    | completed => cases hm
    | abandoned => cases hm

/-- The maneuver of that id ended: it was completed with all of its facts true, or abandoned while the robot observed. -/
def Ends (id : String) (e : CommitmentEntry R) : Prop :=
  (∃ m : ActiveManeuver, m.commitmentId = id ∧ m.successFactKeys ≠ [] ∧
    (∀ key ∈ m.successFactKeys, factHolds e.1.2.factValues m.targetHypothesisId key = .ok true) ∧
    (e.1.2.action = .observe ∨ e.1.2.action = .finish) ∧
    e.2 = .ok { active := none, lastTerminal := some ⟨.complete, id, e.1.2.turn, true, none⟩ }) ∨
  ∃ reason, e.1.2.action = .observe ∧
    e.2 = .ok { active := none, lastTerminal := some ⟨.abandon, id, e.1.2.turn, false, reason⟩ }

/-- The maneuver goes on: of the same id and start, never at an older revision. -/
structure GoesOn (m₀ m : ActiveManeuver) : Prop where
  id : m.commitmentId = m₀.commitmentId
  started : m.startedTurn = m₀.startedTurn
  revision : m₀.revision ≤ m.revision
  authored : m.successFactKeys ≠ []

def doorProposal (transition : String) (focus reason : PyValue Int) : PyValue Int :=
  .dict [("id", .str "detour"), ("revision", .int 1), ("transition", .str transition), ("objective", .str "pass the door"),
    ("target_hypothesis_id", .str "door"), ("detour_side", .str "LEFT_OF_GOAL"),
    ("success_fact_keys", .list [.str "GOAL_CORRIDOR_CLEAR"]), ("current_focus_fact_key", focus), ("revision_reason", reason)]

def doorCall : ManeuverCall Int where
  action := .observe
  turn := 3
  published := ["door"]
  scanReady id := id = "door"
  factValues := []

def doorManeuver : ActiveManeuver := ⟨"detour", 1, "pass the door", "door", .leftOfGoal, [.goalCorridorClear], some .goalCorridorClear, 3, 3⟩

theorem door_run : (commitmentMachine Int).Runs Machine.always {}
    [((doorProposal "START" (.str "GOAL_CORRIDOR_CLEAR") .none, doorCall), .ok { active := some doorManeuver })]
    { active := some doorManeuver } := .cons .nil trivial

theorem active_authorised_door : Since (Shows (route doorManeuver)) (Authorises (route doorManeuver))
    [((doorProposal "START" (.str "GOAL_CORRIDOR_CLEAR") .none, doorCall), .ok { active := some doorManeuver })] :=
  active_authorised _ _ door_run doorManeuver rfl

end RobotLlm.Physical
