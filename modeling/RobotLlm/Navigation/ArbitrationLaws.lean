import Mathlib.Algebra.Order.Field.Rat
import Mathlib.Algebra.Order.Ring.Int
import Mathlib.Tactic.GCongr
import Mathlib.Tactic.Positivity
import Mathlib.Tactic.Ring
import RobotLlm.Navigation.SupervisorLaws

/-!
# What a decision issues

A decision comes to one plan for a pulse, whatever identifier the pulse gets:
a STOP, or the advance or turn of one of the valid proposals. The clearance of
an advance is checked at the speed asked for; the wheels run at the next whole
degree per second, and may run into the reserve by the difference.
-/

namespace RobotLlm.Navigation

open RobotLlm.Lib Prog

namespace MotionSupervisor

variable {m : MotionSupervisor} {s s' : State} {snapshot : NavigationSnapshot} {valid : List StampedProposal}

-- Plans

/-- A pulse but for its identifier and what it takes from the snapshot. -/
structure PulsePlan where
  kind : PulseKind
  left : Int := 0
  right : Int := 0
  durationMs : Int := 0
  reasonCode : String
  proposalId : Option String := none

def planned (m : MotionSupervisor) (snapshot : NavigationSnapshot) (plan : PulsePlan) (decisionId : String) :
    DrivePulse :=
  m.pulseFor decisionId snapshot plan.kind plan.left plan.right plan.durationMs plan.reasonCode plan.proposalId

/-- Build the pulse under a fresh identifier and authorize it. -/
def issue (m : MotionSupervisor) (fresh : Except NavigationContractError String) (snapshot : NavigationSnapshot)
    (plan : PulsePlan) : Call DrivePulse := do
  let id ← Prog.ofExcept (decisionId fresh)
  let pulse ← Prog.ofExcept (DrivePulse.new (m.planned snapshot plan id))
  authorizePulse pulse

theorem stop_issue (fresh : Except NavigationContractError String) (reason : String) (proposalId : Option String) :
    m.stop fresh snapshot reason proposalId = m.issue fresh snapshot ⟨.stop, 0, 0, 0, reason, proposalId⟩ := rfl

theorem drive_issue (fresh : Except NavigationContractError String) (left right duration : Int)
    (reason proposalId : String) :
    m.drive fresh snapshot left right duration reason proposalId =
      m.issue fresh snapshot ⟨.drive, left, right, duration, reason, some proposalId⟩ := rfl

theorem issue_planned (fresh : Except NavigationContractError String) (plan : PulsePlan) :
    Returns (fun p => ∃ id, p = m.planned snapshot plan id) (m.issue fresh snapshot plan) := by
  refine Returns.next fun id => ?_
  have hnew : Returns (fun p => ∃ id, p = m.planned snapshot plan id)
      (Prog.ofExcept (DrivePulse.new (m.planned snapshot plan id)) : Call DrivePulse) :=
    Returns.ofExcept fun p h => ⟨id, (DrivePulse.new_ok h).1⟩
  exact Returns.bind hnew fun p hp => Returns.next fun _ => Returns.pure hp

-- The advance

def advanceSpeed (m : MotionSupervisor) (segment : AdvanceSegment) : Int :=
  min segment.speedMmS m.policy.maxLinearSpeedMmS

def advanceDuration (m : MotionSupervisor) (segment : AdvanceSegment) : Int :=
  min m.policy.maxPulseMs (max 1 (ceilDiv (segment.distanceMm * 1000) (m.advanceSpeed segment)))

def plannedDistance (m : MotionSupervisor) (segment : AdvanceSegment) : Int :=
  ceilDiv (m.advanceSpeed segment * m.advanceDuration segment) 1000

def advanceWheel (m : MotionSupervisor) (segment : AdvanceSegment) : Int :=
  min (max 1 (ceilDiv (m.advanceSpeed segment * m.geometry.1) 1000)) m.profile.maxWheelSpeedDps

def advancePlan (m : MotionSupervisor) (proposal : PlannerProposal) (segment : AdvanceSegment) : PulsePlan where
  kind := .drive
  left := m.advanceWheel segment * m.profile.leftMotorSign
  right := m.advanceWheel segment * m.profile.rightMotorSign
  durationMs := m.advanceDuration segment
  reasonCode := "authorized_advance"
  proposalId := some proposal.proposalId

inductive Decided (m : MotionSupervisor) (snapshot : NavigationSnapshot) (valid : List StampedProposal) :
    PulsePlan → Prop where
  | stop {reason : String} {proposalId : Option String} (hreason : reason ≠ "authorized_advance") :
    Decided m snapshot valid ⟨.stop, 0, 0, 0, reason, proposalId⟩
  | advance {value : StampedProposal} {segment : AdvanceSegment} {forwardMm : Int} (hmem : value ∈ valid)
      (hdecision : value.proposal.decision = .nextSegment (.advance segment))
      (hcleared : snapshot.clearance.positivelyCleared = some forwardMm)
      (hreserve : m.policy.forwardReserveMm + m.plannedDistance segment ≤ forwardMm) :
    Decided m snapshot valid (m.advancePlan value.proposal segment)
  | turn {value : StampedProposal} {left right durationMs : Int} (hmem : value ∈ valid) :
    Decided m snapshot valid ⟨.drive, left, right, durationMs, "authorized_turn", some value.proposal.proposalId⟩

theorem selected_mem (h : selected valid = some v) : v ∈ valid := by
  cases valid with
  | nil => cases h
  | cons w rest =>
    cases h
    have hfold : ∀ (values : List StampedProposal) (best : StampedProposal),
        values.foldl (fun best w => if precedes w best then w else best) best ∈ best :: values := by
      intro values
      induction values with
      | nil => simp
      | cons x values ih =>
        intro best
        rw [List.foldl_cons]
        split
        · exact List.mem_cons_of_mem _ (ih x)
        · rcases List.mem_cons.mp (ih best) with h | h
          · simp [h]
          · exact List.mem_cons_of_mem _ (List.mem_cons_of_mem _ h)
    exact hfold rest w

theorem highest_subset (key : StampedProposal → Int) : highest key valid ⊆ valid := List.filter_subset_self _

theorem stated_reason (hold : String) (hh : hold = "hold_" ∨ hold = "abort_") (text : String) :
    hold ++ text ≠ "authorized_advance" := by
  intro h
  have hchars := congrArg String.toList h
  rw [String.toList_append] at hchars
  rcases hh with rfl | rfl <;> simp at hchars

theorem arbitrate_issues (m : MotionSupervisor) (snapshot : NavigationSnapshot) (valid : List StampedProposal) :
    ∃ plan, m.Decided snapshot valid plan ∧ ∀ fresh, m.arbitrate fresh snapshot valid = m.issue fresh snapshot plan := by
  unfold arbitrate
  dsimp only
  split
  · exact ⟨_, .stop (by decide), fun _ => stop_issue ..⟩
  next value hvalue =>
    have hmem : value ∈ valid := highest_subset _ (highest_subset _ (selected_mem hvalue))
    split
    · exact ⟨_, .stop (by decide), fun _ => stop_issue ..⟩
    split
    · exact ⟨_, .stop (stated_reason _ (.inl rfl) _), fun _ => stop_issue ..⟩
    · exact ⟨_, .stop (stated_reason _ (.inr rfl) _), fun _ => stop_issue ..⟩
    next segment hsegment =>
      unfold authorizeAdvance
      split
      · exact ⟨_, .stop (by decide), fun _ => stop_issue ..⟩
      next forwardMm hcleared =>
        dsimp only
        split
        · exact ⟨_, .stop (by decide), fun _ => stop_issue ..⟩
        next henough =>
          exact ⟨_, .advance hmem hsegment hcleared (Int.not_lt.mp henough), fun _ => drive_issue ..⟩
    · exact ⟨_, .turn hmem, fun _ => drive_issue ..⟩

-- The decision

/-- The state and the valid proposals a batch leaves. -/
def filtered (m : MotionSupervisor) (snapshot : NavigationSnapshot) (goal : WaypointGoal) (now : Int)
    (proposals : List StampedProposal) (s : State) : State × List StampedProposal :=
  proposals.foldl (m.consumeOne proposals s.sourceHighWater snapshot goal now) (s, [])

/-- The state in which a goal's proposals are filtered. -/
def begun (goal : WaypointGoal) (s : State) : State := (startGoal goal s).2

@[simp] theorem begun_sourceHighWater (goal : WaypointGoal) (s : State) :
    (begun goal s).sourceHighWater = s.sourceHighWater := by
  simp only [begun, startGoal, modify_run]
  split <;> rfl

/-- A decision fails with its clock, stops without a look at the proposals,
or arbitrates among those it filters. -/
inductive Course (m : MotionSupervisor) (clock : Except NavigationContractError Int)
    (snapshot : NavigationSnapshot) (goal : WaypointGoal) (s : State) : Prop where
  | fails (error : NavigationContractError)
      (h : ∀ fresh proposals, m.decide clock fresh snapshot goal proposals s = (.error error, s))
  | stops (reason : String) (s₁ : State) (hreason : reason ≠ "authorized_advance")
      (hhigh : s₁.sourceHighWater = s.sourceHighWater)
      (h : ∀ fresh proposals, m.decide clock fresh snapshot goal proposals s =
        m.issue fresh snapshot ⟨.stop, 0, 0, 0, reason, none⟩ s₁)
  | arbitrates (now : Int) (hnow : nowMs clock = .ok now)
      (h : ∀ fresh proposals, m.decide clock fresh snapshot goal proposals s =
        m.arbitrate fresh snapshot (m.filtered snapshot goal now proposals (begun goal s)).2
          (m.filtered snapshot goal now proposals (begun goal s)).1)

theorem decide_course (m : MotionSupervisor) (clock : Except NavigationContractError Int)
    (snapshot : NavigationSnapshot) (goal : WaypointGoal) (s : State) : m.Course clock snapshot goal s := by
  cases hnow : nowMs clock with
  | error error => exact .fails error fun _ _ => by simp only [decide, hnow, bind_run, ofExcept_run]
  | ok now =>
    by_cases hexpects : m.Expects snapshot
    case neg =>
      exact .stops "controller_identity_mismatch" s (by decide) rfl fun _ _ => by
        simp only [decide, hnow, bind_run, ofExcept_run, hexpects, not_false_eq_true, if_true, stop_issue]
    by_cases hhazard : snapshot.Hazard
    case pos =>
      exact .stops "emergency_stop_latched" (latch snapshot s).2 (by decide) rfl fun _ _ => by
        simp only [decide, hnow, bind_run, ofExcept_run, hexpects, hhazard, not_true, if_false, if_true]
        rfl
    cases hstale : m.freshSnapshot snapshot now with
    | some reason =>
      have hreason : reason ≠ "authorized_advance" := by
        unfold freshSnapshot at hstale
        split at hstale
        · cases hstale; decide
        split at hstale
        · cases hstale; decide
        split at hstale
        · cases hstale; decide
        · cases hstale
      exact .stops reason s hreason rfl fun _ _ => by
        simp only [decide, hnow, bind_run, ofExcept_run, hexpects, hhazard, not_true, if_false, hstale, stop_issue]
    | none =>
      by_cases hbound : snapshot.boundTo goal
      case neg =>
        exact .stops "goal_binding_mismatch" s (by decide) rfl fun _ _ => by
          simp only [decide, hnow, bind_run, ofExcept_run, hexpects, hhazard, not_true, if_false, hstale, hbound,
            not_false_eq_true, if_true, stop_issue]
      by_cases hold : s.activeGoalEpoch.any (goal.goalEpoch < ·) = true
      case pos =>
        exact .stops "stale_goal_epoch" s (by decide) rfl fun _ _ => by
          simp only [decide, hnow, bind_run, ofExcept_run, hexpects, hhazard, not_true, if_false, hstale, hbound,
            get_run, hold, if_true, stop_issue]
      have hstart : startGoal goal s = (.ok (), begun goal s) := rfl
      by_cases hlatched : (begun goal s).emergencyLatched = true
      · exact .stops "emergency_stop_latched" (begun goal s) (by decide) (begun_sourceHighWater goal s) fun _ _ => by
          simp only [decide, hnow, bind_run, ofExcept_run, hexpects, hhazard, not_true, if_false, hstale, hbound,
            get_run, hold, Bool.false_eq_true, hstart, hlatched, if_true, stop_issue]
      · refine .arbitrates now hnow fun fresh proposals => ?_
        simp only [decide, hnow, bind_run, ofExcept_run, hexpects, hhazard, not_true, if_false, hstale, hbound,
          get_run, hold, Bool.false_eq_true, hstart, hlatched]
        rfl

-- The reserve

theorem ceilDiv_le_iff {a b k : Int} (hb : 0 < b) : ceilDiv a b ≤ k ↔ a ≤ k * b := by
  unfold ceilDiv
  rw [neg_le, Int.le_ediv_iff_mul_le hb, Int.neg_mul, neg_le_neg_iff]

theorem le_ceilDiv_mul {a b : Int} (hb : 0 < b) : a ≤ ceilDiv a b * b := (ceilDiv_le_iff hb).mp (Int.le_refl _)

/-- The distance `wheel` covers in the pulse's time, as an exact number of
millimetres. -/
def travelMm (m : MotionSupervisor) (wheel durationMs : Int) : Rat := |wheel| * durationMs / m.geometry.1

/-- The pulse leaves the reserve of the clearance alone, within the limits of
the wheels and of the policy. -/
structure KeepsReserve (m : MotionSupervisor) (snapshot : NavigationSnapshot) (pulse : DrivePulse) : Prop where
  travel : ∀ wheel ∈ [pulse.leftSpeedDps, pulse.rightSpeedDps], ∃ forwardMm ∈ snapshot.clearance.forwardMm,
    m.travelMm wheel pulse.durationMs + m.policy.forwardReserveMm ≤ forwardMm
  wheels : |pulse.leftSpeedDps| ≤ m.profile.maxWheelSpeedDps ∧ |pulse.rightSpeedDps| ≤ m.profile.maxWheelSpeedDps
  duration : pulse.durationMs ≤ m.policy.maxPulseMs

/-- The wheels' limit is below the speed asked for, or the clearance beyond
the reserve has room for the pulse at the next whole wheel speed. -/
def RoundingFits (m : MotionSupervisor) (segment : AdvanceSegment) (forwardMm : Int) : Prop :=
  m.profile.maxWheelSpeedDps * 1000 ≤ m.advanceSpeed segment * m.geometry.1 ∨
    ceilDiv (m.advanceSpeed segment * m.geometry.1) 1000 * m.advanceDuration segment ≤
      (forwardMm - m.policy.forwardReserveMm) * m.geometry.1

theorem encoder_pos (m : MotionSupervisor) : 0 < m.geometry.1 := by
  have hcomplete := m.complete
  unfold DriveCalibrationProfile.requireCompleteGeometry at hcomplete
  split at hcomplete
  next mm degree hmm _ =>
    injection hcomplete with hcomplete
    rw [← hcomplete]
    exact (m.profile.perMmOk mm hmm).1
  · cases hcomplete

theorem advanceSpeed_pos (m : MotionSupervisor) (segment : AdvanceSegment) : 0 < m.advanceSpeed segment :=
  lt_min segment.speedOk.1 m.policy.linearSpeedOk.1

theorem advanceDuration_pos (m : MotionSupervisor) (segment : AdvanceSegment) : 0 < m.advanceDuration segment :=
  lt_min m.policy.pulseOk.1 (lt_max_of_lt_left Int.one_pos)

theorem advanceWheel_eq (m : MotionSupervisor) (segment : AdvanceSegment) :
    m.advanceWheel segment =
      min (ceilDiv (m.advanceSpeed segment * m.geometry.1) 1000) m.profile.maxWheelSpeedDps := by
  have hpos : 0 < m.advanceSpeed segment * m.geometry.1 := Int.mul_pos (advanceSpeed_pos m segment) (encoder_pos m)
  have hone : ¬ ceilDiv (m.advanceSpeed segment * m.geometry.1) 1000 ≤ 0 := by
    rw [ceilDiv_le_iff (by decide)]
    omega
  unfold advanceWheel
  rw [max_eq_right (by omega)]

theorem advanceWheel_pos (m : MotionSupervisor) (segment : AdvanceSegment) : 0 < m.advanceWheel segment :=
  lt_min (lt_max_of_lt_left Int.one_pos) m.profile.maxWheelSpeedOk.1

theorem wheel_fits_iff {segment : AdvanceSegment} {forwardMm : Int}
    (hclear : m.policy.forwardReserveMm + m.plannedDistance segment ≤ forwardMm) :
    m.advanceWheel segment * m.advanceDuration segment ≤ (forwardMm - m.policy.forwardReserveMm) * m.geometry.1 ↔
      m.RoundingFits segment forwardMm := by
  have henc := encoder_pos m
  have hduration := advanceDuration_pos m segment
  rw [advanceWheel_eq]
  unfold RoundingFits
  constructor
  · intro hfits
    by_cases hlimit : m.profile.maxWheelSpeedDps * 1000 ≤ m.advanceSpeed segment * m.geometry.1
    · exact .inl hlimit
    · have hle : ceilDiv (m.advanceSpeed segment * m.geometry.1) 1000 ≤ m.profile.maxWheelSpeedDps :=
        (ceilDiv_le_iff (by decide)).mpr (by omega)
      rw [min_eq_left hle] at hfits
      exact .inr hfits
  · rintro (hlimit | hfits)
    · -- the limited wheels are no faster than the speed whose distance was checked
      have hplanned : m.advanceSpeed segment * m.advanceDuration segment ≤ m.plannedDistance segment * 1000 :=
        le_ceilDiv_mul (by decide)
      have hwheel : m.profile.maxWheelSpeedDps * m.advanceDuration segment * 1000 ≤
          (forwardMm - m.policy.forwardReserveMm) * m.geometry.1 * 1000 :=
        calc m.profile.maxWheelSpeedDps * m.advanceDuration segment * 1000
            = m.profile.maxWheelSpeedDps * 1000 * m.advanceDuration segment := by ring
          _ ≤ m.advanceSpeed segment * m.geometry.1 * m.advanceDuration segment := by gcongr
          _ = m.advanceSpeed segment * m.advanceDuration segment * m.geometry.1 := by ring
          _ ≤ m.plannedDistance segment * 1000 * m.geometry.1 := by gcongr
          _ ≤ (forwardMm - m.policy.forwardReserveMm) * 1000 * m.geometry.1 := by gcongr; omega
          _ = (forwardMm - m.policy.forwardReserveMm) * m.geometry.1 * 1000 := by ring
      have hmin : min (ceilDiv (m.advanceSpeed segment * m.geometry.1) 1000) m.profile.maxWheelSpeedDps *
          m.advanceDuration segment ≤ m.profile.maxWheelSpeedDps * m.advanceDuration segment := by
        gcongr
        exact min_le_right _ _
      exact hmin.trans (le_of_mul_le_mul_right hwheel (by decide))
    · refine Int.le_trans ?_ hfits
      gcongr
      exact min_le_left _ _

theorem abs_signed {wheel sign : Int} (hw : 0 < wheel) (hs : sign = -1 ∨ sign = 1) : |wheel * sign| = wheel := by
  rcases hs with rfl | rfl
  · rw [Int.mul_neg_one, abs_neg, abs_of_pos hw]
  · rw [Int.mul_one, abs_of_pos hw]

theorem positivelyCleared_some {evidence : ClearanceEvidence} {forwardMm : Int}
    (h : evidence.positivelyCleared = some forwardMm) : evidence.forwardMm = some forwardMm := by
  unfold ClearanceEvidence.positivelyCleared at h
  split at h
  · exact h
  · cases h

theorem travel_le_iff {wheel duration forwardMm : Int} :
    m.travelMm wheel duration + m.policy.forwardReserveMm ≤ (forwardMm : Rat) ↔
      |wheel| * duration ≤ (forwardMm - m.policy.forwardReserveMm) * m.geometry.1 := by
  have henc : (0 : Rat) < m.geometry.1 := by exact_mod_cast encoder_pos m
  unfold travelMm
  rw [← le_sub_iff_add_le, div_le_iff₀ henc]
  exact_mod_cast Iff.rfl

theorem advance_keepsReserve_iff {proposal : PlannerProposal} {segment : AdvanceSegment} {forwardMm : Int}
    (hcleared : snapshot.clearance.positivelyCleared = some forwardMm)
    (hreserve : m.policy.forwardReserveMm + m.plannedDistance segment ≤ forwardMm) (id : String) :
    m.KeepsReserve snapshot (m.planned snapshot (m.advancePlan proposal segment) id) ↔
      m.RoundingFits segment forwardMm := by
  have hleft := abs_signed (advanceWheel_pos m segment) m.profile.leftMotorSignOk
  have hright := abs_signed (advanceWheel_pos m segment) m.profile.rightMotorSignOk
  have hforward := positivelyCleared_some hcleared
  have hlimit : m.advanceWheel segment ≤ m.profile.maxWheelSpeedDps := min_le_right _ _
  rw [← wheel_fits_iff hreserve]
  constructor
  · intro hkeeps
    obtain ⟨forwardMm', hmem, htravel⟩ := hkeeps.travel _ (List.mem_cons_self)
    rw [hforward] at hmem
    cases hmem
    have hfits := travel_le_iff.mp htravel
    exact hleft ▸ hfits
  · intro hfits
    refine ⟨fun wheel hwheel => ⟨forwardMm, hforward, travel_le_iff.mpr ?_⟩, ⟨?_, ?_⟩, min_le_left _ _⟩
    · have habs : |wheel| = m.advanceWheel segment := by
        rcases List.mem_cons.mp hwheel with rfl | hwheel
        · exact hleft
        · rw [List.mem_singleton.mp hwheel]
          exact hright
      rw [habs]
      exact hfits
    · exact hleft.le.trans hlimit
    · exact hright.le.trans hlimit

theorem filtered_subset {now : Int} {proposals : List StampedProposal} :
    (m.filtered snapshot goal now proposals s).2 ⊆ proposals := by
  have hfold : ∀ (values : List StampedProposal) (acc : State × List StampedProposal),
      (values.foldl (m.consumeOne proposals s.sourceHighWater snapshot goal now) acc).2 ⊆ acc.2 ++ values := by
    intro values
    induction values with
    | nil => intro acc; simp
    | cons value values ih =>
      intro acc v hv
      have hone : (m.consumeOne proposals s.sourceHighWater snapshot goal now acc value).2 ⊆ acc.2 ++ [value] := by
        unfold consumeOne
        dsimp only
        split
        · exact List.subset_append_left _ _
        · exact List.Subset.refl _
      rcases List.mem_append.mp (ih _ hv) with h | h
      · have := hone h
        simp only [List.mem_append, List.mem_cons, List.not_mem_nil, or_false] at this ⊢
        tauto
      · simp [h]
  exact hfold proposals (s, [])

/-- 1850 encoder millidegrees a millimetre: 50 mm/s are 92.5 degrees a second. -/
def oddSupervisor : MotionSupervisor :=
  { sampleSupervisor with
    profile := { sampleProfile with encoderMdegPerMm := some 1850, perMmOk := by decide }
    geometry := (1850, 5000)
    simulationOnly := by decide
    complete := by rfl
    withinCalibration := by decide }

/-- Free for exactly the reserve and the six millimetres of a pulse. -/
def tightSnapshot : NavigationSnapshot :=
  { sampleClear with
    clearance := sampleClearance 76 (by decide)
    safetyBeforeCapture := by decide }

def tightAdvance : StampedProposal :=
  { sampleHold with
    proposal := sampleAdvancing { distanceMm := 100, speedMmS := 50 } 1 sampleGoal.planRevisionOk }

theorem tight_pulse : ∃ pulse s', oddSupervisor.decide (.ok 960) (.ok "decision-1") tightSnapshot sampleGoal
      [tightAdvance] { authority := sampleAuthority 4 8 } = (.ok pulse, s') ∧
    pulse.reasonCode = "authorized_advance" ∧ pulse.leftSpeedDps = 93 ∧ pulse.durationMs = 120 := by
  have hadvance : ((oddSupervisor.decide (.ok 960) (.ok "decision-1") tightSnapshot sampleGoal
      [tightAdvance] { authority := sampleAuthority 4 8 }).1.toOption.any fun pulse =>
        (pulse.reasonCode = "authorized_advance" ∧ pulse.leftSpeedDps = 93 ∧ pulse.durationMs = 120 : Bool)) = true := by
    decide +kernel
  rcases hrun : oddSupervisor.decide (.ok 960) (.ok "decision-1") tightSnapshot sampleGoal [tightAdvance]
    { authority := sampleAuthority 4 8 } with ⟨error | pulse, s'⟩ <;> rw [hrun] at hadvance
  · cases hadvance
  · exact ⟨pulse, s', rfl, of_decide_eq_true hadvance⟩

end MotionSupervisor

end RobotLlm.Navigation
