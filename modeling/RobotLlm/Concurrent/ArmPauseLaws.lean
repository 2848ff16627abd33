import RobotLlm.Concurrent.ArmPause

/-!
# No drive while the arm moves

The worker clears the acknowledgement before it clears the release. A
navigation thread that still saw the last gesture's request can acknowledge in
between and go on at once, since the flag it waits for is still set; its
acknowledgement is then taken for the next gesture's. In a run without that
step, the arm holds navigation from its first segment to its release.
-/

namespace RobotLlm.Concurrent

open RobotLlm.Lib RobotLlm.Navigation

-- What a run shows

abbrev PauseEntry := PauseStep × PauseEvent

def StartsSegment : PauseEntry → Prop
  | (_, .segmentStarted _) => True
  | _ => False

/-- A gesture has started a segment and not released navigation since. -/
def GestureOpen (h : List PauseEntry) : Prop := Since (·.2 ≠ .pauseReleased) StartsSegment h

def DriveOpen (h : List PauseEntry) : Prop := Since (·.2 ≠ .driveEnded) (·.2 = .driveBegun) h

instance : DecidablePred StartsSegment := fun e => by unfold StartsSegment; split <;> infer_instance

instance : Decidable (GestureOpen h) := inferInstanceAs (Decidable (Since _ _ _))

instance : Decidable (DriveOpen h) := inferInstanceAs (Decidable (Since _ _ _))

/-- The worker has cleared the acknowledgement and not yet the release. -/
def ArmPc.BetweenClears : ArmPc → Prop
  | .clearReleased _ => True
  | _ => False

/-- Navigation is about to return from its wait on the release of the gesture
before, with an acknowledgement that the worker will take for the next one's. -/
def StaleRelease (s : PauseState) : Prop :=
  s.navigation = .awaitReleased ∧ s.arm.BetweenClears ∧ s.acknowledged = true ∧
    s.released = true ∧ s.cancelled = false

/-- Navigation does not step while its release is stale. -/
def Timely (s : PauseState) : PauseStep → Prop
  | .navigation _ => ¬ StaleRelease s
  | _ => True

instance (pc : ArmPc) : Decidable pc.BetweenClears := by unfold ArmPc.BetweenClears; split <;> infer_instance

instance (s : PauseState) : Decidable (StaleRelease s) := inferInstanceAs (Decidable (_ ∧ _ ∧ _ ∧ _ ∧ _))

instance (s : PauseState) : (i : PauseStep) → Decidable (Timely s i)
  | .navigation _ => inferInstanceAs (Decidable (¬ _))
  | .arm _ | .cancelEvent | .cancelAcknowledge | .cancelRelease => .isTrue trivial

-- Where the threads stand

def NavigationPc.Parked : NavigationPc → Prop
  | .awaitReleased | .blocked | .timedOut => True
  | _ => False

/-- Navigation checks the cancel event before it drives again. -/
def NavigationPc.Leaving : NavigationPc → Prop
  | .awaitReleased | .blocked | .timedOut | .timedOutAcknowledge | .timedOutRelease | .hooked _ | .finish | .close
  | .closeAcknowledge | .closeRelease | .ended => True
  | _ => False

/-- The worker has cleared the acknowledgement and waits for the next. -/
def ArmPc.Asking : ArmPc → Prop
  | .clearReleased _ | .setRequested _ | .awaitAcknowledged _ | .blocked _ => True
  | _ => False

def ArmPc.Acknowledged : ArmPc → Prop
  | .acknowledged _ => True
  | _ => False

def ArmPc.Holding : ArmPc → Prop
  | .revalidate _ | .segment _ | .startSegment _ | .moving _ | .segmentDone _ | .complete _ => True
  | .ended held => held = true
  | _ => False

/-- The worker has cleared the release and not set it again. -/
def ArmPc.Cleared : ArmPc → Prop
  | .setRequested _ | .awaitAcknowledged _ | .blocked _ | .acknowledged _ | .revalidate _ | .segment _
  | .startSegment _ | .moving _ | .segmentDone _ | .complete _ | .setReleased _ => True
  | .ended held => held = true
  | _ => False

def ArmPc.InGesture (pc : ArmPc) : Prop := pc.Holding ∨ ∃ next, pc = .setReleased next

/-- Navigation is held: at its wait, or cancelled on its way out. -/
def Held (s : PauseState) : Prop := s.navigation.Parked ∨ s.cancelled = true ∧ s.navigation.Leaving

structure Guarded (s : PauseState) : Prop where
  asking : s.arm.Asking → s.acknowledged = true → s.cancelled = true ∨ s.navigation.Parked
  acknowledged : s.arm.Acknowledged → s.cancelled = true ∨ s.navigation.Parked
  holding : s.arm.Holding → Held s
  cleared : s.arm.Cleared → s.cancelled = true ∨ s.released = false
  cancelling : s.navigation = .timedOutAcknowledge ∨ s.navigation = .timedOutRelease ∨
    s.navigation = .closeAcknowledge ∨ s.navigation = .closeRelease → s.cancelled = true

section
variable {s : PauseState} {r : NavigationReading} {pc : NavigationPc}

theorem NavigationPc.Parked.leaving (hp : pc.Parked) : pc.Leaving := by
  cases pc <;> simp_all [NavigationPc.Parked, NavigationPc.Leaving]

theorem ArmPc.Holding.cleared {pc : ArmPc} (hh : pc.Holding) : pc.Cleared := by
  cases pc <;> simp_all [ArmPc.Holding, ArmPc.Cleared]

theorem ArmPc.InGesture.cleared {pc : ArmPc} (hg : pc.InGesture) : pc.Cleared := by
  obtain hh | ⟨_, rfl⟩ := hg
  · exact hh.cleared
  · trivial

theorem acknowledge_arm (s : PauseState) :
    (s.acknowledge.arm.Cleared ↔ s.arm.Cleared) ∧ (s.acknowledge.arm.Holding ↔ s.arm.Holding) ∧
      (s.acknowledge.arm.InGesture ↔ s.arm.InGesture) := by
  obtain ⟨_, _, _, _, pc, _, _⟩ := s
  cases pc <;> simp [PauseState.acknowledge, ArmPc.Cleared, ArmPc.Holding, ArmPc.InGesture]

-- A navigation step

theorem Guarded.of_parked (hp : s.navigation.Parked) (hc : s.arm.Cleared → s.cancelled = true ∨ s.released = false) :
    Guarded s where
  asking _ _ := .inr hp
  acknowledged _ := .inr hp
  holding _ := .inl hp
  cleared := hc
  cancelling h := by obtain h | h | h | h := h <;> simp [h, NavigationPc.Parked] at hp

theorem Guarded.of_cancelled (hc : s.cancelled = true) (hh : s.arm.Holding → s.navigation.Leaving) : Guarded s where
  asking _ _ := .inl hc
  acknowledged _ := .inl hc
  holding h := .inr ⟨hc, hh h⟩
  cleared _ := .inl hc
  cancelling _ := hc

theorem Guarded.move (hi : Guarded s) (hp : ¬ s.navigation.Parked)
    (hl : s.cancelled = true → s.navigation.Leaving → pc.Leaving)
    (hc : pc ≠ .timedOutAcknowledge ∧ pc ≠ .timedOutRelease ∧ pc ≠ .closeAcknowledge ∧ pc ≠ .closeRelease) :
    Guarded (s.navigationAt pc) where
  asking ha hk := (hi.asking ha hk).imp_right (absurd · hp)
  acknowledged ha := (hi.acknowledged ha).imp_right (absurd · hp)
  holding hh := (hi.holding hh).elim (absurd · hp) fun ⟨hc, hn⟩ => .inr ⟨hc, hl hc hn⟩
  cleared := hi.cleared
  cancelling h := by
    obtain ⟨h1, h2, h3, h4⟩ := hc
    obtain h | h | h | h := h <;> contradiction

theorem Guarded.passWait (hi : Guarded s) (ht : ¬ StaleRelease s) (hn : s.navigation = .awaitReleased)
    (hr : s.released = true) : Guarded (s.navigationAt (.hooked true)) := by
  cases hc : s.cancelled with
  | true => exact .of_cancelled hc fun _ => trivial
  | false =>
    have open' : ¬ s.arm.Cleared := fun h => by simpa [hc, hr] using hi.cleared h
    constructor
    case asking =>
      intro ha hk
      cases harm : s.arm with
      | clearReleased job => exact absurd ⟨hn, by rw [harm]; trivial, hk, hr, hc⟩ ht
      | setRequested | awaitAcknowledged | blocked => exact absurd (by rw [harm]; trivial) open'
      | _ => rw [show (s.navigationAt (.hooked true)).arm = s.arm from rfl, harm] at ha; exact ha.elim
    case acknowledged =>
      intro ha
      refine absurd ?_ open'
      revert ha
      show s.arm.Acknowledged → _
      cases s.arm <;> simp [ArmPc.Acknowledged, ArmPc.Cleared]
    case holding => exact fun hh => absurd (ArmPc.Holding.cleared hh) open'
    case cleared => exact hi.cleared
    case cancelling => simp [PauseState.navigationAt]

theorem Guarded.navigation (hi : Guarded s) (ht : ¬ StaleRelease s) : Guarded (navigationStep r s).2 := by
  unfold navigationStep
  cases hn : s.navigation with
  | setAcknowledged =>
    exact .of_parked trivial fun h => hi.cleared ((acknowledge_arm s).1.mp h)
  | awaitReleased =>
    dsimp only
    split
    · exact hi.passWait ht hn ‹_›
    · exact .of_parked trivial hi.cleared
  | blocked =>
    dsimp only
    split
    · exact .of_parked trivial hi.cleared
    · exact hi
  | timedOut => exact .of_cancelled rfl fun _ => trivial
  | close => exact .of_cancelled rfl fun _ => trivial
  | timedOutAcknowledge => exact .of_cancelled (hi.cancelling (.inl hn)) fun _ => trivial
  | timedOutRelease => exact .of_cancelled (hi.cancelling (.inr (.inl hn))) fun _ => trivial
  | closeAcknowledge => exact .of_cancelled (hi.cancelling (.inr (.inr (.inl hn)))) fun _ => trivial
  | closeRelease => exact .of_cancelled (hi.cancelling (.inr (.inr (.inr hn)))) fun _ => trivial
  | ended => exact hi
  | hooked refresh =>
    refine hi.move (by simp [hn, NavigationPc.Parked]) (fun hc _ => ?_) ?_
    · simp [hc, NavigationPc.Leaving]
    · split <;> simp
  | arbitrate refresh => 
    cases refresh with
    | true => exact hi.move (by simp [hn, NavigationPc.Parked]) (by simp [hn, NavigationPc.Leaving]) (by simp)
    | false => 
      dsimp only
      split <;> exact hi.move (by simp [hn, NavigationPc.Parked]) (by simp [hn, NavigationPc.Leaving]) (by simp)
  | finish => exact hi.move (by simp [hn, NavigationPc.Parked]) (fun _ _ => trivial) (by simp)
  | dispatch kind =>
    dsimp only
    split <;> exact hi.move (by simp [hn, NavigationPc.Parked]) (by simp [hn, NavigationPc.Leaving]) (by simp)
  | _ =>
    refine hi.move (by simp [hn, NavigationPc.Parked]) (by simp [hn, NavigationPc.Leaving]) ?_
    repeat' split
    all_goals simp

-- An arm step

theorem Guarded.idle {s' : PauseState} (hi : Guarded s) (hn : s'.navigation = s.navigation)
    (hc : s'.cancelled = s.cancelled) (h1 : ¬ s'.arm.Asking) (h2 : ¬ s'.arm.Acknowledged) (h3 : ¬ s'.arm.Cleared) :
    Guarded s' where
  asking h := absurd h h1
  acknowledged h := absurd h h2
  holding h := absurd h.cleared h3
  cleared h := absurd h h3
  cancelling := by rw [hn, hc]; exact hi.cancelling

theorem Guarded.further {s' : PauseState} (hi : Guarded s) (hh : Held s) (hcl : s.arm.Cleared)
    (hn : s'.navigation = s.navigation) (hc : s'.cancelled = s.cancelled) (hr : s'.released = s.released)
    (h1 : ¬ s'.arm.Asking) (h2 : ¬ s'.arm.Acknowledged) : Guarded s' where
  asking h := absurd h h1
  acknowledged h := absurd h h2
  holding _ := by rw [Held, hn, hc]; exact hh
  cleared _ := by rw [hc, hr]; exact hi.cleared hcl
  cancelling := by rw [hn, hc]; exact hi.cancelling

theorem Guarded.arm {p : RuntimePolicy} {r : ArmReading} (hi : Guarded s) : Guarded (armStep p r s).2 := by
  have holds : ∀ pc : ArmPc, s.arm = pc → pc.Holding → Held s ∧ s.arm.Cleared := by
    rintro pc rfl hh
    exact ⟨hi.holding hh, hh.cleared⟩
  unfold armStep
  cases ha : s.arm with
  | take => dsimp only; split <;> exact hi.idle rfl rfl id id (by simp [PauseState.armAt, ArmPc.Cleared])
  | taken job => dsimp only; split <;> exact hi.idle rfl rfl id id (by simp [PauseState.armAt, ArmPc.Cleared])
  | screen job =>
    dsimp only
    repeat' split
    all_goals exact hi.idle rfl rfl id id (by simp [PauseState.armAt, ArmPc.Cleared])
  | clearRequested next =>
    cases next <;> exact hi.idle rfl rfl id id (by simp [PauseState.armAt, ArmPc.Cleared])
  | clearAcknowledged job =>
    exact ⟨fun _ h => by simp [PauseState.armAt] at h, fun h => h.elim, fun h => h.elim, fun h => h.elim, hi.cancelling⟩
  | clearReleased job =>
    have hask := hi.asking (by rw [ha]; trivial)
    exact ⟨fun _ => hask, fun h => h.elim, fun h => h.elim, fun _ => .inr rfl, hi.cancelling⟩
  | setRequested job =>
    have hask := hi.asking (by rw [ha]; trivial)
    have hcl := hi.cleared (by rw [ha]; trivial)
    exact ⟨fun _ => hask, fun h => h.elim, fun h => h.elim, fun _ => hcl, hi.cancelling⟩
  | awaitAcknowledged job =>
    have hask := hi.asking (by rw [ha]; trivial)
    have hcl := hi.cleared (by rw [ha]; trivial)
    dsimp only
    split
    · exact ⟨fun h => h.elim, fun _ => hask ‹_›, fun h => h.elim, fun _ => hcl, hi.cancelling⟩
    · exact ⟨fun _ => hask, fun h => h.elim, fun h => h.elim, fun _ => hcl, hi.cancelling⟩
  | blocked job => exact hi
  | acknowledged job =>
    have hcl : s.arm.Cleared := by rw [ha]; trivial
    dsimp only
    split
    · exact ⟨fun h => h.elim, fun h => h.elim, fun h => h.elim, fun _ => hi.cleared hcl, hi.cancelling⟩
    · -- not cancelled: the acknowledgement is navigation's own
      have hp := (hi.acknowledged (by rw [ha]; trivial)).resolve_left ‹_›
      exact hi.further (.inl hp) hcl rfl rfl rfl id id
  | setReleased next =>
    refine ⟨fun h => h.elim, fun h => h.elim, fun h => h.elim, fun h => h.elim, fun h => hi.cancelling ?_⟩
    revert h
    simp only [PauseState.armAt, PauseState.release]
    cases s.navigation <;> simp
  | revalidate job =>
    obtain ⟨hh, hcl⟩ := holds _ ha trivial
    dsimp only
    repeat' split
    all_goals exact hi.further hh hcl rfl rfl rfl id id
  | segment left =>
    obtain ⟨hh, hcl⟩ := holds _ ha trivial
    cases left with
    | zero => exact hi.further hh hcl rfl rfl rfl id id
    | succ left => dsimp only; split <;> exact hi.further hh hcl rfl rfl rfl id id
  | startSegment left =>
    obtain ⟨hh, hcl⟩ := holds _ ha trivial
    exact hi.further hh hcl rfl rfl rfl id id
  | moving left =>
    obtain ⟨hh, hcl⟩ := holds _ ha trivial
    dsimp only
    split <;> exact hi.further hh hcl rfl rfl rfl id id
  | segmentDone left =>
    obtain ⟨hh, hcl⟩ := holds _ ha trivial
    dsimp only
    split <;> exact hi.further hh hcl rfl rfl rfl id id
  | complete next =>
    obtain ⟨hh, hcl⟩ := holds _ ha trivial
    dsimp only
    split <;> exact hi.further hh hcl rfl rfl rfl id id
  | ended held => exact hi

-- Cancelling, and every step

theorem leaving_release (hl : s.navigation.Leaving) : s.release.navigation.Leaving := by
  obtain ⟨_, _, _, _, _, _, pc⟩ := s
  cases pc <;> simp_all [PauseState.release, NavigationPc.Leaving]

theorem Held.leaving (hh : Held s) : s.navigation.Leaving := hh.elim (·.leaving) (·.2)

theorem Guarded.step {p : RuntimePolicy} {i : PauseStep} (hi : Guarded s) (ht : Timely s i) :
    Guarded ((armPause p).step s i).2 := by
  cases i with
  | arm r => exact hi.arm
  | navigation r => exact hi.navigation ht
  | cancelEvent => exact .of_cancelled rfl fun hh => (hi.holding hh).leaving
  | cancelAcknowledge =>
    dsimp only [armPause]
    split
    · rename_i hc
      exact .of_cancelled hc fun hh => (hi.holding ((acknowledge_arm s).2.1.mp hh)).leaving
    · exact hi
  | cancelRelease =>
    dsimp only [armPause]
    split
    · rename_i hc
      exact .of_cancelled hc fun hh => leaving_release (hi.holding hh).leaving
    · exact hi

theorem Held.navigation (hh : Held s) (hi : Guarded s) (hc : s.arm.Cleared) : Held (navigationStep r s).2 := by
  have hl := hh.leaving
  unfold navigationStep
  cases hn : s.navigation with
  | awaitReleased =>
    dsimp only
    split
    · rename_i hr
      exact .inr ⟨(hi.cleared hc).resolve_right (by simp [hr]), trivial⟩
    · exact .inl trivial
  | blocked =>
    dsimp only
    split
    · exact .inl trivial
    · exact .inl (by rw [hn]; trivial)
  | timedOut => exact .inr ⟨rfl, trivial⟩
  | close => exact .inr ⟨rfl, trivial⟩
  | timedOutAcknowledge => exact .inr ⟨hi.cancelling (.inl hn), trivial⟩
  | timedOutRelease => exact .inr ⟨hi.cancelling (.inr (.inl hn)), trivial⟩
  | closeAcknowledge => exact .inr ⟨hi.cancelling (.inr (.inr (.inl hn))), trivial⟩
  | closeRelease => exact .inr ⟨hi.cancelling (.inr (.inr (.inr hn))), trivial⟩
  | hooked refresh =>
    have hcancel : s.cancelled = true := by simpa [Held, hn, NavigationPc.Parked, NavigationPc.Leaving] using hh
    exact .inr ⟨hcancel, by simp [hcancel, PauseState.navigationAt, NavigationPc.Leaving]⟩
  | finish =>
    have hcancel : s.cancelled = true := by simpa [Held, hn, NavigationPc.Parked, NavigationPc.Leaving] using hh
    exact .inr ⟨hcancel, trivial⟩
  | ended => exact hh
  | _ => rw [hn] at hl; exact hl.elim

structure PauseInvariant (h : List PauseEntry) (s : PauseState) : Prop where
  guarded : Guarded s
  gesture : GestureOpen h → s.arm.InGesture ∧ Held s
  drive : DriveOpen h → s.navigation = .applying .drive

theorem navigationStep_event (r : NavigationReading) (s : PauseState) :
    ((navigationStep r s).1 = .quiet ∨
      (navigationStep r s).1 = .driveBegun ∧ (navigationStep r s).2.navigation = .applying .drive ∨
      (navigationStep r s).1 = .driveEnded) ∧
    (s.navigation = .applying .drive → (navigationStep r s).1 = .driveEnded) ∧
    ((navigationStep r s).2.arm = s.arm ∨ (navigationStep r s).2.arm = s.acknowledge.arm) := by
  unfold navigationStep
  cases hn : s.navigation with
  | dispatch kind =>
    dsimp only
    cases kind <;> split <;> simp [PauseState.navigationAt]
  | applying kind => cases kind <;> simp [PauseState.navigationAt]
  | arbitrate refresh => cases refresh <;> dsimp only <;> (try split) <;> simp [PauseState.navigationAt]
  | blocked => dsimp only; split <;> simp [PauseState.navigationAt]
  | _ => simp [PauseState.navigationAt, PauseState.release]

theorem PauseInvariant.navigation {h : List PauseEntry} (hi : PauseInvariant h s) (ht : ¬ StaleRelease s) :
    PauseInvariant ((.navigation r, (navigationStep r s).1) :: h) (navigationStep r s).2 := by
  obtain ⟨hevent, hending, harm⟩ := navigationStep_event r s
  refine ⟨hi.guarded.navigation ht, ?_, ?_⟩
  · rintro (hs | ⟨-, hg⟩)
    · obtain he | ⟨he, -⟩ | he := hevent <;> simp [StartsSegment, he] at hs
    · obtain ⟨hin, hh⟩ := hi.gesture hg
      refine ⟨?_, hh.navigation hi.guarded hin.cleared⟩
      obtain ha | ha := harm
      · rwa [ha]
      · rw [ha]
        exact (acknowledge_arm s).2.2.mpr hin
  · rintro (he | ⟨he, hd⟩)
    · obtain he' | ⟨-, hn⟩ | he' := hevent
      · simp [he'] at he
      · exact hn
      · simp [he'] at he
    · exact absurd (hending (hi.drive hd)) he

theorem armStep_event (p : RuntimePolicy) (r : ArmReading) (s : PauseState) :
    (∀ h, StartsSegment (h, (armStep p r s).1) → s.arm.Holding) ∧
    ((armStep p r s).1 = .pauseReleased ∨
      (s.arm.InGesture → (armStep p r s).2.arm.InGesture) ∧ (armStep p r s).2.navigation = s.navigation ∧
        (armStep p r s).2.cancelled = s.cancelled) ∧
    (armStep p r s).1 ≠ .driveBegun ∧ (armStep p r s).1 ≠ .driveEnded ∧
    (s.navigation = .applying .drive → (armStep p r s).2.navigation = .applying .drive) := by
  unfold armStep
  cases ha : s.arm with
  | setReleased next =>
    refine ⟨fun _ hs => hs.elim, .inl rfl, nofun, nofun, fun hn => ?_⟩
    simp [PauseState.armAt, PauseState.release, hn]
  | segment left =>
    cases left with
    | zero => exact ⟨fun _ hs => hs.elim, .inr ⟨fun _ => .inl trivial, rfl, rfl⟩, nofun, nofun, id⟩
    | succ left =>
      dsimp only
      split <;> exact ⟨fun _ hs => hs.elim, .inr ⟨fun _ => .inl trivial, rfl, rfl⟩, nofun, nofun, id⟩
  | startSegment left => exact ⟨fun _ _ => trivial, .inr ⟨fun _ => .inl trivial, rfl, rfl⟩, nofun, nofun, id⟩
  | revalidate job =>
    dsimp only
    repeat' split
    · exact ⟨fun _ hs => hs.elim, .inr ⟨fun _ => .inl rfl, rfl, rfl⟩, nofun, nofun, id⟩
    · exact ⟨fun _ hs => hs.elim, .inr ⟨fun _ => .inl trivial, rfl, rfl⟩, nofun, nofun, id⟩
    · exact ⟨fun _ hs => hs.elim, .inr ⟨fun _ => .inr ⟨_, rfl⟩, rfl, rfl⟩, nofun, nofun, id⟩
  | moving left =>
    dsimp only
    split <;> exact ⟨fun _ hs => hs.elim, .inr ⟨fun _ => .inl trivial, rfl, rfl⟩, nofun, nofun, id⟩
  | segmentDone left =>
    dsimp only
    split <;> exact ⟨fun _ hs => hs.elim, .inr ⟨fun _ => .inl trivial, rfl, rfl⟩, nofun, nofun, id⟩
  | complete next =>
    dsimp only
    split
    · exact ⟨fun _ hs => hs.elim, .inr ⟨fun _ => .inl rfl, rfl, rfl⟩, nofun, nofun, id⟩
    · exact ⟨fun _ hs => hs.elim, .inr ⟨fun _ => .inr ⟨_, rfl⟩, rfl, rfl⟩, nofun, nofun, id⟩
  | ended held => exact ⟨fun _ hs => hs.elim, .inr ⟨fun h => by rw [ha]; exact h, rfl, rfl⟩, nofun, nofun, id⟩
  | _ =>
    -- outside of a gesture
    dsimp only
    repeat' split
    all_goals
      refine ⟨fun _ hs => hs.elim, .inr ⟨fun h => ?_, rfl, rfl⟩, nofun, nofun, id⟩
      simp [ArmPc.InGesture, ArmPc.Holding] at h

theorem PauseInvariant.arm {p : RuntimePolicy} {r : ArmReading} {h : List PauseEntry} (hi : PauseInvariant h s) :
    PauseInvariant ((.arm r, (armStep p r s).1) :: h) (armStep p r s).2 := by
  obtain ⟨hstart, hmove, hb, he, hdrive⟩ := armStep_event p r s
  refine ⟨hi.guarded.arm, ?_, ?_⟩
  · have keeps : s.arm.InGesture ∧ Held s → (armStep p r s).1 ≠ .pauseReleased →
        (armStep p r s).2.arm.InGesture ∧ Held (armStep p r s).2 := by
      rintro ⟨hin, hh⟩ hne
      obtain ⟨hin', hn, hc⟩ := hmove.resolve_left hne
      refine ⟨hin' hin, ?_⟩
      rwa [Held, hn, hc]
    rintro (hs | ⟨hne, hg⟩)
    · have hhold := hstart _ hs
      refine keeps ⟨.inl hhold, hi.guarded.holding hhold⟩ fun he => ?_
      simp [StartsSegment, he] at hs
    · exact keeps (hi.gesture hg) hne
  · rintro (h | ⟨-, hd⟩)
    · exact absurd h hb
    · exact hdrive (hi.drive hd)

theorem PauseInvariant.cancelling {p : RuntimePolicy} {i : PauseStep} {h : List PauseEntry} (hi : PauseInvariant h s)
    (hc : i = .cancelEvent ∨ i = .cancelAcknowledge ∨ i = .cancelRelease) :
    PauseInvariant ((i, ((armPause p).step s i).1) :: h) ((armPause p).step s i).2 := by
  have ht : Timely s i := by obtain rfl | rfl | rfl := hc <;> trivial
  refine ⟨hi.guarded.step ht, ?_, ?_⟩
  · rintro (hs | ⟨-, hg⟩)
    · obtain rfl | rfl | rfl := hc <;> exact hs.elim
    · obtain ⟨hin, hh⟩ := hi.gesture hg
      obtain rfl | rfl | rfl := hc
      · exact ⟨hin, .inr ⟨rfl, hh.leaving⟩⟩
      · dsimp only [armPause]
        split
        · exact ⟨(acknowledge_arm s).2.2.mpr hin, hh⟩
        · exact ⟨hin, hh⟩
      · dsimp only [armPause]
        split
        · exact ⟨hin, .inr ⟨‹_›, leaving_release hh.leaving⟩⟩
        · exact ⟨hin, hh⟩
  · rintro (he | ⟨-, hd⟩)
    · obtain rfl | rfl | rfl := hc <;> cases he
    · have hn := hi.drive hd
      obtain rfl | rfl | rfl := hc
      · exact hn
      · dsimp only [armPause]
        split <;> exact hn
      · dsimp only [armPause]
        split <;> simp [PauseState.release, hn]

theorem PauseInvariant.step {p : RuntimePolicy} {i : PauseStep} {h : List PauseEntry} (hi : PauseInvariant h s)
    (ht : Timely s i) : PauseInvariant ((i, ((armPause p).step s i).1) :: h) ((armPause p).step s i).2 := by
  cases i with
  | arm r => exact hi.arm
  | navigation r => exact hi.navigation ht
  | cancelEvent => exact hi.cancelling (.inl rfl)
  | cancelAcknowledge => exact hi.cancelling (.inr (.inl rfl))
  | cancelRelease => exact hi.cancelling (.inr (.inr rfl))

theorem pauseInvariant_start : PauseInvariant [] {} where
  guarded := ⟨nofun, nofun, nofun, nofun, by simp⟩
  gesture := nofun
  drive := nofun

/-- In every interleaving whose steps are timely, no DRIVE is under way at the
plant while a gesture is. -/
theorem no_drive_in_gesture {p : RuntimePolicy} {h : List PauseEntry}
    (hr : (armPause p).Runs Timely {} h s) : ¬ (GestureOpen h ∧ DriveOpen h) := by
  rintro ⟨hg, hd⟩
  have hi : PauseInvariant h s := hr.historyInvariant pauseInvariant_start fun _ _ _ hi ht => hi.step ht
  have hl := (hi.gesture hg).2.leaving
  rw [hi.drive hd] at hl
  exact hl

end

-- Runs on fixed inputs

def samplePolicy : RuntimePolicy := ⟨2, 4000, 1000, 900, 180, 250⟩

def sampleJob (epoch : Int) : ArmJob := ⟨epoch, .propellerWave, 1, 10000⟩

/-- What the worker reads at each step of a gesture that starts at `nowMs`. -/
def sampleReading (epoch nowMs : Int) : PauseStep :=
  .arm { item := some (sampleJob epoch), nowMs := some nowMs, current := some ⟨.blocked, 0, some 0, true⟩ }

def sampleTick (kind : PulseKind) : PauseStep := .navigation { decided := some kind }

/-- A gesture taken up, acknowledged by a parked navigation, and carried out
to its release. -/
def sampleGesture : List PauseStep :=
  List.replicate 7 (sampleReading 1 0) ++ List.replicate 5 (sampleTick .drive) ++
    List.replicate 13 (sampleReading 1 0)

/-- After the release navigation stops, observes again and drives. -/
def sampleCalls : List PauseStep :=
  sampleGesture ++ [sampleReading 1 0] ++ List.replicate 12 (sampleTick .drive)

theorem no_drive_in_gesture_sample :
    ¬ (GestureOpen ((armPause samplePolicy).runList {} sampleCalls).1 ∧
      DriveOpen ((armPause samplePolicy).runList {} sampleCalls).1) :=
  no_drive_in_gesture (Machine.runs_runList (by decide))

example : DriveOpen ((armPause samplePolicy).runList {} sampleCalls).1 := by decide

/-- Navigation sees the request of the first gesture before the worker clears
it, acknowledges between the worker's two clears of the second gesture, and
drives before that gesture's request is set. -/
def staleCalls : List PauseStep :=
  sampleGesture ++ List.replicate 8 (sampleTick .drive) ++ List.replicate 5 (sampleReading 2 2000) ++
    List.replicate 2 (sampleTick .drive) ++ [sampleReading 2 2000] ++ List.replicate 12 (sampleTick .drive) ++
    List.replicate 6 (sampleReading 2 2000)

theorem drive_in_gesture :
    ¬ ∀ p h s, (armPause p).Runs Machine.always {} h s → ¬ (GestureOpen h ∧ DriveOpen h) := fun hall =>
  have hr : (armPause samplePolicy).Runs Machine.always {} ((armPause samplePolicy).runList {} staleCalls).1 _ :=
    Machine.runs_runList (Machine.stepsOk_always _ _ _)
  hall _ _ _ hr (by decide +kernel)

end RobotLlm.Concurrent
