import RobotLlm.Navigation.Mission
import RobotLlm.Navigation.SpendLaws

/-!
# What a mission may spend

A mission hands each leg what is left of its own limits, so the legs together
stay within them. Its totals count every drive but those of a leg that failed.
-/

namespace RobotLlm.Navigation

open RobotLlm.Lib Prog
open NavigationEpisode (Run Frames Still Grown Has VerifiedStop Stopped motionOf drives onShared onShared_still)

namespace MissionRunner

variable {σ : Type} {r : MissionRunner σ} {K : Shared σ → Shared σ → Prop} [IsPreorder (Shared σ) K]
variable {s₀ s : EpisodeState σ} {plan : MissionPlan} {goal : WaypointGoal} {new : List Applied}

theorem offerObservation_frame (hf : r.navigation.Frames K) (snapshot : NavigationSnapshot) :
    Keeps K (r.offerObservation snapshot) :=
  Keeps.tryCatch (hf.sink snapshot) fun _ => Keeps.pure ()

theorem leg_frames (hf : r.navigation.Frames K) (limits : NavigationLimits) : (r.leg plan limits).Frames K where
  observe := hf.observe
  apply := hf.apply
  publish := hf.publish
  hook _ := Keeps.pure none
  sink := offerObservation_frame hf
  cancelled := hf.cancelled
  drain := hf.drain
  now := hf.now
  id := hf.id
  supervisor := hf.supervisor

-- The account of a mission

def WithinLimits (r : MissionRunner σ) (new : List Applied) : Prop :=
  (drives new).length ≤ r.missionLimits.maxActions ∧ motionOf (drives new) ≤ r.missionLimits.maxTotalMotionMs

/-- The totals of the legs count the drives, but for those in `refused`. -/
def Counts (legResults : List MissionLegResult) (refused new : List Applied) : Prop :=
  ∃ counted, drives new = refused ++ counted ∧ (totals legResults).actions = counted.length ∧
    (totals legResults).totalMotionMs = motionOf counted

/-- What is known at the head of the loop over the legs: every leg so far was
completed and its STOP verified. -/
structure LegsAccounted (r : MissionRunner σ) (legResults : List MissionLegResult) (new : List Applied) : Prop where
  within : r.WithinLimits new
  counts : Counts legResults [] new
  stopped : legResults ≠ [] → Stopped new

/-- How a mission ends whose totals leave a drive out. -/
def Broken (termination : MissionTermination) : Prop := termination = .legFailed ∨ termination = .safetyStop

structure Spent (r : MissionRunner σ) (m : MissionResult) (new : List Applied) : Prop where
  within : r.WithinLimits new
  counted : ∃ refused counted, drives new = refused ++ counted ∧ m.totals.actions = counted.length ∧
    m.totals.totalMotionMs = motionOf counted ∧
    ∀ a ∈ refused, NavigationEpisode.Refused a ∧ m.completed = false ∧ Broken m.termination
  stopped : m.terminalStopVerified = true → Stopped new

theorem result_spent (hf : r.navigation.Frames K) {legResults : List MissionLegResult}
    {refused : List Applied} (hg : Grown K s₀ new s) (hw : r.WithinLimits new) (hc : Counts legResults refused new)
    (hr : ∀ a ∈ refused, NavigationEpisode.Refused a ∧ Broken termination)
    (hv : verified = true → Stopped new) :
    Triple (r.result plan termination started final legResults verified) s
      (fun m s' => Has K s₀ (r.Spent m) s') (fun _ s' => Has K s₀ r.WithinLimits s') := by
  refine Triple.step rfl ?_
  refine Triple.bind ((onShared_still (offerObservation_frame hf final)).triple s |>.mono (fun _ _ h => h)
    fun _ _ h => ⟨new, hg.still h, hw⟩) ?_
  intro _ s₁ h₁
  obtain ⟨counted, hsplit, hactions, hmotion⟩ := hc
  refine Triple.pure ⟨new, hg.still h₁, hw, ⟨refused, counted, hsplit, hactions, hmotion, fun a ha => ?_⟩, hv⟩
  obtain ⟨hrefused, hbroken⟩ := hr a ha
  have hnot : termination ≠ .completed := by
    rintro rfl
    rcases hbroken with h | h <;> cases h
  refine ⟨hrefused, ?_, ?_⟩
  · simp [hnot]
  · simpa [hnot] using hbroken

theorem stopPlant_spent (hf : r.navigation.Frames K) (hg : Grown K s₀ new s) :
    Triple (r.stopPlant goal) s
      (fun x s' => ∃ a, a.pulse.kind = .stop ∧ Grown K s₀ (a :: new) s' ∧ (x.2 = true → VerifiedStop a))
      (fun _ s' => Grown K s₀ new s') := by
  refine Triple.bind ((onShared_still (hf.observe goal)).triple s |>.mono (fun _ _ h => h) fun _ _ h => hg.still h) ?_
  intro current s₁ h₁
  have hforce := ((NavigationEpisode.forceStop_still hf current "mission_terminal_stop").triple s₁).and
    (NavigationEpisode.forceStop_kind (e := r.navigation) current "mission_terminal_stop" s₁)
  refine Triple.bind (hforce.mono (fun _ _ h => h) fun _ _ h => (hg.still h₁).still h.1) ?_
  rintro stop s₂ ⟨h₂, hkind⟩
  refine Triple.bind (NavigationEpisode.applyPulse_spent hf current stop goal ((hg.still h₁).still h₂)) ?_
  intro after s₃ h₃
  refine Triple.pure ⟨_, hkind, h₃, fun hv => ?_⟩
  simp only [Bool.and_eq_true, Bool.not_eq_true', decide_eq_true_eq] at hv
  exact ⟨hkind, hv.1, hv.2⟩

theorem verifiedStop_spent (hf : r.navigation.Frames K) (snapshot : NavigationSnapshot) (hg : Grown K s₀ new s) :
    Triple (r.verifiedStop goal snapshot) s
      (fun x s' => ∃ new', Grown K s₀ new' s' ∧ drives new' = drives new ∧
        (x.2 = true → Stopped new'))
      (fun _ _ => False) := by
  refine Triple.tryCatch ((stopPlant_spent hf hg).mono ?_ fun _ _ h => h) ?_
  · rintro x s' ⟨a, hkind, hg', hv⟩
    exact ⟨a :: new, hg', NavigationEpisode.drives_stop hkind new, fun h => (hv h).stopped new⟩
  · exact fun _ s' hg' => Triple.pure ⟨new, hg', rfl, nofun⟩

theorem stopAndResult_spent (hf : r.navigation.Frames K) {legResults : List MissionLegResult}
    (hg : Grown K s₀ new s) (hl : r.LegsAccounted legResults new) :
    Triple (r.stopAndResult plan goal termination started snapshot legResults) s
      (fun m s' => Has K s₀ (r.Spent m) s') (fun _ s' => Has K s₀ r.WithinLimits s') := by
  refine Triple.bind ((verifiedStop_spent hf snapshot hg).mono (fun _ _ h => h) fun _ _ h => h.elim) ?_
  rintro stopped s₁ ⟨new', hg', hdrives, hv⟩
  obtain ⟨counted, hsplit, hactions, hmotion⟩ := hl.counts
  have hw := hl.within
  refine result_spent hf hg' ?_ ⟨counted, hdrives.trans hsplit, hactions, hmotion⟩ (by simp) hv
  simpa only [WithinLimits, hdrives] using hw

-- One leg

theorem remainingLimits_le {limits : NavigationLimits} {spent : Counters}
    (h : r.remainingLimits spent elapsed = some limits) :
    spent.actions + limits.maxActions ≤ r.missionLimits.maxActions ∧
      spent.totalMotionMs + limits.maxTotalMotionMs ≤ r.missionLimits.maxTotalMotionMs ∧
      spent.ticks + limits.maxTicks ≤ r.missionLimits.maxTicks ∧
      spent.proposals + limits.maxProposals ≤ r.missionLimits.maxProposals ∧
      spent.replans + limits.maxReplans ≤ r.missionLimits.maxReplans := by
  unfold remainingLimits at h
  dsimp only at h
  split at h
  next hleft =>
    cases h
    dsimp only
    omega
  next => cases h

theorem runToEnd_spent {e : NavigationEpisode σ} (hf : e.Frames K) (goal : WaypointGoal) :
    Triple (e.runToEnd goal) s (fun n s' => Has K s (e.Spent n) s') (fun _ s' => Has K s e.WithinLimits s') := by
  refine Triple.bind (NavigationEpisode.run_spent hf goal s) ?_
  rintro _ s' ⟨result, rfl, h⟩
  exact Triple.pure h

theorem totals_append (legResults : List MissionLegResult) (value : MissionLegResult) :
    (totals (legResults ++ [value])).actions = (totals legResults).actions + value.navigation.counters.actions ∧
    (totals (legResults ++ [value])).totalMotionMs =
      (totals legResults).totalMotionMs + value.navigation.counters.totalMotionMs ∧
    (totals (legResults ++ [value])).ticks = (totals legResults).ticks + value.navigation.counters.ticks ∧
    (totals (legResults ++ [value])).proposals = (totals legResults).proposals + value.navigation.counters.proposals ∧
    (totals (legResults ++ [value])).replans = (totals legResults).replans + value.navigation.counters.replans := by
  simp [totals]

theorem drives_append (new more : List Applied) : drives (more ++ new) = drives more ++ drives new := by
  simp [drives]

theorem motionOf_append (a b : List Applied) : motionOf (a ++ b) = motionOf a + motionOf b := by
  simp [motionOf]

theorem LegsAccounted.leg_within {limits : NavigationLimits} {more : List Applied} {legResults : List MissionLegResult}
    (hl : r.LegsAccounted legResults new) (hlimits : r.remainingLimits (totals legResults) elapsed = some limits)
    (hmore : (drives more).length ≤ limits.maxActions ∧ motionOf (drives more) ≤ limits.maxTotalMotionMs) :
    r.WithinLimits (more ++ new) := by
  obtain ⟨counted, hsplit, hactions, hmotion⟩ := hl.counts
  obtain ⟨hleA, hleM, -⟩ := remainingLimits_le hlimits
  obtain ⟨hA, hM⟩ := hmore
  simp only [List.nil_append] at hsplit
  simp only [WithinLimits, drives_append, hsplit, List.length_append, motionOf_append]
  omega

theorem afterLeg_spent (hf : r.navigation.Frames K) {legResults : List MissionLegResult} {value : MissionLegResult}
    {refused : List Applied} (hg : Grown K s₀ new s) (hw : r.WithinLimits new)
    (hc : Counts (legResults ++ [value]) refused new)
    (hr : ∀ a ∈ refused, NavigationEpisode.Refused a ∧ value.navigation.Failed)
    (hv : value.navigation.terminalStopVerified = true → Stopped new) :
    Triple (r.afterLeg plan goal started (legResults ++ [value]) value.navigation) s
      (fun x s' => match x with
        | .inl _ => Has K s₀ (r.LegsAccounted (legResults ++ [value])) s'
        | .inr m => Has K s₀ (r.Spent m) s')
      (fun _ s' => Has K s₀ r.WithinLimits s') := by
  unfold afterLeg
  refine Triple.ite (fun _ => ?_) fun hcompleted => ?_
  · refine Triple.bind (f := fun m => pure (Sum.inr m)) (result_spent hf hg hw hc (fun a ha => ?_) hv) ?_
    · obtain ⟨hrefused, -, hterm⟩ := hr a ha
      refine ⟨hrefused, ?_⟩
      rcases hterm with hterm | hterm <;> simp [hterm, terminationOf, Broken]
    · exact fun m s' h => Triple.pure h
  have hnone : refused = [] := by
    refine List.eq_nil_iff_forall_not_mem.mpr fun a ha => hcompleted (hr a ha).2.1
  subst hnone
  refine Triple.ite (fun _ => ?_) fun hverified => ?_
  · refine Triple.bind (f := fun m => pure (Sum.inr m)) (result_spent hf hg hw hc (by simp) nofun) ?_
    exact fun m s' h => Triple.pure h
  have hl : r.LegsAccounted (legResults ++ [value]) new :=
    ⟨hw, hc, fun _ => hv (by simpa using hverified)⟩
  refine Triple.bind ((onShared_still (hf.observe goal)).triple s |>.mono (fun _ _ h => h)
    fun _ _ h => ⟨new, hg.still h, hw⟩) ?_
  intro boundary s₁ h₁
  refine Triple.ite (fun _ => ?_) fun _ => Triple.pure ⟨new, hg.still h₁, hl⟩
  refine Triple.bind (f := fun m => pure (Sum.inr m)) (stopAndResult_spent hf (hg.still h₁) hl) ?_
  exact fun m s' h => Triple.pure h

def LegLeft (r : MissionRunner σ) (K : Shared σ → Shared σ → Prop) (s₀ : EpisodeState σ) :
    (NavigationSnapshot ⊕ MissionResult) × List MissionLegResult → EpisodeState σ → Prop
  | (.inl _, legResults), s => legResults ≠ [] ∧ Has K s₀ (r.LegsAccounted legResults) s
  | (.inr m, _), s => Has K s₀ (r.Spent m) s

theorem runLeg_spent (hf : r.navigation.Frames K) {legResults : List MissionLegResult} (hg : Grown K s₀ new s)
    (hl : r.LegsAccounted legResults new) (index : Fin plan.legs.length) :
    Triple (r.runLeg plan started index legResults) s (r.LegLeft K s₀) (fun _ s' => Has K s₀ r.WithinLimits s') := by
  have stop : ∀ {s' : EpisodeState σ} {termination snapshot}, Grown K s₀ new s' →
      Triple (do
        let m ← r.stopAndResult plan (r.goal plan index) termination started snapshot legResults
        return (Sum.inr m, legResults) : Run σ _) s' (r.LegLeft K s₀) (fun _ s' => Has K s₀ r.WithinLimits s') := by
    intro s' termination snapshot hg'
    exact Triple.bind (stopAndResult_spent hf hg' hl) fun m s' h => Triple.pure h
  refine Triple.bind ((onShared_still (hf.observe _)).triple s |>.mono (fun _ _ h => h)
    fun _ _ h => ⟨new, hg.still h, hl.within⟩) ?_
  intro snapshot s₁ h₁
  refine Triple.bind ((onShared_still hf.cancelled).triple s₁ |>.mono (fun _ _ h => h)
    fun _ _ h => ⟨new, (hg.still h₁).still h, hl.within⟩) ?_
  intro cancelled s₂ h₂
  have hg₂ := (hg.still h₁).still h₂
  refine Triple.ite (fun _ => stop hg₂) fun _ => Triple.ite (fun _ => stop hg₂) fun _ => ?_
  refine Triple.step rfl ?_
  dsimp only
  split
  next => exact stop hg₂
  next limits hlimits =>
    have hleg : Triple ((r.leg plan limits).runToEnd (r.goal plan index)) s₂ _ _ :=
      runToEnd_spent (leg_frames hf limits) _
    refine Triple.bind (hleg.mono (fun _ _ h => h) ?_) ?_
    · rintro _ s₃ ⟨more, hg₃, hwithin⟩
      exact ⟨more ++ new, hg₂.trans hg₃, hl.leg_within hlimits hwithin⟩
    rintro navigation s₃ ⟨more, hg₃, hspent⟩
    have hcounts : ∃ refused, Counts (legResults ++ [⟨index, plan.legs[index], r.goal plan index, navigation⟩])
        refused (more ++ new) ∧ ∀ a ∈ refused, NavigationEpisode.Refused a ∧ navigation.Failed := by
      obtain ⟨counted, hsplit, hactions, hmotion⟩ := hl.counts
      obtain ⟨refused, counted', hsplit', hactions', hmotion', hrefused⟩ := hspent.counted
      obtain ⟨hA, hM, -⟩ := totals_append legResults ⟨index, plan.legs[index], r.goal plan index, navigation⟩
      refine ⟨refused, ⟨counted' ++ counted, ?_, ?_, ?_⟩, hrefused⟩
      · rw [drives_append, hsplit', hsplit, List.nil_append, List.append_assoc]
      · rw [hA, hactions, hactions', List.length_append, Nat.add_comm]
      · rw [hM, hmotion, hmotion', motionOf_append, Int.add_comm]
    obtain ⟨refused, hcounts, hrefused⟩ := hcounts
    refine Triple.bind (afterLeg_spent hf (hg₂.trans hg₃) (hl.leg_within hlimits hspent.within) hcounts hrefused
      fun hv => (hspent.stopped hv).append new) ?_
    rintro (snapshot | m) s₄ h₄
    · exact Triple.pure ⟨by simp, h₄⟩
    · exact Triple.pure h₄

theorem runLegs_spent (hf : r.navigation.Frames K) (indices : List (Fin plan.legs.length))
    {legResults : List MissionLegResult} (hne : indices = [] → legResults ≠ [])
    (hl : Has K s₀ (r.LegsAccounted legResults) s) :
    Triple (r.runLegs plan started indices snapshot legResults) s
      (fun m s' => Has K s₀ (r.Spent m) s') (fun _ s' => Has K s₀ r.WithinLimits s') := by
  induction indices generalizing legResults snapshot s with
  | nil =>
    obtain ⟨new, hg, hl⟩ := hl
    exact result_spent hf hg hl.within hl.counts (by simp) fun _ => hl.stopped (hne rfl)
  | cons index rest ih =>
    obtain ⟨new, hg, hl⟩ := hl
    refine Triple.bind (runLeg_spent hf hg hl index) ?_
    rintro ⟨next | m, legResults'⟩ s₁ h₁
    · exact ih (fun _ => h₁.1) h₁.2
    · exact Triple.pure h₁

theorem run_spent (hf : r.navigation.Frames K) (plan : MissionPlan) (s : EpisodeState σ) :
    Triple (r.run plan) s (fun m s' => Has K s (r.Spent m) s') (fun _ s' => Has K s r.WithinLimits s') := by
  have hmotion := r.missionLimits.motionOk.1
  have hl : r.LegsAccounted [] [] :=
    ⟨⟨Nat.zero_le _, by simp only [drives, motionOf, List.filter_nil, List.map_nil, List.sum_nil]; omega⟩,
      ⟨[], rfl, rfl, rfl⟩, fun h => absurd rfl h⟩
  have hg : Grown K s [] s := Grown.refl s
  refine Triple.failIf (fun _ => ⟨[], hg, hl.within⟩) fun _ => ?_
  refine Triple.step rfl ?_
  refine Triple.bind ((onShared_still (hf.observe _)).triple s |>.mono (fun _ _ h => h)
    fun _ _ h => ⟨[], hg.still h, hl.within⟩) ?_
  intro snapshot s₁ h₁
  split
  next => exact stopAndResult_spent hf (hg.still h₁) hl
  next =>
    refine runLegs_spent hf _ (fun h => ?_) ⟨[], hg.still h₁, hl⟩
    have hlen := congrArg List.length h
    have hlegs := plan.legsOk.1
    simp only [List.length_finRange, List.length_nil] at hlen
    omega

end MissionRunner

end RobotLlm.Navigation
