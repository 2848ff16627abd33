import RobotLlm.Hazard.CodecLaws
import RobotLlm.Hazard.RestoreLaws
import RobotLlm.Hazard.RunLaws
import RobotLlm.Memory.Store

/-!
# What a store persists restores it

A store that passes its own checks, over a sound map, is read back as it was.
Every operation keeps it that way, so it may be restored wherever a run stands.
-/

namespace RobotLlm.Memory

open RobotLlm.Lib RobotLlm.Odometry RobotLlm.Hazard
open Lib.Prog

namespace NavigationMemoryStore

variable {F : Type} {s : NavigationMemoryStore F}

-- The fields of the object

theorem readPositions_dict (positions : List (String × Int)) : readPositions (some (positionsDict positions)) = .ok positions := by
  unfold readPositions positionsDict
  dsimp only
  induction positions with
  | nil => rfl
  | cons entry positions ih =>
    rw [List.map_cons, List.mapM_cons, ih]
    rfl

theorem readRoles_dict (roles : Option DriveMotorRoles) : readRoles (some (Json.ofOpt rolesDict roles)) = .ok roles := by
  cases roles with
  | none => rfl
  | some roles =>
    have hnew : newRoles roles.left roles.right = .ok roles := dif_pos roles.roles_valid
    have hread : readRoles (some (rolesDict roles)) = some <$> newRoles roles.left roles.right := rfl
    rw [Json.ofOpt, hread, hnew]
    rfl

theorem hasKeys_entries (s : NavigationMemoryStore F) : Json.HasKeys s.entries currentKeys := by
  refine (Json.hasKeys_of_eq ["schema", "robot_id", "controller_instance_id", "frame_id", "generation_id", "updated_at_ms",
    "pose", "map_revision", "hazards_evicted", "hazards_eviction_reason", "scan_attempts_evicted",
    "scan_attempts_eviction_reason", "hazards", "motor_positions", "drive_roles", "localization_valid",
    "localization_error"] rfl).of_perm ?_
  decide

theorem readMap_entries (s : NavigationMemoryStore F) (calibration : HazardMapCalibration) (hazards : List ProvisionalHazard) :
    readMap s.entries hazards calibration = valueErrors (ProvisionalHazardMap.build s.frameId s.generationId hazards
      s.hazardMap.revision calibration s.hazardMap.hazardsEvicted s.hazardMap.hazardsEvictionReason
      (some s.hazardMap.scanAttemptsEvicted) s.hazardMap.scanAttemptsEvictionReason) := by
  simp only [readMap, entries, List.lookup_cons, List.lookup_nil, String.reduceBEq, Json.toStr?_str, Json.toInt?_int, readCount, readReason_hazard,
    readReason_scan, field, Json.toOpt, Option.map_some, ok_bind]

theorem checked_eq {t : NavigationMemoryStore F} (h : checked s = .ok t) :
    ¬ (s.robotId = "" ∨ s.controllerInstanceId = "" ∨ s.frameId = "" ∨ s.generationId = "") ∧ s = t := by
  unfold checked at h
  split at h
  · cases h
  next hidentity =>
    refine ⟨hidentity, ?_⟩
    repeat' split at h
    all_goals cases h
    rfl

-- The store

structure Ok [PyMath F] (digest : List String → String) (s : NavigationMemoryStore F) : Prop where
  robot : s.robotId ≠ ""
  controller : s.controllerInstanceId ≠ ""
  frame : s.frameId ≠ ""
  generation : s.generationId ≠ ""
  hazards : s.hazardMap.Ok F digest
  mapFrame : s.hazardMap.frameId = s.frameId
  mapGeneration : s.hazardMap.mapGenerationId = s.generationId
  valid : s.localizationValid = true → s.localizationError = none
  lost : s.localizationValid = false → s.localizationError ≠ none ∧ s.localizationError ≠ some ""

variable [PyMath F] {digest : List String → String}

theorem Ok.checked_self (hs : s.Ok digest) : checked s = .ok s := by
  have hidentity : ¬ (s.robotId = "" ∨ s.controllerInstanceId = "" ∨ s.frameId = "" ∨ s.generationId = "") := by
    rintro (h | h | h | h)
    · exact hs.robot h
    · exact hs.controller h
    · exact hs.frame h
    · exact hs.generation h
  have hvalid : ¬ (s.localizationValid = true ∧ s.localizationError ≠ none) := fun h => h.2 (hs.valid h.1)
  have hlost : ¬ (s.localizationValid = false ∧ (s.localizationError = none ∨ s.localizationError = some "")) := by
    rintro ⟨h, hnone | hempty⟩
    · exact (hs.lost h).1 hnone
    · exact (hs.lost h).2 hempty
  unfold checked
  rw [if_neg hidentity, if_neg (not_not_intro hs.mapFrame), if_neg (not_not_intro hs.mapGeneration), if_neg hvalid,
    if_neg hlost]

theorem Ok.fromDict_toDict (hs : s.Ok digest) :
    fromDict s.robotId s.controllerInstanceId s.odometryCalibration s.hazardMap.calibration s.toDict = .ok s := by
  have hkeys : KnownKeys s.entries := .inr ⟨rfl, .inr s.hasKeys_entries⟩
  have hread : (s.hazardMap.hazards.map (·.toDict)).mapM ProvisionalHazard.fromDict = .ok s.hazardMap.hazards :=
    mapM_map_ok _ fun h hh => ProvisionalHazard.fromDict_toDict (hs.hazards.hazards h hh).1 (hs.hazards.hazards h hh).2
  have hbuild := hs.hazards.build_self (hs.mapFrame ▸ hs.frame) (hs.mapGeneration ▸ hs.generation)
  have hchecked := hs.checked_self
  rw [hs.mapFrame, hs.mapGeneration] at hbuild
  unfold fromDict toDict
  dsimp only
  rw [require_bind hkeys, require_bind ⟨rfl, rfl⟩]
  simp only [readMap_entries]
  simp only [entries, List.lookup_cons, List.lookup_nil, String.reduceBEq, Json.toArr?_arr, Json.toBool?_bool, Json.toInt?_int, Json.toOpt_ofOpt_str,
    field, ok_bind, readPositions_dict, readRoles_dict, hread, hbuild, valueErrors, Except.mapError, Option.getD_some,
    PhysicalPose.fromMapping_toDict, hs.mapFrame, hs.mapGeneration]
  exact hchecked

omit [PyMath F] in
theorem fromDict_overfull (hs : s.hazardMap.Sound) (hover : maxScanAttemptsPerMap < s.hazardMap.attemptCount)
    (robotId controllerInstanceId : String) (odometryCalibration : OdometryCalibration F) (hazardCalibration : HazardMapCalibration) :
    ¬ ∃ t, fromDict robotId controllerInstanceId odometryCalibration hazardCalibration s.toDict = .ok t := by
  rintro ⟨t, ht⟩
  have hread : (s.hazardMap.hazards.map (·.toDict)).mapM ProvisionalHazard.fromDict = .ok s.hazardMap.hazards :=
    mapM_map_ok _ fun h hh => ProvisionalHazard.fromDict_toDict (hs.hazards h hh).1 (hs.hazards h hh).2
  obtain ⟨e, he⟩ := ProvisionalHazardMap.build_refused s.frameId s.generationId s.hazardMap.revision
    s.hazardMap.hazardsEvicted hazardCalibration s.hazardMap.hazardsEvictionReason (some s.hazardMap.scanAttemptsEvicted)
    s.hazardMap.scanAttemptsEvictionReason hover
  unfold fromDict toDict at ht
  simp only [bind_ok_iff] at ht
  obtain ⟨_, -, _, -, items, hitems, _, -, _, -, hazards, hhazards, m, hm, -⟩ := ht
  have hitems' : items = s.hazardMap.hazards.map (·.toDict) := by
    simpa [entries, List.lookup_cons, List.lookup_nil, field] using hitems.symm
  rw [hitems', hread] at hhazards
  obtain rfl := Except.ok.inj hhazards
  rw [readMap_entries, he] at hm
  cases hm

end NavigationMemoryStore

-- The operations

section
variable {F : Type} [PyMath F] {digest : List String → String}

/-- The invariant is kept, and so are the robot and the calibrations. -/
structure Upholds (digest : List String → String) (s s' : NavigationMemoryStore F) : Prop where
  ok : s.Ok digest → s'.Ok digest
  robotId : s'.robotId = s.robotId
  controllerInstanceId : s'.controllerInstanceId = s.controllerInstanceId
  odometryCalibration : s'.odometryCalibration = s.odometryCalibration
  hazardCalibration : s'.hazardMap.calibration = s.hazardMap.calibration

instance : IsPreorder (NavigationMemoryStore F) (Upholds digest) where
  refl _ := ⟨id, rfl, rfl, rfl, rfl⟩
  trans _ _ _ h h' := ⟨h'.ok ∘ h.ok, h'.robotId.trans h.robotId,
    h'.controllerInstanceId.trans h.controllerInstanceId, h'.odometryCalibration.trans h.odometryCalibration,
    h'.hazardCalibration.trans h.hazardCalibration⟩

theorem upholds_anchors (s : NavigationMemoryStore F) (pose : PhysicalPose) (positions : List (String × Int))
    (roles : Option DriveMotorRoles) (updatedAtMs : Int) :
    Upholds digest s { s with
      pose := pose
      motorPositions := positions
      driveRoles := roles
      updatedAtMs := updatedAtMs } :=
  ⟨fun h => ⟨h.robot, h.controller, h.frame, h.generation, h.hazards, h.mapFrame, h.mapGeneration, h.valid, h.lost⟩,
    rfl, rfl, rfl, rfl⟩

theorem invalidateLocalization_upholds (saved : Except String Unit) (reason : String) (nowMs : Int) :
    Keeps (Upholds (F := F) digest) (invalidateLocalization saved reason nowMs) := by
  by_cases hreason : reason = ""
  · intro s
    have hrun : invalidateLocalization saved reason nowMs s =
        (.error (.memory "localization invalidation requires a reason"), s) := by
      simp [invalidateLocalization, failIf, hreason, bind_run]
    rw [hrun]
    exact refl_of _ s
  · refine .bind (.failIf _ _) fun _ => .bind (.modify fun s => ⟨fun h => ?_, rfl, rfl, rfl, rfl⟩) fun _ => .ofExcept _
    exact ⟨h.robot, h.controller, h.frame, h.generation, h.hazards.revised, h.mapFrame, h.mapGeneration,
      by simp, fun _ => ⟨by simp, fun hempty => hreason (Option.some.inj hempty)⟩⟩

theorem giveUp_upholds (saved : Except String Unit) (reason : String) (nowMs : Int) (message : String) :
    Keeps (Upholds (F := F) digest) (giveUp (α := α) saved reason nowMs message) :=
  .bind (invalidateLocalization_upholds saved reason nowMs) fun _ => .throw _

theorem bindDriveRoles_upholds (roles : DriveMotorRoles) : Keeps (Upholds (F := F) digest) (bindDriveRoles roles) :=
  .bind .get fun _ => .bind (.failIf _ _) fun _ => .modify fun s => upholds_anchors s s.pose s.motorPositions _ s.updatedAtMs

theorem boundRoles_upholds (message : String) : Keeps (Upholds (F := F) digest) (boundRoles message) := by
  refine .bind .get fun s => ?_
  cases s.driveRoles with
  | none => exact .throw _
  | some roles => exact .pure roles

theorem touchClock_upholds (nowMs : Int) : Keeps (Upholds (F := F) digest) (touchClock nowMs) :=
  .modify fun s => upholds_anchors s s.pose s.motorPositions s.driveRoles _

theorem Upholds.of_map {s : NavigationMemoryStore F} {m : ProvisionalHazardMap}
    (hm : s.hazardMap.Ok F digest → m.Ok F digest) (hk : SameMap s.hazardMap m) :
    Upholds digest s { s with hazardMap := m } :=
  ⟨fun h => ⟨h.robot, h.controller, h.frame, h.generation, hm h.hazards, hk.frameId.trans h.mapFrame,
    hk.mapGenerationId.trans h.mapGeneration, h.valid, h.lost⟩, rfl, rfl, rfl, hk.calibration⟩

end

theorem localizeMotion_upholds {F : Type} [PyFloat F] {digest : List String → String} (action : Action) (result : Json) :
    Keeps (Upholds digest) (localizeMotion F action result) :=
  .bind (boundRoles_upholds _) fun _ => .bind (.ofExcept _) fun _ => .bind (.ofExcept _) fun checked =>
    .bind .get fun _ => .bind (.ofExcept _) fun pose =>
      .bind (.modify fun s => upholds_anchors s pose s.motorPositions s.driveRoles s.updatedAtMs) fun _ => .pure checked

open NavigationMemoryStore in
theorem load_ok {F : Type} [PyMath F] (digest : List String → String) {s : NavigationMemoryStore F}
    {robotId controllerInstanceId hex : String} {nowMs : Int} {odometryCalibration : OdometryCalibration F}
    {hazardCalibration : HazardMapCalibration}
    (hl : load robotId controllerInstanceId hex nowMs odometryCalibration hazardCalibration = .ok s) :
    s.Ok digest ∧ s.robotId = robotId ∧ s.controllerInstanceId = controllerInstanceId ∧
      s.odometryCalibration = odometryCalibration ∧ s.hazardMap.calibration = hazardCalibration := by
  obtain ⟨hidentity, rfl⟩ := checked_eq hl
  simp only [not_or] at hidentity
  obtain ⟨hrobot, hcontroller, hframe, hgeneration⟩ := hidentity
  exact ⟨⟨hrobot, hcontroller, hframe, hgeneration, ProvisionalHazardMap.ok_new .., rfl, rfl, fun _ => rfl, nofun⟩, rfl, rfl, rfl, rfl⟩

section
variable {F : Type} [PyFloat F] [LawfulPyMath F] {digest : List String → String} (hd : IdsDistinct digest)
include hd

theorem recordChecked_upholds (checked : WorkerObservation) (nowMs : Int) :
    Keeps (Upholds digest) (recordChecked F digest checked nowMs) := by
  refine .bind .get fun s => ?_
  intro s'
  exact Upholds.of_map (F := F) (fun hm => (step_moves (F := F) hm hd (.observation ..) trivial).1) (recordObservation_sameMap _ _ _ _)

theorem takeOver_upholds (saved : Except String Unit) (positions : List (String × Int)) (checked : WorkerObservation)
    (nowMs : Int) (record : Bool) : Keeps (Upholds digest) (takeOver F digest saved positions checked nowMs record) := by
  refine .bind (.modify fun s => upholds_anchors s s.pose positions s.driveRoles s.updatedAtMs) fun _ => ?_
  have hend : ∀ hazard : Option ProvisionalHazard, Keeps (Upholds (F := F) digest) (do
      touchClock nowMs
      save saved
      pure hazard) := fun hazard =>
    .bind (touchClock_upholds nowMs) fun _ => .bind (.ofExcept _) fun _ => .pure hazard
  cases record with
  | false => exact .bind (.pure none) hend
  | true => exact .bind (recordChecked_upholds hd checked nowMs) hend

theorem beginEpisode_upholds (saved : Except String Unit) (observation : Json) (nowMs : Int) :
    Keeps (Upholds digest) (beginEpisode F digest saved observation nowMs) := by
  refine .bind (.ofExcept _) fun checked => .bind (boundRoles_upholds _) fun _ => .bind (.failIf _ _) fun _ =>
    .bind .get fun _ => .ite (giveUp_upholds _ _ _ _) ?_
  refine .bind (.modify fun s => upholds_anchors s s.pose _ s.driveRoles s.updatedAtMs) fun _ => ?_
  exact .bind (touchClock_upholds nowMs) fun _ => .bind (.bind (recordChecked_upholds (F := F) hd checked nowMs) fun _ => .pure ())
    fun _ => .ofExcept _

theorem ingestStationaryObservation_upholds (saved : Except String Unit) (observation : Json) (nowMs : Int) :
    Keeps (Upholds digest) (ingestStationaryObservation F digest saved observation nowMs) :=
  .bind (.ofExcept _) fun checked => .bind (boundRoles_upholds _) fun _ => .bind (.failIf _ _) fun _ =>
    .bind .get fun _ => .ite (giveUp_upholds _ _ _ _) (takeOver_upholds hd saved _ checked nowMs true)

theorem ingestVerifiedScanCompletion_upholds (saved : Except String Unit) (observation : Json) (restored stopped : Bool)
    (nowMs : Int) :
    Keeps (Upholds digest) (ingestVerifiedScanCompletion F digest saved observation restored stopped nowMs) :=
  .bind (.ofExcept _) fun checked => .bind (boundRoles_upholds _) fun _ => .ite (giveUp_upholds _ _ _ _)
    (.ite (giveUp_upholds _ _ _ _) (takeOver_upholds hd saved _ checked nowMs true))

theorem applyMotionResult_upholds (saved : Except String Unit) (action : Action) (result : Json) (nowMs : Int)
    (record : Bool) : Keeps (Upholds digest) (applyMotionResult F digest saved action result nowMs record) := by
  refine .bind (.failIf _ _) fun _ => .bind (.tryCatch (localizeMotion_upholds action result) fun e => ?_) fun checked =>
    .bind (boundRoles_upholds _) fun _ => .ite (giveUp_upholds _ _ _ _) (takeOver_upholds hd saved _ checked nowMs record)
  unfold motionNotLocalized
  split
  · exact giveUp_upholds _ _ _ _
  · exact .throw _

theorem ingestVerifiedHeadingTrim_upholds (saved : Except String Unit) (observation : Json) (nowMs : Int) :
    Keeps (Upholds digest) (ingestVerifiedHeadingTrim F digest saved observation nowMs) := by
  refine .bind (.tryCatch (.ofExcept _) fun e => ?_) fun checked => .bind .get fun s => ?_
  · unfold trimNotValid
    split
    · exact giveUp_upholds _ _ _ _
    · exact .throw _
  · cases s.driveRoles with
    | none => exact giveUp_upholds _ _ _ _
    | some roles => exact .ite (giveUp_upholds _ _ _ _) (takeOver_upholds hd saved _ checked nowMs true)

end

-- Runs

/-- A scan that is recorded has an id that no evidence of the map has. -/
def NewScan (s : NavigationMemoryStore F) (input : StoreOp × Except String Unit) : Prop :=
  ∀ op id, input.1 = .hazardMap op → op.scanId? = some id → s.hazardMap.Fresh id

section
variable {F : Type} [PyFloat F] [LawfulPyMath F] {digest : List String → String} {s₀ s : NavigationMemoryStore F}
  {h : List ((StoreOp × Except String Unit) × Except StoreError (Option ProvisionalHazard))}
  {robotId controllerInstanceId hex : String} {nowMs : Int} {odometryCalibration : OdometryCalibration F}
  {hazardCalibration : HazardMapCalibration}

theorem step_upholds (hd : IdsDistinct digest) (input : StoreOp × Except String Unit) (hn : NewScan s input) :
    Upholds digest s ((storeMachine F digest).step s input).2 := by
  obtain ⟨op, saved⟩ := input
  cases op with
  | beginEpisode observation nowMs =>
    exact Keeps.bind (beginEpisode_upholds hd saved observation nowMs) (fun _ => .pure none) s
  | invalidateLocalization reason nowMs =>
    exact Keeps.bind (invalidateLocalization_upholds saved reason nowMs) (fun _ => .pure none) s
  | bindDriveRoles roles => exact Keeps.bind (bindDriveRoles_upholds roles) (fun _ => .pure none) s
  | ingestStationaryObservation observation nowMs =>
    exact ingestStationaryObservation_upholds hd saved observation nowMs s
  | ingestVerifiedScanCompletion observation restored stopped nowMs =>
    exact ingestVerifiedScanCompletion_upholds hd saved observation restored stopped nowMs s
  | applyMotionResult action result nowMs record => exact applyMotionResult_upholds hd saved action result nowMs record s
  | ingestVerifiedHeadingTrim observation nowMs => exact ingestVerifiedHeadingTrim_upholds hd saved observation nowMs s
  | hazardMap op =>
    refine Upholds.of_map (F := F) (fun hm => (step_moves (F := F) hm hd op ?_).1) (hazardMachine_sameMap s.hazardMap op)
    cases op with
    | scanResult r pose => exact fun _ => hn _ r.scanId rfl rfl
    | observation | scanBoundaries => trivial

open NavigationMemoryStore in
/-- Wherever a run stands, what it persists is read back as it is. -/
theorem store_restored_in_runs (hd : IdsDistinct digest)
    (hl : load robotId controllerInstanceId hex nowMs odometryCalibration hazardCalibration = .ok s₀)
    (hr : (storeMachine F digest).Runs NewScan s₀ h s) :
    fromDict robotId controllerInstanceId odometryCalibration hazardCalibration s.toDict = .ok s := by
  obtain ⟨h₀, rfl, rfl, rfl, rfl⟩ := load_ok digest hl
  have hs : Upholds digest s₀ s := hr.invariant (refl_of _ s₀) fun s input hs hn => trans_of _ hs (step_upholds hd input hn)
  rw [← hs.robotId, ← hs.controllerInstanceId, ← hs.odometryCalibration, ← hs.hazardCalibration]
  exact (hs.ok h₀).fromDict_toDict

omit [LawfulPyMath F] in
theorem storeRuns_of_map {h : List (HazardOp × HazardAnswer)} {m : ProvisionalHazardMap}
    (hr : (hazardMachine F digest).Runs Machine.always s.hazardMap h m) :
    ∃ h', (storeMachine F digest).Runs Machine.always s h' { s with hazardMap := m } := by
  induction hr with
  | nil => exact ⟨[], .nil⟩
  | @cons h m op hr _ ih =>
    obtain ⟨h', hr'⟩ := ih
    have hstep : ((storeMachine F digest).step { s with hazardMap := m } (.hazardMap op, .ok ())).2 =
        { s with hazardMap := ((hazardMachine F digest).step m op).2 } := by
      rfl
    have hnext := hr'.cons (i := (.hazardMap op, .ok ())) trivial
    rw [hstep] at hnext
    exact ⟨_, hnext⟩
end

-- Runs along a line

instance : PyFloat Grid where
  add a b := ⟨a.n + b.n⟩
  neg a := ⟨-a.n⟩
  ofText _ := ⟨0⟩
  ofInt? n := some ⟨n⟩
  isFinite _ := true
  fmod a b := ⟨a.n % b.n⟩
  round? a := some a.n

/-- One millimetre and one thousandth of a degree for each degree of an encoder. -/
def gridCalibration : OdometryCalibration Grid := ⟨⟨1⟩, 1⟩

def firstStore : NavigationMemoryStore Grid where
  robotId := "robot-1"
  controllerInstanceId := "controller-1"
  frameId := "robot-1-local-odometry-mapgen-1"
  generationId := "mapgen-1"
  pose := .origin
  hazardMap := .new "robot-1-local-odometry-mapgen-1" "mapgen-1" {}
  odometryCalibration := gridCalibration

theorem load_firstStore : NavigationMemoryStore.load "robot-1" "controller-1" "1" 0 gridCalibration {} = .ok firstStore := rfl

/-- A restored scan without rays of the hypothesis that the store made at `x`. -/
def scanOf (scanId : String) (x basedOnMapVersion : Int) : StoreOp :=
  .hazardMap (.scanResult {
    scanId := scanId
    targetHypothesisId := stableId framed "mapgen-1" { PhysicalPose.origin with xMm := x } 1000 7
    frameId := "robot-1-local-odometry-mapgen-1"
    mapGenerationId := "mapgen-1"
    basedOnMapVersion := basedOnMapVersion
    completedAtMs := 2000
    status := "COMPLETED"
    reason := "seen"
    stopConfirmed := true
    restoredStartHeading := true
    rays := []
    leftBoundaryMdeg := none
    rightBoundaryMdeg := none } { PhysicalPose.origin with yMm := basedOnMapVersion })

open NavigationMemoryStore in
/-- A scan, and then the robot is lost. -/
theorem store_restored_in_runs_lost : ∃ h s, (storeMachine Grid framed).Runs Machine.always firstStore h s ∧
    s.localizationValid = false ∧ s.hazardMap.attemptCount = 1 ∧
      fromDict "robot-1" "controller-1" gridCalibration {} s.toDict = .ok s := by
  have hfresh : ((storeMachine Grid framed).step firstStore (.hazardMap (blockedAt 0), .ok ())).2.hazardMap.Fresh "scan-1" := by
    decide +kernel
  have hok : (storeMachine Grid framed).StepsOk NewScan firstStore [(.hazardMap (blockedAt 0), .ok ()),
      (scanOf "scan-1" 0 0, .ok ()), (.invalidateLocalization "pushed" 3000, .error "disk full")] := by
    refine ⟨fun op id hop hid => ?_, fun op id hop hid => ?_, fun op id hop _ => ?_, trivial⟩
    · cases hop
      cases hid
    · cases hop
      cases hid
      exact hfresh
    · cases hop
  have hr := Machine.runs_runList hok
  refine ⟨_, _, hr.weaken fun _ _ _ => trivial, ?_, ?_, store_restored_in_runs idsDistinct_framed load_firstStore hr⟩
  · decide +kernel
  · decide +kernel

open NavigationMemoryStore in
/-- Scans of one id leave more than is read back. -/
theorem scansOfOneId_refused : ∃ h s, (storeMachine Grid framed).Runs Machine.always firstStore h s ∧
    ¬ ∃ t, fromDict "robot-1" "controller-1" gridCalibration {} s.toDict = .ok t := by
  have hsteps : (hazardMachine Grid framed).StepsOk (fun m op => op.FreshIn m) firstStore.hazardMap fiveHypotheses :=
    ⟨trivial, trivial, trivial, trivial, trivial, trivial⟩
  have hfresh := Machine.runs_runList hsteps
  have hsound := (hazardsAccounted_in_runs idsDistinct_framed hfresh).1.toSound
  have hcrowded := Crowded.of_unscanned hsound (by decide +kernel) (by decide +kernel)
  obtain ⟨h, m, hr, hm, hcount, -⟩ := hcrowded.overfull (k := 64) (hfresh.weaken fun _ _ _ => trivial) (by decide +kernel)
    (by decide +kernel)
  obtain ⟨h', hr'⟩ := storeRuns_of_map hr
  have hover : maxScanAttemptsPerMap < m.attemptCount := by
    rw [hcount]
    decide
  exact ⟨h', _, hr', fromDict_overfull hm hover _ _ _ _⟩

end RobotLlm.Memory
