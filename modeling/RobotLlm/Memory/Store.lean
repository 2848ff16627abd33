import RobotLlm.Hazard.Codec
import RobotLlm.Odometry.Observation

/-!
# The memory of local navigation

Pose, hazards and motor anchors, and the object they are persisted as. Every
operation that changes them ends by saving; one that finds the robot moved
without being observed gives up the localization and says why.
-/

namespace RobotLlm.Memory

open RobotLlm.Lib RobotLlm.Odometry RobotLlm.Hazard

/-- What the store raises: its own error, the errors of the code below it, and
what saving raises. -/
inductive StoreError where
  | memory (message : String)
  | valueError (message : String)
  | fault (error : Fault)
  | map (error : MapError)
  | save (error : String)

structure NavigationMemoryStore (F : Type) where
  robotId : String
  controllerInstanceId : String
  frameId : String
  generationId : String
  pose : PhysicalPose
  hazardMap : ProvisionalHazardMap
  driveRoles : Option DriveMotorRoles := none
  motorPositions : List (String × Int) := []
  localizationValid : Bool := true
  localizationError : Option String := none
  updatedAtMs : Int := 0
  odometryCalibration : OdometryCalibration F

def maxSessionEncoderSettlingDegrees : Int := 1

namespace NavigationMemoryStore

variable {F : Type}

/-- The checks of `__init__`, in their order. -/
def checked (s : NavigationMemoryStore F) : Except StoreError (NavigationMemoryStore F) :=
  if s.robotId = "" ∨ s.controllerInstanceId = "" ∨ s.frameId = "" ∨ s.generationId = "" then
    .error (.memory "navigation identity is invalid")
  else if s.hazardMap.frameId ≠ s.frameId then .error (.memory "hazard map frame mismatch")
  else if s.hazardMap.mapGenerationId ≠ s.generationId then .error (.memory "hazard map generation mismatch")
  else if s.localizationValid = true ∧ s.localizationError ≠ none then .error (.memory "valid localization has an error")
  else if s.localizationValid = false ∧ (s.localizationError = none ∨ s.localizationError = some "") then
    .error (.memory "invalid localization needs a reason")
  else .ok s

/-- `load` where nothing was persisted; `hex` is the new generation's UUID. -/
def load (robotId controllerInstanceId hex : String) (nowMs : Int) (odometryCalibration : OdometryCalibration F)
    (hazardCalibration : HazardMapCalibration) : Except StoreError (NavigationMemoryStore F) :=
  let generation := "mapgen-" ++ hex
  let frame := robotId ++ "-local-odometry-" ++ String.ofList (lastN 12 generation.toList)
  checked {
    robotId := robotId
    controllerInstanceId := controllerInstanceId
    frameId := frame
    generationId := generation
    pose := .origin
    hazardMap := .new frame generation hazardCalibration
    updatedAtMs := nowMs
    odometryCalibration := odometryCalibration }

-- Persistence

def legacyMemorySchema : String := "robot-physical-navigation-memory/v1"
def memorySchema : String := "robot-physical-navigation-memory/v2"

def legacyKeys : List String :=
  ["schema", "robot_id", "controller_instance_id", "frame_id", "generation_id", "updated_at_ms", "pose", "map_revision",
    "hazards", "motor_positions", "drive_roles", "localization_valid", "localization_error"]

def initialV2Keys : List String := legacyKeys ++ ["hazards_evicted", "hazards_eviction_reason"]

def currentKeys : List String := initialV2Keys ++ ["scan_attempts_evicted", "scan_attempts_eviction_reason"]

def rolesDict (roles : DriveMotorRoles) : Json := .obj [("left", .str roles.left), ("right", .str roles.right)]

def positionsDict (positions : List (String × Int)) : Json := .obj (positions.map fun (role, position) => (role, .int position))

def entries (s : NavigationMemoryStore F) : List (String × Json) :=
  [("schema", .str memorySchema), ("robot_id", .str s.robotId), ("controller_instance_id", .str s.controllerInstanceId),
    ("frame_id", .str s.frameId), ("generation_id", .str s.generationId), ("updated_at_ms", .int s.updatedAtMs),
    ("pose", s.pose.toDict), ("map_revision", .int s.hazardMap.revision), ("hazards_evicted", .int s.hazardMap.hazardsEvicted),
    ("hazards_eviction_reason", Json.ofOpt (fun reason => .str reason.text) s.hazardMap.hazardsEvictionReason),
    ("scan_attempts_evicted", .int s.hazardMap.scanAttemptsEvicted),
    ("scan_attempts_eviction_reason", Json.ofOpt (fun reason => .str reason.text) s.hazardMap.scanAttemptsEvictionReason),
    ("hazards", .arr (s.hazardMap.hazards.map (·.toDict))), ("motor_positions", positionsDict s.motorPositions),
    ("drive_roles", Json.ofOpt rolesDict s.driveRoles), ("localization_valid", .bool s.localizationValid),
    ("localization_error", Json.ofOpt .str s.localizationError)]

def toDict (s : NavigationMemoryStore F) : Json := .obj s.entries

/-- `DriveMotorRoles(..)`. -/
def newRoles (left right : String) : Except StoreError DriveMotorRoles :=
  if h : MotorRoleOk left ∧ MotorRoleOk right ∧ left ≠ right then .ok ⟨left, right, h⟩
  else .error (.fault (.contract "invalid_drive_motor_roles" "Drive motor role mapping is invalid"))

def readRoles : Option Json → Except StoreError (Option DriveMotorRoles)
  | some .null => .ok none
  | some (.obj roles) =>
    if Json.HasKeys roles ["left", "right"] then
      match Json.toStr? (roles.lookup "left"), Json.toStr? (roles.lookup "right") with
      | some left, some right => some <$> newRoles left right
      | _, _ => .error (.fault (.contract "invalid_drive_motor_roles" "Drive motor role mapping is invalid"))
    else .error (.valueError "memory drive role mapping is invalid")
  | _ => .error (.valueError "memory drive role mapping is invalid")

def readPosition : String × Json → Except StoreError (String × Int)
  | (role, .int position) => .ok (role, position)
  | _ => .error (.valueError "memory motor anchors are invalid")

def readPositions : Option Json → Except StoreError (List (String × Int))
  | some (.obj positions) => positions.mapM readPosition
  | _ => .error (.valueError "memory motor anchors are invalid")

def KnownKeys (fields : List (String × Json)) : Prop :=
  Json.IsStr legacyMemorySchema (fields.lookup "schema") ∧ Json.HasKeys fields legacyKeys ∨
    Json.IsStr memorySchema (fields.lookup "schema") ∧ (Json.HasKeys fields initialV2Keys ∨ Json.HasKeys fields currentKeys)

instance : Decidable (KnownKeys fields) := inferInstanceAs (Decidable (_ ∨ _))

def valueErrors (x : Except String α) : Except StoreError α := x.mapError .valueError

/-- A field of a kind, and what is raised where it is of another. -/
def field (value : Option α) (message : String) : Except StoreError α :=
  match value with
  | some value => .ok value
  | none => .error (.valueError message)

def readMap (fields : List (String × Json)) (hazards : List ProvisionalHazard) (hazardCalibration : HazardMapCalibration) :
    Except StoreError ProvisionalHazardMap := do
  let frameId ← field (Json.toStr? (fields.lookup "frame_id")) "frame_id is invalid"
  let generationId ← field (Json.toStr? (fields.lookup "generation_id")) "map_generation_id is invalid"
  let revision ← field (Json.toInt? (fields.lookup "map_revision")) "map revision is invalid"
  let hazardsEvicted ← field (readCount (fields.lookup "hazards_evicted")) "hazard eviction state is invalid"
  let hazardsReason ← field (readReason HazardEvictionReason.ofText? (fields.lookup "hazards_eviction_reason"))
    "hazard eviction state is invalid"
  let attemptsEvicted ← field (Json.toOpt Json.toInt? (fields.lookup "scan_attempts_evicted"))
    "map scan attempt eviction state is invalid"
  let attemptsReason ← field (readReason ScanEvictionReason.ofText? (fields.lookup "scan_attempts_eviction_reason"))
    "map scan attempt eviction state is invalid"
  valueErrors (ProvisionalHazardMap.build frameId generationId hazards revision hazardCalibration hazardsEvicted
    hazardsReason attemptsEvicted attemptsReason)

def fromDict (expectedRobotId expectedControllerInstanceId : String) (odometryCalibration : OdometryCalibration F)
    (hazardCalibration : HazardMapCalibration) : Json → Except StoreError (NavigationMemoryStore F)
  | .obj fields => do
    require (KnownKeys fields) (.valueError "memory fields are invalid")
    require (Json.IsStr expectedRobotId (fields.lookup "robot_id") ∧
        Json.IsStr expectedControllerInstanceId (fields.lookup "controller_instance_id"))
      (.valueError "memory identity does not match this robot")
    let items ← field (Json.toArr? (fields.lookup "hazards")) "memory hazards are invalid"
    let positions ← readPositions (fields.lookup "motor_positions")
    let roles ← readRoles (fields.lookup "drive_roles")
    let hazards ← valueErrors (items.mapM ProvisionalHazard.fromDict)
    let hazardMap ← readMap fields hazards hazardCalibration
    let pose ← valueErrors (PhysicalPose.fromMapping ((fields.lookup "pose").getD .null))
    let localizationValid ← field (Json.toBool? (fields.lookup "localization_valid")) "localization state is invalid"
    let localizationError ← field (Json.toOpt Json.toStr? (fields.lookup "localization_error"))
      (if localizationValid then "valid localization has an error" else "invalid localization needs a reason")
    let updatedAtMs ← field (Json.toInt? (fields.lookup "updated_at_ms")) "memory time is invalid"
    checked {
      robotId := expectedRobotId
      controllerInstanceId := expectedControllerInstanceId
      frameId := hazardMap.frameId
      generationId := hazardMap.mapGenerationId
      pose := pose
      hazardMap := hazardMap
      driveRoles := roles
      motorPositions := positions
      localizationValid := localizationValid
      localizationError := localizationError
      updatedAtMs := updatedAtMs
      odometryCalibration := odometryCalibration }
  | _ => .error (.valueError "memory fields are invalid")

end NavigationMemoryStore

-- Operations

abbrev StoreProg (F : Type) := Prog (NavigationMemoryStore F) StoreError

section
variable {F : Type}

/-- `dict[role] = position` for each of them in turn. -/
def setPosition (positions : List (String × Int)) (entry : String × Int) : List (String × Int) :=
  upsert Prod.fst (fun _ _ => True) positions entry

def motorPositions (observation : WorkerObservation) (roles : DriveMotorRoles) : List (String × Int) :=
  ((observation.motors.filter fun motor => motor.role = roles.left ∨ motor.role = roles.right).map
    fun motor => (motor.role, motor.position)).foldl setPosition []

def BothDrives (positions : List (String × Int)) (roles : DriveMotorRoles) : Prop :=
  roles.left ∈ positions.map Prod.fst ∧ roles.right ∈ positions.map Prod.fst

instance : Decidable (BothDrives positions roles) := inferInstanceAs (Decidable (_ ∧ _))

def SamePositions (a b : List (String × Int)) : Prop := a.length = b.length ∧ ∀ entry ∈ a, b.lookup entry.1 = some entry.2

instance : Decidable (SamePositions a b) := inferInstanceAs (Decidable (_ ∧ _))

/-- The drives settled by no more than the limit since they were last seen. -/
def SettledOnly (current before : List (String × Int)) : Prop :=
  current.length = before.length ∧ ∀ entry ∈ current, ∃ position ∈ before.lookup entry.1,
    ((entry.2 - position).natAbs : Int) ≤ maxSessionEncoderSettlingDegrees

instance : Decidable (SettledOnly current before) := inferInstanceAs (Decidable (_ ∧ _))

/-- `save`: what becomes of the file is up to the system. -/
def save (saved : Except String Unit) : StoreProg F Unit := .ofExcept (saved.mapError .save)

def invalidateLocalization (saved : Except String Unit) (reason : String) (nowMs : Int) : StoreProg F Unit := do
  .failIf (reason = "") (.memory "localization invalidation requires a reason")
  modify fun s => { s with
    localizationValid := false
    localizationError := some reason
    updatedAtMs := max s.updatedAtMs nowMs
    hazardMap := { s.hazardMap with revision := s.hazardMap.revision + 1 } }
  save saved

/-- A call that ends with the localization given up. -/
def giveUp (saved : Except String Unit) (reason : String) (nowMs : Int) (message : String) : StoreProg F α := do
  invalidateLocalization saved reason nowMs
  throw (.memory message)

def bindDriveRoles (roles : DriveMotorRoles) : StoreProg F Unit := do
  let s ← get
  .failIf (∃ bound ∈ s.driveRoles, ¬ (bound.left = roles.left ∧ bound.right = roles.right))
    (.memory "persisted drive roles do not match the EV3 worker")
  modify fun s => { s with driveRoles := some roles }

def onMap (x : MapProg α) : StoreProg F α :=
  .mapError StoreError.map (Prog.onPart (·.hazardMap) (fun m s => { s with hazardMap := m }) x)

/-- The drives of the store, where they are bound. -/
def boundRoles (message : String) : StoreProg F DriveMotorRoles := do
  let s ← get
  match s.driveRoles with
  | some roles => pure roles
  | none => throw (.memory message)

def touchClock (nowMs : Int) : StoreProg F Unit := modify fun s => { s with updatedAtMs := max s.updatedAtMs nowMs }

end

section
variable (F : Type) [PyFloat F] (digest : List String → String)

def validated (observation : Json) : StoreProg F WorkerObservation :=
  .ofExcept ((validateObservation F observation).mapError .fault)

/-- `self.hazard_map.record_observation(self.pose, checked, int(now_ms))`. -/
def recordChecked (checked : WorkerObservation) (nowMs : Int) : StoreProg F (Option ProvisionalHazard) := do
  let s ← get
  onMap (recordObservation F digest s.pose ⟨checked.blocked, checked.raw, checked.filtered, checked.stateVersion⟩ nowMs)

/-- What the operations that take over an observation end with. -/
def takeOver (saved : Except String Unit) (positions : List (String × Int)) (checked : WorkerObservation) (nowMs : Int)
    (record : Bool) : StoreProg F (Option ProvisionalHazard) := do
  modify fun s => { s with motorPositions := positions }
  let hazard ← if record then recordChecked F digest checked nowMs else pure none
  touchClock nowMs
  save saved
  pure hazard

def beginEpisode (saved : Except String Unit) (observation : Json) (nowMs : Int) : StoreProg F Unit := do
  let checked ← validated F observation
  let roles ← boundRoles "drive motor roles were not bound from worker description"
  let current := motorPositions checked roles
  .failIf (¬ BothDrives current roles) (.memory "worker observation lacks configured drive roles")
  let s ← get
  if s.motorPositions ≠ [] ∧ ¬ SamePositions current s.motorPositions ∧ ¬ SettledOnly current s.motorPositions then
    giveUp saved "Drive encoders changed while the host was not observing" nowMs
      "persisted motor anchor no longer matches the robot"
  else do
    modify fun s => { s with motorPositions := current }
    touchClock nowMs
    discard (recordChecked F digest checked nowMs)
    save saved

def ingestStationaryObservation (saved : Except String Unit) (observation : Json) (nowMs : Int) :
    StoreProg F (Option ProvisionalHazard) := do
  let checked ← validated F observation
  let roles ← boundRoles "drive motor roles are not bound"
  let positions := motorPositions checked roles
  .failIf (¬ BothDrives positions roles) (.memory "worker observation lacks configured drive roles")
  let s ← get
  if s.motorPositions ≠ [] ∧ ¬ SamePositions positions s.motorPositions then
    giveUp saved "Drive encoders changed during a stationary observation" nowMs
      "unobserved physical motion invalidated localization"
  else takeOver F digest saved positions checked nowMs true

def ingestVerifiedScanCompletion (saved : Except String Unit) (observation : Json)
    (restoredStartHeading stopConfirmed : Bool) (nowMs : Int) : StoreProg F (Option ProvisionalHazard) := do
  let checked ← validated F observation
  let roles ← boundRoles "drive motor roles are not bound"
  if restoredStartHeading = false ∨ stopConfirmed = false then
    giveUp saved "Active scan did not verify restoration and motor stop" nowMs
      "active scan cannot safely re-anchor localization"
  else
    let positions := motorPositions checked roles
    if ¬ BothDrives positions roles then
      giveUp saved "Post-scan observation lacks configured drive roles" nowMs
        "post-scan observation lacks configured drive roles"
    else takeOver F digest saved positions checked nowMs true

/-- The motion of a result, applied to the pose, and the observation after it. -/
def localizeMotion (action : Action) (result : Json) : StoreProg F WorkerObservation := do
  let roles ← boundRoles "drive motor roles are not bound"
  let motion ← .ofExcept ((verifiedMotionFromResult F action result roles).mapError .fault)
  let checked ← validated F ((result.get? "observation").getD .null)
  let s ← get
  let pose ← .ofExcept ((applyVerifiedMotion F s.pose motion s.odometryCalibration 0).mapError .fault)
  modify fun s => { s with pose }
  pure checked

/-- `except PhysicalNavigationContractError`. -/
def motionNotLocalized (saved : Except String Unit) (nowMs : Int) : StoreError → StoreProg F WorkerObservation
  | .fault (.contract code message) =>
    giveUp saved ("Unverifiable physical motion: " ++ code) nowMs ("motion could not be localized: " ++ message)
  | error => throw error

def applyMotionResult (saved : Except String Unit) (action : Action) (result : Json) (nowMs : Int)
    (recordHazardEvidence : Bool) : StoreProg F (Option ProvisionalHazard) := do
  .failIf (¬ action.IsMotion) (.memory "action is not motion")
  let checked ← tryCatch (localizeMotion F action result) (motionNotLocalized F saved nowMs)
  let roles ← boundRoles "drive motor roles are not bound"
  let positions := motorPositions checked roles
  if ¬ BothDrives positions roles then
    giveUp saved "Motion result lacks configured drive motor roles" nowMs
      "worker motion observation lacks configured drive roles"
  else takeOver F digest saved positions checked nowMs recordHazardEvidence

/-- `except PhysicalNavigationContractError` of a heading trim. -/
def trimNotValid (saved : Except String Unit) (nowMs : Int) (error : StoreError) : StoreProg F WorkerObservation :=
  match error with
  | .fault (.contract ..) => giveUp saved "Unverifiable route heading trim" nowMs "heading trim sample is invalid"
  | error => throw error

def ingestVerifiedHeadingTrim (saved : Except String Unit) (observation : Json) (nowMs : Int) :
    StoreProg F (Option ProvisionalHazard) := do
  let checked ← tryCatch (validated F observation) (trimNotValid F saved nowMs)
  let s ← get
  match s.driveRoles with
  | none => giveUp saved "Unverifiable route heading trim" nowMs "drive motor roles are not bound"
  | some roles =>
    let positions := motorPositions checked roles
    if ¬ BothDrives positions roles then
      giveUp saved "Unverifiable route heading trim" nowMs "heading trim sample lacks configured drive roles"
    else takeOver F digest saved positions checked nowMs true

/-- The operations on a store and, through it, on its map. -/
inductive StoreOp where
  | beginEpisode (observation : Json) (nowMs : Int)
  | invalidateLocalization (reason : String) (nowMs : Int)
  | bindDriveRoles (roles : DriveMotorRoles)
  | ingestStationaryObservation (observation : Json) (nowMs : Int)
  | ingestVerifiedScanCompletion (observation : Json) (restoredStartHeading stopConfirmed : Bool) (nowMs : Int)
  | applyMotionResult (action : Action) (result : Json) (nowMs : Int) (recordHazardEvidence : Bool)
  | ingestVerifiedHeadingTrim (observation : Json) (nowMs : Int)
  | hazardMap (op : HazardOp)

def StoreOp.run (saved : Except String Unit) : StoreOp → StoreProg F (Option ProvisionalHazard)
  | .beginEpisode observation nowMs => do
    Memory.beginEpisode F digest saved observation nowMs
    pure none
  | .invalidateLocalization reason nowMs => do
    Memory.invalidateLocalization saved reason nowMs
    pure none
  | .bindDriveRoles roles => do
    Memory.bindDriveRoles roles
    pure none
  | .ingestStationaryObservation observation nowMs => Memory.ingestStationaryObservation F digest saved observation nowMs
  | .ingestVerifiedScanCompletion observation restored stopped nowMs =>
    Memory.ingestVerifiedScanCompletion F digest saved observation restored stopped nowMs
  | .applyMotionResult action result nowMs record => Memory.applyMotionResult F digest saved action result nowMs record
  | .ingestVerifiedHeadingTrim observation nowMs => Memory.ingestVerifiedHeadingTrim F digest saved observation nowMs
  | .hazardMap op => onMap fun m => (hazardMachine F digest).step m op

/-- An input is an operation and how its saving goes. -/
def storeMachine : Machine (NavigationMemoryStore F) (StoreOp × Except String Unit)
    (Except StoreError (Option ProvisionalHazard)) where
  step s input := input.1.run F digest input.2 s

end

end RobotLlm.Memory
