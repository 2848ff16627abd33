import RobotLlm.Blast.MotionExecution
import RobotLlm.Navigation.Contract

/-!
# Stationary evidence

The robot does not move while the collector asks its controller at most twice
for a settled range. What the outside says is a function of how many things
were asked of it before, so that the session's generation, which may change at
any moment, has a value at each of these moments.
-/

namespace RobotLlm.Blast

open RobotLlm.Lib RobotLlm.Odometry

-- The outside

structure BlastControllerError where
  code : String
  message : String
deriving DecidableEq

/-- What each call gives, by the number of calls before it. -/
structure Outside where
  sessionGeneration : Nat → Int
  monotonicMs : Nat → Int
  controlOutcome : Nat → Except Fault (Option Json)
  snapshot : Nat → Except BlastControllerError Json
  command : Nat → Except BlastControllerError Json

/-- The arguments that the checks at the start let pass. -/
structure EvidenceRequest (F : Type) [PyFloat F] where
  /-- `left_drive` and `right_drive` of `expected_drive_angles`, as floats. -/
  expected : F × F
  minimumSafeDistanceMm : F
  bodyValid : List (String × Json) → Bool
  maxObservationAgeMs : Int
  reconnectPollLimit : Nat
  minimumOk : PyMath.le (PyMath.ofInt 0) minimumSafeDistanceMm = true
  maxObservationAgeOk : 0 ≤ maxObservationAgeMs ∧ maxObservationAgeMs ≤ 60000
  reconnectPollLimitOk : 1 ≤ reconnectPollLimit ∧ reconnectPollLimit ≤ 1000

/-- `_navigation_body_valid`, with the provisional calibration's reference. -/
def navigationBodyValid (observation : List (String × Json)) : Bool :=
  match observation.lookup "motor_angles_deg" with
  | some (.obj motors) =>
    match motors.lookup "body" with
    | some (.int value) => (value - 158).natAbs ≤ 1
    | _ => false
  | _ => false

def maxSettledAttempts : Nat := 2

def reconnectErrors : List String :=
  ["blast_observation_unavailable", "blast_observation_stale", "controller_command_timeout", "controller_unavailable",
    "stale_controller_command"]

-- Reading one observation

section
variable (F : Type) [PyFloat F]

/-- `a == b`, of floats. -/
def floatEq (a b : F) : Bool := PyMath.le a b && PyMath.le b a

/-- `abs(a)`. -/
def floatAbs (a : F) : F := if PyMath.lt a (PyMath.ofInt 0) then PyFloat.neg a else a

inductive RangeState where
  | measured
  | noValidDistance
  | invalid
deriving DecidableEq

def blastRangeState (distanceMm : Option Json) : Except Fault RangeState := do
  match ← finiteNumber F distanceMm with
  | none => .ok .invalid
  | some value =>
    if (PyMath.le (PyMath.ofInt 0) value && PyMath.le value (PyMath.ofInt 2000)) = false then .ok .invalid
    else if floatEq F value (PyMath.ofInt 2000) then .ok .noValidDistance
    else .ok .measured

inductive DriveState where
  | matched
  | missing
  | discontinuous
deriving DecidableEq

/-- The two drive encoders of an observation, as floats; `_drive_angles`. -/
def driveAngles (observation : List (String × Json)) : Except Fault (Option (F × F)) :=
  match observation.lookup "motor_angles_deg" with
  | some (.obj motors) => do
    let left ← finiteNumber F (motors.lookup "left_drive")
    let right ← finiteNumber F (motors.lookup "right_drive")
    match left, right with
    | some left, some right => .ok (some (left, right))
    | _, _ => .ok none
  | _ => .ok none

/-- `==` of what `driveAngles` gives. -/
def sameAngles : Option (F × F) → Option (F × F) → Bool
  | some a, some b => floatEq F a.1 b.1 && floatEq F a.2 b.2
  | none, none => true
  | _, _ => false

/-- `abs(value - reference) <= 1.0`. -/
def withinOneDegree (value reference : F) : Bool := PyMath.le (floatAbs F (PyMath.sub value reference)) (PyMath.ofInt 1)

def driveState (observation : List (String × Json)) (expected : F × F) : Except Fault DriveState := do
  match ← driveAngles F observation with
  | none => .ok .missing
  | some actual =>
    .ok (if withinOneDegree F actual.1 expected.1 && withinOneDegree F actual.2 expected.2 then .matched else .discontinuous)

end

def SnapshotIdentityValid (snapshot : List (String × Json)) : Prop :=
  Json.IsStr robotId (snapshot.lookup "robot_id") ∧ Json.IsStr controllerId (snapshot.lookup "controller_id")

instance : Decidable (SnapshotIdentityValid snapshot) := inferInstanceAs (Decidable (_ ∧ _))

/-- The identity that a settled receipt must have. -/
def ReceiptIdentity (result : List (String × Json)) : Prop :=
  Json.IsStr robotId (result.lookup "robot_id") ∧ Json.IsStr controllerId (result.lookup "controller_id") ∧
    Json.IsStr "observe_settled" (result.lookup "command") ∧ Json.IsTrue (result.lookup "accepted") ∧
    Json.IsTrue (result.lookup "completed")

instance : Decidable (ReceiptIdentity result) := inferInstanceAs (Decidable (_ ∧ _ ∧ _ ∧ _ ∧ _))

/-- `value.get("observation")`, where it is an object. -/
def observationOf (holder : List (String × Json)) : Option (List (String × Json)) :=
  match holder.lookup "observation" with
  | some (.obj observation) => some observation
  | _ => none

def fieldsOf : Json → List (String × Json)
  | .obj fields => fields
  | _ => []

/-- The observation of a receipt that has the identity. -/
def receiptObservation : Json → Option (List (String × Json))
  | .obj result => if ReceiptIdentity result then observationOf result else none
  | _ => none

def onlineSnapshot : Json → Option (List (String × Json))
  | .obj snapshot =>
    if SnapshotIdentityValid snapshot ∧ Json.IsStr "online" (snapshot.lookup "state") then some snapshot else none
  | _ => none

section
variable {F : Type} [PyFloat F] (q : EvidenceRequest F)

/-- `_commandable_snapshot`: whether it is, and the reason. -/
def commandableSnapshot (snapshot : Json) : Except Fault (Bool × String) :=
  match snapshot with
  | .obj fields =>
    if ¬ SnapshotIdentityValid fields then .ok (false, "snapshot_identity_invalid")
    else if ¬ Json.IsStr "online" (fields.lookup "state") then .ok (false, "controller_offline")
    else
      match observationOf fields with
      | none => .ok (false, "observation_missing")
      | some observation =>
        if ¬ Json.IsFalse (observation.lookup "motion_active") then .ok (false, "motion_not_idle")
        else do
          match ← driveState F observation q.expected with
          | .matched => .ok (true, "stationary_anchor_matched")
          | .discontinuous => .ok (false, "drive_encoder_discontinuity")
          | .missing => .ok (false, "drive_encoders_missing")
  | _ => .ok (false, "snapshot_identity_invalid")

/-- The conjunction of the three checks of one observation. -/
def stationary (observation : List (String × Json)) : Except Fault Bool :=
  if ¬ Json.IsFalse (observation.lookup "motion_active") then .ok false
  else do
    match ← driveState F observation q.expected with
    | .matched => .ok (q.bodyValid observation)
    | .discontinuous | .missing => .ok false

/-- Whether a causal snapshot can be read, and its observation. -/
def causalObservation (snapshot : Json) (issuedAfterMs nowMs : Int) : Option (List (String × Json)) := do
  let fields ← onlineSnapshot snapshot
  let observation ← observationOf fields
  let observedMs ← Json.toInt? (fields.lookup "last_observed_at_monotonic_ms")
  if issuedAfterMs < observedMs ∧ 0 ≤ nowMs - observedMs ∧ nowMs - observedMs ≤ q.maxObservationAgeMs then some observation
  else none

/-- What is known of one observation: whether it is stationary, and if so its
range. -/
structure Seen where
  stationary : Bool
  state : RangeState
  distance : Option F

/-- An observation that is missing, or not stationary, has no distance. -/
def see : Option (List (String × Json)) → Except Fault (Seen (F := F))
  | none => .ok ⟨false, .invalid, none⟩
  | some observation => do
    if ← stationary q observation then do
      let state ← blastRangeState F (observation.lookup "distance_mm")
      let distance ← finiteNumber F (observation.lookup "distance_mm")
      .ok ⟨true, state, distance⟩
    else .ok ⟨false, .invalid, none⟩

def Seen.unsafe_ (seen : Seen (F := F)) : Bool :=
  seen.state = .measured && seen.distance.any fun distance => PyMath.le distance q.minimumSafeDistanceMm

def Seen.safe (seen : Seen (F := F)) : Bool :=
  seen.distance.any fun distance => PyMath.lt q.minimumSafeDistanceMm distance

inductive Classification where
  | measuredSafe
  | exactNvd
  | hard (reason : String)
  /-- Another attempt may be made. -/
  | open_ (reason : String)
deriving DecidableEq

/-- `_receipt_classification`, of a session that has not changed. -/
def receiptClassification (result snapshot : Json) (issuedAfterMs nowMs : Int) : Except Fault Classification := do
  let resultObservation := receiptObservation result
  let snapshotObservation := causalObservation q snapshot issuedAfterMs nowMs
  let fromResult ← see q resultObservation
  let fromSnapshot ← see q snapshotObservation
  if fromResult.unsafe_ q || fromSnapshot.unsafe_ q then .ok (.hard "measured_clearance_unsafe")
  else if (resultObservation.isSome && !fromResult.stationary) || (snapshotObservation.isSome && !fromSnapshot.stationary) then
    .ok (.hard "stationary_integrity_unverified")
  else
    match resultObservation, snapshotObservation with
    | none, _ => .ok (.open_ "settled_receipt_incomplete")
    | some _, none => .ok (.open_ "settled_snapshot_not_causal")
    | some received, some observed => do
      let receivedAngles ← driveAngles F received
      let observedAngles ← driveAngles F observed
      if sameAngles F receivedAngles observedAngles = false then .ok (.hard "stationary_integrity_unverified")
      else if ¬ Json.IsTrue (result.get? "observation_settled") then .ok (.open_ "settled_receipt_incomplete")
      else if fromResult.state = .noValidDistance ∧ fromSnapshot.state = .noValidDistance then .ok .exactNvd
      else if fromResult.state = .measured ∧ fromSnapshot.state = .measured then
        .ok (if fromResult.safe q && fromSnapshot.safe q then .measuredSafe else .hard "measured_clearance_unsafe")
      else .ok (.open_ "settled_range_unmatched_or_invalid")

end

-- Collecting

inductive EvidenceStatus where
  | measuredSafe
  | exactNvd
  | exhausted
  | controlled
deriving DecidableEq

structure EvidenceOutcome where
  status : EvidenceStatus
  settledAttempts : Nat
  reconnectGenerations : Nat
  observation : Option (List (String × Json)) := none
  receipt : Option (List (String × Json)) := none
  control : Option Json := none
  reason : Option String := none

/-- The checks of `__post_init__` that the types leave. -/
def EvidenceOutcome.new (o : EvidenceOutcome) : Except Fault EvidenceOutcome := do
  require (o.settledAttempts ≤ maxSettledAttempts ∧ o.reconnectGenerations ≤ 1 ∧
    ∀ reason ∈ o.reason, reason ≠ "" ∧ Navigation.strip reason.toList = reason.toList) (.python "ValueError")
  require ((o.status = .measuredSafe ∨ o.status = .exactNvd) → o.observation.isSome ∧ o.receipt.isSome) (.python "ValueError")
  require (o.status = .controlled → o.control.isSome) (.python "ValueError")
  .ok o

/-- The locals of the collector, and how many calls were made. -/
structure Collecting where
  asked : Nat := 0
  /-- At which of them a command was issued, the last one first. -/
  commands : List Nat := []
  attempts : Nat := 0
  reconnects : Nat := 0
  polls : Nat := 0
  activeGeneration : Int
  requireNewGeneration : Option Int := none

abbrev Collector := Prog Collecting Fault

def ask (answer : Nat → α) : Collector α := fun s => (.ok (answer s.asked), { s with asked := s.asked + 1 })

section
variable {F : Type} [PyFloat F] (q : EvidenceRequest F) (o : Outside)

def finish (status : EvidenceStatus) (observation receipt : Option (List (String × Json))) (control : Option Json)
    (reason : Option String) : Collector (Option EvidenceOutcome) := do
  let s ← get
  let outcome ← Prog.ofExcept
    (EvidenceOutcome.new ⟨status, s.attempts, s.reconnects, observation, receipt, control, reason⟩)
  return some outcome

def exhausted (reason : String) : Collector (Option EvidenceOutcome) := finish .exhausted none none none (some reason)

/-- `controlled`, and what follows if nobody takes control. -/
def unlessControlled (next : Collector (Option EvidenceOutcome)) : Collector (Option EvidenceOutcome) := do
  let answer ← ask o.controlOutcome
  match ← Prog.ofExcept answer with
  | some value => finish .controlled none none (some value) none
  | none => next

def noteGeneration (value : Int) : Collector (Option String) := do
  let s ← get
  if value < 0 then return some "session_generation_invalid"
  else if value = s.activeGeneration then return none
  else if s.reconnects ≥ 1 then return some "reconnect_generation_exhausted"
  else do
    modify fun s => { s with reconnects := s.reconnects + 1, activeGeneration := value }
    return none

/-- A call of the controller, whose error ends the collection. -/
def askSnapshot : Collector Json := do
  match ← ask o.snapshot with
  | .ok snapshot => return snapshot
  | .error error => throw (.controller error.code error.message none)

/-- What follows a snapshot that no command may rest on. -/
def waitForSession (reason : String) : Collector (Option EvidenceOutcome) := do
  if reason = "drive_encoder_discontinuity" ∨ reason = "motion_not_idle" then exhausted reason
  else do
    modify fun s => { s with polls := s.polls + 1 }
    let s ← get
    if s.polls ≥ q.reconnectPollLimit then exhausted reason
    else do
      ask fun _ => ()
      return none

def commandFailed (issuedGeneration : Int) (error : BlastControllerError) : Collector (Option EvidenceOutcome) :=
  unlessControlled o do
    let generation ← ask o.sessionGeneration
    match ← noteGeneration generation with
    | some reason => exhausted reason
    | none =>
      if error.code ∉ reconnectErrors then exhausted error.code
      else do
        modify fun s => { s with requireNewGeneration := some issuedGeneration }
        let s ← get
        if s.attempts ≥ maxSettledAttempts then exhausted error.code else return none

def conclude (result snapshot : Json) : Classification → Collector (Option EvidenceOutcome)
  | .measuredSafe => unlessControlled o (finish .measuredSafe (observationOf (fieldsOf snapshot)) (some (fieldsOf result)) none none)
  | .exactNvd => unlessControlled o (finish .exactNvd (observationOf (fieldsOf snapshot)) (some (fieldsOf result)) none none)
  | .hard reason => exhausted reason
  | .open_ reason => do
    let s ← get
    if s.attempts ≥ maxSettledAttempts then exhausted reason else return none

/-- `_receipt_classification`, which reads the clock if the session is the same. -/
def classify (result snapshot : Json) (issuedAfterMs issuedGeneration currentGeneration : Int) : Collector Classification := do
  if issuedGeneration ≠ currentGeneration then return .open_ "settled_snapshot_not_causal"
  else do
    let nowMs ← ask o.monotonicMs
    Prog.ofExcept (receiptClassification q result snapshot issuedAfterMs nowMs)

def commandReturned (issuedAfterMs issuedGeneration : Int) (result : Json) : Collector (Option EvidenceOutcome) :=
  unlessControlled o do
    let resultGeneration ← ask o.sessionGeneration
    match ← noteGeneration resultGeneration with
    | some reason => exhausted reason
    | none => do
      let snapshot ← askSnapshot o
      let snapshotGeneration ← ask o.sessionGeneration
      match ← noteGeneration snapshotGeneration with
      | some reason => exhausted reason
      | none => do
        let classification ← classify q o result snapshot issuedAfterMs issuedGeneration snapshotGeneration
        conclude o result snapshot classification

/-- `issued_after_ms`, of the snapshot before the command. -/
def issuedAfter (snapshot : Json) : Int := (Json.toInt? (snapshot.get? "last_observed_at_monotonic_ms")).getD (-1)

def attempt (snapshot : Json) : Collector (Option EvidenceOutcome) := do
  modify fun s => { s with requireNewGeneration := none }
  let s ← get
  modify fun s => { s with attempts := s.attempts + 1, commands := s.asked :: s.commands }
  match ← ask o.command with
  | .error error => commandFailed o s.activeGeneration error
  | .ok result => commandReturned q o (issuedAfter snapshot) s.activeGeneration result

/-- The two readings of the generation around a snapshot. -/
def noteBoth (after : Int) (first : Option String) : Collector (Option String) :=
  match first with
  | some reason => return some reason
  | none => noteGeneration after

def collectOnce : Collector (Option EvidenceOutcome) :=
  unlessControlled o do
    let beforeGeneration ← ask o.sessionGeneration
    let first ← noteGeneration beforeGeneration
    let snapshot ← askSnapshot o
    let afterGeneration ← ask o.sessionGeneration
    match ← noteBoth afterGeneration first with
    | some reason => exhausted reason
    | none => do
      let (commandable, reason) ← Prog.ofExcept (commandableSnapshot q snapshot)
      let s ← get
      if beforeGeneration ≠ afterGeneration ∨ s.requireNewGeneration = some s.activeGeneration ∨ commandable = false then
        waitForSession q reason
      else attempt q o snapshot

/-- `while attempts < MAX_SETTLED_ATTEMPTS`, for at most so many turns. -/
def collectLoop : Nat → Collector (Option EvidenceOutcome)
  | 0 => return none
  | n + 1 => do
    let s ← get
    if s.attempts ≥ maxSettledAttempts then exhausted "settled_attempts_exhausted"
    else
      match ← collectOnce q o with
      | some outcome => return some outcome
      | none => collectLoop n

/-- `collect_blast_stationary_evidence`; `none` if the turns were too few. -/
def collectBlastStationaryEvidence : Except Fault (Option EvidenceOutcome) × Collecting :=
  let generation := o.sessionGeneration 0
  if generation < 0 then (.error (.python "ValueError"), { asked := 1, activeGeneration := generation })
  else collectLoop q o (maxSettledAttempts + q.reconnectPollLimit + 1) { asked := 1, activeGeneration := generation }

end

end RobotLlm.Blast
