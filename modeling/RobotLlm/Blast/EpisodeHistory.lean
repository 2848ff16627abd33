import Mathlib.Algebra.Order.Ring.Cast
import RobotLlm.Lib.PyValue

/-!
# Which way an episode may go back

The history of an episode holds what was done and how the wheels moved. The robot
may drive back when a full current scan shows the way, or along a way it drove
forward before and has not taken back since.
-/

namespace RobotLlm.Blast.Episode

open RobotLlm.Lib

variable {R : Type} [Ring R] [LinearOrder R]

abbrev HistoryItem (R : Type) := PyDict R

def advance : String := "ADVANCE"
def reverse : String := "REVERSE"
def turnLeft90 : String := "TURN_LEFT_90"
def turnRight90 : String := "TURN_RIGHT_90"
def scanFrontArc : String := "SCAN_FRONT_ARC"
def scanSurroundings : String := "SCAN_SURROUNDINGS"
def followWaypoint : String := "FOLLOW_WAYPOINT"

/-- The keys of `ACTION_COMMANDS`. -/
def actionCommands : List String := [advance, reverse, turnLeft90, turnRight90]

/-- `item.get("action") in actions`. -/
def actionIn (actions : List String) (item : HistoryItem R) : Bool :=
  actions.any fun action => (PyValue.field item "action").isStr action

/-- `_scan_is_current`, the latest entry first. -/
def scanIsCurrentFrom : List (HistoryItem R) → Bool
  | [] => false
  | item :: rest =>
    if actionIn [scanFrontArc, scanSurroundings] item then true
    else if actionIn actionCommands item then false
    else scanIsCurrentFrom rest

def scanIsCurrent (history : List (HistoryItem R)) : Bool := scanIsCurrentFrom history.reverse

/-- A number that is no truth value, within these bounds. -/
def inRange (least greatest : Int) : PyValue R → Bool
  | .int value => least ≤ value && value ≤ greatest
  | .float value => (least : R) ≤ value && value ≤ (greatest : R)
  | _ => false

def currentScanSupportsBoundedReverse (history : List (HistoryItem R)) (latestScanView : PyValue R) : Bool :=
  match latestScanView with
  | .dict view =>
    scanIsCurrent history &&
      match PyValue.field view "scan" with
      | .dict scan =>
        (PyValue.field scan "state").isStr "complete" &&
        (PyValue.field scan "result").isStr "restored" &&
        (PyValue.field scan "restoration_verified").bool? = some true &&
        inRange 350 390 (PyValue.field scan "sweep_coverage_deg")
      | _ => false
  | _ => false

/-- The motion was measured, and neither wheel moved. -/
def zeroMotion (item : HistoryItem R) : Bool :=
  match PyValue.field item "motion" with
  | .dict motion => ["left", "right"].all fun side => (PyValue.field motion (side ++ "_encoder_delta_degrees")).equals (.int 0)
  | _ => false

def completed (item : HistoryItem R) : Bool :=
  match PyValue.field item "motion" with
  | .dict motion => (PyValue.field motion "command_completed").bool? = some true
  | _ => false

/-- A quarter turn of which every slice that was observed was verified. -/
def verifiedTurn (item : HistoryItem R) : Bool :=
  actionIn [turnLeft90, turnRight90] item &&
    match PyValue.field item "motion" with
    | .dict motion =>
      match PyValue.field motion "verified_slice_count" with
      | .int verified => 1 ≤ verified && (PyValue.field motion "observed_slice_count").equals (.int verified)
      | _ => false
    | _ => false

/-- A waypoint that the validation of the route gave up. -/
def routeValidation (item : HistoryItem R) : Bool :=
  actionIn [followWaypoint] item && (PyValue.field item "action_source").isStr "ROUTE_VALIDATION"

/-- The loop over the history, the latest entry first. -/
def allowsReverseFrom (unmatchedReverses : Nat) : List (HistoryItem R) → Bool
  | [] => false
  | item :: rest =>
    if zeroMotion item then allowsReverseFrom unmatchedReverses rest
    else if actionIn [advance] item then
      if completed item then
        match unmatchedReverses with
        | 0 => true
        | unmatched + 1 => allowsReverseFrom unmatched rest
      else false
    else if actionIn [reverse] item then
      if completed item then allowsReverseFrom (unmatchedReverses + 1) rest else false
    else if actionIn [scanFrontArc, scanSurroundings] item then allowsReverseFrom unmatchedReverses rest
    else if verifiedTurn item then allowsReverseFrom unmatchedReverses rest
    else if routeValidation item then allowsReverseFrom unmatchedReverses rest
    else false

def completedAdvanceAllowsBoundedReverse (history : List (HistoryItem R)) : Bool :=
  allowsReverseFrom 0 history.reverse

-- How a history is built

/-- An entry, and the view of the latest scan when its action was chosen. -/
structure Appended (R : Type) where
  item : HistoryItem R
  latestScanView : PyValue R

def history (steps : List (Appended R)) : List (HistoryItem R) := steps.map Appended.item

/-- A reverse is appended only where a scan covers it or an advance allows it, as
`_available_actions` offers it. -/
def MayAppend (steps : List (Appended R)) (step : Appended R) : Prop :=
  actionIn [reverse] step.item = true → currentScanSupportsBoundedReverse (history steps) step.latestScanView = false →
    completedAdvanceAllowsBoundedReverse (history steps) = true

inductive Built : List (Appended R) → Prop
  | nil : Built []
  | append {steps : List (Appended R)} {step : Appended R} (hbuilt : Built steps) (hmay : MayAppend steps step) :
      Built (steps ++ [step])

end RobotLlm.Blast.Episode
