import RobotLlm.Physical.Availability

/-!
# The turns of a navigation run

One turn refreshes the facts, lets the executor of an authorized route move,
asks the planner, and carries its decision out. What motors, sensors, clocks
and the model answer is given by the turn and the attempt.
-/

namespace RobotLlm.Physical

open RobotLlm.Odometry (Action)

/-- What the executor of the local route leaves as the last tool result. -/
inductive Handoff where
  /-- The executor did not run. -/
  | skipped
  /-- It handed over before it moved or was vetoed. -/
  | unmoved
  /-- A pulse, a veto of the route, or a probe of the passed side. -/
  | pulse
  | vetoed
  | passSideProbe
deriving DecidableEq

/-- `_with_handoff`, which keeps the operation of the result if it has one. -/
def Handoff.apply (handoff : Handoff) (last : Option ToolResult) : Option ToolResult :=
  match handoff with
  | .skipped => last
  | .unmoved => some (last.getD ⟨"local_detour_route", none⟩)
  | .pulse => some ⟨"pulse", none⟩
  | .vetoed => some ⟨"local_detour_route", none⟩
  | .passSideProbe => some ⟨"pass_side_probe", none⟩

inductive Prelude where
  /-- Cancelled, out of time, or a fault. -/
  | ends (reason : String)
  | asks (facts : TurnFacts) (handoff : Handoff)

/-- A call of the planner: what it was shown of the actions. -/
structure PlannerCall where
  turn : Nat
  facts : TurnFacts
  lastToolResult : Option ToolResult
  availableActions : List Action

/-- The answer to one inference, or of `decide`. -/
inductive Answer where
  /-- A decision; `valid` where mission and maneuver accept it. -/
  | decision (action : Action) (valid : Bool)
  /-- `LMStudioNavigationDecisionError`. -/
  | invalid
  /-- Any other `LMStudioNavigationError`. -/
  | failed
deriving DecidableEq

/-- What an action left behind, or why the run ended in it. -/
inductive Carried where
  | ends (reason : String)
  | leaves (result : ToolResult)

structure World where
  turn : Nat → Prelude
  /-- The model, by turn and attempt. -/
  infer : Nat → Nat → PlannerCall → Answer
  /-- `_post_planner_gate` after each attempt. -/
  gate : Nat → Nat → Option String
  /-- The gate before a decision is carried out. -/
  dispatch : Nat → Option String
  /-- The gain that an observation made. -/
  observed : Nat → Except String String
  /-- A scan, or a motion with its tail: only whether it ended the run. -/
  carried : Nat → Option String

structure RunConfig where
  maxTurns : Nat
  maxValidationAttempts : Nat
  attempts : 1 ≤ maxValidationAttempts

/-- The actions of the answer schema: a scan needs a target. -/
def plannerActions (call : PlannerCall) : List Action :=
  call.availableActions.filter fun action => action != .scanFrontArc || !(scanEligibleIds call.facts).isEmpty

/-- `LMStudioNavigationPlanner.decide`, as far as the actions decide. -/
def plannerDecide (world : World) (attempt : Nat) (call : PlannerCall) : Answer :=
  if (plannerActions call).isEmpty then .failed
  else
    match world.infer call.turn attempt call with
    | .decision action valid => if (plannerActions call).contains action then .decision action valid else .invalid
    | answer => answer

inductive Decided where
  | action (action : Action)
  | nothing
  | ends (reason : String)
deriving DecidableEq

/-- The loop of `_validated_decision`, with the attempts that are left. -/
def validatedDecision (world : World) (call : PlannerCall) (attempt : Nat) : Nat → Decided
  | 0 => .nothing
  | left + 1 =>
    let answer := plannerDecide world attempt call
    match world.gate call.turn attempt with
    | some reason => .ends reason
    | none =>
      match answer with
      | .decision action true => .action action
      | .decision _ false | .invalid => validatedDecision world call (attempt + 1) left
      | .failed => if left = 0 then .ends "planner_unavailable" else validatedDecision world call (attempt + 1) left

structure RunResult where
  calls : List PlannerCall
  terminalReason : String
  completed : Bool

/-- What an action leaves as the last tool result. -/
def carryOut (world : World) (turn : Nat) (action : Action) : Carried :=
  match action with
  | .observe =>
    match world.observed turn with
    | .ok gain => .leaves ⟨"observe", some gain⟩
    | .error reason => .ends reason
  | .scanFrontArc =>
    match world.carried turn with
    | some reason => .ends reason
    | none => .leaves ⟨"SCAN_FRONT_ARC", none⟩
  | _ =>
    match world.carried turn with
    | some reason => .ends reason
    | none => .leaves ⟨"pulse", none⟩

/-- What becomes of a call; `next` are the turns after it. -/
def afterCall (world : World) (config : RunConfig) (call : PlannerCall) (deferred : Bool) (next : Option ToolResult → Bool → RunResult) :
    RunResult :=
  match validatedDecision world call 1 config.maxValidationAttempts with
  | .ends reason => ⟨[], reason, false⟩
  | .nothing => if deferred then ⟨[], "reasoning_unavailable", false⟩ else next call.lastToolResult true
  | .action action =>
    match world.dispatch call.turn with
    | some reason => ⟨[], reason, false⟩
    | none =>
      if action = .finish then ⟨[], "goal_completed", true⟩
      else
        match carryOut world call.turn action with
        | .ends reason => ⟨[], reason, false⟩
        | .leaves result => next (some result) false

/-- The loop over the turns, with the turns that are left. -/
def turns (world : World) (config : RunConfig) : Nat → Nat → Option ToolResult → Bool → RunResult
  | 0, _, _, _ => ⟨[], "turn_budget_exhausted", false⟩
  | left + 1, turn, last, deferred =>
    match world.turn turn with
    | .ends reason => ⟨[], reason, false⟩
    | .asks facts handoff =>
      -- An answer that was refused in the last turn keeps the executor back.
      let last := if deferred then last else handoff.apply last
      let call : PlannerCall := ⟨turn, facts, last, availableActions facts last⟩
      let rest := afterCall world config call deferred (turns world config left (turn + 1))
      { rest with calls := call :: rest.calls }

def run (world : World) (config : RunConfig) : RunResult := turns world config config.maxTurns 1 none false

end RobotLlm.Physical
