/-
One visit of a run to a node. A visit reads and changes the state of the run and
the world of the handlers. A visit that fails leaves the state as it was: nothing
that a failed attempt wrote into the context is kept.
-/
import DurableWorkflow.Graph.Behaviour
import DurableWorkflow.Action.Handler
import DurableWorkflow.Retry
import DurableWorkflow.Run
import DurableWorkflow.Settings

namespace DurableWorkflow.Graph

open Time (Instant)

-- ============================================================= types

/-- What of a run lives on between visits. -/
structure State where
  current : String
  context : Context
  cursors : Cursors

/-- The state of a stored run. -/
def State.ofRun (r : Run) : State := ⟨r.currentNode, r.context, r.loopCursors⟩

/-- What a run finds around it: handlers, a clock and settings. -/
structure Surroundings (σ : Type) where
  registry : Registry σ
  now : σ → Instant × σ
  settings : EngineSettings

/-- Where a run goes after a visit that succeeds. -/
inductive Move
  | goto (next : String)
  | finish
  | suspend (next : String) (resumeAt : Instant)
deriving DecidableEq, Repr

/-- What a visit that succeeds leaves behind. -/
structure Arrival where
  move : Move
  context : Context
  cursors : Cursors

/-- A visit: its step, how it ended, and the world after it. -/
structure Visit (σ : Type) where
  step : Step
  outcome : Except Failure Arrival
  world : σ

/-- The key of the context that holds the result of the last action. -/
def lastResultKey : String := "last_action_result"

variable {σ : Type}

-- =========================================================== actions

/-- Performs an action, and again as often as `left` says while it fails in a way
that may pass; `attempt` attempts were made before. Each attempt begins with the
same context. -/
def perform (s : Surroundings σ) (n : Node) (spec : ActionSpec) (state : State) (step : Step) :
    Nat → UInt32 → σ → Visit σ
  | left, attempt, world =>
    let (result, context, world) :=
      s.registry.execute spec.kind spec.config state.context n.timeoutSeconds world
    let attempts := some (attempt + 1)
    match result with
    | .ok v =>
      ⟨{ step with attempts := attempts, result := some v },
        .ok ⟨.goto n.next, context.insert lastResultKey v, state.cursors⟩, world⟩
    | .error e =>
      match left with
      | 0 => ⟨{ step with attempts := attempts }, .error e, world⟩
      | more + 1 =>
        if e.isTransient then perform s n spec state step more (attempt + 1) world
        else ⟨{ step with attempts := attempts }, .error e, world⟩

-- ============================================================ delays

/-- The longest delay in seconds that an instant can be moved by. -/
def maxDelay : Nat := 0x7fffffffffffffff / 1000

/-- Waits: the run stops until the time is over, unless the settings or the length
of the delay let it go on at once. -/
def wait (s : Surroundings σ) (n : Node) (spec : DelaySpec) (state : State) (step : Step)
    (world : σ) : Visit σ :=
  let step := { step with delay := some spec.seconds }
  let arrive (m : Move) : Except Failure Arrival := .ok ⟨m, state.context, state.cursors⟩
  if s.settings.delayMode = .record ∨ spec.seconds = 0 then
    ⟨step, arrive (.goto n.next), world⟩
  else
    let refusal : Failure :=
      .nodeConfig n.id ("delay of " ++ toString spec.seconds.toNat ++ "s is out of range")
    if maxDelay < spec.seconds.toNat then ⟨step, .error refusal, world⟩
    else
      let (now, world) := s.now world
      match now.addSeconds spec.seconds.toNat with
      | some t => ⟨step, arrive (.suspend n.next t), world⟩
      | none => ⟨step, .error refusal, world⟩

-- ========================================================== branches

/-- The first branch whose conditions all hold, and else the fallback: its name and
where it leads. -/
def chooseBranch (fallback : String) (context : Context) : List Branch → String × String
  | [] => ("default", fallback)
  | b :: bs =>
    if evaluateAll b.conditions context .and then (b.name, b.target)
    else chooseBranch fallback context bs

-- ============================================================= loops

/-- Where a loop goes for its body. -/
def loopEntry (spec : LoopSpec) (n : Node) : String :=
  if spec.body = "" then n.next else spec.body

/-- The item that comes next in a loop with its index, or nothing if the loop is
over. -/
def loopItem (spec : LoopSpec) (n : Node) (state : State) :
    Except Failure (Option (Nat × Value)) :=
  match (Dict.find? state.context spec.listName).getD .null with
  | .null => .ok none
  | .array items =>
    let index := (Dict.find? state.cursors n.id).getD 0
    .ok (items[index]?.map fun v => (index, v))
  | other =>
    .error (.nodeConfig n.id
      ("loop variable '" ++ spec.listName ++ "' is not a list: " ++ other.text))

/-- Goes on with a loop: to its body with the next item, or past it. -/
def iterate (n : Node) (spec : LoopSpec) (state : State) (step : Step) (world : σ) : Visit σ :=
  match loopItem spec n state with
  | .error e => ⟨step, .error e, world⟩
  | .ok none =>
    ⟨step, .ok ⟨.goto n.next, state.context, Dict.erase state.cursors n.id⟩, world⟩
  | .ok (some (index, v)) =>
    ⟨{ step with iteration := some index },
      .ok ⟨.goto (loopEntry spec n), Dict.insert state.context spec.itemName v,
        Dict.insert state.cursors n.id (index + 1)⟩, world⟩

-- ============================================================ visits

/-- Visits a node. -/
def visit (s : Surroundings σ) (n : Node) (state : State) (step : Step) (world : σ) : Visit σ :=
  let arrive (m : Move) : Except Failure Arrival := .ok ⟨m, state.context, state.cursors⟩
  match n.behaviour with
  | .error e => ⟨step, .error e, world⟩
  | .ok .trigger => ⟨step, arrive (.goto n.next), world⟩
  | .ok .unknown => ⟨step, arrive (.goto n.next), world⟩
  | .ok (.condition spec onTrue onFalse) =>
    let passed := evaluateAll spec.conditions state.context spec.logic
    ⟨{ step with result := some (.bool passed) },
      arrive (.goto (if passed then onTrue else onFalse)), world⟩
  | .ok (.action spec) => perform s n spec state step n.retryCount.toNat 0 world
  | .ok (.delay spec) => wait s n spec state step world
  | .ok (.branch spec) =>
    let (name, target) := chooseBranch spec.fallback state.context spec.branches
    ⟨{ step with branch := some name }, arrive (.goto target), world⟩
  | .ok (.loop spec) => iterate n spec state step world
  | .ok .finish =>
    ⟨{ step with result := some (.string "workflow_complete") }, arrive .finish, world⟩

end DurableWorkflow.Graph
