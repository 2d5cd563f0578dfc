/-
Driving a run through its graph: node after node, until the run is over, fails,
stops for a delay, or has used up its budget of visits. Of two nodes with one id
the later one counts.
-/
import DurableWorkflow.Graph.Visit

namespace DurableWorkflow.Graph

open Time (Instant)

-- ============================================================= types

/-- Why a drive ended. -/
inductive Halt
  | completed
  | budgetSpent
  | nodeMissing (node : String)
  | suspended (resumeAt : Instant)
  | failed (node error : String)
deriving DecidableEq, Repr

/-- The end of a drive: the state, the steps it made, and why it ended. -/
structure Outcome where
  state : State
  steps : List Step
  halt : Halt

/-- The last node with an id. -/
def find? (nodes : List Node) (id : String) : Option Node :=
  nodes.reverse.find? fun n => n.id = id

/-- A node that is found is one of them. -/
theorem mem_of_find? {nodes : List Node} {id : String} {n : Node} (h : find? nodes id = some n) :
    n ∈ nodes :=
  List.mem_reverse.mp (List.mem_of_find?_eq_some h)

-- ============================================================ driving

variable {σ : Type}

/-- What one visit means for the drive: the step as it is recorded, the state after
it, and why the drive ends, if it does. -/
def settle (n : Node) (state : State) (v : Visit σ) : Step × State × Option Halt :=
  match v.outcome with
  | .ok a =>
    match a.move with
    | .goto next => (v.step, ⟨next, a.context, a.cursors⟩, none)
    | .finish => (v.step, ⟨"", a.context, a.cursors⟩, some .completed)
    | .suspend next t =>
      ({ v.step with status := .waiting }, ⟨next, a.context, a.cursors⟩, some (.suspended t))
  | .error e =>
    let step := { v.step with status := .error, error := some e.message }
    match n.errorTarget with
    | some target => (step, { state with current := target }, none)
    | none => (step, state, some (.failed n.id e.message))

/-- Puts a step before those of an outcome. -/
def Outcome.cons (step : Step) (o : Outcome) : Outcome := { o with steps := step :: o.steps }

/-- Drives a run for at most so many visits. -/
def drive (s : Surroundings σ) (nodes : List Node) : Nat → State → σ → Outcome × σ
  | 0, state, world =>
    (⟨state, [], if state.current = "" then .completed else .budgetSpent⟩, world)
  | budget + 1, state, world =>
    if state.current = "" then (⟨state, [], .completed⟩, world)
    else match find? nodes state.current with
      | none => (⟨state, [], .nodeMissing state.current⟩, world)
      | some n =>
        let (now, world) := s.now world
        let v := visit s n state (.new n.id n.type now) world
        match settle n state v with
        | (step, state, some halt) => (⟨state, [step], halt⟩, v.world)
        | (step, state, none) =>
          let (o, world) := drive s nodes budget state v.world
          (o.cons step, world)

end DurableWorkflow.Graph
