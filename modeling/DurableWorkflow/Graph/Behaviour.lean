/-
What a node does, read from its type and its configuration. This is worked out
when a run comes to the node, so a bad configuration fails only the step that
needs it.
-/
import DurableWorkflow.Graph.Node

namespace DurableWorkflow

-- ==================================================== specifications

/-- The conditions of a node that chooses between two successors. -/
structure ConditionSpec where
  conditions : List Condition
  logic : Logic

/-- The action of a node, with the whole configuration for its handler. -/
structure ActionSpec where
  kind : String
  config : Dict Value

/-- How long a node waits. -/
structure DelaySpec where
  seconds : UInt64

/-- One way out of a node: it is taken if all its conditions hold. -/
structure Branch where
  name : String
  conditions : List Condition
  target : String

/-- The ways out of a node, and where to go if none is taken. -/
structure BranchSpec where
  branches : List Branch
  fallback : String

/-- The list that a node goes through, the name of the current item, and the body;
an empty body is the successor of the node. -/
structure LoopSpec where
  listName : String
  itemName : String
  body : String

/-- What a node does. -/
inductive Behaviour
  | trigger
  | condition (spec : ConditionSpec) (onTrue onFalse : String)
  | action (spec : ActionSpec)
  | delay (spec : DelaySpec)
  | branch (spec : BranchSpec)
  | loop (spec : LoopSpec)
  | finish
  | unknown

-- =========================================================== reading

namespace ConditionSpec

def shape : Decoder.Shape ConditionSpec where
  title := "ConditionSpec"
  fields := [
    .may "conditions" (Decoder.list Condition.decode) fun a s => { s with conditions := a },
    .may "logic" Logic.decode fun a s => { s with logic := a }]
  blank := ⟨[], .and⟩

def decode : Decoder ConditionSpec := Decoder.record shape

def encode (s : ConditionSpec) : Value :=
  .object [("conditions", .array (s.conditions.map Condition.encode)),
    ("logic", .string s.logic.name)]

end ConditionSpec

namespace DelaySpec

def shape : Decoder.Shape DelaySpec where
  title := "DelaySpec"
  fields := [.may "seconds" Decoder.u64 fun a _ => ⟨a⟩]
  blank := ⟨0⟩

def decode : Decoder DelaySpec := Decoder.record shape

def encode (s : DelaySpec) : Value := .object [("seconds", .int s.seconds.toNat)]

end DelaySpec

namespace Branch

def shape : Decoder.Shape Branch where
  title := "Branch"
  fields := [
    .may "name" Decoder.string fun a b => { b with name := a },
    .may "conditions" (Decoder.list Condition.decode) fun a b => { b with conditions := a },
    .may "target_node" Decoder.string fun a b => { b with target := a }]
  blank := ⟨"matched", [], ""⟩

def decode : Decoder Branch := Decoder.record shape

def encode (b : Branch) : Value :=
  .object [("name", .string b.name),
    ("conditions", .array (b.conditions.map Condition.encode)),
    ("target_node", .string b.target)]

end Branch

namespace BranchSpec

def shape : Decoder.Shape BranchSpec where
  title := "BranchSpec"
  fields := [
    .may "branches" (Decoder.list Branch.decode) fun a s => { s with branches := a },
    .may "default_node" Decoder.string fun a s => { s with fallback := a }]
  blank := ⟨[], ""⟩

def decode : Decoder BranchSpec := Decoder.record shape

def encode (s : BranchSpec) : Value :=
  .object [("branches", .array (s.branches.map Branch.encode)),
    ("default_node", .string s.fallback)]

end BranchSpec

namespace LoopSpec

def shape : Decoder.Shape LoopSpec where
  title := "LoopSpec"
  fields := [
    .may "variable" Decoder.string fun a s => { s with listName := a },
    .may "item_var" Decoder.string fun a s => { s with itemName := a },
    .may "body_node" Decoder.string fun a s => { s with body := a }]
  blank := ⟨"loop_items", "current_item", ""⟩

def decode : Decoder LoopSpec := Decoder.record shape

def encode (s : LoopSpec) : Value :=
  .object [("variable", .string s.listName), ("item_var", .string s.itemName),
    ("body_node", .string s.body)]

end LoopSpec

namespace Node

/-- The configuration as a specification; without one the blank is taken. -/
def spec {α : Type} (n : Node) (shape : Decoder.Shape α) : Except Failure α :=
  if n.config.isNull then .ok shape.blank
  else match Decoder.ofValue (Decoder.record shape) n.config with
    | .ok a => .ok a
    | .error e => .error (.nodeConfig n.id e.message)

/-- The configuration as an action; without a kind it is a message to the log. -/
def actionSpec (n : Node) : Except Failure ActionSpec := do
  let config ← match n.config with
    | .null => .ok []
    | .object members => .ok members
    | other => .error (.nodeConfig n.id ("expected an object, got " ++ other.text))
  match (Dict.find? config "action_type").getD .null with
  | .null => .ok ⟨"log", config⟩
  | .string kind => .ok ⟨kind, config⟩
  | other => .error (.nodeConfig n.id ("action_type must be a string, got " ++ other.text))

/-- What a node does. -/
def behaviour (n : Node) : Except Failure Behaviour :=
  match n.type with
  | .trigger => .ok .trigger
  | .condition => do
    let s ← n.spec ConditionSpec.shape
    .ok (.condition s n.onTrue n.onFalse)
  | .action => do
    let s ← n.actionSpec
    .ok (.action s)
  | .delay => do
    let s ← n.spec DelaySpec.shape
    .ok (.delay s)
  | .branch => do
    let s ← n.spec BranchSpec.shape
    .ok (.branch s)
  | .loop => do
    let s ← n.spec LoopSpec.shape
    .ok (.loop s)
  | .finish => .ok .finish
  | .unknown => .ok .unknown

end Node

end DurableWorkflow
