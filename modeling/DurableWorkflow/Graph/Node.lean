/-
Nodes of a workflow graph as they are written and stored. What a node does is
told by its type and its configuration, which is any value and is only looked at
when a run comes to the node. Where a run goes from there is told by the names of
other nodes.
-/
import DurableWorkflow.Condition
import DurableWorkflow.Failure

namespace DurableWorkflow

-- ============================================================= types

/-- The type of a node. -/
inductive NodeType
  | trigger
  | condition
  | action
  | delay
  | branch
  | loop
  | finish
  | unknown
deriving DecidableEq, Repr

namespace NodeType

def name : NodeType → String
  | .trigger => "trigger"
  | .condition => "condition"
  | .action => "action"
  | .delay => "delay"
  | .branch => "branch"
  | .loop => "loop"
  | .finish => "end"
  | .unknown => "unknown"

/-- All types; every other name is the unknown one. -/
def all : List NodeType :=
  [.trigger, .condition, .action, .delay, .branch, .loop, .finish, .unknown]

def decode : Decoder NodeType :=
  Decoder.choice ⟨all.map fun t => (t.name, t), some .unknown⟩

end NodeType

/-- A node of a workflow graph. -/
structure Node where
  id : String
  name : String
  type : NodeType
  config : Value
  nextNodes : List String
  onError : Option String
  onTrue : String
  onFalse : String
  timeoutSeconds : UInt64
  retryCount : UInt32
  retryDelaySeconds : UInt64

namespace Node

-- ====================================================== construction

/-- A node without configuration and successors. -/
def new (id : String) (type : NodeType) : Node where
  id := id
  name := ""
  type := type
  config := .null
  nextNodes := []
  onError := none
  onTrue := ""
  onFalse := ""
  timeoutSeconds := 30
  retryCount := 0
  retryDelaySeconds := 5

/-- A node that performs an action; the parameters become part of its
configuration if they are an object. -/
def action (id kind : String) (parameters : Value) : Node :=
  let config := match parameters with
    | .object members => members
    | _ => []
  { new id .action with config := .object (Dict.insert config "action_type" (.string kind)) }

/-- A node that chooses between two successors. -/
def condition (id : String) (conditions : List Condition) (onTrue onFalse : String) : Node :=
  { new id .condition with
    config := .object [("conditions", .array (conditions.map Condition.encode))]
    onTrue := onTrue
    onFalse := onFalse }

/-- A node that waits. -/
def delay (id : String) (seconds : UInt64) : Node :=
  { new id .delay with config := .object [("seconds", .int seconds.toNat)] }

/-- A node that visits its body for each item of a list. -/
def loopOver (id listName itemName body : String) : Node :=
  { new id .loop with
    config := .object
      [("body_node", .string body), ("item_var", .string itemName),
        ("variable", .string listName)] }

/-- A node at which a run ends. -/
def finish (id : String) : Node := new id .finish

def withName (n : Node) (name : String) : Node := { n with name := name }

def withConfig (n : Node) (config : Value) : Node := { n with config := config }

/-- Adds a successor after the others. -/
def withNext (n : Node) (next : String) : Node := { n with nextNodes := n.nextNodes ++ [next] }

def withOnError (n : Node) (target : String) : Node := { n with onError := some target }

def withRetry (n : Node) (count : UInt32) (delay : UInt64) : Node :=
  { n with retryCount := count, retryDelaySeconds := delay }

def withTimeout (n : Node) (seconds : UInt64) : Node := { n with timeoutSeconds := seconds }

-- ======================================================== successors

/-- The one successor of a node that does not choose; empty if there is none. -/
def next (n : Node) : String := n.nextNodes.headD ""

/-- Where a run goes after a failure of the node, if anywhere. -/
def errorTarget (n : Node) : Option String := n.onError.filter (· ≠ "")

-- ============================================================ values

def shape : Decoder.Shape Node where
  title := "Node"
  fields := [
    .may "node_id" Decoder.string fun a n => { n with id := a },
    .may "name" Decoder.string fun a n => { n with name := a },
    .may "node_type" NodeType.decode fun a n => { n with type := a },
    .may "config" Decoder.value fun a n => { n with config := a },
    .may "next_nodes" (Decoder.list Decoder.string) fun a n => { n with nextNodes := a },
    .may "on_error" (Decoder.optional Decoder.string) fun a n => { n with onError := a },
    .may "on_true" Decoder.string fun a n => { n with onTrue := a },
    .may "on_false" Decoder.string fun a n => { n with onFalse := a },
    .may "timeout_seconds" Decoder.u64 fun a n => { n with timeoutSeconds := a },
    .may "retry_count" Decoder.u32 fun a n => { n with retryCount := a },
    .may "retry_delay_seconds" Decoder.u64 fun a n => { n with retryDelaySeconds := a }]
  blank := new "" .action

def decode : Decoder Node := Decoder.record shape

/-- A text that is left out of a record when it is empty. -/
def unlessEmpty (s : String) : Option Value := if s = "" then none else some (.string s)

def encode (n : Node) : Value :=
  .record [
    ("node_id", some (.string n.id)),
    ("name", some (.string n.name)),
    ("node_type", some (.string n.type.name)),
    ("config", some n.config),
    ("next_nodes", some (.ofTexts n.nextNodes)),
    ("on_error", n.onError.map .string),
    ("on_true", unlessEmpty n.onTrue),
    ("on_false", unlessEmpty n.onFalse),
    ("timeout_seconds", some (.int n.timeoutSeconds.toNat)),
    ("retry_count", some (.int n.retryCount.toNat)),
    ("retry_delay_seconds", some (.int n.retryDelaySeconds.toNat))]

-- =============================================================== ids

/-- Gives ids to the nodes that have none, in their order, and refuses a list in
which two nodes have one id. `fresh` is the supply of ids, of which `used` are
gone; the answer says how many are gone afterwards. -/
def normalizeFrom (fresh : Nat → String) (used : Nat) (seen : List String) :
    List Node → Except Failure (List Node × Nat)
  | [] => .ok ([], used)
  | n :: ns =>
    let (id, used) := if n.id = "" then (fresh used, used + 1) else (n.id, used)
    if seen.contains id then .error (.invalidWorkflow ("duplicate node id: " ++ id))
    else match normalizeFrom fresh used (id :: seen) ns with
      | .error e => .error e
      | .ok (ns, used) => .ok ({ n with id := id } :: ns, used)

/-- Gives ids to the nodes that have none. -/
def normalize (fresh : Nat → String) (used : Nat) (nodes : List Node) :
    Except Failure (List Node × Nat) :=
  normalizeFrom fresh used [] nodes

end Node

end DurableWorkflow
