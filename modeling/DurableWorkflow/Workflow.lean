/-
Workflows: a graph of nodes with its trigger, the values that the context of every
run begins with (the presets), and its limit of runs for an hour. A blueprint is what
a workflow is made from; a revision replaces some of its fields.

A workflow that was read back may have unreadable fields. Such a field has its
default value, and its stored text is kept beside it.
-/
import DurableWorkflow.Graph.Node
import DurableWorkflow.Json.Moment

namespace DurableWorkflow

open Time (Instant)

-- ============================================================= names

/-- The name among `all` that a text is, for a kind of thing called `title`. -/
def nameOf {α : Type} (title : String) (all : List α) (name : α → String) (text : String) :
    Except Failure α :=
  match all.find? fun a => name a = text with
  | some a => .ok a
  | none => .error (.invalidWorkflow ("unknown " ++ title ++ ": " ++ text))

/-- How a workflow gets started. -/
inductive Trigger
  | schedule
  | event
  | webhook
  | manual
  | followerMilestone
  | keyword
deriving DecidableEq, Repr

namespace Trigger

def name : Trigger → String
  | .schedule => "schedule"
  | .event => "event"
  | .webhook => "webhook"
  | .manual => "manual"
  | .followerMilestone => "follower_milestone"
  | .keyword => "keyword"

def all : List Trigger := [.schedule, .event, .webhook, .manual, .followerMilestone, .keyword]

def ofText (text : String) : Except Failure Trigger := nameOf "TriggerType" all name text

def decode : Decoder Trigger := Decoder.choice ⟨all.map fun t => (t.name, t), none⟩

end Trigger

/-- The standing of a workflow. -/
inductive WorkflowStatus
  | draft
  | active
  | paused
  | archived
  | error
deriving DecidableEq, Repr

namespace WorkflowStatus

def name : WorkflowStatus → String
  | .draft => "draft"
  | .active => "active"
  | .paused => "paused"
  | .archived => "archived"
  | .error => "error"

def all : List WorkflowStatus := [.draft, .active, .paused, .archived, .error]

def ofText (text : String) : Except Failure WorkflowStatus :=
  nameOf "WorkflowStatus" all name text

def decode : Decoder WorkflowStatus := Decoder.choice ⟨all.map fun t => (t.name, t), none⟩

/-- Whether runs may be started. -/
def acceptsRuns : WorkflowStatus → Bool
  | .draft => true
  | .active => true
  | _ => false

end WorkflowStatus

-- ======================================================== unreadable

/-- A field of a stored record that could not be read, with its stored text. -/
structure Unreadable where
  field : String
  raw : String
deriving DecidableEq, Repr

namespace Unreadable

def shape : Decoder.Shape Unreadable where
  title := "RawField"
  fields := [
    .must "field" Decoder.string fun a u => { u with field := a },
    .must "raw" Decoder.string fun a u => { u with raw := a }]
  blank := ⟨"", ""⟩

def decode : Decoder Unreadable := Decoder.record shape

def encode (u : Unreadable) : Value :=
  .object [("field", .string u.field), ("raw", .string u.raw)]

/-- The unreadable fields, which are left out of a record that has none. -/
def encodeAll (us : List Unreadable) : Option Value :=
  if us.isEmpty then none else some (.array (us.map encode))

end Unreadable

-- ========================================================= workflows

/-- A workflow. -/
structure Workflow where
  id : String
  name : String
  description : String
  trigger : Trigger
  triggerConfig : Value
  nodes : List Node
  presets : Context
  status : WorkflowStatus
  maxRunsPerHour : UInt32
  tags : List String
  createdAt : Instant
  updatedAt : Instant
  unreadable : List Unreadable

namespace Workflow

def shape : Decoder.Shape Workflow where
  title := "Workflow"
  fields := [
    .must "id" Decoder.string fun a w => { w with id := a },
    .must "name" Decoder.string fun a w => { w with name := a },
    .may "description" Decoder.string fun a w => { w with description := a },
    .may "trigger_type" Trigger.decode fun a w => { w with trigger := a },
    .may "trigger_config" Decoder.value fun a w => { w with triggerConfig := a },
    .may "nodes" (Decoder.list Node.decode) fun a w => { w with nodes := a },
    .may "variables" (Decoder.dict Decoder.value) fun a w => { w with presets := a },
    .may "status" WorkflowStatus.decode fun a w => { w with status := a },
    .must "max_runs_per_hour" Decoder.u32 fun a w => { w with maxRunsPerHour := a },
    .may "tags" (Decoder.list Decoder.string) fun a w => { w with tags := a },
    .must "created_at" Decoder.instant fun a w => { w with createdAt := a },
    .must "updated_at" Decoder.instant fun a w => { w with updatedAt := a },
    .may "raw_fields" (Decoder.list Unreadable.decode) fun a w => { w with unreadable := a }]
  blank := ⟨"", "", "", .manual, .null, [], [], .draft, 0, [], .epoch, .epoch, []⟩

def decode : Decoder Workflow := Decoder.record shape

def encode (w : Workflow) : Value :=
  .record [
    ("id", some (.string w.id)),
    ("name", some (.string w.name)),
    ("description", some (.string w.description)),
    ("trigger_type", some (.string w.trigger.name)),
    ("trigger_config", some w.triggerConfig),
    ("nodes", some (.array (w.nodes.map Node.encode))),
    ("variables", some (.object w.presets)),
    ("status", some (.string w.status.name)),
    ("max_runs_per_hour", some (.int w.maxRunsPerHour.toNat)),
    ("tags", some (.ofTexts w.tags)),
    ("created_at", some w.createdAt.encode),
    ("updated_at", some w.updatedAt.encode),
    ("raw_fields", Unreadable.encodeAll w.unreadable)]

/-- The node at which a run starts; empty if there are no nodes. -/
def entry (w : Workflow) : String := (w.nodes.head?.map (·.id)).getD ""

/-- The first node with an id. -/
def node? (w : Workflow) (id : String) : Option Node := w.nodes.find? fun n => n.id = id

/-- Whether every field could be read. -/
def isIntact (w : Workflow) : Bool := w.unreadable.isEmpty

end Workflow

-- ======================================================== blueprints

/-- What a workflow is made from. -/
structure Blueprint where
  name : String
  description : String
  trigger : Trigger
  triggerConfig : Value
  nodes : List Node
  presets : Context
  tags : List String
  maxRunsPerHour : Option UInt32

namespace Blueprint

/-- A blueprint that has nothing but a name. -/
def new (name : String) : Blueprint := ⟨name, "", .manual, .null, [], [], [], none⟩

def withDescription (b : Blueprint) (s : String) : Blueprint := { b with description := s }

def withTrigger (b : Blueprint) (t : Trigger) (config : Value) : Blueprint :=
  { b with trigger := t, triggerConfig := config }

def withNodes (b : Blueprint) (nodes : List Node) : Blueprint := { b with nodes := nodes }

def withVariable (b : Blueprint) (key : String) (v : Value) : Blueprint :=
  { b with presets := b.presets.insert key v }

def withTags (b : Blueprint) (tags : List String) : Blueprint := { b with tags := tags }

def withMaxRunsPerHour (b : Blueprint) (n : UInt32) : Blueprint :=
  { b with maxRunsPerHour := some n }

def shape : Decoder.Shape Blueprint where
  title := "NewWorkflow"
  fields := [
    .must "name" Decoder.string fun a w => { w with name := a },
    .may "description" Decoder.string fun a w => { w with description := a },
    .may "trigger_type" Trigger.decode fun a w => { w with trigger := a },
    .may "trigger_config" Decoder.value fun a w => { w with triggerConfig := a },
    .may "nodes" (Decoder.list Node.decode) fun a w => { w with nodes := a },
    .may "variables" (Decoder.dict Decoder.value) fun a w => { w with presets := a },
    .may "tags" (Decoder.list Decoder.string) fun a w => { w with tags := a },
    .may "max_runs_per_hour" (Decoder.optional Decoder.u32)
      fun a w => { w with maxRunsPerHour := a }]
  blank := new ""

def decode : Decoder Blueprint := Decoder.record shape

def encode (w : Blueprint) : Value :=
  .object [
    ("name", .string w.name),
    ("description", .string w.description),
    ("trigger_type", .string w.trigger.name),
    ("trigger_config", w.triggerConfig),
    ("nodes", .array (w.nodes.map Node.encode)),
    ("variables", .object w.presets),
    ("tags", .ofTexts w.tags),
    ("max_runs_per_hour", (w.maxRunsPerHour.map fun n => Value.int n.toNat).getD .null)]

end Blueprint

-- ========================================================= revisions

/-- New values for some fields of a workflow. -/
structure Revision where
  name : Option String
  description : Option String
  trigger : Option Trigger
  triggerConfig : Option Value
  nodes : Option (List Node)
  presets : Option Context
  status : Option WorkflowStatus
  maxRunsPerHour : Option UInt32
  tags : Option (List String)

namespace Revision

/-- The revision that changes nothing. -/
def none : Revision :=
  ⟨.none, .none, .none, .none, .none, .none, .none, .none, .none⟩

/-- The revision that changes the status alone. -/
def ofStatus (s : WorkflowStatus) : Revision := { none with status := some s }

/-- The names of the fields that have new values. -/
def fieldNames (r : Revision) : List String :=
  [("name", r.name.isSome), ("description", r.description.isSome),
    ("trigger_type", r.trigger.isSome), ("trigger_config", r.triggerConfig.isSome),
    ("nodes", r.nodes.isSome), ("variables", r.presets.isSome), ("status", r.status.isSome),
    ("max_runs_per_hour", r.maxRunsPerHour.isSome), ("tags", r.tags.isSome)].filterMap
      fun f => if f.2 then some f.1 else .none

/-- Whether nothing has a new value. -/
def isEmpty (r : Revision) : Bool := r.fieldNames.isEmpty

def shape : Decoder.Shape Revision where
  title := "WorkflowUpdate"
  fields := [
    .may "name" (Decoder.optional Decoder.string) fun a r => { r with name := a },
    .may "description" (Decoder.optional Decoder.string) fun a r => { r with description := a },
    .may "trigger_type" (Decoder.optional Trigger.decode) fun a r => { r with trigger := a },
    .may "trigger_config" (Decoder.optional Decoder.value)
      fun a r => { r with triggerConfig := a },
    .may "nodes" (Decoder.optional (Decoder.list Node.decode)) fun a r => { r with nodes := a },
    .may "variables" (Decoder.optional (Decoder.dict Decoder.value))
      fun a r => { r with presets := a },
    .may "status" (Decoder.optional WorkflowStatus.decode) fun a r => { r with status := a },
    .may "max_runs_per_hour" (Decoder.optional Decoder.u32)
      fun a r => { r with maxRunsPerHour := a },
    .may "tags" (Decoder.optional (Decoder.list Decoder.string)) fun a r => { r with tags := a }]
  blank := none

def decode : Decoder Revision := Decoder.record shape

/-- A value or `null`. -/
def orNull {α : Type} (a : Option α) (encode : α → Value) : Value := (a.map encode).getD .null

def encode (r : Revision) : Value :=
  .object [
    ("name", orNull r.name .string),
    ("description", orNull r.description .string),
    ("trigger_type", orNull r.trigger fun t => .string t.name),
    ("trigger_config", orNull r.triggerConfig id),
    ("nodes", orNull r.nodes fun ns => .array (ns.map Node.encode)),
    ("variables", orNull r.presets .object),
    ("status", orNull r.status fun s => .string s.name),
    ("max_runs_per_hour", orNull r.maxRunsPerHour fun n => .int n.toNat),
    ("tags", orNull r.tags .ofTexts)]

end Revision

end DurableWorkflow
