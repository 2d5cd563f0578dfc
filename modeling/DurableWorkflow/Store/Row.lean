/-
Rows as they are stored. Everything composite is JSON text, and every instant is
text. Writing a record gives its row. Reading a row never fails on a text that
cannot be read: the field gets its default, and the text is kept beside it. Only a
number column that holds no number, and an id that is missing, make a row
unreadable as a whole.
-/
import DurableWorkflow.Store.Cell
import DurableWorkflow.Trail

namespace DurableWorkflow.Store

open Time (Instant)

-- ============================================================ fields

/-- A value that was read from a column, and the unreadable fields so far. -/
abbrev Reading (α : Type) := List Unreadable → α × List Unreadable

/-- Reads JSON text; where that fails the default is taken and the text kept. -/
def readJson {α : Type} (read : Decoder α) (default : α) (field raw : String) : Reading α :=
  fun bad =>
    match Decoder.ofText read raw with
    | .ok a => (a, bad)
    | .error _ => (default, bad ++ [⟨field, raw⟩])

/-- Reads a name; where that fails the default is taken and the text kept. -/
def readName {α : Type} (read : String → Except Failure α) (default : α) (field raw : String) :
    Reading α := fun bad =>
  match read raw with
  | .ok a => (a, bad)
  | .error _ => (default, bad ++ [⟨field, raw⟩])

/-- Reads an instant; any other text is the beginning of 1970. -/
def readInstant (raw : String) : Instant :=
  match Instant.ofStored raw with
  | .ok t => t
  | .error _ => .epoch

-- ========================================================= workflows

/-- A row of the table of workflows. -/
structure WorkflowRow where
  id : Option String
  name : String
  description : String
  triggerType : String
  triggerConfig : String
  nodes : String
  presets : String
  status : String
  maxRunsPerHour : Cell
  createdAt : String
  updatedAt : String
  tags : String

/-- The text of a list of nodes. -/
def nodesText (ns : List Node) : String := (Value.array (ns.map Node.encode)).text

/-- The text of a map. -/
def dictText (m : Dict Value) : String := (Value.object m).text

/-- The text of a list of tags. -/
def tagsText (tags : List String) : String := (Value.ofTexts tags).text

/-- The row of a workflow. -/
def WorkflowRow.of (w : Workflow) : WorkflowRow where
  id := some w.id
  name := w.name
  description := w.description
  triggerType := w.trigger.name
  triggerConfig := w.triggerConfig.text
  nodes := nodesText w.nodes
  presets := dictText w.presets
  status := w.status.name
  maxRunsPerHour := .int w.maxRunsPerHour.toNat
  createdAt := w.createdAt.stored
  updatedAt := w.updatedAt.stored
  tags := tagsText w.tags

/-- A stored limit: negative numbers count as none, and 32 bits are kept. -/
def limitOf (n : Int) : UInt32 := n.toNat.toUInt32

/-- The workflow of a row. -/
def WorkflowRow.read (r : WorkflowRow) : Except Failure Workflow :=
  match r.id, r.maxRunsPerHour with
  | none, _ => .error (.database (.wrongClass "Null" 0 "workflow_id"))
  | some id, .int n =>
    let (trigger, bad) := readName Trigger.ofText .manual "trigger_type" r.triggerType []
    let (config, bad) := readJson Decoder.value .null "trigger_config" r.triggerConfig bad
    let (nodes, bad) := readJson (Decoder.list Node.decode) [] "nodes" r.nodes bad
    let (presets, bad) :=
      readJson (Decoder.dict Decoder.value) [] "variables" r.presets bad
    let (status, bad) := readName WorkflowStatus.ofText .draft "status" r.status bad
    let (tags, bad) := readJson (Decoder.list Decoder.string) [] "tags" r.tags bad
    .ok ⟨id, r.name, r.description, trigger, config, nodes, presets, status, limitOf n, tags,
      readInstant r.createdAt, readInstant r.updatedAt, bad⟩
  | some _, c => .error (.database (.wrongClass c.className 8 "max_runs_per_hour"))

/-- The row after a revision at some instant. -/
def WorkflowRow.revise (r : WorkflowRow) (u : Revision) (now : Instant) : WorkflowRow where
  id := r.id
  name := u.name.getD r.name
  description := u.description.getD r.description
  triggerType := (u.trigger.map Trigger.name).getD r.triggerType
  triggerConfig := (u.triggerConfig.map Value.text).getD r.triggerConfig
  nodes := (u.nodes.map nodesText).getD r.nodes
  presets := (u.presets.map dictText).getD r.presets
  status := (u.status.map WorkflowStatus.name).getD r.status
  maxRunsPerHour := (u.maxRunsPerHour.map fun n => Cell.int n.toNat).getD r.maxRunsPerHour
  createdAt := r.createdAt
  updatedAt := now.stored
  tags := (u.tags.map tagsText).getD r.tags

-- ============================================================== runs

/-- A row of the table of runs. -/
structure RunRow where
  id : Option String
  workflowId : String
  status : String
  currentNode : String
  context : String
  loopCursors : String
  steps : String
  triggerData : String
  startedAt : String
  completedAt : Option String
  resumeAt : Option String
  error : Option String
deriving DecidableEq, Repr

/-- The text of a list of steps. -/
def stepsText (steps : List Step) : String := (Value.array (steps.map Step.encode)).text

/-- The row of a run. -/
def RunRow.of (r : Run) : RunRow where
  id := some r.id
  workflowId := r.workflowId
  status := r.status.name
  currentNode := r.currentNode
  context := dictText r.context
  loopCursors := (Run.encodeCursors r.loopCursors).text
  steps := stepsText r.steps
  triggerData := r.triggerData.text
  startedAt := r.startedAt.stored
  completedAt := r.completedAt.map Instant.stored
  resumeAt := r.resumeAt.map Instant.stored
  error := r.error

/-- The run of a row. -/
def RunRow.read (r : RunRow) : Except Failure Run :=
  match r.id with
  | none => .error (.database (.wrongClass "Null" 0 "run_id"))
  | some id =>
    let (status, bad) := readName RunStatus.ofText .pending "status" r.status []
    let (context, bad) := readJson (Decoder.dict Decoder.value) [] "context" r.context bad
    let (cursors, bad) :=
      readJson (Decoder.dict Decoder.count) [] "loop_cursors" r.loopCursors bad
    let (steps, bad) := readJson (Decoder.list Step.decode) [] "steps_log" r.steps bad
    let (trigger, bad) := readJson Decoder.value .null "trigger_data" r.triggerData bad
    .ok ⟨id, r.workflowId, status, r.currentNode, context, cursors, steps, trigger,
      readInstant r.startedAt, r.completedAt.map readInstant, r.resumeAt.map readInstant,
      r.error, bad⟩

/-- The row with what changes in the course of a run. -/
def RunRow.save (row : RunRow) (r : Run) : RunRow :=
  let new := RunRow.of r
  { row with
    status := new.status
    currentNode := new.currentNode
    context := new.context
    loopCursors := new.loopCursors
    steps := new.steps
    completedAt := new.completedAt
    resumeAt := new.resumeAt
    error := new.error }

-- ============================================================= trail

/-- A row of the audit trail. -/
structure EntryRow where
  id : Int
  workflowId : String
  runId : Option String
  event : String
  node : Option String
  details : String
  createdAt : String
deriving DecidableEq, Repr

/-- The entry of a row. -/
def EntryRow.read (r : EntryRow) : Entry :=
  ⟨r.id, r.workflowId, r.runId, r.event, r.node, r.details, readInstant r.createdAt⟩

end DurableWorkflow.Store
