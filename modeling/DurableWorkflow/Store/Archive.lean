/-
Tables as one JSON text, so that they can be kept between one use and the next. The
columns are kept as they are, readable or not.
-/
import DurableWorkflow.Store.Tables

namespace DurableWorkflow.Store

-- ============================================================= cells

/-- The value of a cell. -/
def Cell.encode : Cell → Value
  | .null => .null
  | .int n => .int n
  | .real x => .real x
  | .text s => .string s

/-- The cell of a value. -/
def Cell.decode : Decoder Cell := fun d => do
  match ← Decoder.value d with
  | .int n => return .int n
  | .real x => return .real x
  | .string s => return .text s
  | _ => return .null

-- ============================================================== rows

def WorkflowRow.shape : Decoder.Shape WorkflowRow where
  title := "workflow"
  fields := [
    .must "id" (Decoder.optional Decoder.string) fun a r => { r with id := a },
    .must "name" Decoder.string fun a r => { r with name := a },
    .must "description" Decoder.string fun a r => { r with description := a },
    .must "trigger_type" Decoder.string fun a r => { r with triggerType := a },
    .must "trigger_config" Decoder.string fun a r => { r with triggerConfig := a },
    .must "nodes" Decoder.string fun a r => { r with nodes := a },
    .must "variables" Decoder.string fun a r => { r with presets := a },
    .must "status" Decoder.string fun a r => { r with status := a },
    .must "max_runs_per_hour" Cell.decode fun a r => { r with maxRunsPerHour := a },
    .must "created_at" Decoder.string fun a r => { r with createdAt := a },
    .must "updated_at" Decoder.string fun a r => { r with updatedAt := a },
    .must "tags" Decoder.string fun a r => { r with tags := a }]
  blank := ⟨none, "", "", "", "", "", "", "", .null, "", "", ""⟩

def WorkflowRow.encode (r : WorkflowRow) : Value :=
  .object [
    ("id", .ofText? r.id),
    ("name", .string r.name),
    ("description", .string r.description),
    ("trigger_type", .string r.triggerType),
    ("trigger_config", .string r.triggerConfig),
    ("nodes", .string r.nodes),
    ("variables", .string r.presets),
    ("status", .string r.status),
    ("max_runs_per_hour", r.maxRunsPerHour.encode),
    ("created_at", .string r.createdAt),
    ("updated_at", .string r.updatedAt),
    ("tags", .string r.tags)]

def RunRow.shape : Decoder.Shape RunRow where
  title := "run"
  fields := [
    .must "id" (Decoder.optional Decoder.string) fun a r => { r with id := a },
    .must "workflow_id" Decoder.string fun a r => { r with workflowId := a },
    .must "status" Decoder.string fun a r => { r with status := a },
    .must "current_node" Decoder.string fun a r => { r with currentNode := a },
    .must "context" Decoder.string fun a r => { r with context := a },
    .must "loop_cursors" Decoder.string fun a r => { r with loopCursors := a },
    .must "steps" Decoder.string fun a r => { r with steps := a },
    .must "trigger_data" Decoder.string fun a r => { r with triggerData := a },
    .must "started_at" Decoder.string fun a r => { r with startedAt := a },
    .must "completed_at" (Decoder.optional Decoder.string) fun a r => { r with completedAt := a },
    .must "resume_at" (Decoder.optional Decoder.string) fun a r => { r with resumeAt := a },
    .must "error" (Decoder.optional Decoder.string) fun a r => { r with error := a }]
  blank := ⟨none, "", "", "", "", "", "", "", "", none, none, none⟩

def RunRow.encode (r : RunRow) : Value :=
  .object [
    ("id", .ofText? r.id),
    ("workflow_id", .string r.workflowId),
    ("status", .string r.status),
    ("current_node", .string r.currentNode),
    ("context", .string r.context),
    ("loop_cursors", .string r.loopCursors),
    ("steps", .string r.steps),
    ("trigger_data", .string r.triggerData),
    ("started_at", .string r.startedAt),
    ("completed_at", .ofText? r.completedAt),
    ("resume_at", .ofText? r.resumeAt),
    ("error", .ofText? r.error)]

def EntryRow.shape : Decoder.Shape EntryRow where
  title := "entry"
  fields := [
    .must "id" Decoder.i64 fun a r => { r with id := a },
    .must "workflow_id" Decoder.string fun a r => { r with workflowId := a },
    .must "run_id" (Decoder.optional Decoder.string) fun a r => { r with runId := a },
    .must "event" Decoder.string fun a r => { r with event := a },
    .must "node" (Decoder.optional Decoder.string) fun a r => { r with node := a },
    .must "details" Decoder.string fun a r => { r with details := a },
    .must "created_at" Decoder.string fun a r => { r with createdAt := a }]
  blank := ⟨0, "", none, "", none, "", ""⟩

def EntryRow.encode (r : EntryRow) : Value :=
  .object [
    ("id", .int r.id),
    ("workflow_id", .string r.workflowId),
    ("run_id", .ofText? r.runId),
    ("event", .string r.event),
    ("node", .ofText? r.node),
    ("details", .string r.details),
    ("created_at", .string r.createdAt)]

-- ============================================================ tables

def shape : Decoder.Shape Store where
  title := "store"
  fields := [
    .must "workflows" (Decoder.list (Decoder.record WorkflowRow.shape))
      fun a s => { s with workflows := a },
    .must "runs" (Decoder.list (Decoder.record RunRow.shape)) fun a s => { s with runs := a },
    .must "trail" (Decoder.list (Decoder.record EntryRow.shape)) fun a s => { s with trail := a },
    .must "last_entry" Decoder.i64 fun a s => { s with lastEntry := a },
    .may "frozen" Decoder.value fun _ s => { s with frozen := true }]
  blank := empty

/-- The tables in a text. -/
def ofArchive (text : String) : Except DecodeError Store :=
  Decoder.ofText (Decoder.record shape) text

/-- The text of the tables. -/
def archive (s : Store) : String :=
  (Value.record [
    ("workflows", some (.array (s.workflows.map WorkflowRow.encode))),
    ("runs", some (.array (s.runs.map RunRow.encode))),
    ("trail", some (.array (s.trail.map EntryRow.encode))),
    ("last_entry", some (.int s.lastEntry)),
    ("frozen", if s.frozen then some (.bool true) else none)]).text

end DurableWorkflow.Store
