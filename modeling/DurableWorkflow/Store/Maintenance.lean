/-
Changing stored columns from outside: one column of one row at a time, whatever it
holds. The tables accept every text; they refuse only a missing value where one is
needed, and an id that another row has.
-/
import DurableWorkflow.Store.Tables

namespace DurableWorkflow.Store

-- ============================================================ tables

/-- A stored table. -/
inductive Table
  | workflows
  | runs
  | trail
deriving DecidableEq, Repr

namespace Table

def name : Table → String
  | .workflows => "workflows"
  | .runs => "workflow_runs"
  | .trail => "workflow_audit_log"

def all : List Table := [.workflows, .runs, .trail]

def ofName? (name : String) : Option Table := all.find? fun t => t.name = name

end Table

-- =========================================================== columns

/-- A column of the rows of one kind: its name, and how a cell is put into it. A
column that needs a value refuses `null`. -/
structure Column (ρ : Type) where
  name : String
  put : Cell → ρ → Except StoreFault ρ

/-- A text column that needs a value. -/
def Column.text {ρ : Type} (table : Table) (name : String) (set : String → ρ → ρ) :
    Column ρ where
  name := name
  put c r := match c.asText with
    | some s => .ok (set s r)
    | none => .error (.missingValue table.name name)

/-- A text column that may be empty. -/
def Column.textOrNull {ρ : Type} (name : String) (set : Option String → ρ → ρ) :
    Column ρ where
  name := name
  put c r := .ok (set c.asText r)

/-- A number column that needs a value. -/
def Column.number {ρ : Type} (table : Table) (name : String) (set : Cell → ρ → ρ) :
    Column ρ where
  name := name
  put c r := match c with
    | .null => .error (.missingValue table.name name)
    | c => .ok (set c.asNumber r)

/-- The columns of a workflow. -/
def workflowColumns : List (Column WorkflowRow) :=
  let text := Column.text .workflows
  [.textOrNull "workflow_id" fun s r => { r with id := s },
    text "name" fun s r => { r with name := s },
    text "description" fun s r => { r with description := s },
    text "trigger_type" fun s r => { r with triggerType := s },
    text "trigger_config" fun s r => { r with triggerConfig := s },
    text "nodes" fun s r => { r with nodes := s },
    text "variables" fun s r => { r with presets := s },
    text "status" fun s r => { r with status := s },
    .number .workflows "max_runs_per_hour" fun c r => { r with maxRunsPerHour := c },
    text "created_at" fun s r => { r with createdAt := s },
    text "updated_at" fun s r => { r with updatedAt := s },
    text "tags" fun s r => { r with tags := s }]

/-- The columns of a run. -/
def runColumns : List (Column RunRow) :=
  let text := Column.text .runs
  [.textOrNull "run_id" fun s r => { r with id := s },
    text "workflow_id" fun s r => { r with workflowId := s },
    text "status" fun s r => { r with status := s },
    text "current_node" fun s r => { r with currentNode := s },
    text "context" fun s r => { r with context := s },
    text "loop_cursors" fun s r => { r with loopCursors := s },
    text "steps_log" fun s r => { r with steps := s },
    text "trigger_data" fun s r => { r with triggerData := s },
    text "started_at" fun s r => { r with startedAt := s },
    .textOrNull "completed_at" fun s r => { r with completedAt := s },
    .textOrNull "resume_at" fun s r => { r with resumeAt := s },
    .textOrNull "error" fun s r => { r with error := s }]

/-- The columns of an entry of the trail. -/
def entryColumns : List (Column EntryRow) :=
  let text := Column.text .trail
  [{ name := "id"
     put := fun c r => match c.asNumber with
      | .int n => .ok { r with id := n }
      | _ => .error (.other "datatype mismatch") },
    text "workflow_id" fun s r => { r with workflowId := s },
    .textOrNull "run_id" fun s r => { r with runId := s },
    text "event_type" fun s r => { r with event := s },
    .textOrNull "node_id" fun s r => { r with node := s },
    text "details" fun s r => { r with details := s },
    text "created_at" fun s r => { r with createdAt := s }]

/-- The column with a name. -/
def column? {ρ : Type} (columns : List (Column ρ)) (name : String) : Option (Column ρ) :=
  columns.find? fun c => c.name = name

-- =========================================================== changes

/-- Puts a cell into a column of the row that meets a condition; how many rows there
were, and the rows afterwards. -/
def putWhere {ρ : Type} (p : ρ → Bool) (c : Column ρ) (value : Cell) :
    List ρ → Except StoreFault (Nat × List ρ)
  | [] => .ok (0, [])
  | r :: rs =>
    if p r then do
      let r ← c.put value r
      .ok (1, r :: rs)
    else do
      let (n, rs) ← putWhere p c value rs
      .ok (n, r :: rs)

/-- Whether two rows have one id. -/
def clash {α : Type} [DecidableEq α] : List (Option α) → Bool
  | [] => false
  | none :: ids => clash ids
  | some a :: ids => ids.contains (some a) || clash ids

/-- The number of an entry of the trail that a text stands for. -/
def entryNumber? (id : String) : Option Int :=
  match numeric id with
  | .int n => some n
  | _ => none

/-- Puts a cell into a column of the row of a table that has an id; how many rows
there were. `none` if the table has no such column. -/
def setColumn (s : Store) (table : Table) (id column : String) (value : Cell) :
    Option (Except StoreFault (Nat × Store)) :=
  match table with
  | .workflows => (column? workflowColumns column).map fun c => do
    let (n, rows) ← putWhere (fun r => r.id = some id) c value s.workflows
    if clash (rows.map WorkflowRow.id) then .error (.notUnique table.name "workflow_id")
    else .ok (n, { s with workflows := rows })
  | .runs => (column? runColumns column).map fun c => do
    if s.frozen && s.runs.any fun r => r.id = some id then .error .frozen
    let (n, rows) ← putWhere (fun r => r.id = some id) c value s.runs
    if clash (rows.map RunRow.id) then .error (.notUnique table.name "run_id")
    else .ok (n, { s with runs := rows })
  | .trail => (column? entryColumns column).map fun c => do
    let (n, rows) ← putWhere (fun r => some r.id = entryNumber? id) c value s.trail
    if clash (rows.map fun r => some r.id) then .error (.notUnique table.name "id")
    else .ok (n, { s with trail := rows })

/-- Refuses changes of runs from now on. -/
def freezeRuns (s : Store) : Store := { s with frozen := true }

end DurableWorkflow.Store
