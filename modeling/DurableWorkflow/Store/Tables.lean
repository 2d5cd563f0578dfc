/-
The store: three tables, and the operations on them. An operation that fails
leaves the store as it was. Times are compared as text. A limit that does not fit
63 bits is no limit.

Entries of the trail are numbered upward, and no number is given twice. A store
whose runs are frozen refuses every change of a row of a run, and does not mind a
change that concerns no row.
-/
import DurableWorkflow.Store.Row
import DurableWorkflow.Store.Like

namespace DurableWorkflow

open Time (Instant)
open Store (WorkflowRow RunRow EntryRow)

/-- The stored tables. `lastEntry` is the greatest number that an entry of the
trail was given. -/
structure Store where
  workflows : List WorkflowRow
  runs : List RunRow
  trail : List EntryRow
  lastEntry : Int
  frozen : Bool

namespace Store

/-- A store without rows. -/
def empty : Store := ⟨[], [], [], 0, false⟩

-- =========================================================== queries

/-- As many rows as a limit allows. -/
def within {α : Type} (limit : Nat) (rows : List α) : List α :=
  if limit < 0x8000000000000000 then rows.take limit else rows

/-- Rows by descending text of a column; rows with one text stay in order. -/
def newestFirst {α : Type} (column : α → String) (rows : List α) : List α :=
  rows.mergeSort fun a b => decide (column b ≤ column a)

/-- Reads rows one by one. -/
def readAll {α β : Type} (read : α → Except Failure β) : List α → Except Failure (List β)
  | [] => .ok []
  | r :: rs => do
    let b ← read r
    let bs ← readAll read rs
    .ok (b :: bs)

/-- Whether a filter, if there is one, is met. -/
def meets (filter : Option String) (column : String) : Bool :=
  match filter with
  | none => true
  | some s => column = s

-- ========================================================= workflows

/-- Adds a workflow; its id has to be new. -/
def insertWorkflow (s : Store) (w : Workflow) : Except Failure Store :=
  if s.workflows.any fun r => r.id = some w.id then
    .error (.database (.notUnique "workflows" "workflow_id"))
  else .ok { s with workflows := s.workflows ++ [.of w] }

/-- The row of a workflow. -/
def workflowRow? (s : Store) (id : String) : Option WorkflowRow :=
  s.workflows.find? fun r => r.id = some id

/-- The workflow with an id. -/
def workflow? (s : Store) (id : String) : Except Failure (Option Workflow) :=
  match s.workflowRow? id with
  | none => .ok none
  | some r => r.read.map some

/-- The pattern for lists of tags that have a tag. -/
def tagPattern (tag : String) : List Char := containing (Value.quote tag)

/-- Looks for a tag in a row; a pattern that is too long is refused. -/
def hasTag (pattern : List Char) (r : WorkflowRow) : Except Failure Bool :=
  if maxPattern < Text.bytes pattern then .error (.database .patternTooComplex)
  else .ok (like pattern r.tags.toList)

/-- The rows that have a tag, if one is asked for. -/
def tagged (tag : Option String) (rows : List WorkflowRow) : Except Failure (List WorkflowRow) :=
  match tag with
  | none => .ok rows
  | some t =>
    let pattern := tagPattern t
    match rows with
    | [] => .ok []
    | r :: _ =>
      match hasTag pattern r with
      | .error e => .error e
      | .ok _ => .ok (rows.filter fun r => like pattern r.tags.toList)

/-- Workflows by status and tag, those that were changed last first. -/
def listWorkflows (s : Store) (status : Option WorkflowStatus) (tag : Option String)
    (limit : Nat) : Except Failure (List Workflow) := do
  if limit = 0 then return []
  let rows := s.workflows.filter fun r => meets (status.map WorkflowStatus.name) r.status
  let rows ← tagged tag rows
  readAll WorkflowRow.read (within limit (newestFirst WorkflowRow.updatedAt rows))

/-- Replaces fields of a workflow; whether there were fields to replace and a
workflow to replace them in. -/
def reviseWorkflow (s : Store) (id : String) (u : Revision) (now : Instant) : Bool × Store :=
  if u.isEmpty then (false, s)
  else
    ((s.workflowRow? id).isSome,
      { s with workflows := s.workflows.map fun r =>
          if r.id = some id then r.revise u now else r })

/-- Removes a workflow; its runs stay. -/
def deleteWorkflow (s : Store) (id : String) : Bool × Store :=
  ((s.workflowRow? id).isSome,
    { s with workflows := s.workflows.filter fun r => r.id ≠ some id })

/-- How many workflows there are, and how many of them are active. -/
def workflowCounts (s : Store) : Nat × Nat :=
  (s.workflows.length,
    s.workflows.countP fun r => r.status = WorkflowStatus.active.name)

-- ============================================================== runs

/-- Adds a run; its id has to be new. -/
def insertRun (s : Store) (r : Run) : Except Failure Store :=
  if s.runs.any fun row => row.id = some r.id then
    .error (.database (.notUnique "workflow_runs" "run_id"))
  else .ok { s with runs := s.runs ++ [.of r] }

/-- The row of a run. -/
def runRow? (s : Store) (id : String) : Option RunRow := s.runs.find? fun r => r.id = some id

/-- The run with an id. -/
def run? (s : Store) (id : String) : Except Failure (Option Run) :=
  match s.runRow? id with
  | none => .ok none
  | some r => r.read.map some

/-- The rows of runs in the order in which a listing comes to them: those of one
workflow are looked up backward. -/
def lookedUp (workflow : Option String) (rows : List RunRow) : List RunRow :=
  match workflow with
  | none => rows
  | some _ => rows.reverse

/-- Runs by workflow and status, those that were started last first. -/
def listRuns (s : Store) (workflow : Option String) (status : Option RunStatus) (limit : Nat) :
    Except Failure (List Run) :=
  let rows := (lookedUp workflow s.runs).filter fun r =>
    meets workflow r.workflowId && meets (status.map RunStatus.name) r.status
  readAll RunRow.read (within limit (newestFirst RunRow.startedAt rows))

/-- Changes the rows of runs that meet a condition; whether there were any. -/
def changeRuns (s : Store) (p : RunRow → Bool) (f : RunRow → RunRow) :
    Except Failure (Bool × Store) :=
  if s.runs.any p then
    if s.frozen then .error (.database .frozen)
    else .ok (true, { s with runs := s.runs.map fun r => if p r then f r else r })
  else .ok (false, s)

/-- Saves what changes in the course of a run. -/
def saveRun (s : Store) (r : Run) : Except Failure Store := do
  let (_, s) ← s.changeRuns (fun row => row.id = some r.id) fun row => row.save r
  .ok s

/-- The names of the standings of a run that is not over. -/
def openNames : List String :=
  [RunStatus.pending.name, RunStatus.running.name, RunStatus.waiting.name]

/-- Cancels a run that is not over. -/
def cancelRun (s : Store) (id : String) (now : Instant) : Except Failure (Bool × Store) :=
  s.changeRuns (fun r => r.id = some id && openNames.contains r.status) fun r =>
    { r with
      status := RunStatus.cancelled.name
      completedAt := some now.stored
      resumeAt := none }

/-- How many runs of a workflow were started after an instant. -/
def countSince (s : Store) (workflow : String) (since : Instant) : Nat :=
  s.runs.countP fun r => r.workflowId = workflow && decide (since.stored < r.startedAt)

/-- Whether a run waits for an instant that is not after another one. -/
def isDue (now : Instant) (r : RunRow) : Bool :=
  r.status = RunStatus.waiting.name &&
    (match r.resumeAt with
    | none => false
    | some t => decide (t ≤ now.stored))

/-- The id of a row, which has to be there. -/
def idOf (r : RunRow) : Except Failure String :=
  match r.id with
  | none => .error (.database (.wrongClass "Null" 0 "run_id"))
  | some id => .ok id

/-- The runs whose time is over, those that are due longest first. -/
def dueRuns (s : Store) (now : Instant) : Except Failure (List String) :=
  readAll idOf ((s.runs.filter (isDue now)).mergeSort fun a b =>
    decide (a.resumeAt.getD "" ≤ b.resumeAt.getD ""))

/-- Lets a waiting run go on. -/
def resumeRun (s : Store) (id : String) : Except Failure (Bool × Store) :=
  s.changeRuns (fun r => r.id = some id && r.status = RunStatus.waiting.name) fun r =>
    { r with status := RunStatus.running.name, resumeAt := none }

-- ============================================================= trail

/-- The number of the next entry of the trail. -/
def nextEntry (s : Store) : Int := s.trail.foldl (fun n r => max n r.id) s.lastEntry + 1

/-- Adds an entry to the trail and gives its number. -/
def append (s : Store) (workflow : String) (run : Option String) (event : Event)
    (node : Option String) (details : String) (now : Instant) : Int × Store :=
  let id := s.nextEntry
  (id,
    { s with
      trail := s.trail ++ [⟨id, workflow, run, event.name, node, details, now.stored⟩]
      lastEntry := id })

/-- Entries by workflow and run, the latest first; of those with one time, the one
with the greater number. -/
def entries (s : Store) (workflow run : Option String) (limit : Nat) : List Entry :=
  let rows := s.trail.filter fun r =>
    meets workflow r.workflowId &&
      (match run with
      | none => true
      | some id => r.runId = some id)
  let sorted := rows.mergeSort fun a b =>
    decide (b.createdAt < a.createdAt) || (a.createdAt == b.createdAt && decide (b.id ≤ a.id))
  (within limit sorted).map EntryRow.read

-- ======================================================== statistics

/-- Counts the rows by status. -/
def countByStatus (rows : List RunRow) : Dict UInt64 :=
  rows.foldl (fun m r => m.insert r.status ((Dict.find? m r.status).getD 0 + 1)) []

/-- How many runs there are of each standing, of one workflow or of all, and how
many workflows. -/
def statistics (s : Store) (workflow : Option String) : Statistics :=
  let rows := s.runs.filter fun r => meets workflow r.workflowId
  let (total, active) := s.workflowCounts
  ⟨rows.length.toUInt64, countByStatus rows, total.toUInt64, active.toUInt64⟩

end Store

end DurableWorkflow
