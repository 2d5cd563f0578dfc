/-
The audit trail: what happened to workflows and runs, in the order in which it
happened, and how many runs there are of each standing.
-/
import DurableWorkflow.Run

namespace DurableWorkflow

open Time (Instant)

-- ============================================================ events

/-- Something that happened. -/
inductive Event
  | workflowCreated
  | workflowUpdated
  | runStarted
  | stepExecuted
  | runWaiting
  | runResumed
  | runCompleted
  | runFailed
  | runCancelled
deriving DecidableEq, Repr

namespace Event

def name : Event → String
  | .workflowCreated => "workflow_created"
  | .workflowUpdated => "workflow_updated"
  | .runStarted => "run_started"
  | .stepExecuted => "step_executed"
  | .runWaiting => "run_waiting"
  | .runResumed => "run_resumed"
  | .runCompleted => "run_completed"
  | .runFailed => "run_failed"
  | .runCancelled => "run_cancelled"

def all : List Event :=
  [.workflowCreated, .workflowUpdated, .runStarted, .stepExecuted, .runWaiting, .runResumed,
    .runCompleted, .runFailed, .runCancelled]

def ofText (text : String) : Except Failure Event := nameOf "AuditEvent" all name text

def decode : Decoder Event := Decoder.choice ⟨all.map fun t => (t.name, t), none⟩

end Event

/-- An entry of the trail as it is read back. The event is a text, so that entries
with unfamiliar events can be read. -/
structure Entry where
  id : Int
  workflowId : String
  runId : Option String
  event : String
  node : Option String
  details : String
  createdAt : Instant

namespace Entry

def shape : Decoder.Shape Entry where
  title := "AuditEntry"
  fields := [
    .must "id" Decoder.i64 fun a e => { e with id := a },
    .must "workflow_id" Decoder.string fun a e => { e with workflowId := a },
    .may "run_id" (Decoder.optional Decoder.string) fun a e => { e with runId := a },
    .must "event_type" Decoder.string fun a e => { e with event := a },
    .may "node_id" (Decoder.optional Decoder.string) fun a e => { e with node := a },
    .may "details" Decoder.string fun a e => { e with details := a },
    .must "created_at" Decoder.instant fun a e => { e with createdAt := a }]
  blank := ⟨0, "", none, "", none, "", .epoch⟩

def decode : Decoder Entry := Decoder.record shape

def encode (e : Entry) : Value :=
  .object [
    ("id", .int e.id),
    ("workflow_id", .string e.workflowId),
    ("run_id", .ofText? e.runId),
    ("event_type", .string e.event),
    ("node_id", .ofText? e.node),
    ("details", .string e.details),
    ("created_at", e.createdAt.encode)]

end Entry

-- ======================================================== statistics

/-- How many runs there are, of each standing and in all, and how many
workflows. -/
structure Statistics where
  totalRuns : UInt64
  byStatus : Dict UInt64
  totalWorkflows : UInt64
  activeWorkflows : UInt64

namespace Statistics

def shape : Decoder.Shape Statistics where
  title := "Stats"
  fields := [
    .must "total_runs" Decoder.u64 fun a s => { s with totalRuns := a },
    .must "by_status" (Decoder.dict Decoder.u64) fun a s => { s with byStatus := a },
    .must "total_workflows" Decoder.u64 fun a s => { s with totalWorkflows := a },
    .must "active_workflows" Decoder.u64 fun a s => { s with activeWorkflows := a }]
  blank := ⟨0, [], 0, 0⟩

def decode : Decoder Statistics := Decoder.record shape

def encode (s : Statistics) : Value :=
  .object [
    ("total_runs", .int s.totalRuns.toNat),
    ("by_status", .object (s.byStatus.map fun e => (e.1, .int e.2.toNat))),
    ("total_workflows", .int s.totalWorkflows.toNat),
    ("active_workflows", .int s.activeWorkflows.toNat)]

end Statistics

end DurableWorkflow
