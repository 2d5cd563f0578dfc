/-
Runs of a workflow and the steps they consist of. A run keeps everything that is
needed to go on with it: the node it stands at, its context, and for each loop
that it is inside of the index of the next item.
-/
import DurableWorkflow.Workflow

namespace DurableWorkflow

open Time (Instant)

-- ============================================================= names

/-- The standing of a run. -/
inductive RunStatus
  | pending
  | running
  | completed
  | failed
  | cancelled
  | waiting
deriving DecidableEq, Repr

namespace RunStatus

def name : RunStatus → String
  | .pending => "pending"
  | .running => "running"
  | .completed => "completed"
  | .failed => "failed"
  | .cancelled => "cancelled"
  | .waiting => "waiting"

def all : List RunStatus := [.pending, .running, .completed, .failed, .cancelled, .waiting]

def ofText (text : String) : Except Failure RunStatus := nameOf "RunStatus" all name text

def decode : Decoder RunStatus := Decoder.choice ⟨all.map fun t => (t.name, t), none⟩

/-- Whether a run of this standing is over. -/
def isTerminal : RunStatus → Bool
  | .completed => true
  | .failed => true
  | .cancelled => true
  | _ => false

end RunStatus

/-- How a visit to a node ended. -/
inductive StepStatus
  | success
  | error
  | waiting
deriving DecidableEq, Repr

namespace StepStatus

def name : StepStatus → String
  | .success => "success"
  | .error => "error"
  | .waiting => "waiting"

def all : List StepStatus := [.success, .error, .waiting]

def decode : Decoder StepStatus := Decoder.choice ⟨all.map fun t => (t.name, t), none⟩

end StepStatus

-- ============================================================= steps

/-- One visit to a node. -/
structure Step where
  node : String
  type : NodeType
  timestamp : Instant
  status : StepStatus
  result : Option Value
  branch : Option String
  delay : Option UInt64
  iteration : Option Nat
  attempts : Option UInt32
  error : Option String

namespace Step

/-- A visit that has not brought anything yet. -/
def new (node : String) (type : NodeType) (t : Instant) : Step :=
  ⟨node, type, t, .success, none, none, none, none, none, none⟩

def shape : Decoder.Shape Step where
  title := "Step"
  fields := [
    .must "node_id" Decoder.string fun a s => { s with node := a },
    .must "node_type" NodeType.decode fun a s => { s with type := a },
    .must "timestamp" Decoder.instant fun a s => { s with timestamp := a },
    .must "status" StepStatus.decode fun a s => { s with status := a },
    .may "result" (Decoder.optional Decoder.value) fun a s => { s with result := a },
    .may "branch" (Decoder.optional Decoder.string) fun a s => { s with branch := a },
    .may "delay" (Decoder.optional Decoder.u64) fun a s => { s with delay := a },
    .may "iteration" (Decoder.optional Decoder.count) fun a s => { s with iteration := a },
    .may "attempts" (Decoder.optional Decoder.u32) fun a s => { s with attempts := a },
    .may "error" (Decoder.optional Decoder.string) fun a s => { s with error := a }]
  blank := new "" .action .epoch

def decode : Decoder Step := Decoder.record shape

def encode (s : Step) : Value :=
  .record [
    ("node_id", some (.string s.node)),
    ("node_type", some (.string s.type.name)),
    ("timestamp", some s.timestamp.encode),
    ("status", some (.string s.status.name)),
    ("result", s.result),
    ("branch", s.branch.map .string),
    ("delay", s.delay.map fun n => .int n.toNat),
    ("iteration", s.iteration.map fun n => .int n),
    ("attempts", s.attempts.map fun n => .int n.toNat),
    ("error", s.error.map .string)]

end Step

-- ============================================================== runs

/-- For each loop that a run is inside of, the index of the next item. -/
abbrev Cursors := Dict Nat

/-- One execution of a workflow. -/
structure Run where
  id : String
  workflowId : String
  status : RunStatus
  currentNode : String
  context : Context
  loopCursors : Cursors
  steps : List Step
  triggerData : Value
  startedAt : Instant
  completedAt : Option Instant
  resumeAt : Option Instant
  error : Option String
  unreadable : List Unreadable

namespace Run

/-- The cursors of a run as a value. -/
def encodeCursors (c : Cursors) : Value := .object (c.map fun e => (e.1, .int e.2))

def shape : Decoder.Shape Run where
  title := "Run"
  fields := [
    .must "id" Decoder.string fun a r => { r with id := a },
    .must "workflow_id" Decoder.string fun a r => { r with workflowId := a },
    .must "status" RunStatus.decode fun a r => { r with status := a },
    .may "current_node" Decoder.string fun a r => { r with currentNode := a },
    .may "context" (Decoder.dict Decoder.value) fun a r => { r with context := a },
    .may "loop_cursors" (Decoder.dict Decoder.count) fun a r => { r with loopCursors := a },
    .may "steps_log" (Decoder.list Step.decode) fun a r => { r with steps := a },
    .may "trigger_data" Decoder.value fun a r => { r with triggerData := a },
    .must "started_at" Decoder.instant fun a r => { r with startedAt := a },
    .may "completed_at" (Decoder.optional Decoder.instant) fun a r => { r with completedAt := a },
    .may "resume_at" (Decoder.optional Decoder.instant) fun a r => { r with resumeAt := a },
    .may "error" (Decoder.optional Decoder.string) fun a r => { r with error := a },
    .may "raw_fields" (Decoder.list Unreadable.decode) fun a r => { r with unreadable := a }]
  blank := ⟨"", "", .pending, "", [], [], [], .null, .epoch, none, none, none, []⟩

def decode : Decoder Run := Decoder.record shape

def encode (r : Run) : Value :=
  .record [
    ("id", some (.string r.id)),
    ("workflow_id", some (.string r.workflowId)),
    ("status", some (.string r.status.name)),
    ("current_node", some (.string r.currentNode)),
    ("context", some (.object r.context)),
    ("loop_cursors", some (encodeCursors r.loopCursors)),
    ("steps_log", some (.array (r.steps.map Step.encode))),
    ("trigger_data", some r.triggerData),
    ("started_at", some r.startedAt.encode),
    ("completed_at", some (.ofInstant? r.completedAt)),
    ("resume_at", some (.ofInstant? r.resumeAt)),
    ("error", some (.ofText? r.error)),
    ("raw_fields", Unreadable.encodeAll r.unreadable)]

/-- Whether every field could be read. -/
def isIntact (r : Run) : Bool := r.unreadable.isEmpty

end Run

end DurableWorkflow
