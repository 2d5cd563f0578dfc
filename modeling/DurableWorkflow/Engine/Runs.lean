/-
Runs from their start to their end. A run is started at the first node of its
workflow, and driven whenever it is executed, until it is over or has to wait; one
that waits goes on when its time has come; one that is not over can be cancelled.

What happens is written into the trail after it was stored, so the trail speaks of
nothing that did not come about.
-/
import DurableWorkflow.Engine.Admission
import DurableWorkflow.Engine.State

namespace DurableWorkflow

open Time (Instant)

-- =========================================================== reports

/-- What an execution of a run brought. -/
structure Report where
  runId : String
  status : RunStatus
  context : Context
  steps : List Step
  error : Option String
  resumeAt : Option Instant

namespace Report

/-- The report on a run. -/
def ofRun (r : Run) : Report := ⟨r.id, r.status, r.context, r.steps, r.error, r.resumeAt⟩

def encode (r : Report) : Value :=
  .record [
    ("run_id", some (.string r.runId)),
    ("status", some (.string r.status.name)),
    ("steps", some (.int r.steps.length)),
    ("context", some (.object r.context)),
    ("log", some (.array (r.steps.map Step.encode))),
    ("error", r.error.map .string),
    ("resume_at", r.resumeAt.map Instant.encode)]

end Report

namespace Engine

variable {σ : Type}

-- ========================================================== starting

/-- The key of the context that holds what started a run. -/
def triggerKey : String := "trigger"

/-- Whether something came with the start of a run; nothing and an empty object are
nothing. -/
def hasPayload : Value → Bool
  | .null => false
  | .object members => !members.isEmpty
  | _ => true

/-- The context of a run at its start. -/
def firstContext (w : Workflow) (trigger : Value) : Context :=
  if hasPayload trigger then Dict.insert w.presets triggerKey trigger else w.presets

/-- A run at its start. -/
def firstState (w : Workflow) (id : String) (trigger : Value) (now : Instant) : Run where
  id := id
  workflowId := w.id
  status := .running
  currentNode := w.entry
  context := firstContext w trigger
  loopCursors := []
  steps := []
  triggerData := trigger
  startedAt := now
  completedAt := none
  resumeAt := none
  error := none
  unreadable := []

/-- Starts a run of a workflow. There is no run if there is no such workflow, if it
does not accept runs, or if its runs for this hour are used up. -/
def startRun (e : Engine σ) (id : String) (trigger : Value) (s : EngineState σ) :
    Except Failure (Option String) × EngineState σ :=
  match s.store.workflow? id with
  | .error f => (.error f, s)
  | .ok none => (.ok none, s)
  | .ok (some w) =>
    if w.status.acceptsRuns then
      let (now, s) := e.clock s
      match s.store.admits id w.maxRunsPerHour now with
      | .error f => (.error f, s)
      | .ok false => (.ok none, s)
      | .ok true =>
        let r := firstState w (e.ids.run s.issued.runs) trigger now
        match s.store.insertRun r with
        | .error f => (.error f, s)
        | .ok store =>
          let issued := { s.issued with runs := s.issued.runs + 1 }
          (.ok (some r.id),
            e.note w.id (some r.id) .runStarted none ("Trigger: " ++ trigger.text)
              { s with store := store, issued := issued })
    else (.ok none, s)

-- ========================================================= executing

/-- The run that can be executed and its workflow. A record with a field that
cannot be read is not worked with. -/
def executable (s : Store) (id : String) : Except Failure (Run × Workflow) := do
  let some r ← s.run? id | .error (.runNotFound id)
  if let some bad := r.unreadable.head? then .error (.corruptRecord r.id bad.field)
  if r.status ≠ .running then .error (.runNotExecutable r.id r.status.name)
  let some w ← s.workflow? r.workflowId | .error (.workflowNotFound r.workflowId)
  if let some bad := w.unreadable.head? then .error (.corruptRecord w.id bad.field)
  .ok (r, w)

/-- The run after a drive that was over at some instant. A run that has used up its
budget, or has come to a node that is not there, is completed. -/
def progressed (r : Run) (o : Graph.Outcome) (now : Instant) : Run :=
  let r := { r with
    currentNode := o.state.current
    context := o.state.context
    loopCursors := o.state.cursors
    steps := r.steps ++ o.steps }
  match o.halt with
  | .completed => { r with status := .completed, completedAt := some now }
  | .budgetSpent => { r with status := .completed, completedAt := some now }
  | .nodeMissing _ => { r with status := .completed, completedAt := some now }
  | .suspended t => { r with status := .waiting, resumeAt := some t }
  | .failed _ message =>
    { r with status := .failed, error := some message, completedAt := some now }

/-- Writes the steps of an execution into the trail. -/
def noteSteps (e : Engine σ) (workflow run : String) (steps : List Step) (s : EngineState σ) :
    EngineState σ :=
  steps.foldl (fun s step =>
    e.note workflow (some run) .stepExecuted (some step.node) (step.error.getD "") s) s

/-- Writes the end of an execution into the trail. -/
def noteHalt (e : Engine σ) (r : Run) : Graph.Halt → EngineState σ → EngineState σ
  | .suspended t =>
    e.note r.workflowId (some r.id) .runWaiting none ("Resume at: " ++ t.textWithOffset)
  | .failed node message => e.note r.workflowId (some r.id) .runFailed (some node) message
  | .completed | .budgetSpent | .nodeMissing _ =>
    e.note r.workflowId (some r.id) .runCompleted none ("Steps: " ++ toString r.steps.length)

/-- Drives a run from where it stands. -/
def driveRun (e : Engine σ) (r : Run) (w : Workflow) (s : EngineState σ) :
    Graph.Outcome × EngineState σ :=
  let (o, world) :=
    Graph.drive e.toSurroundings w.nodes e.settings.maxSteps (.ofRun r) s.world
  (o, { s with world := world })

/-- Executes a run until it is over, fails, has to wait or has used up its budget,
and stores how it stands then. -/
def executeRun (e : Engine σ) (id : String) (s : EngineState σ) :
    Except Failure Report × EngineState σ :=
  match executable s.store id with
  | .error f => (.error f, s)
  | .ok (r, w) =>
    let (o, s) := e.driveRun r w s
    let (now, s) := e.clock s
    let r := progressed r o now
    match s.store.saveRun r with
    | .error f => (.error f, s)
    | .ok store =>
      (.ok (.ofRun r),
        e.noteHalt r o.halt (e.noteSteps w.id r.id o.steps { s with store := store }))

-- ======================================================== cancelling

/-- Cancels a run; whether there was one that was not over. -/
def cancelRun (e : Engine σ) (id : String) (s : EngineState σ) :
    Except Failure Bool × EngineState σ :=
  match s.store.run? id with
  | .error f => (.error f, s)
  | .ok none => (.ok false, s)
  | .ok (some r) =>
    let (now, s) := e.clock s
    match s.store.cancelRun id now with
    | .error f => (.error f, s)
    | .ok (false, _) => (.ok false, s)
    | .ok (true, store) =>
      (.ok true,
        e.note r.workflowId (some id) .runCancelled none ("From: " ++ r.status.name)
          { s with store := store })

-- ========================================================== resuming

/-- Lets a run go on that was waiting; whether there was one. -/
def resumeRun (e : Engine σ) (id : String) (s : EngineState σ) :
    Except Failure Bool × EngineState σ :=
  match s.store.resumeRun id with
  | .error f => (.error f, s)
  | .ok (false, _) => (.ok false, s)
  | .ok (true, store) =>
    let s := { s with store := store }
    match store.run? id with
    | .error f => (.error f, s)
    | .ok none => (.ok true, s)
    | .ok (some r) =>
      (.ok true, e.note r.workflowId (some id) .runResumed (some r.currentNode) "" s)

/-- Lets runs go on one by one; those that were waiting. -/
def resumeRuns (e : Engine σ) :
    List String → EngineState σ → Except Failure (List String) × EngineState σ
  | [], s => (.ok [], s)
  | id :: ids, s =>
    match e.resumeRun id s with
    | (.error f, s) => (.error f, s)
    | (.ok resumed, s) =>
      match e.resumeRuns ids s with
      | (.error f, s) => (.error f, s)
      | (.ok others, s) => (.ok (if resumed then id :: others else others), s)

/-- Lets every run go on whose time has come. Each still has to be executed. -/
def resumeDueRuns (e : Engine σ) (s : EngineState σ) :
    Except Failure (List String) × EngineState σ :=
  let (now, s) := e.clock s
  match s.store.dueRuns now with
  | .error f => (.error f, s)
  | .ok ids => e.resumeRuns ids s

-- =========================================================== looking

/-- The run with an id. -/
def run? (id : String) (s : EngineState σ) : Except Failure (Option Run) := s.store.run? id

/-- Runs by workflow and status, those that were started last first. -/
def listRuns (e : Engine σ) (workflow : Option String) (status : Option RunStatus)
    (limit : Option Nat) (s : EngineState σ) : Except Failure (List Run) :=
  s.store.listRuns workflow status (limit.getD e.settings.listLimit)

/-- Entries of the trail by workflow and run, the latest first. -/
def entries (e : Engine σ) (workflow run : Option String) (limit : Option Nat)
    (s : EngineState σ) : List Entry :=
  s.store.entries workflow run (limit.getD e.settings.auditLimit)

/-- How many runs and workflows there are. -/
def statistics (workflow : Option String) (s : EngineState σ) : Statistics :=
  s.store.statistics workflow

end Engine

end DurableWorkflow
