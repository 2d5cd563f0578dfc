/-
Keeping workflows: making them from blueprints, looking them up, revising and
removing them. Making and revising leave an entry in the trail. An operation that
is refused leaves nothing behind.
-/
import DurableWorkflow.Engine.State

namespace DurableWorkflow.Engine

open Time (Instant)

variable {σ : Type}

-- ============================================================ making

/-- The workflow that a blueprint describes. -/
def draft (e : Engine σ) (b : Blueprint) (nodes : List Node) (id : String) (now : Instant) :
    Workflow where
  id := id
  name := b.name
  description := b.description
  trigger := b.trigger
  triggerConfig := b.triggerConfig
  nodes := nodes
  presets := b.presets
  status := .draft
  maxRunsPerHour := b.maxRunsPerHour.getD e.settings.defaultMaxRunsPerHour
  tags := b.tags
  createdAt := now
  updatedAt := now
  unreadable := []

/-- Makes a workflow; nodes without an id get one. -/
def createWorkflow (e : Engine σ) (b : Blueprint) (s : EngineState σ) :
    Except Failure Workflow × EngineState σ :=
  match Node.normalize e.ids.node s.issued.nodes b.nodes with
  | .error f => (.error f, s)
  | .ok (nodes, used) =>
    let (now, s) := e.clock s
    let w := e.draft b nodes (e.ids.workflow s.issued.workflows) now
    match s.store.insertWorkflow w with
    | .error f => (.error f, s)
    | .ok store =>
      let issued := { s.issued with workflows := s.issued.workflows + 1, nodes := used }
      (.ok w,
        e.note w.id none .workflowCreated none ("Created: " ++ w.name)
          { s with store := store, issued := issued })

-- ========================================================== revising

/-- The revision with ids for its nodes, and how many node ids are gone then. -/
def normalized (e : Engine σ) (u : Revision) (used : Nat) : Except Failure (Revision × Nat) :=
  match u.nodes with
  | none => .ok (u, used)
  | some nodes =>
    match Node.normalize e.ids.node used nodes with
    | .error f => .error f
    | .ok (nodes, used) => .ok ({ u with nodes := some nodes }, used)

/-- Replaces fields of a workflow; whether there was a field to replace and a
workflow to replace it in. The graph is not looked at beyond the ids of nodes. -/
def reviseWorkflow (e : Engine σ) (id : String) (u : Revision) (s : EngineState σ) :
    Except Failure Bool × EngineState σ :=
  match e.normalized u s.issued.nodes with
  | .error f => (.error f, s)
  | .ok (u, used) =>
    let (now, s) := e.clock s
    match s.store.reviseWorkflow id u now with
    | (false, _) => (.ok false, s)
    | (true, store) =>
      (.ok true,
        e.note id none .workflowUpdated none
          ("Fields: " ++ String.intercalate ", " u.fieldNames)
          { s with store := store, issued := { s.issued with nodes := used } })

/-- Lets runs of a workflow be started. -/
def activateWorkflow (e : Engine σ) (id : String) (s : EngineState σ) :
    Except Failure Bool × EngineState σ :=
  e.reviseWorkflow id (.ofStatus .active) s

/-- Lets no more runs of a workflow be started. -/
def pauseWorkflow (e : Engine σ) (id : String) (s : EngineState σ) :
    Except Failure Bool × EngineState σ :=
  e.reviseWorkflow id (.ofStatus .paused) s

/-- Removes a workflow; whether there was one. Its runs and its entries in the
trail stay. -/
def deleteWorkflow (id : String) (s : EngineState σ) : Bool × EngineState σ :=
  let (deleted, store) := s.store.deleteWorkflow id
  (deleted, { s with store := store })

-- =========================================================== looking

/-- The workflow with an id. -/
def workflow? (id : String) (s : EngineState σ) : Except Failure (Option Workflow) :=
  s.store.workflow? id

/-- Workflows by status and tag, those that were changed last first. -/
def listWorkflows (e : Engine σ) (status : Option WorkflowStatus) (tag : Option String)
    (limit : Option Nat) (s : EngineState σ) : Except Failure (List Workflow) :=
  s.store.listWorkflows status tag (limit.getD e.settings.listLimit)

end DurableWorkflow.Engine
