/-
Operations of an engine as data, and histories: what happens to an engine, one
thing after another.

A history is a list of occurrences. Operations do not overlap, so each one finds
the state that the one before it left. Between operations anything may happen
that is not an operation: clocks move, handlers keep something else in mind, and
ids are drawn by others. So an occurrence that is no operation sets the world
and the ids that are gone to whatever it likes, and only what is stored is the
engine's own.

Every statement about "all sequences of operations" is a statement about
`Engine.after`, from the state in which nothing is stored.
-/
import DurableWorkflow.Engine.Definitions
import DurableWorkflow.Engine.Runs

namespace DurableWorkflow

-- ========================================================= operations

/-- An operation of an engine with its arguments. -/
inductive Operation
  | create (b : Blueprint)
  | revise (workflow : String) (u : Revision)
  | activate (workflow : String)
  | pause (workflow : String)
  | delete (workflow : String)
  | start (workflow : String) (trigger : Value)
  | execute (run : String)
  | cancel (run : String)
  | resumeDue
  | workflow (id : String)
  | workflows (status : Option WorkflowStatus) (tag : Option String) (limit : Option Nat)
  | run (id : String)
  | runs (workflow : Option String) (status : Option RunStatus) (limit : Option Nat)
  | entries (workflow run : Option String) (limit : Option Nat)
  | statistics (workflow : Option String)

/-- What an operation that succeeds replies. -/
inductive Reply
  | made (w : Workflow)
  | changed (b : Bool)
  | started (run : Option String)
  | executed (r : Report)
  | resumed (runs : List String)
  | workflow (w : Option Workflow)
  | workflows (ws : List Workflow)
  | run (r : Option Run)
  | runs (rs : List Run)
  | entries (es : List Entry)
  | statistics (t : Statistics)

namespace Engine

variable {σ : Type}

/-- Does an operation. -/
def perform (e : Engine σ) (o : Operation) (s : EngineState σ) :
    Except Failure Reply × EngineState σ :=
  match o with
  | .create b => ((e.createWorkflow b s).1.map .made, (e.createWorkflow b s).2)
  | .revise id u => ((e.reviseWorkflow id u s).1.map .changed, (e.reviseWorkflow id u s).2)
  | .activate id => ((e.activateWorkflow id s).1.map .changed, (e.activateWorkflow id s).2)
  | .pause id => ((e.pauseWorkflow id s).1.map .changed, (e.pauseWorkflow id s).2)
  | .delete id => (.ok (.changed (deleteWorkflow id s).1), (deleteWorkflow id s).2)
  | .start id trigger => ((e.startRun id trigger s).1.map .started, (e.startRun id trigger s).2)
  | .execute id => ((e.executeRun id s).1.map .executed, (e.executeRun id s).2)
  | .cancel id => ((e.cancelRun id s).1.map .changed, (e.cancelRun id s).2)
  | .resumeDue => ((e.resumeDueRuns s).1.map .resumed, (e.resumeDueRuns s).2)
  | .workflow id => ((workflow? id s).map .workflow, s)
  | .workflows status tag limit => ((e.listWorkflows status tag limit s).map .workflows, s)
  | .run id => ((run? id s).map .run, s)
  | .runs workflow status limit => ((e.listRuns workflow status limit s).map .runs, s)
  | .entries workflow run limit => (.ok (.entries (e.entries workflow run limit s)), s)
  | .statistics workflow => (.ok (.statistics (statistics workflow s)), s)

end Engine

-- ========================================================== histories

/-- One thing that happens: an operation, or what goes on outside of operations
with the world and the supply of ids. -/
inductive Occurrence (σ : Type)
  | operation (o : Operation)
  | outside (world : σ) (issued : Issued)

namespace Engine

variable {σ : Type}

/-- The state after one occurrence. -/
def next (e : Engine σ) (s : EngineState σ) : Occurrence σ → EngineState σ
  | .operation o => (e.perform o s).2
  | .outside world issued => ⟨s.store, world, issued⟩

/-- The state after a history. -/
def after (e : Engine σ) (h : List (Occurrence σ)) (s : EngineState σ) : EngineState σ :=
  h.foldl e.next s

theorem after_append (e : Engine σ) (h k : List (Occurrence σ)) (s : EngineState σ) :
    e.after (h ++ k) s = e.after k (e.after h s) :=
  List.foldl_append

/-- What happens outside concerns no row. -/
theorem store_outside (e : Engine σ) (s : EngineState σ) (world : σ) (issued : Issued) :
    (e.after [.outside world issued] s).store = s.store := rfl

/-- What holds of a state and is kept by each occurrence of a history holds after it. -/
theorem after_of_mem (e : Engine σ) {P : EngineState σ → Prop} {h : List (Occurrence σ)}
    (hnext : ∀ x ∈ h, ∀ s, P s → P (e.next s x)) {s : EngineState σ} (hs : P s) :
    P (e.after h s) := by
  induction h generalizing s with
  | nil => exact hs
  | cons x h ih =>
      apply ih
      · exact fun y hy => hnext y (List.mem_cons_of_mem x hy)
      · exact hnext x List.mem_cons_self s hs

/-- What holds of a state and is kept by every occurrence holds after every
history. -/
theorem after_of_next (e : Engine σ) {P : EngineState σ → Prop}
    (hnext : ∀ s x, P s → P (e.next s x)) (h : List (Occurrence σ)) {s : EngineState σ}
    (hs : P s) : P (e.after h s) :=
  e.after_of_mem (fun x _ s => hnext s x) hs

end Engine

end DurableWorkflow
