/-
What a revision writes. Its fields are listed twice: once as names, for the trail, and once as
columns with what is to stand in them, for the row. Here both are read off one list (`fields`), so
that the names are those of the columns that are written (`keys_cells`), and a row after a
revision is the row before with these cells in it, and the time (`cells_revise`).

Two revisions in turn write what one writes that has the fields of both, those of the second
where both have one (`revise_followedBy`). Only the times differ, so that is said of rows without
theirs; then it holds whether or not there is anything to write and anything to write it to.
-/
import DurableWorkflow.Engine.Definitions
import DurableWorkflow.Proofs.Dict
import DurableWorkflow.Proofs.Engine.Beginnings
import DurableWorkflow.Proofs.Graph.Ids

namespace DurableWorkflow

open Store (WorkflowRow Cell nodesText dictText tagsText)
open Time (Instant)

variable {σ : Type}

-- ============================================================= cells

namespace Store

/-- The columns of a row of a workflow, each with its cell. -/
def WorkflowRow.cells (row : WorkflowRow) : List (String × Cell) :=
  [("workflow_id", (row.id.map Cell.text).getD .null), ("name", .text row.name),
    ("description", .text row.description), ("trigger_type", .text row.triggerType),
    ("trigger_config", .text row.triggerConfig), ("nodes", .text row.nodes),
    ("variables", .text row.presets), ("status", .text row.status),
    ("max_runs_per_hour", row.maxRunsPerHour), ("created_at", .text row.createdAt),
    ("updated_at", .text row.updatedAt), ("tags", .text row.tags)]

/-- Cells with others written over them, column by column. -/
def overwritten (written cells : List (String × Cell)) : List (String × Cell) :=
  cells.map fun c => (c.1, (Dict.find? written c.1).getD c.2)

end Store

namespace Dict

variable {α : Type}

/-- The entries that have a value. -/
def given (fields : List (String × Option α)) : Dict α :=
  fields.filterMap fun f => f.2.map fun a => (f.1, a)

theorem keys_given (fields : List (String × Option α)) :
    (given fields).keys = (fields.map fun f => (f.1, f.2.isSome)).filterMap fun f =>
      if f.2 then some f.1 else none := by
  unfold given keys
  rw [List.map_filterMap, List.filterMap_map]
  refine congrArg (fun g => fields.filterMap g) (funext fun f => ?_)
  obtain ⟨name, value⟩ := f
  cases value <;> rfl

/-- Where the keys differ, the value of a key is the one that its entry has, if it has one. -/
theorem find?_given {fields : List (String × Option α)} (hkeys : (fields.map Prod.fst).Nodup)
    (key : String) : (given fields).find? key = (find? fields key).join := by
  induction fields with
  | nil => rfl
  | cons f fields ih =>
      obtain ⟨name, value⟩ := f
      obtain ⟨hnew, hrest⟩ := List.nodup_cons.mp hkeys
      cases value with
      | some a =>
          simp only [given, List.filterMap_cons, Option.map_some, find?]
          split
          · rfl
          · exact ih hrest
      | none =>
          simp only [given, List.filterMap_cons, Option.map_none, find?]
          split
          next heq =>
            have hnone : find? fields key = none := find?_eq_none (heq ▸ hnew)
            rw [show fields.filterMap _ = given fields from rfl, ih hrest, hnone]
            rfl
          next => exact ih hrest

end Dict

-- ========================================================= revisions

namespace Revision

/-- The columns that a revision can write, each with the cell that it writes if it has a new
value. -/
def fields (u : Revision) : List (String × Option Cell) :=
  [("name", u.name.map .text), ("description", u.description.map .text),
    ("trigger_type", u.trigger.map fun t => .text t.name),
    ("trigger_config", u.triggerConfig.map fun v => .text v.text),
    ("nodes", u.nodes.map fun ns => .text (nodesText ns)),
    ("variables", u.presets.map fun m => .text (dictText m)),
    ("status", u.status.map fun s => .text s.name),
    ("max_runs_per_hour", u.maxRunsPerHour.map fun n => .int n.toNat),
    ("tags", u.tags.map fun ts => .text (tagsText ts))]

/-- The cells that a revision writes. -/
def cells (u : Revision) : List (String × Cell) := Dict.given u.fields

/-- They are those of the fields that it names, in their order. -/
theorem keys_cells (u : Revision) : u.cells.map Prod.fst = u.fieldNames := by
  refine (Dict.keys_given u.fields).trans ?_
  simp only [fields, fieldNames, List.map_cons, List.map_nil, Option.isSome_map]

theorem find?_cells (u : Revision) (name : String) :
    Dict.find? u.cells name = (Dict.find? u.fields name).join := by
  apply Dict.find?_given
  simp only [fields, List.map_cons, List.map_nil]
  decide

/-- They are written as the row of a workflow with these values is. -/
theorem cells_subset (u : Revision) (w : Workflow) :
    u.cells ⊆ (WorkflowRow.of (w.revised u)).cells := by
  intro c hc
  obtain ⟨f, hf, hc⟩ := List.mem_filterMap.mp hc
  obtain ⟨cell, hcell, rfl⟩ := Option.map_eq_some_iff.mp hc
  simp only [fields, List.mem_cons, List.not_mem_nil, or_false] at hf
  rcases hf with rfl | rfl | rfl | rfl | rfl | rfl | rfl | rfl | rfl
  all_goals
    obtain ⟨value, hvalue, rfl⟩ := Option.map_eq_some_iff.mp hcell
    simp [WorkflowRow.cells, WorkflowRow.of, Workflow.revised, hvalue]

/-- A row after a revision is the row before with the cells of the revision, and the time. -/
theorem cells_revise (row : WorkflowRow) (u : Revision) (now : Instant) :
    (row.revise u now).cells
      = Store.overwritten (u.cells ++ [("updated_at", .text now.stored)]) row.cells := by
  have hfind (name : String) : Dict.find? (u.cells ++ [("updated_at", .text now.stored)]) name
      = (Dict.find? u.fields name).join.or
        (if "updated_at" = name then some (.text now.stored) else .none) := by
    rw [Dict.find?_append, find?_cells]
    rfl
  simp only [Store.overwritten, WorkflowRow.cells, List.map_cons, List.map_nil, hfind,
    List.cons.injEq, Prod.mk.injEq, true_and, and_true]
  obtain ⟨name, description, trigger, triggerConfig, nodes, presets, status, limit, tags⟩ := u
  refine ⟨rfl, ?_, ?_, ?_, ?_, ?_, ?_, ?_, ?_, rfl, rfl, ?_⟩
  · cases name <;> rfl
  · cases description <;> rfl
  · cases trigger <;> rfl
  · cases triggerConfig <;> rfl
  · cases nodes <;> rfl
  · cases presets <;> rfl
  · cases status <;> rfl
  · cases limit <;> rfl
  · cases tags <;> rfl

/-- The revision with the fields of both, those of the second where both have one. -/
def followedBy (u v : Revision) : Revision where
  name := v.name.or u.name
  description := v.description.or u.description
  trigger := v.trigger.or u.trigger
  triggerConfig := v.triggerConfig.or u.triggerConfig
  nodes := v.nodes.or u.nodes
  presets := v.presets.or u.presets
  status := v.status.or u.status
  maxRunsPerHour := v.maxRunsPerHour.or u.maxRunsPerHour
  tags := v.tags.or u.tags

/-- Two revisions in turn write what that one does. -/
theorem revise_followedBy (row : WorkflowRow) (u v : Revision) (now now' : Instant) :
    (row.revise u now).revise v now' = row.revise (u.followedBy v) now' := by
  unfold WorkflowRow.revise followedBy
  simp only [Option.map_or, Option.getD_or]

/-- Whether the nodes of a revision, if it has any, all have ids, and no two the same one. -/
def IsNamed (u : Revision) : Prop := ∀ nodes ∈ u.nodes, Node.Named nodes

theorem IsNamed.followedBy {u v : Revision} (hu : u.IsNamed) (hv : v.IsNamed) :
    (u.followedBy v).IsNamed := by
  intro nodes hnodes
  rcases Option.or_eq_some_iff.mp hnodes with hnodes | ⟨-, hnodes⟩
  · exact hv nodes hnodes
  · exact hu nodes hnodes

end Revision

-- ============================================================ tables

namespace Store

variable {u : Revision}

/-- A row without the time of its last change. -/
def WorkflowRow.undated (row : WorkflowRow) : WorkflowRow := { row with updatedAt := "" }

/-- Such a row with the new values of a revision. -/
def WorkflowRow.reworked (u : Revision) (row : WorkflowRow) : WorkflowRow :=
  (row.revise u .epoch).undated

theorem WorkflowRow.undated_revise (row : WorkflowRow) (u : Revision) (now : Instant) :
    (row.revise u now).undated = row.undated.reworked u := by
  unfold reworked undated revise
  rfl

theorem WorkflowRow.reworked_followedBy (u v : Revision) (row : WorkflowRow) :
    (row.reworked u).reworked v = row.reworked (u.followedBy v) :=
  congrArg undated (Revision.revise_followedBy row u v .epoch .epoch)

/-- The rows of the table of workflows without the times of their last changes. -/
def undated (s : Store) : List WorkflowRow := s.workflows.map WorkflowRow.undated

/-- Such rows with the new values of a revision in those with an id. -/
def reworked (id : String) (u : Revision) (rows : List WorkflowRow) : List WorkflowRow :=
  rows.map fun row => if row.id = some id then row.reworked u else row

theorem reworked_followedBy (id : String) (u v : Revision) (rows : List WorkflowRow) :
    reworked id v (reworked id u rows) = reworked id (u.followedBy v) rows := by
  unfold reworked
  rw [List.map_map]
  apply List.map_congr_left
  intro row _
  simp only [Function.comp_apply]
  by_cases hid : row.id = some id
  · have hkept : (row.reworked u).id = some id := hid
    rw [if_pos hid, if_pos hid, if_pos hkept, WorkflowRow.reworked_followedBy]
  · rw [if_neg hid, if_neg hid, if_neg hid]

/-- A revision reworks the rows, even if it writes nothing. -/
theorem undated_reviseWorkflow (s : Store) (id : String) (u : Revision) (now : Instant) :
    (s.reviseWorkflow id u now).2.undated = reworked id u s.undated := by
  unfold undated reworked
  rw [List.map_map]
  cases hempty : u.isEmpty with
  | true =>
      rw [reviseWorkflow_of_isEmpty hempty, Revision.eq_none_of_isEmpty hempty]
      apply List.map_congr_left
      intro row _
      exact (ite_self _).symm
  | false =>
      rw [reviseWorkflow_of_not_isEmpty hempty, List.map_map]
      apply List.map_congr_left
      intro row _
      simp only [Function.comp_apply]
      by_cases hid : row.id = some id
      · have hkept : row.undated.id = some id := hid
        rw [if_pos hid, if_pos hkept, WorkflowRow.undated_revise]
      · have hother : ¬ row.undated.id = some id := hid
        rw [if_neg hid, if_neg hother]

/-- The second store is the first one after a revision of a workflow that was there. The cells of
the revision and the time stand in its row, and all other cells of it and of other rows are as
they were; runs are as they were; and one entry more tells which fields have new values. -/
structure Rewritten (s s' : Store) (id : String) (u : Revision) (now later : Instant) : Prop where
  row : ∀ row, s.workflowRow? id = some row → ∃ row', s'.workflowRow? id = some row' ∧
    row'.cells = overwritten (u.cells ++ [("updated_at", .text now.stored)]) row.cells
  table : s'.workflows.map WorkflowRow.cells = s.workflows.map fun row =>
    if row.id = some id then
      overwritten (u.cells ++ [("updated_at", .text now.stored)]) row.cells
    else row.cells
  runs : s'.runs = s.runs
  trail : s'.trail = s.trail ++ [⟨s.nextEntry, id, none, Event.workflowUpdated.name, none,
    "Fields: " ++ String.intercalate ", " u.fieldNames, later.stored⟩]

/-- A revision that names fields, and the entry about it, rewrite the store. -/
theorem rewritten_append (s : Store) (id : String) (hu : u.isEmpty = false) (now later : Instant) :
    Rewritten s ((s.reviseWorkflow id u now).2.append id none .workflowUpdated none
      ("Fields: " ++ String.intercalate ", " u.fieldNames) later).2 id u now later where
  row row hrow := by
    refine ⟨row.revise u now, ?_, u.cells_revise row now⟩
    have hrows := workflowRow?_revise hu s id now id
    rw [if_pos rfl, hrow] at hrows
    exact hrows
  table := by
    rw [reviseWorkflow_of_not_isEmpty hu]
    simp only [append, List.map_map]
    apply List.map_congr_left
    intro row _
    simp only [Function.comp_apply]
    by_cases hid : row.id = some id
    · rw [if_pos hid, if_pos hid, u.cells_revise]
    · rw [if_neg hid, if_neg hid]
  runs := by
    rw [reviseWorkflow_of_not_isEmpty hu]
    rfl
  trail := by
    rw [reviseWorkflow_of_not_isEmpty hu]
    rfl

end Store

-- =========================================================== engines

variable {e : Engine σ} {s : EngineState σ} {id : String} {u : Revision}

/-- A revision whose nodes are named is taken as it is. -/
theorem normalized_of_isNamed (hu : u.IsNamed) (used : Nat) :
    ∃ used', e.normalized u used = .ok (u, used') := by
  unfold Engine.normalized
  cases hnodes : u.nodes with
  | none => exact ⟨used, rfl⟩
  | some nodes =>
      obtain ⟨used', hnormal⟩ := (hu nodes hnodes).normalize e.ids.node used
      refine ⟨used', ?_⟩
      simp only [hnormal]
      rw [← hnodes]

/-- Such a revision is made, and told in the trail, if it names a field and there is the workflow;
otherwise only the clock was read. -/
theorem reviseWorkflow_eq (e : Engine σ) (s : EngineState σ) (id : String) (hu : u.IsNamed) :
    ∃ issued, e.reviseWorkflow id u s =
      if u.isEmpty = false ∧ (s.store.workflowRow? id).isSome = true then
        (.ok true, e.note id none .workflowUpdated none
          ("Fields: " ++ String.intercalate ", " u.fieldNames)
          ⟨(s.store.reviseWorkflow id u (e.clock s).1).2, (e.clock s).2.world, issued⟩)
      else (.ok false, (e.clock s).2) := by
  obtain ⟨used, hnormal⟩ := normalized_of_isNamed (e := e) hu s.issued.nodes
  refine ⟨{ s.issued with nodes := used }, ?_⟩
  unfold Engine.reviseWorkflow
  simp only [hnormal, show (e.clock s).2.store = s.store from rfl]
  cases hempty : u.isEmpty with
  | true =>
      rw [Store.reviseWorkflow_of_isEmpty hempty, if_neg (by simp)]
  | false =>
      rw [Store.reviseWorkflow_of_not_isEmpty hempty]
      cases hfound : (s.store.workflowRow? id).isSome with
      | true =>
          rw [if_pos ⟨rfl, rfl⟩]
          rfl
      | false => rw [if_neg (by simp)]

/-- A revision whose nodes are named reworks the rows of workflows, whatever it comes to. -/
theorem undated_after_revision (hu : u.IsNamed) (s : EngineState σ) (id : String) :
    (e.reviseWorkflow id u s).2.store.undated = Store.reworked id u s.store.undated := by
  obtain ⟨issued, heq⟩ := reviseWorkflow_eq e s id hu
  rw [heq, ← Store.undated_reviseWorkflow s.store id u (e.clock s).1]
  split
  next => rfl
  next hnot =>
    rw [Store.reviseWorkflow_of_not hnot]
    rfl

/-- A revision with nodes of different ids, or without nodes, is made exactly if it names a field
and there is the workflow. Then the cells of the fields that it names, and no others, are written
over those of the row, as the row of a workflow with these values has them, and the time over the
last one; and one entry tells the names. Otherwise nothing is stored. Another revision after it
writes what the revision with the fields of both would, but for the times. -/
theorem revision_writes (e : Engine σ) (s : EngineState σ) (id : String) {u : Revision}
    (hu : u.IsNamed) :
    u.cells.map Prod.fst = u.fieldNames ∧
    (∀ w : Workflow, u.cells ⊆ (WorkflowRow.of (w.revised u)).cells) ∧
    (e.reviseWorkflow id u s).1
      = .ok (decide (u.fieldNames ≠ [] ∧ (s.store.workflowRow? id).isSome = true)) ∧
    ((e.reviseWorkflow id u s).1 = .ok true →
      Store.Rewritten s.store (e.reviseWorkflow id u s).2.store id u (e.clock s).1
        (e.clock (e.clock s).2).1) ∧
    ((e.reviseWorkflow id u s).1 = .ok false →
      (e.reviseWorkflow id u s).2.store = s.store) ∧
    ∀ v : Revision, v.IsNamed → ∀ s' : EngineState σ,
      s'.store = (e.reviseWorkflow id u s).2.store →
      (e.reviseWorkflow id v s').2.store.undated
        = (e.reviseWorkflow id (u.followedBy v) s).2.store.undated := by
  obtain ⟨issued, heq⟩ := reviseWorkflow_eq e s id hu
  have hnames : u.isEmpty = false ↔ u.fieldNames ≠ [] := by
    rw [Revision.isEmpty, List.isEmpty_eq_false_iff]
  have hrework : ∀ v : Revision, v.IsNamed → ∀ s' : EngineState σ,
      s'.store = (e.reviseWorkflow id u s).2.store →
      (e.reviseWorkflow id v s').2.store.undated
        = (e.reviseWorkflow id (u.followedBy v) s).2.store.undated := by
    intro v hv s' hs'
    rw [undated_after_revision hv, hs', undated_after_revision hu, Store.reworked_followedBy,
      undated_after_revision (hu.followedBy hv)]
  refine ⟨u.keys_cells, u.cells_subset, ?_, ?_, ?_, hrework⟩
  · have hsame : decide (u.fieldNames ≠ [] ∧ (s.store.workflowRow? id).isSome = true)
        = decide (u.isEmpty = false ∧ (s.store.workflowRow? id).isSome = true) :=
      decide_eq_decide.mpr (and_congr_left fun _ => hnames.symm)
    rw [heq, hsame]
    split
    next hmade => exact congrArg Except.ok (decide_eq_true hmade).symm
    next hnot => exact congrArg Except.ok (decide_eq_false hnot).symm
  · rw [heq]
    split
    next hmade => exact fun _ => s.store.rewritten_append id hmade.1 _ _
    next => exact fun h => nomatch h
  · rw [heq]
    split
    next => exact fun h => nomatch h
    next => exact fun _ => rfl

/-- A revision with another name and other nodes. -/
def welcoming : Revision :=
  { Revision.none with name := some "welcome", nodes := some [.finish "bye"] }

/-- The greeting gets another name and other nodes, and the trail tells so. -/
theorem revision_writes_welcoming :
    ((Engine.timeless .empty).reviseWorkflow "w0" welcoming afterGreeting).1 = .ok true ∧
    ((Engine.timeless .empty).reviseWorkflow "w0" welcoming afterGreeting).2.store.trail
      = afterGreeting.store.trail ++ [⟨2, "w0", none, "workflow_updated", none,
        "Fields: name, nodes", Instant.epoch.stored⟩] := by
  have hnamed : welcoming.IsNamed := by
    intro nodes hnodes
    obtain rfl := Option.some.inj hnodes
    exact ⟨by decide, by decide⟩
  obtain ⟨-, -, hreply, hmade, -, -⟩ :=
    revision_writes (Engine.timeless .empty) afterGreeting "w0" hnamed
  exact ⟨hreply, (hmade hreply).trail⟩

end DurableWorkflow
