/-
Workflows are kept. What a workflow was made as is what is read of it at any later time, up
to the fractions of a microsecond in its times, as long as nobody revises or removes it:
whatever else is done with the engine, its row stays (`workflowRow?_after`), and what stands
in the row can be read, since it came from a text (`writable_draft`).
-/
import DurableWorkflow.Proofs.Engine.Rows
import DurableWorkflow.Proofs.Engine.Beginnings
import DurableWorkflow.Proofs.Graph.Ids

namespace DurableWorkflow

open Store (WorkflowRow)
open Time (Instant)

variable {σ : Type} {e : Engine σ} {s s' : EngineState σ} {o : Operation}
  {reply : Except Failure Reply} {id : String} {row : WorkflowRow}

-- ============================================================== rows

/-- Whether an operation revises or removes a workflow. -/
def Operation.alters (id : String) (o : Operation) : Bool :=
  match o with
  | .delete i => i = id
  | o => o.revision?.any fun r => r.1 = id

theorem Operation.alters_of_revision? {u : Revision} (h : o.revision? = some (id, u)) :
    o.alters id = true := by
  cases o with
  | revise _ _ | activate _ | pause _ =>
      cases h
      simp [alters, revision?]
  | _ => cases h

/-- A row stays in an operation that does not alter the workflow. -/
theorem WorkflowFate.eq_of_not_alters {row' : Option WorkflowRow}
    (h : WorkflowFate e s id row o row') (ho : o.alters id = false) : row' = some row := by
  cases h with
  | kept _ => rfl
  | revised _ hrevision _ =>
      rw [Operation.alters_of_revision? hrevision] at ho
      cases ho
  | removed => simp [Operation.alters] at ho

/-- It stays in a history that does not alter the workflow. -/
theorem workflowRow?_after {h : List (Occurrence σ)}
    (hkept : ∀ o, .operation o ∈ h → o.alters id = false)
    (hrow : s.store.workflowRow? id = some row) :
    (e.after h s).store.workflowRow? id = some row := by
  apply e.after_of_mem (P := fun s => s.store.workflowRow? id = some row) ?_ hrow
  intro x hx s hs
  cases x with
  | outside world issued => exact hs
  | operation o => exact ((e.perform_effect s o).workflowFate hs).eq_of_not_alters (hkept o hx)

-- ========================================================== workflows

/-- A blueprint is accepted if its nodes have different ids, once those without have got
some, and the workflow gets a new one. Then there is a row of it. -/
theorem createWorkflow_of_new {b : Blueprint} {nodes : List Node} {used : Nat}
    (hnodes : Node.normalize e.ids.node s.issued.nodes b.nodes = .ok (nodes, used))
    (hnew : s.store.workflowRow? (e.ids.workflow s.issued.workflows) = none) :
    let w := e.draft b nodes (e.ids.workflow s.issued.workflows) (e.clock s).1
    (e.createWorkflow b s).1 = .ok w ∧
      (e.createWorkflow b s).2.store.workflowRow? w.id = some (.of w) := by
  intro w
  have hinsert := Store.insertWorkflow_eq_ok_iff (w := w).mpr ⟨hnew, rfl⟩
  unfold Engine.createWorkflow
  rw [hnodes]
  simp only [show (e.clock s).2.store = s.store from rfl,
    show (e.clock s).2.issued = s.issued from rfl]
  rw [hinsert]
  exact ⟨rfl, (Store.workflowRow?_insert hinsert w.id).trans (if_pos rfl)⟩

/-- A blueprint that was read from a text, with nodes of different ids, is made into a
workflow; and after any history in which nobody revises or removes the workflow, it is found
intact and as it was made, with its times to the microsecond. -/
theorem workflow_is_kept (e : Engine σ) (s : EngineState σ) {text : String} {b : Blueprint}
    (htext : Decoder.ofText Blueprint.decode text = .ok b) (hexact : b.Exact)
    (hids : ((Node.filled e.ids.node s.issued.nodes b.nodes).map Node.id).Nodup)
    (hnew : s.store.workflowRow? (e.ids.workflow s.issued.workflows) = none)
    (hvalid : (e.clock s).1.Valid)
    (hyear : 0 ≤ (e.clock s).1.date.year ∧ (e.clock s).1.date.year ≤ 9999) :
    ∃ w, (e.createWorkflow b s).1 = .ok w ∧
      w = e.draft b (Node.filled e.ids.node s.issued.nodes b.nodes)
        (e.ids.workflow s.issued.workflows) (e.clock s).1 ∧
      ∀ h : List (Occurrence σ), (∀ o, .operation o ∈ h → o.alters w.id = false) →
        ∃ w', Engine.workflow? w.id (e.after h (e.createWorkflow b s).2) = .ok (some w') ∧
          w'.isIntact = true ∧
          w' = { w with
            createdAt := w.createdAt.truncate
            updatedAt := w.updatedAt.truncate } := by
  obtain ⟨used, hnodes⟩ := Node.normalize_eq_ok_iff.mpr ⟨rfl, hids⟩
  obtain ⟨hreply, hrow⟩ := createWorkflow_of_new hnodes hnew
  refine ⟨_, hreply, rfl, ?_⟩
  intro h hkept
  have hafter := workflowRow?_after (e := e) hkept hrow
  have hwritable := writable_draft (e := e) ⟨⟨text, htext⟩, hexact⟩ hnodes
    (e.ids.workflow s.issued.workflows) (e.clock s).1
  have hread := (WorkflowRow.holds_of _).read hwritable
  refine ⟨_, Store.workflow?_eq_some_iff.mpr ⟨_, hafter, hread⟩, rfl, ?_⟩
  have htime : Store.readInstant (e.clock s).1.stored = (e.clock s).1.truncate := by
    rw [readInstant_stored_of_valid hvalid, keptTime, if_pos hyear]
  simp only [WorkflowRow.of, Engine.draft, htime]

/-- Another workflow is made and removed again, and a run is started and executed. -/
def busyHistory : List (Occurrence Unit) :=
  [.operation (.create greeting), .operation (.delete "w1"), .operation (.start "w0" .null),
    .operation (.execute "r0")]

/-- A workflow is kept through that. -/
theorem workflow_is_kept_busy :
    ∃ w, ((Engine.timeless .empty).createWorkflow greeting (.starting ())).1 = .ok w ∧
      Engine.workflow? "w0" ((Engine.timeless .empty).after busyHistory
        ((Engine.timeless .empty).createWorkflow greeting (.starting ())).2) = .ok (some w) := by
  obtain ⟨text, htext⟩ := greeting_isRead.text
  obtain ⟨w, hmade, rfl, hkept⟩ := workflow_is_kept (Engine.timeless .empty) (.starting ())
    htext greeting_isRead.exact (by decide) rfl (by decide) (by decide)
  refine ⟨_, hmade, ?_⟩
  obtain ⟨w', hfound, -, rfl⟩ := hkept busyHistory (by
    intro o ho
    simp only [busyHistory, List.mem_cons, Occurrence.operation.injEq, List.not_mem_nil,
      or_false] at ho
    rcases ho with rfl | rfl | rfl | rfl <;> decide)
  exact hfound

end DurableWorkflow
