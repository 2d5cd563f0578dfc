/-
What becomes of one row in an operation, whatever else is stored. The row of a workflow is
kept, revised or removed; the row of a run is kept, saved after a drive, cancelled, or made
to go on. Each comes with the operation that does it and with the guard that the operation
has checked.

`Turn` says as much of a run and its marks, but in a sound store only. Here nothing is
asked of the store, and so nothing is said of the trail.
-/
import DurableWorkflow.Proofs.Engine.Apart
import DurableWorkflow.Proofs.Store.Workflows

namespace DurableWorkflow

open Store (RunRow WorkflowRow)
open Time (Instant)

-- ============================================================ writes

namespace Store

variable {s s' : Store} {id : String}

theorem runRow?_congr (h : s'.runs = s.runs) (id : String) : s'.runRow? id = s.runRow? id := by
  unfold runRow?
  rw [h]

/-- A run that is added was not there, and the others are found as before. -/
theorem runRow?_insertRun {r : Run} (h : s.insertRun r = .ok s') {row : RunRow}
    (hrow : s.runRow? id = some row) : s'.runRow? id = some row := by
  apply ((framed_insertRun h).runRow? ?_).trans hrow
  intro hmem
  obtain rfl := List.mem_singleton.mp hmem
  unfold insertRun at h
  split at h
  next => cases h
  next hnew =>
    apply hnew
    exact List.any_eq_true.mpr ⟨row, mem_of_runRow? hrow, by simpa using id_of_runRow? hrow⟩

/-- Where each row of a run is changed, and keeps its id, so is the one with an id. -/
theorem runRow?_map {f : RunRow → RunRow} (hf : ∀ r, (f r).id = r.id) (s : Store) (id : String) :
    Store.runRow? { s with runs := s.runs.map f } id = (s.runRow? id).map f :=
  find?_map_of_id hf s.runs

/-- A row of a run is changed if it is one of those that are to change. -/
theorem runRow?_changeRuns {p : RunRow → Bool} {f : RunRow → RunRow}
    (h : s.changeRuns p f = .ok (true, s')) (hf : ∀ r, (f r).id = r.id) {row : RunRow}
    (hrow : s.runRow? id = some row) : s'.runRow? id = some (if p row then f row else row) := by
  obtain ⟨-, rfl⟩ := changeRuns_eq_true h
  rw [runRow?_map ?_ s id, hrow, Option.map_some]
  intro r
  split
  next => exact hf r
  next => rfl

/-- A row of a run is saved into if it has the id of the run. -/
theorem runRow?_saveRun {r : Run} (h : s.saveRun r = .ok s') {row : RunRow}
    (hrow : s.runRow? id = some row) :
    s'.runRow? id = some (if row.id = some r.id then row.save r else row) := by
  obtain rfl := saveRun_eq_ok h
  rw [runRow?_map ?_ s id, hrow, Option.map_some]
  intro row
  split
  next => rfl
  next => rfl

/-- When runs go on one after another, a run that was waiting may go on, and any other stays
as it was. The induction is on the runs; one that has gone on waits no more, so the rest
leave it alone. -/
theorem Resumptions.runRow? {ids : List String} (h : Resumptions s ids s') {row : RunRow}
    (hrow : s.runRow? id = some row) :
    s'.runRow? id = some row ∨
      row.status = RunStatus.waiting.name ∧ s'.runRow? id = some row.resume := by
  induction h generalizing row with
  | done s => exact .inl hrow
  | @next s changed noted s' i ids hresume hnoted _ ih =>
      have hchanged := runRow?_changeRuns hresume (fun _ => rfl) hrow
      rw [← runRow?_congr hnoted.runs id] at hchanged
      split at hchanged
      next hwaits =>
        simp only [Bool.and_eq_true, decide_eq_true_eq] at hwaits
        rcases ih hchanged with hrest | ⟨hagain, -⟩
        · exact .inr ⟨hwaits.2, hrest⟩
        · have hdiffer : RunStatus.running.name ≠ RunStatus.waiting.name := by decide
          exact absurd hagain hdiffer
      next => exact ih hchanged

end Store

variable {σ : Type} {e : Engine σ} {s s' : EngineState σ} {o : Operation}
  {reply : Except Failure Reply} {id : String}

-- ========================================================== workflows

/-- What becomes of the row of a workflow in an operation. -/
inductive WorkflowFate (e : Engine σ) (s : EngineState σ) (id : String) (row : WorkflowRow) :
    Operation → Option WorkflowRow → Prop
  /-- It is kept. -/
  | kept (o : Operation) : WorkflowFate e s id row o (some row)
  /-- It is revised. -/
  | revised {o : Operation} {u u' : Revision} {used : Nat} (now : Instant)
    (ho : o.revision? = some (id, u)) (hnormal : e.normalized u s.issued.nodes = .ok (u', used)) :
    WorkflowFate e s id row o (some (row.revise u' now))
  /-- It is removed. -/
  | removed : WorkflowFate e s id row (.delete id) none

/-- One of these becomes of every row. -/
theorem Effect.workflowFate (h : Effect e s o reply s') {row : WorkflowRow}
    (hrow : s.store.workflowRow? id = some row) :
    WorkflowFate e s id row o (s'.store.workflowRow? id) := by
  by_cases hid : id ∈ o.workflowsMeant reply
  · cases h with
    | rests _ _ => exact hrow ▸ .kept o
    | makes _ hinsert _ =>
        -- a row that is there has no new id
        obtain rfl := List.mem_singleton.mp hid
        rw [(Store.insertWorkflow_eq_ok_iff.mp hinsert).1] at hrow
        cases hrow
    | @revises _ i u u' used store _ ho hnormal hrevise hnoted =>
        rw [(Operation.meant_of_revision? ho _).1] at hid
        obtain rfl := List.mem_singleton.mp hid
        have hu : u'.isEmpty = false := by
          cases hempty : u'.isEmpty with
          | false => rfl
          | true =>
              rw [Store.reviseWorkflow, if_pos hempty] at hrevise
              cases hrevise
        have hrevised := Store.workflowRow?_revise hu s.store id (e.clock s).1 id
        rw [hrevise, if_pos rfl, hrow, Option.map_some] at hrevised
        rw [Store.workflowRow?_congr hnoted.workflows id, hrevised]
        exact .revised _ ho hnormal
    | removes _ =>
        obtain rfl := List.mem_singleton.mp hid
        rw [show _ = none from (Store.workflowRow?_delete id id).trans (if_pos rfl)]
        exact .removed
    | breaks _ | starts _ _ _ _ _ | executes _ _ _ | cancels _ _ | resumes _ _ =>
        exact absurd hid List.not_mem_nil
  · rw [h.framed.workflowRow? hid, hrow]
    exact .kept o

-- =============================================================== runs

/-- What becomes of the row of a run in an operation. -/
inductive RunFate (e : Engine σ) (s : EngineState σ) (id : String) (row : RunRow) :
    Operation → RunRow → Prop
  /-- It is kept. -/
  | kept (o : Operation) : RunFate e s id row o row
  /-- The run is driven, and saved into it. -/
  | driven {r : Run} {w : Workflow} (hread : Engine.executable s.store id = .ok (r, w)) :
    RunFate e s id row (.execute id) (row.save (e.driven r w s))
  /-- The run is cancelled. -/
  | cancelled (now : Instant) (hopen : Store.openNames.contains row.status = true) :
    RunFate e s id row (.cancel id) (row.cancel now)
  /-- The run goes on. -/
  | resumed (hwaits : row.status = RunStatus.waiting.name) : RunFate e s id row .resumeDue row.resume

/-- One of these becomes of every row. -/
theorem Effect.runFate (h : Effect e s o reply s') {row : RunRow}
    (hrow : s.store.runRow? id = some row) :
    ∃ row', s'.store.runRow? id = some row' ∧ RunFate e s id row o row' := by
  have hid : row.id = some id := Store.id_of_runRow? hrow
  by_cases hmeant : id ∈ o.runsMeant reply
  · cases h with
    | rests _ _ => exact ⟨row, hrow, .kept o⟩
    | breaks _ => exact ⟨row, hrow, .kept _⟩
    | makes _ _ _ | removes _ => exact absurd hmeant List.not_mem_nil
    | revises ho _ _ _ =>
        rw [(Operation.meant_of_revision? ho _).2] at hmeant
        exact absurd hmeant List.not_mem_nil
    | starts _ _ _ hinsert hnoted =>
        rw [Store.runRow?_congr hnoted.runs id]
        exact ⟨row, Store.runRow?_insertRun hinsert hrow, .kept _⟩
    | @executes _ r w store _ hread hsave hnoted =>
        obtain rfl := List.mem_singleton.mp hmeant
        have hdriven : (e.driven r w s).id = id :=
          (Engine.progressed_id _ _ _).trans (Engine.row_of_executable hread).1
        have hsaved := Store.runRow?_saveRun hsave hrow
        rw [hid, hdriven, if_pos rfl] at hsaved
        exact ⟨_, (Store.runRow?_congr hnoted.runs id).trans hsaved, .driven hread⟩
    | cancels hcancel hnoted =>
        obtain rfl := List.mem_singleton.mp hmeant
        have hchanged := Store.runRow?_changeRuns hcancel (fun _ => rfl) hrow
        rw [← Store.runRow?_congr hnoted.runs id] at hchanged
        split at hchanged
        next hopen =>
          simp only [Bool.and_eq_true] at hopen
          exact ⟨_, hchanged, .cancelled (e.clock s).1 hopen.2⟩
        next => exact ⟨row, hchanged, .kept _⟩
    | resumes _ h =>
        rcases h.runRow? hrow with hsame | ⟨hwaits, hresumed⟩
        · exact ⟨row, hsame, .kept _⟩
        · exact ⟨row.resume, hresumed, .resumed hwaits⟩
  · exact ⟨row, (h.framed.runRow? hmeant).trans hrow, .kept o⟩

end DurableWorkflow
