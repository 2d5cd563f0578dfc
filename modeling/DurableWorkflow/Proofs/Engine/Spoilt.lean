/-
Texts that cannot be read are kept. A column of a row may hold any text. The row is read all
the same: the record has in each field what its column says, and where that says nothing the
default, with a note of the text. So a default could be written over a text that still means
something to somebody. This does not happen. A run is worked with only when all its columns
can be read; it is cancelled, or goes on, only by a status that can be read; and of a workflow
nothing is written but what is given.

What an operation does to one row is had from its fate (`RunFate`, `WorkflowFate`). A text that
cannot be read passes from one operation to the next, so it is there after every history
(`Spares`).
-/
import DurableWorkflow.Proofs.Engine.Rows
import DurableWorkflow.Proofs.Engine.Refusals
import DurableWorkflow.Proofs.Store.Legible

namespace DurableWorkflow

open Store (RunRow WorkflowRow ReadColumn spoilt)

variable {σ ρ : Type} {e : Engine σ} {s : EngineState σ} {o : Operation} {id : String}

-- =============================================================== runs

namespace Store

/-- A row has the texts of another one wherever these cannot be read. -/
def Spares (columns : List (ReadColumn ρ)) (row row' : ρ) : Prop :=
  ∀ c ∈ columns, c.reads (c.text row) = false → c.text row' = c.text row

theorem Spares.refl (columns : List (ReadColumn ρ)) (row : ρ) : Spares columns row row :=
  fun _ _ _ => rfl

/-- What cannot be read is the same text after the first change, so the second spares it. -/
theorem Spares.trans {columns : List (ReadColumn ρ)} {row row' row'' : ρ}
    (h : Spares columns row row') (h' : Spares columns row' row'') : Spares columns row row'' := by
  intro c hc hbad
  have hfirst := h c hc hbad
  rw [← hfirst] at hbad
  exact (h' c hc hbad).trans hfirst

/-- A status that is written can be read. -/
theorem isOk_of_status {text : String} {t : RunStatus} (h : text = t.name) :
    (RunStatus.ofText text).isOk = true := by
  rw [RunStatus.ofText_eq_ok_iff.mpr h]
  rfl

theorem isOk_of_isOpen {text : String} (h : openNames.contains text = true) :
    (RunStatus.ofText text).isOk = true := by
  simp only [openNames, List.contains_cons, List.contains_nil, Bool.or_eq_true, beq_iff_eq,
    Bool.or_false] at h
  rcases h with h | h | h <;> exact isOk_of_status h

/-- A change that leaves all texts but a readable status as they are spares the row. -/
theorem spares_of_status {row row' : RunRow} (hstatus : (RunStatus.ofText row.status).isOk = true)
    (hcontext : row'.context = row.context) (hcursors : row'.loopCursors = row.loopCursors)
    (hsteps : row'.steps = row.steps) (htrigger : row'.triggerData = row.triggerData) :
    Spares RunRow.columns row row' := by
  intro c hc hbad
  simp only [RunRow.columns, List.mem_cons, List.not_mem_nil, or_false] at hc
  rcases hc with rfl | rfl | rfl | rfl | rfl
  · exact absurd hstatus (Bool.eq_false_iff.mp hbad)
  · exact hcontext
  · exact hcursors
  · exact hsteps
  · exact htrigger

end Store

open Store (Spares)

/-- All columns of a run that can be executed can be read. -/
theorem Engine.reads_of_executable {store : Store} {r : Run} {w : Workflow} {row : RunRow}
    (hread : Engine.executable store id = .ok (r, w)) (hrow : store.runRow? id = some row) :
    ∀ c ∈ RunRow.columns, c.reads (c.text row) = true := by
  obtain ⟨hrun, hintact, -⟩ := Engine.executable_eq_ok_iff.mp hread
  have hr := Store.read_of_run? hrow hrun
  rw [RunRow.read_eq (by rw [Store.id_of_runRow? hrow]; exact Option.some_ne_none id)] at hr
  obtain rfl := Except.ok.inj hr
  exact Store.spoilt_eq_nil_iff.mp hintact

/-- Whatever becomes of the row of a run, the texts that cannot be read are spared. -/
theorem RunFate.spares {row row' : RunRow} (h : RunFate e s id row o row')
    (hrow : s.store.runRow? id = some row) : Spares RunRow.columns row row' := by
  cases h with
  | kept _ => exact .refl _ row
  | driven hread =>
      intro c hc hbad
      exact absurd (Engine.reads_of_executable hread hrow c hc) (Bool.eq_false_iff.mp hbad)
  | cancelled _ hopen =>
      exact Store.spares_of_status (Store.isOk_of_isOpen hopen) rfl rfl rfl rfl
  | resumed hwaits => exact Store.spares_of_status (Store.isOk_of_status hwaits) rfl rfl rfl rfl

/-- So they are after every history. -/
theorem spares_after {row : RunRow} (hrow : s.store.runRow? id = some row)
    (h : List (Occurrence σ)) :
    ∃ row', (e.after h s).store.runRow? id = some row' ∧ Spares RunRow.columns row row' := by
  apply e.after_of_next
    (P := fun s => ∃ row', s.store.runRow? id = some row' ∧ Spares RunRow.columns row row')
  · rintro s x ⟨row', hrow', hspares⟩
    cases x with
    | outside world issued => exact ⟨row', hrow', hspares⟩
    | operation o =>
        obtain ⟨row'', hrow'', hfate⟩ := (e.perform_effect s o).runFate hrow'
        exact ⟨row'', hrow'', hspares.trans (hfate.spares hrow')⟩
  · exact ⟨row, hrow, .refl _ row⟩

-- ========================================================== workflows

/-- Whether an operation removes a workflow, or gives it a new value for a field. -/
def Operation.overwrites (id name : String) (o : Operation) : Bool :=
  match o with
  | .delete i => i = id
  | o => o.revision?.any fun r => r.1 = id && r.2.fieldNames.contains name

/-- Giving ids to nodes gives no field a new value. -/
theorem fieldNames_normalized {u u' : Revision} {used used' : Nat}
    (h : e.normalized u used = .ok (u', used')) : u'.fieldNames = u.fieldNames := by
  unfold Engine.normalized at h
  split at h
  next =>
    obtain ⟨rfl, -⟩ := Prod.mk.inj (Except.ok.inj h)
    rfl
  next nodes hnodes =>
    split at h
    next => cases h
    next =>
      obtain ⟨rfl, -⟩ := Prod.mk.inj (Except.ok.inj h)
      simp only [Revision.fieldNames, hnodes, Option.isSome_some]

/-- A revision leaves the text of a column for which it has no new value. -/
theorem text_revise {c : ReadColumn WorkflowRow} (hc : c ∈ WorkflowRow.columns) {u : Revision}
    (hname : c.name ∉ u.fieldNames) (row : WorkflowRow) (now : Time.Instant) :
    c.text (row.revise u now) = c.text row := by
  simp only [WorkflowRow.columns, List.mem_cons, List.not_mem_nil, or_false] at hc
  rcases hc with rfl | rfl | rfl | rfl | rfl | rfl
  -- in each column: a field that is not named has no new value, so the old text stands
  all_goals
    simp [Revision.fieldNames, ReadColumn.names, ReadColumn.json] at hname
    simp [WorkflowRow.revise, ReadColumn.names, ReadColumn.json, hname]

theorem Operation.overwrites_of_revision? {u : Revision} {name : String}
    (h : o.revision? = some (id, u)) (hname : name ∈ u.fieldNames) :
    o.overwrites id name = true := by
  cases o with
  | revise _ _ | activate _ | pause _ =>
      cases h
      simpa [overwrites, revision?] using hname
  | _ => cases h

/-- Whatever becomes of the row of a workflow, it has the text that it had in a column that is
not overwritten. -/
theorem WorkflowFate.text_eq {row : WorkflowRow} {row' : Option WorkflowRow}
    (h : WorkflowFate e s id row o row') {c : ReadColumn WorkflowRow}
    (hc : c ∈ WorkflowRow.columns) (ho : o.overwrites id c.name = false) :
    ∃ kept, row' = some kept ∧ c.text kept = c.text row := by
  cases h with
  | kept _ => exact ⟨row, rfl, rfl⟩
  | revised now hrevision hnormal =>
      refine ⟨_, rfl, text_revise hc ?_ row now⟩
      rw [fieldNames_normalized hnormal]
      intro hname
      rw [Operation.overwrites_of_revision? hrevision hname] at ho
      cases ho
  | removed => simp [Operation.overwrites] at ho

/-- So it has after a history in which the column is not overwritten. -/
theorem text_after {row : WorkflowRow} (hrow : s.store.workflowRow? id = some row)
    {c : ReadColumn WorkflowRow} (hc : c ∈ WorkflowRow.columns) {h : List (Occurrence σ)}
    (hkept : ∀ o, .operation o ∈ h → o.overwrites id c.name = false) :
    ∃ row', (e.after h s).store.workflowRow? id = some row' ∧ c.text row' = c.text row := by
  apply e.after_of_mem
    (P := fun s => ∃ row', s.store.workflowRow? id = some row' ∧ c.text row' = c.text row)
  · rintro x hx s ⟨row', hrow', htext⟩
    cases x with
    | outside world issued => exact ⟨row', hrow', htext⟩
    | operation o =>
        have hfate := (e.perform_effect s o).workflowFate hrow'
        obtain ⟨row'', hrow'', hsame⟩ := hfate.text_eq hc (hkept o hx)
        exact ⟨row'', hrow'', hsame.trans htext⟩
  · exact ⟨row, hrow, rfl⟩

-- ======================================================== executions

/-- The run with an id is the record of its row. -/
theorem Store.run?_record {store : Store} {row : RunRow} (hrow : store.runRow? id = some row) :
    store.run? id = .ok (some row.record) ∧ row.record.id = id := by
  have hid := Store.id_of_runRow? hrow
  have hread := RunRow.read_eq (by rw [hid]; exact Option.some_ne_none id)
  exact ⟨Store.run?_eq_some_iff.mpr ⟨row, hrow, hread⟩, by rw [RunRow.record, hid]; rfl⟩

/-- The workflow with an id is the record of its row. -/
theorem Store.workflow?_record {store : Store} {row : WorkflowRow} (h : row.IsWhole)
    (hrow : store.workflowRow? id = some row) :
    store.workflow? id = .ok (some row.record) ∧ row.record.id = id := by
  have hid : row.id = some id := by simpa using List.find?_some hrow
  exact ⟨Store.workflow?_eq_some_iff.mpr ⟨row, hrow, WorkflowRow.read_eq h⟩,
    by rw [WorkflowRow.record, hid]; rfl⟩

/-- A run with a column that cannot be read is not executed. -/
theorem executeRun_of_spoilt {row : RunRow} {bad : Unreadable}
    (hrow : s.store.runRow? id = some row)
    (hbad : (spoilt RunRow.columns row).head? = some bad) :
    e.executeRun id s = (.error (.corruptRecord id bad.field), s) := by
  obtain ⟨hrun, hid⟩ := Store.run?_record hrow
  apply e.executeRun_refused
  rw [Engine.executable_of_unreadable hrun hbad, hid]

/-- Neither is a run of a workflow that has such a column. -/
theorem executeRun_of_spoilt_workflow {row : RunRow} {wrow : WorkflowRow} {bad : Unreadable}
    (hrow : s.store.runRow? id = some row) (hintact : spoilt RunRow.columns row = [])
    (hrunning : row.status = RunStatus.running.name)
    (hwrow : s.store.workflowRow? row.workflowId = some wrow) (hwhole : wrow.IsWhole)
    (hbad : (spoilt WorkflowRow.columns wrow).head? = some bad) :
    e.executeRun id s = (.error (.corruptRecord row.workflowId bad.field), s) := by
  obtain ⟨hrun, -⟩ := Store.run?_record hrow
  obtain ⟨hworkflow, hwid⟩ := Store.workflow?_record hwhole hwrow
  have hstatus : row.record.status = .running := by
    simp only [RunRow.record, RunStatus.ofText_eq_ok_iff.mpr hrunning]
    rfl
  apply e.executeRun_refused
  rw [Engine.executable_of_unreadable_workflow hrun hintact hstatus hworkflow hbad, hwid]

-- ======================================================= whole states

/-- Every row of a state can be read, one by one and in lists, whatever texts stand in its
columns: it is read as its record. -/
structure Engine.ReadsRows (e : Engine σ) (s : EngineState σ) : Prop where
  run {id : String} {row : RunRow} (hrow : s.store.runRow? id = some row) :
    Engine.run? id s = .ok (some row.record)
  workflow {id : String} {row : WorkflowRow} (hrow : s.store.workflowRow? id = some row)
    (hwhole : row.IsWhole) : Engine.workflow? id s = .ok (some row.record)
  runs (hrows : ∀ row ∈ s.store.runs, row.id ≠ none) (workflow : Option String)
    (status : Option RunStatus) (limit : Option Nat) :
    ∃ listed, e.listRuns workflow status limit s = .ok (listed.map RunRow.record) ∧
      Store.Listed (fun row => Store.meets workflow row.workflowId &&
          Store.meets (status.map RunStatus.name) row.status)
        (limit.getD e.settings.listLimit) s.store.runs listed
  workflows (hrows : ∀ row ∈ s.store.workflows, row.IsWhole) (status : Option WorkflowStatus)
    {tag : Option String}
    (htag : ∀ t ∈ tag, Text.bytes (Store.tagPattern t) ≤ Store.maxPattern) (limit : Option Nat) :
    ∃ listed, e.listWorkflows status tag limit s = .ok (listed.map WorkflowRow.record) ∧
      Store.Listed (fun row => Store.bears tag row &&
          Store.meets (status.map WorkflowStatus.name) row.status)
        (limit.getD e.settings.listLimit) s.store.workflows listed

/-- No history from a state on writes over a text that cannot be read: in the row of a run
never, and in that of a workflow only by removing it or giving it a new value for that very
field. And nothing that has such a text is executed. -/
structure Engine.SparesTexts (e : Engine σ) (s : EngineState σ) : Prop where
  run (h : List (Occurrence σ)) {id : String} {row : RunRow}
    (hrow : s.store.runRow? id = some row) :
    ∃ row', (e.after h s).store.runRow? id = some row' ∧ Spares RunRow.columns row row'
  workflow (h : List (Occurrence σ)) {id : String} {row : WorkflowRow}
    (hrow : s.store.workflowRow? id = some row) {c : ReadColumn WorkflowRow}
    (hc : c ∈ WorkflowRow.columns)
    (hkept : ∀ o, .operation o ∈ h → o.overwrites id c.name = false) :
    ∃ row', (e.after h s).store.workflowRow? id = some row' ∧ c.text row' = c.text row
  execution {id : String} {row : RunRow} {bad : Unreadable}
    (hrow : s.store.runRow? id = some row) (hbad : (spoilt RunRow.columns row).head? = some bad) :
    e.executeRun id s = (.error (.corruptRecord id bad.field), s)
  workflowExecution {id : String} {row : RunRow} {wrow : WorkflowRow} {bad : Unreadable}
    (hrow : s.store.runRow? id = some row) (hintact : spoilt RunRow.columns row = [])
    (hrunning : row.status = RunStatus.running.name)
    (hwrow : s.store.workflowRow? row.workflowId = some wrow) (hwhole : wrow.IsWhole)
    (hbad : (spoilt WorkflowRow.columns wrow).head? = some bad) :
    e.executeRun id s = (.error (.corruptRecord row.workflowId bad.field), s)

/-- In every state, whatever is stored, rows are read with their columns that cannot be read
told apart, and the texts of these are kept. -/
theorem spoilt_texts_are_kept (e : Engine σ) (s : EngineState σ) :
    e.ReadsRows s ∧ e.SparesTexts s := by
  constructor
  · refine ⟨?_, ?_, ?_, ?_⟩
    · intro id row hrow
      exact (Store.run?_record hrow).1
    · intro id row hrow hwhole
      exact (Store.workflow?_record hwhole hrow).1
    · intro hrows workflow status limit
      exact Store.listRuns_eq hrows workflow status _
    · intro hrows status tag htag limit
      exact Store.listWorkflows_eq hrows status htag _
  · refine ⟨?_, ?_, ?_, ?_⟩
    · intro h id row hrow
      exact spares_after hrow h
    · intro h id row hrow c hc hkept
      exact text_after hrow hc hkept
    · intro id row bad hrow hbad
      exact executeRun_of_spoilt hrow hbad
    · intro id row wrow bad hrow hintact hrunning hwrow hwhole hbad
      exact executeRun_of_spoilt_workflow hrow hintact hrunning hwrow hwhole hbad

/-- A run with a spoilt context is to be executed, is cancelled, and all runs are to go on. -/
def spoiltHistory : List (Occurrence Unit) :=
  [.operation (.execute "r0"), .operation (.cancel "r0"), .operation .resumeDue]

/-- It is cancelled then, and the text of its context is the same. -/
theorem spoilt_texts_are_kept_cancelled :
    ∃ row, ((Engine.timeless .standard).after spoiltHistory spoiltState).store.runRow? "r0"
        = some row ∧
      row.context = spoiltRun.context ∧ row.status = RunStatus.cancelled.name := by
  have hfirst : spoiltState.store.runRow? "r0" = some spoiltRun := rfl
  obtain ⟨row, hrow, hspares⟩ :=
    (spoilt_texts_are_kept (Engine.timeless .standard) spoiltState).2.run spoiltHistory hfirst
  refine ⟨row, hrow, ?_, ?_⟩
  · apply hspares (.json (Decoder.dict Decoder.value) "context" RunRow.context)
    · exact List.mem_cons_of_mem _ List.mem_cons_self
    · decide +kernel
  · have hstatus : (((Engine.timeless .standard).after spoiltHistory spoiltState).store.runRow?
        "r0").map RunRow.status = some RunStatus.cancelled.name := by
      decide +kernel
    rw [hrow] at hstatus
    exact Option.some.inj hstatus

end DurableWorkflow
