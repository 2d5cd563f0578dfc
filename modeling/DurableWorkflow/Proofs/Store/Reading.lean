/-
What is read from a row, as it is used of rows that were written. A row of a run with an
id can always be read. A record with no unreadable field has in every field what the text
of its column says; nothing was put in place of a text. A record that was written is read
with what its JSON columns say (`RunRow.read_of`, `WorkflowRow.read_stamped`).
-/
import DurableWorkflow.Proofs.Store.Legible

namespace DurableWorkflow

open Time (Instant)

-- ==================================================== names of standings

/-- A text is read as a standing exactly when it is the name of that standing. -/
theorem RunStatus.ofText_eq_ok_iff {text : String} {t : RunStatus} :
    RunStatus.ofText text = .ok t ↔ text = t.name := by
  constructor
  · intro h
    unfold ofText nameOf at h
    split at h
    next u hu =>
      injection h with h
      subst h
      have := List.find?_some hu
      exact (of_decide_eq_true this).symm
    next => cases h
  · intro h
    subst h
    cases t <;> rfl

theorem RunStatus.name_injective {t u : RunStatus} (h : t.name = u.name) : t = u := by
  have ht : ofText t.name = .ok t := ofText_eq_ok_iff.mpr rfl
  rw [ofText_eq_ok_iff.mpr h] at ht
  exact (Except.ok.inj ht).symm

namespace Store

-- ================================================== one column after another

section columns

variable {α : Type} {bad : List Unreadable} {a : α}

/-- A JSON column that says something is read as that. -/
theorem readJson_ok {read : Decoder α} {default : α} {field raw : String}
    (h : Decoder.ofText read raw = .ok a) : readJson read default field raw bad = (a, bad) := by
  unfold readJson
  rw [h]

/-- A JSON column that says nothing is read as its default, and its text is kept. -/
theorem readJson_error {read : Decoder α} {default : α} {field raw : String}
    (h : ∀ a, Decoder.ofText read raw ≠ .ok a) :
    readJson read default field raw bad = (default, bad ++ [⟨field, raw⟩]) := by
  unfold readJson
  split
  next a ha => exact absurd ha (h a)
  next => rfl

end columns

-- ============================================================== rows

/-- A row with an id can be read. -/
theorem RunRow.exists_read {row : RunRow} (h : row.id ≠ none) : ∃ r, row.read = .ok r :=
  ⟨_, RunRow.read_eq h⟩

/-- The columns that are plain text are read as they are. -/
theorem RunRow.read_plain {row : RunRow} {r : Run} (h : row.read = .ok r) :
    row.id = some r.id ∧ r.workflowId = row.workflowId ∧ r.currentNode = row.currentNode
      ∧ r.error = row.error := by
  obtain ⟨hid, rfl⟩ := RunRow.read_eq_ok_iff.mp h
  obtain ⟨id, hid⟩ := Option.ne_none_iff_exists'.mp hid
  exact ⟨by rw [RunRow.record, hid]; rfl, rfl, rfl, rfl⟩

/-- The times are read one by one, and one that is not there is read as none. -/
theorem RunRow.read_times {row : RunRow} {r : Run} (h : row.read = .ok r) :
    r.startedAt = readInstant row.startedAt ∧ r.completedAt = row.completedAt.map readInstant
      ∧ r.resumeAt = row.resumeAt.map readInstant := by
  obtain ⟨-, rfl⟩ := RunRow.read_eq_ok_iff.mp h
  exact ⟨rfl, rfl, rfl⟩

/-- A standing that is written is read. -/
theorem RunRow.read_status {row : RunRow} {r : Run} {t : RunStatus} (h : row.read = .ok r)
    (ht : row.status = t.name) : r.status = t := by
  obtain ⟨-, rfl⟩ := RunRow.read_eq_ok_iff.mp h
  simp only [RunRow.record, RunStatus.ofText_eq_ok_iff.mpr ht]
  rfl

/-- A record that reads back intact has in every field what its column says. -/
theorem RunRow.read_intact {row : RunRow} {r : Run} (h : row.read = .ok r)
    (hr : r.unreadable = []) :
    row.status = r.status.name
      ∧ Decoder.ofText (Decoder.dict Decoder.value) row.context = .ok r.context
      ∧ Decoder.ofText (Decoder.dict Decoder.count) row.loopCursors = .ok r.loopCursors
      ∧ Decoder.ofText (Decoder.list Step.decode) row.steps = .ok r.steps
      ∧ Decoder.ofText Decoder.value row.triggerData = .ok r.triggerData := by
  obtain ⟨-, rfl⟩ := RunRow.read_eq_ok_iff.mp h
  have hall := spoilt_eq_nil_iff.mp hr
  simp only [RunRow.columns, List.forall_mem_cons] at hall
  obtain ⟨hstatus, hcontext, hcursors, hsteps, htrigger, -⟩ := hall
  exact ⟨RunStatus.ofText_eq_ok_iff.mp (ok_of_isOk hstatus _), ok_of_isOk hcontext _,
    ok_of_isOk hcursors _, ok_of_isOk hsteps _, ok_of_isOk htrigger _⟩

/-- A run that was written is read with what its JSON columns say, and times to the
microsecond. -/
theorem RunRow.read_of {r : Run} {context : Context} {cursors : Dict Nat} {steps : List Step}
    {trigger : Value}
    (hcontext : Decoder.ofText (Decoder.dict Decoder.value) (dictText r.context) = .ok context)
    (hcursors : Decoder.ofText (Decoder.dict Decoder.count)
      (Run.encodeCursors r.loopCursors).text = .ok cursors)
    (hsteps : Decoder.ofText (Decoder.list Step.decode) (stepsText r.steps) = .ok steps)
    (htrigger : Decoder.ofText Decoder.value r.triggerData.text = .ok trigger) :
    (RunRow.of r).read = .ok { r with
      context := context
      loopCursors := cursors
      steps := steps
      triggerData := trigger
      startedAt := readInstant r.startedAt.stored
      completedAt := (r.completedAt.map Instant.stored).map readInstant
      resumeAt := (r.resumeAt.map Instant.stored).map readInstant
      unreadable := [] } := by
  have hstatus : readName RunStatus.ofText .pending "status" r.status.name [] = (r.status, []) := by
    cases r.status <;> rfl
  unfold RunRow.of RunRow.read
  simp only [hstatus, readJson_ok hcontext, readJson_ok hcursors, readJson_ok hsteps,
    readJson_ok htrigger]

/-- A workflow that was written is read with what its JSON columns say; its times may have
been written another time. -/
theorem WorkflowRow.read_stamped {w : Workflow} {config : Value} {nodes : List Node}
    {presets : Dict Value} {tags : List String} (created updated : String)
    (hconfig : Decoder.ofText Decoder.value w.triggerConfig.text = .ok config)
    (hnodes : Decoder.ofText (Decoder.list Node.decode) (nodesText w.nodes) = .ok nodes)
    (hpresets : Decoder.ofText (Decoder.dict Decoder.value) (dictText w.presets) = .ok presets)
    (htags : Decoder.ofText (Decoder.list Decoder.string) (tagsText w.tags) = .ok tags) :
    WorkflowRow.read { WorkflowRow.of w with createdAt := created, updatedAt := updated }
      = .ok { w with
          triggerConfig := config
          nodes := nodes
          presets := presets
          tags := tags
          createdAt := readInstant created
          updatedAt := readInstant updated
          unreadable := [] } := by
  have htrigger : readName Trigger.ofText .manual "trigger_type" w.trigger.name []
      = (w.trigger, []) := by
    cases w.trigger <;> rfl
  have hstatus : readName WorkflowStatus.ofText .draft "status" w.status.name []
      = (w.status, []) := by
    cases w.status <;> rfl
  have hlimit : limitOf w.maxRunsPerHour.toNat = w.maxRunsPerHour := by
    simp [limitOf]
  unfold WorkflowRow.of WorkflowRow.read
  simp only [htrigger, readJson_ok hconfig, readJson_ok hnodes, readJson_ok hpresets, hstatus,
    readJson_ok htags, hlimit]

/-- A workflow that was written is read with what its JSON columns say, and times to
the microsecond. -/
theorem WorkflowRow.read_of {w : Workflow} {config : Value} {nodes : List Node}
    {presets : Dict Value} {tags : List String}
    (hconfig : Decoder.ofText Decoder.value w.triggerConfig.text = .ok config)
    (hnodes : Decoder.ofText (Decoder.list Node.decode) (nodesText w.nodes) = .ok nodes)
    (hpresets : Decoder.ofText (Decoder.dict Decoder.value) (dictText w.presets) = .ok presets)
    (htags : Decoder.ofText (Decoder.list Decoder.string) (tagsText w.tags) = .ok tags) :
    (WorkflowRow.of w).read = .ok { w with
      triggerConfig := config
      nodes := nodes
      presets := presets
      tags := tags
      createdAt := readInstant w.createdAt.stored
      updatedAt := readInstant w.updatedAt.stored
      unreadable := [] } :=
  read_stamped w.createdAt.stored w.updatedAt.stored hconfig hnodes hpresets htags

/-- The run with an id is what its row is read as. -/
theorem run?_eq_some_iff {s : Store} {id : String} {r : Run} :
    s.run? id = .ok (some r) ↔ ∃ row, s.runRow? id = some row ∧ row.read = .ok r := by
  unfold run?
  cases hrow : s.runRow? id with
  | none => simp
  | some row =>
      cases hread : row.read with
      | error f => simp [hread, Except.map]
      | ok r' => simp [hread, Except.map]

/-- A run that is found is read from the row that is found. -/
theorem read_of_run? {s : Store} {id : String} {row : RunRow} {r : Run}
    (hrow : s.runRow? id = some row) (h : s.run? id = .ok (some r)) : row.read = .ok r := by
  obtain ⟨row', hrow', hread⟩ := run?_eq_some_iff.mp h
  obtain rfl : row' = row := Option.some.inj (hrow'.symm.trans hrow)
  exact hread

/-- The workflow with an id is what its row is read as. -/
theorem workflow?_eq_some_iff {s : Store} {id : String} {w : Workflow} :
    s.workflow? id = .ok (some w) ↔ ∃ row, s.workflowRow? id = some row ∧ row.read = .ok w := by
  unfold workflow?
  cases hrow : s.workflowRow? id with
  | none => simp
  | some row =>
      cases hread : row.read with
      | error f => simp [hread, Except.map]
      | ok w' => simp [hread, Except.map]

end Store

end DurableWorkflow
