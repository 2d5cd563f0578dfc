/-
Which workflows a run can be started of, told by the text that is stored as their standing.

The operation asks the record and not the text. A record is read from every text, and where
the text is not the name of a standing, the record has the default, which is that of a draft.
So a workflow is closed to runs exactly if its text is one of three names (`closedNames`), and
of every text that is no name runs can be started (`startRun_of_not_closed`). That only drafts
and active workflows start runs holds where the text is a name, which it always is when the
store has written it.
-/
import DurableWorkflow.Proofs.Engine.Beginnings
import DurableWorkflow.Proofs.Engine.RollingHour
import DurableWorkflow.Proofs.Engine.Spoilt

namespace DurableWorkflow

open Store (WorkflowRow)

variable {σ : Type} {e : Engine σ} {s : EngineState σ} {id : String} {row : WorkflowRow}

-- ============================================================= names

/-- What is found for a text has that text as its name. -/
theorem nameOf_eq_ok {α : Type} {title text : String} {all : List α} {name : α → String} {a : α}
    (h : nameOf title all name text = .ok a) : a ∈ all ∧ name a = text := by
  unfold nameOf at h
  split at h
  next found hfound =>
    obtain rfl := Except.ok.inj h
    have := List.find?_some hfound
    exact ⟨List.mem_of_find?_eq_some hfound, of_decide_eq_true this⟩
  next => cases h

/-- Where nothing is found for a text, nothing has it as its name. -/
theorem nameOf_eq_error {α : Type} {title text : String} {all : List α} {name : α → String}
    {fault : Failure} (h : nameOf title all name text = .error fault) :
    ∀ a ∈ all, name a ≠ text := by
  unfold nameOf at h
  split at h
  next => cases h
  next hnone =>
    intro a ha
    have := List.find?_eq_none.mp hnone a ha
    simpa using this

/-- The names of the standings in which a workflow does not accept runs. -/
def closedNames : List String :=
  [WorkflowStatus.paused.name, WorkflowStatus.archived.name, WorkflowStatus.error.name]

/-- A record accepts runs unless its row has one of these names: a text that is no name at
all is read as the default. -/
theorem acceptsRuns_record : row.record.status.acceptsRuns = true ↔ row.status ∉ closedNames := by
  show ((WorkflowStatus.ofText row.status).toOption.getD .draft).acceptsRuns = true ↔ _
  cases hread : WorkflowStatus.ofText row.status with
  | ok standing =>
      rw [← (nameOf_eq_ok hread).2]
      cases standing <;> decide
  | error fault =>
      have hne := nameOf_eq_error hread
      constructor
      · intro _ hclosed
        simp only [closedNames, List.mem_cons, List.not_mem_nil, or_false] at hclosed
        rcases hclosed with h | h | h
        · exact hne .paused (by decide) h.symm
        · exact hne .archived (by decide) h.symm
        · exact hne .error (by decide) h.symm
      · intro _
        rfl

-- ============================================================ starts

/-- Nothing is started: the reply is no run, and what is stored is the same. -/
def StartsNothing (e : Engine σ) (id : String) (trigger : Value) (s : EngineState σ) : Prop :=
  (∀ run, (e.startRun id trigger s).1 ≠ .ok (some run)) ∧
    (e.startRun id trigger s).2.store = s.store

/-- Nothing is started of a workflow that is not there, or whose row has the name of a
standing in which it does not accept runs. -/
theorem startsNothing_of_closed (e : Engine σ) (s : EngineState σ) (id : String) (trigger : Value)
    (h : ∀ row, s.store.workflowRow? id = some row → row.status ∈ closedNames) :
    StartsNothing e id trigger s := by
  have heffect := e.startRun_effect s id trigger
  unfold StartsNothing
  generalize e.startRun id trigger s = started at heffect ⊢
  obtain ⟨answer, after⟩ := started
  generalize hreply : answer.map Reply.started = reply at heffect
  cases heffect with
  | rests n hrefused =>
      refine ⟨?_, rfl⟩
      rintro run rfl
      obtain rfl : Except.ok (.started (some run)) = reply := hreply
      rcases hrefused with hrefused | hlooks
      · cases hrefused
      · cases hlooks
  | revises ho _ _ _ => cases ho
  | starts hfound haccepts _ _ _ =>
      obtain ⟨row, hrow, hread⟩ := Store.workflow?_eq_some_iff.mp hfound
      obtain ⟨-, rfl⟩ := WorkflowRow.read_eq_ok_iff.mp hread
      exact absurd (h row hrow) (acceptsRuns_record.mp haccepts)

/-- Of every other workflow a run is started, if its limit admits one and the id for it is
new. -/
theorem startRun_of_not_closed (trigger : Value) (hrow : s.store.workflowRow? id = some row)
    (hwhole : row.IsWhole) (hopen : row.status ∉ closedNames)
    (hadmits : s.store.admits id row.record.maxRunsPerHour (e.clock s).1 = .ok true)
    (hnew : s.store.runRow? (e.ids.run s.issued.runs) = none) :
    (e.startRun id trigger s).1 = .ok (some (e.ids.run s.issued.runs)) := by
  obtain ⟨hworkflow, -⟩ := Store.workflow?_record hwhole hrow
  have hstarted := (startRun_of_admits trigger hworkflow (acceptsRuns_record.mpr hopen) hadmits).2
  exact (hstarted hnew).mpr rfl

/-- Only drafts and active workflows start runs, where what is stored as the standing of a
workflow is the name of one. If there is no workflow with the id, or its text is neither
that of a draft nor that of an active workflow, nothing is started. If it is one of these, a
run is started, provided that the row is whole, the limit admits a run, and the id for it is
new. -/
theorem only_open_workflows_start (e : Engine σ) (s : EngineState σ) (id : String) (trigger : Value)
    (hnamed : ∀ row, s.store.workflowRow? id = some row →
      ∃ standing : WorkflowStatus, row.status = standing.name) :
    ((∀ row, s.store.workflowRow? id = some row → row.status ≠ "draft" ∧ row.status ≠ "active") →
      (∀ run, (e.startRun id trigger s).1 ≠ .ok (some run)) ∧
      (e.startRun id trigger s).2.store = s.store) ∧
    ∀ row, s.store.workflowRow? id = some row → row.status = "draft" ∨ row.status = "active" →
      row.IsWhole → s.store.admits id row.record.maxRunsPerHour (e.clock s).1 = .ok true →
      s.store.runRow? (e.ids.run s.issued.runs) = none →
      (e.startRun id trigger s).1 = .ok (some (e.ids.run s.issued.runs)) := by
  constructor
  · intro hclosed
    apply startsNothing_of_closed e s id trigger
    intro row hrow
    obtain ⟨hdraft, hactive⟩ := hclosed row hrow
    obtain ⟨standing, hstanding⟩ := hnamed row hrow
    rw [hstanding] at hdraft hactive ⊢
    cases standing with
    | draft => exact absurd rfl hdraft
    | active => exact absurd rfl hactive
    | paused => decide
    | archived => decide
    | error => decide
  · intro row hrow hopen hwhole hadmits hnew
    apply startRun_of_not_closed trigger hrow hwhole ?_ hadmits hnew
    rcases hopen with h | h <;> rw [h] <;> decide

-- ========================================================== examples

/-- A workflow was made, and then a text was put into its row as its standing. -/
def greetingWithStanding (text : String) : EngineState Unit :=
  { afterGreeting with store := { afterGreeting.store with
      workflows := afterGreeting.store.workflows.map fun row => { row with status := text } } }

/-- Its row; its limit admits a run. -/
theorem row_greetingWithStanding (text : String) :
    ∃ row, (greetingWithStanding text).store.workflowRow? "w0" = some row ∧ row.status = text ∧
      row.IsWhole ∧ (greetingWithStanding text).store.admits "w0" row.record.maxRunsPerHour
        ((Engine.timeless .empty).clock (greetingWithStanding text)).1 = .ok true := by
  refine ⟨_, rfl, rfl, ⟨Option.some_ne_none "w0", _, rfl⟩, ?_⟩
  have hepoch : FromOurYears .epoch := by decide
  exact admits_eq _ _ _ hepoch

/-- An active workflow starts a run, and a paused one does not. -/
theorem only_open_workflows_start_active :
    ((Engine.timeless .empty).startRun "w0" .null (greetingWithStanding "active")).1
        = .ok (some "r0") ∧
      ((Engine.timeless .empty).startRun "w0" .null (greetingWithStanding "paused")).2.store
        = (greetingWithStanding "paused").store := by
  constructor
  · obtain ⟨row, hrow, hstatus, hwhole, hadmits⟩ := row_greetingWithStanding "active"
    refine (only_open_workflows_start (Engine.timeless .empty) (greetingWithStanding "active") "w0"
      .null ?_).2 row hrow (.inr hstatus) hwhole hadmits rfl
    intro row' hrow'
    obtain rfl := Option.some.inj (hrow.symm.trans hrow')
    exact ⟨.active, hstatus⟩
  · obtain ⟨row, hrow, hstatus, -⟩ := row_greetingWithStanding "paused"
    refine ((only_open_workflows_start (Engine.timeless .empty) (greetingWithStanding "paused") "w0"
      .null ?_).1 ?_).2
    · intro row' hrow'
      obtain rfl := Option.some.inj (hrow.symm.trans hrow')
      exact ⟨.paused, hstatus⟩
    · intro row' hrow'
      obtain rfl := Option.some.inj (hrow.symm.trans hrow')
      rw [hstatus]
      decide

/-- A workflow whose stored standing is no name starts a run. -/
theorem start_of_unnamed_standing :
    (∃ row, (greetingWithStanding "on hold").store.workflowRow? "w0" = some row ∧
      row.status = "on hold" ∧ row.status ≠ "draft" ∧ row.status ≠ "active") ∧
    ((Engine.timeless .empty).startRun "w0" .null (greetingWithStanding "on hold")).1
      = .ok (some "r0") := by
  obtain ⟨row, hrow, hstatus, hwhole, hadmits⟩ := row_greetingWithStanding "on hold"
  refine ⟨⟨row, hrow, hstatus, by rw [hstatus]; decide, by rw [hstatus]; decide⟩, ?_⟩
  apply startRun_of_not_closed .null hrow hwhole ?_ hadmits rfl
  rw [hstatus]
  decide

end DurableWorkflow
