/-
What a write leaves alone. A write is meant for the rows with some ids; the rows without
these ids are afterwards the same, in the same order, and the trail has at most become
longer (`Framed`). This is said of the rows as they are stored: an id that occurs twice
and a row without an id are no exceptions.

Writes one after another leave alone what each of them does, so a frame for the whole is
had from frames for the parts, widened to the same ids.
-/
import DurableWorkflow.Proofs.Engine.Effects

namespace DurableWorkflow.Store

open Time (Instant)

variable {ρ : Type} {key : ρ → Option String} {ids : List String} {rows : List ρ}

-- ====================================================== rows set apart

/-- Whether the id of a row, if it has one, is none of some ids. -/
def isApart (ids : List String) (id : Option String) : Bool := ids.all fun i => id ≠ some i

/-- The rows that have none of some ids. -/
def without (key : ρ → Option String) (ids : List String) (rows : List ρ) : List ρ :=
  rows.filter fun r => isApart ids (key r)

theorem isApart_iff {id : Option String} : isApart ids id = true ↔ ∀ i ∈ ids, id ≠ some i := by
  simp [isApart]

theorem isApart_of_mem {id : String} (hid : id ∈ ids) : isApart ids (some id) = false := by
  apply Bool.eq_false_iff.mpr
  intro h
  exact isApart_iff.mp h id hid rfl

theorem isApart_of_not_mem {id : String} (hid : id ∉ ids) : isApart ids (some id) = true := by
  apply isApart_iff.mpr
  intro i hi h
  exact hid (Option.some.inj h ▸ hi)

theorem without_nil (key : ρ → Option String) (rows : List ρ) : without key [] rows = rows := by
  simp [without, isApart]

/-- What is the same apart from some rows is the same apart from more rows. -/
theorem without_mono {more : List String} {rows' : List ρ} (hids : ids ⊆ more)
    (h : without key ids rows' = without key ids rows) :
    without key more rows' = without key more rows := by
  have hagain (l : List ρ) : without key more (without key ids l) = without key more l := by
    unfold without
    rw [List.filter_filter]
    apply List.filter_congr
    intro r _
    cases hr : isApart more (key r) with
    | false => rfl
    | true =>
        apply isApart_iff.mpr
        intro i hi
        exact isApart_iff.mp hr i (hids hi)
  rw [← hagain rows', h, hagain rows]

/-- Changing rows with an id, which they keep, leaves alone those without it. -/
theorem without_map {f : ρ → ρ} {id : String} (hid : id ∈ ids)
    (h : ∀ r, key r ≠ some id → f r = r) (hkey : ∀ r, key (f r) = key r) :
    without key ids (rows.map f) = without key ids rows := by
  unfold without
  induction rows with
  | nil => rfl
  | cons r rows ih =>
      rw [List.map_cons, List.filter_cons, List.filter_cons, hkey, ih]
      by_cases hr : key r = some id
      · rw [hr, isApart_of_mem hid]
        rfl
      · rw [h r hr]

/-- Adding a row with an id leaves alone those without it. -/
theorem without_append {new : ρ} {id : String} (hid : id ∈ ids) (hnew : key new = some id) :
    without key ids (rows ++ [new]) = without key ids rows := by
  unfold without
  rw [List.filter_append, List.filter_singleton, hnew, isApart_of_mem hid]
  simp

/-- So does removing rows with an id. -/
theorem without_filter {id : String} (hid : id ∈ ids) :
    without key ids (rows.filter fun r => key r ≠ some id) = without key ids rows := by
  unfold without
  rw [List.filter_filter]
  apply List.filter_congr
  intro r _
  by_cases hr : key r = some id
  · rw [hr, isApart_of_mem hid]
    rfl
  · simp [hr]

/-- A row with another id is found among those that are set apart. -/
theorem find?_without {id : String} (hid : id ∉ ids) (rows : List ρ) :
    (without key ids rows).find? (fun r => key r = some id)
      = rows.find? fun r => key r = some id := by
  unfold without
  rw [List.find?_filter]
  refine congrArg (fun p => rows.find? p) (funext fun r => ?_)
  by_cases hr : key r = some id
  · rw [hr, isApart_of_not_mem hid]
    simp
  · simp [hr]

-- ============================================================= frames

/-- The second store has the workflows and runs of the first, but for those with some ids,
and later entries in its trail at most. -/
structure Framed (workflows runs : List String) (s s' : Store) : Prop extends Extends s s' where
  workflows : without WorkflowRow.id workflows s'.workflows
    = without WorkflowRow.id workflows s.workflows
  runs : without RunRow.id runs s'.runs = without RunRow.id runs s.runs

variable {s s' s'' : Store} {workflows runs : List String} {id : String}

theorem Framed.refl (workflows runs : List String) (s : Store) : Framed workflows runs s s :=
  ⟨.of_eq rfl rfl, rfl, rfl⟩

theorem Framed.trans (h : Framed workflows runs s s') (h' : Framed workflows runs s' s'') :
    Framed workflows runs s s'' :=
  ⟨h.toExtends.trans h'.toExtends, h'.workflows.trans h.workflows, h'.runs.trans h.runs⟩

theorem Framed.mono {workflows' runs' : List String} (hw : workflows ⊆ workflows')
    (hr : runs ⊆ runs') (h : Framed workflows runs s s') : Framed workflows' runs' s s' :=
  ⟨h.toExtends, without_mono hw h.workflows, without_mono hr h.runs⟩

/-- Where no workflow is meant, all are the same. -/
theorem Framed.workflows_eq (h : Framed [] runs s s') : s'.workflows = s.workflows := by
  have := h.workflows
  rwa [without_nil, without_nil] at this

/-- Where no run is meant, all are the same. -/
theorem Framed.runs_eq (h : Framed workflows [] s s') : s'.runs = s.runs := by
  have := h.runs
  rwa [without_nil, without_nil] at this

/-- A workflow that is not meant has the row that it had. -/
theorem Framed.workflowRow? (h : Framed workflows runs s s') (hid : id ∉ workflows) :
    s'.workflowRow? id = s.workflowRow? id := by
  unfold Store.workflowRow?
  rw [← find?_without hid s'.workflows, h.workflows, find?_without hid]

/-- So has a run. -/
theorem Framed.runRow? (h : Framed workflows runs s s') (hid : id ∉ runs) :
    s'.runRow? id = s.runRow? id := by
  unfold Store.runRow?
  rw [← find?_without hid s'.runs, h.runs, find?_without hid]

-- ============================================================= writes

theorem Noted.framed (h : Noted s s') (workflows runs : List String) :
    Framed workflows runs s s' :=
  ⟨h.toExtends, congrArg _ h.workflows, congrArg _ h.runs⟩

theorem framed_insertWorkflow {w : Workflow} (h : s.insertWorkflow w = .ok s') :
    Framed [w.id] [] s s' := by
  unfold insertWorkflow at h
  split at h
  next => cases h
  next =>
    obtain rfl := Except.ok.inj h
    exact ⟨.of_eq rfl rfl, without_append (List.mem_singleton_self _) rfl, rfl⟩

theorem framed_reviseWorkflow (s : Store) (id : String) (u : Revision) (now : Instant) :
    Framed [id] [] s (s.reviseWorkflow id u now).2 := by
  unfold reviseWorkflow
  split
  next => exact .refl _ _ s
  next =>
    refine ⟨.of_eq rfl rfl, without_map (List.mem_singleton_self id) ?_ ?_, rfl⟩
    · intro r hr
      exact if_neg hr
    · intro r
      split
      next => rfl
      next => rfl

theorem framed_deleteWorkflow (s : Store) (id : String) :
    Framed [id] [] s (s.deleteWorkflow id).2 :=
  ⟨.of_eq rfl rfl, without_filter (List.mem_singleton_self id), rfl⟩

theorem framed_insertRun {r : Run} (h : s.insertRun r = .ok s') : Framed [] [r.id] s s' := by
  unfold insertRun at h
  split at h
  next => cases h
  next =>
    obtain rfl := Except.ok.inj h
    exact ⟨.of_eq rfl rfl, rfl, without_append (List.mem_singleton_self _) rfl⟩

/-- Changing rows of runs that have an id, which they keep, is framed by that id. -/
theorem framed_changeRuns {p : RunRow → Bool} {f : RunRow → RunRow}
    (h : s.changeRuns p f = .ok (true, s')) (hp : ∀ r, p r = true → r.id = some id)
    (hf : ∀ r, (f r).id = r.id) : Framed [] [id] s s' := by
  obtain ⟨-, rfl⟩ := changeRuns_eq_true h
  refine ⟨.of_eq rfl rfl, rfl, without_map (List.mem_singleton_self id) ?_ ?_⟩
  · intro r hr
    exact if_neg fun h => hr (hp r h)
  · intro r
    split
    next => exact hf r
    next => rfl

theorem framed_saveRun {r : Run} (h : s.saveRun r = .ok s') : Framed [] [r.id] s s' := by
  obtain rfl := saveRun_eq_ok h
  refine ⟨.of_eq rfl rfl, rfl, without_map (List.mem_singleton_self _) ?_ ?_⟩
  · intro row hrow
    exact if_neg hrow
  · intro row
    split
    next => rfl
    next => rfl

theorem framed_cancelRun {now : Instant} (h : s.cancelRun id now = .ok (true, s')) :
    Framed [] [id] s s' := by
  apply framed_changeRuns h
  · intro r hr
    simp only [Bool.and_eq_true, decide_eq_true_eq] at hr
    exact hr.1
  · intro r
    rfl

theorem framed_resumeRun (h : s.resumeRun id = .ok (true, s')) : Framed [] [id] s s' := by
  apply framed_changeRuns h
  · intro r hr
    simp only [Bool.and_eq_true, decide_eq_true_eq] at hr
    exact hr.1
  · intro r
    rfl

/-- Runs that go on one after another are framed by their ids. -/
theorem Resumptions.framed {ids : List String} (h : Resumptions s ids s') :
    Framed [] ids s s' := by
  induction h with
  | done s => exact .refl _ _ s
  | @next s changed noted s' id ids hresume hnoted _ ih =>
      have hfirst : Framed [] (id :: ids) s changed :=
        (framed_resumeRun hresume).mono (List.Subset.refl _) (by simp)
      have hrest : Framed [] (id :: ids) noted s' :=
        ih.mono (List.Subset.refl _) (List.subset_cons_self id ids)
      exact (hfirst.trans (hnoted.framed [] (id :: ids))).trans hrest

end DurableWorkflow.Store
