/-
What the operations of the store do to one row of the table of runs, and to the
trail.

A store that nobody but the store itself has written to is sound: every run has
an id that no other run has, entries of the trail are numbered upward, and rows
can be changed. In a sound store an operation that names a run concerns at most
one row, so it is told by what becomes of that row (`Amended`), and whether it
had anything to do is told by that row alone.
-/
import Mathlib.Data.List.Nodup
import DurableWorkflow.Store.Tables

namespace DurableWorkflow.Store

open Time (Instant)

-- ====================================================== sound stores

/-- A store that only the store itself has written to. -/
structure Sound (s : Store) : Prop where
  named : ∀ r ∈ s.runs, r.id ≠ none
  unique : (s.runs.map RunRow.id).Nodup
  numbered : s.trail.Pairwise fun a b => a.id < b.id
  bounded : ∀ r ∈ s.trail, r.id ≤ s.lastEntry
  unfrozen : s.frozen = false

theorem sound_empty : Sound .empty where
  named := by simp [empty]
  unique := by simp [empty]
  numbered := by simp [empty]
  bounded := by simp [empty]
  unfrozen := rfl

-- ======================================================== rows by id

variable {s : Store} {id : String}

theorem id_of_runRow? {r : RunRow} (h : s.runRow? id = some r) : r.id = some id := by
  have := List.find?_some h
  simpa using this

theorem mem_of_runRow? {r : RunRow} (h : s.runRow? id = some r) : r ∈ s.runs :=
  List.mem_of_find?_eq_some h

/-- In a sound store a row is found by its id. -/
theorem Sound.runRow?_of_mem (hs : s.Sound) {r : RunRow} (hr : r ∈ s.runs)
    (hid : r.id = some id) : s.runRow? id = some r := by
  have hsome : (s.runRow? id).isSome := by
    rw [runRow?, List.find?_isSome]
    exact ⟨r, hr, by simpa using hid⟩
  obtain ⟨r', hr'⟩ := Option.isSome_iff_exists.mp hsome
  have heq : r' = r := List.inj_on_of_nodup_map hs.unique (mem_of_runRow? hr') hr
    ((id_of_runRow? hr').trans hid.symm)
  rw [hr', heq]

/-- Rows that keep their ids are found where they were. -/
theorem find?_map_of_id {f : RunRow → RunRow} (hf : ∀ r, (f r).id = r.id) (rows : List RunRow) :
    ((rows.map f).find? fun r => r.id = some id)
      = (rows.find? fun r => r.id = some id).map f := by
  rw [List.find?_map]
  congr 1
  refine congrArg (fun p => rows.find? p) (funext fun r => ?_)
  simp [hf r]

-- =================================================== one row changes

/-- The second store has a row for a run that the first one may have had
otherwise, or not at all; nothing else is different. -/
structure Amended (s s' : Store) (id : String) (row : RunRow) : Prop where
  row : s'.runRow? id = some row
  others : ∀ i, i ≠ id → s'.runRow? i = s.runRow? i
  workflows : s'.workflows = s.workflows
  trail : s'.trail = s.trail
  sound : s'.Sound

/-- A run that is added has a row from then on; its id was not taken. -/
theorem amended_of_insertRun (hs : s.Sound) {r : Run} {s' : Store}
    (h : s.insertRun r = .ok s') :
    s.runRow? r.id = none ∧ Amended s s' r.id (.of r) := by
  unfold insertRun at h
  split at h
  case isTrue => cases h
  case isFalse hany =>
    have hnew : ∀ row ∈ s.runs, row.id ≠ some r.id := by simpa using hany
    have hnone : s.runRow? r.id = none := by
      rw [runRow?, List.find?_eq_none]
      simpa using hnew
    injection h with h
    subst h
    refine ⟨hnone, ?_, ?_, rfl, rfl, ?_⟩
    · rw [runRow?] at hnone ⊢
      rw [List.find?_append, hnone]
      simp [RunRow.of]
    · intro i hi
      rw [runRow?, runRow?, List.find?_append]
      simp [RunRow.of, Ne.symm hi]
    · refine ⟨?_, ?_, hs.numbered, hs.bounded, hs.unfrozen⟩
      · intro row hrow
        rcases List.mem_append.mp hrow with hrow | hrow
        · exact hs.named row hrow
        · rw [List.mem_singleton.mp hrow]
          simp [RunRow.of]
      · rw [List.map_append, List.nodup_append]
        refine ⟨hs.unique, by simp, ?_⟩
        intro a ha b hb hab
        obtain ⟨row, hrow, rfl⟩ := List.mem_map.mp ha
        obtain ⟨new, hmem, rfl⟩ := List.mem_map.mp hb
        rw [List.mem_singleton.mp hmem] at hab
        exact hnew row hrow hab

variable {p q : RunRow → Bool} {f : RunRow → RunRow}

/-- A change that asks for an id and for something else leaves a sound store alone
when the row with that id does not have the rest. -/
theorem changeRuns_of_not (hs : s.Sound)
    (hp : ∀ r, p r = (decide (r.id = some id) && q r))
    (h : ∀ r, s.runRow? id = some r → q r = false) :
    s.changeRuns p f = .ok (false, s) := by
  have hany : s.runs.any p = false := by
    rw [List.any_eq_false]
    intro r hr
    rw [hp]
    by_cases hid : r.id = some id
    · simp [h r (hs.runRow?_of_mem hr hid)]
    · simp [hid]
  rw [changeRuns, hany]
  simp

/-- A change that asks for an id and for something else changes the row with that
id, if it has the rest. -/
theorem changeRuns_of_row (hs : s.Sound)
    (hp : ∀ r, p r = (decide (r.id = some id) && q r)) (hf : ∀ r, (f r).id = r.id)
    {r : RunRow} (hr : s.runRow? id = some r) (hq : q r = true) :
    ∃ s', s.changeRuns p f = .ok (true, s') ∧ Amended s s' id (f r) := by
  have hpr : p r = true := by
    rw [hp, hq, id_of_runRow? hr]
    simp
  have hany : s.runs.any p = true := List.any_eq_true.mpr ⟨r, mem_of_runRow? hr, hpr⟩
  have hkeep : ∀ row, (if p row then f row else row).id = row.id := by
    intro row
    split
    · exact hf row
    · rfl
  refine ⟨{ s with runs := s.runs.map fun row => if p row then f row else row }, ?_, ?_⟩
  · rw [changeRuns, hany, hs.unfrozen]
    simp
  · have hrows : ∀ i, ((s.runs.map fun row => if p row then f row else row).find?
        fun row => row.id = some i) = (s.runRow? i).map fun row => if p row then f row else row :=
      fun i => find?_map_of_id hkeep s.runs
    refine ⟨?_, ?_, rfl, rfl, ?_, ?_, hs.numbered, hs.bounded, hs.unfrozen⟩
    · refine (hrows id).trans ?_
      rw [hr, Option.map_some, hpr]
      rfl
    · intro i hi
      refine (hrows i).trans ?_
      cases hri : s.runRow? i with
      | none => rfl
      | some row =>
          have hrow : p row = false := by
            rw [hp, id_of_runRow? hri]
            simp [hi]
          rw [Option.map_some, hrow]
          rfl
    · intro row hrow
      obtain ⟨old, hold, rfl⟩ := List.mem_map.mp hrow
      rw [hkeep]
      exact hs.named old hold
    · have hids : (s.runs.map fun row => if p row then f row else row).map RunRow.id
          = s.runs.map RunRow.id := by
        rw [List.map_map]
        exact List.map_congr_left fun row _ => hkeep row
      rw [hids]
      exact hs.unique

-- ==================================================== the three changes

/-- The row of a run that was cancelled. -/
def RunRow.cancel (r : RunRow) (now : Instant) : RunRow :=
  { r with
    status := RunStatus.cancelled.name
    completedAt := some now.stored
    resumeAt := none }

/-- The row of a run that goes on. -/
def RunRow.resume (r : RunRow) : RunRow :=
  { r with status := RunStatus.running.name, resumeAt := none }

/-- A run that has a row is saved into it. -/
theorem saveRun_of_row (hs : s.Sound) {row : RunRow} {r : Run} (hr : s.runRow? r.id = some row) :
    ∃ s', s.saveRun r = .ok s' ∧ Amended s s' r.id (row.save r) := by
  obtain ⟨s', hs', ha⟩ := changeRuns_of_row (p := fun row => row.id = some r.id)
    (q := fun _ => true) (f := fun row => row.save r) hs (by simp) (fun _ => rfl) hr rfl
  exact ⟨s', by rw [saveRun, hs']; rfl, ha⟩

/-- A run that is not over is cancelled. -/
theorem cancelRun_of_open (hs : s.Sound) (now : Instant) {row : RunRow}
    (hr : s.runRow? id = some row) (ho : openNames.contains row.status = true) :
    ∃ s', s.cancelRun id now = .ok (true, s') ∧ Amended s s' id (row.cancel now) :=
  changeRuns_of_row (q := fun r => openNames.contains r.status) (f := fun r => r.cancel now) hs
    (fun _ => rfl) (fun _ => rfl) hr ho

/-- A run that is over, or is not there, is not cancelled. -/
theorem cancelRun_of_closed (hs : s.Sound) (now : Instant)
    (h : ∀ row, s.runRow? id = some row → openNames.contains row.status = false) :
    s.cancelRun id now = .ok (false, s) :=
  changeRuns_of_not (q := fun r => openNames.contains r.status) hs (fun _ => rfl) h

/-- A waiting run goes on. -/
theorem resumeRun_of_waiting (hs : s.Sound) {row : RunRow} (hr : s.runRow? id = some row)
    (hw : row.status = RunStatus.waiting.name) :
    ∃ s', s.resumeRun id = .ok (true, s') ∧ Amended s s' id row.resume :=
  changeRuns_of_row (q := fun r => r.status = RunStatus.waiting.name) (f := RunRow.resume) hs
    (fun _ => rfl) (fun _ => rfl) hr (by simpa using hw)

-- ================================================================ due

variable {now : Instant} {row : RunRow}

/-- A row is due if the run waits for a time that has come. -/
theorem isDue_iff : isDue now row = true ↔
    row.status = RunStatus.waiting.name ∧ ∃ t, row.resumeAt = some t ∧ t ≤ now.stored := by
  unfold isDue
  cases row.resumeAt <;> simp

/-- Where no row is due, no runs are. -/
theorem dueRuns_eq_nil (h : ∀ row ∈ s.runs, isDue now row = false) : s.dueRuns now = .ok [] := by
  have hnone : s.runs.filter (isDue now) = [] := by
    rw [List.filter_eq_nil_iff]
    intro row hrow
    simp [h row hrow]
  rw [dueRuns, hnone, List.mergeSort_nil]
  rfl

end DurableWorkflow.Store
