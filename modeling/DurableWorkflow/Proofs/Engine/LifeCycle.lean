/-
The life cycle of a run. A run begins as running. Executing it makes it completed,
failed or waiting; a waiting run goes on as running; a run that is running or
waiting can be cancelled; and nothing else happens to its standing. A run that is
completed, failed or cancelled keeps its row for ever, column by column.

The row of a run has four writers. Each asks for a standing before it writes, and
these guards are all that the proof needs: no turn starts from a run that is over
(`Passage.of_over`). That no run is ever pending is an invariant of its own
(`lived_after`); cancelling would allow it.
-/
import DurableWorkflow.Proofs.Engine.Turns

namespace DurableWorkflow

open Time (Instant)
open Store (RunRow)

variable {σ : Type}

-- ========================================================== standings

/-- A row with this standing. -/
def Stands (row : RunRow) (t : RunStatus) : Prop := row.status = t.name

/-- A row of a run that is over. -/
def IsOver (row : RunRow) : Prop := ∃ t : RunStatus, t.isTerminal = true ∧ Stands row t

/-- A row has one standing at most. -/
theorem Stands.unique {row : RunRow} {t u : RunStatus} (ht : Stands row t) (hu : Stands row u) :
    t = u :=
  RunStatus.name_injective (ht.symm.trans hu)

/-- An execution ends in one of three standings. -/
theorem progressed_status (r : Run) (o : Graph.Outcome) (now : Instant) :
    (Engine.progressed r o now).status = .completed ∨ (Engine.progressed r o now).status = .failed
      ∨ (Engine.progressed r o now).status = .waiting := by
  unfold Engine.progressed
  cases o.halt with
  | completed => exact .inl rfl
  | budgetSpent => exact .inl rfl
  | nodeMissing node => exact .inl rfl
  | suspended t => exact .inr (.inr rfl)
  | failed node message => exact .inr (.inl rfl)

/-- A run that can be executed has a row that says that it is running. -/
theorem stands_of_executable {s : Store} {run : String} {row : RunRow} {r : Run} {w : Workflow}
    (hrow : s.runRow? run = some row) (h : Engine.executable s run = .ok (r, w)) :
    Stands row .running := by
  obtain ⟨hrun, hintact, hstatus, -, -⟩ := Engine.executable_eq_ok_iff.mp h
  have hname := (RunRow.read_intact (Store.read_of_run? hrow hrun) hintact).1
  rw [hstatus] at hname
  exact hname

/-- The standings from which a run can be cancelled. -/
theorem stands_of_open {row : RunRow} (h : Store.openNames.contains row.status = true) :
    Stands row .pending ∨ Stands row .running ∨ Stands row .waiting := by
  simpa [Store.openNames, Stands] using h

-- =========================================================== passages

/-- How the row of a run may change in one occurrence: not at all, or along the life
cycle, and then by the operation that is meant for it. -/
inductive Passage (run : String) : Occurrence σ → Option RunRow → Option RunRow → Prop
  /-- Every column stays. -/
  | stays (x : Occurrence σ) (row : Option RunRow) : Passage run x row row
  /-- The run begins, as running. -/
  | begins {workflow : String} {trigger : Value} {row : RunRow} (h : Stands row .running) :
    Passage run (.operation (.start workflow trigger)) none (some row)
  /-- A running run was executed. -/
  | ends {row row' : RunRow} (h : Stands row .running)
    (h' : Stands row' .completed ∨ Stands row' .failed ∨ Stands row' .waiting) :
    Passage run (.operation (.execute run)) (some row) (some row')
  /-- A waiting run goes on. -/
  | resumes {row row' : RunRow} (h : Stands row .waiting) (h' : Stands row' .running) :
    Passage run (.operation .resumeDue) (some row) (some row')
  /-- A run that was not over was cancelled. -/
  | cancels {row row' : RunRow} (h : Stands row .running ∨ Stands row .waiting)
    (h' : Stands row' .cancelled) : Passage run (.operation (.cancel run)) (some row) (some row')

variable {e : Engine σ} {s : EngineState σ} {run : String}

/-- The rows of a run that is past its start: no run is pending. -/
def Begun (s : Store) (run : String) : Prop :=
  ∀ row, s.runRow? run = some row → ∃ t : RunStatus, t ≠ .pending ∧ Stands row t

/-- A turn is a passage, from a state in which the run is not pending. -/
theorem Turn.passage {o : Operation} {reply : Except Failure Reply} {after : Option RunRow}
    {ms : List Store.Mark} (h : Turn e s run o reply after ms) (hs : Begun s.store run) :
    Passage run (.operation o : Occurrence σ) (s.store.runRow? run) after := by
  cases h with
  | rests _ => exact .stays _ _
  | starts hnew _ _ _ =>
      rw [hnew]
      exact .begins rfl
  | @executes row r w hrow hread =>
      rw [hrow]
      refine .ends (stands_of_executable hrow hread) ?_
      rcases progressed_status r (e.driveRun r w s).1 (e.clock (e.driveRun r w s).2).1
        with ht | ht | ht
      · exact .inl (congrArg RunStatus.name ht)
      · exact .inr (.inl (congrArg RunStatus.name ht))
      · exact .inr (.inr (congrArg RunStatus.name ht))
  | resumes hrow hdue _ =>
      rw [hrow]
      exact .resumes (Engine.status_of_isDue hdue) rfl
  | cancels hrow hopen =>
      obtain ⟨t, hne, ht⟩ := hs _ hrow
      rw [hrow]
      refine .cancels ?_ rfl
      rcases stands_of_open hopen with h | h
      · exact absurd (ht.unique h) hne
      · exact h

/-- Every occurrence is a passage of every run that is not pending. -/
theorem next_passage (hs : s.store.Sound) (hrun : Begun s.store run) (x : Occurrence σ) :
    Passage run x (s.store.runRow? run) ((e.next s x).store.runRow? run) := by
  cases x with
  | operation o => exact (perform_turn hs run o).2.passage hrun
  | outside world issued => exact .stays _ _

/-- Where a passage leads, no run is pending. -/
theorem Passage.begun {x : Occurrence σ} {before after : Option RunRow}
    (h : Passage run x before after)
    (hbefore : ∀ row, before = some row → ∃ t : RunStatus, t ≠ .pending ∧ Stands row t) :
    ∀ row, after = some row → ∃ t : RunStatus, t ≠ .pending ∧ Stands row t := by
  intro row hrow
  cases h with
  | stays _ _ => exact hbefore row hrow
  | begins ht => exact ⟨_, by decide, Option.some.inj hrow ▸ ht⟩
  | ends _ ht =>
      obtain rfl := Option.some.inj hrow
      rcases ht with ht | ht | ht
      · exact ⟨_, by decide, ht⟩
      · exact ⟨_, by decide, ht⟩
      · exact ⟨_, by decide, ht⟩
  | resumes _ ht => exact ⟨_, by decide, Option.some.inj hrow ▸ ht⟩
  | cancels _ ht => exact ⟨_, by decide, Option.some.inj hrow ▸ ht⟩

/-- A run that is over stays as it is: every other passage starts from a run that is
not. -/
theorem Passage.of_over {x : Occurrence σ} {row : RunRow} {after : Option RunRow}
    (h : Passage run x (some row) after) (hover : IsOver row) : after = some row := by
  obtain ⟨t, hterm, ht⟩ := hover
  cases h with
  | stays _ _ => rfl
  | ends hrow _ => simp [ht.unique hrow, RunStatus.isTerminal] at hterm
  | resumes hrow _ => simp [ht.unique hrow, RunStatus.isTerminal] at hterm
  | cancels hrow _ =>
      rcases hrow with hrow | hrow
      · simp [ht.unique hrow, RunStatus.isTerminal] at hterm
      · simp [ht.unique hrow, RunStatus.isTerminal] at hterm

-- ========================================================== histories

/-- A store that an engine can come to: it is sound, and no run is pending. -/
structure Lived (s : Store) : Prop where
  sound : s.Sound
  begun : ∀ run, Begun s run

theorem lived_next (hs : Lived s.store) (x : Occurrence σ) : Lived (e.next s x).store where
  sound := sound_next hs.sound x
  begun run := (next_passage hs.sound (hs.begun run) x).begun (hs.begun run)

/-- After every history the store is sound, and no run is pending. -/
theorem lived_after (e : Engine σ) (world : σ) (h : List (Occurrence σ)) :
    Lived (e.after h (.starting world)).store :=
  e.after_of_next (P := fun s => Lived s.store) (fun _ x hs => lived_next hs x) h
    ⟨Store.sound_empty, fun _ _ hrow => by cases hrow⟩

/-- A run that is over has the same row after every further history. -/
theorem row_after_of_over (hs : Lived s.store) {row : RunRow}
    (hrow : s.store.runRow? run = some row) (hover : IsOver row) (later : List (Occurrence σ)) :
    (e.after later s).store.runRow? run = some row := by
  have hkeep : ∀ s x, Lived s.store ∧ s.store.runRow? run = some row →
      Lived (e.next s x).store ∧ (e.next s x).store.runRow? run = some row := by
    rintro s x ⟨hs, hrow⟩
    have hpass := next_passage (e := e) hs.sound (hs.begun run) x
    rw [hrow] at hpass
    exact ⟨lived_next hs x, hpass.of_over hover⟩
  exact (e.after_of_next (P := fun s => Lived s.store ∧ s.store.runRow? run = some row) hkeep
    later ⟨hs, hrow⟩).2

/-- The life cycle of a run. After every history, whatever happens next takes the
row of the run along its life cycle or leaves it alone; and if the run is over,
then after every further history its row is the same, and so is the record that is
read from it. -/
theorem run_life_cycle (e : Engine σ) (world : σ) (h : List (Occurrence σ)) (run : String) :
    (∀ x, Passage run x ((e.after h (.starting world)).store.runRow? run)
        ((e.after (h ++ [x]) (.starting world)).store.runRow? run)) ∧
      ∀ row, (e.after h (.starting world)).store.runRow? run = some row → IsOver row →
        ∀ later, (e.after (h ++ later) (.starting world)).store.runRow? run = some row ∧
          Engine.run? run (e.after (h ++ later) (.starting world))
            = Engine.run? run (e.after h (.starting world)) := by
  have hlived := lived_after e world h
  refine ⟨fun x => ?_, fun row hrow hover later => ?_⟩
  · rw [e.after_append]
    exact next_passage hlived.sound (hlived.begun run) x
  · have hafter := row_after_of_over (e := e) hlived hrow hover later
    rw [e.after_append]
    refine ⟨hafter, ?_⟩
    unfold Engine.run? Store.run?
    rw [hafter, hrow]

end DurableWorkflow
