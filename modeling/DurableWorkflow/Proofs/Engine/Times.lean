/-
The times of a run and its standing agree. A run that waits has a time at which it is
to go on, and no other run has; a run that is over has a time at which it was over, and
no other has; a run that failed has an error, and no other has.

These columns have the same four writers as the standing, and each writes another part
of them. Executing writes them all, but takes over what it does not set from the record
that it has read; going on only clears the time for that; cancelling sets the time of
the end. What makes this fit is that a run that can be executed is running, and that of
a running run nothing is set (`Dated.of_running`). So the agreement is proved by cases
on the turn that a run takes, with nothing to be known of the run but that its columns
agreed before.

# The order of the times

That a run does not end before it began is a statement about the clock. Of all that the
clock shows in a history only the readings that are written into rows of runs matter
(`Engine.stamps`). If none of them is earlier than one before it, each row has two of
them in their order, and for years of four digits the order of instants is that of the
stored texts, and of what is read from these.
-/
import DurableWorkflow.Proofs.Engine.LifeCycle
import DurableWorkflow.Proofs.Engine.RollingHour
import Mathlib.Data.List.Induction

namespace DurableWorkflow

open Time (Instant)
open Store (RunRow)

variable {σ : Type}

-- ============================================================ standings

/-- What is set of a run with this standing: the time at which it is to go on, the time
at which it was over, and its error. -/
structure Dated {α : Type} (t : RunStatus) (resumeAt completedAt : Option α)
    (error : Option String) : Prop where
  resume : resumeAt.isSome ↔ t = .waiting
  completed : completedAt.isSome ↔ t = .completed ∨ t = .failed ∨ t = .cancelled
  error : error.isSome ↔ t = .failed

section dated

variable {α β : Type} {t : RunStatus} {resumeAt completedAt : Option α} {error : Option String}

/-- What is set is set, however it is written. -/
theorem Dated.map (h : Dated t resumeAt completedAt error) (f : α → β) :
    Dated t (resumeAt.map f) (completedAt.map f) error where
  resume := by rw [Option.isSome_map, h.resume]
  completed := by rw [Option.isSome_map, h.completed]
  error := h.error

/-- Of a running run nothing is set. -/
theorem Dated.of_running (h : Dated .running resumeAt completedAt error) :
    resumeAt = none ∧ completedAt = none ∧ error = none := by
  refine ⟨?_, ?_, ?_⟩
  · rw [← Option.not_isSome_iff_eq_none, h.resume]
    decide
  · rw [← Option.not_isSome_iff_eq_none, h.completed]
    decide
  · rw [← Option.not_isSome_iff_eq_none, h.error]
    decide

theorem dated_running : Dated .running (none : Option α) none none := by
  constructor <;> simp

end dated

/-- A run of which nothing is set has what its standing asks for after a drive. -/
theorem dated_progressed {r : Run} (o : Graph.Outcome) (now : Instant)
    (hresume : r.resumeAt = none) (hcompleted : r.completedAt = none) (herror : r.error = none) :
    Dated (Engine.progressed r o now).status (Engine.progressed r o now).resumeAt
      (Engine.progressed r o now).completedAt (Engine.progressed r o now).error := by
  unfold Engine.progressed
  cases o.halt with
  | completed => constructor <;> simp [hresume, herror]
  | budgetSpent => constructor <;> simp [hresume, herror]
  | nodeMissing node => constructor <;> simp [hresume, herror]
  | suspended t => constructor <;> simp [hcompleted, herror]
  | failed node message => constructor <;> simp [hresume]

/-- The columns of a row agree with its standing. -/
def RowDated (row : RunRow) : Prop :=
  ∃ t, Stands row t ∧ Dated t row.resumeAt row.completedAt row.error

/-- The record of such a row has its standing, and agrees with it. -/
theorem RowDated.read {row : RunRow} {r : Run} (h : RowDated row) (hread : row.read = .ok r) :
    Stands row r.status ∧ Dated r.status row.resumeAt row.completedAt row.error ∧
      Dated r.status r.resumeAt r.completedAt r.error := by
  obtain ⟨t, ht, hdated⟩ := h
  obtain ⟨-, hcompleted, hresume⟩ := RunRow.read_times hread
  rw [RunRow.read_status hread ht, hcompleted, hresume, (RunRow.read_plain hread).2.2.2]
  exact ⟨ht, hdated, hdated.map _⟩

variable {e : Engine σ} {s : EngineState σ} {run : String} {o : Operation}
  {reply : Except Failure Reply} {after : Option RunRow} {ms : List Store.Mark}

/-- Of a run that can be executed nothing is set. -/
theorem RowDated.of_executable {row : RunRow} {r : Run} {w : Workflow} (h : RowDated row)
    (hrow : s.store.runRow? run = some row)
    (hread : Engine.executable s.store run = .ok (r, w)) :
    r.resumeAt = none ∧ r.completedAt = none ∧ r.error = none := by
  obtain ⟨hrun, -, hstatus, -, -⟩ := Engine.executable_eq_ok_iff.mp hread
  obtain ⟨-, -, hdated⟩ := h.read (Store.read_of_run? hrow hrun)
  rw [hstatus] at hdated
  exact hdated.of_running

/-- A turn leads from rows that agree with their standing to such rows. -/
theorem Turn.dated (h : Turn e s run o reply after ms)
    (hs : ∀ row, s.store.runRow? run = some row → RowDated row) :
    ∀ row, after = some row → RowDated row := by
  intro row' hrow'
  cases h with
  | rests _ => exact hs row' hrow'
  | starts _ _ _ _ =>
      obtain rfl := Option.some.inj hrow'
      exact ⟨.running, rfl, dated_running⟩
  | executes hrow hread =>
      obtain rfl := Option.some.inj hrow'
      obtain ⟨hresume, hcompleted, herror⟩ := (hs _ hrow).of_executable hrow hread
      exact ⟨_, rfl, (dated_progressed _ _ hresume hcompleted herror).map Instant.stored⟩
  | @resumes row _ hrow hdue _ =>
      obtain rfl := Option.some.inj hrow'
      obtain ⟨t, ht, hdated⟩ := hs _ hrow
      obtain rfl := ht.unique (show Stands row .waiting from Engine.status_of_isDue hdue)
      refine ⟨.running, rfl, ?_, ?_, ?_⟩
      · simp [RunRow.resume]
      · rw [show row.resume.completedAt = row.completedAt from rfl, hdated.completed]
        decide
      · rw [show row.resume.error = row.error from rfl, hdated.error]
        decide
  | @cancels row hrow hopen =>
      obtain rfl := Option.some.inj hrow'
      obtain ⟨t, ht, hdated⟩ := hs _ hrow
      have hnever : t ≠ .failed := by
        rintro rfl
        rcases stands_of_open hopen with h | h | h
        · cases ht.unique h
        · cases ht.unique h
        · cases ht.unique h
      refine ⟨.cancelled, rfl, ?_, ?_, ?_⟩
      · simp [RunRow.cancel]
      · simp [RunRow.cancel]
      · rw [show (row.cancel (e.clock s).1).error = row.error from rfl, hdated.error]
        simp [hnever]

/-- After every history the columns of every row agree with its standing. -/
theorem dated_after (e : Engine σ) (world : σ) (h : List (Occurrence σ)) (run : String)
    (row : RunRow) (hrow : (e.after h (.starting world)).store.runRow? run = some row) :
    RowDated row := by
  revert row
  apply after_of_turn e world h run (P := fun found _ => ∀ row, found = some row → RowDated row)
  · intro row hrow
    cases hrow
  · intro s o reply row ms hturn hs
    exact hturn.dated hs

-- ============================================================== stamps

/-- What the clock shows where an operation with this reply has written a time into the
row of a run: the start of one that was started, and the end of an execution or of one
that was cancelled. -/
def Reply.stamps (e : Engine σ) (s : EngineState σ) :
    Operation → Except Failure Reply → List Instant
  | .start _ _, .ok (.started (some _)) => [(e.clock s).1]
  | .execute run, .ok (.executed _) =>
    match Engine.executable s.store run with
    | .ok (r, w) => [(e.clock (e.driveRun r w s).2).1]
    | .error _ => []
  | .cancel _, .ok (.changed true) => [(e.clock s).1]
  | _, _ => []

def Occurrence.stamps (e : Engine σ) (s : EngineState σ) : Occurrence σ → List Instant
  | .operation o => Reply.stamps e s o (e.perform o s).1
  | .outside _ _ => []

/-- What the clock shows in a history where times are written into rows of runs. -/
def Engine.stamps (e : Engine σ) : List (Occurrence σ) → EngineState σ → List Instant
  | [], _ => []
  | x :: h, s => x.stamps e s ++ e.stamps h (e.next s x)

theorem stamps_concat (e : Engine σ) (h : List (Occurrence σ)) (x : Occurrence σ)
    (s : EngineState σ) :
    e.stamps (h ++ [x]) s = e.stamps h s ++ x.stamps e (e.after h s) := by
  induction h generalizing s with
  | nil => exact List.append_nil _
  | cons y h ih =>
      rw [List.cons_append, Engine.stamps, ih, Engine.stamps, List.append_assoc]
      rfl

/-- A row has the time of one of these readings as its start, and if it has an end, that
of one that is not earlier. -/
def InOrder (ts : List Instant) (row : RunRow) : Prop :=
  ∃ t ∈ ts, row.startedAt = t.stored ∧
    ∀ text, row.completedAt = some text → ∃ t' ∈ ts, text = t'.stored ∧ t.le t'

variable {ts us : List Instant} {row : RunRow}

/-- It still has after further readings. -/
theorem InOrder.append (h : InOrder ts row) (us : List Instant) : InOrder (ts ++ us) row := by
  obtain ⟨t, ht, hstarted, hcompleted⟩ := h
  refine ⟨t, List.mem_append_left us ht, hstarted, ?_⟩
  intro text htext
  obtain ⟨t', ht', hstored, hle⟩ := hcompleted text htext
  exact ⟨t', List.mem_append_left us ht', hstored, hle⟩

/-- A row gets an end that is not earlier than the readings before. -/
theorem InOrder.ends {row' : RunRow} {now : Instant} (h : InOrder ts row)
    (hstarted : row'.startedAt = row.startedAt)
    (hcompleted : row'.completedAt = none ∨ row'.completedAt = some now.stored)
    (hle : ∀ t ∈ ts, t.le now) : InOrder (ts ++ [now]) row' := by
  obtain ⟨t, ht, hstart, -⟩ := h
  refine ⟨t, List.mem_append_left _ ht, hstarted.trans hstart, ?_⟩
  intro text htext
  rcases hcompleted with hnone | hsome
  · rw [hnone] at htext
    cases htext
  · rw [hsome] at htext
    obtain rfl := Option.some.inj htext
    exact ⟨now, List.mem_append_right _ (List.mem_singleton_self now), rfl, hle t ht⟩

/-- A drive sets the end of a run to the time when it was over, or not at all. -/
theorem progressed_completedAt {r : Run} (o : Graph.Outcome) (now : Instant)
    (h : r.completedAt = none) :
    (Engine.progressed r o now).completedAt = none ∨
      (Engine.progressed r o now).completedAt = some now := by
  unfold Engine.progressed
  cases o.halt with
  | completed => exact .inr rfl
  | budgetSpent => exact .inr rfl
  | nodeMissing node => exact .inr rfl
  | suspended t => exact .inl h
  | failed node message => exact .inr rfl

/-- A turn keeps the times of a row in order, if what the clock shows is not earlier than
what it has shown. -/
theorem Turn.inOrder (h : Turn e s run o reply after ms)
    (hs : ∀ row, s.store.runRow? run = some row → RowDated row ∧ InOrder ts row)
    (hle : ∀ t ∈ ts, ∀ now ∈ Reply.stamps e s o reply, t.le now) :
    ∀ row, after = some row → InOrder (ts ++ Reply.stamps e s o reply) row := by
  intro row' hrow'
  cases h with
  | rests _ => exact (hs row' hrow').2.append _
  | starts _ _ _ _ =>
      obtain rfl := Option.some.inj hrow'
      exact ⟨(e.clock s).1, List.mem_append_right _ (List.mem_singleton_self _), rfl, nofun⟩
  | @executes row r w hrow hread =>
      obtain rfl := Option.some.inj hrow'
      have hstamps : Reply.stamps e s (.execute run) (.ok (.executed (.ofRun (e.driven r w s))))
          = [(e.clock (e.driveRun r w s).2).1] := by
        simp only [Reply.stamps, hread]
      rw [hstamps] at hle ⊢
      obtain ⟨hdated, horder⟩ := hs row hrow
      obtain ⟨-, hcompleted, -⟩ := hdated.of_executable hrow hread
      refine horder.ends rfl ?_ fun t ht => hle t ht _ (List.mem_singleton_self _)
      rcases progressed_completedAt (e.driveRun r w s).1 (e.clock (e.driveRun r w s).2).1 hcompleted
        with h | h
      · exact .inl (congrArg (Option.map Instant.stored) h)
      · exact .inr (congrArg (Option.map Instant.stored) h)
  | @resumes row _ hrow _ _ =>
      obtain rfl := Option.some.inj hrow'
      obtain ⟨t, ht, hstarted, hcompleted⟩ := (hs row hrow).2.append _
      exact ⟨t, ht, hstarted, hcompleted⟩
  | @cancels row hrow _ =>
      obtain rfl := Option.some.inj hrow'
      exact (hs row hrow).2.ends rfl (.inr rfl) fun t ht => hle t ht _ (List.mem_singleton_self _)

/-- After every history in which what the clock showed was never earlier than what it had
shown, the times of every row are in order. -/
theorem inOrder_after (e : Engine σ) (world : σ) (h : List (Occurrence σ)) (run : String)
    (hclock : (e.stamps h (.starting world)).Pairwise Instant.le) (row : RunRow)
    (hrow : (e.after h (.starting world)).store.runRow? run = some row) :
    InOrder (e.stamps h (.starting world)) row := by
  induction h using List.reverseRecOn generalizing row with
  | nil => cases hrow
  | append_singleton h x ih =>
      rw [stamps_concat, List.pairwise_append] at hclock
      obtain ⟨hbefore, -, hle⟩ := hclock
      have hs : ∀ row, (e.after h (.starting world)).store.runRow? run = some row →
          RowDated row ∧ InOrder (e.stamps h (.starting world)) row :=
        fun row hrow => ⟨dated_after e world h run row hrow, ih hbefore row hrow⟩
      rw [e.after_append] at hrow
      rw [stamps_concat]
      cases x with
      | operation o =>
          exact (perform_turn (sound_after e world h) run o).2.inOrder hs hle row hrow
      | outside world' issued => exact (hs row hrow).2.append _

/-- Times that are in order are so as texts, and as they are read back. -/
theorem InOrder.le {text : String} (h : InOrder ts row)
    (hts : ∀ t ∈ ts, t.Valid ∧ 0 ≤ t.date.year ∧ t.date.year ≤ 9999)
    (htext : row.completedAt = some text) :
    row.startedAt ≤ text ∧ (Store.readInstant row.startedAt).le (Store.readInstant text) := by
  obtain ⟨t, ht, hstarted, hcompleted⟩ := h
  obtain ⟨t', ht', rfl, hle⟩ := hcompleted text htext
  obtain ⟨hvalid, hyear⟩ := hts t ht
  obtain ⟨hvalid', hyear'⟩ := hts t' ht'
  have htruncate : t.truncate.le t'.truncate :=
    Instant.truncate_le_truncate_iff.mpr (Instant.le_trans t.truncate_le hle)
  rw [hstarted]
  constructor
  · exact (Store.stored_le_iff_of_four_digits hvalid hvalid' hyear hyear').mpr htruncate
  · rw [Store.readInstant_of_four_digits hvalid hyear,
      Store.readInstant_of_four_digits hvalid' hyear']
    exact htruncate

-- =========================================================== agreement

/-- The times of a run agree with its standing. After every history, every row of a run
can be read, and in the row as in its record the time at which the run is to go on is set
exactly if it waits, the time of its end exactly if it is completed, failed or cancelled,
and its error exactly if it failed. And if the clock, where it was read for a row, has not
gone back and showed years of four digits, no run has ended before it was started. -/
theorem times_agree (e : Engine σ) (world : σ) (h : List (Occurrence σ)) :
    (∀ row ∈ (e.after h (.starting world)).store.runs, ∃ r, row.read = .ok r ∧
      Stands row r.status ∧ Dated r.status row.resumeAt row.completedAt row.error ∧
      Dated r.status r.resumeAt r.completedAt r.error) ∧
    ((e.stamps h (.starting world)).Pairwise Instant.le →
      (∀ t ∈ e.stamps h (.starting world),
        t.Valid ∧ 0 ≤ t.date.year ∧ t.date.year ≤ 9999) →
      ∀ row ∈ (e.after h (.starting world)).store.runs, ∀ r, row.read = .ok r →
        (∀ text, row.completedAt = some text → row.startedAt ≤ text) ∧
        ∀ t, r.completedAt = some t → r.startedAt.le t) := by
  have hsound := sound_after e world h
  have hfound {row : RunRow} (hrow : row ∈ (e.after h (.starting world)).store.runs) :
      ∃ run, (e.after h (.starting world)).store.runRow? run = some row := by
    obtain ⟨run, hid⟩ := Option.ne_none_iff_exists'.mp (hsound.named row hrow)
    exact ⟨run, hsound.runRow?_of_mem hrow hid⟩
  constructor
  · intro row hrow
    obtain ⟨run, hrun⟩ := hfound hrow
    obtain ⟨r, hread⟩ := RunRow.exists_read (hsound.named row hrow)
    exact ⟨r, hread, (dated_after e world h run row hrun).read hread⟩
  · intro hclock hyears row hrow r hread
    obtain ⟨run, hrun⟩ := hfound hrow
    have horder := inOrder_after e world h run hclock row hrun
    obtain ⟨hstarted, hcompleted, -⟩ := RunRow.read_times hread
    constructor
    · intro text htext
      exact (horder.le hyears htext).1
    · intro t ht
      rw [hcompleted, Option.map_eq_some_iff] at ht
      obtain ⟨text, htext, rfl⟩ := ht
      rw [hstarted]
      exact (horder.le hyears htext).2

-- ==================================================== a cancelled run

/-- A run is started, and cancelled a minute later. -/
def cancelledOnce : List (Occurrence Instant) :=
  [.operation (.create (Blueprint.new "once")),
    .outside ⟨0, 0⟩ ⟨1, 0, 0⟩, .operation (.start "w0" .null),
    .outside ⟨60, 0⟩ ⟨1, 1, 0⟩, .operation (.cancel "r0")]

/-- Its row has the end after the start. -/
theorem times_agree_cancelled :
    ∃ row ∈ (Engine.showing.after cancelledOnce (.starting .epoch)).store.runs,
      ∃ text, Stands row .cancelled ∧ row.completedAt = some text ∧ row.startedAt ≤ text := by
  obtain ⟨hagree, horder⟩ := times_agree Engine.showing .epoch cancelledOnce
  have hcancelled : RunStatus.cancelled.name ∈
      (Engine.showing.after cancelledOnce (.starting .epoch)).store.runs.map RunRow.status := by
    decide +kernel
  obtain ⟨row, hrow, hstatus⟩ := List.mem_map.mp hcancelled
  obtain ⟨r, hread, hstands, hdated, -⟩ := hagree row hrow
  rw [← Stands.unique hstatus hstands] at hdated
  obtain ⟨text, htext⟩ := Option.isSome_iff_exists.mp (hdated.completed.mpr (.inr (.inr rfl)))
  exact ⟨row, hrow, text, hstatus, htext,
    (horder (by decide +kernel) (by decide +kernel) row hrow r hread).1 text htext⟩

end DurableWorkflow
