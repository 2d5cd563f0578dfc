/-
What can become of one run in one operation. There are four turns that a run can
take: it is started, executed, made to go on, or cancelled. Each belongs to one
operation, and to a reply that names the run or is about it. In every other case
the row of the run and its marks stay as they are.

`Turn` says all that an operation can do to a run, guards included. What holds of
a run along histories is proved by cases on it; the induction is `after_of_turn`. On
the way every store is sound (`sound_after`).
-/
import DurableWorkflow.Proofs.Engine.Moves

namespace DurableWorkflow

open Time (Instant)
open Store (RunRow Mark Quiet)

variable {σ : Type}

-- ============================================================= turns

/-- Whether a reply to an operation tells that something became of a run. -/
def Reply.tells (run : String) : Operation → Except Failure Reply → Prop
  | .start _ _, .ok (.started id) => id = some run
  | .execute id, .ok (.executed _) => id = run
  | .cancel id, .ok (.changed b) => id = run ∧ b = true
  | .resumeDue, .ok (.resumed ids) => run ∈ ids
  | _, _ => False

/-- What becomes of a run in an operation, from a state on: with the operation and
its reply, the row of the run and its marks afterwards. -/
inductive Turn (e : Engine σ) (s : EngineState σ) (run : String) :
    Operation → Except Failure Reply → Option RunRow → List Mark → Prop
  /-- Nothing becomes of it. -/
  | rests {o : Operation} {reply : Except Failure Reply} (h : ¬ Reply.tells run o reply) :
    Turn e s run o reply (s.store.runRow? run) (s.store.marks run)
  /-- It is started. -/
  | starts {workflow : String} {trigger : Value} {w : Workflow}
    (hnew : s.store.runRow? run = none)
    (hworkflow : s.store.workflow? workflow = .ok (some w)) (haccepts : w.status.acceptsRuns = true)
    (hadmits : s.store.admits workflow w.maxRunsPerHour (e.clock s).1 = .ok true) :
    Turn e s run (.start workflow trigger) (.ok (.started (some run)))
      (some (.of (Engine.firstState w run trigger (e.clock s).1)))
      (s.store.marks run ++ [.of .runStarted none])
  /-- It is executed. -/
  | executes {row : RunRow} {r : Run} {w : Workflow} (hrow : s.store.runRow? run = some row)
    (hread : Engine.executable s.store run = .ok (r, w)) :
    Turn e s run (.execute run) (.ok (.executed (.ofRun (e.driven r w s))))
      (some (row.save (e.driven r w s)))
      (s.store.marks run ++ Engine.executionMarks (e.driveRun r w s).1)
  /-- It goes on. -/
  | resumes {row : RunRow} {runs : List String} (hrow : s.store.runRow? run = some row)
    (hdue : Store.isDue (e.clock s).1 row = true) (hmem : run ∈ runs) :
    Turn e s run .resumeDue (.ok (.resumed runs)) (some row.resume)
      (s.store.marks run ++ [.of .runResumed (some row.currentNode)])
  /-- It is cancelled. -/
  | cancels {row : RunRow} (hrow : s.store.runRow? run = some row)
    (hopen : Store.openNames.contains row.status = true) :
    Turn e s run (.cancel run) (.ok (.changed true)) (some (row.cancel (e.clock s).1))
      (s.store.marks run ++ [.of .runCancelled none])

variable {e : Engine σ} {s : EngineState σ} {run : String}

/-- Where nothing is said of any run, this one rests. -/
theorem Turn.of_quiet {s' : Store} (h : Quiet s.store s') {o : Operation}
    {reply : Except Failure Reply} (hreply : ¬ Reply.tells run o reply) :
    Turn e s run o reply (s'.runRow? run) (s'.marks run) := by
  rw [h.rows, h.marks]
  exact .rests hreply

-- ================================================ every operation is a turn

/-- Starting is a turn of every run: of the one that is started, if one is. -/
theorem turn_start (hs : s.store.Sound) (workflow : String) (trigger : Value) :
    (e.startRun workflow trigger s).2.store.Sound ∧
      Turn e s run (.start workflow trigger) ((e.startRun workflow trigger s).1.map .started)
        ((e.startRun workflow trigger s).2.store.runRow? run)
        ((e.startRun workflow trigger s).2.store.marks run) := by
  rcases e.startRun_moved hs workflow trigger with
    ⟨id, w, hreply, hnew, hw, ha, hg, hmoved⟩ | ⟨hreply, hstore⟩
  · refine ⟨hmoved.sound, ?_⟩
    rw [hreply]
    by_cases h : run = id
    · subst h
      rw [hmoved.row, hmoved.marks]
      exact .starts hnew hw ha hg
    · rw [hmoved.otherRows run h, hmoved.otherMarks run h]
      exact .rests (fun ht => h (Option.some.inj ht).symm)
  · rw [hstore]
    refine ⟨hs, .rests fun ht => ?_⟩
    cases hr : (e.startRun workflow trigger s).1 with
    | error f => rw [hr] at ht; exact ht
    | ok started =>
        rw [hr] at ht
        exact hreply run (hr.trans (congrArg _ ht))

/-- Executing is a turn of the run that is named. -/
theorem turn_execute (hs : s.store.Sound) (id : String) :
    (e.executeRun id s).2.store.Sound ∧
      Turn e s run (.execute id) ((e.executeRun id s).1.map .executed)
        ((e.executeRun id s).2.store.runRow? run) ((e.executeRun id s).2.store.marks run) := by
  rcases e.executeRun_moved hs id with ⟨row, r, w, hrow, hread, hreply, hmoved⟩ | ⟨f, -, hreply⟩
  · refine ⟨hmoved.sound, ?_⟩
    rw [hreply]
    by_cases h : run = id
    · subst h
      rw [hmoved.row, hmoved.marks]
      exact .executes hrow hread
    · rw [hmoved.otherRows run h, hmoved.otherMarks run h]
      exact .rests (fun ht => h ht.symm)
  · rw [hreply]
    exact ⟨hs, .rests (fun ht => ht)⟩

/-- Cancelling is a turn of the run that is named, if it is not over. -/
theorem turn_cancel (hs : s.store.Sound) (id : String) :
    (e.cancelRun id s).2.store.Sound ∧
      Turn e s run (.cancel id) ((e.cancelRun id s).1.map .changed)
        ((e.cancelRun id s).2.store.runRow? run) ((e.cancelRun id s).2.store.marks run) := by
  rcases e.cancelRun_moved hs id with ⟨row, hrow, hopen, hreply, hmoved⟩ | ⟨-, hreply, hstore⟩
  · refine ⟨hmoved.sound, ?_⟩
    rw [hreply]
    by_cases h : run = id
    · subst h
      rw [hmoved.row, hmoved.marks]
      exact .cancels hrow hopen
    · rw [hmoved.otherRows run h, hmoved.otherMarks run h]
      exact .rests (fun ht => h ht.1.symm)
  · rw [hreply, hstore]
    exact ⟨hs, .rests (fun ht => Bool.noConfusion ht.2)⟩

/-- Letting runs go on is a turn of every run that is due. -/
theorem turn_resumeDue (hs : s.store.Sound) :
    (e.resumeDueRuns s).2.store.Sound ∧
      Turn e s run .resumeDue ((e.resumeDueRuns s).1.map .resumed)
        ((e.resumeDueRuns s).2.store.runRow? run) ((e.resumeDueRuns s).2.store.marks run) := by
  obtain ⟨ids, hreply, hsound, hmem, hresumed, hothers⟩ := e.resumeDueRuns_moved hs
  refine ⟨hsound, ?_⟩
  rw [hreply]
  by_cases h : run ∈ ids
  · obtain ⟨row, hrow, hnew, hmarks⟩ := hresumed run h
    obtain ⟨row', hrow', hdue⟩ := (hmem run).mp h
    obtain rfl : row' = row := Option.some.inj (hrow'.symm.trans hrow)
    rw [hnew, hmarks]
    exact .resumes hrow hdue h
  · obtain ⟨hsame, hmarks⟩ := hothers run h
    rw [hsame, hmarks]
    exact .rests h

/-- Every operation keeps a sound store sound, and is a turn of every run. -/
theorem perform_turn (hs : s.store.Sound) (run : String) (o : Operation) :
    (e.perform o s).2.store.Sound ∧
      Turn e s run o (e.perform o s).1 ((e.perform o s).2.store.runRow? run)
        ((e.perform o s).2.store.marks run) := by
  cases o with
  | create b =>
      have h := e.createWorkflow_quiet hs b
      exact ⟨h.sound, .of_quiet h (fun ht => ht)⟩
  | revise id u =>
      have h := e.reviseWorkflow_quiet hs id u
      exact ⟨h.sound, .of_quiet h (fun ht => ht)⟩
  | activate id =>
      have h := e.reviseWorkflow_quiet hs id (.ofStatus .active)
      exact ⟨h.sound, .of_quiet h (fun ht => ht)⟩
  | pause id =>
      have h := e.reviseWorkflow_quiet hs id (.ofStatus .paused)
      exact ⟨h.sound, .of_quiet h (fun ht => ht)⟩
  | delete id =>
      have h := Engine.deleteWorkflow_quiet hs id
      exact ⟨h.sound, .of_quiet h (fun ht => ht)⟩
  | start workflow trigger => exact turn_start hs workflow trigger
  | execute id => exact turn_execute hs id
  | cancel id => exact turn_cancel hs id
  | resumeDue => exact turn_resumeDue hs
  | workflow id => exact ⟨hs, .rests (fun ht => ht)⟩
  | workflows status tag limit => exact ⟨hs, .rests (fun ht => ht)⟩
  | run id => exact ⟨hs, .rests (fun ht => ht)⟩
  | runs workflow status limit => exact ⟨hs, .rests (fun ht => ht)⟩
  | entries workflow run limit => exact ⟨hs, .rests (fun ht => ht)⟩
  | statistics workflow => exact ⟨hs, .rests (fun ht => ht)⟩

-- ========================================================= histories

/-- Every occurrence keeps a sound store sound. -/
theorem sound_next (hs : s.store.Sound) (x : Occurrence σ) : (e.next s x).store.Sound := by
  cases x with
  | operation o => exact (perform_turn hs "" o).1
  | outside world issued => exact hs

/-- After every history the store is sound. -/
theorem sound_after (e : Engine σ) (world : σ) (h : List (Occurrence σ)) :
    (e.after h (.starting world)).store.Sound :=
  e.after_of_next (P := fun s => s.store.Sound) (fun _ x hs => sound_next hs x) h
    Store.sound_empty

/-- What holds of a run that is not stored, and is kept by every turn, holds after every
history. -/
theorem after_of_turn (e : Engine σ) (world : σ) (h : List (Occurrence σ)) (run : String)
    {P : Option RunRow → List Mark → Prop} (hnone : P none [])
    (hturn : ∀ {s o reply row ms}, Turn e s run o reply row ms →
      P (s.store.runRow? run) (s.store.marks run) → P row ms) :
    P ((e.after h (.starting world)).store.runRow? run)
      ((e.after h (.starting world)).store.marks run) := by
  have hkeep : ∀ s x,
      s.store.Sound ∧ P (s.store.runRow? run) (s.store.marks run) →
      (e.next s x).store.Sound ∧
        P ((e.next s x).store.runRow? run) ((e.next s x).store.marks run) := by
    rintro s x ⟨hs, hrun⟩
    refine ⟨sound_next hs x, ?_⟩
    cases x with
    | operation o => exact hturn (perform_turn hs run o).2 hrun
    | outside world issued => exact hrun
  exact (e.after_of_next
    (P := fun s => s.store.Sound ∧ P (s.store.runRow? run) (s.store.marks run)) hkeep h
    (s := .starting world) ⟨Store.sound_empty, hnone⟩).2

end DurableWorkflow
