/-
What the trail tells about a run mirrors the run. Its marks are a chronicle: the
run was started, and then executed, made to go on and cancelled in an order that
the life cycle allows, with every execution told visit by visit and then by its
end. The last mark says how the run stands, and the visits are the steps of its
record.

The trail and the table of runs are written one after the other by every
operation, so each turn of a run has to keep both in step (`Turn.mirrors`). The
steps are written as text and read back before they are extended; that this keeps
their nodes is the one place where the text matters.
-/
import DurableWorkflow.Proofs.Engine.LifeCycle
import DurableWorkflow.Proofs.Store.Steps

namespace DurableWorkflow

open Store (RunRow Mark visited)

variable {σ : Type}

-- ======================================================== chronicles

/-- The last mark of an execution, and the standing that it tells. -/
inductive Concludes : Mark → RunStatus → Prop
  | completed : Concludes (.of .runCompleted none) .completed
  | waiting : Concludes (.of .runWaiting none) .waiting
  | failed (node : String) : Concludes (.of .runFailed (some node)) .failed

/-- What the marks of a run may be, and the standing that they lead to. -/
inductive Chronicle : List Mark → RunStatus → Prop
  /-- First it is started. -/
  | starts : Chronicle [.of .runStarted none] .running
  /-- An execution has a mark for each visit, in order, and one for its end. -/
  | executes {ms : List Mark} (h : Chronicle ms .running) (nodes : List String) {last : Mark}
    {t : RunStatus} (hlast : Concludes last t) :
    Chronicle (ms ++ (nodes.map Mark.visit ++ [last])) t
  /-- Between waiting and the next execution it goes on once. -/
  | resumes {ms : List Mark} (h : Chronicle ms .waiting) (node : String) :
    Chronicle (ms ++ [.of .runResumed (some node)]) .running
  /-- Once it is cancelled, nothing follows. -/
  | cancels {ms : List Mark} {t : RunStatus} (h : Chronicle ms t)
    (ht : t = .running ∨ t = .waiting) : Chronicle (ms ++ [.of .runCancelled none]) .cancelled

/-- The standing that an event leads to. -/
def Event.standing : Event → Option RunStatus
  | .runStarted => some .running
  | .runResumed => some .running
  | .runWaiting => some .waiting
  | .runCompleted => some .completed
  | .runFailed => some .failed
  | .runCancelled => some .cancelled
  | .stepExecuted => none
  | .workflowCreated => none
  | .workflowUpdated => none

/-- The standing that a mark tells. -/
def Store.Mark.standing (m : Mark) : Option RunStatus :=
  match Event.ofText m.event with
  | .ok e => e.standing
  | .error _ => none

theorem Concludes.standing {m : Mark} {t : RunStatus} (h : Concludes m t) :
    m.standing = some t := by
  cases h <;> rfl

/-- The last mark of a chronicle tells the standing that it leads to. -/
theorem Chronicle.last {ms : List Mark} {t : RunStatus} (h : Chronicle ms t) :
    ∃ before last, ms = before ++ [last] ∧ last.standing = some t := by
  cases h with
  | starts => exact ⟨[], _, rfl, rfl⟩
  | executes _ nodes hlast => exact ⟨_, _, (List.append_assoc _ _ _).symm, hlast.standing⟩
  | resumes _ node => exact ⟨_, _, rfl, rfl⟩
  | cancels _ _ => exact ⟨_, _, rfl, rfl⟩

theorem Chronicle.ne_pending {ms : List Mark} {t : RunStatus} (h : Chronicle ms t) :
    t ≠ .pending := by
  cases h with
  | starts => decide
  | executes _ _ hlast => cases hlast <;> decide
  | resumes _ _ => decide
  | cancels _ _ => decide

-- ======================================================== executions

/-- An execution ends in the standing that its last mark tells. -/
theorem concludes_haltMark (r : Run) (o : Graph.Outcome) (now : Time.Instant) :
    Concludes (Engine.haltMark o.halt) (Engine.progressed r o now).status := by
  unfold Engine.progressed Engine.haltMark
  cases o.halt with
  | completed => exact .completed
  | budgetSpent => exact .completed
  | nodeMissing node => exact .completed
  | suspended t => exact .waiting
  | failed node message => exact .failed node

/-- An execution adds its steps to those of the run. -/
theorem progressed_steps (r : Run) (o : Graph.Outcome) (now : Time.Instant) :
    (Engine.progressed r o now).steps = r.steps ++ o.steps := by
  unfold Engine.progressed
  split <;> rfl

/-- The visits that an execution tells are its steps. -/
theorem visited_executionMarks (o : Graph.Outcome) :
    visited (Engine.executionMarks o) = o.steps.map Step.node := by
  have hlast : visited [Engine.haltMark o.halt] = [] := by cases o.halt <;> rfl
  have hmap : o.steps.map (fun t => Mark.visit t.node)
      = (o.steps.map Step.node).map Mark.visit := by
    rw [List.map_map]
    rfl
  rw [Engine.executionMarks, Store.visited_append, hlast, List.append_nil, hmap,
    Store.visited_visits]

-- ========================================================== mirrors

/-- The marks of a run fit its row: it stands as they tell, and if its steps can be
read, they are the visits. -/
structure Told (row : RunRow) (ms : List Mark) (t : RunStatus) : Prop where
  stands : Stands row t
  chronicle : Chronicle ms t
  steps : ∀ steps, Decoder.ofText (Decoder.list Step.decode) row.steps = .ok steps →
    steps.map Step.node = visited ms

/-- The marks of a run mirror what is stored of it. -/
def Mirrors : Option RunRow → List Mark → Prop
  | none, ms => ms = []
  | some row, ms => ∃ t, Told row ms t

variable {e : Engine σ} {s : EngineState σ} {run : String}

/-- An execution tells the steps that it adds to those that the row has, which were
readable. -/
theorem Told.executes {row : RunRow} {ms : List Mark} {r : Run} {w : Workflow}
    (h : Told row ms .running) (hrow : s.store.runRow? run = some row)
    (hread : Engine.executable s.store run = .ok (r, w)) :
    Told (row.save (e.driven r w s)) (ms ++ Engine.executionMarks (e.driveRun r w s).1)
      (e.driven r w s).status := by
  obtain ⟨hrun, hintact, -⟩ := Engine.executable_eq_ok_iff.mp hread
  have hold : r.steps.map Step.node = visited ms :=
    h.steps r.steps (RunRow.read_intact (Store.read_of_run? hrow hrun) hintact).2.2.2.1
  refine ⟨rfl, ?_, fun steps hsteps => ?_⟩
  · have hmarks : Engine.executionMarks (e.driveRun r w s).1
        = ((e.driveRun r w s).1.steps.map Step.node).map Mark.visit
          ++ [Engine.haltMark (e.driveRun r w s).1.halt] := by
      rw [Engine.executionMarks, List.map_map]
      rfl
    rw [hmarks]
    exact .executes h.chronicle _ (concludes_haltMark _ _ _)
  · have hnodes := nodes_of_stepsText (e.driven r w s).steps hsteps
    rw [hnodes, Engine.driven, progressed_steps, List.map_append, hold, Store.visited_append,
      visited_executionMarks]

/-- Every turn of a run keeps its row and its marks in step. -/
theorem Turn.mirrors {o : Operation} {reply : Except Failure Reply} {after : Option RunRow}
    {ms : List Mark} (h : Turn e s run o reply after ms)
    (hs : Mirrors (s.store.runRow? run) (s.store.marks run)) : Mirrors after ms := by
  cases h with
  | rests _ => exact hs
  | starts hnew _ _ _ =>
      rw [hnew] at hs
      have hnil : s.store.marks run = [] := hs
      rw [hnil]
      exact ⟨.running, rfl, .starts, fun steps hsteps => nodes_of_stepsText [] hsteps⟩
  | executes hrow hread =>
      rw [hrow] at hs
      obtain ⟨t, ht⟩ := hs
      obtain rfl : t = .running := ht.stands.unique (stands_of_executable hrow hread)
      exact ⟨_, ht.executes hrow hread⟩
  | resumes hrow hdue _ =>
      rw [hrow] at hs
      obtain ⟨t, ht⟩ := hs
      obtain rfl : t = .waiting := ht.stands.unique (Engine.status_of_isDue hdue)
      refine ⟨.running, rfl, .resumes ht.chronicle _, fun steps hsteps => ?_⟩
      rw [ht.steps steps hsteps, Store.visited_append]
      exact (List.append_nil _).symm
  | cancels hrow hopen =>
      rw [hrow] at hs
      obtain ⟨t, ht⟩ := hs
      have hgoes : t = .running ∨ t = .waiting := by
        rcases stands_of_open hopen with h | h | h
        · exact absurd (ht.stands.unique h) ht.chronicle.ne_pending
        · exact .inl (ht.stands.unique h)
        · exact .inr (ht.stands.unique h)
      refine ⟨.cancelled, rfl, .cancels ht.chronicle hgoes, fun steps hsteps => ?_⟩
      rw [ht.steps steps hsteps, Store.visited_append]
      exact (List.append_nil _).symm

-- ========================================================= histories

/-- After every history the trail mirrors every run. -/
theorem mirrors_after (e : Engine σ) (world : σ) (h : List (Occurrence σ)) (run : String) :
    Mirrors ((e.after h (.starting world)).store.runRow? run)
      ((e.after h (.starting world)).store.marks run) := by
  apply after_of_turn e world h run
  · rfl
  · intro s o reply row ms hturn hmirrors
    exact hturn.mirrors hmirrors

/-- What a successful execution reports beyond the steps that the run had, the trail
tells visit by visit, and then by one mark for how it ended. -/
theorem executed_marks (hs : s.store.Sound) {report : Report}
    (h : (e.perform (.execute run) s).1 = .ok (.executed report)) :
    ∃ r new last, Engine.run? run s = .ok (some r) ∧ report.steps = r.steps ++ new ∧
      Concludes last report.status ∧
      (e.perform (.execute run) s).2.store.marks run
        = s.store.marks run ++ ((new.map fun t => Mark.visit t.node) ++ [last]) := by
  rcases e.executeRun_moved hs run with ⟨row, r, w, -, hread, hreply, hmoved⟩ | ⟨f, -, hreply⟩
  · have hreport : report = .ofRun (e.driven r w s) := by
      have hexec : (e.executeRun run s).1.map Reply.executed = .ok (.executed report) := h
      rw [hreply] at hexec
      injection hexec with hexec
      injection hexec with hexec
      exact hexec.symm
    subst hreport
    exact ⟨r, _, _, (Engine.executable_eq_ok_iff.mp hread).1, progressed_steps _ _ _,
      concludes_haltMark _ _ _, hmoved.marks⟩
  · have hexec : (e.executeRun run s).1.map Reply.executed = .ok (.executed report) := h
    rw [hreply] at hexec
    cases hexec

/-- The trail mirrors the run. After every history: the entries are in the order of
their numbers. What the next operation does to a run and to its marks is one turn,
and if it executes the run, then it adds a mark for each new step and one for the
end. A run that is not stored has no marks. The marks of one that is are a
chronicle that leads to its standing, the last of them tells that standing, and
the visits are the steps of the record, if that reads back intact. -/
theorem trail_mirrors_runs (e : Engine σ) (world : σ) (h : List (Occurrence σ)) (run : String) :
    (e.after h (.starting world)).store.trail.Pairwise (fun a b => a.id < b.id) ∧
    (∀ o, Turn e (e.after h (.starting world)) run o
      (e.perform o (e.after h (.starting world))).1
      ((e.perform o (e.after h (.starting world))).2.store.runRow? run)
      ((e.perform o (e.after h (.starting world))).2.store.marks run)) ∧
    (∀ report,
      (e.perform (.execute run) (e.after h (.starting world))).1 = .ok (.executed report) →
      ∃ r new last, Engine.run? run (e.after h (.starting world)) = .ok (some r) ∧
        report.steps = r.steps ++ new ∧ Concludes last report.status ∧
        (e.perform (.execute run) (e.after h (.starting world))).2.store.marks run
          = (e.after h (.starting world)).store.marks run
            ++ ((new.map fun t => Mark.visit t.node) ++ [last])) ∧
    ((e.after h (.starting world)).store.runRow? run = none →
      (e.after h (.starting world)).store.marks run = []) ∧
    ∀ row, (e.after h (.starting world)).store.runRow? run = some row →
      ∃ t, Stands row t ∧ Chronicle ((e.after h (.starting world)).store.marks run) t ∧
        (∃ before last, (e.after h (.starting world)).store.marks run = before ++ [last] ∧
          last.standing = some t) ∧
        ∀ r, Engine.run? run (e.after h (.starting world)) = .ok (some r) → r.isIntact = true →
          r.steps.map Step.node = visited ((e.after h (.starting world)).store.marks run) := by
  have hsound := sound_after e world h
  have hmirrors := mirrors_after e world h run
  generalize e.after h (.starting world) = s at hsound hmirrors
  refine ⟨hsound.numbered, fun o => (perform_turn hsound run o).2,
    fun report hreport => executed_marks hsound hreport, fun hrow => ?_, fun row hrow => ?_⟩
  · rw [hrow] at hmirrors
    exact hmirrors
  · rw [hrow] at hmirrors
    obtain ⟨t, ht⟩ := hmirrors
    refine ⟨t, ht.stands, ht.chronicle, ht.chronicle.last, fun r hr hintact => ?_⟩
    have hread := Store.read_of_run? hrow hr
    have hempty : r.unreadable = [] := by simpa [Run.isIntact] using hintact
    exact ht.steps r.steps (RunRow.read_intact hread hempty).2.2.2.1

end DurableWorkflow
