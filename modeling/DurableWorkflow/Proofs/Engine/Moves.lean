/-
What each operation of an engine does to what is stored, in a sound store.

An operation either leaves every run alone (`Quiet`), or it moves one run: it
gives it a new row and adds marks to its trail (`Moved`). Lettings go on are many
moves at once, one for each run that is due.

Each operation has one lemma that says which of these happens, when, and what it
replies. Nothing after this file looks into an operation again.
-/
import DurableWorkflow.Proofs.Engine.History
import DurableWorkflow.Proofs.Store.Marks
import DurableWorkflow.Proofs.Store.Reading

namespace DurableWorkflow

open Time (Instant)
open Store (RunRow Mark Amended Sound)

variable {σ : Type}

-- ==================================================== stores compared

namespace Store

variable {s s' : Store} {id : String} {row : RunRow} {ms : List Mark}

/-- The second store says the same of every run as the first. -/
structure Quiet (s s' : Store) : Prop where
  rows : ∀ i, s'.runRow? i = s.runRow? i
  marks : ∀ i, s'.marks i = s.marks i
  sound : s'.Sound

/-- The second store has a new row and further marks for one run, and says the same
of every other. -/
structure Moved (s s' : Store) (id : String) (row : RunRow) (ms : List Mark) : Prop where
  row : s'.runRow? id = some row
  marks : s'.marks id = s.marks id ++ ms
  otherRows : ∀ i, i ≠ id → s'.runRow? i = s.runRow? i
  otherMarks : ∀ i, i ≠ id → s'.marks i = s.marks i
  workflows : s'.workflows = s.workflows
  sound : s'.Sound

theorem Quiet.refl (hs : s.Sound) : Quiet s s := ⟨fun _ => rfl, fun _ => rfl, hs⟩

/-- A new row is a move without marks. -/
theorem Amended.moved (h : Amended s s' id row) : Moved s s' id row [] where
  row := h.row
  marks := by rw [marks_congr h.trail, List.append_nil]
  otherRows := h.others
  otherMarks i _ := marks_congr h.trail i
  workflows := h.workflows
  sound := h.sound

/-- An entry about the run adds its mark to a move. -/
theorem Moved.append (h : Moved s s' id row ms) (workflow : String) (event : Event)
    (node : Option String) (details : String) (now : Instant) :
    Moved s (s'.append workflow (some id) event node details now).2 id row
      (ms ++ [.of event node]) where
  row := h.row
  marks := by rw [marks_append, if_pos rfl, h.marks, List.append_assoc]
  otherRows := h.otherRows
  otherMarks i hi := by
    rw [marks_append, if_neg (by simpa using Ne.symm hi), List.append_nil, h.otherMarks i hi]
  workflows := h.workflows
  sound := h.sound.append workflow (some id) event node details now

/-- An entry about a workflow says nothing of runs. -/
theorem Quiet.append (h : Quiet s s') (workflow : String) (event : Event)
    (node : Option String) (details : String) (now : Instant) :
    Quiet s (s'.append workflow none event node details now).2 where
  rows := h.rows
  marks i := by rw [marks_append, if_neg (by simp), List.append_nil, h.marks i]
  sound := h.sound.append workflow none event node details now

/-- Where runs and trail are the same, nothing else matters. -/
theorem Quiet.of_eq (hs : s.Sound) (hruns : s'.runs = s.runs) (htrail : s'.trail = s.trail)
    (hlast : s'.lastEntry = s.lastEntry) (hfrozen : s'.frozen = s.frozen) : Quiet s s' where
  rows i := by rw [runRow?, runRow?, hruns]
  marks i := marks_congr htrail i
  sound := ⟨by rw [hruns]; exact hs.named, by rw [hruns]; exact hs.unique,
    by rw [htrail]; exact hs.numbered, by rw [htrail, hlast]; exact hs.bounded,
    by rw [hfrozen]; exact hs.unfrozen⟩

end Store

open Store (Quiet Moved)

namespace Engine

variable (e : Engine σ) {s : EngineState σ}

-- ========================================================= workflows

/-- Making a workflow says nothing of runs. -/
theorem createWorkflow_quiet (hs : s.store.Sound) (b : Blueprint) :
    Quiet s.store (e.createWorkflow b s).2.store := by
  unfold createWorkflow
  split
  next => exact .refl hs
  next nodes used _ =>
    simp only [clock]
    split
    next => exact .refl hs
    next store hstore =>
      refine Quiet.append ?_ _ _ _ _ _
      unfold Store.insertWorkflow at hstore
      split at hstore
      next => cases hstore
      next =>
        injection hstore with hstore
        subst hstore
        exact .of_eq hs rfl rfl rfl rfl

/-- Revising a workflow says nothing of runs. -/
theorem reviseWorkflow_quiet (hs : s.store.Sound) (id : String) (u : Revision) :
    Quiet s.store (e.reviseWorkflow id u s).2.store := by
  unfold reviseWorkflow
  split
  next => exact .refl hs
  next u used _ =>
    simp only [clock]
    split
    next => exact .refl hs
    next store hstore =>
      refine Quiet.append ?_ _ _ _ _ _
      unfold Store.reviseWorkflow at hstore
      split at hstore
      next => cases hstore
      next =>
        obtain ⟨-, rfl⟩ := Prod.mk.inj hstore
        exact .of_eq hs rfl rfl rfl rfl

/-- Removing a workflow says nothing of runs. -/
theorem deleteWorkflow_quiet (hs : s.store.Sound) (id : String) :
    Quiet s.store (deleteWorkflow id s).2.store :=
  .of_eq hs rfl rfl rfl rfl

-- ========================================================== starting

/-- A run is started, with a new id and at the first node of its workflow, or
nothing is stored. -/
theorem startRun_moved (hs : s.store.Sound) (workflow : String) (trigger : Value) :
    (∃ (id : String) (w : Workflow),
        (e.startRun workflow trigger s).1 = .ok (some id) ∧
        s.store.runRow? id = none ∧
        s.store.workflow? workflow = .ok (some w) ∧ w.status.acceptsRuns = true ∧
        s.store.admits workflow w.maxRunsPerHour (e.clock s).1 = .ok true ∧
        Moved s.store (e.startRun workflow trigger s).2.store id
          (.of (firstState w id trigger (e.clock s).1)) [.of .runStarted none]) ∨
      ((∀ id, (e.startRun workflow trigger s).1 ≠ .ok (some id)) ∧
        (e.startRun workflow trigger s).2.store = s.store) := by
  unfold startRun
  cases hw : s.store.workflow? workflow with
  | error f => exact .inr ⟨by simp, rfl⟩
  | ok found =>
      cases found with
      | none => exact .inr ⟨by simp, rfl⟩
      | some w =>
          cases ha : w.status.acceptsRuns with
          | false => exact .inr ⟨by simp [ha], by simp [ha]⟩
          | true =>
              simp only [ha, if_true]
              rw [show (e.clock s).2.store = s.store from rfl]
              cases hg : s.store.admits workflow w.maxRunsPerHour (e.clock s).1 with
              | error f => exact .inr ⟨by simp, rfl⟩
              | ok allowed =>
                  cases allowed with
                  | false => exact .inr ⟨by simp, rfl⟩
                  | true =>
                      simp only
                      split
                      next f _ => exact .inr ⟨by simp, rfl⟩
                      next store hstore =>
                        obtain ⟨hnone, hnew⟩ := Store.amended_of_insertRun hs hstore
                        exact .inl ⟨_, w, rfl, hnone, rfl, ha, hg, hnew.moved.append _ _ _ _ _⟩

/-- A run is started if its workflow accepts it and its id is new. -/
theorem startRun_ok {workflow : String} {w : Workflow} {store : Store} (trigger : Value)
    (hfound : s.store.workflow? workflow = .ok (some w)) (haccepts : w.status.acceptsRuns = true)
    (hadmits : s.store.admits workflow w.maxRunsPerHour (e.clock s).1 = .ok true)
    (hinsert : s.store.insertRun (firstState w (e.ids.run s.issued.runs) trigger (e.clock s).1)
      = .ok store) :
    e.startRun workflow trigger s = (.ok (some (e.ids.run s.issued.runs)),
      e.note w.id (some (e.ids.run s.issued.runs)) .runStarted none ("Trigger: " ++ trigger.text)
        ⟨store, (e.clock s).2.world, { s.issued with runs := s.issued.runs + 1 }⟩) := by
  unfold startRun
  rw [hfound]
  simp only [haccepts, if_true]
  rw [show (e.clock s).2.store = s.store from rfl, hadmits]
  simp only
  rw [show (e.clock s).2.issued = s.issued from rfl, hinsert]
  rfl

-- ========================================================= executing

/-- A run can be executed exactly if its record and that of its workflow read back
intact, and it is running. -/
theorem executable_eq_ok_iff {s : Store} {id : String} {r : Run} {w : Workflow} :
    executable s id = .ok (r, w) ↔
      s.run? id = .ok (some r) ∧ r.unreadable = [] ∧ r.status = .running
        ∧ s.workflow? r.workflowId = .ok (some w) ∧ w.unreadable = [] := by
  constructor
  · intro h
    unfold executable at h
    cases hr : s.run? id with
    | error f => simp [hr, bind, Except.bind] at h
    | ok found =>
        cases found with
        | none => simp [hr, bind, Except.bind] at h
        | some r' =>
            simp only [hr, bind, Except.bind] at h
            cases hbad : r'.unreadable with
            | cons b bs => simp [hbad] at h
            | nil =>
                simp only [hbad, List.head?_nil] at h
                split at h
                next => cases h
                next hstatus =>
                  cases hw : s.workflow? r'.workflowId with
                  | error f => simp [hw] at h
                  | ok found =>
                      cases found with
                      | none => simp [hw] at h
                      | some w' =>
                          cases hbad' : w'.unreadable with
                          | cons b bs => simp [hw, hbad'] at h
                          | nil =>
                              simp only [hw, hbad', List.head?_nil] at h
                              injection h with h
                              obtain ⟨rfl, rfl⟩ := Prod.mk.inj h
                              exact ⟨rfl, hbad, by simpa using hstatus, hw, hbad'⟩
  · rintro ⟨hr, hbad, hstatus, hw, hbad'⟩
    simp [executable, hr, hbad, hstatus, hw, hbad', bind, Except.bind]

/-- A run after it was driven from where it stands, as it is stored. -/
def driven (e : Engine σ) (r : Run) (w : Workflow) (s : EngineState σ) : Run :=
  progressed r (e.driveRun r w s).1 (e.clock (e.driveRun r w s).2).1

/-- The mark of the end of an execution. -/
def haltMark : Graph.Halt → Mark
  | .suspended _ => .of .runWaiting none
  | .failed node _ => .of .runFailed (some node)
  | .completed | .budgetSpent | .nodeMissing _ => .of .runCompleted none

/-- The marks of an execution: one for each visit, in order, and one for its
end. -/
def executionMarks (o : Graph.Outcome) : List Mark :=
  (o.steps.map fun t => Mark.visit t.node) ++ [haltMark o.halt]

theorem progressed_id (r : Run) (o : Graph.Outcome) (now : Instant) :
    (progressed r o now).id = r.id := by
  unfold progressed
  split <;> rfl

/-- The steps of an execution add a mark for each visit. -/
theorem noteSteps_moved {store : Store} {id : String} {row : RunRow} (workflow : String)
    (steps : List Step) {ms : List Mark} (h : Moved store s.store id row ms) :
    Moved store (e.noteSteps workflow id steps s).store id row
      (ms ++ steps.map fun t => Mark.visit t.node) := by
  induction steps generalizing s ms with
  | nil =>
      rw [List.map_nil, List.append_nil]
      exact h
  | cons t steps ih =>
      have := ih (s := e.note workflow (some id) .stepExecuted (some t.node) (t.error.getD "") s)
        (h.append workflow .stepExecuted (some t.node) (t.error.getD "") (e.clock s).1)
      rw [List.append_assoc] at this
      exact this

/-- The end of an execution adds one mark. -/
theorem noteHalt_moved {store : Store} {id : String} {row : RunRow} {r : Run} (hid : r.id = id)
    (halt : Graph.Halt) {ms : List Mark} (h : Moved store s.store id row ms) :
    Moved store (e.noteHalt r halt s).store id row (ms ++ [haltMark halt]) := by
  subst hid
  cases halt <;> exact h.append _ _ _ _ _

/-- A run that can be executed is driven and stored, and the trail tells of every
visit and of the end; any other is refused. -/
theorem executeRun_moved (hs : s.store.Sound) (id : String) :
    (∃ (row : RunRow) (r : Run) (w : Workflow),
        s.store.runRow? id = some row ∧ executable s.store id = .ok (r, w) ∧
        (e.executeRun id s).1 = .ok (.ofRun (e.driven r w s)) ∧
        Moved s.store (e.executeRun id s).2.store id (row.save (e.driven r w s))
          (executionMarks (e.driveRun r w s).1)) ∨
      ∃ f, executable s.store id = .error f ∧ e.executeRun id s = (.error f, s) := by
  cases hx : executable s.store id with
  | error f => exact .inr ⟨f, rfl, by rw [executeRun, hx]⟩
  | ok found =>
      obtain ⟨r, w⟩ := found
      obtain ⟨row, hrow, hread⟩ := Store.run?_eq_some_iff.mp (executable_eq_ok_iff.mp hx).1
      have hid : r.id = id :=
        Option.some.inj ((RunRow.read_plain hread).1.symm.trans (Store.id_of_runRow? hrow))
      have hid' : (e.driven r w s).id = id := (progressed_id _ _ _).trans hid
      rw [← hid'] at hrow
      obtain ⟨store, hsave, hnew⟩ := Store.saveRun_of_row hs hrow
      have hexec : e.executeRun id s = (.ok (.ofRun (e.driven r w s)),
          e.noteHalt (e.driven r w s) (e.driveRun r w s).1.halt
            (e.noteSteps w.id (e.driven r w s).id (e.driveRun r w s).1.steps
              { (e.clock (e.driveRun r w s).2).2 with store := store })) := by
        rw [executeRun, hx]
        simp only
        rw [show (e.clock (e.driveRun r w s).2).2.store.saveRun
            (progressed r (e.driveRun r w s).1 (e.clock (e.driveRun r w s).2).1) = .ok store
          from hsave]
        rfl
      rw [hid'] at hrow hnew
      refine .inl ⟨row, r, w, hrow, rfl, by rw [hexec], ?_⟩
      rw [hexec, hid']
      have hsteps := e.noteSteps_moved w.id (e.driveRun r w s).1.steps
        (s := { (e.clock (e.driveRun r w s).2).2 with store := store }) hnew.moved
      rw [List.nil_append] at hsteps
      exact e.noteHalt_moved hid' _ hsteps

-- ======================================================== cancelling

/-- A run that is not over is cancelled; any other is left as it is. -/
theorem cancelRun_moved (hs : s.store.Sound) (id : String) :
    (∃ row, s.store.runRow? id = some row ∧ Store.openNames.contains row.status = true ∧
        (e.cancelRun id s).1 = .ok true ∧
        Moved s.store (e.cancelRun id s).2.store id (row.cancel (e.clock s).1)
          [.of .runCancelled none]) ∨
      ((∀ row, s.store.runRow? id = some row → Store.openNames.contains row.status = false) ∧
        (e.cancelRun id s).1 = .ok false ∧ (e.cancelRun id s).2.store = s.store) := by
  unfold cancelRun
  cases hrow : s.store.runRow? id with
  | none =>
      have hrun : s.store.run? id = .ok none := by rw [Store.run?, hrow]
      rw [hrun]
      exact .inr ⟨by simp, rfl, rfl⟩
  | some row =>
      obtain ⟨r, hread⟩ := RunRow.exists_read (hs.named row (Store.mem_of_runRow? hrow))
      rw [Store.run?_eq_some_iff.mpr ⟨row, hrow, hread⟩]
      cases ho : Store.openNames.contains row.status with
      | true =>
          obtain ⟨store, hcancel, hnew⟩ := Store.cancelRun_of_open hs (e.clock s).1 hrow ho
          refine .inl ⟨row, rfl, ho, ?_⟩
          simp only [show (e.clock s).2.store = s.store from rfl, hcancel]
          exact ⟨trivial, hnew.moved.append _ _ _ _ _⟩
      | false =>
          have hcancel : s.store.cancelRun id (e.clock s).1 = .ok (false, s.store) :=
            Store.cancelRun_of_closed hs (e.clock s).1
            (fun row' h => by rw [hrow] at h; injection h with h; exact h ▸ ho)
          refine .inr ⟨fun row' h => by injection h with h; exact h ▸ ho, ?_⟩
          simp only [show (e.clock s).2.store = s.store from rfl, hcancel]
          exact ⟨trivial, trivial⟩

-- ========================================================== resuming

/-- A run that waits goes on in its row, and an entry tells at which node it stands. -/
theorem resumeRun_eq (hs : s.store.Sound) {id : String} {row : RunRow}
    (hrow : s.store.runRow? id = some row) (hw : row.status = RunStatus.waiting.name) :
    ∃ store, s.store.resumeRun id = .ok (true, store) ∧ Amended s.store store id row.resume ∧
      e.resumeRun id s = (.ok true, e.note row.workflowId (some id) .runResumed
        (some row.currentNode) "" { s with store := store }) := by
  obtain ⟨store, hresume, hnew⟩ := Store.resumeRun_of_waiting hs hrow hw
  obtain ⟨r, hread⟩ := RunRow.exists_read
    (hnew.sound.named row.resume (Store.mem_of_runRow? hnew.row))
  obtain ⟨-, hworkflow, hnode, -⟩ := RunRow.read_plain hread
  refine ⟨store, hresume, hnew, ?_⟩
  unfold resumeRun
  simp only [hresume, Store.run?_eq_some_iff.mpr ⟨row.resume, hnew.row, hread⟩, hworkflow, hnode]
  rfl

/-- A run that waits goes on. -/
theorem resumeRun_moved (hs : s.store.Sound) {id : String} {row : RunRow}
    (hrow : s.store.runRow? id = some row) (hw : row.status = RunStatus.waiting.name) :
    (e.resumeRun id s).1 = .ok true ∧
      Moved s.store (e.resumeRun id s).2.store id row.resume
        [.of .runResumed (some row.currentNode)] := by
  obtain ⟨store, -, hnew, hresumed⟩ := e.resumeRun_eq hs hrow hw
  rw [hresumed]
  exact ⟨rfl, hnew.moved.append _ _ _ _ _⟩

/-- If the first run goes on, and the others do then, all do. -/
theorem resumeRuns_cons {id : String} {ids told : List String}
    (hfirst : (e.resumeRun id s).1 = .ok true)
    (hrest : (e.resumeRuns ids (e.resumeRun id s).2).1 = .ok told) :
    e.resumeRuns (id :: ids) s
      = (.ok (id :: told), (e.resumeRuns ids (e.resumeRun id s).2).2) := by
  rw [resumeRuns, ← Prod.eta (e.resumeRun id s), hfirst]
  simp only
  rw [← Prod.eta (e.resumeRuns ids (e.resumeRun id s).2), hrest]
  rfl

/-- What it means for a store that one run was let go on. -/
def Resumed (s s' : Store) (id : String) (row : RunRow) : Prop :=
  s.runRow? id = some row ∧ s'.runRow? id = some row.resume
    ∧ s'.marks id = s.marks id ++ [.of .runResumed (some row.currentNode)]

/-- Of different runs that wait, each one goes on, and no other run is
concerned. The induction is on the runs: letting the first one go on leaves the
others as they were. -/
theorem resumeRuns_moved (ids : List String) (hs : s.store.Sound) (hnodup : ids.Nodup)
    (hw : ∀ id ∈ ids, ∃ row, s.store.runRow? id = some row
      ∧ row.status = RunStatus.waiting.name) :
    (e.resumeRuns ids s).1 = .ok ids ∧ (e.resumeRuns ids s).2.store.Sound ∧
      (∀ id ∈ ids, ∃ row, Resumed s.store (e.resumeRuns ids s).2.store id row) ∧
      ∀ id, id ∉ ids → (e.resumeRuns ids s).2.store.runRow? id = s.store.runRow? id ∧
        (e.resumeRuns ids s).2.store.marks id = s.store.marks id := by
  induction ids generalizing s with
  | nil => exact ⟨rfl, hs, by simp, fun _ _ => ⟨rfl, rfl⟩⟩
  | cons id ids ih =>
      obtain ⟨hid, hnodup⟩ := List.nodup_cons.mp hnodup
      obtain ⟨row, hrow, hwait⟩ := hw id List.mem_cons_self
      obtain ⟨hreply, hmoved⟩ := e.resumeRun_moved hs hrow hwait
      have hrest : ∀ i ∈ ids, ∃ r, (e.resumeRun id s).2.store.runRow? i = some r
          ∧ r.status = RunStatus.waiting.name := by
        intro i hi
        rw [hmoved.otherRows i (fun h => hid (h ▸ hi))]
        exact hw i (List.mem_cons_of_mem id hi)
      obtain ⟨hreplies, hsound, hresumed, hothers⟩ := ih hmoved.sound hnodup hrest
      rw [e.resumeRuns_cons hreply hreplies]
      refine ⟨rfl, hsound, ?_, ?_⟩
      · intro i hi
        rcases List.mem_cons.mp hi with rfl | hi
        · obtain ⟨hsame, hmarks⟩ := hothers i hid
          exact ⟨row, hrow, hsame.trans hmoved.row, hmarks.trans hmoved.marks⟩
        · have hne : i ≠ id := fun h => hid (h ▸ hi)
          obtain ⟨r, hold, hnew, hmarks⟩ := hresumed i hi
          rw [hmoved.otherRows i hne] at hold
          rw [hmoved.otherMarks i hne] at hmarks
          exact ⟨r, hold, hnew, hmarks⟩
      · intro i hi
        obtain ⟨hsame, hmarks⟩ := hothers i (fun h => hi (List.mem_cons_of_mem id h))
        have hne : i ≠ id := fun h => hi (h ▸ List.mem_cons_self)
        exact ⟨hsame.trans (hmoved.otherRows i hne), hmarks.trans (hmoved.otherMarks i hne)⟩

/-- The ids of rows that all have one. -/
theorem readAll_idOf {rows : List RunRow} (h : ∀ r ∈ rows, r.id ≠ none) :
    ∃ ids, Store.readAll Store.idOf rows = .ok ids ∧ ids.map some = rows.map RunRow.id := by
  induction rows with
  | nil => exact ⟨[], rfl, rfl⟩
  | cons r rows ih =>
      obtain ⟨ids, hids, hmap⟩ := ih fun r' hr' => h r' (List.mem_cons_of_mem r hr')
      obtain ⟨id, hid⟩ := Option.ne_none_iff_exists'.mp (h r List.mem_cons_self)
      refine ⟨id :: ids, ?_, ?_⟩
      · rw [Store.readAll, hids, Store.idOf, hid]
        rfl
      · rw [List.map_cons, List.map_cons, hmap, hid]

/-- Rows that are due, those that are due longest first, and their ids. -/
structure DueRows (s : Store) (now : Instant) (rows : List RunRow) (ids : List String) : Prop where
  due : rows.Perm (s.runs.filter (Store.isDue now))
  ordered : rows.Pairwise fun a b => a.resumeAt.getD "" ≤ b.resumeAt.getD ""
  named : ids.map some = rows.map RunRow.id
  distinct : ids.Nodup

/-- In a sound store the rows that are due are found. -/
theorem exists_dueRows {s : Store} (hs : s.Sound) (now : Instant) :
    ∃ rows ids, s.dueRuns now = .ok ids ∧ DueRows s now rows ids := by
  unfold Store.dueRuns
  generalize hrows : ((s.runs.filter (Store.isDue now)).mergeSort _) = rows
  have hperm : rows.Perm (s.runs.filter (Store.isDue now)) :=
    hrows ▸ List.mergeSort_perm _ _
  have hordered : rows.Pairwise fun a b => a.resumeAt.getD "" ≤ b.resumeAt.getD "" := by
    rw [← hrows]
    refine (List.pairwise_mergeSort ?_ ?_ _).imp fun h => of_decide_eq_true h
    · intro a b c hab hbc
      exact decide_eq_true (String.le_trans (of_decide_eq_true hab) (of_decide_eq_true hbc))
    · intro a b
      simpa only [Bool.or_eq_true, decide_eq_true_eq] using String.le_total _ _
  obtain ⟨ids, hids, hmap⟩ := readAll_idOf fun r hr =>
    hs.named r (List.mem_filter.mp (hperm.mem_iff.mp hr)).1
  have hnodup : (rows.map RunRow.id).Nodup :=
    ((hperm.map RunRow.id).nodup_iff).mpr (hs.unique.sublist (List.filter_sublist.map _))
  rw [← hmap] at hnodup
  exact ⟨rows, ids, hids, hperm, hordered, hmap, hnodup.of_map⟩

/-- The runs that are due, in a sound store: those whose row is due, each once. -/
theorem dueRuns_of_sound {s : Store} (hs : s.Sound) (now : Instant) :
    ∃ ids, s.dueRuns now = .ok ids ∧ ids.Nodup ∧
      ∀ id, id ∈ ids ↔ ∃ row, s.runRow? id = some row ∧ Store.isDue now row = true := by
  obtain ⟨rows, ids, hids, hdue⟩ := exists_dueRows hs now
  refine ⟨ids, hids, hdue.distinct, ?_⟩
  have hmem : ∀ r, r ∈ rows ↔ r ∈ s.runs ∧ Store.isDue now r = true := fun r => by
    rw [hdue.due.mem_iff, List.mem_filter]
  intro id
  have hsome : id ∈ ids ↔ some id ∈ rows.map RunRow.id := by
    rw [← hdue.named]
    simp
  rw [hsome, List.mem_map]
  constructor
  · rintro ⟨row, hrow, hid⟩
    obtain ⟨hin, hisDue⟩ := (hmem row).mp hrow
    exact ⟨row, hs.runRow?_of_mem hin hid, hisDue⟩
  · rintro ⟨row, hrow, hisDue⟩
    exact ⟨row, (hmem row).mpr ⟨Store.mem_of_runRow? hrow, hisDue⟩, Store.id_of_runRow? hrow⟩

theorem status_of_isDue {now : Instant} {row : RunRow} (h : Store.isDue now row = true) :
    row.status = RunStatus.waiting.name :=
  (Store.isDue_iff.mp h).1

/-- The runs that are due by the clock are let go on. -/
theorem resumeDueRuns_eq {ids : List String} (h : s.store.dueRuns (e.clock s).1 = .ok ids) :
    e.resumeDueRuns s = e.resumeRuns ids (e.clock s).2 := by
  rw [resumeDueRuns]
  simp only [show (e.clock s).2.store = s.store from rfl, h]

/-- Every run goes on whose row is due at the time that the clock shows, and no
other run is concerned. -/
theorem resumeDueRuns_moved (hs : s.store.Sound) :
    ∃ ids, (e.resumeDueRuns s).1 = .ok ids ∧ (e.resumeDueRuns s).2.store.Sound ∧
      (∀ id, id ∈ ids ↔ ∃ row, s.store.runRow? id = some row
        ∧ Store.isDue (e.clock s).1 row = true) ∧
      (∀ id ∈ ids, ∃ row, Resumed s.store (e.resumeDueRuns s).2.store id row) ∧
      ∀ id, id ∉ ids → (e.resumeDueRuns s).2.store.runRow? id = s.store.runRow? id ∧
        (e.resumeDueRuns s).2.store.marks id = s.store.marks id := by
  obtain ⟨ids, hids, hnodup, hmem⟩ := dueRuns_of_sound hs (e.clock s).1
  have hwait : ∀ id ∈ ids, ∃ row, s.store.runRow? id = some row
      ∧ row.status = RunStatus.waiting.name := by
    intro id hid
    obtain ⟨row, hrow, hisDue⟩ := (hmem id).mp hid
    exact ⟨row, hrow, status_of_isDue hisDue⟩
  obtain ⟨hreply, hsound, hresumed, hothers⟩ :=
    e.resumeRuns_moved (s := (e.clock s).2) ids hs hnodup hwait
  rw [e.resumeDueRuns_eq hids]
  exact ⟨ids, hreply, hsound, hmem, hresumed, hothers⟩

end Engine

end DurableWorkflow
