/-
Operations touch only what they are meant for. An operation is meant for the workflow or
the run that it names, or, where it names none, for those that its reply tells of. Every
other row is afterwards the same, whatever is stored, and the trail has at most later
entries (`Store.Framed`).

So executions of two runs have nothing to do with each other, as long as nothing moves in
the surroundings: each finds its own row, the workflows and the world as they were, and the
order does not matter. What an execution writes is told here as a change of each row by
itself (`Engine.resaved`), and two such changes commute because each leaves the rows of
the other alone and keeps the ids.
-/
import DurableWorkflow.Proofs.Store.Frames
import DurableWorkflow.Proofs.Graph.Still
import DurableWorkflow.Proofs.Engine.Reports

namespace DurableWorkflow

open Store (RunRow WorkflowRow Framed)

variable {σ : Type}

-- ============================================================= targets

namespace Operation

/-- The workflows that an operation is meant for. -/
def workflowsMeant : Operation → Except Failure Reply → List String
  | .create _, .ok (.made w) => [w.id]
  | .revise id _, _ | .activate id, _ | .pause id, _ | .delete id, _ => [id]
  | _, _ => []

/-- The runs that an operation is meant for. -/
def runsMeant : Operation → Except Failure Reply → List String
  | .start _ _, .ok (.started (some id)) => [id]
  | .execute id, _ | .cancel id, _ => [id]
  | .resumeDue, .ok (.resumed ids) => ids
  | _, _ => []

/-- Whether an operation is about workflows. -/
def isOfWorkflows : Operation → Bool
  | .create _ | .revise _ _ | .activate _ | .pause _ | .delete _ => true
  | _ => false

/-- Whether an operation is about runs. -/
def isOfRuns : Operation → Bool
  | .start _ _ | .execute _ | .cancel _ | .resumeDue => true
  | _ => false

/-- An operation about runs is meant for no workflow. -/
theorem workflowsMeant_of_isOfRuns {o : Operation} (ho : o.isOfRuns = true)
    (reply : Except Failure Reply) : o.workflowsMeant reply = [] := by
  cases o <;> first | rfl | cases ho

/-- An operation about workflows is meant for no run. -/
theorem runsMeant_of_isOfWorkflows {o : Operation} (ho : o.isOfWorkflows = true)
    (reply : Except Failure Reply) : o.runsMeant reply = [] := by
  cases o <;> first | rfl | cases ho

/-- A revision is meant for its workflow, and for no run. -/
theorem meant_of_revision? {o : Operation} {id : String} {u : Revision}
    (ho : o.revision? = some (id, u)) (reply : Except Failure Reply) :
    o.workflowsMeant reply = [id] ∧ o.runsMeant reply = [] := by
  cases o with
  | revise _ _ | activate _ | pause _ => cases ho; exact ⟨rfl, rfl⟩
  | _ => cases ho

end Operation

namespace Engine

/-- A run that can be executed has a row, which has its id. -/
theorem row_of_executable {store : Store} {id : String} {r : Run} {w : Workflow}
    (h : executable store id = .ok (r, w)) : r.id = id ∧ (store.runRow? id).isSome = true := by
  obtain ⟨hrun, -⟩ := executable_eq_ok_iff.mp h
  obtain ⟨row, hrow, hread⟩ := Store.run?_eq_some_iff.mp hrun
  have hid := (RunRow.read_plain hread).1
  rw [Store.id_of_runRow? hrow] at hid
  exact ⟨(Option.some.inj hid).symm, by rw [hrow]; rfl⟩

end Engine

/-- What an operation does is framed by what it is meant for. -/
theorem Effect.framed {e : Engine σ} {s s' : EngineState σ} {o : Operation}
    {reply : Except Failure Reply} (h : Effect e s o reply s') :
    Framed (o.workflowsMeant reply) (o.runsMeant reply) s.store s'.store := by
  cases h with
  | rests n _ => exact .refl _ _ _
  | breaks _ => exact .refl _ _ _
  | makes _ hinsert hnoted =>
      exact (Store.framed_insertWorkflow hinsert).trans (hnoted.framed _ _)
  | @revises _ id u u' _ store _ ho _ hrevise hnoted =>
      have hframed := Store.framed_reviseWorkflow s.store id u' (e.clock s).1
      rw [hrevise] at hframed
      obtain ⟨hworkflows, hruns⟩ := Operation.meant_of_revision? ho (.ok (.changed true))
      rw [hworkflows, hruns]
      exact hframed.trans (hnoted.framed _ _)
  | removes _ => exact Store.framed_deleteWorkflow _ _
  | starts _ _ _ hinsert hnoted => exact (Store.framed_insertRun hinsert).trans (hnoted.framed _ _)
  | @executes id r w store _ hread hsave hnoted =>
      have hid : (e.driven r w s).id = id :=
        (Engine.progressed_id _ _ _).trans (Engine.row_of_executable hread).1
      have hframed := Store.framed_saveRun hsave
      rw [hid] at hframed
      exact hframed.trans (hnoted.framed _ _)
  | cancels hcancel hnoted => exact (Store.framed_cancelRun hcancel).trans (hnoted.framed _ _)
  | resumes _ h => exact h.framed

namespace Engine

variable (e : Engine σ) {o : Operation}

/-- Operations about runs change no workflow. -/
theorem workflows_of_isOfRuns (ho : o.isOfRuns = true) (s : EngineState σ) :
    (e.perform o s).2.store.workflows = s.store.workflows := by
  have hframed := (e.perform_effect s o).framed
  rw [Operation.workflowsMeant_of_isOfRuns ho] at hframed
  exact hframed.workflows_eq

/-- Operations about workflows change no run. -/
theorem runs_of_isOfWorkflows (ho : o.isOfWorkflows = true) (s : EngineState σ) :
    (e.perform o s).2.store.runs = s.store.runs := by
  have hframed := (e.perform_effect s o).framed
  rw [Operation.runsMeant_of_isOfWorkflows ho] at hframed
  exact hframed.runs_eq

end Engine

-- ========================================== two runs, one after another

/-- A run that has a row is saved unless the store is frozen. -/
theorem Store.saveRun_eq {s : Store} {r : Run} (h : (s.runRow? r.id).isSome = true) :
    s.saveRun r = if s.frozen then .error (.database .frozen) else
      .ok { s with runs := s.runs.map fun row =>
        if row.id = some r.id then row.save r else row } := by
  have hany : (s.runs.any fun row => row.id = some r.id) = true := by
    obtain ⟨row, hrow⟩ := Option.isSome_iff_exists.mp h
    apply List.any_eq_true.mpr
    exact ⟨row, Store.mem_of_runRow? hrow, by simpa using Store.id_of_runRow? hrow⟩
  unfold Store.saveRun Store.changeRuns
  rw [hany]
  cases s.frozen with
  | true => rfl
  | false => simp [bind, Except.bind]

namespace Engine

/-- What an execution of a run makes of a row. -/
def resaved (e : Engine σ) (id : String) (s : EngineState σ) (row : RunRow) : RunRow :=
  match executable s.store id with
  | .error _ => row
  | .ok (r, w) =>
    if s.store.frozen then row
    else if row.id = some id then row.save (e.driven r w s) else row

theorem resaved_id (e : Engine σ) (id : String) (s : EngineState σ) (row : RunRow) :
    (e.resaved id s row).id = row.id := by
  unfold resaved
  cases executable s.store id with
  | error f => rfl
  | ok found =>
      simp only
      split
      next => rfl
      next =>
        split
        next => rfl
        next => rfl

theorem resaved_of_ne (e : Engine σ) {id : String} (s : EngineState σ) {row : RunRow}
    (h : row.id ≠ some id) : e.resaved id s row = row := by
  unfold resaved
  cases executable s.store id with
  | error f => rfl
  | ok found => simp [h]

/-- Changes of the rows of two runs can be made in either order. -/
theorem resaved_comm (e : Engine σ) {a b : String} (hne : a ≠ b) (s t : EngineState σ)
    (row : RunRow) :
    e.resaved b t (e.resaved a s row) = e.resaved a s (e.resaved b t row) := by
  by_cases ha : row.id = some a
  · have hb : row.id ≠ some b := by
      rw [ha]
      exact fun h => hne (Option.some.inj h)
    rw [e.resaved_of_ne t hb]
    apply e.resaved_of_ne t
    rwa [resaved_id]
  · rw [e.resaved_of_ne s ha]
    symm
    apply e.resaved_of_ne s
    rwa [resaved_id]

/-- Two states that are the same for the execution of a run: its row, the workflows and the
world are the same, and both stores are frozen or neither. -/
structure Alike (id : String) (s t : EngineState σ) : Prop where
  row : t.store.runRow? id = s.store.runRow? id
  workflows : t.store.workflows = s.store.workflows
  frozen : t.store.frozen = s.store.frozen
  world : t.world = s.world

variable {e : Engine σ} {id : String} {s t : EngineState σ}

theorem Alike.executable (h : Alike id s t) : executable t.store id = executable s.store id := by
  have hrun : t.store.run? id = s.store.run? id := by
    unfold Store.run?
    rw [h.row]
  have hworkflow (workflow : String) : t.store.workflow? workflow = s.store.workflow? workflow := by
    unfold Store.workflow? Store.workflowRow?
    rw [h.workflows]
  unfold Engine.executable
  simp only [hrun, hworkflow]

theorem Alike.driven (h : Alike id s t) (r : Run) (w : Workflow) :
    e.driven r w t = e.driven r w s := by
  unfold Engine.driven driveRun clock
  simp only [h.world]

theorem Alike.resaved (h : Alike id s t) : e.resaved id t = e.resaved id s := by
  funext row
  unfold Engine.resaved
  simp only [h.executable, h.frozen, h.driven]

/-- What an execution of a run makes of the rows, row by row, and what it replies. -/
theorem executeRun_eq (e : Engine σ) (id : String) (s : EngineState σ) :
    (e.executeRun id s).2.store.runs = s.store.runs.map (e.resaved id s) ∧
      (e.executeRun id s).2.store.frozen = s.store.frozen ∧
      (e.executeRun id s).1 = match executable s.store id with
        | .error f => .error f
        | .ok (r, w) =>
          if s.store.frozen then .error (.database .frozen) else .ok (.ofRun (e.driven r w s)) := by
  cases hread : executable s.store id with
  | error f =>
      have hresaved : e.resaved id s = fun row => row := by
        funext row
        simp only [Engine.resaved, hread]
      rw [e.executeRun_refused hread, hresaved]
      exact ⟨(List.map_id' _).symm, rfl, rfl⟩
  | ok found =>
      obtain ⟨r, w⟩ := found
      obtain ⟨hid, hrow⟩ := row_of_executable hread
      have hdriven : (e.driven r w s).id = id := (progressed_id _ _ _).trans hid
      have hsave := Store.saveRun_eq (r := e.driven r w s) (by rw [hdriven]; exact hrow)
      rw [hdriven] at hsave
      cases hfrozen : s.store.frozen with
      | true =>
          rw [hfrozen, if_pos rfl] at hsave
          have hresaved : e.resaved id s = fun row => row := by
            funext row
            simp only [Engine.resaved, hread, hfrozen, if_true]
          obtain ⟨world, hrun⟩ := e.executeRun_unsaved hread hsave
          rw [hrun, hresaved]
          exact ⟨(List.map_id' _).symm, hfrozen, rfl⟩
      | false =>
          rw [hfrozen, if_neg Bool.false_ne_true] at hsave
          have hresaved : e.resaved id s = fun row =>
              if row.id = some id then row.save (e.driven r w s) else row := by
            funext row
            simp only [Engine.resaved, hread, hfrozen, Bool.false_eq_true, if_false]
          obtain ⟨hreply, hnoted⟩ := e.executeRun_saved hread hsave
          rw [hreply, hnoted.runs, hnoted.frozen, hresaved]
          exact ⟨rfl, rfl, rfl⟩

theorem Alike.answer (h : Alike id s t) : (e.executeRun id t).1 = (e.executeRun id s).1 := by
  rw [(executeRun_eq e id t).2.2, (executeRun_eq e id s).2.2]
  simp only [h.executable, h.frozen, h.driven]

-- ====================================================== nothing moves

/-- Where nothing moves, writing into the trail leaves the world as it was. -/
theorem note_world (hstill : e.toSurroundings.Still) (workflow : String) (run : Option String)
    (event : Event) (node : Option String) (details : String) (s : EngineState σ) :
    (e.note workflow run event node details s).world = s.world :=
  hstill.clock s.world

theorem noteSteps_world (hstill : e.toSurroundings.Still) (workflow run : String)
    (steps : List Step) (s : EngineState σ) :
    (e.noteSteps workflow run steps s).world = s.world := by
  induction steps generalizing s with
  | nil => rfl
  | cons t steps ih =>
      apply (ih _).trans
      exact note_world hstill _ _ _ _ _ s

theorem noteHalt_world (hstill : e.toSurroundings.Still) (r : Run) (halt : Graph.Halt)
    (s : EngineState σ) : (e.noteHalt r halt s).world = s.world := by
  cases halt <;> exact note_world hstill _ _ _ _ _ s

/-- So does an execution. -/
theorem executeRun_world (hstill : e.toSurroundings.Still) (id : String) (s : EngineState σ) :
    (e.executeRun id s).2.world = s.world := by
  have hdrive (r : Run) (w : Workflow) : (e.clock (e.driveRun r w s).2).2.world = s.world :=
    (hstill.clock _).trans (hstill.drive _ _ _ _)
  unfold executeRun
  split
  next => rfl
  next r w _ =>
    simp only
    split
    next => exact hdrive r w
    next =>
      rw [noteHalt_world hstill, noteSteps_world hstill]
      exact hdrive r w

/-- An execution of another run leaves a state that is the same for a run. -/
theorem alike_executeRun (hstill : e.toSurroundings.Still) {a b : String} (hne : a ≠ b)
    (s : EngineState σ) : Alike b s (e.executeRun a s).2 := by
  have hframed : Framed [] [a] s.store (e.executeRun a s).2.store :=
    (e.executeRun_effect s a).framed
  refine ⟨?_, hframed.workflows_eq, (executeRun_eq e a s).2.1, executeRun_world hstill a s⟩
  apply hframed.runRow?
  intro hmem
  exact hne (List.mem_singleton.mp hmem).symm

/-- After two executions every row is what the one and then the other makes of it. -/
theorem runs_executeRun_twice (hstill : e.toSurroundings.Still) {a b : String} (hne : a ≠ b)
    (s : EngineState σ) : (e.executeRun b (e.executeRun a s).2).2.store.runs
      = s.store.runs.map fun row => e.resaved b s (e.resaved a s row) := by
  rw [(executeRun_eq e b _).1, (alike_executeRun hstill hne s).resaved, (executeRun_eq e a s).1,
    List.map_map]
  rfl

end Engine

-- ========================================================= all operations

/-- Every operation leaves alone all workflows and runs but those that it is meant for, and
adds later entries to the trail at most. An operation about runs changes no workflow, and one
about workflows no run. Where nothing moves in the surroundings, two runs can be executed in
either order: the tables of runs and workflows are the same afterwards, and each execution
replies what it would have replied alone. -/
theorem only_targets_change (e : Engine σ) :
    (∀ (o : Operation) (s : EngineState σ),
      Framed (o.workflowsMeant (e.perform o s).1) (o.runsMeant (e.perform o s).1) s.store
        (e.perform o s).2.store ∧
      (o.isOfRuns = true → (e.perform o s).2.store.workflows = s.store.workflows) ∧
      (o.isOfWorkflows = true → (e.perform o s).2.store.runs = s.store.runs)) ∧
    (e.toSurroundings.Still → ∀ (a b : String) (s : EngineState σ), a ≠ b →
      (e.executeRun b (e.executeRun a s).2).2.store.runs
        = (e.executeRun a (e.executeRun b s).2).2.store.runs ∧
      (e.executeRun b (e.executeRun a s).2).2.store.workflows
        = (e.executeRun a (e.executeRun b s).2).2.store.workflows ∧
      (e.executeRun b (e.executeRun a s).2).1 = (e.executeRun b s).1 ∧
      (e.executeRun a (e.executeRun b s).2).1 = (e.executeRun a s).1) := by
  constructor
  · intro o s
    refine ⟨(e.perform_effect s o).framed, ?_, ?_⟩
    · intro ho
      exact e.workflows_of_isOfRuns ho s
    · intro ho
      exact e.runs_of_isOfWorkflows ho s
  · intro hstill a b s hne
    have hab := Engine.alike_executeRun hstill hne s
    have hba := Engine.alike_executeRun hstill hne.symm s
    refine ⟨?_, ?_, hab.answer, hba.answer⟩
    · rw [Engine.runs_executeRun_twice hstill hne, Engine.runs_executeRun_twice hstill hne.symm]
      apply List.map_congr_left
      intro row _
      exact e.resaved_comm hne s s row
    · have hlast (i : String) (t : EngineState σ) :
          (e.executeRun i t).2.store.workflows = t.store.workflows :=
        e.workflows_of_isOfRuns (o := .execute i) rfl t
      rw [hlast, hlast, hlast, hlast]

-- ======================================================== two actions

/-- The handlers of the engine itself have no state of their own. -/
theorem Registry.standard_still {kind : ActionKind} {h : Handler σ}
    (hk : Registry.standard kind = some h) (config : Dict Value) (context : Context) (world : σ) :
    (h config context world).2 = world := by
  cases kind with
  | log =>
      obtain rfl := Option.some.inj hk
      rfl
  | updateVar =>
      obtain rfl := Option.some.inj hk
      rfl
  | _ => cases hk

/-- An engine with these handlers and a clock that stands still. -/
theorem Engine.still_timeless : (Engine.timeless .standard).toSurroundings.Still :=
  ⟨fun _ => rfl, fun hk => Registry.standard_still hk⟩

/-- Two runs of a workflow that sets a variable were started. -/
def startedTwice : EngineState Unit :=
  (Engine.timeless .standard).after
    [.operation (.create ((Blueprint.new "two").withNodes
      [.action "set" ActionKind.updateVar.name (.object [("variable", .string "x")])])),
      .operation (.start "w0" .null), .operation (.start "w0" (.bool true))] (.starting ())

/-- Both are completed, in either order. -/
theorem only_targets_change_twice :
    ((Engine.timeless .standard).executeRun "r0"
      ((Engine.timeless .standard).executeRun "r1" startedTwice).2).2.store.runs.map
        RunRow.status = ["completed", "completed"] := by
  have hruns := ((only_targets_change (Engine.timeless .standard)).2 Engine.still_timeless
    "r0" "r1" startedTwice (by decide)).1
  rw [← hruns]
  decide +kernel

end DurableWorkflow
