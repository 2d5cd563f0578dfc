/-
What each operation of an engine does to what is stored, whatever is stored: rows that
cannot be read, rows without an id and a trail in any order included.

An operation writes one row, and notes that in the trail; or it writes nothing. Letting
runs go on is the exception: it writes one row after another (`Resumptions`). `Effect`
has one constructor for each way in which an operation can end, with its guard, the write
as the store performs it, and the reply. So what holds of every operation is proved by
cases on `Effect`, from what holds of the writes; nothing after this file looks into an
operation again.

Unlike `Turn`, which tells what becomes of one run in a sound store, this is about the
whole store and asks nothing of it. A store that is frozen refuses to save a run that was
driven already; it is the one case in which handlers were at work and nothing came of it
(`Effect.breaks`).
-/
import DurableWorkflow.Proofs.Engine.Moves

namespace DurableWorkflow

open Time (Instant)
open Store (RunRow EntryRow)

variable {σ : Type}

-- ============================================================= trail

namespace Store

variable {s s' s'' : Store}

/-- Entries that have greater numbers than all that there are, and than all that there
were, in ascending order. -/
structure Later (s : Store) (new : List EntryRow) : Prop where
  ordered : new.Pairwise fun a b => a.id < b.id
  given : ∀ r ∈ new, s.lastEntry < r.id
  present : ∀ r ∈ new, ∀ old ∈ s.trail, old.id < r.id

/-- The trail of the second store is that of the first with later entries. -/
structure Extends (s s' : Store) : Prop where
  last : s.lastEntry ≤ s'.lastEntry
  trail : ∃ new, s'.trail = s.trail ++ new ∧ s.Later new

/-- The second store has later entries in its trail; nothing else is different. -/
structure Noted (s s' : Store) : Prop extends Extends s s' where
  workflows : s'.workflows = s.workflows
  runs : s'.runs = s.runs
  frozen : s'.frozen = s.frozen

theorem later_nil (s : Store) : s.Later [] := ⟨.nil, by simp, by simp⟩

/-- Where the trail is the same, nothing was added to it. -/
theorem Extends.of_eq (htrail : s'.trail = s.trail) (hlast : s'.lastEntry = s.lastEntry) :
    Extends s s' :=
  ⟨Int.le_of_eq hlast.symm, [], htrail.trans (List.append_nil _).symm, later_nil s⟩

theorem Noted.refl (s : Store) : Noted s s := ⟨.of_eq rfl rfl, rfl, rfl, rfl⟩

/-- What comes later than a trail and what was added to it comes later than the trail. -/
theorem Extends.trans (h : Extends s s') (h' : Extends s' s'') : Extends s s'' := by
  obtain ⟨hlast, new, htrail, hnew⟩ := h
  obtain ⟨hlast', more, htrail', hmore⟩ := h'
  refine ⟨Int.le_trans hlast hlast', new ++ more, ?_, ?_, ?_, ?_⟩
  · rw [htrail', htrail, List.append_assoc]
  · apply List.pairwise_append.mpr
    refine ⟨hnew.ordered, hmore.ordered, ?_⟩
    intro a ha b hb
    apply hmore.present b hb
    rw [htrail]
    exact List.mem_append_right _ ha
  · intro r hr
    rcases List.mem_append.mp hr with hr | hr
    · exact hnew.given r hr
    · exact Int.lt_of_le_of_lt hlast (hmore.given r hr)
  · intro r hr old hold
    rcases List.mem_append.mp hr with hr | hr
    · exact hnew.present r hr old hold
    · apply hmore.present r hr
      rw [htrail]
      exact List.mem_append_left _ hold

theorem Noted.trans (h : Noted s s') (h' : Noted s' s'') : Noted s s'' :=
  ⟨h.toExtends.trans h'.toExtends, h'.workflows.trans h.workflows, h'.runs.trans h.runs,
    h'.frozen.trans h.frozen⟩

/-- The number of the next entry is greater than all in the trail. -/
theorem id_lt_nextEntry (s : Store) {r : EntryRow} (hr : r ∈ s.trail) : r.id < s.nextEntry := by
  suffices key : ∀ (rows : List EntryRow) (n : Int), n ≤ rows.foldl (fun n r => max n r.id) n ∧
      ∀ r ∈ rows, r.id ≤ rows.foldl (fun n r => max n r.id) n by
    have := (key s.trail s.lastEntry).2 r hr
    unfold nextEntry
    omega
  intro rows
  induction rows with
  | nil => simp
  | cons old rows ih =>
      intro n
      obtain ⟨hle, hall⟩ := ih (max n old.id)
      rw [List.foldl_cons]
      constructor
      · omega
      · intro r hr
        rcases List.mem_cons.mp hr with rfl | hr
        · omega
        · exact hall r hr

/-- Adding an entry notes something. -/
theorem noted_append (s : Store) (workflow : String) (run : Option String) (event : Event)
    (node : Option String) (details : String) (now : Instant) :
    Noted s (s.append workflow run event node details now).2 := by
  have hnext := lastEntry_lt_nextEntry s
  refine ⟨⟨Int.le_of_lt hnext, _, rfl, List.pairwise_singleton _ _, ?_, ?_⟩, rfl, rfl, rfl⟩
  · intro r hr
    rw [List.mem_singleton.mp hr]
    exact hnext
  · intro r hr old hold
    rw [List.mem_singleton.mp hr]
    exact s.id_lt_nextEntry hold

end Store

open Store (Noted)

-- ============================================================ writes

namespace Store

variable {s store : Store} {p : RunRow → Bool} {f : RunRow → RunRow} {id : String}

/-- Runs are changed only in a store that is not frozen, and then row by row. -/
theorem changeRuns_eq_true (h : s.changeRuns p f = .ok (true, store)) :
    s.frozen = false ∧ store = { s with runs := s.runs.map fun r => if p r then f r else r } := by
  unfold changeRuns at h
  split at h
  next =>
    split at h
    next => cases h
    next hfrozen =>
      obtain ⟨-, rfl⟩ := Prod.mk.inj (Except.ok.inj h)
      exact ⟨by simpa using hfrozen, rfl⟩
  next => cases h

/-- Changing runs fails only in a frozen store. -/
theorem changeRuns_eq_error {fault : Failure} (h : s.changeRuns p f = .error fault) :
    s.frozen = true := by
  unfold changeRuns at h
  split at h
  next =>
    split at h
    next hfrozen => exact hfrozen
    next => cases h
  next => cases h

/-- A run is saved into its row, and into no other. -/
theorem saveRun_eq_ok {r : Run} (h : s.saveRun r = .ok store) :
    store = { s with runs := s.runs.map fun row =>
      if row.id = some r.id then row.save r else row } := by
  unfold saveRun changeRuns at h
  split at h
  next =>
    split at h
    next => cases h
    next =>
      obtain rfl := Except.ok.inj h
      simp only [decide_eq_true_eq]
  next hany =>
    obtain rfl := Except.ok.inj h
    have hnone : ∀ row ∈ s.runs, row.id ≠ some r.id := by simpa using hany
    rw [map_ite_eq_self hnone]

/-- Saving a run fails only in a frozen store. -/
theorem saveRun_eq_error {r : Run} {fault : Failure} (h : s.saveRun r = .error fault) :
    s.frozen = true := by
  unfold saveRun at h
  cases hchange : s.changeRuns (fun row => row.id = some r.id) (fun row => row.save r) with
  | error f => exact changeRuns_eq_error hchange
  | ok found =>
      rw [hchange] at h
      cases h

/-- A run that has a row can be read. -/
theorem run?_ne_error (s : Store) (id : String) (fault : Failure) : s.run? id ≠ .error fault := by
  intro h
  unfold run? at h
  split at h
  next => cases h
  next row hrow =>
    have hid : row.id ≠ none := by simp [id_of_runRow? hrow]
    obtain ⟨r, hread⟩ := RunRow.exists_read hid
    rw [hread] at h
    cases h

/-- A workflow that is not there is not there to be removed. -/
theorem deleteWorkflow_of_none (h : s.workflowRow? id = none) : (s.deleteWorkflow id).2 = s := by
  unfold deleteWorkflow
  have hall : ∀ r ∈ s.workflows, r.id ≠ some id := by
    simpa [workflowRow?, List.find?_eq_none] using h
  have hsame : s.workflows.filter (fun r => r.id ≠ some id) = s.workflows := by
    apply List.filter_eq_self.mpr
    intro r hr
    simpa using hall r hr
  simp only [hsame]

/-- What becomes of a store in which runs go on, one after another: each was waiting when
its turn came. -/
inductive Resumptions : Store → List String → Store → Prop
  | done (s : Store) : Resumptions s [] s
  | next {s changed noted s' : Store} {id : String} {ids : List String}
    (hresume : s.resumeRun id = .ok (true, changed)) (hnoted : Noted changed noted)
    (rest : Resumptions noted ids s') : Resumptions s (id :: ids) s'

end Store

-- ============================================================ effects

/-- Whether a reply refuses what was asked for. -/
def Reply.isRefusal : Except Failure Reply → Bool
  | .error _ => true
  | .ok (.changed done) => !done
  | .ok (.started id) => id.isNone
  | .ok (.resumed ids) => ids.isEmpty
  | .ok _ => false

namespace Operation

/-- Whether an operation only looks at what is stored. -/
def looks : Operation → Bool
  | .workflow _ | .workflows _ _ _ | .run _ | .runs _ _ _ | .entries _ _ _ | .statistics _ => true
  | _ => false

/-- The revision that an operation asks for, and the workflow that it is for. -/
def revision? : Operation → Option (String × Revision)
  | .revise id u => some (id, u)
  | .activate id => some (id, .ofStatus .active)
  | .pause id => some (id, .ofStatus .paused)
  | _ => none

end Operation

/-- The world after so many readings of the clock. -/
def Engine.ticked (e : Engine σ) : Nat → σ → σ
  | 0, world => world
  | n + 1, world => e.ticked n (e.now world).2

/-- What an operation does in a state: with the reply, the state afterwards. -/
inductive Effect (e : Engine σ) (s : EngineState σ) :
    Operation → Except Failure Reply → EngineState σ → Prop
  /-- It looks, or it is refused; the clock may have been read. -/
  | rests {o : Operation} {reply : Except Failure Reply} (n : Nat)
    (h : Reply.isRefusal reply = true ∨ o.looks = true) :
    Effect e s o reply { s with world := e.ticked n s.world }
  /-- A run was driven, and cannot be saved. -/
  | breaks {id : String} {f : Failure} {world : σ} (h : s.store.frozen = true) :
    Effect e s (.execute id) (.error f) { s with world := world }
  /-- A workflow is made. -/
  | makes {b : Blueprint} {nodes : List Node} {used : Nat} {store : Store} {s' : EngineState σ}
    (hnodes : Node.normalize e.ids.node s.issued.nodes b.nodes = .ok (nodes, used))
    (hinsert : s.store.insertWorkflow
      (e.draft b nodes (e.ids.workflow s.issued.workflows) (e.clock s).1) = .ok store)
    (hnoted : Noted store s'.store) :
    Effect e s (.create b)
      (.ok (.made (e.draft b nodes (e.ids.workflow s.issued.workflows) (e.clock s).1))) s'
  /-- A workflow is revised. -/
  | revises {o : Operation} {id : String} {u u' : Revision} {used : Nat} {store : Store}
    {s' : EngineState σ} (ho : o.revision? = some (id, u))
    (hnormal : e.normalized u s.issued.nodes = .ok (u', used))
    (hrevise : s.store.reviseWorkflow id u' (e.clock s).1 = (true, store))
    (hnoted : Noted store s'.store) : Effect e s o (.ok (.changed true)) s'
  /-- A workflow is removed. -/
  | removes {id : String} (h : (s.store.workflowRow? id).isSome = true) :
    Effect e s (.delete id) (.ok (.changed true))
      { s with store := (s.store.deleteWorkflow id).2 }
  /-- A run is started. -/
  | starts {workflow run : String} {trigger : Value} {w : Workflow} {store : Store}
    {s' : EngineState σ} (hfound : s.store.workflow? workflow = .ok (some w))
    (haccepts : w.status.acceptsRuns = true)
    (hadmits : s.store.admits workflow w.maxRunsPerHour (e.clock s).1 = .ok true)
    (hinsert : s.store.insertRun (Engine.firstState w run trigger (e.clock s).1) = .ok store)
    (hnoted : Noted store s'.store) :
    Effect e s (.start workflow trigger) (.ok (.started (some run))) s'
  /-- A run is executed. -/
  | executes {id : String} {r : Run} {w : Workflow} {store : Store} {s' : EngineState σ}
    (hread : Engine.executable s.store id = .ok (r, w))
    (hsave : s.store.saveRun (e.driven r w s) = .ok store) (hnoted : Noted store s'.store) :
    Effect e s (.execute id) (.ok (.executed (.ofRun (e.driven r w s)))) s'
  /-- A run is cancelled. -/
  | cancels {id : String} {store : Store} {s' : EngineState σ}
    (hcancel : s.store.cancelRun id (e.clock s).1 = .ok (true, store))
    (hnoted : Noted store s'.store) : Effect e s (.cancel id) (.ok (.changed true)) s'
  /-- Runs go on. -/
  | resumes {ids : List String} {s' : EngineState σ} (hne : ids ≠ [])
    (h : Store.Resumptions s.store ids s'.store) :
    Effect e s .resumeDue (.ok (.resumed ids)) s'

-- =========================================== every operation has one

namespace Engine

variable (e : Engine σ) {s : EngineState σ}

/-- Adding an entry to the trail notes something. -/
theorem noted_note {store : Store} (h : Noted store s.store) (workflow : String)
    (run : Option String) (event : Event) (node : Option String) (details : String) :
    Noted store (e.note workflow run event node details s).store :=
  h.trans (Store.noted_append s.store workflow run event node details (e.clock s).1)

/-- So do the steps of an execution. -/
theorem noted_noteSteps {store : Store} (h : Noted store s.store) (workflow run : String)
    (steps : List Step) : Noted store (e.noteSteps workflow run steps s).store := by
  induction steps generalizing s with
  | nil => exact h
  | cons t steps ih =>
      apply ih (s := e.note workflow (some run) .stepExecuted (some t.node) (t.error.getD "") s)
      exact e.noted_note h workflow (some run) .stepExecuted (some t.node) (t.error.getD "")

/-- So does its end. -/
theorem noted_noteHalt {store : Store} (h : Noted store s.store) (r : Run) (halt : Graph.Halt) :
    Noted store (e.noteHalt r halt s).store := by
  cases halt <;> exact e.noted_note h _ _ _ _ _

theorem createWorkflow_effect (s : EngineState σ) (b : Blueprint) :
    Effect e s (.create b) ((e.createWorkflow b s).1.map .made) (e.createWorkflow b s).2 := by
  unfold createWorkflow
  cases hnodes : Node.normalize e.ids.node s.issued.nodes b.nodes with
  | error f => exact .rests 0 (.inl rfl)
  | ok found =>
      obtain ⟨nodes, used⟩ := found
      simp only [show (e.clock s).2.store = s.store from rfl,
        show (e.clock s).2.issued = s.issued from rfl]
      cases hinsert : s.store.insertWorkflow
          (e.draft b nodes (e.ids.workflow s.issued.workflows) (e.clock s).1) with
      | error f => exact .rests 1 (.inl rfl)
      | ok store => exact .makes hnodes hinsert (e.noted_note (.refl store) _ _ _ _ _)

/-- Revising has the same effect whatever operation asks for it. -/
theorem reviseWorkflow_effect {o : Operation} {id : String} {u : Revision}
    (ho : o.revision? = some (id, u)) (s : EngineState σ) :
    Effect e s o ((e.reviseWorkflow id u s).1.map .changed) (e.reviseWorkflow id u s).2 := by
  unfold reviseWorkflow
  cases hnormal : e.normalized u s.issued.nodes with
  | error f => exact .rests 0 (.inl rfl)
  | ok found =>
      obtain ⟨u', used⟩ := found
      simp only [show (e.clock s).2.store = s.store from rfl]
      cases hrevise : s.store.reviseWorkflow id u' (e.clock s).1 with
      | mk changed store =>
          cases changed with
          | false => exact .rests 1 (.inl rfl)
          | true => exact .revises ho hnormal hrevise (e.noted_note (.refl store) _ _ _ _ _)

theorem deleteWorkflow_effect (s : EngineState σ) (id : String) :
    Effect e s (.delete id) (.ok (.changed (deleteWorkflow id s).1)) (deleteWorkflow id s).2 := by
  cases hrow : s.store.workflowRow? id with
  | none =>
      have hsame : deleteWorkflow id s = (false, s) := by
        unfold deleteWorkflow
        simp only [Store.deleteWorkflow_of_none hrow]
        simp [Store.deleteWorkflow, hrow]
      rw [hsame]
      exact .rests 0 (.inl rfl)
  | some row =>
      have hsome : (s.store.workflowRow? id).isSome = true := by rw [hrow]; rfl
      have hdeleted : (deleteWorkflow id s).1 = true := hsome
      rw [hdeleted]
      exact .removes hsome

theorem startRun_effect (s : EngineState σ) (workflow : String) (trigger : Value) :
    Effect e s (.start workflow trigger) ((e.startRun workflow trigger s).1.map .started)
      (e.startRun workflow trigger s).2 := by
  unfold startRun
  cases hfound : s.store.workflow? workflow with
  | error f => exact .rests 0 (.inl rfl)
  | ok found =>
      cases found with
      | none => exact .rests 0 (.inl rfl)
      | some w =>
          cases haccepts : w.status.acceptsRuns with
          | false =>
              simp only [haccepts, Bool.false_eq_true, if_false]
              exact .rests 0 (.inl rfl)
          | true =>
              simp only [haccepts, if_true, show (e.clock s).2.store = s.store from rfl,
                show (e.clock s).2.issued = s.issued from rfl]
              cases hadmits : s.store.admits workflow w.maxRunsPerHour (e.clock s).1 with
              | error f => exact .rests 1 (.inl rfl)
              | ok allowed =>
                  cases allowed with
                  | false => exact .rests 1 (.inl rfl)
                  | true =>
                      simp only
                      cases hinsert : s.store.insertRun
                          (firstState w (e.ids.run s.issued.runs) trigger (e.clock s).1) with
                      | error f => exact .rests 1 (.inl rfl)
                      | ok store =>
                          exact .starts hfound haccepts hadmits hinsert
                            (e.noted_note (.refl store) _ _ _ _ _)

/-- A run that cannot be executed is not driven. -/
theorem executeRun_refused {id : String} {f : Failure}
    (h : executable s.store id = .error f) : e.executeRun id s = (.error f, s) := by
  rw [executeRun, h]

/-- A run with a field that cannot be read cannot be executed. -/
theorem executable_of_unreadable {store : Store} {id : String} {r : Run} {bad : Unreadable}
    (hrun : store.run? id = .ok (some r)) (hbad : r.unreadable.head? = some bad) :
    executable store id = .error (.corruptRecord r.id bad.field) := by
  simp [executable, hrun, hbad, bind, Except.bind]

/-- Nor can a run of a workflow with such a field. -/
theorem executable_of_unreadable_workflow {store : Store} {id : String} {r : Run} {w : Workflow}
    {bad : Unreadable} (hrun : store.run? id = .ok (some r)) (hr : r.unreadable = [])
    (hrunning : r.status = .running) (hw : store.workflow? r.workflowId = .ok (some w))
    (hbad : w.unreadable.head? = some bad) :
    executable store id = .error (.corruptRecord w.id bad.field) := by
  simp [executable, hrun, hr, hrunning, hw, hbad, bind, Except.bind]

/-- A run that was driven and cannot be saved leaves nothing but the world. -/
theorem executeRun_unsaved {id : String} {r : Run} {w : Workflow} {f : Failure}
    (h : executable s.store id = .ok (r, w)) (hsave : s.store.saveRun (e.driven r w s) = .error f) :
    ∃ world, e.executeRun id s = (.error f, { s with world := world }) := by
  refine ⟨(e.clock (e.driveRun r w s).2).2.world, ?_⟩
  rw [executeRun, h]
  simp only
  rw [show (e.clock (e.driveRun r w s).2).2.store.saveRun
      (progressed r (e.driveRun r w s).1 (e.clock (e.driveRun r w s).2).1) = .error f from hsave]
  rfl

/-- A run that was driven and saved is noted in the trail. -/
theorem executeRun_saved {id : String} {r : Run} {w : Workflow} {store : Store}
    (h : executable s.store id = .ok (r, w)) (hsave : s.store.saveRun (e.driven r w s) = .ok store) :
    (e.executeRun id s).1 = .ok (.ofRun (e.driven r w s)) ∧
      Noted store (e.executeRun id s).2.store := by
  rw [executeRun, h]
  simp only
  rw [show (e.clock (e.driveRun r w s).2).2.store.saveRun
      (progressed r (e.driveRun r w s).1 (e.clock (e.driveRun r w s).2).1) = .ok store from hsave]
  exact ⟨rfl, e.noted_noteHalt (e.noted_noteSteps (.refl store) _ _ _) _ _⟩

theorem executeRun_effect (s : EngineState σ) (id : String) :
    Effect e s (.execute id) ((e.executeRun id s).1.map .executed) (e.executeRun id s).2 := by
  cases hread : executable s.store id with
  | error f =>
      rw [e.executeRun_refused hread]
      exact .rests 0 (.inl rfl)
  | ok found =>
      obtain ⟨r, w⟩ := found
      cases hsave : s.store.saveRun (e.driven r w s) with
      | error f =>
          obtain ⟨world, hrun⟩ := e.executeRun_unsaved hread hsave
          rw [hrun]
          exact .breaks (Store.saveRun_eq_error hsave)
      | ok store =>
          obtain ⟨hreply, hnoted⟩ := e.executeRun_saved hread hsave
          rw [hreply]
          exact .executes hread hsave hnoted

theorem cancelRun_effect (s : EngineState σ) (id : String) :
    Effect e s (.cancel id) ((e.cancelRun id s).1.map .changed) (e.cancelRun id s).2 := by
  unfold cancelRun
  cases hrun : s.store.run? id with
  | error f => exact absurd hrun (s.store.run?_ne_error id f)
  | ok found =>
      cases found with
      | none => exact .rests 0 (.inl rfl)
      | some r =>
          simp only [show (e.clock s).2.store = s.store from rfl]
          cases hcancel : s.store.cancelRun id (e.clock s).1 with
          | error f => exact .rests 1 (.inl rfl)
          | ok found =>
              obtain ⟨changed, store⟩ := found
              cases changed with
              | false => exact .rests 1 (.inl rfl)
              | true => exact .cancels hcancel (e.noted_note (.refl store) _ _ _ _ _)

/-- Letting a run go on is refused by a frozen store, finds no run that waits, or changes
the run and notes it. -/
theorem resumeRun_cases (id : String) (s : EngineState σ) :
    (∃ f, s.store.frozen = true ∧ e.resumeRun id s = (.error f, s)) ∨
      e.resumeRun id s = (.ok false, s) ∨
      ∃ store s', s.store.resumeRun id = .ok (true, store) ∧ Noted store s'.store ∧
        e.resumeRun id s = (.ok true, s') := by
  unfold resumeRun
  cases hresume : s.store.resumeRun id with
  | error f => exact .inl ⟨f, Store.changeRuns_eq_error hresume, rfl⟩
  | ok found =>
      obtain ⟨changed, store⟩ := found
      cases changed with
      | false => exact .inr (.inl rfl)
      | true =>
          refine .inr (.inr ⟨store, ?_⟩)
          simp only
          cases hrun : store.run? id with
          | error f => exact absurd hrun (store.run?_ne_error id f)
          | ok found =>
              cases found with
              | none => exact ⟨_, trivial, .refl store, rfl⟩
              | some r => exact ⟨_, trivial, e.noted_note (.refl store) _ _ _ _ _, rfl⟩

/-- Letting runs go on one by one is refused by a frozen store, or those of them go on that
are told of. The induction is on the runs; once one has gone on, the store is not frozen, so
that none of the others is refused. -/
theorem resumeRuns_cases (ids : List String) (s : EngineState σ) :
    (∃ f, s.store.frozen = true ∧ e.resumeRuns ids s = (.error f, s)) ∨
      ∃ told s', Store.Resumptions s.store told s'.store ∧ (told = [] → s' = s) ∧
        e.resumeRuns ids s = (.ok told, s') := by
  induction ids generalizing s with
  | nil => exact .inr ⟨[], s, .done _, fun _ => rfl, rfl⟩
  | cons id ids ih =>
      rw [resumeRuns]
      rcases e.resumeRun_cases id s with ⟨f, hfrozen, hid⟩ | hid | ⟨store, s₁, hresume, hnoted, hid⟩
      · rw [hid]
        exact .inl ⟨f, hfrozen, rfl⟩
      · rw [hid]
        rcases ih s with ⟨f, hfrozen, hrest⟩ | ⟨told, s', hrest, hsame, hreply⟩
        · simp only [hrest]
          exact .inl ⟨f, hfrozen, rfl⟩
        · simp only [hreply]
          exact .inr ⟨told, s', hrest, hsame, rfl⟩
      · rw [hid]
        obtain ⟨hunfrozen, hstore⟩ := Store.changeRuns_eq_true hresume
        rcases ih s₁ with ⟨f, hfrozen, -⟩ | ⟨told, s', hrest, -, hreply⟩
        · rw [hnoted.frozen, hstore] at hfrozen
          exact absurd hfrozen (by simp [hunfrozen])
        · simp only [hreply]
          refine .inr ⟨id :: told, s', .next hresume hnoted hrest, ?_, rfl⟩
          intro hnil
          cases hnil

theorem resumeDueRuns_effect (s : EngineState σ) :
    Effect e s .resumeDue ((e.resumeDueRuns s).1.map .resumed) (e.resumeDueRuns s).2 := by
  unfold resumeDueRuns
  simp only [show (e.clock s).2.store = s.store from rfl]
  cases hdue : s.store.dueRuns (e.clock s).1 with
  | error f => exact .rests 1 (.inl rfl)
  | ok ids =>
      simp only
      rcases e.resumeRuns_cases ids (e.clock s).2 with
        ⟨f, -, hreply⟩ | ⟨told, s', hresumed, hsame, hreply⟩
      · rw [hreply]
        exact .rests 1 (.inl rfl)
      · rw [hreply]
        cases told with
        | nil =>
            rw [hsame rfl]
            exact .rests 1 (.inl rfl)
        | cons id told => exact .resumes (List.cons_ne_nil id told) hresumed

/-- Every operation has an effect. -/
theorem perform_effect (s : EngineState σ) (o : Operation) :
    Effect e s o (e.perform o s).1 (e.perform o s).2 := by
  cases o with
  | create b => exact e.createWorkflow_effect s b
  | revise id u => exact e.reviseWorkflow_effect rfl s
  | activate id => exact e.reviseWorkflow_effect rfl s
  | pause id => exact e.reviseWorkflow_effect rfl s
  | delete id => exact e.deleteWorkflow_effect s id
  | start workflow trigger => exact e.startRun_effect s workflow trigger
  | execute id => exact e.executeRun_effect s id
  | cancel id => exact e.cancelRun_effect s id
  | resumeDue => exact e.resumeDueRuns_effect s
  | workflow id => exact .rests 0 (.inr rfl)
  | workflows status tag limit => exact .rests 0 (.inr rfl)
  | run id => exact .rests 0 (.inr rfl)
  | runs workflow status limit => exact .rests 0 (.inr rfl)
  | entries workflow run limit => exact .rests 0 (.inr rfl)
  | statistics workflow => exact .rests 0 (.inr rfl)

end Engine

end DurableWorkflow
