/-
Operations that are refused. A refused operation leaves all that is stored as it was, and
calls no handler: it would have gone the same way with any other handlers. All that it may
have done is read the clock.

Nothing is asked of the store but that it is not frozen. A frozen store refuses to save a
run after it was driven, which is the only refusal that comes after handlers were at work.
-/
import DurableWorkflow.Proofs.Engine.Effects
import DurableWorkflow.Proofs.Engine.Reports

namespace DurableWorkflow

open Store (RunRow)

variable {σ : Type}

-- ========================================================== handlers

namespace Engine

/-- The engine with other handlers. -/
def withHandlers (e : Engine σ) (registry : Registry σ) : Engine σ :=
  { e with registry := registry }

variable (e : Engine σ) (registry : Registry σ)

/-- Runs go on without handlers. The induction is on the runs that are still to go on. -/
theorem resumeRuns_withHandlers (ids : List String) (s : EngineState σ) :
    (e.withHandlers registry).resumeRuns ids s = e.resumeRuns ids s := by
  induction ids generalizing s with
  | nil => rfl
  | cons id ids ih =>
      have hone : (e.withHandlers registry).resumeRun id s = e.resumeRun id s := rfl
      rw [resumeRuns, resumeRuns, hone]
      simp only [ih]

/-- No operation needs handlers but the execution of a run. -/
theorem perform_withHandlers {o : Operation} (ho : ∀ id, o ≠ .execute id) (s : EngineState σ) :
    (e.withHandlers registry).perform o s = e.perform o s := by
  cases o with
  | execute id => exact absurd rfl (ho id)
  | resumeDue =>
      have hdue : (e.withHandlers registry).resumeDueRuns s = e.resumeDueRuns s := by
        unfold resumeDueRuns
        simp only [resumeRuns_withHandlers]
        rfl
      simp only [perform, hdue]
  | create _ | revise _ _ | activate _ | pause _ | delete _ | start _ _ | cancel _ | workflow _
  | workflows _ _ _ | run _ | runs _ _ _ | entries _ _ _ | statistics _ => rfl

end Engine

-- ========================================================== refusals

variable {e : Engine σ} {s s' : EngineState σ} {o : Operation} {reply : Except Failure Reply}

/-- An operation that is refused has the effect of resting. -/
theorem Effect.eq_of_isRefusal (h : Effect e s o reply s') (hfrozen : s.store.frozen = false)
    (hrefused : Reply.isRefusal reply = true) :
    ∃ n, s' = { s with world := e.ticked n s.world } := by
  cases h with
  | rests n _ => exact ⟨n, rfl⟩
  | breaks hbroken => exact absurd hbroken (by simp [hfrozen])
  | resumes hne _ => exact absurd (List.isEmpty_iff.mp hrefused) hne
  | makes _ _ _ | revises _ _ _ _ | removes _ | starts _ _ _ _ _ | executes _ _ _
  | cancels _ _ => cases hrefused

/-- An execution that is refused does not come to the handlers. -/
theorem Engine.executable_of_isRefusal {id : String} (hfrozen : s.store.frozen = false)
    (hrefused : Reply.isRefusal (e.perform (.execute id) s).1 = true) :
    ∃ f, Engine.executable s.store id = .error f := by
  cases hread : Engine.executable s.store id with
  | error f => exact ⟨f, rfl⟩
  | ok found =>
      obtain ⟨r, w⟩ := found
      cases hsave : s.store.saveRun (e.driven r w s) with
      | error f => exact absurd (Store.saveRun_eq_error hsave) (by simp [hfrozen])
      | ok store =>
          have hreply := (e.executeRun_saved hread hsave).1
          simp only [Engine.perform, hreply] at hrefused
          cases hrefused

/-- An operation that is refused changes nothing: the tables are the same, no id is gone, the
world is another only by readings of the clock, and with other handlers the reply and the
state afterwards would be the same. -/
theorem refused_changes_nothing (e : Engine σ) (o : Operation) (s : EngineState σ)
    (hfrozen : s.store.frozen = false) (hrefused : Reply.isRefusal (e.perform o s).1 = true) :
    (e.perform o s).2.store = s.store ∧
      (∃ n, (e.perform o s).2 = { s with world := e.ticked n s.world }) ∧
      ∀ registry, (e.withHandlers registry).perform o s = e.perform o s := by
  obtain ⟨n, hrests⟩ := (e.perform_effect s o).eq_of_isRefusal hfrozen hrefused
  refine ⟨by rw [hrests], ⟨n, hrests⟩, ?_⟩
  intro registry
  by_cases ho : ∃ id, o = .execute id
  · obtain ⟨id, rfl⟩ := ho
    obtain ⟨f, hread⟩ := Engine.executable_of_isRefusal hfrozen hrefused
    simp only [Engine.perform, e.executeRun_refused hread,
      (e.withHandlers registry).executeRun_refused hread]
  · apply e.perform_withHandlers registry
    intro id hid
    exact ho ⟨id, hid⟩

/-- The row of a run whose context is not JSON. -/
def spoiltRun : RunRow where
  id := some "r0"
  workflowId := "w0"
  status := "running"
  currentNode := "act"
  context := "\x7boops"
  loopCursors := "\x7b\x7d"
  steps := "[]"
  triggerData := "null"
  startedAt := "2024-01-01T00:00:00.000000Z"
  completedAt := none
  resumeAt := none
  error := none

/-- A store with such a run, of a workflow that is not there. -/
def spoiltState : EngineState Unit :=
  ⟨{ Store.empty with runs := [spoiltRun] }, (), .none⟩

/-- To execute such a run is refused, so the row stays, whatever handlers there are. -/
theorem refused_spoilt :
    Reply.isRefusal ((Engine.timeless .standard).perform (.execute "r0") spoiltState).1 = true ∧
      ((Engine.timeless .standard).perform (.execute "r0") spoiltState).2.store.runs
        = [spoiltRun] ∧
      ∀ registry, ((Engine.timeless .standard).withHandlers registry).perform (.execute "r0")
        spoiltState = (Engine.timeless .standard).perform (.execute "r0") spoiltState := by
  have hrefused : Reply.isRefusal
      ((Engine.timeless .standard).perform (.execute "r0") spoiltState).1 = true := by
    decide +kernel
  obtain ⟨hstore, -, hhandlers⟩ := refused_changes_nothing (Engine.timeless .standard)
    (.execute "r0") spoiltState rfl hrefused
  exact ⟨hrefused, congrArg Store.runs hstore, hhandlers⟩

end DurableWorkflow
