/-
What the rows of workflows hold. The columns of such a row are written together when
the workflow is made, and some of them again when it is revised; so at any time the row
is that of one workflow, but for its times (`WorkflowRow.Holds`).

Such a row is read intact if what it holds is read back from texts (`Workflow.Writable`).
Blueprints and revisions that were read from texts give such workflows: what stands in
them is nested one level less deeply in a column of its own. What texts do not promise is
that floats are read back; this is asked of them (`Exact`).
-/
import DurableWorkflow.Proofs.Store.Columns

namespace DurableWorkflow

open Json (Yields keeps_must keeps_may yields_any yields_value yields_dict maxDepth)
open Store (WorkflowRow readInstant)
open Time (Instant)

-- ================================================= what is read back

/-- A value that is read back from a column. -/
structure Value.Writable (v : Value) : Prop where
  fits : v.Every Value.fits
  exact : v.Every Value.exact
  levels : v.levels ≤ maxDepth

/-- A node that is read back from a column of nodes. -/
structure Node.Writable (n : Node) : Prop where
  bounded : n.Bounded 2
  exact : n.Exact

/-- A map of values that is read back from a column. -/
structure Dict.Writable (m : Dict Value) : Prop where
  bounded : Json.Bounded 1 m
  exact : ∀ e ∈ m, e.2.Every Value.exact

/-- A workflow of which every JSON column is read back. -/
structure Workflow.Writable (w : Workflow) : Prop where
  triggerConfig : w.triggerConfig.Writable
  nodes : ∀ n ∈ w.nodes, n.Writable
  presets : Dict.Writable w.presets

theorem Value.Writable.ofText {v : Value} (h : v.Writable) :
    Decoder.ofText Decoder.value v.text = .ok v :=
  (Json.readsBack_value h.fits h.exact (Nat.le_trans (Nat.zero_add _).le h.levels)).ofText

theorem Node.Bounded.mono {depth more : Nat} {n : Node} (h : n.Bounded more)
    (hle : depth ≤ more) : n.Bounded depth :=
  ⟨h.fits, Nat.le_trans (Nat.add_le_add_right hle _) h.levels⟩

theorem Json.Bounded.mono {depth more : Nat} {m : Dict Value} (h : Json.Bounded more m)
    (hle : depth ≤ more) : Json.Bounded depth m :=
  ⟨h.sorted, h.fits, fun e he => Nat.le_trans (Nat.add_le_add_right hle _) (h.levels e he)⟩

-- ======================================================== blueprints

namespace Blueprint

/-- A blueprint in which every float is read back. -/
structure Exact (b : Blueprint) : Prop where
  triggerConfig : b.triggerConfig.Every Value.exact
  nodes : ∀ n ∈ b.nodes, n.Exact
  presets : ∀ e ∈ b.presets, e.2.Every Value.exact

/-- A blueprint that keeps within the limits. -/
structure Bounded (b : Blueprint) : Prop where
  fits : b.triggerConfig.Every Value.fits
  levels : b.triggerConfig.levels ≤ maxDepth
  nodes : ∀ n ∈ b.nodes, n.Bounded 2
  presets : Json.Bounded 1 b.presets

/-- A blueprint that is read keeps within the limits. -/
theorem yields_decode : Yields 0 decode Bounded := by
  refine Json.yields_record (fun _ => ?_) fun f hf => ?_
  · exact ⟨trivial, Nat.zero_le _, fun _ h => (List.not_mem_nil h).elim, Json.bounded_nil⟩
  · simp only [shape, List.mem_cons, List.not_mem_nil, or_false] at hf
    rcases hf with rfl | rfl | rfl | rfl | rfl | rfl | rfl | rfl
    · exact keeps_must yields_any fun _ _ _ h => ⟨h.1, h.2, h.3, h.4⟩
    · exact keeps_may yields_any fun _ _ _ h => ⟨h.1, h.2, h.3, h.4⟩
    · exact keeps_may yields_any fun _ _ _ h => ⟨h.1, h.2, h.3, h.4⟩
    · exact keeps_may yields_value fun _ _ hv h =>
        ⟨hv.1, Nat.le_of_add_left_le hv.2, h.3, h.4⟩
    · exact keeps_may Node.yields_decode.list fun _ _ hns h =>
        ⟨h.1, h.2, fun n hn => (hns n hn).mono (by decide), h.4⟩
    · exact keeps_may yields_dict fun _ _ hm h => ⟨h.1, h.2, h.3, hm.mono (by decide)⟩
    · exact keeps_may yields_any fun _ _ _ h => ⟨h.1, h.2, h.3, h.4⟩
    · exact keeps_may yields_any fun _ _ _ h => ⟨h.1, h.2, h.3, h.4⟩

end Blueprint

-- ========================================================= revisions

namespace Revision

/-- A revision in which every float is read back. -/
structure Exact (u : Revision) : Prop where
  triggerConfig : ∀ v ∈ u.triggerConfig, v.Every Value.exact
  nodes : ∀ ns ∈ u.nodes, ∀ n ∈ ns, n.Exact
  presets : ∀ m ∈ u.presets, ∀ e ∈ m, e.2.Every Value.exact

/-- A revision that keeps within the limits. -/
structure Bounded (u : Revision) : Prop where
  triggerConfig : ∀ v ∈ u.triggerConfig, v.Every Value.fits ∧ v.levels ≤ maxDepth
  nodes : ∀ ns ∈ u.nodes, ∀ n ∈ ns, n.Bounded 2
  presets : ∀ m ∈ u.presets, Json.Bounded 1 m

/-- A revision that is read keeps within the limits. -/
theorem yields_decode : Yields 0 decode Bounded := by
  refine Json.yields_record (fun _ => ?_) fun f hf => ?_
  · exact ⟨fun _ h => (Option.not_mem_none _ h).elim, fun _ h => (Option.not_mem_none _ h).elim,
      fun _ h => (Option.not_mem_none _ h).elim⟩
  · simp only [shape, List.mem_cons, List.not_mem_nil, or_false] at hf
    rcases hf with rfl | rfl | rfl | rfl | rfl | rfl | rfl | rfl | rfl
    · exact keeps_may yields_any fun _ _ _ h => ⟨h.1, h.2, h.3⟩
    · exact keeps_may yields_any fun _ _ _ h => ⟨h.1, h.2, h.3⟩
    · exact keeps_may yields_any fun _ _ _ h => ⟨h.1, h.2, h.3⟩
    · exact keeps_may yields_value.optional fun _ _ hv h =>
        ⟨fun v h => ⟨(hv v h).1, Nat.le_of_add_left_le (hv v h).2⟩, h.2, h.3⟩
    · exact keeps_may Node.yields_decode.list.optional fun _ _ hns h =>
        ⟨h.1, fun ns h n hn => (hns ns h n hn).mono (by decide), h.3⟩
    · exact keeps_may yields_dict.optional fun _ _ hm h =>
        ⟨h.1, h.2, fun m h => (hm m h).mono (by decide)⟩
    all_goals exact keeps_may yields_any fun _ _ _ h => ⟨h.1, h.2, h.3⟩

/-- What a revision sets is read back from its columns. -/
structure Writable (u : Revision) : Prop where
  triggerConfig : ∀ v ∈ u.triggerConfig, v.Writable
  nodes : ∀ ns ∈ u.nodes, ∀ n ∈ ns, n.Writable
  presets : ∀ m ∈ u.presets, Dict.Writable m

theorem Bounded.writable {u : Revision} (h : u.Bounded) (hexact : u.Exact) : u.Writable where
  triggerConfig v hv :=
    ⟨(h.triggerConfig v hv).1, hexact.triggerConfig v hv, (h.triggerConfig v hv).2⟩
  nodes ns hns n hn := ⟨h.nodes ns hns n hn, hexact.nodes ns hns n hn⟩
  presets m hm := ⟨h.presets m hm, hexact.presets m hm⟩

/-- A revision that names no field has no new values. -/
theorem eq_none_of_isEmpty {u : Revision} (h : u.isEmpty = true) : u = none := by
  unfold isEmpty fieldNames at h
  rw [List.isEmpty_iff, List.filterMap_eq_nil_iff] at h
  have hnone {α : Type} {o : Option α} {name : String}
      (ho : (if o.isSome then some name else .none) = .none) : o = .none := by
    cases o with
    | none => rfl
    | some _ => cases ho
  simp only [List.forall_mem_cons] at h
  obtain ⟨h₁, h₂, h₃, h₄, h₅, h₆, h₇, h₈, h₉, -⟩ := h
  obtain ⟨name, description, trigger, triggerConfig, nodes, presets, status, limit, tags⟩ := u
  simp only [none, Revision.mk.injEq]
  exact ⟨hnone h₁, hnone h₂, hnone h₃, hnone h₄, hnone h₅, hnone h₆, hnone h₇, hnone h₈, hnone h₉⟩

/-- A new status is read back. -/
theorem writable_ofStatus (status : WorkflowStatus) : (ofStatus status).Writable where
  triggerConfig _ h := (Option.not_mem_none _ h).elim
  nodes _ h := (Option.not_mem_none _ h).elim
  presets _ h := (Option.not_mem_none _ h).elim

end Revision

namespace Workflow

/-- A workflow with the new values of a revision. -/
def revised (w : Workflow) (u : Revision) : Workflow :=
  { w with
    name := u.name.getD w.name
    description := u.description.getD w.description
    trigger := u.trigger.getD w.trigger
    triggerConfig := u.triggerConfig.getD w.triggerConfig
    nodes := u.nodes.getD w.nodes
    presets := u.presets.getD w.presets
    status := u.status.getD w.status
    maxRunsPerHour := u.maxRunsPerHour.getD w.maxRunsPerHour
    tags := u.tags.getD w.tags }

/-- The revision without new values changes nothing. -/
theorem revised_of_isEmpty {w : Workflow} {u : Revision} (h : u.isEmpty = true) :
    w.revised u = w := by
  rw [Revision.eq_none_of_isEmpty h]
  rfl

theorem of_getD {α : Type} {p : α → Prop} {o : Option α} {a : α} (ho : ∀ b ∈ o, p b)
    (ha : p a) : p (o.getD a) := by
  cases o with
  | none => exact ha
  | some b => exact ho b rfl

theorem Writable.revised {w : Workflow} {u : Revision} (hw : w.Writable) (hu : u.Writable) :
    (w.revised u).Writable where
  triggerConfig := of_getD hu.triggerConfig hw.triggerConfig
  nodes := of_getD (p := fun ns : List Node => ∀ n ∈ ns, n.Writable) hu.nodes hw.nodes
  presets := of_getD hu.presets hw.presets

end Workflow

-- ============================================================== rows

namespace Store

/-- A row holds a workflow if it is the row of it, but for the times. -/
def WorkflowRow.Holds (row : WorkflowRow) (w : Workflow) : Prop :=
  row = { WorkflowRow.of w with createdAt := row.createdAt, updatedAt := row.updatedAt }

theorem WorkflowRow.holds_of (w : Workflow) : (WorkflowRow.of w).Holds w := rfl

/-- A row that holds a workflow holds the revised one after a revision. -/
theorem WorkflowRow.Holds.revise {row : WorkflowRow} {w : Workflow} (h : row.Holds w)
    (u : Revision) (now : Instant) : (row.revise u now).Holds (w.revised u) := by
  unfold Holds at h ⊢
  rw [h]
  unfold WorkflowRow.revise WorkflowRow.of Workflow.revised
  simp only [Option.getD_map]

/-- A row is read as what it holds, if that is read back. -/
theorem WorkflowRow.Holds.read {row : WorkflowRow} {w : Workflow} (h : row.Holds w)
    (hw : w.Writable) :
    row.read = .ok { w with
      createdAt := readInstant row.createdAt
      updatedAt := readInstant row.updatedAt
      unreadable := [] } := by
  have hnodes := readsBack_nodesText (fun n hn => (hw.nodes n hn).bounded)
    fun n hn => (hw.nodes n hn).exact
  have hpresets := readsBack_dictText hw.presets.bounded hw.presets.exact
  have hread := read_stamped row.createdAt row.updatedAt hw.triggerConfig.ofText hnodes hpresets
    (readsBack_tagsText w.tags)
  exact (congrArg WorkflowRow.read h).trans hread

-- ============================================================ tables

variable {s s' : Store}

theorem workflowRow?_congr (h : s'.workflows = s.workflows) (id : String) :
    s'.workflowRow? id = s.workflowRow? id := by
  unfold workflowRow?
  rw [h]

/-- A workflow is added after the others exactly if its id is new. -/
theorem insertWorkflow_eq_ok_iff {w : Workflow} : s.insertWorkflow w = .ok s' ↔
    s.workflowRow? w.id = none ∧ s' = { s with workflows := s.workflows ++ [.of w] } := by
  have hnew : s.workflowRow? w.id = none ↔ ¬ (s.workflows.any fun r => r.id = some w.id) = true := by
    rw [workflowRow?, List.find?_eq_none]
    simp
  rw [hnew, insertWorkflow]
  split
  next hany => simp [hany]
  next hany => simp [hany, eq_comm]

/-- A workflow that is added has its row, and the others have theirs. -/
theorem workflowRow?_insert {w : Workflow} (h : s.insertWorkflow w = .ok s') (id : String) :
    s'.workflowRow? id = if w.id = id then some (.of w) else s.workflowRow? id := by
  obtain ⟨hnew, rfl⟩ := insertWorkflow_eq_ok_iff.mp h
  unfold workflowRow? at hnew ⊢
  rw [List.find?_append]
  by_cases hid : w.id = id
  · subst hid
    rw [hnew, List.find?_cons_of_pos (by simp [WorkflowRow.of]), if_pos rfl, Option.none_or]
  · rw [List.find?_cons_of_neg (by simp [WorkflowRow.of, hid]), List.find?_nil, if_neg hid,
      Option.or_none]

theorem reviseWorkflow_of_isEmpty {id : String} {u : Revision} {now : Instant}
    (h : u.isEmpty = true) :
    s.reviseWorkflow id u now = (false, s) :=
  if_pos h

theorem reviseWorkflow_of_not_isEmpty {id : String} {u : Revision} {now : Instant}
    (h : u.isEmpty = false) :
    s.reviseWorkflow id u now = ((s.workflowRow? id).isSome, { s with
      workflows := s.workflows.map fun r => if r.id = some id then r.revise u now else r }) :=
  if_neg (by simp [h])

/-- Without a field to write, or a row to write it to, the store stays as it is. -/
theorem reviseWorkflow_of_not {id : String} {u : Revision} {now : Instant}
    (h : ¬ (u.isEmpty = false ∧ (s.workflowRow? id).isSome = true)) :
    (s.reviseWorkflow id u now).2 = s := by
  cases hempty : u.isEmpty with
  | true => rw [reviseWorkflow_of_isEmpty hempty]
  | false =>
      have hall : ∀ r ∈ s.workflows, r.id ≠ some id := by
        simpa [hempty, workflowRow?, List.find?_eq_none] using h
      rw [reviseWorkflow_of_not_isEmpty hempty, map_ite_eq_self hall]

/-- A revision with new values changes the row of its workflow alone. -/
theorem workflowRow?_revise {u : Revision} (hu : u.isEmpty = false) (s : Store) (id : String)
    (now : Instant) (i : String) :
    (s.reviseWorkflow id u now).2.workflowRow? i
      = if i = id then (s.workflowRow? i).map (·.revise u now) else s.workflowRow? i := by
  have hfind (rows : List WorkflowRow) :
      (rows.map fun r => if r.id = some id then r.revise u now else r).find?
          (fun r => r.id = some i)
        = (rows.find? fun r => r.id = some i).map
          fun r => if r.id = some id then r.revise u now else r := by
    rw [List.find?_map]
    refine congrArg (fun p => (rows.find? p).map _) (funext fun r => ?_)
    by_cases hr : r.id = some id
    · simp [hr, WorkflowRow.revise]
    · simp [hr]
  rw [reviseWorkflow_of_not_isEmpty hu]
  unfold workflowRow?
  rw [hfind]
  cases hrow : s.workflows.find? fun r => r.id = some i with
  | none => simp
  | some row =>
      have hid : row.id = some i := by simpa using List.find?_some hrow
      by_cases hi : i = id
      · rw [if_pos hi, Option.map_some, Option.map_some, if_pos (by rw [hid, hi])]
      · rw [if_neg hi, Option.map_some, if_neg (by rw [hid]; simpa using hi)]

/-- A revision that finds nothing to change changes no row. -/
theorem workflowRow?_of_revise_false {id : String} {u : Revision} {now : Instant}
    (h : s.reviseWorkflow id u now = (false, s')) (i : String) :
    s'.workflowRow? i = s.workflowRow? i := by
  have hnot : ¬ (u.isEmpty = false ∧ (s.workflowRow? id).isSome = true) := by
    rintro ⟨hempty, hfound⟩
    rw [reviseWorkflow_of_not_isEmpty hempty, hfound] at h
    cases h
  have hsame : s' = s := (congrArg Prod.snd h).symm.trans (reviseWorkflow_of_not hnot)
  rw [hsame]

/-- A workflow that is removed has no row, and no other is concerned. -/
theorem workflowRow?_delete (id i : String) :
    (s.deleteWorkflow id).2.workflowRow? i = if i = id then none else s.workflowRow? i := by
  unfold deleteWorkflow workflowRow?
  rw [List.find?_filter]
  split
  next hi =>
    subst hi
    rw [List.find?_eq_none]
    simp
  next hi =>
    refine congrArg (fun p => s.workflows.find? p) (funext fun r => ?_)
    by_cases hr : r.id = some i
    · simp [hr, hi]
    · simp [hr]

end Store

-- ======================================================== ids of nodes

/-- Giving ids to nodes leaves everything else of them as it was. -/
theorem Node.config_normalizeFrom {fresh : Nat → String} {used used' : Nat}
    {seen : List String} {nodes nodes' : List Node}
    (h : normalizeFrom fresh used seen nodes = .ok (nodes', used')) :
    ∀ n' ∈ nodes', ∃ n ∈ nodes, n'.config = n.config := by
  induction nodes generalizing used seen nodes' used' with
  | nil =>
      obtain ⟨rfl, -⟩ := Prod.mk.inj (Except.ok.inj h)
      exact fun _ h => (List.not_mem_nil h).elim
  | cons n ns ih =>
      rw [normalizeFrom] at h
      generalize (if n.id = "" then (fresh used, used + 1) else (n.id, used)) = drawn at h
      simp only at h
      split at h
      next => cases h
      next =>
        split at h
        next => cases h
        next ns' used'' hrest =>
          obtain ⟨rfl, -⟩ := Prod.mk.inj (Except.ok.inj h)
          intro n' hn'
          rcases List.mem_cons.mp hn' with rfl | hn'
          · exact ⟨n, List.mem_cons_self, rfl⟩
          · obtain ⟨m, hm, hconfig⟩ := ih hrest n' hn'
            exact ⟨m, List.mem_cons_of_mem n hm, hconfig⟩

/-- Nodes are still read back with new ids. -/
theorem Node.writable_normalize {fresh : Nat → String} {used used' : Nat}
    {nodes nodes' : List Node} (h : normalize fresh used nodes = .ok (nodes', used'))
    (hnodes : ∀ n ∈ nodes, n.Writable) : ∀ n' ∈ nodes', n'.Writable := by
  intro n' hn'
  obtain ⟨n, hn, hconfig⟩ := config_normalizeFrom h n' hn'
  obtain ⟨⟨hfits, hlevels⟩, hexact⟩ := hnodes n hn
  unfold Exact at hexact
  rw [← hconfig] at hfits hlevels hexact
  exact ⟨⟨hfits, hlevels⟩, hexact⟩

end DurableWorkflow
