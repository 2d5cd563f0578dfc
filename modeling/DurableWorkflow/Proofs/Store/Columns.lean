/-
The columns of rows are read back: the steps and cursors of a run, and the nodes and
tags of a workflow.

A step comes back as it was, with one exception: a result that is `null` is written,
but read as no result (`Step.kept`).
-/
import DurableWorkflow.Proofs.Json.Bounds
import DurableWorkflow.Proofs.Json.Typed
import DurableWorkflow.Proofs.Store.Reading
import DurableWorkflow.Proofs.Time.Readings

namespace DurableWorkflow

open Json (ReadsBack Fills Yields keeps_must keeps_may yields_any yields_value yields_count
  maxDepth)
open Time (Instant)

variable {depth : Nat}

-- ========================================================== scalars

/-- An instant that is read is one as clocks show it. -/
theorem yields_instant : Yields depth Decoder.instant fun t =>
    t.Valid ∧ Instant.inRange t.seconds = true := by
  intro d t _ _ h
  unfold Decoder.instant Decoder.parsed at h
  split at h
  next =>
    split at h
    next heq =>
      obtain rfl := Except.ok.inj h
      simp only at heq
      split at heq
      next ht =>
        obtain rfl := Except.ok.inj heq
        exact Instant.valid_of_ofText ht
      next => cases heq
    next => cases h
  next => cases h

theorem readsBack_nodeType (t : NodeType) : ReadsBack depth NodeType.decode (.string t.name) t :=
  Json.readsBack_choice (by cases t <;> rfl)

theorem readsBack_stepStatus (t : StepStatus) :
    ReadsBack depth StepStatus.decode (.string t.name) t :=
  Json.readsBack_choice (by cases t <;> rfl)

-- ============================================================= steps

namespace Step

/-- A step as it is read back: a result that is `null` is none. -/
def kept (t : Step) : Step := { t with result := t.result.filter fun v => !v.isNull }

/-- A step that keeps within the limits, where its parts are written at some depth. -/
structure Bounded (depth : Nat) (t : Step) : Prop where
  valid : t.timestamp.Valid
  range : Instant.inRange t.timestamp.seconds = true
  fits : ∀ v ∈ t.result, v.Every Value.fits
  levels : ∀ v ∈ t.result, depth + v.levels ≤ maxDepth
  iteration : ∀ n ∈ t.iteration, n < 0x10000000000000000

/-- A step in whose result every float is read back. -/
def Exact (t : Step) : Prop := ∀ v ∈ t.result, v.Every Value.exact

theorem kept_result (t : Step) : t.kept.result = t.result.filter fun v => !v.isNull := rfl

/-- A step is read back as it was exactly if its result is not `null`. -/
theorem kept_eq_iff (t : Step) : t.kept = t ↔ t.result ≠ some .null := by
  constructor
  · intro h hnull
    have hkept := t.kept_result
    rw [h, hnull] at hkept
    cases hkept
  · intro h
    unfold kept
    cases hr : t.result with
    | none => rw [Option.filter_none, ← hr]
    | some v =>
        rw [hr] at h
        have hv : v.isNull = false := by
          cases v with
          | null => exact absurd rfl h
          | _ => rfl
        rw [Option.filter_some_pos (by simp [hv]), ← hr]

theorem map_kept_eq_iff (ts : List Step) :
    ts.map kept = ts ↔ ∀ t ∈ ts, t.result ≠ some .null := by
  induction ts with
  | nil => exact iff_of_true rfl fun _ h => (List.not_mem_nil h).elim
  | cons t ts ih => rw [List.map_cons, List.cons.injEq, kept_eq_iff, ih, List.forall_mem_cons]

/-- A result is read back where it is written, but for `null`. -/
theorem readsBack_result {depth : Nat} {t : Step} (ht : t.Bounded depth) (hexact : t.Exact) :
    ∀ v ∈ t.result, ReadsBack depth (Decoder.optional Decoder.value) v t.kept.result := by
  intro v hv
  have hresult : t.result = some v := hv
  rw [kept_result, hresult]
  cases hnull : v.isNull with
  | true =>
      have hv' : v = .null := by
        cases v with
        | null => rfl
        | _ => cases hnull
      subst hv'
      exact Json.readsBack_null
  | false =>
      rw [Option.filter_some_pos (by simp [hnull])]
      refine (Json.readsBack_value (ht.fits v hv) (hexact v hv) (ht.levels v hv)).optional ?_
      intro s h
      obtain rfl : Value.null = v := Except.ok.inj h
      cases hnull

/-- The parts of a step as they are written. -/
def parts (t : Step) : List (String × Option Value) := [
  ("node_id", some (.string t.node)),
  ("node_type", some (.string t.type.name)),
  ("timestamp", some t.timestamp.encode),
  ("status", some (.string t.status.name)),
  ("result", t.result.map id),
  ("branch", t.branch.map .string),
  ("delay", t.delay.map fun n => .int n.toNat),
  ("iteration", t.iteration.map fun n : Nat => .int n),
  ("attempts", t.attempts.map fun n => .int n.toNat),
  ("error", t.error.map .string)]

theorem encode_eq_parts (t : Step) : t.encode = .record t.parts := by
  obtain ⟨_, _, _, _, result, _, _, iteration, _, _⟩ := t
  cases result <;> cases iteration <;> rfl

/-- A step is read back. -/
theorem readsBack_step {t : Step} (ht : t.Bounded (depth + 1)) (hexact : t.Exact)
    (hin : depth + 1 ≤ maxDepth) : ReadsBack depth Step.decode t.encode t.kept := by
  have hnames : (t.parts.map Prod.fst).Nodup := by
    show ["node_id", "node_type", "timestamp", "status", "result", "branch", "delay", "iteration",
      "attempts", "error"].Nodup
    decide
  have hbranch : ∀ a ∈ t.branch, ReadsBack (depth + 1) _ _ t.branch :=
    Json.readsBack_optional (fun s _ => Json.readsBack_string s) fun _ _ h => by cases h
  have hdelay : ∀ a ∈ t.delay, ReadsBack (depth + 1) _ _ t.delay :=
    Json.readsBack_optional (fun n _ => Json.readsBack_u64 n) fun _ _ h => by cases h
  have hiteration : ∀ a ∈ t.iteration, ReadsBack (depth + 1) _ _ t.iteration :=
    Json.readsBack_optional (fun n hn => Json.readsBack_count (ht.iteration n hn))
      fun _ _ h => by cases h
  have hattempts : ∀ a ∈ t.attempts, ReadsBack (depth + 1) _ _ t.attempts :=
    Json.readsBack_optional (fun n _ => Json.readsBack_u32 n) fun _ _ h => by cases h
  have herror : ∀ a ∈ t.error, ReadsBack (depth + 1) _ _ t.error :=
    Json.readsBack_optional (fun s _ => Json.readsBack_string s) fun _ _ h => by cases h
  rw [encode_eq_parts]
  refine Fills.record (r := t.kept) ?_ hnames (List.subset_append_left _ _) hin
  -- each field is set in a record of which all fields are written out
  rw [show shape.blank = ⟨"", .action, .epoch, .success, none, none, none, none, none, none⟩
    from rfl]
  refine .must rfl (Json.readsBack_string t.node) ?_
  dsimp only
  refine .must rfl (readsBack_nodeType t.type) ?_
  dsimp only
  refine .must rfl (Json.readsBack_instant ht.valid ht.range) ?_
  dsimp only
  refine .must rfl (readsBack_stepStatus t.status) ?_
  dsimp only
  refine .optional rfl (fun h => by rw [kept_result, h]; rfl) (readsBack_result ht hexact) ?_
  dsimp only
  refine .optional rfl (fun h => by rw [h]) hbranch ?_
  dsimp only
  refine .optional rfl (fun h => by rw [h]) hdelay ?_
  dsimp only
  refine .optional rfl (fun h => by rw [h]) hiteration ?_
  dsimp only
  refine .optional rfl (fun h => by rw [h]) hattempts ?_
  dsimp only
  refine .optional rfl (fun h => by rw [h]) herror ?_
  exact .done

/-- A step that is read keeps within the limits. -/
theorem yields_decode : Yields depth Step.decode (Step.Bounded (depth + 1)) := by
  refine Json.yields_record (fun _ => ?_) fun f hf => ?_
  · exact ⟨by decide, by decide, fun _ h => (Option.not_mem_none _ h).elim,
      fun _ h => (Option.not_mem_none _ h).elim, fun _ h => (Option.not_mem_none _ h).elim⟩
  · simp only [shape, List.mem_cons, List.not_mem_nil, or_false] at hf
    rcases hf with rfl | rfl | rfl | rfl | rfl | rfl | rfl | rfl | rfl | rfl
    · exact keeps_must yields_any fun _ _ _ h => ⟨h.1, h.2, h.3, h.4, h.5⟩
    · exact keeps_must yields_any fun _ _ _ h => ⟨h.1, h.2, h.3, h.4, h.5⟩
    · exact keeps_must yields_instant fun _ _ ht h => ⟨ht.1, ht.2, h.3, h.4, h.5⟩
    · exact keeps_must yields_any fun _ _ _ h => ⟨h.1, h.2, h.3, h.4, h.5⟩
    · exact keeps_may yields_value.optional fun _ _ hv h =>
        ⟨h.1, h.2, fun v h => (hv v h).1, fun v h => (hv v h).2, h.5⟩
    · exact keeps_may yields_any fun _ _ _ h => ⟨h.1, h.2, h.3, h.4, h.5⟩
    · exact keeps_may yields_any fun _ _ _ h => ⟨h.1, h.2, h.3, h.4, h.5⟩
    · exact keeps_may yields_count.optional fun _ _ hn h => ⟨h.1, h.2, h.3, h.4, hn⟩
    · exact keeps_may yields_any fun _ _ _ h => ⟨h.1, h.2, h.3, h.4, h.5⟩
    · exact keeps_may yields_any fun _ _ _ h => ⟨h.1, h.2, h.3, h.4, h.5⟩

end Step

namespace Store

/-- The steps of a run are read back. -/
theorem readsBack_steps {steps : List Step} (h : ∀ t ∈ steps, t.Bounded 2)
    (hexact : ∀ t ∈ steps, t.Exact) :
    Decoder.ofText (Decoder.list Step.decode) (stepsText steps) = .ok (steps.map Step.kept) :=
  ReadsBack.ofText (Json.readsBack_list Step.encode Step.kept
    (fun t ht => Step.readsBack_step (h t ht) (hexact t ht) (by decide)) (by decide))

/-- The cursors of a run are read back. -/
theorem readsBack_cursors {c : Cursors} (hsorted : Dict.Sorted c)
    (h : ∀ e ∈ c, e.2 < 0x10000000000000000) :
    Decoder.ofText (Decoder.dict Decoder.count) (Run.encodeCursors c).text = .ok c :=
  ReadsBack.ofText (Json.readsBack_dict (fun n : Nat => Value.int n) hsorted
    (fun e he => Json.readsBack_count (h e he)) (by decide))

/-- A map of values is read back. -/
theorem readsBack_dictText {m : Dict Value} (hm : Json.Bounded 1 m)
    (hexact : ∀ e ∈ m, e.2.Every Value.exact) :
    Decoder.ofText (Decoder.dict Decoder.value) (dictText m) = .ok m :=
  (Json.ofText_text _ _ _).mpr
    (Json.dict_written hm.sorted hm.fits hexact hm.levels (by decide))

/-- Tags are read back. -/
theorem readsBack_tagsText (tags : List String) :
    Decoder.ofText (Decoder.list Decoder.string) (tagsText tags) = .ok tags :=
  ReadsBack.ofText (Json.readsBack_texts tags (by decide))

end Store

-- ============================================================= nodes

namespace Node

/-- A node that keeps within the limits, where its parts are written at some depth. -/
structure Bounded (depth : Nat) (n : Node) : Prop where
  fits : n.config.Every Value.fits
  levels : depth + n.config.levels ≤ maxDepth

/-- A node in whose configuration every float is read back. -/
def Exact (n : Node) : Prop := n.config.Every Value.exact

/-- A text that is left out when it is empty is read back, if it is empty otherwise. -/
theorem fills_unlessEmpty {ρ : Type} {shape : Decoder.Shape ρ} {r r' : ρ} {name s : String}
    {set : String → ρ → ρ} {ps : List (String × Option Value)}
    (hfield : shape.fields.find? (fun f => f.name = name) = some (.may name Decoder.string set))
    (habsent : s = "" → set s r = r) (h : Fills shape depth (set s r) ps r') :
    Fills shape depth r ((name, unlessEmpty s) :: ps) r' := by
  unfold unlessEmpty
  split
  next hs =>
    rw [habsent hs] at h
    exact .absent h
  next => exact .may hfield (Json.readsBack_string s) h

/-- A node is read back. -/
theorem readsBack_node {n : Node} (hn : n.Bounded (depth + 1)) (hexact : n.Exact)
    (hin : depth + 2 ≤ maxDepth) : ReadsBack depth Node.decode n.encode n := by
  have hnames : ["node_id", "name", "node_type", "config", "next_nodes", "on_error", "on_true",
      "on_false", "timeout_seconds", "retry_count", "retry_delay_seconds"].Nodup := by decide
  have honError : ∀ a ∈ n.onError, ReadsBack (depth + 1) _ _ n.onError :=
    Json.readsBack_optional (fun s _ => Json.readsBack_string s) fun _ _ h => by cases h
  refine Fills.record (r := n) ?_ hnames (List.nil_subset _) (by omega)
  rw [show shape.blank = ⟨"", "", .action, .null, [], none, "", "", 30, 0, 5⟩ from rfl]
  refine .may rfl (Json.readsBack_string n.id) ?_
  dsimp only
  refine .may rfl (Json.readsBack_string n.name) ?_
  dsimp only
  refine .may rfl (readsBack_nodeType n.type) ?_
  dsimp only
  refine .may rfl (Json.readsBack_value hn.fits hexact hn.levels) ?_
  dsimp only
  refine .may rfl (Json.readsBack_texts n.nextNodes (by omega)) ?_
  dsimp only
  refine .optional rfl (fun h => by rw [h]) honError ?_
  dsimp only
  refine fills_unlessEmpty rfl (fun h => by rw [h]) ?_
  dsimp only
  refine fills_unlessEmpty rfl (fun h => by rw [h]) ?_
  dsimp only
  refine .may rfl (Json.readsBack_u64 n.timeoutSeconds) ?_
  dsimp only
  refine .may rfl (Json.readsBack_u32 n.retryCount) ?_
  dsimp only
  refine .may rfl (Json.readsBack_u64 n.retryDelaySeconds) ?_
  exact .done

/-- A node that is read keeps within the limits. -/
theorem yields_decode : Yields depth Node.decode (Node.Bounded (depth + 1)) := by
  refine Json.yields_record (fun hin => ⟨trivial, hin⟩) fun f hf => ?_
  simp only [shape, List.mem_cons, List.not_mem_nil, or_false] at hf
  rcases hf with rfl | rfl | rfl | rfl | rfl | rfl | rfl | rfl | rfl | rfl | rfl
  · exact keeps_may yields_any fun _ _ _ h => ⟨h.1, h.2⟩
  · exact keeps_may yields_any fun _ _ _ h => ⟨h.1, h.2⟩
  · exact keeps_may yields_any fun _ _ _ h => ⟨h.1, h.2⟩
  · exact keeps_may yields_value fun _ _ hv _ => ⟨hv.1, hv.2⟩
  all_goals exact keeps_may yields_any fun _ _ _ h => ⟨h.1, h.2⟩

end Node

/-- The nodes of a workflow are read back. -/
theorem Store.readsBack_nodesText {nodes : List Node} (h : ∀ n ∈ nodes, n.Bounded 2)
    (hexact : ∀ n ∈ nodes, n.Exact) :
    Decoder.ofText (Decoder.list Node.decode) (nodesText nodes) = .ok nodes := by
  have hread : ReadsBack 0 (Decoder.list Node.decode) (.array (nodes.map Node.encode))
      (nodes.map id) :=
    Json.readsBack_list Node.encode id
      (fun n hn => Node.readsBack_node (h n hn) (hexact n hn) (by decide)) (by decide)
  rw [List.map_id] at hread
  exact hread.ofText

namespace Store

-- ============================================================== rows

/-- A workflow that reads back intact has in its JSON columns what they say. -/
theorem WorkflowRow.read_intact {row : WorkflowRow} {w : Workflow} (h : row.read = .ok w)
    (hw : w.unreadable = []) :
    Decoder.ofText Decoder.value row.triggerConfig = .ok w.triggerConfig
      ∧ Decoder.ofText (Decoder.list Node.decode) row.nodes = .ok w.nodes
      ∧ Decoder.ofText (Decoder.dict Decoder.value) row.presets = .ok w.presets
      ∧ Decoder.ofText (Decoder.list Decoder.string) row.tags = .ok w.tags := by
  obtain ⟨-, rfl⟩ := WorkflowRow.read_eq_ok_iff.mp h
  have hall := spoilt_eq_nil_iff.mp hw
  simp only [WorkflowRow.columns, List.forall_mem_cons] at hall
  obtain ⟨-, hconfig, hnodes, hpresets, -, htags, -⟩ := hall
  exact ⟨ok_of_isOk hconfig _, ok_of_isOk hnodes _, ok_of_isOk hpresets _, ok_of_isOk htags _⟩

/-- A run that was saved is read with what its JSON columns say, and times to the
microsecond; its beginning is that of the row it was saved into. -/
theorem RunRow.read_save {row : RunRow} {r : Run} {id : String} {context : Context}
    {cursors : Cursors} {steps : List Step} {trigger : Value} (hid : row.id = some id)
    (hcontext : Decoder.ofText (Decoder.dict Decoder.value) (dictText r.context) = .ok context)
    (hcursors : Decoder.ofText (Decoder.dict Decoder.count)
      (Run.encodeCursors r.loopCursors).text = .ok cursors)
    (hsteps : Decoder.ofText (Decoder.list Step.decode) (stepsText r.steps) = .ok steps)
    (htrigger : Decoder.ofText Decoder.value row.triggerData = .ok trigger) :
    (row.save r).read = .ok ⟨id, row.workflowId, r.status, r.currentNode, context, cursors,
      steps, trigger, readInstant row.startedAt, (r.completedAt.map Instant.stored).map readInstant,
      (r.resumeAt.map Instant.stored).map readInstant, r.error, []⟩ := by
  have hstatus : readName RunStatus.ofText .pending "status" r.status.name [] = (r.status, []) := by
    cases r.status <;> rfl
  unfold RunRow.save RunRow.of RunRow.read
  simp only [hid, hstatus, readJson_ok hcontext, readJson_ok hcursors, readJson_ok hsteps,
    readJson_ok htrigger]

end Store

end DurableWorkflow
