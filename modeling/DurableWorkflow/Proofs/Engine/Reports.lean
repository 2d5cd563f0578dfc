/-
What an execution of a run reports, and what is read of the run afterwards. The report
is made from the run in memory, the record from the texts of its row; they agree in
everything but two points. A result of a step that is `null` is reported, but comes
back as no result; and a time to go on of which the year has not four digits comes back
as the beginning of 1970.

The texts of the row are read back because the drive leaves behind what can be stored
(`Graph.drive_storable`); that it begins with such comes from the run and the workflow
being read from texts themselves. What texts do not promise is that floats are read
back, and that lists can be counted in 64 bits: this is asked of the record of the run
and of the nodes of its workflow (`Faithful`).
-/
import DurableWorkflow.Proofs.Action.Standard
import DurableWorkflow.Proofs.Engine.Turns
import DurableWorkflow.Proofs.Store.Timestamps

namespace DurableWorkflow

open Time (Instant)
open Store (RunRow WorkflowRow readInstant)

variable {σ : Type}

-- ============================================== what is begun with

/-- A run and its workflow of which floats are read back and lists can be counted. -/
structure Faithful (r : Run) (w : Workflow) : Prop where
  context : ∀ e ∈ r.context, e.2.Every Value.exact ∧ e.2.Every Value.short
  steps : ∀ t ∈ r.steps, t.Exact
  nodes : ∀ n ∈ w.nodes, n.config.Every Value.exact ∧ n.config.Every Value.short

/-- A run that was read from its row begins with what can be stored. -/
theorem storable_of_read {row : RunRow} {r : Run} (hread : row.read = .ok r)
    (hr : r.unreadable = [])
    (hcontext : ∀ e ∈ r.context, e.2.Every Value.exact ∧ e.2.Every Value.short) :
    (Graph.State.ofRun r).Storable ∧ ∀ t ∈ r.steps, t.Bounded 2 := by
  obtain ⟨-, okContext, okCursors, okSteps, -⟩ := RunRow.read_intact hread hr
  have hbounded := Json.yields_dict.ofText okContext
  have hcursors := Json.yields_count.dict.ofText okCursors
  refine ⟨⟨⟨hbounded.sorted, fun e he => ?_⟩, ⟨hcursors.1, hcursors.2⟩⟩,
    Step.yields_decode.list.ofText okSteps⟩
  exact ⟨hbounded.fits e he, (hcontext e he).1, (hcontext e he).2, hbounded.levels e he⟩

/-- The configurations of a workflow that was read from its row can be stored. -/
theorem storable_nodes {row : WorkflowRow} {w : Workflow} (hread : row.read = .ok w)
    (hw : w.unreadable = [])
    (hnodes : ∀ n ∈ w.nodes, n.config.Every Value.exact ∧ n.config.Every Value.short) :
    ∀ n ∈ w.nodes, n.config.Storable 0 := by
  obtain ⟨-, okNodes, -, -⟩ := WorkflowRow.read_intact hread hw
  intro n hn
  have hbounded := Node.yields_decode.list.ofText okNodes n hn
  exact Value.Storable.mono ⟨hbounded.fits, (hnodes n hn).1, (hnodes n hn).2, hbounded.levels⟩
    (Nat.zero_le 2)

-- ============================================================ reports

/-- A time to go on as it is read back from its text. -/
def keptTime (t : Instant) : Instant :=
  if 0 ≤ t.date.year ∧ t.date.year ≤ 9999 then t.truncate else .epoch

theorem readInstant_stored_of_valid {t : Instant} (ht : t.Valid) :
    readInstant t.stored = keptTime t := by
  unfold keptTime
  split
  next hyear => exact Store.readInstant_of_four_digits ht hyear
  next hyear =>
    obtain ⟨f, hf⟩ := Instant.ofStored_stored_of_not_four_digits hyear
    unfold readInstant
    rw [hf]

/-- An instant that is read from a row is one as clocks show it. -/
theorem valid_readInstant (raw : String) : (readInstant raw).Valid := by
  unfold readInstant
  split
  next h => exact (Instant.valid_of_ofStored h).1
  next => decide

/-- What is driven has what the drive left behind. -/
theorem progressed_state (r : Run) (o : Graph.Outcome) (now : Instant) :
    (Engine.progressed r o now).context = o.state.context
      ∧ (Engine.progressed r o now).loopCursors = o.state.cursors
      ∧ (Engine.progressed r o now).steps = r.steps ++ o.steps
      ∧ ∀ t, (Engine.progressed r o now).resumeAt = some t →
        o.halt = .suspended t ∨ r.resumeAt = some t := by
  unfold Engine.progressed
  cases h : o.halt with
  | suspended due => exact ⟨rfl, rfl, rfl, fun t ht => .inl (congrArg _ (Option.some.inj ht))⟩
  | completed => exact ⟨rfl, rfl, rfl, fun _ ht => .inr ht⟩
  | budgetSpent => exact ⟨rfl, rfl, rfl, fun _ ht => .inr ht⟩
  | nodeMissing node => exact ⟨rfl, rfl, rfl, fun _ ht => .inr ht⟩
  | failed node message => exact ⟨rfl, rfl, rfl, fun _ ht => .inr ht⟩

theorem resumeAt_valid {row : RunRow} {r : Run} (h : row.read = .ok r) :
    ∀ t, r.resumeAt = some t → t.Valid := by
  unfold RunRow.read at h
  split at h
  next => cases h
  next =>
    injection h with h
    subst h
    intro t ht
    obtain ⟨raw, -, rfl⟩ := Option.map_eq_some_iff.mp ht
    exact valid_readInstant raw

/-- A run that is read back from the row it is saved into. -/
structure Run.Storable (r : Run) : Prop where
  context : Dict.Storable 1 r.context
  cursors : Graph.CursorsFit r.loopCursors
  steps : ∀ t ∈ r.steps, t.Bounded 2 ∧ t.Exact
  resumeAt : ∀ t, r.resumeAt = some t → t.Valid

/-- What is driven can be stored. -/
theorem driven_storable {e : Engine σ} {s : EngineState σ} {row : RunRow} {wrow : WorkflowRow}
    {r : Run} {w : Workflow} (htimely : e.toSurroundings.Timely) (htame : e.registry.Tame)
    (hread : row.read = .ok r) (hr : r.unreadable = []) (hwread : wrow.read = .ok w)
    (hw : w.unreadable = []) (hfaithful : Faithful r w) : (e.driven r w s).Storable := by
  obtain ⟨hcontext, hexact, hnodes⟩ := hfaithful
  obtain ⟨hstate, hsteps⟩ := storable_of_read hread hr hcontext
  have hdriven := Graph.drive_storable htimely htame (storable_nodes hwread hw hnodes)
    e.settings.maxSteps hstate s.world
  obtain ⟨hdcontext, hdcursors, hdsteps, hdtime⟩ :=
    progressed_state r (e.driveRun r w s).1 (e.clock (e.driveRun r w s).2).1
  refine ⟨hdcontext ▸ hdriven.state.context, hdcursors ▸ hdriven.state.cursors, fun t ht => ?_,
    fun t ht => ?_⟩
  · rcases List.mem_append.mp (hdsteps ▸ ht) with ht | ht
    · exact ⟨hsteps t ht, hexact t ht⟩
    · exact ⟨(hdriven.steps t ht).bounded, (hdriven.steps t ht).exact⟩
  · rcases hdtime t ht with ht | ht
    · exact hdriven.halt t ht
    · exact resumeAt_valid hread t ht

/-- A run that can be stored is read back from the row it is saved into, but for results that
are `null` and for times. -/
theorem Run.Storable.read_save {row : RunRow} {r : Run} {id : String} {trigger : Value}
    (h : r.Storable) (hid : row.id = some id)
    (htrigger : Decoder.ofText Decoder.value row.triggerData = .ok trigger) :
    (row.save r).read = .ok ⟨id, row.workflowId, r.status, r.currentNode, r.context,
      r.loopCursors, r.steps.map Step.kept, trigger, readInstant row.startedAt,
      (r.completedAt.map Instant.stored).map readInstant, r.resumeAt.map keptTime, r.error,
      []⟩ := by
  have hsaved := RunRow.read_save hid
    (Store.readsBack_dictText h.context.bounded h.context.exact)
    (Store.readsBack_cursors h.cursors.sorted h.cursors.fit)
    (Store.readsBack_steps (fun t ht => (h.steps t ht).1) fun t ht => (h.steps t ht).2) htrigger
  have htime : (r.resumeAt.map Instant.stored).map readInstant = r.resumeAt.map keptTime := by
    cases hresume : r.resumeAt with
    | none => rfl
    | some t => exact congrArg some (readInstant_stored_of_valid (h.resumeAt t hresume))
  rw [htime] at hsaved
  exact hsaved

/-- After an execution that reports, the record of the run is intact and says what the
report says: the same standing, context and error; the same steps, but for results that
are `null`, so exactly the same ones if there is no such result; and the same time to go
on, to the microsecond, if its year has four digits. -/
theorem report_is_stored (e : Engine σ) {s : EngineState σ} {run : String} {report : Report}
    (hs : s.store.Sound) (htimely : e.toSurroundings.Timely) (htame : e.registry.Tame)
    (hfaithful : ∀ r w, Engine.executable s.store run = .ok (r, w) → Faithful r w)
    (h : (e.executeRun run s).1 = .ok report) :
    ∃ r, Engine.run? report.runId (e.executeRun run s).2 = .ok (some r) ∧ r.isIntact = true ∧
      r.status = report.status ∧ r.context = report.context ∧ r.error = report.error ∧
      r.steps = report.steps.map Step.kept ∧
      (r.steps = report.steps ↔ ∀ t ∈ report.steps, t.result ≠ some .null) ∧
      r.resumeAt = report.resumeAt.map keptTime ∧
      ∀ t ∈ report.resumeAt, 0 ≤ t.date.year ∧ t.date.year ≤ 9999 →
        r.resumeAt = some t.truncate := by
  rcases e.executeRun_moved hs run with ⟨row, r, w, hrow, hexec, hreply, hmoved⟩ | ⟨f, -, hreply⟩
  · obtain rfl := Except.ok.inj (h.symm.trans hreply)
    obtain ⟨hrun, hintact, -, hworkflow, hwintact⟩ := Engine.executable_eq_ok_iff.mp hexec
    have hread := Store.read_of_run? hrow hrun
    obtain ⟨wrow, -, hwread⟩ := Store.workflow?_eq_some_iff.mp hworkflow
    have hstorable : (e.driven r w s).Storable :=
      driven_storable htimely htame hread hintact hwread hwintact (hfaithful r w hexec)
    have hid : (e.driven r w s).id = run :=
      (Engine.progressed_id _ _ _).trans
        (Option.some.inj ((RunRow.read_plain hread).1.symm.trans (Store.id_of_runRow? hrow)))
    have hsaved := hstorable.read_save (Store.id_of_runRow? hrow)
      (RunRow.read_intact hread hintact).2.2.2.2
    have hfound := Store.run?_eq_some_iff.mpr ⟨_, (congrArg _ hid).trans hmoved.row, hsaved⟩
    refine ⟨_, hfound, rfl, rfl, rfl, rfl, rfl, Step.map_kept_eq_iff _, rfl, fun t ht hyear => ?_⟩
    show (e.driven r w s).resumeAt.map keptTime = _
    have ht' : (e.driven r w s).resumeAt = some t := ht
    rw [ht', Option.map_some, keptTime, if_pos hyear]
  · rw [hreply] at h
    cases h

-- ======================================================== one action

/-- An engine with some handlers and a clock that stands still. -/
def Engine.timeless (registry : Registry Unit) : Engine Unit where
  registry := registry
  now world := (.epoch, world)
  settings := .standard
  ids := ⟨fun n => "w" ++ toString n, fun n => "r" ++ toString n, fun n => "n" ++ toString n⟩

theorem Engine.timely_timeless (registry : Registry Unit) :
    (Engine.timeless registry).toSurroundings.Timely := by
  have hepoch : Instant.epoch.Valid ∧ Instant.inRange Instant.epoch.seconds = true := by decide
  exact fun _ => hepoch

/-- A run of a workflow that performs one action was started. -/
def beforeAction (registry : Registry Unit) (kind : ActionKind) : EngineState Unit :=
  (Engine.timeless registry).after
    [.operation (.create ((Blueprint.new "one").withNodes [.action "act" kind.name .null])),
      .operation (.start "w0" .null)] (.starting ())

/-- Whether a configuration consists of texts. -/
def ofTexts? : Value → Bool
  | .object members => members.all fun e => e.2.string?.isSome
  | _ => false

theorem every_of_ofTexts? {p : Value → Prop} (hobject : ∀ members, p (.object members))
    (hstring : ∀ s, p (.string s)) {v : Value} (h : ofTexts? v = true) : v.Every p := by
  unfold ofTexts? at h
  split at h
  next members =>
    refine ⟨hobject members, Value.everyMember_iff.mpr fun e he => ?_⟩
    have htext := List.all_eq_true.mp h e he
    unfold Value.string? at htext
    split at htext
    next s hs =>
      rw [hs]
      exact hstring s
    next => cases htext
  next => cases h

/-- Whether there is a run that has brought nothing yet, with nodes that are configured by
texts. -/
def isFresh : Except Failure (Run × Workflow) → Bool
  | .ok (r, w) => r.context.isEmpty && r.steps.isEmpty && w.nodes.all fun n => ofTexts? n.config
  | .error _ => false

theorem faithful_of_isFresh {found : Except Failure (Run × Workflow)}
    (h : isFresh found = true) (r : Run) (w : Workflow) (hfound : found = .ok (r, w)) :
    Faithful r w := by
  subst hfound
  simp only [isFresh, Bool.and_eq_true, List.isEmpty_iff] at h
  obtain ⟨⟨hcontext, hsteps⟩, hnodes⟩ := h
  refine ⟨fun e he => ?_, fun t ht => ?_, fun n hn => ?_⟩
  · rw [hcontext] at he
    exact (List.not_mem_nil he).elim
  · rw [hsteps] at ht
    exact (List.not_mem_nil ht).elim
  · have htexts := List.all_eq_true.mp hnodes n hn
    exact ⟨every_of_ofTexts? (fun _ => trivial) (fun _ => trivial) htexts,
      every_of_ofTexts? (fun _ => trivial) (fun _ => trivial) htexts⟩

/-- Whether there is a report on a run with one step, which has a result, and whether that
is `null`. -/
def reportsOne (run : String) (isNull : Bool) : Except Failure Report → Bool
  | .ok report =>
    report.runId = run && report.resumeAt.isNone
      && (report.steps.map fun t => t.result.map Value.isNull) == [some isNull]
  | .error _ => false

theorem exists_of_reportsOne {run : String} {isNull : Bool} {reply : Except Failure Report}
    (h : reportsOne run isNull reply = true) :
    ∃ report, reply = .ok report ∧ report.runId = run ∧ report.resumeAt = none ∧
      ∃ t v, report.steps = [t] ∧ t.result = some v ∧ v.isNull = isNull := by
  unfold reportsOne at h
  split at h
  next report =>
    simp only [Bool.and_eq_true, decide_eq_true_eq, Option.isNone_iff_eq_none, beq_iff_eq] at h
    obtain ⟨⟨hid, hresume⟩, hmap⟩ := h
    obtain ⟨t, ts, hsteps, hresult, hts⟩ := List.map_eq_cons_iff.mp hmap
    obtain rfl := List.map_eq_nil_iff.mp hts
    obtain ⟨v, hv, hnull⟩ := Option.map_eq_some_iff.mp hresult
    exact ⟨report, rfl, hid, hresume, t, v, hsteps, hv, hnull⟩
  next => cases h

/-- The message that is written to the log is stored as it is reported. -/
theorem report_is_stored_log :
    ∃ report r, ((Engine.timeless .standard).executeRun "r0" (beforeAction .standard .log)).1
        = .ok report ∧
      Engine.run? "r0" ((Engine.timeless .standard).executeRun "r0"
        (beforeAction .standard .log)).2 = .ok (some r) ∧
      r.isIntact = true ∧ r.context = report.context ∧ r.steps = report.steps ∧
      r.steps.length = 1 ∧ r.resumeAt = report.resumeAt := by
  have hone : reportsOne "r0" false
      ((Engine.timeless .standard).executeRun "r0" (beforeAction .standard .log)).1 = true := by
    decide +kernel
  obtain ⟨report, hreport, hid, hresume, t, v, hsteps, hresult, hnull⟩ :=
    exists_of_reportsOne hone
  obtain ⟨r, hfound, hintact, -, hcontext, -, -, hsame, hat, -⟩ :=
    report_is_stored (Engine.timeless .standard) (s := beforeAction .standard .log)
      (sound_after _ _ _) (Engine.timely_timeless _) Registry.standard_tame
      (faithful_of_isFresh (by decide +kernel)) hreport
  have heq : r.steps = report.steps := by
    refine hsame.mpr fun t' ht' h => ?_
    obtain rfl := List.mem_singleton.mp (hsteps ▸ ht')
    obtain rfl := Option.some.inj (hresult.symm.trans h)
    cases hnull
  rw [hid] at hfound
  refine ⟨report, r, hreport, hfound, hintact, hcontext, heq, ?_, ?_⟩
  · rw [heq, hsteps]
    rfl
  · rw [hat, hresume]
    rfl

/-- A handler that answers a request with `null`. -/
def nullHook : Registry Unit :=
  Registry.empty.register .webhook fun _ context world => (⟨.ok .null, context, 0⟩, world)

theorem nullHook_tame : nullHook.Tame := by
  intro kind h hkind config context world _ hcontext v hv
  unfold nullHook Registry.register at hkind
  split at hkind
  next =>
    obtain rfl := Option.some.inj hkind
    obtain rfl := Except.ok.inj hv
    exact ⟨⟨trivial, trivial, trivial, by decide⟩, hcontext⟩
  next => cases hkind

/-- Whether there is an intact record of a run with one step, which has no result. -/
def recordsNone : Except Failure (Option Run) → Bool
  | .ok (some r) => r.isIntact && (r.steps.map fun t => t.result.isNone) == [true]
  | _ => false

theorem exists_of_recordsNone {found : Except Failure (Option Run)}
    (h : recordsNone found = true) :
    ∃ r, found = .ok (some r) ∧ r.isIntact = true ∧ ∃ t, r.steps = [t] ∧ t.result = none := by
  unfold recordsNone at h
  split at h
  next r =>
    simp only [Bool.and_eq_true, beq_iff_eq] at h
    obtain ⟨hintact, hmap⟩ := h
    obtain ⟨t, ts, hsteps, hresult, hts⟩ := List.map_eq_cons_iff.mp hmap
    obtain rfl := List.map_eq_nil_iff.mp hts
    exact ⟨r, rfl, hintact, t, hsteps, Option.isNone_iff_eq_none.mp hresult⟩
  next => cases h

/-- A result that is `null` is reported, and it is no result when the record of the run is
read. -/
theorem null_is_not_stored :
    nullHook.Tame ∧ ∃ report r t t',
      ((Engine.timeless nullHook).executeRun "r0" (beforeAction nullHook .webhook)).1
        = .ok report ∧
      Engine.run? report.runId ((Engine.timeless nullHook).executeRun "r0"
        (beforeAction nullHook .webhook)).2 = .ok (some r) ∧
      r.isIntact = true ∧ report.steps = [t] ∧ r.steps = [t'] ∧
      t.result = some .null ∧ t'.result = none ∧ r.steps ≠ report.steps := by
  have hone : reportsOne "r0" true
      ((Engine.timeless nullHook).executeRun "r0" (beforeAction nullHook .webhook)).1 = true := by
    decide +kernel
  have hnone : recordsNone (Engine.run? "r0" ((Engine.timeless nullHook).executeRun "r0"
      (beforeAction nullHook .webhook)).2) = true := by
    decide +kernel
  obtain ⟨report, hreport, hid, -, t, v, hsteps, hresult, hnull⟩ := exists_of_reportsOne hone
  obtain ⟨r, hfound, hintact, t', hsteps', hresult'⟩ := exists_of_recordsNone hnone
  have hv : v = .null := by
    cases v with
    | null => rfl
    | _ => cases hnull
  refine ⟨nullHook_tame, report, r, t, t', hreport, hid.symm ▸ hfound, hintact, hsteps, hsteps',
    hv ▸ hresult, hresult', fun h => ?_⟩
  obtain rfl := List.head_eq_of_cons_eq (hsteps'.symm.trans (h.trans hsteps))
  rw [hresult] at hresult'
  cases hresult'

end DurableWorkflow
