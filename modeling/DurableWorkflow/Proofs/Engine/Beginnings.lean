/-
The beginning of a run. What is stored of a run when it is started is read back, so that
the run can be executed: its context holds the presets of its workflow and the payload
that came with the start.

There is one exception. The payload stands in its text at the outermost level, but in the
context one level further in, and a text may use up all levels that the reader follows.
Such a payload is written into the context and cannot be read there; the run is started,
but no execution works with it.

That the presets are read back rests on where they come from: the workflow was made from a
blueprint, and revised by revisions, that were read from texts (`Engine.FromTexts`). What
is told of it by a history (`Engine.described`) is what its row holds (`tells_after`).
-/
import DurableWorkflow.Proofs.Engine.Apart
import DurableWorkflow.Proofs.Store.Workflows

namespace DurableWorkflow

open Json (maxDepth yields_value)
open Store (RunRow WorkflowRow readInstant)
open Time (Instant)

variable {σ : Type} {e : Engine σ} {s : EngineState σ} {workflow : String}

-- ====================================================== what is told

/-- A blueprint that was read from a text, in which every float is read back. -/
structure Blueprint.IsRead (b : Blueprint) : Prop where
  text : ∃ text, Decoder.ofText Blueprint.decode text = .ok b
  exact : b.Exact

/-- A revision that was read from a text, in which every float is read back. -/
structure Revision.IsRead (u : Revision) : Prop where
  text : ∃ text, Decoder.ofText Revision.decode text = .ok u
  exact : u.Exact

/-- Whether an occurrence makes or revises a workflow only with what was read from a
text. -/
def Occurrence.FromText (e : Engine σ) (workflow : String) (s : EngineState σ) :
    Occurrence σ → Prop
  | .operation (.create b) => e.ids.workflow s.issued.workflows = workflow → b.IsRead
  | .operation (.revise id u) => id = workflow → u.IsRead
  | _ => True

/-- Whether a history does. -/
def Engine.FromTexts (e : Engine σ) (workflow : String) :
    List (Occurrence σ) → EngineState σ → Prop
  | [], _ => True
  | x :: h, s => x.FromText e workflow s ∧ e.FromTexts workflow h (e.next s x)

/-- A workflow with the new values of a revision, whose nodes get ids; it stays as it was
if the revision is refused. -/
def Engine.revised (e : Engine σ) (s : EngineState σ) (u : Revision) (w : Workflow) : Workflow :=
  match e.normalized u s.issued.nodes with
  | .ok (u, _) => w.revised u
  | .error _ => w

/-- What an occurrence tells of a workflow of which something was told before. -/
def Engine.describe (e : Engine σ) (workflow : String) (s : EngineState σ)
    (told : Option Workflow) : Occurrence σ → Option Workflow
  | .operation (.create b) =>
    match (e.createWorkflow b s).1 with
    | .ok w => if w.id = workflow then some w else told
    | .error _ => told
  | .operation (.revise id u) => if id = workflow then told.map (e.revised s u) else told
  | .operation (.activate id) =>
    if id = workflow then told.map (e.revised s (.ofStatus .active)) else told
  | .operation (.pause id) =>
    if id = workflow then told.map (e.revised s (.ofStatus .paused)) else told
  | .operation (.delete id) => if id = workflow then none else told
  | _ => told

/-- What a history tells of a workflow: what it was made as, with its revisions. -/
def Engine.described (e : Engine σ) (workflow : String) :
    List (Occurrence σ) → EngineState σ → Option Workflow → Option Workflow
  | [], _, told => told
  | x :: h, s, told => e.described workflow h (e.next s x) (e.describe workflow s told x)

/-- A store tells of a workflow what its row holds, and can read that back. -/
def Store.Tells (s : Store) (workflow : String) : Option Workflow → Prop
  | none => s.workflowRow? workflow = none
  | some w => w.Writable ∧ ∃ row, s.workflowRow? workflow = some row ∧ row.Holds w

/-- What is told of a workflow is told by its row alone. -/
theorem Store.Tells.congr {s s' : Store} {told : Option Workflow}
    (h : s'.workflowRow? workflow = s.workflowRow? workflow) (hs : s.Tells workflow told) :
    s'.Tells workflow told := by
  cases told with
  | none => exact h.trans hs
  | some w =>
      obtain ⟨hw, row, hrow, hholds⟩ := hs
      exact ⟨hw, row, h.trans hrow, hholds⟩

-- ===================================================== one occurrence

/-- A workflow that is made from what was read is read back. -/
theorem writable_draft {b : Blueprint} (hb : b.IsRead) {used used' : Nat} {nodes : List Node}
    (hnodes : Node.normalize e.ids.node used b.nodes = .ok (nodes, used')) (id : String)
    (now : Instant) : (e.draft b nodes id now).Writable := by
  obtain ⟨⟨text, htext⟩, hexact⟩ := hb
  have hbounded := Blueprint.yields_decode.ofText htext
  exact ⟨⟨hbounded.fits, hexact.triggerConfig, hbounded.levels⟩,
    Node.writable_normalize hnodes fun n hn => ⟨hbounded.nodes n hn, hexact.nodes n hn⟩,
    ⟨hbounded.presets, hexact.presets⟩⟩

/-- A workflow is made and added to the others, or nothing is stored. -/
theorem Engine.createWorkflow_cases (e : Engine σ) (b : Blueprint) (s : EngineState σ) :
    (∃ f, (e.createWorkflow b s).1 = .error f ∧ (e.createWorkflow b s).2.store = s.store) ∨
      ∃ nodes used store, Node.normalize e.ids.node s.issued.nodes b.nodes = .ok (nodes, used) ∧
        s.store.insertWorkflow
          (e.draft b nodes (e.ids.workflow s.issued.workflows) (e.clock s).1) = .ok store ∧
        (e.createWorkflow b s).1
          = .ok (e.draft b nodes (e.ids.workflow s.issued.workflows) (e.clock s).1) ∧
        (e.createWorkflow b s).2.store.workflows = store.workflows := by
  unfold createWorkflow
  cases hnodes : Node.normalize e.ids.node s.issued.nodes b.nodes with
  | error f => exact .inl ⟨f, rfl, rfl⟩
  | ok found =>
      obtain ⟨nodes, used⟩ := found
      cases hinsert : s.store.insertWorkflow
          (e.draft b nodes (e.ids.workflow s.issued.workflows) (e.clock s).1) with
      | error f =>
          simp only [show (e.clock s).2.store = s.store from rfl,
            show (e.clock s).2.issued = s.issued from rfl, hinsert]
          exact .inl ⟨f, rfl, trivial⟩
      | ok store =>
          simp only [show (e.clock s).2.store = s.store from rfl,
            show (e.clock s).2.issued = s.issued from rfl, hinsert]
          exact .inr ⟨nodes, used, store, rfl, hinsert, rfl, rfl⟩

/-- What is made is told of. -/
theorem tells_create {told : Option Workflow} (b : Blueprint)
    (hb : e.ids.workflow s.issued.workflows = workflow → b.IsRead)
    (hs : s.store.Tells workflow told) :
    (e.createWorkflow b s).2.store.Tells workflow
      (e.describe workflow s told (.operation (.create b))) := by
  rcases e.createWorkflow_cases b s with
    ⟨f, hreply, hstore⟩ | ⟨nodes, used, store, hnodes, hinsert, hreply, hstore⟩
  · rw [Engine.describe, hreply, hstore]
    exact hs
  · have hrow := (Store.workflowRow?_congr hstore workflow).trans
      (Store.workflowRow?_insert hinsert workflow)
    rw [Engine.describe, hreply]
    simp only
    split
    next hid =>
      rw [if_pos hid] at hrow
      exact ⟨writable_draft (hb hid) hnodes _ _, _, hrow, WorkflowRow.holds_of _⟩
    next hid =>
      rw [if_neg hid] at hrow
      exact hs.congr hrow

/-- What a revision sets is still read back with ids for its nodes. -/
theorem writable_normalized {u u' : Revision} {used used' : Nat} (hu : u.Writable)
    (h : e.normalized u used = .ok (u', used')) : u'.Writable := by
  unfold Engine.normalized at h
  split at h
  next =>
    obtain ⟨rfl, -⟩ := Prod.mk.inj (Except.ok.inj h)
    exact hu
  next nodes hnodes =>
    split at h
    next => cases h
    next nodes' _ hnormal =>
      obtain ⟨rfl, -⟩ := Prod.mk.inj (Except.ok.inj h)
      refine ⟨hu.triggerConfig, fun ns hns => ?_, hu.presets⟩
      obtain rfl := Option.some.inj hns
      exact Node.writable_normalize hnormal (hu.nodes nodes hnodes)

/-- A store tells of a workflow as it was revised. -/
theorem Store.Tells.revise {s : Store} {told : Option Workflow} (hs : s.Tells workflow told)
    {id : String} {u : Revision} (hu : id = workflow → u.Writable) (now : Instant) :
    (s.reviseWorkflow id u now).2.Tells workflow
      (if id = workflow then told.map (·.revised u) else told) := by
  cases hempty : u.isEmpty with
  | true =>
      unfold Store.reviseWorkflow
      simp only [hempty, if_true, Workflow.revised_of_isEmpty hempty, Option.map_id', ite_self]
      exact hs
  | false =>
      have hrow := Store.workflowRow?_revise hempty s id now workflow
      by_cases hid : id = workflow
      · rw [if_pos hid.symm] at hrow
        rw [if_pos hid]
        cases told with
        | none =>
            have hnone : s.workflowRow? workflow = none := hs
            rw [hnone] at hrow
            exact hrow
        | some w =>
            obtain ⟨hw, row, hfound, hholds⟩ := hs
            rw [hfound] at hrow
            exact ⟨hw.revised (hu hid), _, hrow, hholds.revise u now⟩
      · rw [if_neg (Ne.symm hid)] at hrow
        rw [if_neg hid]
        exact hs.congr hrow

/-- What is revised is told of as it was revised. -/
theorem tells_revise {told : Option Workflow} (id : String) {u : Revision}
    (hu : id = workflow → u.Writable) (hs : s.store.Tells workflow told) :
    (e.reviseWorkflow id u s).2.store.Tells workflow
      (e.describe workflow s told (.operation (.revise id u))) := by
  have htold : e.describe workflow s told (.operation (.revise id u))
      = if id = workflow then told.map (e.revised s u) else told := rfl
  unfold Engine.reviseWorkflow
  unfold Engine.revised at htold
  cases hnormal : e.normalized u s.issued.nodes with
  | error f =>
      simp only [hnormal, Option.map_id', ite_self] at htold
      rw [htold]
      exact hs
  | ok found =>
      obtain ⟨u', used⟩ := found
      simp only [hnormal] at htold
      rw [htold]
      have hrevised := hs.revise (u := u')
        (fun hid => writable_normalized (hu hid) hnormal) (e.clock s).1
      cases hrevise : s.store.reviseWorkflow id u' (e.clock s).1 with
      | mk changed store =>
          simp only [show (e.clock s).2.store = s.store from rfl, hrevise]
          rw [hrevise] at hrevised
          cases changed with
          | true => exact hrevised
          | false =>
              exact hrevised.congr (Store.workflowRow?_of_revise_false hrevise workflow).symm

/-- What is removed is told of no more. -/
theorem tells_delete {told : Option Workflow} (id : String)
    (hs : s.store.Tells workflow told) :
    (Engine.deleteWorkflow id s).2.store.Tells workflow
      (e.describe workflow s told (.operation (.delete id))) := by
  have hrow := Store.workflowRow?_delete (s := s.store) id workflow
  by_cases hid : id = workflow
  · rw [if_pos hid.symm] at hrow
    rw [Engine.describe, if_pos hid]
    exact hrow
  · rw [if_neg (Ne.symm hid)] at hrow
    rw [Engine.describe, if_neg hid]
    exact hs.congr hrow

/-- What an occurrence tells of a workflow its row holds. -/
theorem tells_next {told : Option Workflow} {x : Occurrence σ}
    (hx : x.FromText e workflow s) (hs : s.store.Tells workflow told) :
    (e.next s x).store.Tells workflow (e.describe workflow s told x) := by
  cases x with
  | outside world issued => exact hs
  | operation o =>
      cases o with
      | create b => exact tells_create b hx hs
      | revise id u =>
          refine tells_revise id (fun hid => ?_) hs
          obtain ⟨⟨text, htext⟩, hexact⟩ := hx hid
          exact (Revision.yields_decode.ofText htext).writable hexact
      | activate id => exact tells_revise id (fun _ => Revision.writable_ofStatus .active) hs
      | pause id => exact tells_revise id (fun _ => Revision.writable_ofStatus .paused) hs
      | delete id => exact tells_delete id hs
      | start _ _ | execute _ | cancel _ | resumeDue =>
          exact hs.congr (Store.workflowRow?_congr (e.workflows_of_isOfRuns rfl s) workflow)
      | _ => exact hs

/-- What a history tells of a workflow its row holds, if it held what was told before. -/
theorem tells_after {told : Option Workflow} {h : List (Occurrence σ)}
    (hread : e.FromTexts workflow h s) (hs : s.store.Tells workflow told) :
    (e.after h s).store.Tells workflow (e.described workflow h s told) := by
  induction h generalizing s told with
  | nil => exact hs
  | cons x h ih => exact ih hread.2 (tells_next hread.1 hs)

/-- Where nothing was stored before, nothing needs to be told before. -/
theorem tells_history {world : σ} {h : List (Occurrence σ)}
    (hread : e.FromTexts workflow h (.starting world)) :
    (e.after h (.starting world)).store.Tells workflow
      (e.described workflow h (.starting world) none) := by
  have hnone : (EngineState.starting world).store.Tells workflow none := rfl
  exact tells_after hread hnone

-- ========================================================= first rows

variable {w : Workflow} {payload : Value}

/-- A context that begins with presets that are read back, and with a payload that leaves
the reader a level, is read back. -/
theorem writable_firstContext (hw : Dict.Writable w.presets) (hpayload : payload.Writable)
    (hlevels : payload.levels < maxDepth) :
    Dict.Writable (Engine.firstContext w payload) := by
  unfold Engine.firstContext
  split
  next =>
    refine ⟨hw.bounded.insert _ hpayload.fits (by omega), ?_⟩
    exact Dict.of_insert (p := fun e : String × Value => e.2.Every Value.exact) hw.exact
      hpayload.exact
  next => exact hw

/-- What is nested at all deeply is a payload. -/
theorem hasPayload_of_levels (h : 1 < payload.levels) : Engine.hasPayload payload = true := by
  cases payload with
  | array items => rfl
  | object members =>
      cases members with
      | nil => exact absurd h (by decide)
      | cons m ms => rfl
  | null => exact absurd h (by decide)
  | bool b => rfl
  | int n => rfl
  | real x => rfl
  | string t => rfl

/-- A context with a payload that leaves the reader no level is not read back. -/
theorem firstContext_deep (h : maxDepth ≤ payload.levels) (m : Dict Value) :
    Decoder.ofText (Decoder.dict Decoder.value)
      (Store.dictText (Engine.firstContext w payload)) ≠ .ok m := by
  have hlevels : 1 < payload.levels := Nat.lt_of_lt_of_le (by decide) h
  intro hread
  refine Json.dict_written_deep (by decide) ?_ m ((Json.ofText_text _ _ _).mp hread)
  refine ⟨(Engine.triggerKey, payload), Dict.mem_of_find? ?_, ?_⟩
  · rw [Engine.firstContext, if_pos (hasPayload_of_levels hlevels), Dict.find?_insert, if_pos rfl]
  · show maxDepth < 0 + 1 + payload.levels
    omega

/-- The first row of a run is read as it was written. -/
theorem read_firstRow (hcontext : Dict.Writable (Engine.firstContext w payload))
    (hpayload : payload.Writable) (id : String) (now : Instant) :
    (RunRow.of (Engine.firstState w id payload now)).read
      = .ok { Engine.firstState w id payload now with startedAt := readInstant now.stored } :=
  RunRow.read_of (Store.readsBack_dictText hcontext.bounded hcontext.exact)
    (Json.ofText_empty Decoder.count) (Json.ofText_nil Step.decode) hpayload.ofText

/-- If its context is not read back, that is kept as a text, and the run has an empty one. -/
theorem read_firstRow_deep
    (hcontext : ∀ m, Decoder.ofText (Decoder.dict Decoder.value)
      (Store.dictText (Engine.firstContext w payload)) ≠ .ok m)
    (hpayload : payload.Writable) (id : String) (now : Instant) :
    (RunRow.of (Engine.firstState w id payload now)).read
      = .ok { Engine.firstState w id payload now with
          context := []
          startedAt := readInstant now.stored
          unreadable := [⟨"context", Store.dictText (Engine.firstContext w payload)⟩] } := by
  have hstatus : Store.readName RunStatus.ofText .pending "status" RunStatus.running.name []
      = (.running, []) := rfl
  have hcursors : Decoder.ofText (Decoder.dict Decoder.count) (Run.encodeCursors []).text
      = .ok [] := Json.ofText_empty Decoder.count
  have hsteps : Decoder.ofText (Decoder.list Step.decode) (Store.stepsText []) = .ok [] :=
    Json.ofText_nil Step.decode
  unfold RunRow.of RunRow.read Engine.firstState
  simp only [hstatus, Store.readJson_error hcontext, Store.readJson_ok hcursors,
    Store.readJson_ok hsteps, Store.readJson_ok hpayload.ofText]
  rfl

-- ======================================================== beginnings

/-- What is started is the workflow that is told of, which reads back intact. -/
theorem exists_told {told : Option Workflow} (hs : s.store.Tells workflow told) {w' : Workflow}
    (hfound : s.store.workflow? workflow = .ok (some w')) :
    ∃ w created updated, told = some w ∧ w.id = workflow ∧ w.Writable ∧
      w' = { w with createdAt := created, updatedAt := updated, unreadable := [] } := by
  obtain ⟨row, hrow, hread⟩ := Store.workflow?_eq_some_iff.mp hfound
  cases told with
  | none =>
      have hnone : s.store.workflowRow? workflow = none := hs
      rw [hnone] at hrow
      cases hrow
  | some w =>
      obtain ⟨hw, row', hrow', hholds⟩ := hs
      obtain rfl := Option.some.inj (hrow.symm.trans hrow')
      have hid : some w.id = some workflow := by
        have hfirst : row.id = some workflow := by simpa using List.find?_some hrow
        rw [← hfirst, show row.id = some w.id from congrArg WorkflowRow.id hholds]
      exact ⟨w, _, _, rfl, Option.some.inj hid, hw,
        Except.ok.inj (hread.symm.trans (hholds.read hw))⟩

/-- A run that is started has its first row, and its workflow is still the one that is told
of. -/
theorem exists_firstRow {told : Option Workflow} (hsound : s.store.Sound)
    (hs : s.store.Tells workflow told) {run : String} {s' : EngineState σ}
    (hstarted : e.startRun workflow payload s = (.ok (some run), s')) :
    ∃ w w' now, told = some w ∧ w.Writable ∧ w'.id = workflow ∧ w'.presets = w.presets ∧
      w'.nodes = w.nodes ∧ w'.unreadable = [] ∧
      s'.store.runRow? run = some (.of (Engine.firstState w' run payload now)) ∧
      s'.store.workflow? workflow = .ok (some w') ∧ s'.store.Sound := by
  rcases e.startRun_moved hsound workflow payload with
    ⟨run', w', hreply, -, hfound, -, -, hmoved⟩ | ⟨hnone, -⟩
  · rw [hstarted] at hreply hmoved
    obtain rfl := Option.some.inj (Except.ok.inj hreply)
    obtain ⟨w, created, updated, htold, hid, hw, rfl⟩ := exists_told hs hfound
    have hsame : s'.store.workflow? workflow = s.store.workflow? workflow := by
      rw [Store.workflow?, Store.workflowRow?_congr hmoved.workflows]
      rfl
    exact ⟨w, { w with createdAt := created, updatedAt := updated, unreadable := [] }, _, htold, hw,
      hid, rfl, rfl, rfl, hmoved.row, hsame.trans hfound, hmoved.sound⟩
  · rw [hstarted] at hnone
    exact absurd rfl (hnone run)

/-- A run with a field that cannot be read is not worked with. -/
theorem executeRun_corrupt {run : String} {r : Run} {bad : Unreadable} {bads : List Unreadable}
    (hrun : s.store.run? run = .ok (some r)) (hbad : r.unreadable = bad :: bads) :
    (e.executeRun run s).1 = .error (.corruptRecord r.id bad.field) := by
  have hfirst : r.unreadable.head? = some bad := by rw [hbad]; rfl
  rw [e.executeRun_refused (Engine.executable_of_unreadable hrun hfirst)]

/-- A run with an intact record can be executed while it is running, if that of its workflow
is intact. -/
theorem executeRun_intact (hs : s.store.Sound) {run : String} {r : Run} {w : Workflow}
    (hrun : s.store.run? run = .ok (some r)) (hr : r.unreadable = [])
    (hstatus : r.status = .running) (hw : s.store.workflow? r.workflowId = .ok (some w))
    (hintact : w.unreadable = []) : ∃ report, (e.executeRun run s).1 = .ok report := by
  have hexec := Engine.executable_eq_ok_iff.mpr ⟨hrun, hr, hstatus, hw, hintact⟩
  rcases e.executeRun_moved hs run with ⟨_, _, _, _, _, hreply, -⟩ | ⟨f, hf, -⟩
  · exact ⟨_, hreply⟩
  · rw [hexec] at hf
    cases hf

/-- The beginning of a run. Let a workflow be made from a blueprint that was read from a
text, and revised only by such revisions, and let a run of it be started with a payload
that was read from a text. If the payload leaves the reader a level, then the record of the
run is intact and says what the run begins with: the presets of the workflow with the
payload, the payload itself, and the first node; and the run can be executed. If it uses up
all levels, which is the most that a text can do, then the context of the record is
unreadable, and no execution works with it. -/
theorem started_run_is_stored (e : Engine σ) (world : σ) (h : List (Occurrence σ))
    (workflow text : String) {payload : Value} {run : String} {s s' : EngineState σ}
    (hs : s = e.after h (.starting world)) (hread : e.FromTexts workflow h (.starting world))
    (hpayload : Decoder.ofText Decoder.value text = .ok payload)
    (hexact : payload.Every Value.exact)
    (hstarted : e.startRun workflow payload s = (.ok (some run), s')) :
    ∃ w, e.described workflow h (.starting world) none = some w ∧ payload.levels ≤ maxDepth ∧
      (payload.levels < maxDepth →
        (∃ r, Engine.run? run s' = .ok (some r) ∧ r.isIntact = true ∧
          r.workflowId = workflow ∧ r.status = .running ∧
          r.context = Engine.firstContext w payload ∧ r.triggerData = payload ∧
          r.currentNode = w.entry) ∧
        ∃ report, (e.executeRun run s').1 = .ok report) ∧
      (payload.levels = maxDepth →
        (∃ r, Engine.run? run s' = .ok (some r) ∧
          r.unreadable.map Unreadable.field = ["context"]) ∧
        (e.executeRun run s').1 = .error (.corruptRecord run "context")) := by
  subst hs
  obtain ⟨hfits, hlevels⟩ := yields_value.ofText hpayload
  have hwritable : payload.Writable := ⟨hfits, hexact, by omega⟩
  obtain ⟨w, w', now, htold, hw, hid, hpresets, hnodes, hintact, hrow, hworkflow, hsound⟩ :=
    exists_firstRow (sound_after e world h) (tells_history hread) hstarted
  have hcontext : Engine.firstContext w' payload = Engine.firstContext w payload := by
    unfold Engine.firstContext
    rw [hpresets]
  have hentry : w'.entry = w.entry := by
    unfold Workflow.entry
    rw [hnodes]
  refine ⟨w, htold, hwritable.levels, fun hless => ?_, fun hall => ?_⟩
  · have hfirst : Dict.Writable (Engine.firstContext w' payload) :=
      hcontext ▸ writable_firstContext hw.presets hwritable hless
    have hrun := Store.run?_eq_some_iff.mpr ⟨_, hrow, read_firstRow hfirst hwritable run now⟩
    rw [← hid] at hworkflow
    exact ⟨⟨_, hrun, rfl, hid, rfl, hcontext, rfl, hentry⟩,
      executeRun_intact hsound hrun rfl rfl hworkflow hintact⟩
  · have hrun := Store.run?_eq_some_iff.mpr ⟨_, hrow,
      read_firstRow_deep (firstContext_deep (Nat.le_of_eq hall.symm)) hwritable run now⟩
    exact ⟨⟨_, hrun, rfl⟩, executeRun_corrupt hrun rfl⟩

-- ========================================================== a greeting

/-- A blueprint of a workflow that has one preset and ends at once. -/
def greeting : Blueprint :=
  ((Blueprint.new "greeting").withVariable "who" (.string "you")).withNodes [.finish "end"]

theorem greeting_isRead : greeting.IsRead where
  text := by
    refine ⟨(Value.object [
      ("name", .string "greeting"),
      ("variables", .object [("who", .string "you")]),
      ("nodes", .array [.object [("node_id", .string "end"), ("node_type", .string "end")]])]).text,
      (Json.ofText_text _ _ _).mpr rfl⟩
  exact := by
    refine ⟨trivial, fun n hn => ?_, fun e he => ?_⟩
    · obtain rfl := List.mem_singleton.mp hn
      exact trivial
    · obtain rfl := List.mem_singleton.mp he
      exact trivial

/-- A workflow of that blueprint was made. -/
def madeGreeting : List (Occurrence Unit) := [.operation (.create greeting)]

/-- The state after that. -/
def afterGreeting : EngineState Unit :=
  (Engine.timeless .empty).after madeGreeting (.starting ())

theorem fromTexts_madeGreeting :
    (Engine.timeless .empty).FromTexts "w0" madeGreeting (.starting ()) :=
  ⟨fun _ => greeting_isRead, trivial⟩

/-- Whether a run was started that has some id. -/
def startsAs (run : String) : Except Failure (Option String) → Bool
  | .ok (some id) => id = run
  | _ => false

theorem starts_greeting (payload : Value)
    (h : startsAs "r0" ((Engine.timeless .empty).startRun "w0" payload afterGreeting).1 = true) :
    (Engine.timeless .empty).startRun "w0" payload afterGreeting = (.ok (some "r0"),
      ((Engine.timeless .empty).startRun "w0" payload afterGreeting).2) := by
  generalize (Engine.timeless .empty).startRun "w0" payload afterGreeting = started at h ⊢
  obtain ⟨reply, s'⟩ := started
  unfold startsAs at h
  split at h
  next heq =>
    obtain rfl : reply = _ := heq
    rw [of_decide_eq_true h]
  next => cases h

/-- A run of it begins with the preset and a payload, and can be executed. -/
theorem started_run_greets :
    (∃ r, Engine.run? "r0"
        ((Engine.timeless .empty).startRun "w0" (.bool true) afterGreeting).2 = .ok (some r) ∧
      r.isIntact = true ∧ r.context = [("trigger", .bool true), ("who", .string "you")]) ∧
    ∃ report, ((Engine.timeless .empty).executeRun "r0"
      ((Engine.timeless .empty).startRun "w0" (.bool true) afterGreeting).2).1 = .ok report := by
  have hstarted := starts_greeting (.bool true) (by decide +kernel)
  obtain ⟨w, htold, -, hless, -⟩ := started_run_is_stored (Engine.timeless .empty) ()
    madeGreeting "w0" (Value.bool true).text rfl fromTexts_madeGreeting
    ((Json.ofText_text _ _ _).mpr rfl) trivial hstarted
  obtain ⟨⟨r, hrun, hintact, -, -, hcontext, -⟩, hreport⟩ := hless (by decide)
  have hpresets : ((Engine.timeless .empty).described "w0" madeGreeting (.starting ()) none).map
      Workflow.presets = some [("who", .string "you")] := rfl
  rw [htold] at hpresets
  refine ⟨⟨r, hrun, hintact, ?_⟩, hreport⟩
  rw [hcontext, Engine.firstContext, Option.some.inj hpresets]
  rfl

/-- An empty list within as many lists. -/
def nested : Nat → Value
  | 0 => .array []
  | n + 1 => .array [nested n]

theorem every_nested {p : Value → Prop} (hp : ∀ items, p (.array items)) (n : Nat) :
    (nested n).Every p := by
  induction n with
  | zero => exact ⟨hp _, trivial⟩
  | succ n ih => exact ⟨hp _, ih, trivial⟩

theorem levels_nested (n : Nat) : (nested n).levels = n + 1 := by
  induction n with
  | zero => rfl
  | succ n ih =>
      rw [nested, Value.levels, Value.itemLevels, Value.itemLevels, ih]
      rfl

theorem nested_writable {n : Nat} (h : n < maxDepth) : (nested n).Writable where
  fits := every_nested (fun _ => trivial) n
  exact := every_nested (fun _ => trivial) n
  levels := by
    rw [levels_nested]
    exact h

/-- A payload of 127 levels is read from its text, and a run is started with it, but no
execution works with that run. -/
theorem started_run_too_deep :
    (Engine.timeless .empty).FromTexts "w0" madeGreeting (.starting ()) ∧
    Decoder.ofText Decoder.value (nested 126).text = .ok (nested 126) ∧
    (nested 126).Every Value.exact ∧
    ((Engine.timeless .empty).startRun "w0" (nested 126) afterGreeting).1 = .ok (some "r0") ∧
    ((Engine.timeless .empty).executeRun "r0"
      ((Engine.timeless .empty).startRun "w0" (nested 126) afterGreeting).2).1
        = .error (.corruptRecord "r0" "context") := by
  have hnested : (nested 126).Writable := nested_writable (by decide)
  have hstarted := starts_greeting (nested 126) (by decide +kernel)
  obtain ⟨w, w', now, -, -, -, -, -, -, hrow, -⟩ := exists_firstRow
    (sound_after (Engine.timeless .empty) () madeGreeting)
    (tells_history fromTexts_madeGreeting) hstarted
  have hrun := Store.run?_eq_some_iff.mpr ⟨_, hrow,
    read_firstRow_deep (firstContext_deep (Nat.le_of_eq (levels_nested 126).symm)) hnested _ now⟩
  exact ⟨fromTexts_madeGreeting, hnested.ofText, hnested.exact, congrArg Prod.fst hstarted,
    executeRun_corrupt hrun rfl⟩

end DurableWorkflow
