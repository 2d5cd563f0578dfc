/-
Which ids the nodes of stored workflows have. What is said of the row of a workflow when it
is made, and is kept when it is revised, holds of every row after every history
(`rows_after`); refused operations change no row. So in each row stands the text of a list of
nodes that all have ids, and no two the same one.

It follows that it does not matter how a node is looked up. A drive takes the last node with
an id, and a workflow tells the first; in what is stored there is only one. A run begins at
the first node of the list, and so this node is the one that a drive of it finds.
-/
import DurableWorkflow.Proofs.Engine.Rows
import DurableWorkflow.Proofs.Engine.Turns
import DurableWorkflow.Proofs.Graph.Courses
import DurableWorkflow.Proofs.Graph.Ids
import DurableWorkflow.Proofs.Store.Nodes
import DurableWorkflow.Proofs.Store.Tags

namespace DurableWorkflow

open Store (WorkflowRow nodesText)
open Time (Instant)

variable {σ : Type} {e : Engine σ} {s : EngineState σ}

-- =========================================================== all rows

/-- What is kept when rows are made and revised. -/
structure Engine.KeepsRows (e : Engine σ) (P : WorkflowRow → Prop) : Prop where
  made {b : Blueprint} {nodes : List Node} {used used' : Nat} (id : String) (now : Instant)
    (hnodes : Node.normalize e.ids.node used b.nodes = .ok (nodes, used')) :
    P (.of (e.draft b nodes id now))
  revised {row : WorkflowRow} {u u' : Revision} {used used' : Nat} (now : Instant) (hrow : P row)
    (hnormal : e.normalized u used = .ok (u', used')) : P (row.revise u' now)

/-- It is kept by every operation. -/
theorem Effect.rows {P : WorkflowRow → Prop} (hP : e.KeepsRows P) {s' : EngineState σ}
    {o : Operation} {reply : Except Failure Reply} (h : Effect e s o reply s')
    (hs : ∀ row ∈ s.store.workflows, P row) : ∀ row ∈ s'.store.workflows, P row := by
  have hframed := h.framed
  intro row hrow
  cases h with
  | makes hnodes hinsert hnoted =>
      obtain ⟨-, rfl⟩ := Store.insertWorkflow_eq_ok_iff.mp hinsert
      rw [hnoted.workflows] at hrow
      rcases List.mem_append.mp hrow with hrow | hrow
      · exact hs row hrow
      · rw [List.mem_singleton.mp hrow]
        exact hP.made _ _ hnodes
  | revises _ hnormal hrevise hnoted =>
      unfold Store.reviseWorkflow at hrevise
      split at hrevise
      next => cases hrevise
      next =>
        obtain ⟨-, rfl⟩ := Prod.mk.inj hrevise
        rw [hnoted.workflows] at hrow
        obtain ⟨old, hold, rfl⟩ := List.mem_map.mp hrow
        split
        next => exact hP.revised _ (hs old hold) hnormal
        next => exact hs old hold
  | removes _ => exact hs row (List.mem_of_mem_filter hrow)
  | rests _ _ | breaks _ => exact hs row hrow
  | starts _ _ _ _ _ | executes _ _ _ | cancels _ _ | resumes _ _ =>
      exact hs row (hframed.workflows_eq ▸ hrow)

/-- It holds of every row after every history. -/
theorem rows_after {P : WorkflowRow → Prop} (hP : e.KeepsRows P) (h : List (Occurrence σ))
    (world : σ) : ∀ row ∈ (e.after h (.starting world)).store.workflows, P row := by
  apply e.after_of_next (P := fun s => ∀ row ∈ s.store.workflows, P row)
  · intro s x hs
    cases x with
    | operation o => exact (e.perform_effect s o).rows hP hs
    | outside world issued => exact hs
  · exact fun row hrow => absurd hrow List.not_mem_nil

/-- What holds of a text and of all that may be put in its place holds after a revision. -/
theorem getD_of {α β : Type} {p : β → Prop} {f : α → β} {old : β} (hold : p old)
    (hnew : ∀ a, p (f a)) (new : Option α) : p ((new.map f).getD old) := by
  cases new with
  | none => exact hold
  | some a => exact hnew a

/-- Every row has the name of a standing and the text of some tags. -/
theorem keepsRows_labelled (e : Engine σ) : e.KeepsRows WorkflowRow.Labelled where
  made _ _ _ := ⟨⟨Option.some_ne_none _, _, rfl⟩, ⟨.draft, rfl⟩, ⟨_, rfl⟩⟩
  revised {_ _ u' _ _} _ hrow _ := by
    refine ⟨⟨hrow.whole.1, ?_⟩, ?_, ?_⟩
    · exact getD_of (p := fun c => ∃ n, c = Store.Cell.int n)
        (f := fun limit : UInt32 => Store.Cell.int limit.toNat) hrow.whole.2 (fun _ => ⟨_, rfl⟩)
        u'.maxRunsPerHour
    · exact getD_of (p := fun c => ∃ standing : WorkflowStatus, c = standing.name) hrow.status
        (fun standing => ⟨standing, rfl⟩) u'.status
    · exact getD_of (p := fun c => ∃ tags, c = Store.tagsText tags) hrow.tags
        (fun tags => ⟨tags, rfl⟩) u'.tags

-- ============================================================== nodes

/-- Whether a row has the text of some nodes that are named. -/
def Store.WorkflowRow.IsNamed (row : WorkflowRow) : Prop :=
  ∃ nodes, row.nodes = nodesText nodes ∧ Node.Named nodes

theorem keepsRows_named (hfresh : ∀ i, e.ids.node i ≠ "") :
    e.KeepsRows WorkflowRow.IsNamed where
  made _ _ hnodes := ⟨_, rfl, Node.named_of_normalize hfresh hnodes⟩
  revised {row u u' used used'} now hrow hnormal := by
    unfold Engine.normalized at hnormal
    split at hnormal
    next hnone =>
      obtain ⟨rfl, -⟩ := Prod.mk.inj (Except.ok.inj hnormal)
      have hsame : (row.revise u now).nodes = row.nodes := by rw [WorkflowRow.revise, hnone]; rfl
      obtain ⟨nodes, htext, hnamed⟩ := hrow
      exact ⟨nodes, hsame.trans htext, hnamed⟩
    next nodes hnodes =>
      split at hnormal
      next => cases hnormal
      next nodes' used'' hnormalize =>
        obtain ⟨rfl, -⟩ := Prod.mk.inj (Except.ok.inj hnormal)
        exact ⟨nodes', rfl, Node.named_of_normalize hfresh hnormalize⟩

/-- What such a row is read as has named nodes; they are the ones that were written, as far as
their ids go, or none if the column cannot be read. -/
theorem Store.WorkflowRow.IsNamed.record {row : WorkflowRow} (h : row.IsNamed) :
    Node.Named row.record.nodes := by
  obtain ⟨nodes, htext, hnamed⟩ := h
  show Node.Named ((Decoder.ofText (Decoder.list Node.decode) row.nodes).toOption.getD [])
  rw [htext]
  cases hread : Decoder.ofText (Decoder.list Node.decode) (nodesText nodes) with
  | error f => exact ⟨List.not_mem_nil, .nil⟩
  | ok found => exact hnamed.congr (ids_of_nodesText nodes hread)

-- ============================================================= drives

/-- A drive from a node that is found visits this node first. -/
theorem Graph.steps_of_found {τ : Type} (sur : Graph.Surroundings τ) {nodes : List Node}
    {state : Graph.State} {n : Node} (hcurrent : state.current ≠ "")
    (hn : Graph.find? nodes state.current = some n) (budget : Nat) (world : τ) :
    ∃ step rest, (Graph.drive sur nodes (budget + 1) state world).1.steps = step :: rest ∧
      step.node = n.id ∧ step.type = n.type := by
  cases ha : Graph.advance sur n state world with
  | mk settled after =>
      obtain ⟨step, state', halt⟩ := settled
      obtain ⟨hnode, htype⟩ := (Graph.course_advance ha).names
      refine ⟨step, ?_⟩
      rw [Graph.drive_succ sur nodes budget world hcurrent hn, ha]
      cases halt with
      | some halt => exact ⟨[], rfl, hnode, htype⟩
      | none => exact ⟨_, rfl, hnode, htype⟩

/-- Of named nodes the first one is found where a run begins. -/
theorem Node.Named.find?_entry {w : Workflow} (h : Node.Named w.nodes) {n : Node}
    {rest : List Node} (hnodes : w.nodes = n :: rest) :
    w.entry ≠ "" ∧ Graph.find? w.nodes w.entry = some n := by
  have hentry : w.entry = n.id := by rw [Workflow.entry, hnodes]; rfl
  have hn : n ∈ w.nodes := hnodes ▸ List.mem_cons_self
  rw [hentry]
  exact ⟨fun hempty => h.nonempty (List.mem_map.mpr ⟨n, hn, hempty⟩),
    (Graph.find?_eq_some_iff h.distinct).mpr ⟨hn, rfl⟩⟩

/-- The ids of nodes. Whatever has been done with an engine whose supply gives no empty id,
every row of a workflow has the text of nodes that all have ids, no two the same; what it is
read as has such nodes too, and for each id the last node with it is the first one. Nodes are
given ids exactly if no two have one then, and nothing of them is changed but the ids that
were empty. And a run that is started begins where the first node of its workflow is found:
every drive of it visits this node first. -/
theorem nodes_are_named (e : Engine σ) (hfresh : ∀ i, e.ids.node i ≠ "")
    (h : List (Occurrence σ)) (world : σ) (hs : s = e.after h (.starting world)) :
    (∀ row ∈ s.store.workflows, ∃ nodes w, row.nodes = nodesText nodes ∧ Node.Named nodes ∧
      row.read = .ok w ∧ Node.Named w.nodes ∧ ∀ id, Graph.find? w.nodes id = w.node? id) ∧
    (∀ (used : Nat) (nodes : List Node),
      ((∃ found, Node.normalize e.ids.node used nodes = .ok found) ↔
        ((Node.filled e.ids.node used nodes).map Node.id).Nodup) ∧
      ∀ nodes' used', Node.normalize e.ids.node used nodes = .ok (nodes', used') →
        nodes' = Node.filled e.ids.node used nodes ∧
          List.Forall₂ (Node.Filled e.ids.node) nodes nodes') ∧
    ∀ workflow trigger run s', e.startRun workflow trigger s = (.ok (some run), s') →
      ∃ w r, s.store.workflow? workflow = .ok (some w) ∧ s'.store.run? run = .ok (some r) ∧
        r.currentNode = w.entry ∧
        ∀ n rest, w.nodes = n :: rest →
          ∀ {τ : Type} (sur : Graph.Surroundings τ) (budget : Nat) (there : τ),
            ∃ step steps,
              (Graph.drive sur w.nodes (budget + 1) (.ofRun r) there).1.steps = step :: steps ∧
              step.node = n.id ∧ step.type = n.type := by
  subst hs
  have hrows := rows_after (keepsRows_named hfresh) h world
  have hlabelled := rows_after (keepsRows_labelled e) h world
  refine ⟨?_, ?_, ?_⟩
  · intro row hrow
    obtain ⟨nodes, htext, hnamed⟩ := hrows row hrow
    have hrecord := (hrows row hrow).record
    exact ⟨nodes, row.record, htext, hnamed, WorkflowRow.read_eq (hlabelled row hrow).whole,
      hrecord, Graph.find?_eq_node? hrecord.distinct⟩
  · intro used nodes
    refine ⟨?_, ?_⟩
    · constructor
      · rintro ⟨⟨nodes', used'⟩, hnormal⟩
        obtain ⟨rfl, hdistinct⟩ := Node.normalize_eq_ok_iff.mp ⟨used', hnormal⟩
        exact hdistinct
      · intro hdistinct
        obtain ⟨used', hnormal⟩ := Node.normalize_eq_ok_iff.mpr ⟨rfl, hdistinct⟩
        exact ⟨_, hnormal⟩
    · intro nodes' used' hnormal
      obtain ⟨rfl, -⟩ := Node.normalize_eq_ok_iff.mp ⟨used', hnormal⟩
      exact ⟨rfl, Node.filled_pairwise e.ids.node used nodes⟩
  · intro workflow trigger run s' hstarted
    rcases e.startRun_moved (sound_after e world h) workflow trigger with
      ⟨run', w, hreply, -, hfound, -, -, hmoved⟩ | ⟨hnone, -⟩
    · rw [hstarted] at hreply hmoved
      obtain rfl := Option.some.inj (Except.ok.inj hreply)
      obtain ⟨row, hrow, hread⟩ := Store.workflow?_eq_some_iff.mp hfound
      obtain ⟨-, rfl⟩ := WorkflowRow.read_eq_ok_iff.mp hread
      have hnamed := (hrows row (List.mem_of_find?_eq_some hrow)).record
      have hrun := Store.run?_eq_some_iff.mpr
        ⟨_, hmoved.row, Store.RunRow.read_eq (Option.some_ne_none _)⟩
      refine ⟨row.record, _, hfound, hrun, rfl, ?_⟩
      intro n rest hnodes τ sur budget there
      obtain ⟨hcurrent, hn⟩ := hnamed.find?_entry hnodes
      exact Graph.steps_of_found sur hcurrent hn budget there
    · rw [hstarted] at hnone
      exact absurd rfl (hnone run)

-- ========================================================= an example

/-- A workflow is made with a node that has no id; a revision that gives one id twice is
refused, and one with two nodes without ids is not. -/
def namedInTurn : List (Occurrence Unit) := [
  .operation (.create ((Blueprint.new "mixed").withNodes [.new "" .trigger, .finish "end"])),
  .operation (.revise "w0" { Revision.none with nodes := some [.finish "end", .finish "end"] }),
  .operation (.revise "w0" { Revision.none with
    nodes := some [.new "" .trigger, .finish "end", .new "" .unknown] })]

/-- The state after that. -/
def afterNaming : EngineState Unit := (Engine.timeless .empty).after namedInTurn (.starting ())

/-- The nodes that the workflow has then. -/
def mixedNodes : List Node := [.new "n1" .trigger, .finish "end", .new "n2" .unknown]

theorem readsBack_mixedNodes :
    Decoder.ofText (Decoder.list Node.decode) (nodesText mixedNodes) = .ok mixedNodes := by
  apply Store.readsBack_nodesText
  · intro n hn
    simp only [mixedNodes, List.mem_cons, List.not_mem_nil, or_false] at hn
    rcases hn with rfl | rfl | rfl <;> exact ⟨trivial, by decide⟩
  · intro n hn
    simp only [mixedNodes, List.mem_cons, List.not_mem_nil, or_false] at hn
    rcases hn with rfl | rfl | rfl <;> exact trivial

/-- Its nodes have the ids that are next, and a run of it begins at the first one. -/
theorem nodes_are_named_in_turn :
    (∀ i, (Engine.timeless .empty).ids.node i ≠ "") ∧
    ∃ w, afterNaming.store.workflow? "w0" = .ok (some w) ∧ w.nodes = mixedNodes ∧
      ∃ run s' r, (Engine.timeless .empty).startRun "w0" .null afterNaming
          = (.ok (some run), s') ∧
        s'.store.run? run = .ok (some r) ∧ r.currentNode = "n1" ∧
        ∃ step steps, (Graph.drive (Engine.timeless .empty).toSurroundings w.nodes 10 (.ofRun r)
          ()).1.steps = step :: steps ∧ step.node = "n1" := by
  have hfresh : ∀ i, (Engine.timeless .empty).ids.node i ≠ "" := by
    intro i h
    have hchars : ("n" ++ toString i).toList = "".toList := congrArg String.toList h
    rw [String.toList_append] at hchars
    cases hchars
  obtain ⟨row, hrow, hid, htext, hstatus, hlimit⟩ : ∃ row,
      afterNaming.store.workflowRow? "w0" = some row ∧ row.id = some "w0" ∧
        row.nodes = nodesText mixedNodes ∧ row.status = WorkflowStatus.draft.name ∧
        row.maxRunsPerHour = .int 10 := ⟨_, rfl, rfl, rfl, rfl, rfl⟩
  have hwhole : row.IsWhole := ⟨by rw [hid]; exact Option.some_ne_none _, 10, hlimit⟩
  have hfound := Store.workflow?_eq_some_iff.mpr ⟨row, hrow, WorkflowRow.read_eq hwhole⟩
  have hnodes : row.record.nodes = mixedNodes := by
    rw [WorkflowRow.record, htext, readsBack_mixedNodes]
    rfl
  have haccepts : row.record.status.acceptsRuns = true := by
    rw [WorkflowRow.record, hstatus]
    rfl
  have hadmits : afterNaming.store.admits "w0" row.record.maxRunsPerHour
      ((Engine.timeless .empty).clock afterNaming).1 = .ok true := by
    rw [WorkflowRow.record, hlimit]
    rfl
  obtain ⟨-, -, hbegins⟩ := nodes_are_named (Engine.timeless .empty) hfresh namedInTurn () rfl
  have hstarted := (Engine.timeless .empty).startRun_ok .null hfound haccepts hadmits rfl
  obtain ⟨w, r, hw, hr, hcurrent, hfirst⟩ := hbegins "w0" .null _ _ hstarted
  obtain rfl : row.record = w := Option.some.inj (Except.ok.inj (hfound.symm.trans hw))
  obtain ⟨step, steps, hsteps, hnode, -⟩ :=
    hfirst _ _ hnodes (Engine.timeless .empty).toSurroundings 9 ()
  have hentry : row.record.entry = "n1" := by rw [Workflow.entry, hnodes]; rfl
  exact ⟨hfresh, _, hfound, hnodes, _, _, r, hstarted, hr, hcurrent.trans hentry, step, steps,
    hsteps, hnode⟩

end DurableWorkflow
