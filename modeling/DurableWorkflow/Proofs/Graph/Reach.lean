/-
Only the nodes that a run can come to matter to it. A node names others: its successors,
the ways of a condition, where to go after a failure, and, in a configuration that is read
only when a run comes to the node, the targets of branches and the body of a loop
(`Node.edges`). What can be come to along these names is reachable, and wherever a visit
leads, it leads along one of them (`Course.edge`).

So the graph may be anything else anywhere else: two drives from one state, in two graphs
that have the same nodes at the reachable ids, are the same drive. The induction is on the
budget; after a visit less is reachable than before, so that the graphs still have the same
nodes there.
-/
import DurableWorkflow.Proofs.Graph.Ids
import DurableWorkflow.Proofs.Graph.Rollback

namespace DurableWorkflow

open Time (Instant)

-- ============================================================= edges

namespace Node

/-- The ids that the configuration of a node names: the targets of its branches and their
fallback, or the body of its loop. A configuration that cannot be read names none. -/
def configEdges (n : Node) : List String :=
  match n.type with
  | .branch =>
    match n.spec BranchSpec.shape with
    | .ok spec => spec.fallback :: spec.branches.map Branch.target
    | .error _ => []
  | .loop =>
    match n.spec LoopSpec.shape with
    | .ok spec => [spec.body]
    | .error _ => []
  | _ => []

/-- The ids that a node names. -/
def edges (n : Node) : List String :=
  n.nextNodes ++ n.onTrue :: n.onFalse :: (n.onError.toList ++ n.configEdges)

variable {n : Node}

theorem onTrue_mem_edges (n : Node) : n.onTrue ∈ n.edges := by simp [edges]

theorem onFalse_mem_edges (n : Node) : n.onFalse ∈ n.edges := by simp [edges]

theorem mem_edges_of_onError {target : String} (h : n.onError = some target) :
    target ∈ n.edges := by simp [edges, h]

theorem mem_edges_of_config {id : String} (h : id ∈ n.configEdges) : id ∈ n.edges := by
  simp [edges, h]

/-- The one successor is among those that are named, if there is any. -/
theorem next_mem_edges (n : Node) : n.next = "" ∨ n.next ∈ n.edges := by
  cases hnext : n.nextNodes with
  | nil =>
      left
      rw [next, hnext]
      rfl
  | cons id ids =>
      right
      have hfirst : n.next = id := by
        rw [next, hnext]
        rfl
      rw [hfirst]
      simp [edges, hnext]

end Node

namespace Graph

variable {σ : Type}

/-- The ids that a run can come to from one of them. The empty id is none. -/
inductive Reachable (nodes : List Node) (start : String) : String → Prop
  | here (hne : start ≠ "") : Reachable nodes start start
  | along {id next : String} {n : Node} (h : Reachable nodes start id) (hn : n ∈ nodes)
    (hid : n.id = id) (hnext : next ∈ n.edges) (hne : next ≠ "") : Reachable nodes start next

/-- The way that is chosen leads along an edge. -/
theorem chooseBranch_mem (fallback : String) (context : Context) (branches : List Branch) :
    (chooseBranch fallback context branches).2 ∈ fallback :: branches.map Branch.target := by
  induction branches with
  | nil => exact List.mem_cons_self
  | cons b branches ih =>
      rw [chooseBranch]
      split
      next => simp
      next =>
        rcases List.mem_cons.mp ih with h | h
        · rw [h]
          exact List.mem_cons_self
        · simp only [List.map_cons, List.mem_cons]
          exact .inr (.inr h)

variable {s : Surroundings σ} {n : Node} {state state' : State} {t : Instant} {step : Step}

/-- A visit after which the drive goes on leads along an edge, or nowhere. -/
theorem Course.edge (h : Course s n state t step state' none) :
    state'.current = "" ∨ state'.current ∈ n.edges := by
  cases h with
  | passes _ => exact n.next_mem_edges
  | @decides spec onTrue onFalse passed h _ =>
      obtain ⟨-, -, rfl, rfl⟩ := Node.behavesAs_of_behaviour h
      right
      cases passed with
      | true => exact n.onTrue_mem_edges
      | false => exact n.onFalse_mem_edges
  | acts _ _ => exact n.next_mem_edges
  | waits _ => exact n.next_mem_edges
  | @branches spec name target h hchosen =>
      obtain ⟨htype, hspec⟩ := Node.behavesAs_of_behaviour h
      right
      apply Node.mem_edges_of_config
      have hmem := chooseBranch_mem spec.fallback state.context spec.branches
      rw [hchosen] at hmem
      simpa [Node.configEdges, htype, hspec] using hmem
  | @enters spec index v h _ =>
      obtain ⟨htype, hspec⟩ := Node.behavesAs_of_behaviour h
      show loopEntry spec n = "" ∨ loopEntry spec n ∈ n.edges
      unfold loopEntry
      split
      next => exact n.next_mem_edges
      next =>
        right
        apply Node.mem_edges_of_config
        simp [Node.configEdges, htype, hspec]
  | leaves _ _ => exact n.next_mem_edges
  | redirects _ htarget =>
      right
      exact Node.mem_edges_of_onError (errorTarget_eq_some_iff.mp htarget).1

-- ====================================================== reachable ids

variable {nodes nodes' : List Node} {start mid id : String}

/-- From nowhere nothing is reachable. -/
theorem Reachable.start_ne (h : Reachable nodes start id) : start ≠ "" := by
  induction h with
  | here hne => exact hne
  | along _ _ _ _ _ ih => exact ih

/-- What is reachable from a reachable id is reachable. -/
theorem Reachable.trans (h : Reachable nodes start mid) (h' : Reachable nodes mid id) :
    Reachable nodes start id := by
  induction h' with
  | here _ => exact h
  | along _ hn hid hnext hne ih => exact .along ih hn hid hnext hne

/-- Two graphs have the same nodes at the ids that are reachable in the first one. -/
def AgreeFrom (start : String) (nodes nodes' : List Node) : Prop :=
  ∀ n : Node, Reachable nodes start n.id → (n ∈ nodes ↔ n ∈ nodes')

/-- Then they do so from every node that is next. -/
theorem AgreeFrom.next (h : AgreeFrom start nodes nodes') (hn : n ∈ nodes) (hid : n.id = start)
    (hne : start ≠ "") {next : String} (hnext : next = "" ∨ next ∈ n.edges) :
    AgreeFrom next nodes nodes' := by
  intro m hm
  have hedge : next ∈ n.edges := by
    rcases hnext with h | h
    · exact absurd h hm.start_ne
    · exact h
  exact h m (.trans (.along (.here hne) hn hid hedge hm.start_ne) hm)

/-- Where they do so, and ids differ in both, the same node is found. -/
theorem AgreeFrom.find? (h : AgreeFrom start nodes nodes') (hne : start ≠ "")
    (hdistinct : (nodes.map Node.id).Nodup) (hdistinct' : (nodes'.map Node.id).Nodup) :
    Graph.find? nodes start = Graph.find? nodes' start := by
  apply Option.ext
  intro n
  rw [find?_eq_some_iff hdistinct, find?_eq_some_iff hdistinct']
  constructor
  · rintro ⟨hn, hid⟩
    exact ⟨(h n (hid.symm ▸ .here hne)).mp hn, hid⟩
  · rintro ⟨hn, hid⟩
    exact ⟨(h n (hid.symm ▸ .here hne)).mpr hn, hid⟩

-- ============================================================= drives

/-- Drives are the same in graphs that have the same nodes where they can come to. -/
theorem drive_eq_of_agreeFrom (s : Surroundings σ) (hdistinct : (nodes.map Node.id).Nodup)
    (hdistinct' : (nodes'.map Node.id).Nodup) (budget : Nat) (state : State) (world : σ)
    (hagree : AgreeFrom state.current nodes nodes') :
    drive s nodes budget state world = drive s nodes' budget state world := by
  induction budget generalizing state world with
  | zero => rfl
  | succ budget ih =>
      by_cases hcurrent : state.current = ""
      · rw [drive_of_empty s nodes _ world hcurrent, drive_of_empty s nodes' _ world hcurrent]
      have hfind := hagree.find? hcurrent hdistinct hdistinct'
      cases hn : Graph.find? nodes state.current with
      | none =>
          rw [drive_of_missing s nodes _ world hcurrent hn,
            drive_of_missing s nodes' _ world hcurrent (hfind ▸ hn)]
      | some n =>
          rw [drive_succ s nodes _ world hcurrent hn,
            drive_succ s nodes' _ world hcurrent (hfind ▸ hn)]
          cases ha : advance s n state world with
          | mk settled after =>
              obtain ⟨step, state', halt⟩ := settled
              cases halt with
              | some halt => rfl
              | none =>
                  obtain ⟨hmem, hid⟩ := (find?_eq_some_iff hdistinct).mp hn
                  have hnext := hagree.next hmem hid hcurrent (course_advance ha).edge
                  simp only [ih state' after hnext]

/-- Only the nodes that can be come to from where a run stands matter to a drive, whatever
its surroundings: in any other graph that has the same nodes at the reachable ids it makes
the same steps, and leaves the same state and the same world. So the order of the nodes does
not matter; nor does it whether nodes that cannot be come to are added, removed, or exchanged
for others. -/
theorem only_reachable_nodes_matter (s : Surroundings σ) {nodes : List Node}
    (hdistinct : (nodes.map Node.id).Nodup) (budget : Nat) (state : State) (world : σ) :
    (∀ nodes' : List Node, (nodes'.map Node.id).Nodup → AgreeFrom state.current nodes nodes' →
      drive s nodes budget state world = drive s nodes' budget state world) ∧
    (∀ nodes' : List Node, nodes.Perm nodes' →
      drive s nodes budget state world = drive s nodes' budget state world) ∧
    ∀ kept others others' : List Node, nodes = kept ++ others →
      ((kept ++ others').map Node.id).Nodup →
      (∀ n ∈ others ++ others', ¬ Reachable nodes state.current n.id) →
      drive s nodes budget state world = drive s (kept ++ others') budget state world := by
  refine ⟨?_, ?_, ?_⟩
  · intro nodes' hdistinct' hagree
    exact drive_eq_of_agreeFrom s hdistinct hdistinct' budget state world hagree
  · intro nodes' hperm
    have hdistinct' := (hperm.map Node.id).nodup_iff.mp hdistinct
    exact drive_eq_of_agreeFrom s hdistinct hdistinct' budget state world fun n _ => hperm.mem_iff
  · intro kept others others' hnodes hdistinct' hfar
    apply drive_eq_of_agreeFrom s hdistinct hdistinct' budget state world
    intro n hn
    have hothers : n ∉ others := fun h => hfar n (List.mem_append_left _ h) hn
    have hothers' : n ∉ others' := fun h => hfar n (List.mem_append_right _ h) hn
    rw [hnodes, List.mem_append, List.mem_append]
    simp [hothers, hothers']

-- ========================================================= an example

/-- Ids that hold the beginning, and with each node all that it names, hold all that is
reachable. -/
theorem Reachable.mem_of_closed {ids : List String} (h : Reachable nodes start id)
    (hstart : start ∈ ids)
    (hclosed : ∀ n ∈ nodes, n.id ∈ ids → ∀ next ∈ n.edges, next ≠ "" → next ∈ ids) :
    id ∈ ids := by
  induction h with
  | here _ => exact hstart
  | along _ hn hid hnext hne ih => exact hclosed _ hn (hid ▸ ih) _ hnext hne

/-- A node that chooses between two ways, and forgets about a third. -/
def crossroads : Node :=
  { Node.new "cross" .branch with
    config := .object [("branches", .array [.object [("target_node", .string "left")]]),
      ("default_node", .string "right")] }

/-- The graph of it, with a node that cannot be come to. -/
def roads : List Node := [crossroads, .finish "left", .finish "right", .delay "far" 60]

/-- The graph in another order, with another node that cannot be come to. -/
def otherRoads : List Node := [.finish "right", .delay "near" 5, crossroads, .finish "left"]

/-- Drives from the crossroads are the same in both. -/
theorem only_reachable_nodes_matter_roads :
    AgreeFrom "cross" roads otherRoads ∧
      drive Surroundings.slow roads 10 ⟨"cross", [], []⟩ 0
        = drive Surroundings.slow otherRoads 10 ⟨"cross", [], []⟩ 0 := by
  have hagree : AgreeFrom "cross" roads otherRoads := by
    intro n hn
    have hid : n.id ∈ ["cross", "left", "right"] :=
      hn.mem_of_closed (by decide) (by decide +kernel)
    constructor
    · intro h
      simp only [roads, List.mem_cons, List.not_mem_nil, or_false] at h
      rcases h with rfl | rfl | rfl | rfl
      · simp [otherRoads]
      · simp [otherRoads]
      · simp [otherRoads]
      · exact absurd hid (by decide)
    · intro h
      simp only [otherRoads, List.mem_cons, List.not_mem_nil, or_false] at h
      rcases h with rfl | rfl | rfl | rfl
      · simp [roads]
      · exact absurd hid (by decide)
      · simp [roads]
      · simp [roads]
  exact ⟨hagree, (only_reachable_nodes_matter Surroundings.slow (by decide) 10 ⟨"cross", [], []⟩
    0).1 otherRoads (by decide) hagree⟩

end Graph

end DurableWorkflow
