/-
Ids for nodes. Nodes without an id get one each from the supply, in their order
(`Node.filled`), and the list is refused if two nodes have one id then. Nothing else of a
node is changed or looked at.

Where the ids differ, it does not matter from which end a node is looked for: the first one
with an id is the last one (`Graph.find?_eq_node?`).
-/
import DurableWorkflow.Graph.Drive
import Mathlib.Data.List.Nodup

namespace DurableWorkflow

namespace Node

variable {fresh : Nat → String} {used : Nat} {seen : List String} {nodes ns : List Node}

/-- Nodes with ids for those that have none. -/
def filled (fresh : Nat → String) (used : Nat) : List Node → List Node
  | [] => []
  | n :: ns =>
    if n.id = "" then { n with id := fresh used } :: filled fresh (used + 1) ns
    else n :: filled fresh used ns

/-- A node gets one id, whether from the supply or its own, and goes by it from then on. -/
theorem exists_normalizeFrom_cons (fresh : Nat → String) (used : Nat) (seen : List String)
    (n : Node) (nodes : List Node) : ∃ id next,
      filled fresh used (n :: nodes) = { n with id := id } :: filled fresh next nodes ∧
      normalizeFrom fresh used seen (n :: nodes) =
        if seen.contains id then .error (.invalidWorkflow ("duplicate node id: " ++ id))
        else (normalizeFrom fresh next (id :: seen) nodes).map fun found =>
          ({ n with id := id } :: found.1, found.2) := by
  by_cases hempty : n.id = ""
  · refine ⟨fresh used, used + 1, ?_, ?_⟩
    · rw [filled, if_pos hempty]
    · simp only [normalizeFrom, if_pos hempty]
      cases normalizeFrom fresh (used + 1) (fresh used :: seen) nodes <;> rfl
  · refine ⟨n.id, used, ?_, ?_⟩
    · rw [filled, if_neg hempty]
    · simp only [normalizeFrom, if_neg hempty]
      cases normalizeFrom fresh used (n.id :: seen) nodes <;> rfl

/-- Nodes are given ids exactly if these are new, and no two nodes have one. The induction
is on the nodes; the ids of those before are among the ones that were seen. -/
theorem normalizeFrom_eq_ok_iff :
    (∃ used', normalizeFrom fresh used seen nodes = .ok (ns, used')) ↔
      ns = filled fresh used nodes ∧ (∀ n ∈ ns, n.id ∉ seen) ∧ (ns.map Node.id).Nodup := by
  induction nodes generalizing used seen ns with
  | nil =>
      constructor
      · rintro ⟨used', h⟩
        obtain ⟨rfl, -⟩ := Prod.mk.inj (Except.ok.inj h)
        exact ⟨rfl, by simp, .nil⟩
      · rintro ⟨rfl, -⟩
        exact ⟨used, rfl⟩
  | cons n nodes ih =>
      obtain ⟨id, next, hfilled, hnormal⟩ := exists_normalizeFrom_cons fresh used seen n nodes
      rw [hfilled, hnormal]
      constructor
      · rintro ⟨used', h⟩
        split at h
        next => cases h
        next hnew =>
          cases hrest : normalizeFrom fresh next (id :: seen) nodes with
          | error f =>
              rw [hrest] at h
              cases h
          | ok found =>
              rw [hrest] at h
              obtain ⟨rfl, -⟩ := Prod.mk.inj (Except.ok.inj h)
              obtain ⟨hrestEq, hseen, hdistinct⟩ := ih.mp ⟨found.2, hrest⟩
              refine ⟨by rw [hrestEq], ?_, ?_⟩
              · intro m hm
                rcases List.mem_cons.mp hm with rfl | hm
                · simpa using hnew
                · exact fun h => hseen m hm (List.mem_cons_of_mem id h)
              · apply List.nodup_cons.mpr
                refine ⟨?_, hdistinct⟩
                intro hmem
                obtain ⟨m, hm, hid⟩ := List.mem_map.mp hmem
                exact hseen m hm (hid ▸ List.mem_cons_self)
      · rintro ⟨rfl, hseen, hdistinct⟩
        obtain ⟨hfirst, hdistinct⟩ := List.nodup_cons.mp hdistinct
        have hnew : id ∉ seen := hseen _ List.mem_cons_self
        have hrestNew : ∀ m ∈ filled fresh next nodes, m.id ∉ id :: seen := by
          intro m hm hmem
          rcases List.mem_cons.mp hmem with hid | hmem
          · exact hfirst (List.mem_map.mpr ⟨m, hm, hid⟩)
          · exact hseen m (List.mem_cons_of_mem _ hm) hmem
        obtain ⟨used', hrest⟩ := ih.mpr ⟨rfl, hrestNew, hdistinct⟩
        refine ⟨used', ?_⟩
        rw [if_neg (by simpa using hnew), hrest]
        rfl

/-- A list of nodes is given ids exactly if no two have one then. -/
theorem normalize_eq_ok_iff :
    (∃ used', normalize fresh used nodes = .ok (ns, used')) ↔
      ns = filled fresh used nodes ∧ (ns.map Node.id).Nodup := by
  unfold normalize
  rw [normalizeFrom_eq_ok_iff]
  simp

/-- A node as it comes out of being given an id: the same, with an id from the supply if it
had none. -/
structure Filled (fresh : Nat → String) (n m : Node) : Prop where
  same : m = { n with id := m.id }
  kept (hid : n.id ≠ "") : m.id = n.id
  given (hid : n.id = "") : ∃ i, m.id = fresh i

/-- One after another, nodes come out so. -/
theorem filled_pairwise (fresh : Nat → String) (used : Nat) (nodes : List Node) :
    List.Forall₂ (Filled fresh) nodes (filled fresh used nodes) := by
  induction nodes generalizing used with
  | nil => exact .nil
  | cons n nodes ih =>
      rw [filled]
      split
      next hempty =>
        exact .cons ⟨rfl, fun hid => absurd hempty hid, fun _ => ⟨used, rfl⟩⟩ (ih (used + 1))
      next hid => exact .cons ⟨rfl, fun _ => rfl, fun hempty => absurd hempty hid⟩ (ih used)

/-- Nodes that all have ids, and no two the same one. -/
structure Named (nodes : List Node) : Prop where
  nonempty : "" ∉ nodes.map Node.id
  distinct : (nodes.map Node.id).Nodup

/-- Only the ids matter to that. -/
theorem Named.congr (h : Named nodes) (hids : ns.map Node.id = nodes.map Node.id) : Named ns :=
  ⟨hids ▸ h.nonempty, hids ▸ h.distinct⟩

/-- Nodes that all have ids are left as they are. -/
theorem filled_eq_self (h : "" ∉ nodes.map Node.id) : filled fresh used nodes = nodes := by
  induction nodes with
  | nil => rfl
  | cons n nodes ih =>
      rw [List.map_cons, List.mem_cons, not_or] at h
      rw [filled, if_neg (Ne.symm h.1), ih h.2]

/-- Nodes that are named are given no other ids. -/
theorem Named.normalize (h : Named nodes) (fresh : Nat → String) (used : Nat) :
    ∃ used', Node.normalize fresh used nodes = .ok (nodes, used') :=
  normalize_eq_ok_iff.mpr ⟨(filled_eq_self h.nonempty).symm, h.distinct⟩

/-- If no id in the supply is empty, no node is left without one. -/
theorem id_ne_of_mem_filled (hfresh : ∀ i, fresh i ≠ "") {m : Node}
    (hm : m ∈ filled fresh used nodes) : m.id ≠ "" := by
  induction nodes generalizing used with
  | nil => cases hm
  | cons n nodes ih =>
      rw [filled] at hm
      split at hm
      next =>
        rcases List.mem_cons.mp hm with rfl | hm
        · exact hfresh used
        · exact ih hm
      next hid =>
        rcases List.mem_cons.mp hm with rfl | hm
        · exact hid
        · exact ih hm

/-- Nodes that were given ids are named then. -/
theorem named_of_normalize (hfresh : ∀ i, fresh i ≠ "") {used' : Nat}
    (h : normalize fresh used nodes = .ok (ns, used')) : Named ns := by
  obtain ⟨rfl, hdistinct⟩ := normalize_eq_ok_iff.mp ⟨used', h⟩
  refine ⟨?_, hdistinct⟩
  intro hmem
  obtain ⟨m, hm, hempty⟩ := List.mem_map.mp hmem
  exact id_ne_of_mem_filled hfresh hm hempty

end Node

-- ========================================================== looking up

/-- Where keys differ, the entry with a key is the only one with it. -/
theorem find?_eq_some_iff_of_nodup {α β : Type} [DecidableEq β] {key : α → β} {entries : List α}
    (hdistinct : (entries.map key).Nodup) {k : β} {a : α} :
    entries.find? (fun a => key a = k) = some a ↔ a ∈ entries ∧ key a = k := by
  constructor
  · intro h
    exact ⟨List.mem_of_find?_eq_some h, by simpa using List.find?_some h⟩
  · rintro ⟨ha, hk⟩
    cases hfound : entries.find? (fun a => key a = k) with
    | none =>
        rw [List.find?_eq_none] at hfound
        exact absurd (by simpa using hk) (hfound a ha)
    | some b =>
        have hb : key b = k := by simpa using List.find?_some hfound
        have hmem := List.mem_of_find?_eq_some hfound
        rw [List.inj_on_of_nodup_map hdistinct hmem ha (hb.trans hk.symm)]

namespace Graph

variable {nodes : List Node}

/-- Where ids differ, the node with an id is the only one with it. -/
theorem find?_eq_some_iff (hdistinct : (nodes.map Node.id).Nodup) {id : String} {n : Node} :
    find? nodes id = some n ↔ n ∈ nodes ∧ n.id = id := by
  have hreverse : (nodes.reverse.map Node.id).Nodup := by
    rw [List.map_reverse, List.nodup_reverse]
    exact hdistinct
  unfold find?
  rw [find?_eq_some_iff_of_nodup hreverse, List.mem_reverse]

/-- Then the last node with an id is the first one. -/
theorem find?_eq_node? {w : Workflow} (hdistinct : (w.nodes.map Node.id).Nodup) (id : String) :
    find? w.nodes id = w.node? id := by
  apply Option.ext
  intro n
  rw [find?_eq_some_iff hdistinct, Workflow.node?, find?_eq_some_iff_of_nodup hdistinct]

end Graph

end DurableWorkflow
