/-
The ids of nodes, as they come back from their column. Like the nodes that steps are at,
they stand first in what is written of each node; so they are kept, whatever becomes of a
configuration that is too deep to be read, or of its numbers.
-/
import DurableWorkflow.Proofs.Store.Steps

namespace DurableWorkflow

open Decoder (SetBy may_read_ok)
open Json (written)

/-- The id of a node is set by its own field only. -/
theorem Node.id_setBy : SetBy shape Node.id "node_id" := by
  intro f hf hname d n n' h
  simp only [shape, List.mem_cons, List.not_mem_nil, or_false] at hf
  rcases hf with rfl | rfl | rfl | rfl | rfl | rfl | rfl | rfl | rfl | rfl | rfl
  · exact absurd rfl hname
  all_goals
    obtain ⟨a, -, rfl⟩ := may_read_ok h
    rfl

/-- The id stands first in the text of a node, whatever comes after it. -/
theorem Node.encode_eq (n : Node) :
    ∃ ms, n.encode = .object (("node_id", .string n.id) :: ms) := ⟨_, rfl⟩

/-- A node that is read from its text has the same id. -/
theorem Node.id_of_written {depth : Nat} {rest : List Char} {n n' : Node}
    (h : Node.decode (written depth rest n.encode) = .ok n') : n'.id = n.id := by
  have hfind : shape.fields.find? (fun f => f.name = "node_id")
      = some (.may "node_id" Decoder.string fun a n => { n with id := a }) := by
    unfold shape
    exact List.find?_cons_of_pos rfl
  obtain ⟨ms, hencode⟩ := n.encode_eq
  rw [hencode] at h
  refine first_of_written id_setBy hfind ?_ h
  intro d n n' hread
  obtain ⟨a, ha, rfl⟩ := may_read_ok hread
  exact ⟨a, ha, rfl⟩

/-- Nodes that are read from their column have the ids of the nodes that were written. -/
theorem ids_of_nodesText (nodes : List Node) {nodes' : List Node}
    (h : Decoder.ofText (Decoder.list Node.decode) (Store.nodesText nodes) = .ok nodes') :
    nodes'.map Node.id = nodes.map Node.id := by
  have hread := (Json.ofText_text _ _ _).mp h
  rw [written] at hread
  exact parts_of_writtenItems Node.id_of_written nodes (Decoder.list_array_ok hread)

end DurableWorkflow
