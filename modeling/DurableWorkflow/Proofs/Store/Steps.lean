/-
The steps of a run, as they come back from their column. Whatever else a step may
have brought, and however deep it goes, if the column can be read at all, then it
names the nodes that were visited, in their order.
-/
import DurableWorkflow.Proofs.Json.Records
import DurableWorkflow.Proofs.Json.Texts
import DurableWorkflow.Store.Row

namespace DurableWorkflow

open Decoder (SetBy must_read_ok may_read_ok)
open Json (written writtenItems)

/-- A text that stands first in what is written of a record, and is set by its own field
only, is read back as it is. -/
theorem first_of_written {ρ : Type} {shape : Decoder.Shape ρ} {p : ρ → String} {name : String}
    {f : Decoder.Field ρ} (hset : SetBy shape p name)
    (hfind : shape.fields.find? (fun f => f.name = name) = some f)
    (hfield : ∀ {d r r'}, f.read d r = .ok r' → ∃ a, Decoder.string d = .ok a ∧ p r' = a)
    {depth : Nat} {rest : List Char} {text : String} {ms : List (String × Value)} {r : ρ}
    (h : Decoder.record shape (written depth rest (.object ((name, .string text) :: ms))) = .ok r) :
    p r = text := by
  rw [written, Json.writtenMembers] at h
  obtain ⟨r₁, hread, hp⟩ := Decoder.record_first hset hfind h
  obtain ⟨a, ha, hr₁⟩ := hfield hread
  rw [written] at ha
  injection ha with ha
  rw [hp, hr₁, ← ha]

/-- The node of a step is set by its own field only. -/
theorem Step.node_setBy : SetBy shape Step.node "node_id" := by
  intro f hf hname d t t' h
  simp only [shape, List.mem_cons, List.not_mem_nil, or_false] at hf
  rcases hf with rfl | rfl | rfl | rfl | rfl | rfl | rfl | rfl | rfl | rfl
  · exact absurd rfl hname
  · obtain ⟨a, -, rfl⟩ := must_read_ok h
    rfl
  · obtain ⟨a, -, rfl⟩ := must_read_ok h
    rfl
  · obtain ⟨a, -, rfl⟩ := must_read_ok h
    rfl
  all_goals
    obtain ⟨a, -, rfl⟩ := may_read_ok h
    rfl

/-- The node stands first in the text of a step, whatever comes after it. -/
theorem Step.encode_eq (t : Step) :
    ∃ ms, t.encode = .object (("node_id", .string t.node) :: ms) := ⟨_, rfl⟩

/-- A step that is read from its text is at the same node. -/
theorem Step.node_of_written {depth : Nat} {rest : List Char} {t t' : Step}
    (h : Step.decode (written depth rest t.encode) = .ok t') : t'.node = t.node := by
  have hfind : shape.fields.find? (fun f => f.name = "node_id")
      = some (.must "node_id" Decoder.string fun a s => { s with node := a }) := by
    unfold shape
    exact List.find?_cons_of_pos rfl
  obtain ⟨ms, hencode⟩ := t.encode_eq
  rw [hencode] at h
  refine first_of_written node_setBy hfind ?_ h
  intro d r r' hread
  obtain ⟨a, ha, rfl⟩ := must_read_ok hread
  exact ⟨a, ha, rfl⟩

/-- A part that reading an item from its text keeps is kept by reading a list of items. -/
theorem parts_of_writtenItems {α β : Type} {encode : α → Value} {read : Decoder α} {p : α → β}
    (hkeeps : ∀ {depth rest a a'}, read (written depth rest (encode a)) = .ok a' → p a' = p a)
    {depth : Nat} {rest : List Char} (items : List α) {items' : List α}
    (h : Decoder.each read (writtenItems depth rest (items.map encode)) = .ok items') :
    items'.map p = items.map p := by
  induction items generalizing items' with
  | nil =>
      injection h with h
      rw [← h]
  | cons a items ih =>
      rw [List.map_cons, writtenItems] at h
      obtain ⟨a', items', rfl, ha, hitems⟩ := Decoder.each_cons_ok h
      rw [List.map_cons, List.map_cons, hkeeps ha, ih hitems]

/-- Steps that are read from their column are at the nodes of the steps that were
written. -/
theorem nodes_of_stepsText (steps : List Step) {steps' : List Step}
    (h : Decoder.ofText (Decoder.list Step.decode) (Store.stepsText steps) = .ok steps') :
    steps'.map Step.node = steps.map Step.node := by
  have hread := (Json.ofText_text _ _ _).mp h
  rw [written] at hread
  exact parts_of_writtenItems Step.node_of_written steps (Decoder.list_array_ok hread)

end DurableWorkflow
