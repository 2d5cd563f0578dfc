/-
Maps stay in the order of their keys. A map in order that is put together entry by
entry, from the first to the last, is the map again, so it does not matter to a map
in order whether it was written down and read (`insert_append`).

What holds of every entry is kept by setting an entry that it holds of, and by
removing any.
-/
import DurableWorkflow.Dict

namespace DurableWorkflow.Dict

variable {α : Type} {m : Dict α} {k : String} {a : α}

-- ============================================================ entries

/-- An entry after setting one is that one, or was there before. -/
theorem mem_insert {e : String × α} (h : e ∈ m.insert k a) : e = (k, a) ∨ e ∈ m := by
  induction m with
  | nil => exact .inl (List.mem_singleton.mp h)
  | cons x m ih =>
      obtain ⟨key, b⟩ := x
      simp only [insert] at h
      split at h
      next =>
        rcases List.mem_cons.mp h with rfl | h
        · exact .inl rfl
        · exact .inr (List.mem_cons_of_mem _ h)
      next =>
        split at h
        next =>
          rcases List.mem_cons.mp h with rfl | h
          · exact .inl rfl
          · exact .inr h
        next =>
          rcases List.mem_cons.mp h with rfl | h
          · exact .inr List.mem_cons_self
          · rcases ih h with h | h
            · exact .inl h
            · exact .inr (List.mem_cons_of_mem _ h)

/-- An entry that is left after removing some was there before. -/
theorem mem_erase {e : String × α} (h : e ∈ m.erase k) : e ∈ m := by
  induction m with
  | nil => exact h
  | cons x m ih =>
      obtain ⟨key, b⟩ := x
      simp only [erase] at h
      split at h
      next => exact List.mem_cons_of_mem _ (ih h)
      next =>
        rcases List.mem_cons.mp h with rfl | h
        · exact List.mem_cons_self
        · exact List.mem_cons_of_mem _ (ih h)

/-- A value that is found is that of an entry. -/
theorem mem_of_find? (h : m.find? k = some a) : (k, a) ∈ m := by
  induction m with
  | nil => cases h
  | cons x m ih =>
      obtain ⟨key, b⟩ := x
      simp only [find?] at h
      split at h
      next hkey =>
        injection h with h
        rw [hkey, h]
        exact List.mem_cons_self
      next => exact List.mem_cons_of_mem _ (ih h)

-- =========================================================== lookups

/-- A key is looked up in the first entries, and if it is not there, in the others. -/
theorem find?_append (m n : Dict α) (k : String) :
    (m ++ n).find? k = (m.find? k).or (n.find? k) := by
  induction m with
  | nil => rfl
  | cons x m ih =>
      obtain ⟨key, b⟩ := x
      simp only [List.cons_append, find?]
      split
      · rfl
      · exact ih

/-- A key of no entry is not found. -/
theorem find?_eq_none (h : k ∉ m.keys) : m.find? k = none := by
  cases hfound : m.find? k with
  | none => rfl
  | some a => exact absurd (List.mem_map_of_mem (mem_of_find? hfound)) h

/-- Where each key has one entry, the value of every entry is found. -/
theorem find?_eq_some_iff (hkeys : m.keys.Nodup) : m.find? k = some a ↔ (k, a) ∈ m := by
  refine ⟨mem_of_find?, fun hmem => ?_⟩
  induction m with
  | nil => cases hmem
  | cons x m ih =>
      obtain ⟨key, b⟩ := x
      obtain ⟨hnew, hkeys⟩ := List.nodup_cons.mp hkeys
      simp only [find?]
      rcases List.mem_cons.mp hmem with heq | hmem
      · obtain ⟨rfl, rfl⟩ := Prod.mk.inj heq
        exact if_pos rfl
      · have hne : key ≠ k := fun heq => hnew (heq ▸ List.mem_map.mpr ⟨_, hmem, rfl⟩)
        rw [if_neg hne, ih hkeys hmem]

/-- Where each key has one entry, the order of the entries does not matter. -/
theorem find?_perm {n : Dict α} (hkeys : m.keys.Nodup) (h : m.Perm n) (k : String) :
    m.find? k = n.find? k := by
  apply Option.ext
  intro a
  have hkeys' : n.keys.Nodup := (h.map Prod.fst).nodup_iff.mp hkeys
  rw [find?_eq_some_iff hkeys, find?_eq_some_iff hkeys', h.mem_iff]

-- ============================================================== order

theorem sorted_nil : Sorted ([] : Dict α) := List.Pairwise.nil

/-- Setting an entry keeps the order. -/
theorem Sorted.insert (h : m.Sorted) (k : String) (a : α) : (m.insert k a).Sorted := by
  induction m with
  | nil => exact List.pairwise_singleton _ _
  | cons x m ih =>
      obtain ⟨key, b⟩ := x
      obtain ⟨hfirst, hrest⟩ := List.pairwise_cons.mp h
      simp only [Dict.insert]
      split
      next hkey => exact List.pairwise_cons.mpr ⟨fun e he => hkey ▸ hfirst e he, hrest⟩
      next hne =>
        split
        next hlt =>
          refine List.pairwise_cons.mpr ⟨fun e he => ?_, h⟩
          rcases List.mem_cons.mp he with rfl | he
          · exact hlt
          · exact String.lt_trans hlt (hfirst e he)
        next hnlt =>
          refine List.pairwise_cons.mpr ⟨fun e he => ?_, ih hrest⟩
          rcases mem_insert he with rfl | he
          · exact Std.lt_of_le_of_ne (String.not_lt.mp hnlt) (Ne.symm hne)
          · exact hfirst e he

/-- Removing entries keeps the order. -/
theorem Sorted.erase (h : m.Sorted) (k : String) : (m.erase k).Sorted := by
  induction m with
  | nil => exact h
  | cons x m ih =>
      obtain ⟨key, b⟩ := x
      obtain ⟨hfirst, hrest⟩ := List.pairwise_cons.mp h
      simp only [Dict.erase]
      split
      next => exact ih hrest
      next => exact List.pairwise_cons.mpr ⟨fun e he => hfirst e (mem_erase he), ih hrest⟩

/-- An entry that comes after all others is set behind them. -/
theorem insert_append (h : Sorted (m ++ [(k, a)])) : m.insert k a = m ++ [(k, a)] := by
  induction m with
  | nil => rfl
  | cons x m ih =>
      obtain ⟨key, b⟩ := x
      obtain ⟨hfirst, hrest⟩ := List.pairwise_cons.mp h
      have hlt : key < k := hfirst (k, a) (List.mem_append_right _ (List.mem_singleton_self _))
      have hne : k ≠ key := fun heq => String.lt_irrefl key (heq ▸ hlt)
      rw [insert, if_neg hne, if_neg (String.lt_asymm hlt), ih hrest, List.cons_append]

/-- What holds of every entry is kept by setting an entry that it holds of. -/
theorem of_insert {p : String × α → Prop} (h : ∀ e ∈ m, p e) (hnew : p (k, a)) :
    ∀ e ∈ m.insert k a, p e := by
  intro e he
  rcases mem_insert he with rfl | he
  · exact hnew
  · exact h e he

end DurableWorkflow.Dict
