/-
Dotted paths compose.

A path is cut at its dots, and its keys are followed into objects that lie inside each other.
Cutting is the library's `List.splitOn`, so keys without a dot are had back from their joined
text, and a text joined from two is cut into the keys of both; following keys is a fold of one
lookup, so the keys of both are followed one after the other. Between the two there is nothing
that looks at a key: an empty key, from a dot at either end of a path or from two dots side by
side, is a name like any other.
-/
import DurableWorkflow.Condition

namespace DurableWorkflow

-- ============================================================== cuts

/-- Cutting at a character is splitting on it. -/
theorem Text.splitAt_eq_splitOn (d : Char) (t : List Char) : Text.splitAt d t = t.splitOn d := by
  induction t with
  | nil => rfl
  | cons c t ih =>
      rw [Text.splitAt, ih, List.splitOn_cons_eq_if_modifyHead]
      by_cases hc : c = d
      · rw [if_pos hc, if_pos (beq_iff_eq.mpr hc)]
      · rw [if_neg hc, if_neg (mt beq_iff_eq.mp hc)]
        obtain ⟨s, ss, hs⟩ := List.exists_cons_of_ne_nil (List.splitOn_ne_nil d t)
        rw [hs, List.modifyHead_cons]

/-- Keys without a dot are had back from their joined text. -/
theorem pathKeys_intercalate {keys : List String} (hne : keys ≠ [])
    (hdots : ∀ k ∈ keys, '.' ∉ k.toList) : pathKeys (".".intercalate keys) = keys := by
  have hcut : (['.'].intercalate (keys.map String.toList)).splitOn '.' = keys.map String.toList :=
    List.splitOn_intercalate '.' (by simpa using hdots) (by simpa using hne)
  rw [pathKeys, Text.splitAt_eq_splitOn, String.toList_intercalate,
    show ".".toList = ['.'] from rfl, hcut, List.map_map]
  simp only [Function.comp_def, String.ofList_toList, List.map_id']

/-- A path joined from two has the keys of both. -/
theorem pathKeys_append (p q : String) :
    pathKeys (p ++ "." ++ q) = pathKeys p ++ pathKeys q := by
  have htext : (p ++ "." ++ q).toList = p.toList ++ '.' :: q.toList := by
    rw [String.toList_append, String.toList_append, show ".".toList = ['.'] from rfl,
      List.append_assoc, List.singleton_append]
  simp only [pathKeys, Text.splitAt_eq_splitOn, htext, List.splitOn_append_cons_self,
    List.map_append]

/-- There is always a first key. -/
theorem pathKeys_ne_nil (path : String) : pathKeys path ≠ [] := by
  simpa [pathKeys] using Text.splitAt_ne_nil '.' path.toList

-- =========================================================== lookups

namespace Value

/-- The value under a name in an object; nothing else has one. -/
def member? : Value → String → Option Value
  | .object members, key => Dict.find? members key
  | _, _ => none

/-- Following keys is looking one up after the other. -/
theorem follow_eq_foldlM (v : Value) (keys : List String) :
    v.follow keys = keys.foldlM member? v := by
  induction keys generalizing v with
  | nil => rw [follow]; rfl
  | cons k ks ih =>
      rw [List.foldlM_cons]
      cases v with
      | object members =>
          rw [follow, member?]
          cases hfind : Dict.find? members k with
          | none => rfl
          | some w => exact ih w
      | _ => rfl

/-- Keys are followed from where the keys before them lead to. -/
theorem follow_append (v : Value) (ks ls : List String) :
    v.follow (ks ++ ls) = (v.follow ks).bind fun w => w.follow ls := by
  simp only [follow_eq_foldlM, List.foldlM_append]
  rfl

end Value

-- ============================================================= paths

namespace Context

/-- Paths compose. Keys without a dot, joined with dots, lead where looking them up one after
the other leads: nowhere as soon as one is missing or what it is looked up in is no object. And
for all texts, a path joined from two leads where the second leads from the object that the
first leads to, and nowhere if that is no object. -/
theorem resolve_compose (c : Context) :
    (∀ keys : List String, keys ≠ [] → (∀ k ∈ keys, '.' ∉ k.toList) →
        c.resolve (".".intercalate keys) = keys.foldlM Value.member? (.object c))
      ∧ ∀ p q : String, c.resolve (p ++ "." ++ q) = match c.resolve p with
          | some (.object o) => Context.resolve o q
          | _ => none := by
  constructor
  · intro keys hne hdots
    rw [resolve, pathKeys_intercalate hne hdots, Value.follow_eq_foldlM]
  · intro p q
    rw [resolve, pathKeys_append, Value.follow_append, ← resolve]
    -- the second path has a first key, and only an object has a value under it
    obtain ⟨k, ks, hkeys⟩ := List.exists_cons_of_ne_nil (pathKeys_ne_nil q)
    rcases c.resolve p with _ | v
    · rfl
    · cases v with
      | object o => rfl
      | _ => simp only [Option.bind_some, hkeys, Value.follow]

/-- Two dots side by side in a path are an empty key between them, and it is looked up. -/
theorem resolve_compose_empty_key :
    let c : Context := [("user", .object [("", .object [("name", .string "Bob")])])]
    (["user", "", "name"] ≠ [] ∧ ∀ k ∈ ["user", "", "name"], '.' ∉ k.toList)
      ∧ c.resolve "user..name" = some (.string "Bob") := by
  intro c
  have hkeys : ["user", "", "name"] ≠ [] ∧ ∀ k ∈ ["user", "", "name"], '.' ∉ k.toList := by
    decide
  refine ⟨hkeys, ?_⟩
  exact (resolve_compose c).1 ["user", "", "name"] hkeys.1 hkeys.2

end Context

end DurableWorkflow
