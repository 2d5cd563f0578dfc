/-
Searching in text: whether one text occurs in another, replacing each
occurrence, and cutting at a separator. All three walk the characters once,
so each is a recursion on the text itself.
-/

namespace DurableWorkflow.Text

-- ======================================================= occurrences

/-- Whether `p` occurs in the text as a run of neighbouring characters. -/
def occurs (p : List Char) : List Char → Bool
  | [] => p.isEmpty
  | c :: r => p.isPrefixOf (c :: r) || occurs p r

/-- `occurs` on strings: `s` has `t` as a substring. -/
def contains (s t : String) : Bool := occurs t.toList s.toList

theorem occurs_iff {p t : List Char} :
    occurs p t = true ↔ ∃ l r, t = l ++ p ++ r := by
  induction t with
  | nil =>
    simp only [occurs, List.isEmpty_iff]
    constructor
    · rintro rfl
      exact ⟨[], [], rfl⟩
    · rintro ⟨l, r, h⟩
      simp only [List.append_assoc, List.nil_eq, List.append_eq_nil_iff] at h
      exact h.2.1
  | cons c t ih =>
    simp only [occurs, Bool.or_eq_true, List.isPrefixOf_iff_prefix, ih]
    constructor
    · rintro (⟨r, h⟩ | ⟨l, r, h⟩)
      · exact ⟨[], r, by simp [h]⟩
      · exact ⟨c :: l, r, by simp [h]⟩
    · rintro ⟨l, r, h⟩
      cases l with
      | nil => exact Or.inl ⟨r, by simpa using h.symm⟩
      | cons d l =>
        simp only [List.cons_append, List.cons.injEq] at h
        exact Or.inr ⟨l, r, h.2⟩

-- ======================================================= replacement

/-- Walks the text; `skip` characters still belong to the occurrence that was
replaced last. -/
def replaceFrom (p w : List Char) : Nat → List Char → List Char
  | _, [] => []
  | skip + 1, _ :: r => replaceFrom p w skip r
  | 0, c :: r =>
    if p.isPrefixOf (c :: r) then w ++ replaceFrom p w (p.length - 1) r
    else c :: replaceFrom p w 0 r

/-- The text with each occurrence of `p` replaced by `w`, from the left and
without overlap; what was put in is not searched again. -/
def replaceAll (p w t : List Char) : List Char := replaceFrom p w 0 t

-- ======================================================= separators

/-- The pieces of a text between separators; there is one piece more than
there are separators. -/
def splitAt (d : Char) : List Char → List (List Char)
  | [] => [[]]
  | c :: r =>
    if c = d then [] :: splitAt d r
    else match splitAt d r with
      | [] => [[c]]
      | s :: ss => (c :: s) :: ss

theorem splitAt_ne_nil (d : Char) (t : List Char) : splitAt d t ≠ [] := by
  cases t with
  | nil => simp [splitAt]
  | cons c t =>
    simp only [splitAt]
    split
    · simp
    · split <;> simp

end DurableWorkflow.Text
