/-
Texts with holes, and what replacing one text by another does to them.

A text is cut into the pieces that stand fast and the holes between them, each under a name
(`Holed`), and is had back by putting something in for each name (`Holed.fill`). Replacing is
from the left and does not search what it put in, so a text is replaced part by part, as long
as no occurrence begins in one part and ends in another; `Inert` says this of a part without
looking at the parts that follow. Where all pieces are inert, replacing a text is putting
something else in for the holes whose filling is just what is replaced
(`replaceAll_fill`).
-/
import DurableWorkflow.Text.Search

namespace DurableWorkflow.Text

variable {p w l t : List Char}

-- ============================================================= holes

/-- A text with holes: what stands before the first one, and the name of each with what
stands after it. -/
structure Holed where
  first : List Char
  rest : List (String × List Char)

namespace Holed

/-- The pieces that stand fast. -/
def pieces (h : Holed) : List (List Char) := h.first :: h.rest.map (·.2)

/-- The names of the holes, in their order. -/
def names (h : Holed) : List String := h.rest.map (·.1)

/-- The text with something put in for each name. -/
def fill (h : Holed) (put : String → List Char) : List Char :=
  h.first ++ h.rest.flatMap fun e => put e.1 ++ e.2

/-- A function that copies each piece and puts something else in for each hole does so with
the whole text. A piece may be copied only before what `Follows` allows; a filled hole and what
is left at the end are so. -/
theorem fill_of_parts (h : Holed) (f : List Char → List Char) (Follows : List Char → Prop)
    {put put' : String → List Char}
    (hpieces : ∀ l ∈ h.pieces, ∀ t, Follows t → f (l ++ t) = l ++ f t)
    (hholes : ∀ name ∈ h.names, ∀ t, f (put name ++ t) = put' name ++ f t)
    (hfollows : ∀ name t, Follows (put name ++ t)) (ht : Follows t) :
    f (h.fill put ++ t) = h.fill put' ++ f t := by
  obtain ⟨first, rest⟩ := h
  induction rest generalizing first with
  | nil =>
      simp only [fill, List.flatMap_nil, List.append_nil]
      exact hpieces first List.mem_cons_self t ht
  | cons e rest ih =>
      obtain ⟨name, piece⟩ := e
      -- after the first hole comes a text with one hole less
      have hrest := ih piece (fun l hl => hpieces l (List.mem_cons_of_mem _ hl))
        fun name' hname' => hholes name' (List.mem_cons_of_mem _ hname')
      have hcut : ∀ p : String → List Char, Holed.fill ⟨first, (name, piece) :: rest⟩ p
          = first ++ (p name ++ Holed.fill ⟨piece, rest⟩ p) := by
        intro p
        simp only [fill, List.flatMap_cons, List.append_assoc]
      rw [hcut, hcut, List.append_assoc, List.append_assoc, List.append_assoc, List.append_assoc,
        hpieces first List.mem_cons_self _ (hfollows name _),
        hholes name List.mem_cons_self, hrest]

end Holed

-- =============================================================== cuts

/-- A text is cut before the first `d`. -/
theorem takeWhile_cut {d : Char} (h : d ∉ l) (t : List Char) :
    (l ++ d :: t).takeWhile (· ≠ d) = l := by
  rw [List.takeWhile_append_of_pos (fun c hc => decide_eq_true (ne_of_mem_of_not_mem hc h)),
    List.takeWhile_cons_of_neg (by simp), List.append_nil]

theorem dropWhile_cut {d : Char} (h : d ∉ l) (t : List Char) :
    (l ++ d :: t).dropWhile (· ≠ d) = d :: t := by
  rw [List.dropWhile_append_of_pos (fun c hc => decide_eq_true (ne_of_mem_of_not_mem hc h)),
    List.dropWhile_cons_of_neg (by simp)]

-- ============================================================= inert

/-- No occurrence of `p` begins in the text, whatever comes after it. -/
def Inert (p : List Char) : List Char → Prop
  | [] => True
  | c :: r => (∀ t, ¬ p <+: c :: (r ++ t)) ∧ Inert p r

/-- Where the first character of `p` is missing, no occurrence begins. -/
theorem inert_of_notMem {c : Char} (h : c ∉ l) : Inert (c :: p) l := by
  induction l with
  | nil => trivial
  | cons d l ih =>
      rw [List.mem_cons, not_or] at h
      refine ⟨fun t hpre => ?_, ih h.2⟩
      exact h.1 (List.cons_prefix_cons.mp hpre).1

/-- Where two characters never stand next to each other, and the first of them is not at the
end, nothing begins that begins with the two. -/
theorem inert_of_not_adjacent {c d : Char} (hinside : ¬ [c, d] <:+: l) (hlast : l.getLast? ≠ some c) :
    Inert (c :: d :: p) l := by
  induction l with
  | nil => trivial
  | cons a l ih =>
      refine ⟨fun t hpre => ?_, ih (fun h => hinside (h.trans (List.suffix_cons a l).isInfix)) ?_⟩
      · obtain rfl := (List.cons_prefix_cons.mp hpre).1
        cases l with
        | nil => exact hlast rfl
        | cons b l =>
            obtain ⟨rfl, -⟩ := List.cons_prefix_cons.mp (List.cons_prefix_cons.mp hpre).2
            exact hinside ⟨[], l, rfl⟩
      · cases l with
        | nil => exact (Option.some_ne_none c).symm
        | cons b l => rwa [List.getLast?_cons_cons] at hlast

-- ========================================================= replacing

/-- What belongs to the occurrence that was replaced last is passed over. -/
theorem replaceFrom_append (p w l t : List Char) :
    replaceFrom p w l.length (l ++ t) = replaceAll p w t := by
  induction l with
  | nil => rfl
  | cons c l ih => exact ih

/-- An occurrence at the beginning is replaced. -/
theorem replaceAll_self_append (hp : p ≠ []) (w t : List Char) :
    replaceAll p w (p ++ t) = w ++ replaceAll p w t := by
  cases p with
  | nil => exact absurd rfl hp
  | cons c p =>
      have hpre : (c :: p).isPrefixOf (c :: (p ++ t)) = true :=
        List.isPrefixOf_iff_prefix.mpr (List.prefix_append (c :: p) t)
      show replaceFrom (c :: p) w 0 (c :: (p ++ t)) = _
      rw [replaceFrom, if_pos hpre]
      exact congrArg (w ++ ·) (replaceFrom_append (c :: p) w p t)

/-- A part in which no occurrence begins stays as it is. -/
theorem replaceAll_append (h : Inert p l) (w t : List Char) :
    replaceAll p w (l ++ t) = l ++ replaceAll p w t := by
  induction l with
  | nil => rfl
  | cons c l ih =>
      have hpre : p.isPrefixOf (c :: (l ++ t)) ≠ true :=
        fun hpre => h.1 t (List.isPrefixOf_iff_prefix.mp hpre)
      show replaceFrom p w 0 (c :: (l ++ t)) = _
      rw [replaceFrom, if_neg hpre]
      exact congrArg (c :: ·) (ih h.2)

/-- What becomes of the filling of a hole when `p` is replaced by `w`: it is `p` and becomes
`w`, or no occurrence begins in it and it stays. -/
inductive Replaced (p w : List Char) : List Char → List Char → Prop
  | here : Replaced p w p w
  | stays {l : List Char} (h : Inert p l) : Replaced p w l l

/-- A part is replaced by itself. -/
theorem Replaced.append (hp : p ≠ []) {l' : List Char} (h : Replaced p w l l') (t : List Char) :
    replaceAll p w (l ++ t) = l' ++ replaceAll p w t := by
  cases h with
  | here => exact replaceAll_self_append hp w t
  | stays h => exact replaceAll_append h w t

/-- Where the pieces are inert, replacing goes on in the holes alone. -/
theorem replaceAll_fill (hp : p ≠ []) {h : Holed} {put put' : String → List Char}
    (hpieces : ∀ l ∈ h.pieces, Inert p l)
    (hholes : ∀ name ∈ h.names, Replaced p w (put name) (put' name)) :
    replaceAll p w (h.fill put) = h.fill put' := by
  have hfill : replaceAll p w (h.fill put ++ []) = h.fill put' ++ [] :=
    h.fill_of_parts (replaceAll p w) (fun _ => True)
      (fun l hl t _ => replaceAll_append (hpieces l hl) w t)
      (fun name hname t => (hholes name hname).append hp t) (fun _ _ => trivial) trivial
  rwa [List.append_nil, List.append_nil] at hfill

end DurableWorkflow.Text
