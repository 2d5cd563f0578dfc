/-
What expanding a text with references to variables gives.

Every text is cut into what is copied, references that are closed, and at most one reference
at the end that is not (`exists_cut`). The pieces are copied, each closed reference becomes
the value of its variable or stays where there is none, and values are not looked at again
(`expand_fill`): so in a text without an open reference nothing changes but the references to
variables that are set (`expand_closed`).

An open reference is not left as it is written. It is taken as if a brace stood at the end of
the text, so it becomes the value of a variable too, and where there is none it comes out
with the brace (`expand_open`, `expand_unclosed`).
-/
import Mathlib.Data.List.Infix
import Mathlib.Data.List.TakeWhile
import DurableWorkflow.Proofs.Text.Holes
import DurableWorkflow.Settings.Source

namespace DurableWorkflow.Environment

open Text (Holed)

variable {env : Environment} {h : Holed} {l r t text : List Char} {name : String}

-- ======================================================== references

/-- A reference to a variable. -/
def reference (name : String) : List Char := '$' :: '\x7b' :: (name.toList ++ ['\x7d'])

/-- The value of a variable, and a reference to it where it has none. -/
def value (env : Environment) (name : String) : List Char :=
  ((env name).map String.toList).getD (reference name)

theorem resolve_eq (env : Environment) (cs : List Char) :
    env.resolve cs = env.value (String.ofList cs) := by
  unfold resolve value reference
  cases env (String.ofList cs) with
  | none => rw [String.toList_ofList]; rfl
  | some v => rfl

/-- A text cut at its closed references: none begins in a piece, and each ends with the first
brace that can end it. -/
structure Cut (h : Holed) : Prop where
  pieces : ∀ l ∈ h.pieces, ¬ ['$', '\x7b'] <:+: l
  names : ∀ name ∈ h.names, '\x7d' ∉ name.toList

/-- A text without an open reference: after each beginning of a reference there is a brace
that ends it. -/
def Closed (text : List Char) : Prop :=
  ∀ t ∈ text.tails, ['$', '\x7b'] <+: t → '\x7d' ∈ t

instance (text : List Char) : Decidable (Closed text) :=
  inferInstanceAs (Decidable (∀ t ∈ text.tails, ['$', '\x7b'] <+: t → '\x7d' ∈ t))

-- ============================================================= parts

/-- A character that does not begin a reference is copied. -/
theorem expand_cons (env : Environment) {c : Char} (hc : ¬ ['$', '\x7b'] <+: c :: t) :
    env.expand (c :: t) = c :: env.expand t := by
  rw [expand]
  rintro r rfl rfl
  exact hc ⟨r, rfl⟩

/-- No reference begins in a piece and goes on after it, unless a brace comes next. -/
theorem not_prefix_append {c : Char} (hl : ¬ ['$', '\x7b'] <:+: c :: l)
    (ht : t.head? ≠ some '\x7b') : ¬ ['$', '\x7b'] <+: c :: (l ++ t) := by
  intro hpre
  obtain ⟨rfl, hnext⟩ := List.cons_prefix_cons.mp hpre
  cases l with
  | nil =>
      obtain ⟨r, hr⟩ := hnext
      rw [List.nil_append] at hr
      exact ht (hr ▸ rfl)
  | cons d l =>
      obtain rfl := (List.cons_prefix_cons.mp hnext).1
      exact hl ⟨[], l, rfl⟩

/-- A piece without the beginning of a reference is copied. -/
theorem expand_append (env : Environment) (hl : ¬ ['$', '\x7b'] <:+: l)
    (ht : t.head? ≠ some '\x7b') : env.expand (l ++ t) = l ++ env.expand t := by
  induction l with
  | nil => rfl
  | cons c l ih =>
      have hl' : ¬ ['$', '\x7b'] <:+: l :=
        fun hinside => hl (hinside.trans (List.suffix_cons c l).isInfix)
      rw [List.cons_append, expand_cons env (not_prefix_append hl ht), ih hl', List.cons_append]

/-- A closed reference becomes the value of its variable. -/
theorem expand_reference (env : Environment) (hname : '\x7d' ∉ name.toList) (t : List Char) :
    env.expand (reference name ++ t) = env.value name ++ env.expand t := by
  have heq : reference name ++ t = '$' :: '\x7b' :: (name.toList ++ '\x7d' :: t) := by
    simp [reference]
  rw [heq, expand, Text.takeWhile_cut hname, Text.dropWhile_cut hname, resolve_eq,
    String.ofList_toList, List.drop_succ_cons, List.drop_zero]

/-- A reference that is open is closed by the end of the text. -/
theorem expand_opening (env : Environment) (hr : '\x7d' ∉ r) :
    env.expand ('$' :: '\x7b' :: r) = env.value (String.ofList r) := by
  have hall : ∀ c ∈ r, decide (c ≠ '\x7d') = true :=
    fun c hc => decide_eq_true (ne_of_mem_of_not_mem hc hr)
  have htake : r.takeWhile (· ≠ '\x7d') = r := List.takeWhile_eq_self_iff.mpr hall
  have hdrop : r.dropWhile (· ≠ '\x7d') = [] := List.dropWhile_eq_nil_iff.mpr hall
  rw [expand, htake, hdrop, resolve_eq, List.drop_nil, expand, List.append_nil]

-- ============================================================= texts

/-- What becomes of a text that is cut: the pieces are copied, and each reference becomes the
value of its variable. -/
theorem expand_fill (env : Environment) (hcut : Cut h) (ht : t.head? ≠ some '\x7b') :
    env.expand (h.fill reference ++ t) = h.fill env.value ++ env.expand t := by
  refine h.fill_of_parts env.expand (fun t => t.head? ≠ some '\x7b')
    (fun l hl t ht => expand_append env (hcut.pieces l hl) ht)
    (fun name hname t => expand_reference env (hcut.names name hname) t) (fun name t => ?_) ht
  show some '$' ≠ some '\x7b'
  decide

/-- What is left of a text after its last closed reference: nothing, or an open one. -/
inductive Rest : List Char → Prop
  | none : Rest []
  | opening {r : List Char} (h : '\x7d' ∉ r) : Rest ('$' :: '\x7b' :: r)

theorem Rest.head?_ne (ht : Rest t) : t.head? ≠ some '\x7b' := by
  cases ht <;> simp

/-- Every text is cut at its closed references. -/
theorem exists_cut (text : List Char) : ∃ h t, Cut h ∧ Rest t ∧ text = h.fill reference ++ t := by
  fun_induction DurableWorkflow.references text with
  | case1 => exact ⟨⟨[], []⟩, [], ⟨by decide, by decide⟩, .none, rfl⟩
  | case2 r ih =>
      by_cases hclosed : '\x7d' ∈ r
      · obtain ⟨cs, after, rfl, hcs⟩ := List.eq_append_cons_of_mem hclosed
        rw [Text.dropWhile_cut hcs, List.drop_succ_cons, List.drop_zero] at ih
        obtain ⟨⟨first, rest⟩, t, hcut, ht, heq⟩ := ih
        refine ⟨⟨[], (String.ofList cs, first) :: rest⟩, t, ⟨fun l hl => ?_, fun name hname => ?_⟩,
          ht, ?_⟩
        · rcases List.mem_cons.mp hl with rfl | hl
          · exact (by decide : ¬ ['$', '\x7b'] <:+: [])
          · exact hcut.pieces l hl
        · rcases List.mem_cons.mp hname with rfl | hname
          · rwa [String.toList_ofList]
          · exact hcut.names name hname
        · simp [heq, Holed.fill, reference]
      · exact ⟨⟨[], []⟩, _, ⟨by decide, by decide⟩, .opening hclosed, rfl⟩
  | case3 c r hc ih =>
      obtain ⟨⟨first, rest⟩, t, hcut, ht, heq⟩ := ih
      refine ⟨⟨c :: first, rest⟩, t, ⟨fun l hl => ?_, hcut.names⟩, ht, congrArg (c :: ·) heq⟩
      rcases List.mem_cons.mp hl with rfl | hl
      · intro hinside
        rcases List.infix_cons_iff.mp hinside with hpre | hinside
        · have hfirst : first <+: r := ⟨_, by rw [heq, Holed.fill, List.append_assoc]⟩
          obtain ⟨r', hr⟩ := hpre.trans (List.cons_prefix_cons.mpr ⟨rfl, hfirst⟩)
          obtain ⟨rfl, rfl⟩ := List.cons.inj hr
          exact hc r' rfl rfl
        · exact hcut.pieces first List.mem_cons_self hinside
      · exact hcut.pieces l (List.mem_cons_of_mem _ hl)

/-- With an open reference at the end, what it opens is taken for the name of a variable. -/
theorem expand_open (env : Environment) (hcut : Cut h) (hr : '\x7d' ∉ r) :
    env.expand (h.fill reference ++ '$' :: '\x7b' :: r)
      = h.fill env.value ++ env.value (String.ofList r) := by
  rw [expand_fill env hcut (Rest.opening hr).head?_ne, expand_opening env hr]

-- ============================================================ closed

/-- A text without an open reference is all pieces and closed references. -/
theorem exists_cut_of_closed (hclosed : Closed text) : ∃ h, Cut h ∧ text = h.fill reference := by
  obtain ⟨h, t, hcut, ht, rfl⟩ := exists_cut text
  cases ht with
  | none => exact ⟨h, hcut, List.append_nil _⟩
  | @opening r hr =>
      have hmem := hclosed ('$' :: '\x7b' :: r)
        ((List.mem_tails _ _).mpr (List.suffix_append _ _)) ⟨r, rfl⟩
      simp [hr] at hmem

/-- Of a text without an open reference nothing changes but its references. They are cut out,
each up to the first brace that can end it, and each becomes the value of its variable or
stays as it is written where there is none; what stands between them is copied, and values are
put in as they are. So without any variable the text is unchanged. -/
theorem expand_closed (env : Environment) (text : List Char) (hclosed : Closed text) :
    (∃ h, Cut h ∧ text = h.fill reference) ∧
      (∀ h, Cut h → text = h.fill reference → env.expand text = h.fill env.value) ∧
      ((∀ name, env name = none) → env.expand text = text) := by
  have hexpand : ∀ h, Cut h → text = h.fill reference → env.expand text = h.fill env.value := by
    rintro h hcut rfl
    have := expand_fill env hcut (t := []) (by simp)
    rwa [expand, List.append_nil, List.append_nil] at this
  obtain ⟨h, hcut, heq⟩ := exists_cut_of_closed hclosed
  refine ⟨⟨h, hcut, heq⟩, hexpand, fun hnone => ?_⟩
  have hvalue : env.value = reference := by
    funext name
    rw [value, hnone]
    rfl
  rw [hexpand h hcut heq, hvalue, ← heq]

/-- Two variables, one of which has a reference to the other as its value. -/
def twoVariables : Environment := fun name =>
  if name = "A" then some "$\x7bB\x7d" else if name = "B" then some "x" else none

/-- A value with a reference in it is put in as it is. -/
theorem expand_closed_nested :
    twoVariables.expand "$\x7bA\x7d/$\x7bB\x7d/$\x7bC\x7d".toList
      = "$\x7bB\x7d/x/$\x7bC\x7d".toList := by
  have hexpand := (expand_closed twoVariables "$\x7bA\x7d/$\x7bB\x7d/$\x7bC\x7d".toList
    (by decide)).2.1 ⟨[], [("A", ['/']), ("B", ['/']), ("C", [])]⟩ ⟨by decide, by decide⟩ (by decide)
  exact hexpand.trans (by decide)

/-- A reference that is not closed does not stay as it is written: it is closed where there is
no variable, and replaced where there is one. -/
theorem expand_unclosed :
    Environment.expand (fun _ => none) "$\x7bA".toList = "$\x7bA\x7d".toList ∧
      Environment.expand (fun _ => some "x") "$\x7bA".toList = "x".toList := by
  have hopening : "$\x7bA".toList = '$' :: '\x7b' :: ['A'] := by decide
  rw [hopening]
  constructor
  · exact (expand_opening _ (by decide)).trans (by decide)
  · exact (expand_opening _ (by decide)).trans (by decide)

end DurableWorkflow.Environment
