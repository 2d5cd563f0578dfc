/-
Filling placeholders in, one key after the other, and when that is the same as filling all of
them in at once.

It is not the same for every context: the keys that come later are looked for in the whole
text, so also in the values that were put in before them (`fill_again`). It is the same where
no value has in it the beginning of the placeholder of another key (`fill_at_once`), and then
the order of the keys does not matter. A number or a truth value has no brace, so this is asked
of texts only.

The proof goes from the first key to the last. What the keys so far have left is the template
with what they show in its holes (`shown`), and one more key changes just its own holes
(`fillOne_fill`).
-/
import Mathlib.Data.List.Induction
import DurableWorkflow.Action.Placeholder
import DurableWorkflow.Proofs.Dict
import DurableWorkflow.Proofs.Json.Numbers
import DurableWorkflow.Proofs.Text.Holes

namespace DurableWorkflow.Placeholder

open Text (Holed Inert Replaced)

variable {context done : Context} {key name : String} {v : Value} {h : Holed}

-- ============================================================= shown

/-- The text that a context has for a key. -/
def text? (context : Context) (key : String) : Option String :=
  (context.find? key).bind replacement?

/-- What stands in the place of a key: the text that the context has for it, and its
placeholder if there is none. -/
def shown (context : Context) (key : String) : List Char :=
  ((text? context key).map String.toList).getD (mark key)

theorem shown_of_some {s : String} (h : text? context key = some s) :
    shown context key = s.toList := by
  rw [shown, h]
  rfl

theorem shown_of_none (h : text? context key = none) : shown context key = mark key := by
  rw [shown, h]
  rfl

/-- An entry gives its key a text if there was none with that key. -/
theorem text?_append_self (hnew : key ∉ done.keys) (v : Value) :
    text? (done ++ [(key, v)]) key = replacement? v := by
  rw [text?, Dict.find?_append, Dict.find?_eq_none hnew]
  simp only [Dict.find?, if_true, Option.none_or, Option.bind_some]

/-- It gives no other key a text. -/
theorem shown_append_of_ne (hne : key ≠ name) :
    shown (done ++ [(key, v)]) name = shown done name := by
  rw [shown, shown, text?, text?, Dict.find?_append]
  simp only [Dict.find?, if_neg hne, Option.or_none]

/-- What the first entries have for a key, no other entry changes. -/
theorem text?_of_init {rest : Context} {s : String} (hs : text? done key = some s) :
    text? (done ++ rest) key = some s := by
  obtain ⟨a, ha, hs⟩ := Option.bind_eq_some_iff.mp hs
  rw [text?, Dict.find?_append, ha]
  exact hs

-- ============================================================= marks

/-- A template as it is meant to be: no brace stands between its placeholders or in one of
their keys. -/
structure Plain (h : Holed) : Prop where
  pieces : ∀ l ∈ h.pieces, '\x7b' ∉ l ∧ '\x7d' ∉ l
  names : ∀ name ∈ h.names, '\x7b' ∉ name.toList ∧ '\x7d' ∉ name.toList

/-- The placeholder of a key does not begin in that of another one. -/
theorem inert_mark (hkey : '\x7d' ∉ key.toList)
    (hname : '\x7b' ∉ name.toList ∧ '\x7d' ∉ name.toList) (hne : key ≠ name) :
    Inert (mark key) (mark name) := by
  obtain ⟨hopen, hclose⟩ := hname
  refine ⟨fun t hpre => ?_, fun t hpre => ?_, Text.inert_of_notMem ?_⟩
  · -- both keys end with the first closing brace
    have hpre := (List.cons_prefix_cons.mp (List.cons_prefix_cons.mp hpre).2).2
    obtain ⟨u, hu⟩ := hpre
    have hcut : (key.toList ++ '\x7d' :: ('\x7d' :: u)).takeWhile (· ≠ '\x7d')
        = (name.toList ++ '\x7d' :: ('\x7d' :: t)).takeWhile (· ≠ '\x7d') := by
      simpa using congrArg (List.takeWhile (· ≠ '\x7d')) hu
    rw [Text.takeWhile_cut hkey, Text.takeWhile_cut hclose] at hcut
    exact hne (String.toList_inj.mp hcut)
  · have hpre := (List.cons_prefix_cons.mp hpre).2
    cases hchars : name.toList with
    | nil =>
        rw [hchars] at hpre
        exact absurd (List.cons_prefix_cons.mp hpre).1 (by decide)
    | cons c cs =>
        rw [hchars] at hpre hopen
        obtain rfl := (List.cons_prefix_cons.mp hpre).1
        exact hopen List.mem_cons_self
  · simp [hopen]

/-- Digits are no braces. -/
theorem brace_notMem_digits {ds : List Char} (h : ∀ c ∈ ds, Decimal.isDigit c = true) :
    '\x7b' ∉ ds := by
  intro hmem
  have := h _ hmem
  revert this
  decide

/-- A number is written without braces. -/
theorem brace_notMem_numeral {ds ts : List Char} (h : Json.Numeral ds ts) : '\x7b' ∉ ds ++ ts := by
  have hexponent : ∀ {es : List Char}, Json.Exponent es → '\x7b' ∉ es := by
    intro es hes
    cases hes with
    | none => exact List.not_mem_nil
    | some hsign hdigits =>
        have := brace_notMem_digits hdigits.all
        rcases hsign with rfl | rfl <;> simp [this]
  have hds := brace_notMem_digits h.digits.all
  have hts : '\x7b' ∉ ts := by
    cases h.tail with
    | whole hes => exact hexponent hes
    | fraction hfraction hes =>
        simp [brace_notMem_digits hfraction.all, hexponent hes]
  rw [List.mem_append, not_or]
  exact ⟨hds, hts⟩

theorem brace_notMem_written {cs : List Char} (h : Json.Written cs) : '\x7b' ∉ cs := by
  cases h with
  | plain h => exact brace_notMem_numeral h
  | negative h =>
      rw [List.mem_cons, not_or]
      exact ⟨by decide, brace_notMem_numeral h⟩

/-- The text of a number or a truth value is without braces. -/
theorem brace_notMem_replacement? {s : String} (h : replacement? v = some s)
    (hv : ∀ text, v ≠ .string text) : '\x7b' ∉ s.toList := by
  cases v with
  | string text => exact absurd rfl (hv text)
  | null | array _ | object _ => cases h
  | bool b =>
      obtain rfl := Option.some.inj h
      rw [Value.text, String.toList_ofList]
      cases b <;> decide
  | int n =>
      obtain rfl := Option.some.inj h
      rw [Value.text, String.toList_ofList]
      exact brace_notMem_written (Json.written_digits n)
  | real x =>
      obtain rfl := Option.some.inj h
      rw [Value.text, String.toList_ofList]
      show '\x7b' ∉ Value.floatText x
      unfold Value.floatText
      split
      · exact brace_notMem_written (Json.written_text x)
      · decide

-- ============================================================= steps

/-- One more key is filled in: what its placeholder stood for is shown, and the other holes
are left. -/
theorem fillOne_fill (hplain : Plain h) (hnew : key ∉ done.keys)
    (hkey : replacement? v ≠ none → '\x7d' ∉ key.toList)
    (hvalues : replacement? v ≠ none → ∀ name ∈ h.names, ∀ s, text? done name = some s →
      key ≠ name → Inert (mark key) s.toList) :
    fillOne (h.fill (shown done)) key v = h.fill (shown (done ++ [(key, v)])) := by
  have hnone : text? done key = none := by
    rw [text?, Dict.find?_eq_none hnew]
    rfl
  cases hv : replacement? v with
  | none =>
      have hsame : shown (done ++ [(key, v)]) = shown done := by
        funext name
        by_cases heq : key = name
        · subst heq
          rw [shown_of_none hnone, shown_of_none (by rw [text?_append_self hnew, hv])]
        · exact shown_append_of_ne heq
      rw [fillOne, hv, hsame]
  | some s =>
      have hsome : replacement? v ≠ none := by
        rw [hv]
        exact Option.some_ne_none s
      rw [fillOne, hv]
      refine Text.replaceAll_fill (List.cons_ne_nil _ _)
        (fun l hl => Text.inert_of_notMem (hplain.pieces l hl).1) fun name hname => ?_
      by_cases heq : key = name
      · subst heq
        rw [shown_of_none hnone, shown_of_some (by rw [text?_append_self hnew, hv])]
        exact .here
      · rw [shown_append_of_ne heq]
        apply Replaced.stays
        cases htext : text? done name with
        | none =>
            rw [shown_of_none htext]
            exact inert_mark (hkey hsome) (hplain.names name hname) heq
        | some s' =>
            rw [shown_of_some htext]
            exact hvalues hsome name hname s' htext heq

/-- A context in which no placeholder of a key begins where it does not belong: not across the
pieces of a template, and not in what stands in its holes. -/
structure Harmless (context : Context) (h : Holed) : Prop where
  keys : context.keys.Nodup
  marks : ∀ key, text? context key ≠ none → '\x7d' ∉ key.toList
  values : ∀ name ∈ h.names, ∀ s, text? context name = some s →
    ∀ key, key ≠ name → text? context key ≠ none → Inert (mark key) s.toList

/-- The first entries of a harmless context are a harmless context. -/
theorem Harmless.init {e : String × Value} (hc : Harmless (done ++ [e]) h) : Harmless done h where
  keys := by
    have := hc.keys
    rw [Dict.keys, List.map_append] at this
    exact (List.nodup_append.mp this).1
  marks key hkey := by
    obtain ⟨s, hs⟩ := Option.ne_none_iff_exists'.mp hkey
    exact hc.marks key (by rw [text?_of_init hs]; exact Option.some_ne_none s)
  values name hname s hs key hne hkey := by
    obtain ⟨s', hs'⟩ := Option.ne_none_iff_exists'.mp hkey
    exact hc.values name hname s (text?_of_init hs) key hne
      (by rw [text?_of_init hs']; exact Option.some_ne_none s')

/-- The last key of a harmless context is not among those before it. -/
theorem Harmless.new (hc : Harmless (done ++ [(key, v)]) h) : key ∉ Dict.keys done := by
  have := hc.keys
  rw [Dict.keys, List.map_append] at this
  exact fun hmem => (List.nodup_append.mp this).2.2 key hmem key (List.mem_singleton_self key) rfl

/-- All keys of a context have been filled in. -/
theorem foldl_fill (hplain : Plain h) (hc : Harmless context h) :
    context.foldl (fun text e => fillOne text e.1 e.2) (h.fill mark) = h.fill (shown context) := by
  induction context using List.reverseRecOn with
  | nil => rfl
  | append_singleton done e ih =>
      obtain ⟨key, v⟩ := e
      have hlast := text?_append_self hc.new v
      rw [List.foldl_append, ih hc.init]
      exact fillOne_fill hplain hc.new (fun hv => hc.marks key (hlast ▸ hv))
        fun hv name hname s hs hne =>
          hc.values name hname s (text?_of_init hs) key hne (hlast ▸ hv)

-- =========================================================== at once

/-- Filling placeholders in is filling all of them in at once, where the text that is put in
for a key has in it no beginning of the placeholder of another one. Of the context it is asked
besides that each key has one entry, and that no key with a text contains the brace that ends
a placeholder. Then it does not matter in which order the keys are. -/
theorem fill_at_once (context : Context) (h : Holed) (hplain : Plain h)
    (hkeys : context.keys.Nodup)
    (hmarks : ∀ key, text? context key ≠ none → '\x7d' ∉ key.toList)
    (hvalues : ∀ name ∈ h.names, ∀ s, context.find? name = some (.string s) →
      ∀ key, key ≠ name → text? context key ≠ none → Inert (mark key) s.toList) :
    fill (String.ofList (h.fill mark)) context = String.ofList (h.fill (shown context)) ∧
      ∀ other : Context, context.Perm other →
        fill (String.ofList (h.fill mark)) other = fill (String.ofList (h.fill mark)) context := by
  have hc : Harmless context h := by
    refine ⟨hkeys, hmarks, fun name hname s hs key hne hkey => ?_⟩
    obtain ⟨a, ha, hs⟩ := Option.bind_eq_some_iff.mp hs
    by_cases htext : ∃ text, a = .string text
    · obtain ⟨text, rfl⟩ := htext
      obtain rfl := Option.some.inj hs
      exact hvalues name hname _ ha key hne hkey
    · exact Text.inert_of_notMem
        (brace_notMem_replacement? hs fun text heq => htext ⟨text, heq⟩)
  have hfill : ∀ {other : Context}, Harmless other h →
      fill (String.ofList (h.fill mark)) other = String.ofList (h.fill (shown other)) := by
    intro other hother
    rw [fill, String.toList_ofList, foldl_fill hplain hother]
  refine ⟨hfill hc, fun other hperm => ?_⟩
  have htext : text? other = text? context := by
    funext key
    rw [text?, text?, Dict.find?_perm hkeys hperm]
  have hother : Harmless other h :=
    ⟨(hperm.map Prod.fst).nodup_iff.mp hkeys, htext ▸ hc.marks, htext ▸ hc.values⟩
  have hshown : shown other = shown context := by
    funext key
    rw [shown, shown, htext]
  rw [hfill hother, hfill hc, hshown]

/-- Three holes with their commas. -/
def threeHoles : Holed := ⟨[], [("a", [',', ' ']), ("b", [',', ' ']), ("c", [])]⟩

/-- Braces in values: `a` has its own placeholder, and `b` has its name between single
braces. -/
def braces : Context :=
  [("a", .string "\x7b\x7ba\x7d\x7d"), ("b", .string "\x7bb\x7d"), ("c", .null)]

theorem key_of_text?_braces (h : text? braces key ≠ none) : key = "a" ∨ key = "b" := by
  by_contra hne
  rw [not_or] at hne
  apply h
  by_cases hc : "c" = key
  · subst hc
    rfl
  · simp [text?, braces, Dict.find?, Ne.symm hne.1, Ne.symm hne.2, hc]

/-- These braces stay as they are. -/
theorem fill_at_once_braces :
    fill (String.ofList (threeHoles.fill mark)) braces
      = "\x7b\x7ba\x7d\x7d, \x7bb\x7d, \x7b\x7bc\x7d\x7d" := by
  refine (fill_at_once braces threeHoles ⟨by decide, by decide⟩ (by decide) ?_ ?_).1.trans
    (by decide)
  · intro key hkey
    rcases key_of_text?_braces hkey with rfl | rfl <;> decide
  · intro name hname s hs key hne hkey
    obtain rfl | rfl | rfl : name = "a" ∨ name = "b" ∨ name = "c" := by
      simpa [Holed.names, threeHoles] using hname
    · obtain rfl := Value.string.inj (Option.some.inj hs)
      obtain rfl := (key_of_text?_braces hkey).resolve_left hne
      show Inert (mark "b") (mark "a")
      exact inert_mark (by decide) (by decide) hne
    · obtain rfl := Value.string.inj (Option.some.inj hs)
      exact Text.inert_of_not_adjacent (by decide) (by decide)
    · cases hs

/-- One hole and nothing else. -/
def onlyA : Holed := ⟨[], [("a", [])]⟩

/-- The value of the first key is the placeholder of the second one, and this is filled in as
well; with the keys the other way round it is not. -/
theorem fill_again :
    Plain onlyA ∧
      String.ofList (onlyA.fill
          (shown [("a", .string "\x7b\x7bb\x7d\x7d"), ("b", .string "x")]))
        = "\x7b\x7bb\x7d\x7d" ∧
      fill (String.ofList (onlyA.fill mark))
          [("a", .string "\x7b\x7bb\x7d\x7d"), ("b", .string "x")] = "x" ∧
      fill (String.ofList (onlyA.fill mark))
          [("b", .string "x"), ("a", .string "\x7b\x7bb\x7d\x7d")]
        = "\x7b\x7bb\x7d\x7d" := by
  exact ⟨⟨by decide, by decide⟩, by decide, by decide, by decide⟩

end DurableWorkflow.Placeholder
