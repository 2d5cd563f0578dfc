/-
What is found with a tag. Tags are stored as the text of a list, and a tag is looked for as
a quoted text within that text. Characters are told apart only up to the case of the letters
of ASCII, and not where they are seen as one (`folded`). It makes no difference whether this
is done to a tag before it is written or to what was written (`map_fold_tagsText`), so there
are two questions: which tags are compared as the same, and where a quoted text can occur
within the text of a list.

Such a text has quotes at three places, and what is looked for may begin at each of them.
At the quote that opens a tag it goes on as this tag does, so it is this tag. At a quote
within a tag it goes on as the rest of this tag does. And at the quote that closes a tag it
goes on with the comma after it and the quote that opens the next tag, so it is a comma. So
a tag is found exactly where it stands in the list, unless one of the other two happens, or
another tag that is compared as the same is there (`Found`).
-/
import DurableWorkflow.Proofs.Store.Columns
import DurableWorkflow.Proofs.Store.Legible
import DurableWorkflow.Proofs.Store.Patterns

namespace DurableWorkflow.Store

open Json (closing itemTail)
open Value (itemChars quote)

variable {t u : String} {rest : List Char} {tags : List String}

-- =========================================================== folding

/-- A text with its characters as they are compared. -/
def folded (s : String) : String := String.ofList (s.toList.map fold)

theorem toList_folded (s : String) : (folded s).toList = s.toList.map fold :=
  String.toList_ofList

/-- A character beyond ASCII is written as it is. -/
theorem escape_of_beyond {c : Char} (h : 128 ≤ c.toNat) : Value.escape c = [c] := by
  unfold Value.escape
  split
  next => exact absurd h (by decide)
  next => exact absurd h (by decide)
  next => exact absurd h (by decide)
  next => exact absurd h (by decide)
  next => exact absurd h (by decide)
  next => exact absurd h (by decide)
  next => exact absurd h (by decide)
  next => rw [if_neg (by omega)]

/-- It is compared with others beyond ASCII only: it has no other case, and what it is seen
as is beyond ASCII too. -/
theorem fold_of_beyond {c : Char} (h : 128 ≤ c.toNat) : 128 ≤ (fold c).toNat := by
  have hlower {d : Char} (hd : 128 ≤ d.toNat) : lower d = d := by
    unfold lower Char.toLower
    rw [dif_neg]
    rintro ⟨-, hz⟩
    have hsmall : d.toNat ≤ 90 := hz
    omega
  have hseen : 128 ≤ (seen c).toNat := by
    unfold seen
    split
    next => decide
    next => exact h
  rwa [fold, hlower hseen]

/-- What holds of the characters of ASCII, one by one, and of those beyond it holds of all. -/
theorem forall_char {p : Char → Prop} (hascii : ∀ n < 128, p (Char.ofNat n))
    (hbeyond : ∀ c : Char, 128 ≤ c.toNat → p c) (c : Char) : p c := by
  by_cases h : c.toNat < 128
  · have hc := hascii c.toNat h
    rwa [Char.ofNat_toNat] at hc
  · exact hbeyond c (Nat.le_of_not_lt h)

/-- The escape of a character is compared as the escape of what it is compared as. -/
theorem map_fold_escape : ∀ c : Char, (Value.escape c).map fold = Value.escape (fold c) := by
  apply forall_char
  · decide
  · intro c h
    rw [escape_of_beyond h, escape_of_beyond (fold_of_beyond h), List.map_singleton]

/-- Only a comma is compared as a comma. -/
theorem eq_comma_of_fold : ∀ c : Char, fold c = ',' → c = ',' := by
  apply forall_char
  · decide
  · intro c h hfold
    have hbeyond := fold_of_beyond h
    rw [hfold] at hbeyond
    exact absurd hbeyond (by decide)

theorem folded_eq_comma_iff : folded t = "," ↔ t = "," := by
  constructor
  · intro h
    have hchars : t.toList.map fold = [','] := by
      rw [← toList_folded, h]
      rfl
    obtain ⟨c, hc, hfold⟩ := List.map_eq_singleton_iff.mp hchars
    rw [← String.toList_inj, hc, eq_comma_of_fold c hfold]
    rfl
  · rintro rfl
    decide

theorem map_fold_closing (s : String) : (closing s).map fold = closing (folded s) := by
  have hchars (cs : List Char) :
      (cs.flatMap Value.escape).map fold = (cs.map fold).flatMap Value.escape := by
    rw [List.map_flatMap, List.flatMap_map]
    simp only [map_fold_escape]
  unfold closing
  rw [List.map_append, hchars, toList_folded]
  rfl

theorem map_fold_quote (s : String) : (quote s).map fold = quote (folded s) := by
  rw [Json.quote_eq, Json.quote_eq, List.map_cons, map_fold_closing]
  rfl

theorem map_fold_itemTail (tags : List String) :
    (itemTail (tags.map .string)).map fold = itemTail ((tags.map folded).map .string) := by
  induction tags with
  | nil => rfl
  | cons s tags ih =>
      show (',' :: (quote s ++ itemTail (tags.map .string))).map fold = _
      rw [List.map_cons, List.map_append, map_fold_quote, ih]
      rfl

/-- The text of a list of tags is a bracket and its items. -/
theorem toList_tagsText (tags : List String) :
    (tagsText tags).toList = '[' :: itemChars (tags.map .string) := by
  show (String.ofList _).toList = _
  rw [String.toList_ofList]
  rfl

theorem itemChars_tags (s : String) (tags : List String) :
    itemChars ((s :: tags).map .string) = quote s ++ itemTail (tags.map .string) :=
  Json.itemChars_cons _ _

/-- The text of a list is compared as that of the list with its tags as they are compared. -/
theorem map_fold_tagsText (tags : List String) :
    (tagsText tags).toList.map fold = (tagsText (tags.map folded)).toList := by
  rw [toList_tagsText, toList_tagsText, List.map_cons]
  cases tags with
  | nil => rfl
  | cons s tags =>
      rw [itemChars_tags, List.map_append, map_fold_quote, map_fold_itemTail, List.map_cons,
        itemChars_tags]
      rfl

-- ====================================================== occurrences

/-- After an opening quote a text stands only where it was written. -/
theorem closing_prefix_iff : closing t <+: closing u ++ rest ↔ t = u := by
  constructor
  · rintro ⟨after, h⟩
    have ht := Json.readString_closing t after
    rw [h, Json.readString_closing u rest] at ht
    exact (Prod.mk.inj (Except.ok.inj ht)).1.symm
  · rintro rfl
    exact List.prefix_append _ _

/-- What begins with a quote does not begin before the first one. -/
theorem infix_append_of_not_mem (front : List Char) {l : List Char} (hfront : '"' ∉ front) :
    '"' :: l <:+: front ++ rest ↔ '"' :: l <:+: rest := by
  induction front with
  | nil => rfl
  | cons c front ih =>
      obtain ⟨hc, hfront⟩ := not_or.mp (List.mem_cons.not.mp hfront)
      rw [List.cons_append, List.infix_cons_iff, ih hfront, List.cons_prefix_cons]
      simp [hc]

/-- The escape of a character has no control character, and a quote only for a quote. -/
theorem of_mem_escape {c d : Char} (h : d ∈ Value.escape c) :
    32 ≤ d.toNat ∧ (d = '"' → c = '"') := by
  have hdigit : ∀ n < 16, 32 ≤ (Value.hexDigit n).toNat ∧ Value.hexDigit n ≠ '"' := by decide
  have hall (ds : List Char) (hds : ds.all (fun d => 32 ≤ d.toNat ∧ d ≠ '"') = true)
      (hd : d ∈ ds) : 32 ≤ d.toNat ∧ (d = '"' → c = '"') := by
    obtain ⟨hle, hne⟩ := of_decide_eq_true (List.all_eq_true.mp hds d hd)
    exact ⟨hle, fun he => absurd he hne⟩
  unfold Value.escape at h
  split at h
  next =>
    rw [List.mem_cons, List.mem_singleton] at h
    rcases h with rfl | rfl
    · exact ⟨by decide, fun _ => rfl⟩
    · exact ⟨by decide, fun _ => rfl⟩
  next => exact hall _ rfl h
  next => exact hall _ rfl h
  next => exact hall _ rfl h
  next => exact hall _ rfl h
  next => exact hall _ rfl h
  next => exact hall _ rfl h
  next =>
    split at h
    next hcontrol =>
      have hhigh := hdigit (c.toNat / 16) (by omega)
      have hlow := hdigit (c.toNat % 16) (by omega)
      refine hall _ ?_ h
      simp [hhigh, hlow]
    next hcontrol =>
      rw [List.mem_singleton] at h
      rw [h]
      exact ⟨Nat.le_of_not_lt hcontrol, id⟩

/-- A quoted text begins within a tag only at a quote, if it is all that is left then. -/
theorem quote_infix_chars (cs rest : List Char) :
    quote t <:+: cs.flatMap Value.escape ++ '"' :: rest ↔
      '"' :: t.toList <:+ cs ∨ quote t <:+: '"' :: rest := by
  induction cs with
  | nil => simp
  | cons c cs ih =>
      rw [List.flatMap_cons, List.append_assoc, List.suffix_cons_iff]
      by_cases hc : c = '"'
      · subst hc
        have hclosing : cs.flatMap Value.escape ++ '"' :: rest
            = closing (String.ofList cs) ++ rest := by
          simp [closing]
        show quote t <:+: ['\\'] ++ '"' :: (cs.flatMap Value.escape ++ '"' :: rest) ↔ _
        rw [Json.quote_eq, infix_append_of_not_mem _ (by decide), List.infix_cons_iff,
          List.cons_prefix_cons, ← Json.quote_eq, ih, hclosing, closing_prefix_iff]
        have hhere : t = String.ofList cs ↔ '"' :: t.toList = '"' :: cs := by
          rw [← String.toList_inj, String.toList_ofList, List.cons_inj_right]
        rw [hhere]
        tauto
      · have hfront : '"' ∉ Value.escape c := fun h => hc ((of_mem_escape h).2 rfl)
        rw [Json.quote_eq, infix_append_of_not_mem _ hfront, ← Json.quote_eq, ih]
        simp [Ne.symm hc]

/-- A quoted text begins at the quote that closes a tag only if it is a comma, and another
tag comes after it. -/
theorem closing_prefix_itemTail_iff :
    closing t <+: itemTail (tags.map .string) ↔ t = "," ∧ tags ≠ [] := by
  cases tags with
  | nil =>
      simp only [ne_eq, not_true_eq_false, and_false, iff_false]
      intro h
      have hquote : '"' ∈ itemTail [] := h.subset (by simp [closing])
      exact absurd hquote (by decide)
  | cons s tags =>
      have hcomma : itemTail ((s :: tags).map Value.string)
          = closing "," ++ (closing s ++ itemTail (tags.map .string)) := rfl
      rw [hcomma, closing_prefix_iff]
      simp

/-- Where a quoted text stands among tags. The induction is on the tags; of each tag there are
the quote that opens it, the quotes within it and the quote that closes it. -/
theorem quote_infix_itemTail :
    quote t <:+: itemTail (tags.map .string) ↔
      (∃ s ∈ tags, t = s ∨ '"' :: t.toList <:+ s.toList) ∨ (t = "," ∧ 2 ≤ tags.length) := by
  induction tags with
  | nil =>
      have hnone : ¬ quote t <:+: itemTail [] := by
        intro h
        have hquote : '"' ∈ itemTail [] := h.subset List.mem_cons_self
        exact absurd hquote (by decide)
      simp [hnone]
  | cons s tags ih =>
      have hsplit : itemTail ((s :: tags).map .string)
          = [','] ++ '"' :: (closing s ++ itemTail (tags.map .string)) := rfl
      have hwithin : quote t <:+: closing s ++ itemTail (tags.map .string) ↔
          '"' :: t.toList <:+ s.toList ∨ quote t <:+: '"' :: itemTail (tags.map .string) := by
        unfold closing
        rw [List.append_assoc]
        exact quote_infix_chars s.toList _
      have hclose : quote t <:+: '"' :: itemTail (tags.map .string) ↔
          (t = "," ∧ tags ≠ []) ∨ quote t <:+: itemTail (tags.map .string) := by
        rw [Json.quote_eq, List.infix_cons_iff, List.cons_prefix_cons, closing_prefix_itemTail_iff]
        simp only [true_and]
      have hcount : 2 ≤ (s :: tags).length ↔ tags ≠ [] := by
        rw [List.length_cons, ne_eq, ← List.length_eq_zero_iff]
        omega
      rw [hsplit, Json.quote_eq, infix_append_of_not_mem _ (by decide), List.infix_cons_iff,
        List.cons_prefix_cons, ← Json.quote_eq, closing_prefix_iff, hwithin, hclose, ih, hcount]
      have hmore : 2 ≤ tags.length → tags ≠ [] := by
        rintro h rfl
        simp at h
      constructor
      · rintro (⟨-, h⟩ | h | h | ⟨s', hs', h⟩ | ⟨hcomma, hmany⟩)
        · exact .inl ⟨s, List.mem_cons_self, .inl h⟩
        · exact .inl ⟨s, List.mem_cons_self, .inr h⟩
        · exact .inr h
        · exact .inl ⟨s', List.mem_cons_of_mem s hs', h⟩
        · exact .inr ⟨hcomma, hmore hmany⟩
      · rintro (⟨s', hs', h⟩ | h)
        · rcases List.mem_cons.mp hs' with rfl | hs'
          · exact h.imp (fun h => ⟨rfl, h⟩) .inl
          · exact .inr (.inr (.inr (.inl ⟨s', hs', h⟩)))
        · exact .inr (.inr (.inl h))

/-- Where a quoted text stands in the text of a list of tags. -/
theorem quote_infix_tagsText :
    quote t <:+: (tagsText tags).toList ↔
      (∃ s ∈ tags, t = s ∨ '"' :: t.toList <:+ s.toList) ∨ (t = "," ∧ 2 ≤ tags.length) := by
  rw [← quote_infix_itemTail, toList_tagsText]
  cases tags with
  | nil => exact infix_append_of_not_mem ['['] (by decide)
  | cons s tags =>
      rw [itemChars_tags]
      exact (infix_append_of_not_mem ['['] (by decide)).trans
        (infix_append_of_not_mem [','] (by decide)).symm

/-- No null character stands in a text that is quoted. -/
theorem null_not_mem_quote (s : String) : '\x00' ∉ quote s := by
  have hclosing : '\x00' ∉ closing s := by
    intro h
    rcases List.mem_append.mp h with h | h
    · obtain ⟨c, -, hc⟩ := List.mem_flatMap.mp h
      exact absurd (of_mem_escape hc).1 (by decide)
    · exact absurd h (by decide)
  simp [Json.quote_eq, hclosing]

/-- So none stands in the text of a list of tags. -/
theorem null_not_mem_tagsText (tags : List String) : '\x00' ∉ (tagsText tags).toList := by
  have htail : '\x00' ∉ itemTail (tags.map .string) := by
    induction tags with
    | nil => decide
    | cons s tags ih => simpa [itemTail, Value.chars, Value.atom, null_not_mem_quote] using ih
  rw [toList_tagsText]
  cases tags with
  | nil => decide
  | cons s tags =>
      rw [itemChars_tags]
      simpa [itemTail, Value.chars, Value.atom] using htail

-- =========================================================== finding

/-- What is found with a tag in a list of tags: a tag that is compared as the same, or ends so
after a quote; and with a comma any two tags. -/
def Found (tag : String) (tags : List String) : Prop :=
  (∃ s ∈ tags, folded tag = folded s ∨ '"' :: (folded tag).toList <:+ (folded s).toList) ∨
    (tag = "," ∧ 2 ≤ tags.length)

instance (tag : String) (tags : List String) : Decidable (Found tag tags) :=
  inferInstanceAs (Decidable (_ ∨ _))

/-- The pattern of a tag matches the text of a list if the tag is found in the list. -/
theorem like_tagPattern (tag : String) (tags : List String) :
    like (tagPattern tag) (tagsText tags).toList = true ↔ Found tag tags := by
  unfold tagPattern Found
  rw [like_containing (null_not_mem_quote tag) (null_not_mem_tagsText tags), map_fold_quote,
    map_fold_tagsText, quote_infix_tagsText, folded_eq_comma_iff]
  simp

/-- A tag is found where it stands. -/
theorem found_of_mem {tag : String} (h : tag ∈ tags) : Found tag tags := .inl ⟨tag, h, .inl rfl⟩

/-- Nothing in a list of tags can be taken for a tag but itself: the tag is no comma, and it
is not compared as the same as another one, or as what stands in it after a quote. -/
def Unmistakable (tag : String) (tags : List String) : Prop :=
  tag ≠ "," ∧ ∀ s ∈ tags, s ≠ tag →
    folded tag ≠ folded s ∧ ¬ '"' :: (folded tag).toList <:+ (folded s).toList

instance (tag : String) (tags : List String) : Decidable (Unmistakable tag tags) :=
  inferInstanceAs (Decidable (_ ∧ _))

/-- Then it is found only where it stands. -/
theorem found_iff_mem {tag : String} (h : Unmistakable tag tags) : Found tag tags ↔ tag ∈ tags := by
  constructor
  · rintro (⟨s, hs, hfound⟩ | ⟨hcomma, -⟩)
    · by_cases hsame : s = tag
      · exact hsame ▸ hs
      · obtain ⟨hcase, hend⟩ := h.2 s hs hsame
        exact absurd hfound (not_or.mpr ⟨hcase, hend⟩)
    · exact absurd hcomma h.1
  · exact found_of_mem

-- ============================================================= lists

/-- A row of a workflow with the name of its standing and the text of its tags, as the store
writes them. -/
structure WorkflowRow.Labelled (row : WorkflowRow) : Prop where
  whole : row.IsWhole
  status : ∃ standing : WorkflowStatus, row.status = standing.name
  tags : ∃ tags, row.tags = tagsText tags

/-- Its record has the standing and the tags that were written. -/
theorem WorkflowRow.Labelled.columns_eq {row : WorkflowRow} (h : row.Labelled) :
    row.status = row.record.status.name ∧ row.tags = tagsText row.record.tags := by
  obtain ⟨standing, hstatus⟩ := h.status
  obtain ⟨tags, htags⟩ := h.tags
  have hread : WorkflowStatus.ofText standing.name = .ok standing := by cases standing <;> rfl
  constructor
  · rw [hstatus, record, hstatus, hread]
    rfl
  · rw [htags, record, htags, readsBack_tagsText]
    rfl

/-- Whether a workflow has a standing, if one is asked for. -/
def stands (status : Option WorkflowStatus) (w : Workflow) : Bool :=
  status.all fun standing => w.status = standing

theorem WorkflowRow.Labelled.meets_eq {row : WorkflowRow} (h : row.Labelled)
    (status : Option WorkflowStatus) :
    meets (status.map WorkflowStatus.name) row.status = stands status row.record := by
  cases status with
  | none => rfl
  | some standing =>
      have hnames : ∀ t u : WorkflowStatus, decide (t.name = u.name) = decide (t = u) := by
        intro t u
        cases t <;> cases u <;> rfl
      rw [h.columns_eq.1]
      exact hnames row.record.status standing

theorem WorkflowRow.Labelled.bears_eq {row : WorkflowRow} (h : row.Labelled) (tag : String) :
    bears (some tag) row = decide (Found tag row.record.tags) := by
  rw [Bool.eq_iff_iff, decide_eq_true_iff, ← like_tagPattern, ← h.columns_eq.2]
  rfl

/-- If the limit allows for all workflows, those that meet the conditions are listed, in some
order. -/
theorem listWorkflows_perm {s : Store} (hrows : ∀ row ∈ s.workflows, row.IsWhole)
    (status : Option WorkflowStatus) (tag : Option String)
    (htag : ∀ t ∈ tag, Text.bytes (tagPattern t) ≤ maxPattern) {limit : Nat}
    (hlimit : s.workflows.length ≤ limit) :
    ∃ ws, s.listWorkflows status tag limit = .ok ws ∧
      ws.Perm ((s.workflows.filter fun row =>
        bears tag row && meets (status.map WorkflowStatus.name) row.status).map
          WorkflowRow.record) := by
  have hkept : (s.workflows.filter fun row =>
      bears tag row && meets (status.map WorkflowStatus.name) row.status).length
        ≤ s.workflows.length := List.length_filter_le _ _
  by_cases hzero : limit = 0
  · have hnone : s.workflows = [] := List.length_eq_zero_iff.mp (by omega)
    refine ⟨[], ?_, ?_⟩
    · rw [listWorkflows, if_pos hzero]
      rfl
    · rw [hnone]
      exact .nil
  · have hlisted := listWorkflows_rows hrows status htag hzero
    generalize s.workflows.filter (fun row =>
      bears tag row && meets (status.map WorkflowStatus.name) row.status) = kept at hkept hlisted ⊢
    have hlength : (newestFirst WorkflowRow.updatedAt kept).length ≤ limit := by
      rw [length_newestFirst]
      exact Nat.le_trans hkept hlimit
    rw [within_eq_self hlength] at hlisted
    exact ⟨_, hlisted, (List.mergeSort_perm kept _).map _⟩

/-- With a tag the store lists the workflows in whose tags it is found, and that is where it
stands, unless something else among the tags can be taken for it. This holds of rows as the
store writes them, of tags whose pattern is not too long, and if the limit allows for all
workflows. -/
theorem tag_filter {s : Store} (hrows : ∀ row ∈ s.workflows, row.Labelled)
    (status : Option WorkflowStatus) (tag : String)
    (htag : Text.bytes (tagPattern tag) ≤ maxPattern) {limit : Nat}
    (hlimit : s.workflows.length ≤ limit) :
    ∃ ws, s.listWorkflows status (some tag) limit = .ok ws ∧
      ws.Perm ((s.workflows.map WorkflowRow.record).filter fun w =>
        stands status w && decide (Found tag w.tags)) ∧
      ((∀ row ∈ s.workflows, Unmistakable tag row.record.tags) →
        ws.Perm ((s.workflows.map WorkflowRow.record).filter fun w =>
          stands status w && decide (tag ∈ w.tags))) := by
  obtain ⟨ws, hws, hperm⟩ := listWorkflows_perm (fun row hrow => (hrows row hrow).whole) status
    (some tag) (fun t ht => Option.some.inj ht ▸ htag) hlimit
  have hconditions : (s.workflows.filter fun row =>
        bears (some tag) row && meets (status.map WorkflowStatus.name) row.status)
      = s.workflows.filter fun row =>
          stands status row.record && decide (Found tag row.record.tags) := by
    apply List.filter_congr
    intro row hrow
    rw [(hrows row hrow).bears_eq, (hrows row hrow).meets_eq, Bool.and_comm]
  have hrecords : ((s.workflows.map WorkflowRow.record).filter fun w =>
        stands status w && decide (Found tag w.tags))
      = (s.workflows.filter fun row =>
          stands status row.record && decide (Found tag row.record.tags)).map
            WorkflowRow.record := List.filter_map
  rw [hconditions, ← hrecords] at hperm
  refine ⟨ws, hws, hperm, ?_⟩
  intro hclear
  have hsame : (s.workflows.map WorkflowRow.record).filter (fun w =>
        stands status w && decide (Found tag w.tags))
      = (s.workflows.map WorkflowRow.record).filter fun w =>
          stands status w && decide (tag ∈ w.tags) := by
    apply List.filter_congr
    intro w hw
    obtain ⟨row, hrow, rfl⟩ := List.mem_map.mp hw
    rw [decide_eq_decide.mpr (found_iff_mem (hclear row hrow))]
  exact hsame ▸ hperm

-- ========================================================== examples

/-- A workflow with a number and some tags. -/
def numbered (number : Nat) (tags : List String) : Workflow :=
  { Workflow.shape.blank with id := toString number, tags := tags }

/-- A store with a workflow for each of some lists of tags. -/
def tagging (lists : List (List String)) : Store :=
  { Store.empty with workflows := lists.mapIdx fun i tags => .of (numbered i tags) }

theorem labelled_tagging (lists : List (List String)) :
    ∀ row ∈ (tagging lists).workflows, row.Labelled := by
  intro row hrow
  obtain ⟨i, hi, rfl⟩ := List.mem_mapIdx.mp hrow
  exact ⟨⟨Option.some_ne_none _, _, rfl⟩, ⟨.draft, rfl⟩, ⟨lists[i], rfl⟩⟩

/-- A tag with an underscore is not taken for a pattern. -/
theorem tag_filter_underscore :
    (∀ row ∈ (tagging [["a_c"], ["abc", "50%"]]).workflows,
      row.Labelled ∧ Unmistakable "a_c" row.record.tags) ∧
    ∃ ws, (tagging [["a_c"], ["abc", "50%"]]).listWorkflows (some .draft) (some "a_c") 2 = .ok ws ∧
      ws.map Workflow.tags = [["a_c"]] := by
  have hlabelled := labelled_tagging [["a_c"], ["abc", "50%"]]
  have hclear : ∀ row ∈ (tagging [["a_c"], ["abc", "50%"]]).workflows,
      Unmistakable "a_c" row.record.tags := by decide +kernel
  obtain ⟨ws, hws, -, hexact⟩ := tag_filter hlabelled (some .draft) "a_c" (by decide)
    (Nat.le_refl 2)
  have htags := (hexact hclear).map Workflow.tags
  have hone : (((tagging [["a_c"], ["abc", "50%"]]).workflows.map WorkflowRow.record).filter
      fun w => stands (some .draft) w && decide ("a_c" ∈ w.tags)).map Workflow.tags
        = [["a_c"]] := by decide +kernel
  rw [hone, List.perm_singleton] at htags
  exact ⟨fun row hrow => ⟨hlabelled row hrow, hclear row hrow⟩, ws, hws, htags⟩

/-- A tag for which the store lists a workflow that does not have it. -/
def Mistaken (tag : String) (tags : List String) : Prop :=
  (∀ row ∈ (tagging [tags]).workflows, row.Labelled) ∧
    ∃ w, (tagging [tags]).listWorkflows none (some tag) 1 = .ok [w] ∧ w.tags = tags ∧ tag ∉ w.tags

/-- So is one that is found where it does not stand. -/
theorem mistaken_of_found {tag : String} (h : Found tag tags) (hnot : tag ∉ tags)
    (htag : Text.bytes (tagPattern tag) ≤ maxPattern) : Mistaken tag tags := by
  obtain ⟨ws, hws, hperm⟩ := listWorkflows_perm (s := tagging [tags])
    (fun row hrow => (labelled_tagging [tags] row hrow).whole) none (some tag)
    (fun t ht => Option.some.inj ht ▸ htag) (Nat.le_refl 1)
  have hbears : bears (some tag) (.of (numbered 0 tags)) = true :=
    (like_tagPattern tag tags).mpr h
  have hrows : (tagging [tags]).workflows.filter (fun row =>
      bears (some tag) row && meets none row.status) = [.of (numbered 0 tags)] := by
    show [WorkflowRow.of (numbered 0 tags)].filter _ = _
    rw [List.filter_cons_of_pos (by rw [hbears]; rfl), List.filter_nil]
  have hone : ws = [(WorkflowRow.of (numbered 0 tags)).record] := by
    rw [Option.map_none, hrows] at hperm
    exact List.perm_singleton.mp hperm
  have htags : (WorkflowRow.of (numbered 0 tags)).record.tags = tags := by
    show (Decoder.ofText _ (tagsText tags)).toOption.getD [] = tags
    rw [readsBack_tagsText]
    rfl
  exact ⟨labelled_tagging [tags], _, hone ▸ hws, htags, htags.symm ▸ hnot⟩

/-- A tag that differs only in case is found, and so is one that stands after a quote, and one
of a character that is seen as another; a comma finds any two tags. -/
theorem tag_filter_not_exact :
    Mistaken "growth" ["Growth"] ∧ Mistaken "a" ["x\"a"] ∧ Mistaken "," ["a", "b"] ∧
      Mistaken "\ufffe" ["\ufffd"] :=
  ⟨mistaken_of_found (by decide) (by decide) (by decide),
    mistaken_of_found (by decide) (by decide) (by decide),
    mistaken_of_found (by decide) (by decide) (by decide),
    mistaken_of_found (by decide) (by decide) (by decide)⟩

end DurableWorkflow.Store
