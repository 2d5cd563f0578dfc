/-
What a pattern matches. The matcher tries every end of the text for each percent sign; what
it finds is what a pattern means, piece by piece (`Matches`, `matching_iff`).

A pattern that was made of a text matches every text that the other occurs in, up to the
case of the letters of ASCII and to the characters that are seen as one (`fold`). In such a
pattern all characters but the signs at both ends mean themselves, because those with a
meaning have a backslash before them (`wildcards_escape`). For the same reason the text can
be had back from it, so no two texts are escaped alike. A sign is seen as itself and nothing
else is seen as a sign, so it makes no difference whether a text is escaped first or seen
first (`map_seen_containing`).
-/
import DurableWorkflow.Store.Like
import Mathlib.Data.List.Infix
import Mathlib.Data.List.TakeWhile

namespace DurableWorkflow.Store

variable {cs t : List Char} {ws : List Wildcard}

-- ========================================================== escaping

/-- A character that is escaped stands for itself. -/
theorem wildcards_escapeChar (c : Char) (rest : List Char) :
    wildcards (escapeChar c ++ rest) = .char c :: wildcards rest := by
  unfold escapeChar
  split
  next => rfl
  next hplain =>
    obtain ⟨hslash, hpercent, hunderscore⟩ := not_or.mp hplain |>.imp_right not_or.mp
    rw [List.singleton_append, wildcards.eq_def]
    split
    next heq => cases heq
    next heq => exact absurd (List.cons.inj heq).1 hslash
    next heq => exact absurd (List.cons.inj heq).1 hslash
    next heq => exact absurd (List.cons.inj heq).1 hpercent
    next heq => exact absurd (List.cons.inj heq).1 hunderscore
    next heq =>
      obtain ⟨rfl, rfl⟩ := List.cons.inj heq
      rfl

/-- So does each character of a text. -/
theorem wildcards_escape (cs rest : List Char) :
    wildcards (escape cs ++ rest) = cs.map .char ++ wildcards rest := by
  induction cs with
  | nil => rfl
  | cons c cs ih =>
      have hcons : escape (c :: cs) = escapeChar c ++ escape cs := List.flatMap_cons
      rw [hcons, List.append_assoc, wildcards_escapeChar, ih]
      rfl

/-- So no two texts are escaped alike. -/
theorem escape_injective : Function.Injective escape := by
  have hpieces (cs : List Char) : wildcards (escape cs) = cs.map .char := by
    have h := wildcards_escape cs []
    rwa [List.append_nil, wildcards, List.append_nil] at h
  intro cs ds h
  have hchars : cs.map Wildcard.char = ds.map .char := by rw [← hpieces cs, h, hpieces ds]
  exact List.map_injective_iff.mpr (fun _ _ => Wildcard.char.inj) hchars

-- ========================================================== matching

/-- What the pieces of a pattern mean: any run of characters, any one character, or one
character in either case. What a backslash at the end stands for matches nothing. -/
inductive Matches : List Wildcard → List Char → Prop
  | nil : Matches [] []
  | run {ws : List Wildcard} {t : List Char} (skipped : List Char) (h : Matches ws t) :
      Matches (.run :: ws) (skipped ++ t)
  | one {ws : List Wildcard} {t : List Char} (c : Char) (h : Matches ws t) :
      Matches (.one :: ws) (c :: t)
  | char {ws : List Wildcard} {t : List Char} {c d : Char} (hcase : lower c = lower d)
      (h : Matches ws t) : Matches (.char c :: ws) (d :: t)

/-- A condition holds for some end of a text if it holds for what is left of the text after
some of it. -/
theorem anyEnd_iff {p : List Char → Bool} : anyEnd p t = true ↔ ∃ a b, t = a ++ b ∧ p b = true := by
  induction t with
  | nil =>
      constructor
      · intro h
        exact ⟨[], [], rfl, h⟩
      · rintro ⟨a, b, h, hb⟩
        obtain ⟨rfl, rfl⟩ := List.append_eq_nil_iff.mp h.symm
        exact hb
  | cons c t ih =>
      rw [anyEnd, Bool.or_eq_true, ih]
      constructor
      · rintro (h | ⟨a, b, rfl, hb⟩)
        · exact ⟨[], c :: t, rfl, h⟩
        · exact ⟨c :: a, b, rfl, hb⟩
      · rintro ⟨a, b, h, hb⟩
        cases a with
        | nil => exact .inl (h ▸ hb)
        | cons d a => exact .inr ⟨a, b, (List.cons.inj h).2, hb⟩

/-- The matcher finds what the pieces of a pattern mean. -/
theorem matching_iff : matching ws t = true ↔ Matches ws t := by
  induction ws generalizing t with
  | nil =>
      rw [matching, List.isEmpty_iff]
      constructor
      · rintro rfl
        exact .nil
      · intro h
        cases h
        rfl
  | cons w ws ih =>
      cases w with
      | run =>
          rw [matching, anyEnd_iff]
          constructor
          · rintro ⟨skipped, rest, rfl, h⟩
            exact .run skipped (ih.mp h)
          · intro h
            cases h with
            | run skipped h => exact ⟨skipped, _, rfl, ih.mpr h⟩
      | one =>
          cases t with
          | nil => exact ⟨nofun, nofun⟩
          | cons c t =>
              rw [matching, ih]
              constructor
              · exact .one c
              · intro h
                cases h with
                | one _ h => exact h
      | char c =>
          cases t with
          | nil => exact ⟨nofun, nofun⟩
          | cons d t =>
              rw [matching, Bool.and_eq_true, decide_eq_true_eq, ih]
              constructor
              · rintro ⟨hcase, h⟩
                exact .char hcase h
              · intro h
                cases h with
                | char hcase h => exact ⟨hcase, h⟩
      | nothing => exact ⟨nofun, nofun⟩

/-- A percent sign at the end of a pattern matches everything. -/
theorem matching_run (t : List Char) : matching [.run] t = true :=
  anyEnd_iff.mpr ⟨t, [], (List.append_nil t).symm, rfl⟩

/-- Characters, and anything after them. -/
theorem matching_chars :
    matching (cs.map .char ++ [.run]) t = true ↔ cs.map lower <+: t.map lower := by
  induction cs generalizing t with
  | nil => simp [matching_run]
  | cons c cs ih =>
      cases t with
      | nil => simp [matching]
      | cons d t => simp [matching, ih]

/-- The pattern that was made of a text matches the texts that it occurs in, up to the case
of letters. -/
theorem matching_containing :
    matching (wildcards (containing cs)) t = true ↔ cs.map lower <:+: t.map lower := by
  have hpieces : wildcards (containing cs) = .run :: (cs.map .char ++ [.run]) := by
    show Wildcard.run :: wildcards (escape cs ++ ['%']) = _
    rw [wildcards_escape]
    rfl
  rw [hpieces, matching, anyEnd_iff]
  simp only [matching_chars]
  constructor
  · rintro ⟨a, b, rfl, h⟩
    rw [List.map_append]
    exact h.isInfix.trans (List.suffix_append _ _).isInfix
  · rintro ⟨a, b, h⟩
    rw [List.append_assoc] at h
    obtain ⟨a, t', rfl, -, hb⟩ := List.map_eq_append_iff.mp h.symm
    exact ⟨a, t', rfl, _, hb.symm⟩

-- =========================================================== seeing

/-- A character as it is compared: as it is seen, and in lower case. -/
def fold (c : Char) : Char := lower (seen c)

/-- Without the two characters that are seen as another one only case is lost. -/
theorem map_fold_of_not_mem (hfirst : '\ufffe' ∉ cs) (hsecond : '\uffff' ∉ cs) :
    cs.map fold = cs.map lower := by
  apply List.map_congr_left
  intro c hc
  have hself : seen c = c :=
    if_neg (not_or.mpr ⟨ne_of_mem_of_not_mem hc hfirst, ne_of_mem_of_not_mem hc hsecond⟩)
  rw [fold, hself]

/-- A text without a null character is seen as a whole. -/
theorem seenText_eq (hnull : '\x00' ∉ cs) : seenText cs = cs.map seen := by
  have hwhole : cs.takeWhile (· ≠ '\x00') = cs := by
    apply List.takeWhile_eq_self_iff.mpr
    intro c hc
    simpa using ne_of_mem_of_not_mem hc hnull
  rw [seenText, hwhole]

theorem like_eq {pattern : List Char} (hpattern : '\x00' ∉ pattern) (hnull : '\x00' ∉ t) :
    like pattern t = matching (wildcards (pattern.map seen)) (t.map seen) := by
  rw [like, seenText_eq hpattern, seenText_eq hnull]

theorem map_seen_escapeChar (c : Char) : (escapeChar c).map seen = escapeChar (seen c) := by
  by_cases hc : c = '\ufffe' ∨ c = '\uffff'
  · rcases hc with rfl | rfl <;> decide
  · have hself : seen c = c := if_neg hc
    unfold escapeChar
    split
    next hsign =>
      have hslash : seen '\\' = '\\' := by decide
      simp [hself, hsign, hslash]
    next hplain => simp [hself, hplain]

/-- A text that is escaped is seen as that which is seen, escaped. -/
theorem map_seen_containing (cs : List Char) :
    (containing cs).map seen = containing (cs.map seen) := by
  have hescape : (escape cs).map seen = escape (cs.map seen) := by
    unfold escape
    rw [List.map_flatMap, List.flatMap_map]
    simp only [map_seen_escapeChar]
  unfold containing
  rw [List.map_cons, List.map_append, hescape]
  rfl

/-- Escaping brings nothing into a text but backslashes. -/
theorem of_mem_escapeChar {c d : Char} (h : d ∈ escapeChar c) : d = '\\' ∨ d = c := by
  unfold escapeChar at h
  split at h
  next => simpa using h
  next => exact .inr (List.mem_singleton.mp h)

theorem null_not_mem_containing (hnull : '\x00' ∉ cs) : '\x00' ∉ containing cs := by
  intro h
  have hescape : '\x00' ∈ escape cs := by simpa [containing] using h
  obtain ⟨c, hc, hmem⟩ := List.mem_flatMap.mp hescape
  rcases of_mem_escapeChar hmem with hslash | hself
  · exact absurd hslash (by decide)
  · exact hnull (hself ▸ hc)

/-- The pattern that was made of a text matches the texts that it occurs in, as far as
characters are told apart. -/
theorem like_containing (hcs : '\x00' ∉ cs) (hnull : '\x00' ∉ t) :
    like (containing cs) t = true ↔ cs.map fold <:+: t.map fold := by
  rw [like_eq (null_not_mem_containing hcs) hnull, map_seen_containing, matching_containing,
    List.map_map, List.map_map]
  rfl

-- ================================================= literal patterns

/-- Escaping is literal. Of texts without null characters a pattern matches what its pieces
mean, both as they are seen, and the pattern that was made of a text, with a percent sign at
both ends, matches the texts that it occurs in, up to the case of the letters of ASCII and
to the characters that are seen as one, whatever signs it is made of. Among texts without
U+FFFE and U+FFFF no characters are seen as one, and only case is left. And no two texts are
escaped alike. -/
theorem like_literal :
    (∀ pattern t : List Char, '\x00' ∉ pattern ++ t →
      (like pattern t = true ↔ Matches (wildcards (pattern.map seen)) (t.map seen))) ∧
    (∀ s t : List Char, '\x00' ∉ s ++ t →
      (like (containing s) t = true ↔ s.map fold <:+: t.map fold) ∧
      ('\ufffe' ∉ s ++ t → '\uffff' ∉ s ++ t →
        (like (containing s) t = true ↔ s.map lower <:+: t.map lower))) ∧
    Function.Injective escape := by
  refine ⟨fun pattern t hnull => ?_, fun s t hnull => ?_, escape_injective⟩
  · obtain ⟨hpattern, ht⟩ := not_or.mp (List.mem_append.not.mp hnull)
    rw [like_eq hpattern ht, matching_iff]
  · obtain ⟨hs, ht⟩ := not_or.mp (List.mem_append.not.mp hnull)
    have hfound := like_containing hs ht
    refine ⟨hfound, fun hfirst hsecond => ?_⟩
    obtain ⟨hs₁, ht₁⟩ := not_or.mp (List.mem_append.not.mp hfirst)
    obtain ⟨hs₂, ht₂⟩ := not_or.mp (List.mem_append.not.mp hsecond)
    rw [hfound, map_fold_of_not_mem hs₁ hs₂, map_fold_of_not_mem ht₁ ht₂]

/-- A text of nothing but signs is found where it stands, and nowhere else. U+FFFF is found
after a sign where U+FFFE stands. -/
theorem like_literal_signs :
    '\x00' ∉ "_%\\".toList ++ "Save 5_%\\".toList ∧
      like (containing "_%\\".toList) "Save 5_%\\".toList = true ∧
      '\x00' ∉ "%\uffff".toList ++ "5%\ufffe".toList ∧
      like (containing "%\uffff".toList) "5%\ufffe".toList = true ∧
      '\x00' ∉ "_%\\".toList ++ "Save 5%_\\\\".toList ∧
      '\ufffe' ∉ "_%\\".toList ++ "Save 5%_\\\\".toList ∧
      '\uffff' ∉ "_%\\".toList ++ "Save 5%_\\\\".toList ∧
      ¬ like (containing "_%\\".toList) "Save 5%_\\\\".toList = true := by
  have hnull : '\x00' ∉ "_%\\".toList ++ "Save 5_%\\".toList := by decide
  have hnull' : '\x00' ∉ "%\uffff".toList ++ "5%\ufffe".toList := by decide
  have hnull'' : '\x00' ∉ "_%\\".toList ++ "Save 5%_\\\\".toList := by decide
  have hfirst : '\ufffe' ∉ "_%\\".toList ++ "Save 5%_\\\\".toList := by decide
  have hsecond : '\uffff' ∉ "_%\\".toList ++ "Save 5%_\\\\".toList := by decide
  obtain ⟨-, hfound, -⟩ := like_literal
  refine ⟨hnull, (hfound _ _ hnull).1.mpr (by decide), hnull',
    (hfound _ _ hnull').1.mpr (by decide), hnull'', hfirst, hsecond, fun h => ?_⟩
  have hoccurs := ((hfound _ _ hnull'').2 hfirst hsecond).mp h
  exact absurd hoccurs (by decide)

/-- U+FFFE is found where U+FFFD stands, and it does not occur there. -/
theorem like_not_literal :
    '\x00' ∉ ['\ufffe'] ++ ['\ufffd'] ∧ like (containing ['\ufffe']) ['\ufffd'] = true ∧
      ¬ ['\ufffe'].map lower <:+: ['\ufffd'].map lower := by
  decide

end DurableWorkflow.Store
