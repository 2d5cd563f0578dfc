/-
Conditions on a field that is not there.

A path that leads nowhere and one that leads to `null` are the same (`Context.Lacks`), and where
text is searched, both are taken as the text `null`. So a search for a missing field in a text
finds the word `null` if the text has it, and nothing else; and of a missing field, only the
pieces of that word are found. The empty text is never what is searched, which would be found
everywhere.
-/
import DurableWorkflow.Condition

namespace DurableWorkflow

-- ============================================================ search

/-- One text is found in another where it stands in it. -/
theorem Text.contains_iff (s t : String) :
    Text.contains s t = true ↔ t.toList <:+: s.toList := by
  rw [Text.contains, Text.occurs_iff]
  exact ⟨fun ⟨l, r, h⟩ => ⟨l, r, h.symm⟩, fun ⟨l, r, h⟩ => ⟨l, r, h.symm⟩⟩

-- =========================================================== missing

/-- The path leads nowhere, or to `null`. -/
def Context.Lacks (context : Context) (field : String) : Prop :=
  context.resolve field = none ∨ context.resolve field = some .null

/-- The word that a missing value is taken as. -/
def missingText : String := "null"

variable {context : Context} {conditions : List Condition} {c : Condition} {field : String}

/-- A missing field is compared as `null`. -/
theorem Condition.holds_of_lacks (h : context.Lacks field) (op : Operator) (v : Value) :
    Condition.holds ⟨field, op, v⟩ context = op.holds .null v := by
  rcases h with h | h <;> rw [Condition.holds, evaluate, h, Option.getD]

/-- With one condition that does not hold, all of them together do not. -/
theorem evaluateAll_and_of_mem (hc : c ∈ conditions) (h : c.holds context = false) :
    evaluateAll conditions context .and = false :=
  List.all_eq_false.mpr ⟨c, hc, Bool.eq_false_iff.mp h⟩

/-- A missing field is in a text that has the word. -/
theorem Condition.isIn_of_lacks (h : context.Lacks field) (s : String) :
    Condition.holds ⟨field, .isIn, .string s⟩ context = true ↔ missingText.toList <:+: s.toList := by
  rw [Condition.holds_of_lacks h]
  -- the word is how `null` is displayed
  exact Text.contains_iff s (display .null)

/-- A missing field contains the pieces of the word. -/
theorem Condition.contains_of_lacks (h : context.Lacks field) (s : String) :
    Condition.holds ⟨field, .contains, .string s⟩ context = true
      ↔ s.toList <:+: missingText.toList := by
  rw [Condition.holds_of_lacks h]
  exact Text.contains_iff (display .null) s

/-- What a negated operator decides on a missing field is the opposite. -/
theorem Condition.negated_of_lacks (h : context.Lacks field) (v : Value) :
    Condition.holds ⟨field, .notIn, v⟩ context = !Condition.holds ⟨field, .isIn, v⟩ context
      ∧ Condition.holds ⟨field, .notContains, v⟩ context
        = !Condition.holds ⟨field, .contains, v⟩ context := by
  simp only [Condition.holds_of_lacks h]
  exact ⟨rfl, rfl⟩

/-- A missing field is searched as the text `null`: it is in the texts that have this word, and
contains the pieces of it. Where all conditions have to hold, they do not if one of them asks
for a missing field in another text or for another text in a missing field. -/
theorem search_of_lacks (h : context.Lacks field) (s : String) :
    (Condition.holds ⟨field, .isIn, .string s⟩ context = true ↔ missingText.toList <:+: s.toList)
      ∧ (Condition.holds ⟨field, .contains, .string s⟩ context = true
          ↔ s.toList <:+: missingText.toList)
      ∧ (Condition.holds ⟨field, .notIn, .string s⟩ context = true
          ↔ ¬ missingText.toList <:+: s.toList)
      ∧ (Condition.holds ⟨field, .notContains, .string s⟩ context = true
          ↔ ¬ s.toList <:+: missingText.toList)
      ∧ ∀ conditions : List Condition,
          (⟨field, .isIn, .string s⟩ ∈ conditions ∧ ¬ missingText.toList <:+: s.toList)
            ∨ (⟨field, .contains, .string s⟩ ∈ conditions ∧ ¬ s.toList <:+: missingText.toList) →
          evaluateAll conditions context .and = false := by
  have hin := Condition.isIn_of_lacks h s
  have hcontains := Condition.contains_of_lacks h s
  obtain ⟨hnotIn, hnotContains⟩ := Condition.negated_of_lacks h (.string s)
  refine ⟨hin, hcontains, ?_, ?_, ?_⟩
  · rw [hnotIn, Bool.not_eq_true', ← Bool.not_eq_true, hin]
  · rw [hnotContains, Bool.not_eq_true', ← Bool.not_eq_true, hcontains]
  · rintro conditions (⟨hmem, hs⟩ | ⟨hmem, hs⟩)
    · exact evaluateAll_and_of_mem hmem (Bool.eq_false_iff.mpr (mt hin.mp hs))
    · exact evaluateAll_and_of_mem hmem (Bool.eq_false_iff.mpr (mt hcontains.mp hs))

/-- A nickname that is not there is not in a text without the word. -/
theorem search_of_lacks_nickname :
    let context : Context := [("name", .string "Bob")]
    context.Lacks "nickname"
      ∧ evaluateAll [⟨"nickname", .isIn, .string "hello"⟩] context .and = false
      ∧ Condition.holds ⟨"nickname", .notIn, .string "hello"⟩ context = true := by
  intro context
  have hlacks : context.Lacks "nickname" := Or.inl rfl
  have hword : ¬ missingText.toList <:+: "hello".toList := by
    rw [← Text.contains_iff]
    decide
  obtain ⟨-, -, hnotIn, -, hall⟩ := search_of_lacks hlacks "hello"
  exact ⟨hlacks, hall _ (Or.inl ⟨List.mem_singleton_self _, hword⟩), hnotIn.mpr hword⟩

/-- A nickname that is not there is in a text with the word in it, and has a letter of it. -/
theorem lacks_and_found :
    let context : Context := [("name", .string "Bob")]
    context.Lacks "nickname"
      ∧ Condition.holds ⟨"nickname", .isIn, .string "nullable"⟩ context = true
      ∧ Condition.holds ⟨"nickname", .notIn, .string "nullable"⟩ context = false
      ∧ Condition.holds ⟨"nickname", .contains, .string "n"⟩ context = true
      ∧ Condition.holds ⟨"nickname", .notContains, .string "n"⟩ context = false
      ∧ evaluateAll [⟨"nickname", .isIn, .string "nullable"⟩] context .and = true := by
  intro context
  refine ⟨Or.inl rfl, ?_⟩
  decide

end DurableWorkflow
