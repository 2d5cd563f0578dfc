/-
Numbers written with a fixed number of digits stand in the order of the numbers,
and so do texts that are put together from such numbers, field by field.

Where the digits are not fixed in number, all that is left is that a number is
told by its digits, and that digits end where something else begins.
-/
import DurableWorkflow.Proofs.Json.Numbers
import DurableWorkflow.Time.Stamp

namespace DurableWorkflow.Time

open Decimal (isDigit ofDigits)

variable {w m n : Nat} {x y : List Char}

-- ==================================================== order of texts

/-- Texts of one length are compared before what follows them. -/
theorem append_lt_append_iff {a b : List Char} (h : a.length = b.length) :
    a ++ x < b ++ y ↔ a < b ∨ a = b ∧ x < y := by
  induction a generalizing b with
  | nil =>
      obtain rfl := List.eq_nil_of_length_eq_zero h.symm
      simp
  | cons c a ih =>
      cases b with
      | nil => cases h
      | cons d b =>
          rw [List.cons_append, List.cons_append, List.cons_lt_cons_iff, List.cons_lt_cons_iff,
            ih (Nat.succ.inj h), List.cons.injEq]
          constructor
          · rintro (hlt | ⟨heq, hlt | ⟨hab, hlt⟩⟩)
            · exact .inl (.inl hlt)
            · exact .inl (.inr ⟨heq, hlt⟩)
            · exact .inr ⟨⟨heq, hab⟩, hlt⟩
          · rintro ((hlt | ⟨heq, hlt⟩) | ⟨⟨heq, hab⟩, hlt⟩)
            · exact .inl hlt
            · exact .inr ⟨heq, .inl hlt⟩
            · exact .inr ⟨heq, .inr ⟨hab, hlt⟩⟩

/-- Texts of which neither goes on with the other are compared before what follows
them. -/
theorem append_lt_append_of_not_isPrefix {a b : List Char} (hab : ¬ a <+: b) (hba : ¬ b <+: a) :
    a ++ x < b ++ y ↔ a < b := by
  induction a generalizing b with
  | nil => exact absurd (List.nil_prefix) hab
  | cons c a ih =>
      cases b with
      | nil => exact absurd (List.nil_prefix) hba
      | cons d b =>
          rw [List.cons_append, List.cons_append, List.cons_lt_cons_iff, List.cons_lt_cons_iff]
          by_cases hcd : c = d
          · subst hcd
            rw [ih (fun h => hab (List.cons_prefix_cons.mpr ⟨rfl, h⟩))
              (fun h => hba (List.cons_prefix_cons.mpr ⟨rfl, h⟩))]
          · simp [hcd]

-- ============================================================ digits

theorem isDigit_padded (w n : Nat) : ∀ c ∈ padded w n, isDigit c = true := by
  intro c hc
  rcases List.mem_append.mp hc with hc | hc
  · exact Json.isDigit_zeros _ c hc
  · exact (Json.digits_repr n).all c hc

/-- There is a first digit. -/
theorem exists_padded_cons (w n : Nat) : ∃ c cs, padded w n = c :: cs ∧ isDigit c = true := by
  cases h : padded w n with
  | nil => exact absurd (List.append_eq_nil_iff.mp h).2 (Json.digits_repr n).some
  | cons c cs => exact ⟨c, cs, rfl, isDigit_padded w n c (h ▸ List.mem_cons_self)⟩

/-- The last digit, and the digits before it. -/
theorem padded_succ (hw : 0 < w) (n : Nat) :
    padded (w + 1) n = padded w (n / 10) ++ [(n % 10).digitChar] := by
  unfold padded
  simp only [Nat.toList_repr]
  by_cases hn : n < 10
  · obtain ⟨k, rfl⟩ : ∃ k, w = k + 1 := ⟨w - 1, by omega⟩
    rw [Nat.toDigits_of_lt_base hn, Nat.div_eq_of_lt hn, Nat.mod_eq_of_lt hn,
      Nat.toDigits_of_lt_base (by decide)]
    show List.replicate (k + 1) '0' ++ [n.digitChar]
      = List.replicate k '0' ++ ['0'] ++ [n.digitChar]
    rw [← List.replicate_succ']
  · rw [Nat.toDigits_eq_if (by decide), if_neg hn, List.length_append, List.length_singleton,
      Nat.add_sub_add_right, List.append_assoc]

theorem padded_one (hn : n < 10) : padded 1 n = [n.digitChar] := by
  unfold padded
  simp only [Nat.toList_repr]
  rw [Nat.toDigits_of_lt_base hn]
  rfl

/-- A digit is less than another exactly when it stands before it. -/
theorem digitChar_lt_iff : ∀ a < 10, ∀ b < 10, a.digitChar < b.digitChar ↔ a < b := by decide

theorem digitChar_inj : ∀ a < 10, ∀ b < 10, a.digitChar = b.digitChar → a = b := by decide

/-- Numbers that fit stand in their order, and with them what follows them. -/
theorem padded_lt_iff (hw : 0 < w) (hm : m < 10 ^ w) (hn : n < 10 ^ w) :
    padded w m ++ x < padded w n ++ y ↔ m < n ∨ m = n ∧ x < y := by
  induction w, hw using Nat.le_induction generalizing m n x y with
  | base =>
      rw [padded_one (by omega), padded_one (by omega), List.singleton_append,
        List.singleton_append, List.cons_lt_cons_iff,
        digitChar_lt_iff m (by omega) n (by omega)]
      constructor
      · rintro (hlt | ⟨heq, hlt⟩)
        · exact .inl hlt
        · exact .inr ⟨digitChar_inj m (by omega) n (by omega) heq, hlt⟩
      · rintro (hlt | ⟨rfl, hlt⟩)
        · exact .inl hlt
        · exact .inr ⟨rfl, hlt⟩
  | succ w hw ih =>
      rw [Nat.pow_succ] at hm hn
      rw [padded_succ hw, padded_succ hw, List.append_assoc, List.append_assoc,
        ih (by omega) (by omega), List.singleton_append, List.singleton_append,
        List.cons_lt_cons_iff, digitChar_lt_iff (m % 10) (by omega) (n % 10) (by omega)]
      constructor
      · rintro (hlt | ⟨hten, hlt | ⟨heq, hlt⟩⟩)
        · exact .inl (by omega)
        · exact .inl (by omega)
        · have := digitChar_inj (m % 10) (by omega) (n % 10) (by omega) heq
          exact .inr ⟨by omega, hlt⟩
      · rintro (hlt | ⟨rfl, hlt⟩)
        · by_cases hten : m / 10 < n / 10
          · exact .inl hten
          · exact .inr ⟨by omega, .inl (by omega)⟩
        · exact .inr ⟨rfl, .inr ⟨rfl, hlt⟩⟩

/-- A field with the character before it. -/
theorem field_lt_iff (c : Char) (hw : 0 < w) (hm : m < 10 ^ w) (hn : n < 10 ^ w) :
    c :: (padded w m ++ x) < c :: (padded w n ++ y) ↔ m < n ∨ m = n ∧ x < y := by
  rw [List.cons_lt_cons_iff, padded_lt_iff hw hm hn]
  have hirrefl : ¬ c < c := Nat.lt_irrefl _
  simp only [hirrefl, true_and, false_or]

/-- A number is told by its digits. -/
theorem ofDigits_padded (w n : Nat) : ofDigits (padded w n) = n := by
  have hzeros : ∀ k, (List.replicate k '0').foldl (fun n c => 10 * n + (c.toNat - 48)) 0 = 0 := by
    intro k
    induction k with
    | zero => rfl
    | succ k ih => exact ih
  unfold ofDigits padded
  simp only [Nat.toList_repr]
  rw [List.foldl_append, hzeros]
  induction n using Nat.strongRecOn with
  | ind n ih =>
      have hdigit : ∀ d < 10, d.digitChar.toNat - 48 = d := by decide
      rw [Nat.toDigits_eq_if (by decide)]
      by_cases hn : n < 10
      · rw [if_pos hn]
        show 10 * 0 + (n.digitChar.toNat - 48) = n
        rw [hdigit n hn]
        omega
      · rw [if_neg hn, List.foldl_append, ih (n / 10) (by omega)]
        show 10 * (n / 10) + ((n % 10).digitChar.toNat - 48) = n
        rw [hdigit (n % 10) (by omega)]
        omega

/-- Digits are told from what follows them by a character that is none. -/
theorem eq_of_prefix_digits {ds es : List Char} (hds : ∀ c ∈ ds, isDigit c = true)
    (hes : ∀ c ∈ es, isDigit c = true) (h : ds ++ ['-'] <+: es ++ ['-']) : ds = es := by
  induction ds generalizing es with
  | nil =>
      cases es with
      | nil => rfl
      | cons e es =>
          have he := hes e List.mem_cons_self
          rw [← (List.cons_prefix_cons.mp h).1] at he
          cases he
  | cons d ds ih =>
      cases es with
      | nil =>
          have hd := hds d List.mem_cons_self
          rw [(List.cons_prefix_cons.mp h).1] at hd
          cases hd
      | cons e es =>
          obtain ⟨rfl, hrest⟩ := List.cons_prefix_cons.mp h
          rw [ih (fun c hc => hds c (List.mem_cons_of_mem d hc))
            (fun c hc => hes c (List.mem_cons_of_mem d hc)) hrest]

end DurableWorkflow.Time
