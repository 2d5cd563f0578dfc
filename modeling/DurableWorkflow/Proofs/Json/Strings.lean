/-
Quoted strings are read back. A character is written as itself or as an escape;
the reader takes either back to the character (`escape_cases`), so it takes the
whole string back, whatever follows it.
-/
import DurableWorkflow.Json.Reader

namespace DurableWorkflow.Json

open Value (escape hexDigit quote)

-- ======================================================== characters

/-- A hexadecimal digit is read back. -/
theorem hex?_hexDigit : ∀ n < 16, hex? (hexDigit n) = some n := by decide

/-- The four digits of a number below 256 are read back. -/
theorem readHex_hexDigits {n : Nat} (h : n < 256) (rest : List Char) :
    readHex ('0' :: '0' :: hexDigit (n / 16) :: hexDigit (n % 16) :: rest) = .ok (n, rest) := by
  have hzero : hex? '0' = some 0 := by decide
  have hhigh := hex?_hexDigit (n / 16) (by omega)
  have hlow := hex?_hexDigit (n % 16) (by omega)
  have hnumber : 4096 * 0 + 256 * 0 + 16 * (n / 16) + n % 16 = n := by omega
  unfold readHex hex4?
  simp only [hzero, hhigh, hlow, bind, Option.bind, pure, hnumber]
  rfl

/-- A control character is read back from its number. -/
theorem readEscape_control {c : Char} (h : c.toNat < 32) (rest : List Char) :
    readEscape ('u' :: '0' :: '0' :: hexDigit (c.toNat / 16) :: hexDigit (c.toNat % 16) :: rest)
      = .ok (c, rest) := by
  unfold readEscape
  simp only [readHex_hexDigits (show c.toNat < 256 by omega), bind, Except.bind]
  rw [if_neg (by omega), if_neg (by omega), Char.ofNat_toNat]
  rfl

/-- A character is written as itself, or as an escape that is read back. -/
theorem escape_cases (c : Char) :
    (escape c = [c] ∧ c ≠ '"' ∧ c ≠ '\\' ∧ ¬ c.toNat < 32) ∨
      ∃ e, escape c = '\\' :: e ∧ ∀ rest, readEscape (e ++ rest) = .ok (c, rest) := by
  unfold escape
  split
  next => exact .inr ⟨_, rfl, fun _ => rfl⟩
  next => exact .inr ⟨_, rfl, fun _ => rfl⟩
  next => exact .inr ⟨_, rfl, fun _ => rfl⟩
  next => exact .inr ⟨_, rfl, fun _ => rfl⟩
  next => exact .inr ⟨_, rfl, fun _ => rfl⟩
  next => exact .inr ⟨_, rfl, fun _ => rfl⟩
  next => exact .inr ⟨_, rfl, fun _ => rfl⟩
  next hquote hslash _ _ _ _ _ =>
    split
    next hcontrol => exact .inr ⟨_, rfl, readEscape_control hcontrol⟩
    next hcontrol => exact .inl ⟨rfl, hquote, hslash, hcontrol⟩

/-- Every character takes at least one. -/
theorem escape_length_pos (c : Char) : 1 ≤ (escape c).length := by
  rcases escape_cases c with ⟨h, -⟩ | ⟨e, h, -⟩
  · rw [h]
    exact Nat.le_refl 1
  · rw [h, List.length_cons]
    omega

-- =========================================================== strings

/-- The characters of a string are read back, after those that were read before. -/
theorem readString_escape (cs done rest : List Char) {fuel : Nat} (hfuel : cs.length < fuel) :
    readString fuel done (cs.flatMap escape ++ '"' :: rest)
      = .ok (String.ofList (done.reverse ++ cs), rest) := by
  induction cs generalizing done fuel with
  | nil =>
      obtain ⟨fuel, rfl⟩ : ∃ k, fuel = k + 1 := ⟨fuel - 1, by rw [List.length_nil] at hfuel; omega⟩
      rw [List.append_nil]
      rfl
  | cons c cs ih =>
      rw [List.length_cons] at hfuel
      obtain ⟨fuel, rfl⟩ : ∃ k, fuel = k + 1 := ⟨fuel - 1, by omega⟩
      have hrest : readString fuel (c :: done) (cs.flatMap escape ++ '"' :: rest) = _ :=
        ih (c :: done) (by omega)
      rw [List.reverse_cons, List.append_assoc, List.singleton_append] at hrest
      rw [List.flatMap_cons, List.append_assoc]
      rcases escape_cases c with ⟨hc, hquote, hslash, hcontrol⟩ | ⟨e, hc, hread⟩
      · rw [hc, List.singleton_append, readString.eq_def]
        simp only [hcontrol, if_false]
        exact hrest
      · rw [hc, List.cons_append, readString.eq_def]
        simp only [hread, bind, Except.bind]
        exact hrest

/-- The text of a string after its opening quote. -/
def closing (s : String) : List Char := s.toList.flatMap escape ++ ['"']

theorem quote_eq (s : String) : quote s = '"' :: closing s := rfl

/-- A string is read back with as much fuel as its text is long. -/
theorem readString_closing (s : String) (rest : List Char) :
    readString ((closing s ++ rest).length + 1) [] (closing s ++ rest) = .ok (s, rest) := by
  have hlength : s.toList.length ≤ (s.toList.flatMap escape).length := by
    generalize s.toList = cs
    induction cs with
    | nil => exact Nat.le_refl 0
    | cons c cs ih =>
        have := escape_length_pos c
        rw [List.flatMap_cons, List.length_append, List.length_cons]
        omega
  have hfuel : s.toList.length < (closing s ++ rest).length + 1 := by
    rw [closing, List.length_append, List.length_append]
    omega
  have := readString_escape s.toList [] rest hfuel
  rw [List.reverse_nil, List.nil_append, String.ofList_toList] at this
  rw [closing, List.append_assoc, List.singleton_append]
  rwa [closing, List.append_assoc, List.singleton_append] at this

/-- A quoted string is a string piece. -/
theorem stringPiece_closing (start : List Char) (s : String) (rest : List Char) :
    stringPiece start (closing s ++ rest) = (.string (span 0 start rest) s, some rest) := by
  rw [stringPiece, readString_closing]

/-- A quoted string is the name of a member. -/
theorem readName_closing (s : String) (rest : List Char) :
    readName (closing s ++ rest) = (.ok s, .ok rest) := by
  rw [readName, readString_closing]

end DurableWorkflow.Json
