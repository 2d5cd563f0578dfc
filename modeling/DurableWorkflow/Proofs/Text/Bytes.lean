/-
Texts stand in the order of their bytes. The tables compare texts byte by byte, and here
texts are compared character by character; in UTF-8 this is the same (`utf8_lt_iff`),
because of two characters the greater one differs from the other in some byte, and the
first such byte is the greater (`encoded_lt`). More bytes are written for greater
characters, and the first byte tells how many there are, so that no character is taken for
the beginning of another one.
-/
import Mathlib.Data.List.Basic

namespace DurableWorkflow.Text

variable {c d : Char} {x y : List UInt8}

/-- The bytes of a text in UTF-8. -/
def utf8 (s : String) : List UInt8 := s.toUTF8.data.toList

theorem utf8_eq (s : String) : utf8 s = s.toList.flatMap String.utf8EncodeChar := by
  rw [utf8, String.toUTF8_eq_toByteArray, ← String.utf8Encode_toList, List.utf8Encode,
    List.data_toByteArray]

/-- The bytes of a greater character are greater, whatever follows. -/
theorem encoded_lt (h : c < d) :
    String.utf8EncodeChar c ++ x < String.utf8EncodeChar d ++ y := by
  have hlt : c.val.toNat < d.val.toNat := UInt32.lt_iff_toNat_lt.mp (Char.lt_def.mp h)
  have hmax : d.val.toNat < 0x110000 := by
    rcases d.valid with hlow | ⟨-, hhigh⟩
    · exact Nat.lt_trans hlow (by decide)
    · exact hhigh
  unfold String.utf8EncodeChar
  generalize c.val.toNat = v at hlt ⊢
  generalize d.val.toNat = w at hlt hmax ⊢
  simp only
  split_ifs
  all_goals
    simp only [List.cons_append, List.nil_append, List.cons_lt_cons_iff, UInt8.lt_iff_toNat_lt,
      ← UInt8.toNat_inj, UInt8.toNat_ofNat']
    simp (disch := omega) only [Nat.mod_eq_of_lt]
    omega

theorem encoded_ne_nil (c : Char) : String.utf8EncodeChar c ≠ [] := by
  unfold String.utf8EncodeChar
  simp only
  split_ifs <;> exact List.cons_ne_nil _ _

/-- A text that comes before another one has the bytes that come before. -/
theorem utf8_lt {s t : String} (h : s < t) : utf8 s < utf8 t := by
  have hchars {cs ds : List Char} (h : List.Lex (· < ·) cs ds) :
      cs.flatMap String.utf8EncodeChar < ds.flatMap String.utf8EncodeChar := by
    induction h with
    | @nil d ds =>
        obtain ⟨b, bytes, hbytes⟩ := List.exists_cons_of_ne_nil (encoded_ne_nil d)
        rw [List.flatMap_cons, hbytes]
        exact List.nil_lt_cons _ _
    | cons _ ih => exact List.append_left_lt ih
    | rel hlt => exact encoded_lt hlt
  rw [utf8_eq, utf8_eq]
  exact hchars (List.lex_lt.mpr (String.lt_iff.mp h))

/-- Texts stand in the order of their bytes. -/
theorem utf8_lt_iff (s t : String) : utf8 s < utf8 t ↔ s < t := by
  constructor
  · intro h
    rcases Std.lt_trichotomy s t with hlt | rfl | hgt
    · exact hlt
    · exact absurd h (List.lt_irrefl _)
    · exact absurd h (List.lt_asymm (utf8_lt hgt))
  · exact utf8_lt

end DurableWorkflow.Text
