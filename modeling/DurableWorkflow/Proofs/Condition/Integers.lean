/-
Conditions on whole numbers.

Numbers are compared as floats, also where both are whole numbers of 64 bits, so what is compared
is the two numbers rounded to 53 bits. Rounding keeps the order, so a comparison goes wrong only
where two different numbers have the same rounding: they are taken as equal. Numbers that keep
apart are compared as they are, and a number whose magnitude is less than 2 ^ 53 keeps apart from
all others.
-/
import DurableWorkflow.Condition
import DurableWorkflow.Proofs.Decimal.Whole

namespace DurableWorkflow

open Decimal

variable {a b : Int} {items : List Int}

-- =========================================================== rounded

/-- Whole numbers are equal where their roundings are. -/
theorem Value.equals_int (ha : Json.InRange a) (hb : Json.InRange b) :
    (Value.int a).equals (.int b) = true ↔ rounded a = rounded b := by
  have hfloats : (Value.int a).equals (.int b) = (true && (Decimal.ofInt a == Decimal.ofInt b)) :=
    rfl
  rw [hfloats, Bool.true_and, (standsFor_ofInt ha).beq_iff (standsFor_ofInt hb)]

/-- A whole number is in a list of others where its rounding is that of one of them. -/
theorem Value.within_ints (ha : Json.InRange a) (hitems : ∀ b ∈ items, Json.InRange b) :
    (Value.int a).within (.array (items.map .int)) = true
      ↔ ∃ b ∈ items, rounded a = rounded b := by
  rw [Value.within, List.any_map, List.any_eq_true]
  exact exists_congr fun b => and_congr_right fun hb => Value.equals_int ha (hitems b hb)

/-- Whole numbers are in the order of their roundings. -/
theorem Value.ordered_int (ha : Json.InRange a) (hb : Json.InRange b) :
    ((Value.int a).ordered (fun x y => x < y) (.int b) = true ↔ rounded a < rounded b)
      ∧ ((Value.int a).ordered (fun x y => x ≤ y) (.int b) = true ↔ rounded a ≤ rounded b)
      ∧ ((Value.int a).ordered (fun x y => y < x) (.int b) = true ↔ rounded b < rounded a)
      ∧ ((Value.int a).ordered (fun x y => y ≤ x) (.int b) = true ↔ rounded b ≤ rounded a) := by
  have hx := standsFor_ofInt ha
  have hy := standsFor_ofInt hb
  refine ⟨?_, ?_, ?_, ?_⟩
  · exact decide_eq_true_iff.trans (hx.lt_iff hy)
  · exact decide_eq_true_iff.trans (hx.le_iff hy)
  · exact decide_eq_true_iff.trans (hy.lt_iff hx)
  · exact decide_eq_true_iff.trans (hy.le_iff hx)

-- ============================================================= exact

/-- A whole number is compared exactly with the whole numbers that rounding to 53 bits keeps apart
from it: each comparison with one of them decides as the numbers themselves compare, and the
number is in the list of them if it is one of them. -/
theorem evaluate_integers (ha : Json.InRange a)
    (hitems : ∀ b ∈ items, Json.InRange b ∧ KeepApart a b) :
    (∀ b ∈ items,
        (evaluate (some (.int a)) .eq (.int b) = true ↔ a = b)
        ∧ (evaluate (some (.int a)) .ne (.int b) = true ↔ a ≠ b)
        ∧ (evaluate (some (.int a)) .gt (.int b) = true ↔ a > b)
        ∧ (evaluate (some (.int a)) .gte (.int b) = true ↔ a ≥ b)
        ∧ (evaluate (some (.int a)) .lt (.int b) = true ↔ a < b)
        ∧ (evaluate (some (.int a)) .lte (.int b) = true ↔ a ≤ b))
      ∧ (evaluate (some (.int a)) .isIn (.array (items.map .int)) = true ↔ a ∈ items) := by
  constructor
  · intro b hb
    obtain ⟨hrange, hapart⟩ := hitems b hb
    have heq : evaluate (some (.int a)) .eq (.int b) = true ↔ a = b :=
      (Value.equals_int ha hrange).trans hapart.eq_iff
    obtain ⟨hlt, hle, hgt, hge⟩ := Value.ordered_int ha hrange
    refine ⟨heq, ?_, hgt.trans hapart.symm.lt_iff, hge.trans hapart.symm.le_iff,
      hlt.trans hapart.lt_iff, hle.trans hapart.le_iff⟩
    have hne : evaluate (some (.int a)) .ne (.int b) = !evaluate (some (.int a)) .eq (.int b) := rfl
    rw [hne, Bool.not_eq_true', ← Bool.not_eq_true, heq]
  · refine (Value.within_ints ha fun b hb => (hitems b hb).1).trans ?_
    constructor
    · rintro ⟨b, hb, heq⟩
      rwa [(hitems b hb).2 heq]
    · intro hmem
      exact ⟨a, hmem, rfl⟩

/-- A large number is compared exactly with a small one, and with a large one that is not next
to it. -/
theorem evaluate_integers_large :
    Json.InRange 1234567890123456789
      ∧ (∀ b ∈ [42, 1234567890123456000],
          Json.InRange b ∧ KeepApart 1234567890123456789 b)
      ∧ evaluate (some (.int 1234567890123456789)) .isIn
          (.array ([42, 1234567890123456000].map .int)) = false := by
  have hrange : Json.InRange 1234567890123456789 := by decide
  have hitems : ∀ b ∈ [42, 1234567890123456000],
      Json.InRange b ∧ KeepApart 1234567890123456789 b := by
    intro b hb
    rcases List.mem_pair.mp hb with rfl | rfl
    · exact ⟨by decide, (KeepApart.of_natAbs_lt (by decide)).symm⟩
    · refine ⟨by decide, fun heq => ?_⟩
      exact absurd heq (by decide)
  refine ⟨hrange, hitems, ?_⟩
  rw [← Bool.not_eq_true, (evaluate_integers hrange hitems).2]
  decide

/-- Two ids that are next to each other are taken as equal, but not inside of a list. -/
theorem evaluate_neighbours :
    Json.InRange 9007199254740993 ∧ Json.InRange 9007199254740992
      ∧ evaluate (some (.int 9007199254740993)) .eq (.int 9007199254740992) = true
      ∧ evaluate (some (.array [.int 9007199254740993])) .eq (.array [.int 9007199254740992]) = false
      ∧ evaluate (some (.int 9007199254740993)) .ne (.int 9007199254740992) = false
      ∧ evaluate (some (.int 9007199254740993)) .gt (.int 9007199254740992) = false
      ∧ evaluate (some (.int 9007199254740992)) .gte (.int 9007199254740993) = true
      ∧ evaluate (some (.int 9007199254740993)) .isIn
          (.array ([9007199254740992].map .int)) = true := by
  decide +kernel

end DurableWorkflow
