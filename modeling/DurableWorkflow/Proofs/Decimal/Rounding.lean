/-
Whole numbers rounded to 53 significant bits.

`roundOff m k` leaves out the `k` lowest bits of a number, to the nearest and from halfway to the
even one. A number of more than 53 bits is rounded by leaving out those beyond the 53rd, so its
rounding has the same number of bits, or is the next power of two; this is all it takes for
rounding to keep the order of any two numbers (`rounded_mono`), also of two with different
numbers of bits. Up to 2 ^ 53, numbers are their own roundings.

So of two numbers that keep apart (`KeepApart`), which are the same if their roundings are, the
roundings compare just as the numbers do.
-/
import DurableWorkflow.Decimal.Reading
import Mathlib.Algebra.Order.Group.Nat
import Mathlib.Tactic.SplitIfs

namespace DurableWorkflow.Decimal

variable {a b : Int} {m n k : Nat}

-- ==================================================== leaving out bits

/-- A number without its `k` lowest bits, rounded to the nearest one and from halfway to the
even one. -/
def roundOff (m k : Nat) : Nat :=
  if 2 * (m % 2 ^ k) < 2 ^ k then m / 2 ^ k
  else if 2 * (m % 2 ^ k) = 2 ^ k then m / 2 ^ k + m / 2 ^ k % 2
  else m / 2 ^ k + 1

theorem div_le_roundOff (m k : Nat) : m / 2 ^ k ≤ roundOff m k := by
  unfold roundOff
  split_ifs <;> omega

theorem roundOff_le (m k : Nat) : roundOff m k ≤ m / 2 ^ k + 1 := by
  unfold roundOff
  split_ifs <;> omega

/-- With no bits to leave out, a number stays as it is. -/
theorem roundOff_zero (m : Nat) : roundOff m 0 = m := by
  simp [roundOff, Nat.mod_one]

/-- Leaving out the same number of bits keeps the order. -/
theorem roundOff_mono (h : m ≤ n) : roundOff m k ≤ roundOff n k := by
  have hdiv : m / 2 ^ k ≤ n / 2 ^ k := Nat.div_le_div_right h
  rcases Nat.lt_or_eq_of_le hdiv with hlt | heq
  · exact (roundOff_le m k).trans (hlt.trans_le (div_le_roundOff n k))
  · -- with the same bits kept, what is left out is in the same order
    have hmod : m % 2 ^ k ≤ n % 2 ^ k := by
      have hm := Nat.div_add_mod m (2 ^ k)
      have hn := Nat.div_add_mod n (2 ^ k)
      rw [heq] at hm
      omega
    unfold roundOff
    rw [heq]
    split_ifs <;> omega

/-- Zeros put after a number are that many more bits. -/
theorem log2_shiftLeft (hm : m ≠ 0) (k : Nat) : (m <<< k).log2 = m.log2 + k := by
  have hlow : 2 ^ m.log2 ≤ m := Nat.log2_self_le hm
  have hhigh : m < 2 ^ (m.log2 + 1) := Nat.lt_log2_self
  rw [Nat.shiftLeft_eq, Nat.log2_eq_iff (Nat.mul_ne_zero hm (Nat.ne_of_gt (Nat.two_pow_pos k))),
    Nat.add_right_comm, Nat.pow_add, Nat.pow_add]
  exact ⟨Nat.mul_le_mul_right _ hlow, Nat.mul_lt_mul_of_pos_right hhigh (Nat.two_pow_pos k)⟩

-- ============================================================ 53 bits

/-- A number of any size rounded to 53 significant bits. -/
def roundedNat (m : Nat) : Nat := roundOff m (m.log2 - 52) * 2 ^ (m.log2 - 52)

/-- Of a number with 53 bits or more, the first 53 are kept, give or take the rounding. -/
theorem roundOff_bounds (h : 52 ≤ m.log2) :
    2 ^ 52 ≤ roundOff m (m.log2 - 52) ∧ roundOff m (m.log2 - 52) ≤ 2 ^ 53 := by
  have hm : m ≠ 0 := by
    rintro rfl
    rw [Nat.log2_zero] at h
    omega
  have hlow : 2 ^ 52 ≤ m / 2 ^ (m.log2 - 52) := by
    rw [Nat.le_div_iff_mul_le (Nat.two_pow_pos _), ← Nat.pow_add,
      show 52 + (m.log2 - 52) = m.log2 by omega]
    exact Nat.log2_self_le hm
  have hhigh : m / 2 ^ (m.log2 - 52) < 2 ^ 53 := by
    rw [Nat.div_lt_iff_lt_mul (Nat.two_pow_pos _), ← Nat.pow_add,
      show 53 + (m.log2 - 52) = m.log2 + 1 by omega]
    exact Nat.lt_log2_self
  exact ⟨hlow.trans (div_le_roundOff m _), (roundOff_le m _).trans hhigh⟩

/-- Numbers of up to 53 bits are not rounded. -/
theorem roundedNat_of_log2_le (h : m.log2 ≤ 52) : roundedNat m = m := by
  rw [roundedNat, Nat.sub_eq_zero_of_le h, roundOff_zero, Nat.pow_zero, Nat.mul_one]

/-- Rounding stays between the powers of two around a number. -/
theorem roundedNat_bounds (hm : m ≠ 0) :
    2 ^ m.log2 ≤ roundedNat m ∧ roundedNat m ≤ 2 ^ (m.log2 + 1) := by
  rcases Nat.le_total m.log2 52 with hle | hge
  · rw [roundedNat_of_log2_le hle]
    exact ⟨Nat.log2_self_le hm, Nat.le_of_lt Nat.lt_log2_self⟩
  · obtain ⟨hlow, hhigh⟩ := roundOff_bounds hge
    constructor
    · calc 2 ^ m.log2 = 2 ^ 52 * 2 ^ (m.log2 - 52) := by rw [← Nat.pow_add]; congr 1; omega
        _ ≤ roundedNat m := Nat.mul_le_mul_right _ hlow
    · calc roundedNat m ≤ 2 ^ 53 * 2 ^ (m.log2 - 52) := Nat.mul_le_mul_right _ hhigh
        _ = 2 ^ (m.log2 + 1) := by rw [← Nat.pow_add]; congr 1; omega

theorem roundedNat_mono (h : m ≤ n) : roundedNat m ≤ roundedNat n := by
  rcases Nat.eq_zero_or_pos m with rfl | hpos
  · exact Nat.zero_le _
  · have hm : m ≠ 0 := Nat.ne_of_gt hpos
    have hn : n ≠ 0 := by omega
    have hlog : m.log2 ≤ n.log2 := (Nat.le_log2 hn).mpr ((Nat.log2_self_le hm).trans h)
    rcases Nat.lt_or_eq_of_le hlog with hlt | heq
    · -- a power of two lies between the roundings
      calc roundedNat m ≤ 2 ^ (m.log2 + 1) := (roundedNat_bounds hm).2
        _ ≤ 2 ^ n.log2 := Nat.pow_le_pow_right Nat.two_pos hlt
        _ ≤ roundedNat n := (roundedNat_bounds hn).1
    · unfold roundedNat
      rw [heq]
      exact Nat.mul_le_mul_right _ (roundOff_mono h)

/-- Numbers up to 2 ^ 53 are not rounded. -/
theorem roundedNat_of_le (h : m ≤ 2 ^ 53) : roundedNat m = m := by
  rcases Nat.lt_or_eq_of_le h with hlt | rfl
  · rcases Nat.eq_zero_or_pos m with rfl | hpos
    · rfl
    · have hlog : m.log2 < 53 := (Nat.log2_lt (Nat.ne_of_gt hpos)).mpr hlt
      exact roundedNat_of_log2_le (by omega)
  · decide

-- ============================================================== signs

/-- A whole number of either sign rounded to 53 significant bits. -/
def rounded (n : Int) : Int := n.sign * roundedNat n.natAbs

theorem rounded_natCast (m : Nat) : rounded m = roundedNat m := by
  rcases Nat.eq_zero_or_pos m with rfl | hpos
  · rfl
  · rw [rounded, Int.sign_eq_one_of_pos (by omega), Int.natAbs_natCast, Int.one_mul]

theorem rounded_neg (n : Int) : rounded (-n) = -rounded n := by
  rw [rounded, rounded, Int.sign_neg, Int.natAbs_neg, Int.neg_mul]

/-- Rounding keeps the order. -/
theorem rounded_mono (h : a ≤ b) : rounded a ≤ rounded b := by
  obtain ⟨m, rfl | rfl⟩ := a.eq_nat_or_neg <;> obtain ⟨n, rfl | rfl⟩ := b.eq_nat_or_neg
  · rw [rounded_natCast, rounded_natCast]
    exact_mod_cast roundedNat_mono (by omega)
  · obtain ⟨rfl, rfl⟩ : m = 0 ∧ n = 0 := by omega
    exact Int.le_refl 0
  · rw [rounded_neg, rounded_natCast, rounded_natCast]
    omega
  · rw [rounded_neg, rounded_neg, rounded_natCast, rounded_natCast]
    have hmono := roundedNat_mono (show n ≤ m by omega)
    omega

/-- Rounding does not touch magnitudes up to 2 ^ 53. -/
theorem rounded_of_natAbs_le (h : a.natAbs ≤ 2 ^ 53) : rounded a = a := by
  rw [rounded, roundedNat_of_le h, Int.sign_mul_natAbs]

-- ============================================================= apart

/-- Two numbers that are the same if their roundings are. -/
def KeepApart (a b : Int) : Prop := rounded a = rounded b → a = b

namespace KeepApart

/-- A number whose magnitude is less than 2 ^ 53 keeps apart from all others. -/
theorem of_natAbs_lt (h : a.natAbs < 2 ^ 53) : KeepApart a b := by
  intro hab
  have hself : rounded a = a := rounded_of_natAbs_le (Nat.le_of_lt h)
  by_contra hne
  -- the other number is not small, so its rounding is at least 2 ^ 53 from zero
  have hb : 2 ^ 53 < b.natAbs := by
    by_contra hle
    rw [hself, rounded_of_natAbs_le (Nat.not_lt.mp hle)] at hab
    exact hne hab
  have htop : rounded (2 ^ 53 : Nat) = (2 ^ 53 : Nat) := rounded_of_natAbs_le (Nat.le_refl _)
  rcases Int.le_total 0 b with hpos | hneg
  · have hmono := rounded_mono (show ((2 ^ 53 : Nat) : Int) ≤ b by omega)
    omega
  · have hmono := rounded_mono (show b ≤ -((2 ^ 53 : Nat) : Int) by omega)
    rw [rounded_neg] at hmono
    omega

theorem symm (h : KeepApart a b) : KeepApart b a := fun heq => (h heq.symm).symm

theorem eq_iff (h : KeepApart a b) : rounded a = rounded b ↔ a = b := ⟨h, congrArg rounded⟩

theorem lt_iff (h : KeepApart a b) : rounded a < rounded b ↔ a < b := by
  constructor
  · intro hlt
    by_contra hle
    exact absurd (rounded_mono (Int.not_lt.mp hle)) (Int.not_le.mpr hlt)
  · intro hlt
    exact lt_of_le_of_ne (rounded_mono (Int.le_of_lt hlt)) fun heq => Int.ne_of_lt hlt (h heq)

theorem le_iff (h : KeepApart a b) : rounded a ≤ rounded b ↔ a ≤ b := by
  rw [← Int.not_lt, ← Int.not_lt, h.symm.lt_iff]

end KeepApart

end DurableWorkflow.Decimal
