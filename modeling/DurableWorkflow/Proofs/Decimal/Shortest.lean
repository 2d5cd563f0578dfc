/-
The shortest digits of a positive float are the digits of a positive number: the
choice never ends at zero.

A point of a grid is only chosen above zero. Where no grid with up to seventeen
digits has a point in the interval, the floor of the float on a finer grid is
taken, and the float reaches far above one step of it: the guess at its magnitude
is off by less than eighteen digits over the whole range of exponents. Comparisons
of a rational with a power of ten are made between whole numbers, with the powers
of negative exponent on the other side (`Interval.Reaches`).
-/
import Mathlib.Algebra.Group.Nat.Defs
import DurableWorkflow.Decimal.Shortest

namespace DurableWorkflow.Decimal

variable {i : Interval} {p q : Int}

-- ====================================================== powers of ten

/-- The value is at least `10 ^ p`. -/
def Interval.Reaches (i : Interval) (p : Int) : Prop :=
  i.scale * 10 ^ p.toNat ≤ i.value * 10 ^ (-p).toNat

/-- A value that reaches a power of ten reaches the lower ones. -/
theorem Interval.Reaches.of_le (h : i.Reaches p) (hq : q ≤ p) : i.Reaches q := by
  obtain ⟨k, rfl⟩ : ∃ k : Nat, p = q + k := ⟨(p - q).toNat, by omega⟩
  unfold Reaches at h ⊢
  have hpow : (10 : Nat) ^ (q + k).toNat * 10 ^ (-q).toNat
      = 10 ^ (q.toNat + k) * 10 ^ (-(q + k)).toNat := by
    rw [← Nat.pow_add, ← Nat.pow_add]
    congr 1
    omega
  have hpos : 0 < 10 ^ (-(q + k)).toNat := Nat.pow_pos (by decide)
  have hpos' : 0 < 10 ^ k := Nat.pow_pos (by decide)
  refine Nat.le_of_mul_le_mul_right ?_ hpos
  calc i.scale * 10 ^ q.toNat * 10 ^ (-(q + k)).toNat
      ≤ i.scale * 10 ^ q.toNat * 10 ^ (-(q + k)).toNat * 10 ^ k := Nat.le_mul_of_pos_right _ hpos'
    _ = i.scale * (10 ^ (q.toNat + k) * 10 ^ (-(q + k)).toNat) := by
        rw [Nat.pow_add]
        simp only [Nat.mul_comm, Nat.mul_left_comm, Nat.mul_assoc]
    _ = i.scale * 10 ^ (q + k).toNat * 10 ^ (-q).toNat := by rw [← hpow, Nat.mul_assoc]
    _ ≤ i.value * 10 ^ (-(q + k)).toNat * 10 ^ (-q).toNat := Nat.mul_le_mul_right _ h
    _ = i.value * 10 ^ (-q).toNat * 10 ^ (-(q + k)).toNat := Nat.mul_right_comm _ _ _

/-- The floor of a value on a grid whose step it reaches is not zero. -/
theorem Interval.floor_pos (h : i.Reaches p) (hscale : 0 < i.scale) : 0 < i.floor p := by
  unfold Reaches at h
  unfold floor tenTo
  simp only [Nat.pow_eq]
  split
  next hp =>
    rw [show p.toNat = 0 by omega, show (-p).toNat = p.natAbs by omega, Nat.pow_zero,
      Nat.mul_one] at h
    exact Nat.div_pos h hscale
  next hp =>
    rw [show p.toNat = p.natAbs by omega, show (-p).toNat = 0 by omega, Nat.pow_zero,
      Nat.mul_one] at h
    exact Nat.div_pos h (Nat.mul_pos hscale (Nat.pow_pos (by decide)))

/-- A value that is not below a power of ten reaches it. -/
theorem Interval.reaches_of_not_less
    (h : (if p < 0 then decide (i.value * tenTo p < i.scale)
      else decide (i.value < i.scale * tenTo p)) = false) : i.Reaches p := by
  unfold tenTo at h
  simp only [Nat.pow_eq] at h
  unfold Reaches
  split at h
  next =>
    have hle := Nat.le_of_not_lt (of_decide_eq_false h)
    rwa [show p.toNat = 0 by omega, show (-p).toNat = p.natAbs by omega, Nat.pow_zero,
      Nat.mul_one]
  next =>
    have hle := Nat.le_of_not_lt (of_decide_eq_false h)
    rwa [show p.toNat = p.natAbs by omega, show (-p).toNat = 0 by omega, Nat.pow_zero,
      Nat.mul_one]

/-- The search for the magnitude of a value ends where it began, or one above a
power of ten that the value reaches. -/
theorem Interval.width_reaches (i : Interval) (fuel : Nat) (k : Int) :
    i.width fuel k = k ∨ i.Reaches (i.width fuel k - 1) := by
  induction fuel generalizing k with
  | zero => exact .inl rfl
  | succ fuel ih =>
      unfold width
      simp only
      cases hless : (if k < 0 then decide (i.value * tenTo k < i.scale)
          else decide (i.value < i.scale * tenTo k)) with
      | true => exact .inl rfl
      | false =>
          rw [if_neg Bool.false_ne_true]
          rcases ih (k + 1) with hk | hk
          · rw [hk, Int.add_sub_cancel]
            exact .inr (reaches_of_not_less hless)
          · exact .inr hk

-- =========================================================== choices

/-- A point that is chosen on a grid is not zero. -/
theorem Interval.onGrid_pos {c : Nat} (h : i.onGrid p = some c) : 0 < c := by
  unfold onGrid at h
  simp only at h
  split at h
  next hboth _ =>
    have hpos : 0 < i.floor p := by
      rw [Bool.and_eq_true] at hboth
      exact of_decide_eq_true hboth.2
    injection h with h
    split at h <;> omega
  next hlow _ =>
    have hpos : 0 < i.floor p := by
      rw [Bool.and_eq_true] at hlow
      exact of_decide_eq_true hlow.2
    injection h with h
    omega
  next =>
    injection h with h
    omega
  next => cases h

/-- The choice never ends at zero, if the value reaches the finest grid that is
tried. -/
theorem Interval.shortest_pos (hscale : 0 < i.scale) (k : Int) (more n : Nat)
    (h : i.Reaches (k - (more + n : Nat))) : 0 < (i.shortest k more n).1 := by
  induction more generalizing n with
  | zero =>
      rw [Nat.zero_add] at h
      exact floor_pos h hscale
  | succ more ih =>
      unfold shortest
      cases hc : i.onGrid (k - n) with
      | some c => exact onGrid_pos hc
      | none => exact ih (n + 1) (by rw [show more + (n + 1) = more + 1 + n by omega]; exact h)

-- ============================================================ floats

/-- Three powers of ten are less than ten powers of two. -/
theorem ten_pow_le_two_pow {k l : Nat} (h : 10 * k ≤ 3 * l) : 10 ^ k ≤ 2 ^ l := by
  refine (Nat.pow_le_pow_iff_left (n := 10) (by decide)).mp ?_
  rw [← Nat.pow_mul, ← Nat.pow_mul]
  calc 10 ^ (k * 10) ≤ 10 ^ (3 * l) := Nat.pow_le_pow_right (by decide) (by omega)
    _ = (10 ^ 3) ^ l := Nat.pow_mul 10 3 l
    _ ≤ (2 ^ 10) ^ l := Nat.pow_le_pow_left (by decide) l
    _ = 2 ^ (l * 10) := by rw [← Nat.pow_mul, Nat.mul_comm]

/-- Thirteen powers of two are less than four powers of ten. -/
theorem two_pow_le_ten_pow {k l : Nat} (h : 4 * l ≤ 13 * k) : 2 ^ l ≤ 10 ^ k := by
  refine (Nat.pow_le_pow_iff_left (n := 13) (by decide)).mp ?_
  rw [← Nat.pow_mul, ← Nat.pow_mul]
  calc 2 ^ (l * 13) = (2 ^ 13) ^ l := by rw [Nat.mul_comm, Nat.pow_mul]
    _ ≤ (10 ^ 4) ^ l := Nat.pow_le_pow_left (by decide) l
    _ = 10 ^ (4 * l) := (Nat.pow_mul 10 4 l).symm
    _ ≤ 10 ^ (k * 13) := Nat.pow_le_pow_right (by decide) (by omega)

/-- If `10 ^ p` is small beside `2 ^ (l + e)`, then it is not greater; powers of
negative exponent stand on the other side. -/
theorem two_pow_reaches {l : Nat} {e p : Int} (hup : 10 * p ≤ 3 * (l + e) ∨ p ≤ 0)
    (hdown : 13 * p ≤ 4 * (l + e) ∨ 0 ≤ l + e) :
    2 ^ (-e).toNat * 10 ^ p.toNat ≤ 2 ^ (l + e.toNat) * 10 ^ (-p).toNat := by
  rcases Int.le_total 0 (l + e) with hL | hL
  · obtain ⟨L, hLeq⟩ : ∃ L : Nat, (L : Int) = l + e := ⟨(l + e).toNat, by omega⟩
    have hten : 10 ^ p.toNat ≤ 2 ^ L := ten_pow_le_two_pow (by omega)
    calc 2 ^ (-e).toNat * 10 ^ p.toNat
        ≤ 2 ^ (-e).toNat * 2 ^ L := Nat.mul_le_mul_left _ hten
      _ = 2 ^ (l + e.toNat) := by
          rw [← Nat.pow_add]
          congr 1
          omega
      _ ≤ 2 ^ (l + e.toNat) * 10 ^ (-p).toNat :=
          Nat.le_mul_of_pos_right _ (Nat.pow_pos (by decide))
  · obtain ⟨L, hLeq⟩ : ∃ L : Nat, -(L : Int) = l + e := ⟨(-(l + e)).toNat, by omega⟩
    have hten : 2 ^ L ≤ 10 ^ (-p).toNat := two_pow_le_ten_pow (by omega)
    calc 2 ^ (-e).toNat * 10 ^ p.toNat
        = 2 ^ (l + e.toNat) * 2 ^ L := by
          rw [show p.toNat = 0 by omega, Nat.pow_zero, Nat.mul_one, ← Nat.pow_add]
          congr 1
          omega
      _ ≤ 2 ^ (l + e.toNat) * 10 ^ (-p).toNat := Nat.mul_le_mul_left _ hten

/-- The magnitude of a positive float in powers of two and ten: if `10 ^ p` is
small beside `2 ^ (log2 m + e)`, then `m * 2 ^ e` reaches it. -/
theorem Binary.interval_reaches (b : Binary) (hm : b.mantissa ≠ 0) {p : Int}
    (hup : 10 * p ≤ 3 * (Nat.log2 b.mantissa + b.exponent) ∨ p ≤ 0)
    (hdown : 13 * p ≤ 4 * (Nat.log2 b.mantissa + b.exponent) ∨
      0 ≤ Nat.log2 b.mantissa + b.exponent) : b.interval.Reaches p := by
  have hlog : 2 ^ Nat.log2 b.mantissa ≤ b.mantissa := (Nat.log2_self_le hm)
  generalize Nat.log2 b.mantissa = l at hup hdown hlog
  -- the claim for the power of two at or below the float
  have key := two_pow_reaches hup hdown
  unfold Interval.Reaches interval
  by_cases he : b.exponent < 0
  · rw [if_pos he]
    simp only [Nat.one_shiftLeft, Nat.mul_one]
    rw [show (-b.exponent).toNat = b.exponent.natAbs by omega,
      show l + b.exponent.toNat = l by omega] at key
    calc 4 * 2 ^ b.exponent.natAbs * 10 ^ p.toNat
        = 4 * (2 ^ b.exponent.natAbs * 10 ^ p.toNat) := Nat.mul_assoc _ _ _
      _ ≤ 4 * (2 ^ l * 10 ^ (-p).toNat) := Nat.mul_le_mul_left 4 key
      _ ≤ 4 * (b.mantissa * 10 ^ (-p).toNat) :=
          Nat.mul_le_mul_left 4 (Nat.mul_le_mul_right _ hlog)
      _ = 4 * b.mantissa * 10 ^ (-p).toNat := (Nat.mul_assoc _ _ _).symm
  · rw [if_neg he]
    simp only [Nat.one_shiftLeft, Nat.mul_one]
    rw [show (-b.exponent).toNat = 0 by omega,
      show b.exponent.toNat = b.exponent.natAbs by omega, Nat.pow_zero, Nat.one_mul,
      Nat.pow_add] at key
    calc 4 * 10 ^ p.toNat ≤ 4 * (2 ^ l * 2 ^ b.exponent.natAbs * 10 ^ (-p).toNat) :=
          Nat.mul_le_mul_left 4 key
      _ ≤ 4 * (b.mantissa * 2 ^ b.exponent.natAbs * 10 ^ (-p).toNat) :=
          Nat.mul_le_mul_left 4 (Nat.mul_le_mul_right _ (Nat.mul_le_mul_right _ hlog))
      _ = 4 * b.mantissa * 2 ^ b.exponent.natAbs * 10 ^ (-p).toNat := by
          simp only [Nat.mul_assoc]

/-- The exponents of floats, and the mantissa of one that is not zero. -/
theorem Binary.ofBits_bounds {size : UInt64} (hsize : size ≠ 0)
    (hsign : size.toNat < 2 ^ 63) : (ofBits size).mantissa ≠ 0 ∧
      (ofBits size).mantissa < 2 ^ 53 ∧ -1074 ≤ (ofBits size).exponent ∧
      (ofBits size).exponent ≤ 972 := by
  have hfraction : (size &&& 0xFFFFFFFFFFFFF).toNat = size.toNat % 2 ^ 52 := by
    rw [UInt64.toNat_and]
    exact Nat.and_two_pow_sub_one_eq_mod size.toNat 52
  have hbiased : ((size >>> 52) &&& 0x7FF).toNat = size.toNat / 2 ^ 52 % 2 ^ 11 := by
    rw [UInt64.toNat_and, UInt64.toNat_shiftRight, show (52 : UInt64).toNat % 64 = 52 from rfl,
      Nat.shiftRight_eq_div_pow]
    exact Nat.and_two_pow_sub_one_eq_mod (size.toNat / 2 ^ 52) 11
  have hpos : size.toNat ≠ 0 := fun h => hsize (UInt64.toNat_inj.mp h)
  unfold ofBits
  simp only [hfraction, hbiased]
  split
  next hzero =>
    simp only
    omega
  next hzero =>
    simp only
    omega

/-- The digits of a positive float are those of a number that is not zero, without
the zeros at their end. -/
theorem shortest_digits {size : UInt64} (hsize : size ≠ 0) (hsign : size.toNat < 2 ^ 63) :
    ∃ c, 0 < c ∧ (shortest size).digits
      = ((Nat.repr c).toList.reverse.dropWhile (· == '0')).reverse := by
  obtain ⟨hm, hlt, hlow, hhigh⟩ := Binary.ofBits_bounds hsize hsign
  have hlog : Nat.log2 (Binary.ofBits size).mantissa < 53 := (Nat.log2_lt hm).mpr hlt
  have hscale : 0 < (Binary.ofBits size).interval.scale := by
    unfold Binary.interval
    by_cases he : (Binary.ofBits size).exponent < 0
    · rw [if_pos he]
      simp only [Nat.one_shiftLeft]
      exact Nat.mul_pos (by decide) (Nat.two_pow_pos _)
    · rw [if_neg he]
      exact (by decide : 0 < 4 * 1)
  refine ⟨_, ?_, rfl⟩
  refine Interval.shortest_pos hscale _ 17 1 ?_
  rcases Interval.width_reaches (Binary.ofBits size).interval 4
    (((Nat.log2 (Binary.ofBits size).mantissa : Int) + (Binary.ofBits size).exponent) * 30103
      / 100000 - 1) with hwidth | hwidth
  · rw [hwidth]
    exact Binary.interval_reaches _ hm (by omega) (by omega)
  · exact hwidth.of_le (by omega)

end DurableWorkflow.Decimal
