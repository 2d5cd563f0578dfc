/-
The float of a whole number.

A float of 64 bits is made from a whole number by leaving out bits one at a time, with a mark for
the bit left out last and one for those before it. The marks tell where the number lies between
two neighbours (`Tells`), so the float stands for the number rounded to 53 bits; where rounding
reaches the next power of two, one more bit is left out, which is zero.

`Stands` says which whole number an unpacked float stands for: all of them have 53 bits, so the
same number is never written in two ways, and comparing exponents before mantissas is comparing
the numbers. What is packed is unpacked again, and turning the sign turns the number.
-/
import DurableWorkflow.Proofs.Decimal.Rounding
import DurableWorkflow.Proofs.Json.Figures
import Mathlib

namespace DurableWorkflow.Decimal

open Float.Model Float.Model.UnpackedFloat

variable {a b : Int} {m n f g k : Nat} {e : Int} {s : Sign} {u v : UnpackedFloat}

-- ==================================================== leaving out bits

/-- The mantissa is the number without its `k` lowest bits; the marks tell whether these are at
least half a unit, and whether they are anything between nothing, half a unit and a whole one. -/
structure Tells (x : ExtendedMantissa) (m k : Nat) : Prop where
  mantissa : x.mantissa = m / 2 ^ k
  half : x.roundBit = true ↔ 2 ^ k ≤ 2 * (m % 2 ^ k)
  rest : x.stickyBit = true ↔ 2 * (m % 2 ^ k) ≠ 0 ∧ 2 * (m % 2 ^ k) ≠ 2 ^ k

theorem tells_zero (m : Nat) : Tells ⟨m, false, false⟩ m 0 where
  mantissa := by rw [Nat.pow_zero, Nat.div_one]
  half := by simp [Nat.mod_one]
  rest := by simp [Nat.mod_one]

/-- Leaving out one more bit. -/
theorem Tells.shiftRightOne {x : ExtendedMantissa} (h : Tells x m k) :
    Tells x.shiftRightOne m (k + 1) := by
  have hmod : m % 2 ^ (k + 1) = m % 2 ^ k + 2 ^ k * (m / 2 ^ k % 2) := Nat.mod_pow_succ
  have hlt : m % 2 ^ k < 2 ^ k := Nat.mod_lt _ (Nat.two_pow_pos k)
  have hbit : m / 2 ^ k % 2 = 0 ∨ m / 2 ^ k % 2 = 1 := Nat.mod_two_eq_zero_or_one _
  refine ⟨?_, ?_, ?_⟩
  · rw [ExtendedMantissa.shiftRightOne, h.mantissa, Nat.div_div_eq_div_mul, ← Nat.pow_succ]
  · rw [ExtendedMantissa.shiftRightOne, h.mantissa, hmod, Nat.pow_succ, bne_iff_ne]
    rcases hbit with hbit | hbit <;> rw [hbit] <;> omega
  · rw [ExtendedMantissa.shiftRightOne, Bool.or_eq_true, h.half, h.rest, hmod, Nat.pow_succ]
    rcases hbit with hbit | hbit <;> rw [hbit] <;> omega

theorem tells_shiftRight (m k : Nat) : Tells ((⟨m, false, false⟩ : ExtendedMantissa) >>> k) m k := by
  induction k with
  | zero => exact tells_zero m
  | succ k ih => exact ih.shiftRightOne

/-- The marks are enough to round. -/
theorem Tells.roundedMantissa {x : ExtendedMantissa} (h : Tells x m k) :
    x.roundedMantissa = roundOff m k := by
  obtain ⟨mantissa, half, rest⟩ := x
  obtain ⟨rfl, hhalf, hrest⟩ := h
  have hpos := Nat.two_pow_pos k
  unfold roundOff
  cases half with
  | false =>
      have hless : 2 * (m % 2 ^ k) < 2 ^ k :=
        Nat.not_le.mp fun hle => absurd (hhalf.mpr hle) Bool.false_ne_true
      rw [if_pos hless]
      cases rest <;> rfl
  | true =>
      have hhalf := hhalf.mp rfl
      rw [if_neg (Nat.not_lt.mpr hhalf)]
      cases rest with
      | false =>
          have hexact : 2 * (m % 2 ^ k) = 2 ^ k := by
            by_contra hne
            exact absurd (hrest.mpr ⟨by omega, hne⟩) Bool.false_ne_true
          rw [if_pos hexact]
          rfl
      | true =>
          rw [if_neg (hrest.mp rfl).2]
          rfl

/-- Of a number of 53 bits or more, those beyond the 53rd are left out. -/
theorem shiftToTargetExponent_eq (hlog : m.log2 = 52 + k) (he : -1074 ≤ e + k) :
    shiftToTargetExponent .binary64 m e .exact
      = ((⟨m, false, false⟩ : ExtendedMantissa) >>> k, e + k) := by
  have htarget : Format.binary64.targetExponent (totalExponent m e) = e + k := by
    simp only [Format.targetExponent, totalExponent, Format.mantissaBits, Format.minExponent, hlog]
    omega
  have hshift : (e + k - e).toNat = k := by omega
  simp only [shiftToTargetExponent, shiftToExponent, htarget, hshift,
    ExtendedMantissa.ofMantissaAndAccuracy]

/-- A mantissa of 53 bits is left as it is. -/
theorem shiftToTargetExponent_of_bits (hlow : 2 ^ 52 ≤ m) (hhigh : m < 2 ^ 53)
    (he : -1074 ≤ e) :
    shiftToTargetExponent .binary64 m e .exact = (⟨m, false, false⟩, e) := by
  have hlog : m.log2 = 52 + 0 := (Nat.log2_eq_iff (by omega)).mpr ⟨hlow, hhigh⟩
  have hsame : e + ((0 : Nat) : Int) = e := Int.add_zero e
  rw [shiftToTargetExponent_eq hlog (by omega), hsame]
  rfl

-- ============================================================ numbers

/-- The whole number that an unpacked float stands for. But for zero, it is a mantissa of 53 bits
times a power of two from 2 ^ -52 up to 2 ^ 12. -/
inductive Stands : UnpackedFloat → Int → Prop
  | zero (s : Sign) : Stands (.zero s) 0
  | finite (s : Sign) {m f n : Nat} (hm : 0 < m) (hlow : 2 ^ 52 ≤ m) (hhigh : m < 2 ^ 53)
      (hf : f ≤ 64) (hvalue : m * 2 ^ f = n * 2 ^ 52) :
      Stands (.finite s m (f - 52) hm) (s.apply n)

/-- Rounding a mantissa of 53 bits or more, with the carry where it reaches the next power of
two. -/
theorem stands_roundWithAccuracy (hlog : m.log2 = 52 + k) (hf : f + k < 64)
    (hvalue : roundOff m k * 2 ^ (f + k) = n * 2 ^ 52) :
    Stands (roundWithAccuracy .binary64 s m (f - 52) .exact) (s.apply n) := by
  have hk : m.log2 - 52 = k := by omega
  obtain ⟨hlow, hhigh⟩ := roundOff_bounds (m := m) (by omega)
  rw [hk] at hlow hhigh
  have hexponent : (f : Int) - 52 + k = ((f + k : Nat) : Int) - 52 := by omega
  unfold roundWithAccuracy
  rw [shiftToTargetExponent_eq hlog (by omega), hexponent]
  dsimp only
  rw [(tells_shiftRight m k).roundedMantissa]
  rcases Nat.lt_or_eq_of_le hhigh with hlt | heq
  · have hpos : 0 < roundOff m k := by omega
    rw [shiftToTargetExponent_of_bits hlow hlt (by omega), dif_neg (Nat.ne_of_gt hpos)]
    exact .finite s hpos hlow hlt (by omega) hvalue
  · have hcarry : 2 ^ 52 * 2 ^ (f + k + 1) = n * 2 ^ 52 := by
      rw [← hvalue, heq, Nat.pow_succ _ (f + k)]
      omega
    have hpower : (2 ^ 53).log2 = 52 + 1 := Nat.log2_two_pow
    have hnext : ((f + k : Nat) : Int) - 52 + (1 : Nat) = ((f + k + 1 : Nat) : Int) - 52 := by omega
    have hhalf : (⟨2 ^ 53, false, false⟩ : ExtendedMantissa) >>> 1 = ⟨2 ^ 52, false, false⟩ := rfl
    have hpos : 0 < 2 ^ 52 := Nat.two_pow_pos 52
    rw [heq, shiftToTargetExponent_eq hpower (by omega), hnext, hhalf,
      dif_neg (Nat.ne_of_gt hpos)]
    exact .finite s hpos (Nat.le_refl _) (Nat.pow_lt_pow_succ Nat.one_lt_two) (by omega) hcarry

/-- The float made from a whole number stands for the number rounded to 53 bits. -/
theorem stands_round (s : Sign) (hm : m ≠ 0) (hlog : m.log2 < 64) :
    Stands (UnpackedFloat.round .binary64 s m 0) (s.apply (roundedNat m)) := by
  have htarget : Format.binary64.targetExponent (totalExponent m 0) = m.log2 - 52 := by
    simp only [Format.targetExponent, totalExponent, Format.mantissaBits, Format.minExponent]
    omega
  have hup : (0 - ((m.log2 : Int) - 52)).toNat = 52 - m.log2 := by omega
  have hexponent : (0 : Int) - ((52 - m.log2 : Nat) : Int)
      = ((m.log2 - (m.log2 - 52) : Nat) : Int) - 52 := by omega
  simp only [UnpackedFloat.round, decreaseExponent, htarget, hup, hexponent]
  refine stands_roundWithAccuracy (k := m.log2 - 52) ?_ (by omega) ?_
  · rw [log2_shiftLeft hm]
    omega
  · rw [Nat.shiftLeft_eq, show m.log2 - (m.log2 - 52) + (m.log2 - 52) = m.log2 by omega]
    rcases Nat.le_total m.log2 52 with hle | hge
    · rw [roundedNat_of_log2_le hle, Nat.sub_eq_zero_of_le hle, roundOff_zero, Nat.mul_assoc,
        ← Nat.pow_add, Nat.sub_add_cancel hle]
    · rw [roundedNat, Nat.sub_eq_zero_of_le hge, Nat.pow_zero, Nat.mul_one, Nat.mul_assoc,
        ← Nat.pow_add, Nat.sub_add_cancel hge]

-- ============================================================ packing

/-- A mantissa of 53 bits is packed without the first one, beside its exponent. -/
theorem pack_finite (hm : 0 < m) (hlow : 2 ^ 52 ≤ m) (hhigh : m < 2 ^ 53) (hf : f ≤ 64) :
    UnpackedFloat.pack .binary64 (.finite s m (f - 52) hm)
      = packComponents .binary64 s (BitVec.ofNat 11 (f + 1023)) (BitVec.ofNat 52 m) := by
  have hlog : m.log2 + 1 = Format.binary64.mantissaBits := by
    rw [(Nat.log2_eq_iff (k := 52) (by omega)).mpr ⟨hlow, hhigh⟩]
    rfl
  have hbiased : ((f : Int) - 52 + (Format.binary64.exponentBias : Nat)
      + (Format.binary64.mantissaBitsWithoutImplicit : Nat)).toNat = f + 1023 := by
    simp only [Format.exponentBias]
    omega
  unfold UnpackedFloat.pack
  simp only [hbiased, hlog, if_true]
  exact if_neg (by omega)

/-- Beside an exponent that is neither the least nor the greatest, the mantissa has one more
bit. -/
theorem unpack_packComponents {spec : Format} {x : BitVec spec.exponentBits}
    (y : BitVec spec.mantissaBitsWithoutImplicit) (hzeros : x ≠ 0#_) (hones : x ≠ -1#_) :
    UnpackedFloat.unpack spec (packComponents spec s x y)
      = .finite s (1#1 ++ y).toNat
          (x.toNat - (spec.exponentBias + spec.mantissaBitsWithoutImplicit)) (by simp) := by
  simp only [UnpackedFloat.unpack, unpackMantissa_packComponents, unpackExponent_packComponents,
    unpackSign_packComponents, Sign.ofBitVec_toBitVec, hzeros, hones, if_false]

/-- What is packed is unpacked again. -/
theorem Stands.unpack_pack (h : Stands u a) : (Float.Model.pack u).unpack = u := by
  change UnpackedFloat.unpack .binary64 (UnpackedFloat.pack .binary64 u) = u
  cases h with
  | zero s => exact unpack_packedZero
  | @finite s m f n hm hlow hhigh hf hvalue =>
      have hexponent : (BitVec.ofNat 11 (f + 1023)).toNat = f + 1023 := by
        rw [BitVec.toNat_ofNat, Nat.mod_eq_of_lt (by omega)]
      have hzeros : BitVec.ofNat 11 (f + 1023) ≠ 0#11 :=
        BitVec.toNat_ne_iff_ne.mp (by rw [hexponent]; exact Nat.succ_ne_zero _)
      have hones : BitVec.ofNat 11 (f + 1023) ≠ -1#11 :=
        BitVec.toNat_ne_iff_ne.mp (by rw [hexponent, show (-1#11).toNat = 2047 from rfl]; omega)
      have hmantissa : (1#1 ++ BitVec.ofNat 52 m).toNat = m := by
        rw [BitVec.toNat_append, ← Nat.shiftLeft_add_eq_or_of_lt (BitVec.isLt _), Nat.shiftLeft_eq,
          BitVec.toNat_ofNat, BitVec.toNat_ofNat]
        omega
      have hback : ((BitVec.ofNat 11 (f + 1023)).toNat : Int)
          - ((Format.binary64.exponentBias : Nat) + (52 : Nat)) = f - 52 := by
        rw [hexponent]
        simp only [Format.exponentBias]
        omega
      rw [pack_finite hm hlow hhigh hf, unpack_packComponents _ hzeros hones]
      congr 1

/-- Turning the sign turns the number. -/
theorem Stands.neg (h : Stands u a) : Stands u.neg (-a) := by
  cases h with
  | zero s => exact .zero (-s)
  | @finite s m f n hm hlow hhigh hf hvalue =>
      have hsign : -s.apply n = (-s).apply n := by
        cases s with
        | positive => rfl
        | negative => exact Int.neg_neg _
      rw [hsign]
      exact .finite (-s) hm hlow hhigh hf hvalue

-- ============================================================== order

/-- Of two mantissas of 53 bits, that with the greater exponent is the greater number. -/
theorem mantissa_lt (hm : m < 2 ^ 53) (hn : 2 ^ 52 ≤ n) (hfg : f < g) :
    m * 2 ^ f < n * 2 ^ g := by
  calc m * 2 ^ f < 2 ^ 53 * 2 ^ f := Nat.mul_lt_mul_of_pos_right hm (Nat.two_pow_pos f)
    _ = 2 ^ 52 * 2 ^ (f + 1) := by rw [← Nat.pow_add, ← Nat.pow_add]; congr 1; omega
    _ ≤ n * 2 ^ g := Nat.mul_le_mul hn (Nat.pow_le_pow_right Nat.two_pos hfg)

/-- Comparing exponents and, where they are the same, mantissas of 53 bits is comparing the
numbers. -/
theorem compare_parts {m n f g a b : Nat} (hm : 2 ^ 52 ≤ m ∧ m < 2 ^ 53)
    (hn : 2 ^ 52 ≤ n ∧ n < 2 ^ 53) (ha : m * 2 ^ f = a * 2 ^ 52) (hb : n * 2 ^ g = b * 2 ^ 52) :
    (compare ((f : Int) - 52) (g - 52)).then (compare m n) = compare (a : Int) b := by
  rcases Nat.lt_trichotomy f g with hfg | rfl | hfg
  · have hlt := mantissa_lt hm.2 hn.1 hfg
    have hexponents : compare ((f : Int) - 52) (g - 52) = .lt := compare_lt_iff_lt.mpr (by omega)
    have hnumbers : compare (a : Int) b = .lt := compare_lt_iff_lt.mpr (by omega)
    rw [hexponents, hnumbers]
    rfl
  · -- with the same exponent, the mantissas decide
    have hexponents : compare ((f : Int) - 52) (f - 52) = .eq := compare_eq_iff_eq.mpr rfl
    rw [hexponents, Ordering.then]
    have hpos := Nat.two_pow_pos f
    rcases Nat.lt_trichotomy m n with hmn | rfl | hmn
    · have hlt := Nat.mul_lt_mul_of_pos_right hmn hpos
      rw [compare_lt_iff_lt.mpr hmn, compare_lt_iff_lt.mpr (show (a : Int) < b by omega)]
    · rw [compare_eq_iff_eq.mpr rfl, compare_eq_iff_eq.mpr (show (a : Int) = b by omega)]
    · have hgt := Nat.mul_lt_mul_of_pos_right hmn hpos
      rw [compare_gt_iff_gt.mpr hmn, compare_gt_iff_gt.mpr (show (b : Int) < a by omega)]
  · have hgt := mantissa_lt hn.2 hm.1 hfg
    have hexponents : compare ((f : Int) - 52) (g - 52) = .gt := compare_gt_iff_gt.mpr (by omega)
    have hnumbers : compare (a : Int) b = .gt := compare_gt_iff_gt.mpr (by omega)
    rw [hexponents, hnumbers]
    rfl

/-- Of two numbers with their signs turned, the order is turned. -/
theorem compare_neg_neg (a b : Int) : compare (-a) (-b) = (compare a b).swap := by
  rcases lt_trichotomy a b with h | rfl | h
  · rw [compare_lt_iff_lt.mpr h, compare_gt_iff_gt.mpr (show -b < -a by omega), Ordering.swap]
  · rw [compare_eq_iff_eq.mpr rfl, compare_eq_iff_eq.mpr rfl, Ordering.swap]
  · rw [compare_gt_iff_gt.mpr h, compare_lt_iff_lt.mpr (show -a < -b by omega), Ordering.swap]

/-- A number with a mantissa is positive. -/
theorem number_pos (hm : 0 < m) (hvalue : m * 2 ^ f = n * 2 ^ 52) : 0 < (n : Int) := by
  have hpos := Nat.mul_pos hm (Nat.two_pow_pos f)
  omega

/-- Comparing unpacked floats is comparing the numbers they stand for. -/
theorem Stands.compare_eq (hu : Stands u a) (hv : Stands v b) :
    u.compare v = some (compare a b) := by
  cases hu with
  | zero s =>
      cases hv with
      | zero t => rfl
      | finite t hn _ _ _ hvalue =>
          have hpos := number_pos hn hvalue
          cases t with
          | positive => exact congrArg some (compare_lt_iff_lt.mpr hpos).symm
          | negative => exact congrArg some (compare_gt_iff_gt.mpr (Int.neg_neg_of_pos hpos)).symm
  | finite s hm hlow hhigh _ hvalue =>
      have hpos := number_pos hm hvalue
      cases hv with
      | zero t =>
          cases s with
          | positive => exact congrArg some (compare_gt_iff_gt.mpr hpos).symm
          | negative => exact congrArg some (compare_lt_iff_lt.mpr (Int.neg_neg_of_pos hpos)).symm
      | finite t hn hlow' hhigh' _ hvalue' =>
          have hpos' := number_pos hn hvalue'
          have hparts := compare_parts ⟨hlow, hhigh⟩ ⟨hlow', hhigh'⟩ hvalue hvalue'
          cases s with
          | positive =>
              cases t with
              | positive => exact congrArg some hparts
              | negative =>
                  exact congrArg some (compare_gt_iff_gt.mpr
                    ((Int.neg_neg_of_pos hpos').trans hpos)).symm
          | negative =>
              cases t with
              | positive =>
                  exact congrArg some (compare_lt_iff_lt.mpr
                    ((Int.neg_neg_of_pos hpos).trans hpos')).symm
              | negative =>
                  rw [Sign.apply, Sign.apply, compare_neg_neg, ← hparts]
                  rfl

-- ============================================================= floats

/-- The whole number that a float stands for. -/
def StandsFor (x : Float) (n : Int) : Prop := Stands x.toModel.unpack n

namespace StandsFor

variable {x y : Float}

theorem neg (h : StandsFor x a) : StandsFor (-x) (-a) := by
  have hneg := Stands.neg h
  rw [StandsFor, show (-x).toModel.unpack = (Float.Model.pack x.toModel.unpack.neg).unpack from rfl,
    hneg.unpack_pack]
  exact hneg

/-- Two floats are equal where the numbers they stand for are. -/
theorem beq_iff (hx : StandsFor x a) (hy : StandsFor y b) : (x == y) = true ↔ a = b := by
  have hmodel : (x == y) = (x.toModel.unpack.compare y.toModel.unpack == some .eq) := rfl
  rw [hmodel, Stands.compare_eq hx hy, beq_iff_eq, Option.some_inj, Int.compare_eq_eq]

theorem lt_iff (hx : StandsFor x a) (hy : StandsFor y b) : x < y ↔ a < b := by
  have hmodel : x < y ↔ (x.toModel.unpack.compare y.toModel.unpack == some .lt) = true :=
    decide_eq_true_iff
  rw [hmodel, Stands.compare_eq hx hy, beq_iff_eq, Option.some_inj, Int.compare_eq_lt]

theorem le_iff (hx : StandsFor x a) (hy : StandsFor y b) : x ≤ y ↔ a ≤ b := by
  have hmodel : x ≤ y ↔ (x.toModel.unpack.compare y.toModel.unpack).any (·.isLE) = true :=
    decide_eq_true_iff
  rw [hmodel, Stands.compare_eq hx hy, Option.any_some, Int.isLE_compare]

end StandsFor

/-- A whole number of 64 bits as a float stands for its rounding. -/
theorem standsFor_whole (hm : m < 2 ^ 64) : StandsFor (whole m) (rounded m) := by
  have hunpacked : Stands (UnpackedFloat.ofNat .binary64 m) (rounded m) := by
    rcases Nat.eq_zero_or_pos m with rfl | hpos
    · exact .zero .positive
    · have hlog : m.log2 < 64 := (Nat.log2_lt (Nat.ne_of_gt hpos)).mpr hm
      have hsign : compare (m : Int) 0 = .gt := Int.compare_eq_gt.mpr (by omega)
      rw [UnpackedFloat.ofNat, UnpackedFloat.ofInt, UnpackedFloat.normalize, hsign, rounded_natCast]
      exact stands_round .positive (Nat.ne_of_gt hpos) hlog
  have hbits : m.toUInt64.toNat = m := UInt64.toNat_ofNat_of_lt' hm
  have hfloat : (whole m).toModel
      = Float.Model.pack (UnpackedFloat.ofNat .binary64 m.toUInt64.toNat) := rfl
  rw [StandsFor, hfloat, hbits, hunpacked.unpack_pack]
  exact hunpacked

/-- A whole number of 64 bits, of either sign, as a float stands for its rounding. -/
theorem standsFor_ofInt {n : Int} (hn : Json.InRange n) : StandsFor (ofInt n) (rounded n) := by
  obtain ⟨hlow, hhigh⟩ := hn
  have hwhole : StandsFor (whole n.natAbs) (rounded n.natAbs) := standsFor_whole (by omega)
  unfold ofInt
  split
  next hneg =>
    have hnumber : n = -(n.natAbs : Int) := by omega
    have hrounded : rounded n = -rounded n.natAbs := by rw [← rounded_neg, ← hnumber]
    rw [hrounded]
    exact hwhole.neg
  next hpos =>
    rw [Int.natAbs_of_nonneg (Int.not_lt.mp hpos)] at hwhole
    exact hwhole

end DurableWorkflow.Decimal
