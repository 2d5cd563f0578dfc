/-
The waits between attempts, as numbers without bounds. A power of two, a product and the
wait itself are numbers of 64 bits, and where there is no room for the power or for the
product the largest number stands for it. Each of the three is therefore the least of its
exact value and of the largest number (`toNat_factor`, `toNat_saturatingMul`).

What is cut off on the way is not seen in the wait. A power is cut off only if it is more
than every ceiling, and then the product is so as well, unless the first wait is zero; and
a product that is cut off is more than every ceiling. So the wait is the first wait times a
power of two, or the ceiling if that is less (`baseSeconds_exact`).
-/
import DurableWorkflow.Retry
import Mathlib.Algebra.Order.Group.Nat

namespace DurableWorkflow.RetryPolicy

/-- A power of two, unless there is no room for it. -/
theorem toNat_factor (attempt : UInt32) :
    (factor attempt).toNat = min (2 ^ attempt.toNat) largest.toNat := by
  have hlargest : largest.toNat = 2 ^ 64 - 1 := rfl
  unfold factor
  split
  next hfits =>
    have hlt : attempt.toNat < 64 := UInt32.lt_iff_toNat_lt.mp hfits
    have hpow : 2 ^ attempt.toNat < 2 ^ 64 := Nat.pow_lt_pow_right (by decide) hlt
    rw [UInt64.toNat_shiftLeft, UInt32.toNat_toUInt64, UInt64.toNat_one, Nat.mod_eq_of_lt hlt,
      Nat.one_shiftLeft, Nat.mod_eq_of_lt hpow]
    omega
  next hlarge =>
    have hge : 64 ≤ attempt.toNat := by
      rw [UInt32.lt_iff_toNat_lt] at hlarge
      exact Nat.not_lt.mp hlarge
    have hpow : 2 ^ 64 ≤ 2 ^ attempt.toNat := Nat.pow_le_pow_right (by decide) hge
    omega

/-- A product, unless there is no room for it. -/
theorem toNat_saturatingMul (a b : UInt64) :
    (saturatingMul a b).toNat = min (a.toNat * b.toNat) largest.toNat := by
  have hlargest : largest.toNat = 2 ^ 64 - 1 := rfl
  unfold saturatingMul
  split
  next hfits =>
    rw [UInt64.toNat_mul, Nat.mod_eq_of_lt hfits]
    omega
  next => omega

/-- No ceiling is above the largest number. -/
theorem toNat_le_largest (a : UInt64) : a.toNat ≤ largest.toNat :=
  Nat.le_pred_of_lt a.toNat_lt

variable (p : RetryPolicy)

/-- The wait as a number without bounds: that a power or a product was cut off does not
show below the ceiling. -/
theorem toNat_baseSeconds (attempt : UInt32) : (p.baseSeconds attempt).toNat
    = min p.maxSeconds.toNat (p.initialSeconds.toNat * 2 ^ attempt.toNat) := by
  have hceiling := toNat_le_largest p.maxSeconds
  rw [baseSeconds, UInt64.toNat_min, toNat_saturatingMul, toNat_factor]
  generalize largest.toNat = top at hceiling ⊢
  by_cases hroom : 2 ^ attempt.toNat ≤ top
  · have hpower : min (2 ^ attempt.toNat) top = 2 ^ attempt.toNat := Nat.min_eq_left hroom
    rw [hpower]
    omega
  · have hpower : min (2 ^ attempt.toNat) top = top := by omega
    rw [hpower]
    cases hfirst : p.initialSeconds.toNat with
    | zero => omega
    | succ first =>
        -- both the exact product and the one with the largest number are above the ceiling
        have hexact : 1 * 2 ^ attempt.toNat ≤ (first + 1) * 2 ^ attempt.toNat :=
          Nat.mul_le_mul_right _ (by omega)
        have hcut : 1 * top ≤ (first + 1) * top :=
          Nat.mul_le_mul_right _ (by omega)
        omega

/-- The waits, exactly. Before attempt `attempt + 1` the wait is the first wait, doubled
`attempt` times, or the ceiling if that is less, without regard to what fits into 64 bits.
So it never gets shorter from one attempt to the next, and it is zero exactly if the first
wait or the ceiling is. -/
theorem baseSeconds_exact :
    (∀ attempt : UInt32, (p.baseSeconds attempt).toNat
      = min p.maxSeconds.toNat (p.initialSeconds.toNat * 2 ^ attempt.toNat)) ∧
    (∀ attempt later : UInt32, attempt ≤ later → p.baseSeconds attempt ≤ p.baseSeconds later) ∧
    ∀ attempt : UInt32,
      p.baseSeconds attempt = 0 ↔ p.initialSeconds = 0 ∨ p.maxSeconds = 0 := by
  refine ⟨p.toNat_baseSeconds, fun attempt later hle => ?_, fun attempt => ?_⟩
  · have hpow : 2 ^ attempt.toNat ≤ 2 ^ later.toNat :=
      Nat.pow_le_pow_right (by decide) (UInt32.le_iff_toNat_le.mp hle)
    have hgrows := Nat.mul_le_mul_left p.initialSeconds.toNat hpow
    rw [UInt64.le_iff_toNat_le, toNat_baseSeconds, toNat_baseSeconds]
    omega
  · have hpow : 2 ^ attempt.toNat ≠ 0 := Nat.ne_of_gt (Nat.two_pow_pos _)
    have hproduct := Nat.mul_eq_zero (m := 2 ^ attempt.toNat) (n := p.initialSeconds.toNat)
    simp only [← UInt64.toNat_inj, toNat_baseSeconds, UInt64.toNat_zero]
    omega

/-- A first wait of three seconds stays exact up to the ceiling, far beyond the attempts for
which there is room for a power of two. -/
theorem baseSeconds_exact_ceiling :
    (62 : UInt32) ≤ 64 ∧
      (⟨9, 3, largest⟩ : RetryPolicy).baseSeconds 62 = 13835058055282163712 ∧
      (⟨9, 3, largest⟩ : RetryPolicy).baseSeconds 62
        ≤ (⟨9, 3, largest⟩ : RetryPolicy).baseSeconds 64 ∧
      (⟨9, 3, largest⟩ : RetryPolicy).baseSeconds 64 = largest := by
  have hle : (62 : UInt32) ≤ 64 := by decide
  obtain ⟨hexact, hmono, -⟩ := baseSeconds_exact ⟨9, 3, largest⟩
  refine ⟨hle, UInt64.toNat_inj.mp ((hexact 62).trans ?_), hmono 62 64 hle,
    UInt64.toNat_inj.mp ((hexact 64).trans ?_)⟩
  · decide
  · decide

end DurableWorkflow.RetryPolicy
