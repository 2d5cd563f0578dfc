/-
Numbers as they are written are numbers as they may be read. A whole number is its
digits. A float has its digits with a point, with zeros where it is needed on
either side, or with an exponent; and because its first digit is not zero
(`Decimal.shortest_digits`), no zero stands where none may.
-/
import Mathlib.Data.List.TakeWhile
import DurableWorkflow.Proofs.Decimal.Shortest
import DurableWorkflow.Proofs.Json.Numerals

namespace DurableWorkflow.Json

open Decimal (isDigit)

/-- A number as it is written, with its sign. -/
inductive Written : List Char → Prop
  | plain {ds ts : List Char} (h : Numeral ds ts) : Written (ds ++ ts)
  | negative {ds ts : List Char} (h : Numeral ds ts) : Written ('-' :: (ds ++ ts))

-- ===================================================== whole numbers

/-- The digits of a number are digits. -/
theorem digits_repr (n : Nat) : Digits (Nat.repr n).toList where
  some := by
    rw [Nat.toList_repr]
    exact Nat.toDigits_ne_nil
  all c hc := by
    rw [Nat.toList_repr] at hc
    have hdigit := Nat.isDigit_of_mem_toDigits (by decide) (by decide) hc
    have hbounds : '0' ≤ c ∧ c ≤ '9' := by
      simpa [Char.isDigit, Char.le_def] using hdigit
    rw [isDigit, Decimal.digit?, if_pos hbounds]
    rfl

/-- A positive number does not begin with a zero. -/
theorem repr_head {n : Nat} (hn : 0 < n) : ∃ c r, (Nat.repr n).toList = c :: r ∧ c ≠ '0' := by
  rw [Nat.toList_repr]
  induction n using Nat.strongRecOn with
  | ind n ih =>
      rw [Nat.toDigits_eq_if (by decide)]
      by_cases h : n < 10
      · rw [if_pos h]
        refine ⟨_, [], rfl, ?_⟩
        revert hn
        exact (by decide : ∀ n < 10, 0 < n → n.digitChar ≠ '0') n h
      · obtain ⟨c, r, heq, hc⟩ := ih (n / 10) (by omega) (by omega)
        rw [if_neg h, heq]
        exact ⟨c, r ++ [(n % 10).digitChar], rfl, hc⟩

/-- The digits of a number are a number. -/
theorem numeral_repr (n : Nat) : Numeral (Nat.repr n).toList [] where
  digits := digits_repr n
  zero r hr := by
    rcases Nat.eq_zero_or_pos n with rfl | hn
    · exact (List.cons.inj (hr.symm.trans (by decide : (Nat.repr 0).toList = ['0']))).2
    · obtain ⟨c, r', heq, hc⟩ := repr_head hn
      exact absurd (List.cons.inj (heq.symm.trans hr)).1 hc
  tail := .whole .none

/-- A whole number is written as a number. -/
theorem written_digits (n : Int) : Written (Value.digits n) := by
  unfold Value.digits
  split
  next =>
    have := Written.negative (numeral_repr n.natAbs)
    rwa [List.append_nil] at this
  next =>
    have := Written.plain (numeral_repr n.toNat)
    rwa [List.append_nil] at this

-- ============================================================ floats

/-- Zeros are digits. -/
theorem isDigit_zeros (k : Nat) : ∀ c ∈ List.replicate k '0', isDigit c = true := by
  intro c hc
  rw [List.eq_of_mem_replicate hc]
  decide

/-- The digits of a float, as they come out of the choice. -/
structure Leading (ds : List Char) : Prop where
  head : ∃ c r, ds = c :: r ∧ c ≠ '0'
  all : ∀ c ∈ ds, isDigit c = true

/-- The digits of a positive float begin with one that is not zero. -/
theorem leading_shortest {size : UInt64} (hsize : size ≠ 0) (hsign : size.toNat < 2 ^ 63) :
    Leading (Decimal.shortest size).digits := by
  obtain ⟨n, hn, heq⟩ := Decimal.shortest_digits hsize hsign
  obtain ⟨c, r, hrepr, hc⟩ := repr_head hn
  have hpre : (Decimal.shortest size).digits <+: (Nat.repr n).toList := by
    rw [heq]
    have hsuffix := List.dropWhile_suffix (· == '0') (l := (Nat.repr n).toList.reverse)
    have hprefix := List.reverse_prefix.mpr hsuffix
    rwa [List.reverse_reverse] at hprefix
  refine ⟨?_, fun x hx => (digits_repr n).all x (hpre.subset hx)⟩
  cases hds : (Decimal.shortest size).digits with
  | nil =>
      -- not all digits are zeros, so not all are cut off
      rw [hds] at heq
      have hnil := List.reverse_eq_nil_iff.mp heq.symm
      have hall := List.dropWhile_eq_nil_iff.mp hnil c
        (by rw [hrepr, List.mem_reverse]; exact List.mem_cons_self)
      exact absurd (by simpa using hall) hc
  | cons d ds =>
      rw [hds, hrepr] at hpre
      exact ⟨d, ds, rfl, by rw [(List.cons_prefix_cons.mp hpre).1]; exact hc⟩

/-- Digits with the point at its place are a number. -/
theorem written_positional {d : Decimal.Digits} (h : Leading d.digits) :
    ∃ ds ts, d.positional = ds ++ ts ∧ Numeral ds ts := by
  obtain ⟨⟨c, r, heq, hc⟩, hall⟩ := h
  have hne : d.digits ≠ [] := by rw [heq]; exact List.cons_ne_nil c r
  unfold Decimal.Digits.positional
  split
  next =>
    refine ⟨['0'], '.' :: ((List.replicate d.point.natAbs '0' ++ d.digits) ++ []),
      by rw [List.append_nil]; rfl, ⟨⟨by simp, isDigit_zeros 1⟩, ?_, ?_⟩⟩
    · intro r hr
      exact (List.cons.inj hr).2.symm
    · refine .fraction ⟨by simp [hne], fun x hx => ?_⟩ .none
      rcases List.mem_append.mp hx with hx | hx
      · exact isDigit_zeros _ x hx
      · exact hall x hx
  next hpoint =>
    simp only
    split
    next =>
      refine ⟨d.digits ++ List.replicate (d.point.toNat - d.digits.length) '0',
        '.' :: (['0'] ++ []), rfl, ⟨⟨by simp [hne], fun x hx => ?_⟩, ?_,
          .fraction ⟨by simp, isDigit_zeros 1⟩ .none⟩⟩
      · rcases List.mem_append.mp hx with hx | hx
        · exact hall x hx
        · exact isDigit_zeros _ x hx
      · intro r hr
        rw [heq] at hr
        exact absurd (List.cons.inj hr).1 hc
    next hlong =>
      obtain ⟨k, hk⟩ : ∃ k, d.point.toNat = k + 1 := ⟨d.point.toNat - 1, by omega⟩
      refine ⟨d.digits.take d.point.toNat, '.' :: (d.digits.drop d.point.toNat ++ []),
        by rw [List.append_nil], ⟨⟨?_, fun x hx => hall x (List.mem_of_mem_take hx)⟩, ?_,
          .fraction ⟨?_, fun x hx => hall x (List.mem_of_mem_drop hx)⟩ .none⟩⟩
      · rw [heq, hk]
        simp
      · intro r hr
        rw [heq, hk, List.take_succ_cons] at hr
        exact absurd (List.cons.inj hr).1 hc
      · rw [ne_eq, List.drop_eq_nil_iff]
        exact hlong

/-- Digits with an exponent are a number. -/
theorem written_scientific {d : Decimal.Digits} (hall : ∀ c ∈ d.digits, isDigit c = true) :
    ∃ ds ts, d.scientific = ds ++ ts ∧ Numeral ds ts := by
  have hexp : Exponent ('e' :: (if d.point - 1 < 0 then '-' else '+')
      :: (Nat.repr (d.point - 1).natAbs).toList) := by
    refine .some ?_ (digits_repr _)
    split
    · exact .inr rfl
    · exact .inl rfl
  unfold Decimal.Digits.scientific
  simp only
  generalize ('e' :: (if d.point - 1 < 0 then '-' else '+')
      :: (Nat.repr (d.point - 1).natAbs).toList) = exponent at hexp
  have hzero : ∀ (c : Char) (r : List Char), [c] = '0' :: r → r = [] :=
    fun c r hr => (List.cons.inj hr).2.symm
  split
  next => exact ⟨['0'], exponent, rfl, ⟨⟨by simp, isDigit_zeros 1⟩, hzero '0', .whole hexp⟩⟩
  next c heq =>
    rw [heq] at hall
    exact ⟨[c], exponent, rfl, ⟨⟨by simp, hall⟩, hzero c, .whole hexp⟩⟩
  next c r hr heq =>
    rw [heq] at hall
    refine ⟨[c], '.' :: (r ++ exponent), rfl, ⟨⟨by simp, fun x hx => ?_⟩, hzero c,
      .fraction ⟨?_, fun x hx => hall x (List.mem_cons_of_mem c hx)⟩ hexp⟩⟩
    · rw [List.mem_singleton.mp hx]
      exact hall c List.mem_cons_self
    · exact hr

/-- A number with or without the sign before it. -/
theorem written_signed {b : Bool} {cs : List Char} (h : ∃ ds ts, cs = ds ++ ts ∧ Numeral ds ts) :
    Written ((if b then ['-'] else []) ++ cs) := by
  obtain ⟨ds, ts, rfl, hnumeral⟩ := h
  cases b with
  | true =>
      rw [if_pos rfl, List.singleton_append]
      exact .negative hnumeral
  | false =>
      rw [if_neg Bool.false_ne_true, List.nil_append]
      exact .plain hnumeral

/-- A float is written as a number. -/
theorem written_text (x : Float) : Written (Decimal.text x) := by
  unfold Decimal.text
  simp only
  split
  next =>
    refine written_signed ⟨['0'], '.' :: (['0'] ++ []), rfl, ⟨⟨by simp, isDigit_zeros 1⟩, ?_,
      .fraction ⟨by simp, isDigit_zeros 1⟩ .none⟩⟩
    intro r hr
    exact (List.cons.inj hr).2.symm
  next hsize =>
    have hsign : (x.toBits &&& 0x7FFFFFFFFFFFFFFF).toNat < 2 ^ 63 := by
      rw [UInt64.toNat_and]
      exact Nat.and_lt_two_pow _ (by decide)
    have hleading := leading_shortest (by simpa using hsize) hsign
    refine written_signed ?_
    split
    next => exact written_positional hleading
    next => exact written_scientific hleading.all

end DurableWorkflow.Json
