/-
What a number in a text may look like, and that reading it takes all of it and
nothing else.

A number that is read may turn out to be too large; then it is skipped instead.
Either way the reader stands behind it (`Numeral.left`). Which number was read is
not asked here.
-/
import DurableWorkflow.Json.Reader

namespace DurableWorkflow.Json

open Decimal (isDigit)

variable {ds ts rest after : List Char} {negative : Bool} {v : Value}

-- ============================================================ digits

/-- At least one digit, and nothing but digits. -/
structure Digits (ds : List Char) : Prop where
  some : ds ≠ []
  all : ∀ c ∈ ds, isDigit c = true

/-- A text that does not begin with a digit. -/
def NoDigit (cs : List Char) : Prop := ∀ c ∈ cs.head?, isDigit c = false

/-- A text that does not go on with a number. -/
def Ends (cs : List Char) : Prop :=
  ∀ c ∈ cs.head?, isDigit c = false ∧ c ≠ '.' ∧ c ≠ 'e' ∧ c ≠ 'E'

theorem Ends.noDigit (h : Ends rest) : NoDigit rest := fun c hc => (h c hc).1

/-- A text that goes on with a character that is no part of a number. -/
theorem ends_cons {c : Char} (h : c = ',' ∨ c = ']' ∨ c = '\x7d') (cs : List Char) :
    Ends (c :: cs) := by
  intro d hd
  obtain rfl : c = d := Option.some.inj hd
  rcases h with rfl | rfl | rfl <;> decide

theorem ends_nil : Ends [] := fun _ h => by cases h

/-- Where no digit comes first, there are none to be dropped. -/
theorem NoDigit.dropWhile (h : NoDigit rest) : rest.dropWhile isDigit = rest := by
  cases rest with
  | nil => rfl
  | cons c cs => rw [List.dropWhile_cons_of_neg (by rw [h c rfl]; exact Bool.false_ne_true)]

/-- Digits are dropped up to where they end. -/
theorem dropWhile_digits (hds : ∀ c ∈ ds, isDigit c = true) (h : NoDigit rest) :
    (ds ++ rest).dropWhile isDigit = rest := by
  rw [List.dropWhile_append_of_pos hds, h.dropWhile]

theorem isDigit_of_digit? {c : Char} {d : Nat} (h : Decimal.digit? c = some d) :
    isDigit c = true := by
  rw [isDigit, h]
  rfl

/-- Collecting digits stops at a digit that does not fit or behind the last. -/
theorem gather_left (n : Nat) (cs : List Char) :
    ∃ ds, (∀ c ∈ ds, isDigit c = true) ∧ cs = ds ++ (gather n cs).2.2 ∧
      ds.length = (gather n cs).2.1 := by
  induction cs generalizing n with
  | nil => exact ⟨[], by simp, rfl, rfl⟩
  | cons c cs ih =>
      unfold gather
      cases hd : Decimal.digit? c with
      | none => exact ⟨[], by simp, rfl, rfl⟩
      | some d =>
          by_cases hfits : fits (10 * n + d) = true
          · obtain ⟨ds, hall, happend, hlength⟩ := ih (10 * n + d)
            simp only [hfits, if_true]
            refine ⟨c :: ds, ?_, congrArg (c :: ·) happend, congrArg (· + 1) hlength⟩
            intro x hx
            rcases List.mem_cons.mp hx with rfl | hx
            · exact isDigit_of_digit? hd
            · exact hall x hx
          · simp only [hfits]
            exact ⟨[], by simp, rfl, rfl⟩

/-- What is left after collecting has the same end as before. -/
theorem gather_dropWhile (n : Nat) (cs : List Char) :
    (gather n cs).2.2.dropWhile isDigit = cs.dropWhile isDigit := by
  obtain ⟨ds, hall, happend, -⟩ := gather_left n cs
  have hdrop : (ds ++ (gather n cs).2.2).dropWhile isDigit = (gather n cs).2.2.dropWhile isDigit :=
    List.dropWhile_append_of_pos hall
  rw [← happend] at hdrop
  exact hdrop.symm

/-- The digits of an exponent are read up to where they end, if the exponent is
not too large; and else the rest of them is still to be dropped. -/
theorem gatherExponent_dropWhile (e : Nat) (cs : List Char) :
    (gatherExponent e cs).2.dropWhile isDigit = cs.dropWhile isDigit ∧
      ((gatherExponent e cs).1 ≠ none → NoDigit (gatherExponent e cs).2) := by
  induction cs generalizing e with
  | nil => exact ⟨rfl, fun _ c hc => by cases hc⟩
  | cons c cs ih =>
      unfold gatherExponent
      cases hd : Decimal.digit? c with
      | none =>
          have hc : isDigit c = false := by rw [isDigit, hd]; rfl
          exact ⟨rfl, fun _ x hx => by rw [← Option.some.inj hx]; exact hc⟩
      | some d =>
          have hdrop : (c :: cs).dropWhile isDigit = cs.dropWhile isDigit :=
            List.dropWhile_cons_of_pos (isDigit_of_digit? hd)
          rw [hdrop]
          by_cases hsmall : 10 * e + d < 0x80000000
          · simp only [hsmall, if_true]
            exact ih (10 * e + d)
          · simp only [hsmall, if_false]
            exact ⟨trivial, fun h => absurd rfl h⟩

-- ========================================================== numerals

/-- An exponent, with its sign, or nothing. -/
inductive Exponent : List Char → Prop
  | none : Exponent []
  | some {sign : Char} {ds : List Char} (hsign : sign = '+' ∨ sign = '-') (h : Digits ds) :
    Exponent ('e' :: sign :: ds)

/-- What follows the digits before the point. -/
inductive Tail : List Char → Prop
  | whole {ts : List Char} (h : Exponent ts) : Tail ts
  | fraction {ds ts : List Char} (hds : Digits ds) (h : Exponent ts) : Tail ('.' :: (ds ++ ts))

/-- A number without its sign: zero has no digit after it. -/
structure Numeral (ds ts : List Char) : Prop where
  digits : Digits ds
  zero : ∀ r, ds = '0' :: r → r = []
  tail : Tail ts

theorem Exponent.noDigit (h : Exponent ts) (hrest : Ends rest) : NoDigit (ts ++ rest) := by
  cases h with
  | none => exact hrest.noDigit
  | some _ _ => intro c hc; rw [← Option.some.inj hc]; decide

theorem Tail.noDigit (h : Tail ts) (hrest : Ends rest) : NoDigit (ts ++ rest) := by
  cases h with
  | whole h => exact h.noDigit hrest
  | fraction _ _ => intro c hc; rw [← Option.some.inj hc]; decide

-- =========================================================== reading

/-- A finished float takes nothing further. -/
theorem float_left {mantissa : Nat} {exponent : Int}
    (h : float negative mantissa exponent rest = .ok (v, after)) : after = rest := by
  unfold float at h
  split at h
  next => exact ((Prod.mk.inj (Except.ok.inj h)).2).symm
  next => cases h

/-- After the first digit of an exponent with a sign, what is left is what collecting
leaves; if the exponent is too large, without the rest of its digits. -/
theorem readExponent_signed {sign c : Char} {d : Nat} {cs : List Char}
    (hsign : sign = '+' ∨ sign = '-') (hd : Decimal.digit? c = some d) {mantissa : Nat}
    {exponent : Int}
    (h : readExponent negative mantissa exponent (sign :: c :: cs) = .ok (v, after)) :
    ((gatherExponent d cs).1 ≠ none ∧ after = (gatherExponent d cs).2) ∨
      after = (gatherExponent d cs).2.dropWhile isDigit := by
  cases hg : gatherExponent d cs with
  | mk e r =>
      rcases hsign with rfl | rfl
      all_goals
        unfold readExponent at h
        simp only [hd, hg] at h
        cases e with
        | some e => exact .inl ⟨by simp, float_left h⟩
        | none =>
            simp only at h
            split at h
            next => cases h
            next => exact .inr ((Prod.mk.inj (Except.ok.inj h)).2).symm

/-- Reading an exponent leaves what follows it. -/
theorem readExponent_left (hds : Digits ds) (hrest : Ends rest) {sign : Char}
    (hsign : sign = '+' ∨ sign = '-') {mantissa : Nat} {exponent : Int}
    (h : readExponent negative mantissa exponent (sign :: (ds ++ rest)) = .ok (v, after)) :
    after = rest := by
  obtain ⟨hsome, hall⟩ := hds
  cases ds with
  | nil => exact absurd rfl hsome
  | cons c ds =>
      obtain ⟨d, hd⟩ := Option.isSome_iff_exists.mp (hall c List.mem_cons_self)
      obtain ⟨hdrop, hnone⟩ := gatherExponent_dropWhile d (ds ++ rest)
      rw [dropWhile_digits (fun x hx => hall x (List.mem_cons_of_mem c hx)) hrest.noDigit]
        at hdrop
      rw [List.cons_append] at h
      rcases readExponent_signed hsign hd h with ⟨hsmall, hafter⟩ | hafter
      · rw [hafter, ← (hnone hsmall).dropWhile, hdrop]
      · rw [hafter, hdrop]

/-- Reading what follows the digits before the point leaves what follows the
number. -/
theorem readTail_left (hts : Tail ts) (hrest : Ends rest) {n : Nat} {exponent : Int}
    (h : readTail negative n exponent (ts ++ rest) = .ok (v, after)) : after = rest := by
  cases hts with
  | whole he =>
      cases he with
      | none =>
          rw [List.nil_append] at h
          cases rest with
          | nil => exact float_left h
          | cons c cs =>
              obtain ⟨-, hpoint, hlower, hupper⟩ := hrest c rfl
              unfold readTail at h
              split at h
              next heq => exact absurd (List.cons.inj heq).1 hpoint
              next heq => exact absurd (List.cons.inj heq).1 hlower
              next heq => exact absurd (List.cons.inj heq).1 hupper
              next => exact float_left h
      | some hsign hds => exact readExponent_left hds hrest hsign h
  | @fraction ds ts hds he =>
      rw [List.cons_append, List.append_assoc] at h
      change readFraction negative n exponent (ds ++ (ts ++ rest)) = _ at h
      have hmore := gather_dropWhile n (ds ++ (ts ++ rest))
      rw [dropWhile_digits hds.all (he.noDigit hrest)] at hmore
      unfold readFraction at h
      simp only [hmore] at h
      split at h
      next => split at h <;> cases h
      next =>
        cases he with
        | some hsign hexp => exact readExponent_left hexp hrest hsign h
        | none =>
            rw [List.nil_append] at h
            cases rest with
            | nil => exact float_left h
            | cons c cs =>
                obtain ⟨-, -, hlower, hupper⟩ := hrest c rfl
                split at h
                next heq => exact absurd (List.cons.inj heq).1 hlower
                next heq => exact absurd (List.cons.inj heq).1 hupper
                next => exact float_left h

/-- A suffix of the same length as the whole is the whole. -/
theorem dropWhile_eq_self {cs : List Char} (h : ¬ 0 < cs.length - (cs.dropWhile isDigit).length) :
    cs.dropWhile isDigit = cs :=
  (List.dropWhile_suffix isDigit).eq_of_length
    (Nat.le_antisymm (List.dropWhile_suffix isDigit).length_le (by omega))

/-- Reading a number leaves what follows it. -/
theorem readNumber_left (h : Numeral ds ts) (hrest : Ends rest)
    (hread : readNumber negative (ds ++ (ts ++ rest)) = .ok (v, after)) : after = rest := by
  obtain ⟨⟨hsome, hall⟩, -, htail⟩ := h
  cases ds with
  | nil => exact absurd rfl hsome
  | cons c ds =>
      obtain ⟨d, hd⟩ := Option.isSome_iff_exists.mp (hall c List.mem_cons_self)
      have hdigits : ∀ x ∈ ds, isDigit x = true := fun x hx => hall x (List.mem_cons_of_mem c hx)
      have hend : (ds ++ (ts ++ rest)).dropWhile isDigit = ts ++ rest :=
        dropWhile_digits hdigits (htail.noDigit hrest)
      rw [List.cons_append, readNumber] at hread
      simp only [hd] at hread
      -- zero stands alone; any other digit begins a number that is collected
      generalize hfront : (if d = 0 then (0, ds ++ (ts ++ rest)) else
        ((gather d (ds ++ (ts ++ rest))).1, (gather d (ds ++ (ts ++ rest))).2.2)) = front at hread
      obtain ⟨n, behind⟩ := front
      have hmore : behind.dropWhile isDigit = ts ++ rest := by
        split at hfront
        next => rw [← (Prod.mk.inj hfront).2, hend]
        next => rw [← (Prod.mk.inj hfront).2, gather_dropWhile, hend]
      simp only [hmore] at hread
      split at hread
      next => cases hread
      next =>
        split at hread
        next => exact readTail_left htail hrest hread
        next hextra =>
          rw [← hmore] at hextra
          rw [← dropWhile_eq_self hextra, hmore] at hread
          split at hread
          next => exact readTail_left htail hrest hread
          next => exact readTail_left htail hrest hread
          next => exact readTail_left htail hrest hread
          next hpoint hlower hupper =>
            have hleft : after = ts ++ rest := by
              split at hread
              next => exact ((Prod.mk.inj (Except.ok.inj hread)).2).symm
              next => exact ((Prod.mk.inj (Except.ok.inj hread)).2).symm
            cases htail with
            | fraction _ _ => exact absurd rfl (hpoint _)
            | whole he =>
                cases he with
                | none => exact hleft
                | some _ _ => exact absurd rfl (hlower _)

-- ========================================================== skipping

/-- Skipping an exponent leaves what follows it. -/
theorem skipExponent_numeral (hds : Digits ds) (hrest : Ends rest) {sign : Char}
    (hsign : sign = '+' ∨ sign = '-') :
    skipExponent (sign :: (ds ++ rest)) = .ok rest := by
  obtain ⟨hsome, hall⟩ := hds
  cases ds with
  | nil => exact absurd rfl hsome
  | cons c ds =>
      have hc := hall c List.mem_cons_self
      have hdrop : (ds ++ rest).dropWhile isDigit = rest :=
        dropWhile_digits (fun x hx => hall x (List.mem_cons_of_mem c hx)) hrest.noDigit
      rcases hsign with rfl | rfl
      · unfold skipExponent
        simp only [List.cons_append, hc, if_true, hdrop]
        rfl
      · unfold skipExponent
        simp only [List.cons_append, hc, if_true, hdrop]
        rfl

/-- Skipping what follows the digits before the point leaves what follows the
number. -/
theorem skipTail_numeral (hts : Tail ts) (hrest : Ends rest) :
    skipTail (ts ++ rest) = .ok rest := by
  cases hts with
  | whole he =>
      cases he with
      | some hsign hds => exact skipExponent_numeral hds hrest hsign
      | none =>
          rw [List.nil_append, skipTail.eq_def]
          split
          next => exact absurd rfl (hrest _ rfl).2.1
          next => exact absurd rfl (hrest _ rfl).2.2.1
          next => exact absurd rfl (hrest _ rfl).2.2.2
          next => rfl
  | @fraction ds ts hds he =>
      have hdrop := dropWhile_digits hds.all (he.noDigit hrest)
      have hlength : ¬ (ts ++ rest).length = (ds ++ (ts ++ rest)).length := by
        have := List.length_pos_iff.mpr hds.some
        rw [@List.length_append _ ds]
        omega
      rw [List.cons_append, List.append_assoc, skipTail.eq_def]
      simp only [hdrop, hlength, if_false]
      cases he with
      | some hsign hexp => exact skipExponent_numeral hexp hrest hsign
      | none =>
          rw [List.nil_append]
          split
          next => exact absurd rfl (hrest _ rfl).2.2.1
          next => exact absurd rfl (hrest _ rfl).2.2.2
          next => rfl

/-- Skipping a number leaves what follows it. -/
theorem skipNumber_numeral (h : Numeral ds ts) (hrest : Ends rest) :
    skipNumber (ds ++ (ts ++ rest)) = .ok rest := by
  obtain ⟨⟨hsome, hall⟩, hzero, htail⟩ := h
  have hskip := skipTail_numeral htail hrest
  cases ds with
  | nil => exact absurd rfl hsome
  | cons c ds =>
      have hc := hall c List.mem_cons_self
      have hdrop : (ds ++ (ts ++ rest)).dropWhile isDigit = ts ++ rest :=
        dropWhile_digits (fun x hx => hall x (List.mem_cons_of_mem c hx)) (htail.noDigit hrest)
      rw [List.cons_append, skipNumber.eq_def]
      simp only [hc, if_true, hdrop, hskip]
      split
      next h0 =>
        obtain rfl : ds = [] := hzero ds (by rw [h0])
        rw [List.nil_append]
        split
        next d t heq =>
          have hd := htail.noDigit hrest d (by rw [heq]; rfl)
          rw [hd, if_neg Bool.false_ne_true, hskip]
        next heq =>
          rw [heq] at hskip
          exact hskip
      next => rfl

/-- The reader stands behind a number, whether it could be read or was too
large. -/
theorem Numeral.left (h : Numeral ds ts) (hrest : Ends rest) (start : List Char)
    (negative : Bool) :
    (numberPiece start negative (ds ++ (ts ++ rest))).2 = some rest := by
  unfold numberPiece
  split
  next hread => rw [readNumber_left h hrest hread]
  next hread => rw [readNumber_left h hrest hread]
  next hread => rw [readNumber_left h hrest hread]
  next => rw [skipNumber_numeral h hrest, unread]

end DurableWorkflow.Json
