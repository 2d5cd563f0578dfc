/-
What number the text of a number is read as does not depend on what follows it, as
long as that does not go on with the number. So a number that is read back where it
stands alone is read back wherever it stands.

A whole number of 64 bits is read back (`readNumber_repr`). Of a float this cannot be
said here, since the operations on floats are not known to the logic; where it
matters, it is a hypothesis about the floats at hand, that each is read back from
its text.
-/
import DurableWorkflow.Proofs.Json.Texts
import DurableWorkflow.Proofs.Time.Fields

namespace DurableWorkflow.Json

open Decimal (isDigit)

variable {c : Char} {ds ts rest after : List Char} {negative : Bool} {v : Value}

/-- What was read, whatever is left. -/
def worth (r : Except Fault (Value × List Char)) : Option Value :=
  match r with
  | .ok (v, _) => some v
  | .error _ => none

-- ============================================================ digits

/-- Collecting goes no further than the digits. -/
theorem gather_append (hds : ∀ x ∈ ds, isDigit x = true) (hrest : NoDigit rest) (n : Nat) :
    gather n (ds ++ rest) = ((gather n ds).1, (gather n ds).2.1, (gather n ds).2.2 ++ rest) := by
  induction ds generalizing n with
  | nil =>
      cases rest with
      | nil => rfl
      | cons c cs =>
          have hc : Decimal.digit? c = none := by
            have := hrest c rfl
            rwa [isDigit, Option.isSome_eq_false_iff, Option.isNone_iff_eq_none] at this
          rw [List.nil_append]
          unfold gather
          simp only [hc]
          rfl
  | cons c cs ih =>
      obtain ⟨d, hd⟩ := Option.isSome_iff_exists.mp (hds c List.mem_cons_self)
      rw [List.cons_append]
      unfold gather
      simp only [hd]
      by_cases hfits : fits (10 * n + d) = true
      · simp only [hfits, if_true, ih fun x hx => hds x (List.mem_cons_of_mem c hx)]
      · simp only [hfits]
        rfl

theorem gatherExponent_append (hds : ∀ x ∈ ds, isDigit x = true) (hrest : NoDigit rest)
    (e : Nat) :
    gatherExponent e (ds ++ rest) = ((gatherExponent e ds).1, (gatherExponent e ds).2 ++ rest) := by
  induction ds generalizing e with
  | nil =>
      cases rest with
      | nil => rfl
      | cons c cs =>
          have hc : Decimal.digit? c = none := by
            have := hrest c rfl
            rwa [isDigit, Option.isSome_eq_false_iff, Option.isNone_iff_eq_none] at this
          rw [List.nil_append]
          unfold gatherExponent
          simp only [hc]
          rfl
  | cons c cs ih =>
      obtain ⟨d, hd⟩ := Option.isSome_iff_exists.mp (hds c List.mem_cons_self)
      rw [List.cons_append]
      unfold gatherExponent
      simp only [hd]
      by_cases hsmall : 10 * e + d < 0x80000000
      · simp only [hsmall, if_true, ih fun x hx => hds x (List.mem_cons_of_mem c hx)]
      · simp only [hsmall, if_false]

-- ============================================================ floats

theorem float_worth (mantissa : Nat) (exponent : Int) (rest rest' : List Char) :
    worth (float negative mantissa exponent rest)
      = worth (float negative mantissa exponent rest') := by
  unfold float
  cases Decimal.scaled mantissa exponent with
  | none => rfl
  | some x => rfl

/-- The worth of an exponent is told by its digits. -/
theorem readExponent_worth (hds : Digits ds) (hrest : NoDigit rest) {sign : Char}
    (hsign : sign = '+' ∨ sign = '-') (mantissa : Nat) (exponent : Int) :
    worth (readExponent negative mantissa exponent (sign :: (ds ++ rest)))
      = worth (readExponent negative mantissa exponent (sign :: ds)) := by
  obtain ⟨hsome, hall⟩ := hds
  cases ds with
  | nil => exact absurd rfl hsome
  | cons c ds =>
      obtain ⟨d, hd⟩ := Option.isSome_iff_exists.mp (hall c List.mem_cons_self)
      have happend := gatherExponent_append (fun x hx => hall x (List.mem_cons_of_mem c hx)) hrest d
      cases hg : gatherExponent d ds with
      | mk e left =>
          rw [hg] at happend
          rcases hsign with rfl | rfl
          all_goals
            unfold readExponent
            simp only [List.cons_append, hd, happend, hg]
            cases e with
            | some e => exact float_worth _ _ _ _
            | none =>
                simp only
                split
                next => rfl
                next => rfl

/-- A float is finished where it does not go on. -/
theorem readTail_ends (hrest : Ends rest) (n : Nat) (exponent : Int) :
    readTail negative n exponent rest = float negative n exponent rest := by
  cases rest with
  | nil => rfl
  | cons c cs =>
      obtain ⟨-, hpoint, hlower, hupper⟩ := hrest c rfl
      unfold readTail
      split
      next heq => exact absurd (List.cons.inj heq).1 hpoint
      next heq => exact absurd (List.cons.inj heq).1 hlower
      next heq => exact absurd (List.cons.inj heq).1 hupper
      next => rfl

/-- What is left of digits after collecting some of them are digits. -/
theorem gather_left_digits (hds : ∀ x ∈ ds, isDigit x = true) (n : Nat) :
    ∀ x ∈ (gather n ds).2.2, isDigit x = true := by
  obtain ⟨front, -, happend, -⟩ := gather_left n ds
  intro x hx
  exact hds x (happend ▸ List.mem_append_right front hx)

/-- Of digits some are collected or some are left. -/
theorem gather_some (hds : ds ≠ []) (n : Nat) : (gather n ds).2.1 ≠ 0 ∨ (gather n ds).2.2 ≠ [] := by
  obtain ⟨front, -, happend, hlength⟩ := gather_left n ds
  by_contra hnone
  obtain ⟨hzero, hnil⟩ := not_or.mp hnone
  rw [not_not] at hzero hnil
  rw [hnil, List.append_nil] at happend
  rw [hzero, ← happend] at hlength
  exact hds (List.length_eq_zero_iff.mp hlength)

/-- A fraction only adds its digits to those before the point. -/
theorem readFraction_digits (hds : Digits ds) (hafter : NoDigit after)
    (hpoint : ∀ c ∈ after.head?, c ≠ '.') (n : Nat) (exponent : Int) :
    readFraction negative n exponent (ds ++ after)
      = readTail negative (gather n ds).1 (exponent - (gather n ds).2.1) after := by
  have hdrop := dropWhile_digits (gather_left_digits hds.all n) hafter
  have hgoes : ¬ ((gather n ds).2.1 = 0 ∧
      after.length = ((gather n ds).2.2 ++ after).length) := by
    rintro ⟨hzero, hlength⟩
    rw [List.length_append] at hlength
    rcases gather_some hds.some n with hsome | hsome
    · exact hsome hzero
    · exact hsome (List.length_eq_zero_iff.mp (by omega))
  unfold readFraction
  rw [gather_append hds.all hafter]
  simp only [hdrop, hgoes, if_false]
  cases after with
  | nil => rfl
  | cons c cs =>
      unfold readTail
      split
      next heq =>
        obtain ⟨rfl, rfl⟩ := List.cons.inj heq
        rfl
      next heq =>
        obtain ⟨rfl, rfl⟩ := List.cons.inj heq
        rfl
      next hlower hupper =>
        split
        next heq => exact absurd (List.cons.inj heq).1 (hpoint c rfl)
        next heq => exact absurd heq (hlower _)
        next heq => exact absurd heq (hupper _)
        next => rfl

/-- An exponent, or that there is none, has a worth of its own. -/
theorem Exponent.worth_readTail (he : Exponent ts) (hrest : Ends rest) (n : Nat)
    (exponent : Int) :
    worth (readTail negative n exponent (ts ++ rest))
      = worth (readTail negative n exponent ts) := by
  cases he with
  | none =>
      rw [List.nil_append, readTail_ends hrest, readTail_ends ends_nil]
      exact float_worth _ _ _ _
  | some hsign hds => exact readExponent_worth hds hrest.noDigit hsign _ _

/-- No point follows an exponent. -/
theorem Exponent.no_point (he : Exponent ts) (hrest : Ends rest) :
    ∀ c ∈ (ts ++ rest).head?, c ≠ '.' := by
  cases he with
  | none => exact fun c hc => (hrest c hc).2.1
  | some _ _ => intro c hc; rw [← Option.some.inj hc]; decide

/-- What follows the digits before the point has a worth of its own. -/
theorem Tail.worth_readTail (hts : Tail ts) (hrest : Ends rest) (n : Nat) (exponent : Int) :
    worth (readTail negative n exponent (ts ++ rest))
      = worth (readTail negative n exponent ts) := by
  cases hts with
  | whole he => exact he.worth_readTail hrest n exponent
  | @fraction ds ts hds he =>
      have hnone := he.noDigit ends_nil
      have hnopoint := he.no_point ends_nil
      rw [List.append_nil] at hnone hnopoint
      rw [List.cons_append, List.append_assoc]
      change worth (readFraction negative n exponent (ds ++ (ts ++ rest)))
        = worth (readFraction negative n exponent (ds ++ ts))
      rw [readFraction_digits hds (he.noDigit hrest) (he.no_point hrest),
        readFraction_digits hds hnone hnopoint]
      exact he.worth_readTail hrest _ _

-- =========================================================== numbers

/-- The first digits of a number as far as they were collected, and its other digits. -/
def front (d : Nat) (ds : List Char) : Nat × List Char :=
  if d = 0 then (0, ds) else ((gather d ds).1, (gather d ds).2.2)

/-- A whole number, where it goes no further. -/
def finished (negative : Bool) (n : Nat) (rest : List Char) : Except Fault (Value × List Char) :=
  match whole? negative n with
  | some i => .ok (.int i, rest)
  | none => .ok (.real (-(Decimal.whole n)), rest)

/-- What is read as a number: digits that were not collected only move the point, and
a number that has neither such digits nor a fraction or an exponent is whole. -/
def number (negative : Bool) (d : Nat) (ds after : List Char) :
    Except Fault (Value × List Char) :=
  if d = 0 ∧ (front d ds).2 ≠ [] then .error (.looking .numberInvalid ((front d ds).2 ++ after))
  else if (front d ds).2 ≠ [] then
    readTail negative (front d ds).1 (front d ds).2.length after
  else match after with
    | '.' :: _ => readTail negative (front d ds).1 0 after
    | 'e' :: _ => readTail negative (front d ds).1 0 after
    | 'E' :: _ => readTail negative (front d ds).1 0 after
    | _ => finished negative (front d ds).1 after

theorem front_digits (hds : ∀ x ∈ ds, isDigit x = true) (d : Nat) :
    ∀ x ∈ (front d ds).2, isDigit x = true := by
  unfold front
  split
  next => exact hds
  next => exact gather_left_digits hds d

theorem readNumber_eq {d : Nat} (hd : Decimal.digit? c = some d)
    (hds : ∀ x ∈ ds, isDigit x = true) (hafter : NoDigit after) :
    readNumber negative (c :: (ds ++ after)) = number negative d ds after := by
  have hfront : (if d = 0 then (0, ds ++ after) else
      ((gather d (ds ++ after)).1, (gather d (ds ++ after)).2.2))
        = ((front d ds).1, (front d ds).2 ++ after) := by
    unfold front
    split
    next => rfl
    next => rw [gather_append hds hafter]
  have hdrop := dropWhile_digits (front_digits hds d) hafter
  have hlength : ((front d ds).2 ++ after).length - after.length = (front d ds).2.length := by
    rw [List.length_append, Nat.add_sub_cancel]
  rw [readNumber]
  simp only [hd, hfront, hdrop, hlength, List.length_pos_iff]
  unfold number
  split
  next => rfl
  next =>
    split
    next => rfl
    next hnil =>
      rw [not_not] at hnil
      rw [hnil, List.nil_append]
      rfl

/-- A number has a worth of its own. -/
theorem Numeral.worth_readNumber (h : Numeral ds ts) (hrest : Ends rest) :
    worth (readNumber negative (ds ++ (ts ++ rest))) = worth (readNumber negative (ds ++ ts)) := by
  obtain ⟨⟨hsome, hall⟩, -, htail⟩ := h
  cases ds with
  | nil => exact absurd rfl hsome
  | cons c ds =>
      obtain ⟨d, hd⟩ := Option.isSome_iff_exists.mp (hall c List.mem_cons_self)
      have hdigits : ∀ x ∈ ds, isDigit x = true := fun x hx => hall x (List.mem_cons_of_mem c hx)
      have hnone := htail.noDigit ends_nil
      rw [List.append_nil] at hnone
      rw [List.cons_append, List.cons_append, readNumber_eq hd hdigits (htail.noDigit hrest),
        readNumber_eq hd hdigits hnone]
      unfold number
      split
      next => rfl
      next =>
        split
        next => exact htail.worth_readTail hrest _ _
        next =>
          cases htail with
          | fraction hds he => exact (Tail.fraction hds he).worth_readTail hrest _ _
          | whole he =>
              cases he with
              | some hsign hexp => exact (Exponent.some hsign hexp).worth_readTail hrest _ _
              | none =>
                  rw [List.nil_append]
                  split
                  next => exact absurd rfl (hrest _ rfl).2.1
                  next => exact absurd rfl (hrest _ rfl).2.2.1
                  next => exact absurd rfl (hrest _ rfl).2.2.2
                  next =>
                    unfold finished
                    cases whole? negative (front d ds).1 <;> rfl

-- ===================================================== whole numbers

theorem digit?_of_isDigit (h : isDigit c = true) : Decimal.digit? c = some (c.toNat - 48) := by
  unfold isDigit at h
  unfold Decimal.digit? at h ⊢
  split
  next => rfl
  next hnot =>
    rw [if_neg hnot] at h
    cases h

/-- The number that some digits are added to. -/
def extend (n : Nat) (ds : List Char) : Nat := ds.foldl (fun n c => 10 * n + (c.toNat - 48)) n

theorem le_extend (n : Nat) (ds : List Char) : n ≤ extend n ds := by
  induction ds generalizing n with
  | nil => exact Nat.le_refl n
  | cons c ds ih => exact Nat.le_trans (by omega) (ih (10 * n + (c.toNat - 48)))

/-- Digits are collected to the number that they write, if it fits. -/
theorem gather_fits (hds : ∀ x ∈ ds, isDigit x = true) (n : Nat)
    (hfits : fits (extend n ds) = true) : gather n ds = (extend n ds, ds.length, []) := by
  induction ds generalizing n with
  | nil => rfl
  | cons c ds ih =>
      have hnext : fits (10 * n + (c.toNat - 48)) = true := by
        have hle : 10 * n + (c.toNat - 48) ≤ extend n (c :: ds) := le_extend _ ds
        unfold fits at hfits ⊢
        rw [decide_eq_true_eq] at hfits ⊢
        omega
      unfold gather
      simp only [digit?_of_isDigit (hds c List.mem_cons_self), hnext, if_true,
        ih (fun x hx => hds x (List.mem_cons_of_mem c hx)) _ hfits]
      rfl

theorem extend_repr (n : Nat) : extend 0 (Nat.repr n).toList = n := by
  have h := Time.ofDigits_padded 0 n
  unfold Time.padded at h
  simp only [Nat.zero_sub, List.replicate_zero, List.nil_append] at h
  exact h

/-- Digits of which only a lone one is a zero at the front stand for one number. -/
theorem front_numeral {c : Char} {ds : List Char} {n : Nat}
    (hall : ∀ x ∈ c :: ds, isDigit x = true) (hzero : ∀ more, c :: ds = '0' :: more → more = [])
    (hvalue : extend (c.toNat - 48) ds = n) (hfits : fits n = true) :
    front (c.toNat - 48) ds = (n, []) := by
  unfold front
  split
  next hd =>
    -- no digit follows a zero
    have hc : c = '0' := by
      have hle : '0' ≤ c := by
        have := digit?_of_isDigit (hall c List.mem_cons_self)
        unfold Decimal.digit? at this
        split at this
        next h => exact h.1
        next => cases this
      have h48 : (48 : Nat) ≤ c.toNat := hle
      exact Char.toNat_inj.mp (show c.toNat = '0'.toNat by
        show c.toNat = 48
        omega)
    obtain rfl : ds = [] := hzero ds (by rw [hc])
    rw [hd] at hvalue
    rw [← hvalue]
    rfl
  next =>
    have hds : ∀ x ∈ ds, isDigit x = true := fun x hx => hall x (List.mem_cons_of_mem c hx)
    rw [gather_fits hds _ (by rw [hvalue]; exact hfits), hvalue]

/-- The digits of a number are read as the number. -/
theorem readNumber_repr (negative : Bool) {n : Nat} (hfits : fits n = true) (hrest : Ends rest) :
    readNumber negative ((Nat.repr n).toList ++ rest) = finished negative n rest := by
  have hall := (digits_repr n).all
  have hextend := extend_repr n
  have hzero := (numeral_repr n).zero
  cases hdigits : (Nat.repr n).toList with
  | nil => exact absurd hdigits (digits_repr n).some
  | cons c ds =>
      rw [hdigits] at hall hextend hzero
      have hds : ∀ x ∈ ds, isDigit x = true := fun x hx => hall x (List.mem_cons_of_mem c hx)
      have hvalue : extend (c.toNat - 48) ds = n := by
        have h : extend (10 * 0 + (c.toNat - 48)) ds = n := hextend
        rwa [Nat.mul_zero, Nat.zero_add] at h
      rw [List.cons_append,
        readNumber_eq (digit?_of_isDigit (hall c List.mem_cons_self)) hds hrest.noDigit]
      unfold number
      rw [front_numeral hall hzero hvalue hfits, if_neg fun h => h.2 rfl, if_neg fun h => h rfl]
      split
      next => exact absurd rfl (hrest _ rfl).2.1
      next => exact absurd rfl (hrest _ rfl).2.2.1
      next => exact absurd rfl (hrest _ rfl).2.2.2
      next => rfl

/-- A whole number of 64 bits, with or without a sign. -/
def InRange (n : Int) : Prop := -0x8000000000000000 ≤ n ∧ n < 0x10000000000000000

instance (n : Int) : Decidable (InRange n) := inferInstanceAs (Decidable (_ ∧ _))

/-- A whole number of 64 bits is read back. -/
theorem writtenNumber_digits {n : Int} (hn : InRange n) (hrest : Ends rest) :
    writtenNumber rest (Value.digits n) = .int (span 0 (Value.digits n ++ rest) rest) n := by
  obtain ⟨hlow, hhigh⟩ := hn
  unfold Value.digits
  split
  next hneg =>
    have hread := readNumber_repr true (n := n.natAbs)
      (by unfold fits; rw [decide_eq_true_eq]; omega) hrest
    have hwhole : whole? true n.natAbs = some n := by
      unfold whole?
      rw [if_neg (by decide), if_pos (by omega)]
      congr 1
      omega
    unfold finished at hread
    rw [hwhole] at hread
    show (numberPiece _ true ((Nat.repr n.natAbs).toList ++ rest)).1 = _
    unfold numberPiece
    rw [hread]
    rfl
  next hpos =>
    have hread := readNumber_repr false (n := n.toNat)
      (by unfold fits; rw [decide_eq_true_eq]; omega) hrest
    have hwhole : whole? false n.toNat = some n := by
      unfold whole?
      rw [if_pos (by decide)]
      congr 1
      omega
    unfold finished at hread
    rw [hwhole] at hread
    rw [writtenNumber.eq_def]
    split
    next r heq =>
      have := (digits_repr n.toNat).all '-' (by rw [heq]; exact List.mem_cons_self)
      cases this
    next =>
      unfold numberPiece
      rw [hread]

-- ============================================================ floats

/-- A float that is read back from its text. -/
def Exact (x : Float) : Prop := Decoder.ofText Decoder.value (Value.real x).text = .ok (.real x)

/-- The value of a number is what it was read as. -/
theorem value_numberPiece {x : Float} (start cs : List Char) :
    Document.value (numberPiece start negative cs).1 = .ok (.real x)
      ↔ worth (readNumber negative cs) = some (.real x) := by
  unfold numberPiece
  cases hread : readNumber negative cs with
  | error f =>
      simp only [worth, unread]
      cases skipNumber cs <;> simp [Document.value, throw, throwThe, MonadExceptOf.throw]
  | ok a =>
      obtain ⟨v, left⟩ := a
      cases v <;> simp [worth, Document.value, pure, Except.pure]

/-- What was written as a number is a number with or without a sign. -/
theorem Written.exists_numeral {cs : List Char} (h : Written cs) :
    ∃ negative ds ts, Numeral ds ts ∧ ∀ rest,
      writtenNumber rest cs = (numberPiece (cs ++ rest) negative (ds ++ (ts ++ rest))).1 := by
  rcases h.cases_cons with ⟨ds, ts, rfl, hnumeral⟩ | ⟨c, ds, ts, rfl, hnumeral, hc⟩
  · refine ⟨true, ds, ts, hnumeral, fun rest => ?_⟩
    rw [← List.append_assoc]
    rfl
  · refine ⟨false, c :: ds, ts, hnumeral, fun rest => ?_⟩
    rw [← List.append_assoc, List.cons_append, writtenNumber.eq_def]
    split
    next heq => exact absurd (List.cons.inj heq).1 (ne_of_isDigit hc (by decide))
    next => rfl

/-- What a number is read as does not depend on what follows it. -/
theorem Written.value_writtenNumber {x : Float} {cs : List Char} (h : Written cs)
    (hrest : Ends rest) :
    Document.value (writtenNumber rest cs) = .ok (.real x)
      ↔ Document.value (writtenNumber [] cs) = .ok (.real x) := by
  obtain ⟨negative, ds, ts, hnumeral, hwritten⟩ := h.exists_numeral
  rw [hwritten rest, hwritten [], value_numberPiece, value_numberPiece, List.append_nil ts,
    hnumeral.worth_readNumber hrest]

/-- A float that is read back alone is read back wherever it stands. -/
theorem Exact.value_written {x : Float} (h : Exact x) (depth : Nat) (hrest : Ends rest) :
    Document.value (written depth rest (.real x)) = .ok (.real x) := by
  have halone := (ofText_text Decoder.value (.real x) _).mp h
  unfold Decoder.value written at halone
  unfold written
  split
  next hfinite =>
    rw [if_pos hfinite] at halone
    exact ((written_text x).value_writtenNumber hrest).mpr halone
  next hfinite =>
    rw [if_neg hfinite] at halone
    cases halone

end DurableWorkflow.Json
