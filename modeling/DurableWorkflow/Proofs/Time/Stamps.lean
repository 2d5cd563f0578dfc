/-
Instants are read back from their texts. A shown text gives the instant itself
(`ofText_text`). A stored text gives the full microsecond before it, but only while
the year has four digits (`ofStored_stored`): the reader of stored texts knows no
other years, and refuses what the writer makes of them
(`ofStored_stored_of_not_four_digits`).

A text is read field by field. Every field has a lemma of its own that leaves the
rest of the text as it is; what the fields are put together to is checked once,
where the pieces become an instant (`pieces_instant`).

# Years and their first days

Whether an instant lies within some years is a question about its day: a year has
begun when its first day has come (`Date.le_year_iff`).
-/
import DurableWorkflow.Proofs.Time.Order

namespace DurableWorkflow.Time

open Decimal (isDigit ofDigits)
open Json (NoDigit)

-- ===================================================== years and days

namespace Date

/-- A year has begun when its first day has come. -/
theorem le_year_iff (y n : Int) : y ≤ (ofNumber n).year ↔ Date.number ⟨y, 1, 1⟩ ≤ n := by
  have hfirst : Date.Valid ⟨y, 1, 1⟩ := by
    refine ⟨Nat.le_refl 1, ?_, Nat.le_refl 1, ?_⟩
    · show 1 ≤ 12
      decide
    · show 1 ≤ 31
      decide
  have hvalid := valid_ofNumber n
  have hnumber := number_ofNumber n
  obtain ⟨hm, -, hd, -⟩ := valid_ofNumber n
  constructor
  · intro hy
    by_cases heq : (⟨y, 1, 1⟩ : Date) = ofNumber n
    · exact Int.le_of_eq ((congrArg Date.number heq).trans hnumber)
    · have hlt : Earlier ⟨y, 1, 1⟩ (ofNumber n) := by
        rcases Earlier.trichotomy ⟨y, 1, 1⟩ (ofNumber n) with h | h | h
        · exact h
        · exact absurd h heq
        · simp only [Earlier] at h
          omega
      have := number_lt hfirst hvalid hlt
      omega
  · intro hn
    by_contra hy
    have hlt := number_lt hvalid hfirst (.inl (Int.not_le.mp hy))
    omega

end Date

namespace Instant

/-- The range of instants is one of whole years. -/
theorem inRange_iff (t : Instant) :
    inRange t.seconds = true ↔ -262143 ≤ t.date.year ∧ t.date.year ≤ 262142 := by
  have hlow : Date.number ⟨-262143, 1, 1⟩ = -96465292 := by decide
  have hhigh : Date.number ⟨262142, 12, 31⟩ = 95026236 := by decide
  have hnext : Date.number ⟨262143, 1, 1⟩ = 95026237 := by decide
  have hge := Date.le_year_iff (-262143) (t.seconds / 86400)
  have hgt := Date.le_year_iff 262143 (t.seconds / 86400)
  rw [hlow] at hge
  rw [hnext] at hgt
  change -262143 ≤ t.date.year ↔ _ at hge
  change 262143 ≤ t.date.year ↔ _ at hgt
  unfold inRange earliest latest
  rw [hlow, hhigh, Bool.and_eq_true, decide_eq_true_eq, decide_eq_true_eq]
  omega

/-- The years of four digits as a range of seconds. -/
theorem four_digits_iff (t : Instant) :
    (0 ≤ t.date.year ∧ t.date.year ≤ 9999)
      ↔ -62167219200 ≤ t.seconds ∧ t.seconds < 253402300800 := by
  have hge := Date.le_year_iff 0 (t.seconds / 86400)
  have hgt := Date.le_year_iff 10000 (t.seconds / 86400)
  rw [show Date.number ⟨0, 1, 1⟩ = -719528 by decide] at hge
  rw [show Date.number ⟨10000, 1, 1⟩ = 2932897 by decide] at hgt
  change 0 ≤ t.date.year ↔ _ at hge
  change 10000 ≤ t.date.year ↔ _ at hgt
  omega

end Instant

-- =========================================================== fields

variable {w n : Nat} {ds rest : List Char}

/-- A number that fits has exactly the digits it is given. -/
theorem length_padded (hw : 0 < w) (hn : n < 10 ^ w) : (padded w n).length = w := by
  induction w, hw using Nat.le_induction generalizing n with
  | base => rw [padded_one (by omega), List.length_singleton]
  | succ w hw ih =>
      rw [Nat.pow_succ] at hn
      rw [padded_succ hw, List.length_append, ih (by omega), List.length_singleton]

/-- Digits are read up to where they end. -/
theorem number_digits (least most : Nat) (rest : List Char)
    (hds : ∀ c ∈ ds, isDigit c = true) (hleast : least ≤ ds.length)
    (hmost : ds.length = most ∨ ds.length ≤ most ∧ NoDigit rest)
    (hsize : ofDigits ds < 0x8000000000000000) :
    number least most (ds ++ rest) = .ok (ofDigits ds, rest) := by
  have hdigits : ((ds ++ rest).take most).takeWhile isDigit = ds := by
    rw [List.take_append, List.take_of_length_le (by omega), List.takeWhile_append_of_pos hds]
    rcases hmost with rfl | ⟨-, hrest⟩
    · rw [Nat.sub_self, List.take_zero, List.takeWhile_nil, List.append_nil]
    · cases rest with
      | nil => rw [List.take_nil, List.takeWhile_nil, List.append_nil]
      | cons c cs =>
          cases most - ds.length with
          | zero => rw [List.take_zero, List.takeWhile_nil, List.append_nil]
          | succ k =>
              rw [List.take_succ_cons, List.takeWhile_cons_of_neg (by simp [hrest c rfl]),
                List.append_nil]
  unfold number
  simp only [hdigits]
  rw [if_neg (by omega), if_neg (by omega), List.drop_left]
  rfl

/-- A field of fixed width is read. -/
theorem number_padded (hw : 0 < w) (hn : n < 10 ^ w) (hsize : n < 0x8000000000000000) :
    number w w (padded w n ++ rest) = .ok (n, rest) := by
  have hlength := length_padded hw hn
  have hread := number_digits w w rest (isDigit_padded w n)
    hlength.ge (.inl hlength) (by rwa [ofDigits_padded])
  rwa [ofDigits_padded] at hread

/-- A field within bounds is read. -/
theorem within_padded {low high : Nat} (hlow : low ≤ n) (hhigh : n ≤ high) (hn : n < 10 ^ 2) :
    within low high (number 2 2 (padded 2 n ++ rest)) = .ok (n, rest) := by
  rw [number_padded (by decide) hn (by omega)]
  unfold within
  simp only [bind, Except.bind]
  rw [if_pos ⟨hlow, hhigh⟩]
  rfl

theorem literal_cons (c : Char) (cs : List Char) : literal c (c :: cs) = .ok cs := by
  rw [literal, if_pos rfl]
  rfl

/-- The fraction of a second, written with some of its digits. -/
theorem fraction_padded {k : Nat} (hw : 0 < w) (hw9 : w + k = 9) (hn : n < 10 ^ w)
    (hrest : NoDigit rest) :
    fraction ('.' :: (padded w n ++ rest)) = .ok (n * 10 ^ k, rest) := by
  have hlength := length_padded hw hn
  have hten : (10 : Nat) ^ w ≤ 10 ^ 9 := Nat.pow_le_pow_right (by decide) (by omega)
  have hread := number_digits 1 9 rest (isDigit_padded w n)
    (by omega) (.inr ⟨by omega, hrest⟩) (by rw [ofDigits_padded]; omega)
  rw [ofDigits_padded] at hread
  unfold fraction
  simp only [bind, Except.bind, hread, List.length_append, hlength]
  rw [Nat.add_sub_cancel_right, show 9 - w = k by omega, hrest.dropWhile]
  rfl

theorem divider_cons (cs : List Char) : divider ('T' :: cs) = .ok cs := rfl

/-- The offset of universal time. -/
theorem offset_zone (colon : List Char → Scan (List Char)) :
    offset colon ['Z'] = .ok (0, []) := rfl

theorem noDigit_zone : NoDigit ['Z'] := by
  intro c hc
  obtain rfl : 'Z' = c := Option.some.inj hc
  decide

-- =========================================================== pieces

/-- What pieces are put together to, where they are of a possible date and time in
universal time. -/
theorem Pieces.instant_of {p : Pieces} {t : Instant} {s : Nat}
    (hyear : -262143 ≤ p.year ∧ p.year ≤ 262142) (hdate : Date.Valid ⟨p.year, p.month, p.day⟩)
    (hoffset : p.offset = 0)
    (hsplit : (if p.second = 60 then (59, p.nanos + Time.second) else (p.second, p.nanos))
      = (s, t.nanos))
    (hseconds : Date.number ⟨p.year, p.month, p.day⟩ * 86400
      + (p.hour * 3600 + p.minute * 60 + s : Nat) = t.seconds)
    (hrange : Instant.inRange t.seconds = true) : p.instant = .ok t := by
  have hout : ¬ (p.year < -262143 ∨ 262142 < p.year ∨ ¬ Date.Valid ⟨p.year, p.month, p.day⟩) := by
    simp only [hdate, not_true_eq_false, or_false]
    omega
  unfold Pieces.instant
  rw [if_neg hout, hoffset]
  simp only [bind, Except.bind, pure, Except.pure, hsplit, hseconds, Int.sub_zero]
  rw [if_neg (by decide), if_pos hrange]

namespace Instant

/-- The nanoseconds of the second that an instant lies in. -/
def nanosOfSecond (t : Instant) : Nat := if second ≤ t.nanos then t.nanos - second else t.nanos

/-- What an instant is written as. -/
def pieces (t : Instant) : Pieces :=
  ⟨t.date.year, t.date.month, t.date.day, t.clock / 3600, t.clock / 60 % 60, t.minuteSecond,
    t.nanosOfSecond, 0⟩

/-- The second of the minute tells whether it is a leap second. -/
theorem Valid.minuteSecond_split {t : Instant} (ht : t.Valid) :
    (if t.minuteSecond = 60 then (59, t.nanosOfSecond + second)
      else (t.minuteSecond, t.nanosOfSecond)) = (t.clock % 60, t.nanos) := by
  have hleap : second ≤ t.nanos → t.clock % 60 = 59 := by
    intro h
    have := ht.leap h
    unfold clock
    omega
  unfold minuteSecond nanosOfSecond
  by_cases h : second ≤ t.nanos
  · rw [if_pos h, if_pos h, hleap h, if_pos rfl, Nat.sub_add_cancel h]
  · rw [if_neg h, if_neg h, Nat.add_zero, if_neg (by omega)]

/-- The pieces of an instant are put together to it. -/
theorem Valid.pieces_instant {t : Instant} (ht : t.Valid) (hrange : inRange t.seconds = true) :
    t.pieces.instant = .ok t := by
  have hclock : (t.clock : Int) = t.seconds - t.seconds / 86400 * 86400 := by
    unfold clock
    omega
  have hparts := t.clock_eq
  have hnumber : t.date.number = t.seconds / 86400 := Date.number_ofNumber _
  refine Pieces.instant_of (t.inRange_iff.mp hrange) (Date.valid_ofNumber _) rfl
    ht.minuteSecond_split ?_ hrange
  rw [show (⟨t.pieces.year, t.pieces.month, t.pieces.day⟩ : Date).number = _ from hnumber]
  show t.seconds / 86400 * 86400
    + (t.clock / 3600 * 3600 + t.clock / 60 % 60 * 60 + t.clock % 60 : Nat) = t.seconds
  omega

/-- The fields of an instant lie within the bounds that they are read with. -/
theorem bounds (t : Instant) :
    (1 ≤ t.date.month ∧ t.date.month ≤ 12) ∧ (1 ≤ t.date.day ∧ t.date.day ≤ 31)
      ∧ t.clock / 3600 ≤ 23 ∧ t.clock / 60 % 60 ≤ 59 ∧ t.minuteSecond ≤ 60 := by
  have hdate : t.date.Valid := Date.valid_ofNumber _
  obtain ⟨hmonth, hmonth', hday, hday'⟩ := hdate
  have hlength : monthLength t.date.year t.date.month ≤ 31 := by
    unfold monthLength
    split
    next => split <;> omega
    all_goals omega
  have hclock : t.clock < 86400 := by
    unfold clock
    omega
  have hsecond : t.minuteSecond ≤ 60 := by
    unfold minuteSecond
    split <;> omega
  exact ⟨⟨hmonth, hmonth'⟩, ⟨hday, by omega⟩, by omega, by omega, hsecond⟩

-- ==================================================== stored texts

/-- The pieces of a stored text are those of the full microsecond. -/
theorem pieces_truncate (t : Instant) :
    t.truncate.pieces = { t.pieces with nanos := t.micros * 1000 } := by
  have hleap : second ≤ t.nanos / 1000 * 1000 ↔ second ≤ t.nanos := by
    unfold second
    omega
  unfold pieces minuteSecond nanosOfSecond micros
  simp only [truncate, hleap, Pieces.mk.injEq]
  refine ⟨rfl, rfl, rfl, rfl, rfl, rfl, ?_, trivial⟩
  unfold second
  split
  next => omega
  next => rfl

theorem Valid.truncate {t : Instant} (ht : t.Valid) : t.truncate.Valid := by
  have hle : t.truncate.nanos ≤ t.nanos := Nat.div_mul_le_self _ _
  exact ⟨Nat.lt_of_le_of_lt hle ht.nanos, fun h => ht.leap (Nat.le_trans h hle)⟩

/-- A stored text with a year of four digits is read as the full microsecond that it
was written for. -/
theorem ofStored_stored {t : Instant} (ht : t.Valid)
    (hyear : 0 ≤ t.date.year ∧ t.date.year ≤ 9999) : ofStored t.stored = .ok t.truncate := by
  obtain ⟨hmonths, hdays, hhours, hminutes, hseconds⟩ := t.bounds
  obtain ⟨hmonth, hday, hhour, hminute, hsecond, hmicros⟩ := ht.fits
  have hyear4 : t.date.year.natAbs < 10 ^ 4 := by omega
  have hrange : inRange t.truncate.seconds = true := t.truncate.inRange_iff.mpr (by
    change -262143 ≤ t.date.year ∧ t.date.year ≤ 262142
    omega)
  unfold ofStored
  rw [stored_toList, yearField, yearText_eq, yearSign, if_pos hyear, fields]
  simp only [List.append_assoc, List.cons_append, List.nil_append, bind, Except.bind,
    number_padded (by decide : 0 < 4) hyear4 (by omega), literal_cons,
    within_padded hmonths.1 hmonths.2 hmonth, within_padded hdays.1 hdays.2 hday, divider_cons,
    within_padded (Nat.zero_le _) hhours hhour, within_padded (Nat.zero_le _) hminutes hminute,
    within_padded (Nat.zero_le _) hseconds hsecond,
    fraction_padded (by decide : 0 < 6) (by decide : 6 + 3 = 9) hmicros noDigit_zone, offset_zone]
  rw [if_neg (by decide), if_neg (by decide)]
  have hpieces := ht.truncate.pieces_instant hrange
  rw [pieces_truncate, pieces] at hpieces
  rw [show ((t.date.year.natAbs : Nat) : Int) = t.date.year by omega]
  exact hpieces

/-- The sign of any other year is no digit, so nothing is read. -/
theorem ofStored_stored_of_not_four_digits {t : Instant}
    (hyear : ¬ (0 ≤ t.date.year ∧ t.date.year ≤ 9999)) : ∃ e, ofStored t.stored = .error e := by
  have hsign : ∃ c cs, t.stored.toList = c :: cs ∧ isDigit c = false := by
    rw [stored_toList, yearField_sign hyear]
    refine ⟨_, _, rfl, ?_⟩
    split <;> decide
  obtain ⟨c, cs, hcs, hc⟩ := hsign
  unfold ofStored number
  rw [hcs, List.take_succ_cons, List.takeWhile_cons_of_neg (by simp [hc])]
  simp only [List.length_nil, bind, Except.bind]
  rw [if_pos (by decide)]
  exact ⟨_, rfl⟩

-- ===================================================== shown texts

/-- A digit is no blank. -/
theorem isBlank_of_isDigit {c : Char} (hc : isDigit c = true) : Text.isBlank c = false := by
  unfold Decimal.isDigit Decimal.digit? at hc
  split at hc
  next h =>
    have hlow : 48 ≤ c.toNat := h.1
    have hhigh : c.toNat ≤ 57 := h.2
    unfold Text.isBlank
    simp only [Bool.or_eq_false_iff, Bool.and_eq_false_iff, decide_eq_false_iff_not,
      beq_eq_false_iff_ne]
    omega
  next => cases hc

theorem trimStart_cons {c : Char} (hc : Text.isBlank c = false) (cs : List Char) :
    Text.trimStart (c :: cs) = c :: cs :=
  List.dropWhile_cons_of_neg (by simp [hc])

theorem trimStart_padded (w n : Nat) (rest : List Char) :
    Text.trimStart (padded w n ++ rest) = padded w n ++ rest := by
  obtain ⟨c, cs, hcs, hc⟩ := exists_padded_cons w n
  rw [hcs, List.cons_append, trimStart_cons (isBlank_of_isDigit hc)]

/-- A field that may have one digit only is read. -/
theorem shortNumber_padded {low high : Nat} (hlow : low ≤ n) (hhigh : n ≤ high)
    (hn : n < 10 ^ 2) : shortNumber low high (padded 2 n ++ rest) = .ok (n, rest) := by
  have hread := number_digits 1 2 rest (isDigit_padded 2 n)
    (by rw [length_padded (by decide) hn]; decide) (.inl (length_padded (by decide) hn))
    (by rw [ofDigits_padded]; omega)
  rw [ofDigits_padded] at hread
  unfold shortNumber within
  rw [trimStart_padded, hread]
  simp only [bind, Except.bind]
  rw [if_pos ⟨hlow, hhigh⟩]
  rfl

theorem looseLiteral_cons {c : Char} (hc : Text.isBlank c = false) (cs : List Char) :
    looseLiteral c (c :: cs) = .ok cs := by
  rw [looseLiteral, trimStart_cons hc, literal_cons]

/-- A year that has more digits than it needs is read up to the hyphen after it. -/
theorem number_year {most : Nat} (hmost : (padded 4 n).length ≤ most) (hn : n ≤ 262143) :
    number 1 most (padded 4 n ++ '-' :: rest) = .ok (n, '-' :: rest) := by
  have hhyphen : NoDigit ('-' :: rest) := by
    intro c hc
    obtain rfl : '-' = c := Option.some.inj hc
    decide
  have hsome : 1 ≤ (padded 4 n).length := by
    obtain ⟨c, cs, hcs, -⟩ := exists_padded_cons 4 n
    rw [hcs]
    exact Nat.succ_le_succ (Nat.zero_le _)
  have hread := number_digits 1 most ('-' :: rest) (isDigit_padded 4 n) hsome
    (.inr ⟨hmost, hhyphen⟩) (by rw [ofDigits_padded]; omega)
  rwa [ofDigits_padded] at hread

/-- Every year of the range is read, with and without a sign. -/
theorem signedYear_yearField {y : Int} (hlow : -262143 ≤ y) (hhigh : y ≤ 262142) :
    signedYear (yearField y ++ rest) = .ok (y, '-' :: rest) := by
  by_cases hfour : 0 ≤ y ∧ y ≤ 9999
  · have hread : number 1 4 (padded 4 y.natAbs ++ '-' :: rest) = .ok (y.natAbs, '-' :: rest) :=
      number_year (length_padded (by decide) (by omega)).le (by omega)
    obtain ⟨c, cs, hcs, hc⟩ := exists_padded_cons 4 y.natAbs
    unfold signedYear
    rw [yearField, yearText_eq, yearSign, if_pos hfour, List.nil_append, List.append_assoc,
      List.singleton_append, trimStart_padded]
    rw [hcs, List.cons_append] at hread ⊢
    split
    next heq =>
      injection heq with heq _
      rw [heq] at hc
      cases hc
    next heq =>
      injection heq with heq _
      rw [heq] at hc
      cases hc
    next =>
      rw [hread]
      simp only [bind, Except.bind, pure, Except.pure]
      rw [show ((y.natAbs : Nat) : Int) = y by omega]
  · have hread : number 1 (padded 4 y.natAbs ++ '-' :: rest).length
        (padded 4 y.natAbs ++ '-' :: rest) = .ok (y.natAbs, '-' :: rest) :=
      number_year (by simp) (by omega)
    unfold signedYear
    rw [yearField_sign hfour, List.cons_append, List.append_assoc, List.singleton_append]
    by_cases hneg : y < 0
    · rw [if_pos hneg, trimStart_cons (by decide)]
      simp only [bind, Except.bind, pure, Except.pure, hread]
      rw [if_neg (by omega), show -((y.natAbs : Nat) : Int) = y by omega]
    · rw [if_neg hneg, trimStart_cons (by decide)]
      simp only [bind, Except.bind, pure, Except.pure, hread]
      rw [if_neg (by omega), show ((y.natAbs : Nat) : Int) = y by omega]

/-- A fraction is read, however many digits it is written with. -/
theorem fraction_short (hn : n < second) :
    fraction (shortFraction n ++ ['Z']) = .ok (n, ['Z']) := by
  unfold second at hn
  unfold shortFraction
  split
  next h =>
    rw [h]
    rfl
  next =>
    split
    next h =>
      rw [List.cons_append, fraction_padded (by decide : 0 < 3) (by decide : 3 + 6 = 9) (by omega)
        noDigit_zone, show n / 1000000 * 10 ^ 6 = n by omega]
    next =>
      split
      next h =>
        rw [List.cons_append, fraction_padded (by decide : 0 < 6) (by decide : 6 + 3 = 9) (by omega)
          noDigit_zone, show n / 1000 * 10 ^ 3 = n by omega]
      next =>
        rw [List.cons_append, fraction_padded (by decide : 0 < 9) (by decide : 9 + 0 = 9) (by omega)
          noDigit_zone, Nat.pow_zero, Nat.mul_one]

/-- The shown text of an instant, up to the brackets. -/
theorem text_toList (t : Instant) : t.text.toList
    = yearField t.date.year ++ (padded 2 t.date.month ++ '-' :: (padded 2 t.date.day
      ++ 'T' :: (padded 2 (t.clock / 3600) ++ ':' :: (padded 2 (t.clock / 60 % 60)
      ++ ':' :: (padded 2 t.minuteSecond ++ (shortFraction t.nanosOfSecond ++ ['Z'])))))) := by
  unfold text write
  rw [String.toList_ofList]
  simp only [decide_eq_true_eq, List.append_assoc, List.cons_append, yearField, List.nil_append]
  rfl

/-- A shown text is read as the instant that it shows. -/
theorem ofText_text {t : Instant} (ht : t.Valid) (hrange : inRange t.seconds = true) :
    ofText t.text = .ok t := by
  obtain ⟨hmonths, hdays, hhours, hminutes, hseconds⟩ := t.bounds
  obtain ⟨hmonth, hday, hhour, hminute, hsecond, -⟩ := ht.fits
  obtain ⟨hlow, hhigh⟩ := t.inRange_iff.mp hrange
  have hnanos : t.nanosOfSecond < second := by
    have := ht.nanos
    unfold nanosOfSecond
    split <;> omega
  have hzone : looseOffset (Text.trimStart ['Z']) = .ok (0, []) := rfl
  have hend : ¬ ¬ (Text.trimStart []).isEmpty = true := by decide
  unfold ofText
  rw [text_toList]
  simp only [bind, Except.bind, signedYear_yearField hlow hhigh,
    looseLiteral_cons (by decide : Text.isBlank '-' = false),
    looseLiteral_cons (by decide : Text.isBlank ':' = false), divider_cons,
    shortNumber_padded hmonths.1 hmonths.2 hmonth, shortNumber_padded hdays.1 hdays.2 hday,
    shortNumber_padded (Nat.zero_le _) hhours hhour,
    shortNumber_padded (Nat.zero_le _) hminutes hminute,
    shortNumber_padded (Nat.zero_le _) hseconds hsecond, fraction_short hnanos, hzone]
  rw [if_neg hend]
  exact ht.pieces_instant hrange

end Instant

end DurableWorkflow.Time
