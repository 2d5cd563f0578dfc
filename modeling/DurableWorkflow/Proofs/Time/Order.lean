/-
The order of stored instants as texts. Within a year it is the order of time: all
that follows the year has fixed width. Between years it is the order of the texts
of the years, and that is the order of the years as long as these have four digits
(`yearsInOrder_of_four_digits`). A later year is written with a sign that stands
before all digits, so the text of an instant in it stands before the text of every
instant up to the year 9999 (`stored_lt_of_beyond`).

So whether texts and instants stand in the same order is a question about two
years (`stored_le_iff_truncate_le`).
-/
import DurableWorkflow.Proofs.Time.Calendar
import DurableWorkflow.Proofs.Time.Fields

namespace DurableWorkflow.Time

open Decimal (isDigit)

-- ============================================================= years

/-- A year as it stands in a text, with the hyphen that ends it. -/
def yearField (y : Int) : List Char := yearText y ++ ['-']

/-- Whether two years stand in a text in their order. -/
def YearsInOrder (y z : Int) : Prop := yearField y < yearField z ↔ y < z

/-- The sign of a year. -/
def yearSign (y : Int) : List Char := if 0 ≤ y ∧ y ≤ 9999 then [] else [if y < 0 then '-' else '+']

theorem yearText_eq (y : Int) : yearText y = yearSign y ++ padded 4 y.natAbs := by
  unfold yearText yearSign
  split
  next h => rw [List.nil_append, show y.toNat = y.natAbs by omega]
  next => rw [List.singleton_append]

/-- A year of four digits begins with a digit. -/
theorem yearField_head {y : Int} (h : 0 ≤ y ∧ y ≤ 9999) :
    ∃ c cs, yearField y = c :: cs ∧ isDigit c = true := by
  obtain ⟨c, cs, hcs, hc⟩ := exists_padded_cons 4 y.natAbs
  refine ⟨c, cs ++ ['-'], ?_, hc⟩
  rw [yearField, yearText_eq, yearSign, if_pos h, List.nil_append, hcs, List.cons_append]

/-- Any other year begins with its sign. -/
theorem yearField_sign {y : Int} (h : ¬ (0 ≤ y ∧ y ≤ 9999)) :
    yearField y = (if y < 0 then '-' else '+') :: (padded 4 y.natAbs ++ ['-']) := by
  rw [yearField, yearText_eq, yearSign, if_neg h, List.singleton_append, List.cons_append]

/-- A year is told by its text, and by nothing less. -/
theorem eq_of_prefix_yearField {y z : Int} (h : yearField y <+: yearField z) : y = z := by
  have hdigits : ∀ {a b : Nat}, padded 4 a ++ ['-'] <+: padded 4 b ++ ['-'] → a = b := by
    intro a b hab
    have heq := eq_of_prefix_digits (isDigit_padded 4 a) (isDigit_padded 4 b) hab
    rw [← ofDigits_padded 4 a, heq, ofDigits_padded]
  by_cases hy : 0 ≤ y ∧ y ≤ 9999
  · by_cases hz : 0 ≤ z ∧ z ≤ 9999
    · rw [yearField, yearField, yearText_eq, yearText_eq, yearSign, yearSign, if_pos hy, if_pos hz,
        List.nil_append, List.nil_append] at h
      have := hdigits h
      omega
    · obtain ⟨c, cs, hcs, hc⟩ := yearField_head hy
      rw [hcs, yearField_sign hz] at h
      rw [(List.cons_prefix_cons.mp h).1] at hc
      split at hc <;> cases hc
  · by_cases hz : 0 ≤ z ∧ z ≤ 9999
    · obtain ⟨c, cs, hcs, hc⟩ := yearField_head hz
      rw [hcs, yearField_sign hy] at h
      rw [← (List.cons_prefix_cons.mp h).1] at hc
      split at hc <;> cases hc
    · rw [yearField_sign hy, yearField_sign hz] at h
      obtain ⟨hsign, hrest⟩ := List.cons_prefix_cons.mp h
      have := hdigits hrest
      by_cases hneg : y < 0
      · by_cases hneg' : z < 0
        · omega
        · rw [if_pos hneg, if_neg hneg'] at hsign
          cases hsign
      · by_cases hneg' : z < 0
        · rw [if_neg hneg, if_pos hneg'] at hsign
          cases hsign
        · omega

/-- Years of four digits stand in their order. -/
theorem yearsInOrder_of_four_digits {y z : Int} (hy : 0 ≤ y ∧ y ≤ 9999) (hz : 0 ≤ z ∧ z ≤ 9999) :
    YearsInOrder y z := by
  have hirrefl : ¬ ['-'] < ['-'] := List.lt_irrefl _
  unfold YearsInOrder yearField
  rw [yearText_eq, yearText_eq, yearSign, yearSign, if_pos hy, if_pos hz, List.nil_append,
    List.nil_append, padded_lt_iff (by decide) (by omega) (by omega)]
  simp only [hirrefl, and_false, or_false]
  omega

/-- A year beyond four digits stands before every year that is not. -/
theorem yearField_lt_of_beyond {y z : Int} (hy : 9999 < y) (hz : z ≤ 9999) :
    yearField y < yearField z := by
  rw [yearField_sign (by omega), if_neg (by omega)]
  by_cases hneg : z < 0
  · rw [yearField_sign (by omega), if_pos hneg, List.cons_lt_cons_iff]
    exact .inl (by decide)
  · obtain ⟨c, cs, hcs, hc⟩ := yearField_head (y := z) (by omega)
    rw [hcs, List.cons_lt_cons_iff]
    refine .inl ?_
    have hlow : '0' ≤ c := by
      unfold Decimal.isDigit Decimal.digit? at hc
      split at hc
      next h => exact h.1
      next => cases hc
    exact Nat.lt_of_lt_of_le (by decide : ('+' : Char).toNat < ('0' : Char).toNat) hlow

-- ========================================================== instants

namespace Instant

/-- An instant as clocks show it: a leap second is the last of a minute. -/
structure Valid (t : Instant) : Prop where
  nanos : t.nanos < 2 * second
  leap : second ≤ t.nanos → t.seconds % 60 = 59

instance (t : Instant) : Decidable t.Valid :=
  decidable_of_iff (t.nanos < 2 * second ∧ (second ≤ t.nanos → t.seconds % 60 = 59))
    ⟨fun h => ⟨h.1, h.2⟩, fun h => ⟨h.nanos, h.leap⟩⟩

instance (a b : Instant) : Decidable (a.le b) := inferInstanceAs (Decidable (_ ∨ _))

/-- The date of an instant. -/
def date (t : Instant) : Date := .ofNumber (t.seconds / 86400)

/-- The seconds of its day that are over. -/
def clock (t : Instant) : Nat := (t.seconds - t.seconds / 86400 * 86400).toNat

/-- The second of its minute, which is the sixtieth in a leap second. -/
def minuteSecond (t : Instant) : Nat := t.clock % 60 + (if second ≤ t.nanos then 1 else 0)

/-- The microseconds of its second. -/
def micros (t : Instant) : Nat := (if second ≤ t.nanos then t.nanos - second else t.nanos) / 1000

/-- What follows the year in the stored text. -/
def fields (t : Instant) : List Char :=
  padded 2 t.date.month ++ '-' :: (padded 2 t.date.day ++ 'T' :: (padded 2 (t.clock / 3600)
    ++ ':' :: (padded 2 (t.clock / 60 % 60) ++ ':' :: (padded 2 t.minuteSecond
    ++ '.' :: (padded 6 t.micros ++ ['Z'])))))

theorem stored_toList (t : Instant) : t.stored.toList = yearField t.date.year ++ t.fields := by
  unfold stored write microFraction
  rw [String.toList_ofList]
  simp only [decide_eq_true_eq, List.append_assoc, List.cons_append, yearField, List.nil_append]
  rfl

variable {a b : Instant}

/-- The fields of valid instants have their widths. -/
theorem Valid.fits (h : a.Valid) : a.date.month < 10 ^ 2 ∧ a.date.day < 10 ^ 2
    ∧ a.clock / 3600 < 10 ^ 2 ∧ a.clock / 60 % 60 < 10 ^ 2 ∧ a.minuteSecond < 10 ^ 2
    ∧ a.micros < 10 ^ 6 := by
  obtain ⟨hm0, hm1, hd0, hd1⟩ := Date.valid_ofNumber (a.seconds / 86400)
  have hlength : monthLength a.date.year a.date.month ≤ 31 := by
    unfold monthLength
    split
    next => split <;> omega
    all_goals omega
  have hmonth : a.date.month ≤ 12 := hm1
  have hday : a.date.day ≤ monthLength a.date.year a.date.month := hd1
  have hclock : a.clock < 86400 := by
    unfold clock
    omega
  have hsecond : a.minuteSecond < 100 := by
    unfold minuteSecond
    split <;> omega
  have hmicros : a.micros < 1000000 := by
    have hnanos := h.nanos
    unfold second at hnanos
    unfold micros second
    split <;> omega
  exact ⟨by omega, by omega, by omega, by omega, hsecond, hmicros⟩

/-- The seconds of a day as hours, minutes and seconds. -/
theorem clock_eq (t : Instant) :
    t.clock = 3600 * (t.clock / 3600) + 60 * (t.clock / 60 % 60) + t.clock % 60 := by omega

/-- The fields of the time of day stand in the order of time. A leap second comes
after the second before it, because that is the last of its minute. -/
theorem clock_lt_iff (ha : a.Valid) (hb : b.Valid) :
    (a.clock / 3600 < b.clock / 3600 ∨ a.clock / 3600 = b.clock / 3600 ∧
      (a.clock / 60 % 60 < b.clock / 60 % 60 ∨ a.clock / 60 % 60 = b.clock / 60 % 60 ∧
        (a.minuteSecond < b.minuteSecond ∨ a.minuteSecond = b.minuteSecond ∧ a.micros < b.micros)))
      ↔ a.clock < b.clock ∨ a.clock = b.clock ∧ a.nanos / 1000 < b.nanos / 1000 := by
  have hleap : ∀ {t : Instant}, t.Valid → second ≤ t.nanos → t.clock % 60 = 59 := by
    intro t ht h
    have := ht.leap h
    unfold clock
    omega
  have haleap := hleap ha
  have hbleap := hleap hb
  have hac := a.clock_eq
  have hbc := b.clock_eq
  have ham : a.clock / 60 % 60 < 60 := Nat.mod_lt _ (by decide)
  have hbm : b.clock / 60 % 60 < 60 := Nat.mod_lt _ (by decide)
  have has : a.clock % 60 < 60 := Nat.mod_lt _ (by decide)
  have hbs : b.clock % 60 < 60 := Nat.mod_lt _ (by decide)
  have han := ha.nanos
  have hbn := hb.nanos
  unfold minuteSecond micros
  unfold second at *
  generalize a.clock / 3600 = ah, a.clock / 60 % 60 = am, a.clock % 60 = as at *
  generalize b.clock / 3600 = bh, b.clock / 60 % 60 = bm, b.clock % 60 = bs at *
  rw [hac, hbc]
  split <;> split <;> omega

/-- Within a year what follows the year stands in the order of time. -/
theorem fields_lt_iff (ha : a.Valid) (hb : b.Valid) (hyear : a.date.year = b.date.year) :
    a.fields < b.fields ↔ ¬ b.truncate.le a.truncate := by
  obtain ⟨ha1, ha2, ha3, ha4, ha5, ha6⟩ := ha.fits
  obtain ⟨hb1, hb2, hb3, hb4, hb5, hb6⟩ := hb.fits
  have hirrefl : ¬ ['Z'] < ['Z'] := List.lt_irrefl _
  unfold fields
  rw [padded_lt_iff (by decide) ha1 hb1, field_lt_iff _ (by decide) ha2 hb2,
    field_lt_iff _ (by decide) ha3 hb3, field_lt_iff _ (by decide) ha4 hb4,
    field_lt_iff _ (by decide) ha5 hb5, field_lt_iff _ (by decide) ha6 hb6]
  simp only [hirrefl, and_false, or_false]
  rw [clock_lt_iff ha hb]
  have haday : a.seconds = a.seconds / 86400 * 86400 + a.clock := by
    unfold clock
    omega
  have hbday : b.seconds = b.seconds / 86400 * 86400 + b.clock := by
    unfold clock
    omega
  have haclock : a.clock < 86400 := by
    unfold clock
    omega
  have hbclock : b.clock < 86400 := by
    unfold clock
    omega
  -- month and day tell the day, and the other fields what is over of it
  have hlt := Date.ofNumber_earlier_iff (m := a.seconds / 86400) (n := b.seconds / 86400)
  have hgt := Date.ofNumber_earlier_iff (m := b.seconds / 86400) (n := a.seconds / 86400)
  change a.date.Earlier b.date ↔ _ at hlt
  change b.date.Earlier a.date ↔ _ at hgt
  unfold Date.Earlier at hlt hgt
  unfold le truncate
  dsimp only
  rcases Int.lt_trichotomy (a.seconds / 86400) (b.seconds / 86400) with h | h | h
  · have := hlt.mpr h
    omega
  · have hdate : a.date = b.date := congrArg Date.ofNumber h
    rw [hdate]
    omega
  · have := hgt.mpr h
    omega

/-- Between years, stored texts stand in the order of the texts of the years. -/
theorem stored_lt_iff_of_ne (h : a.date.year ≠ b.date.year) :
    a.stored < b.stored ↔ yearField a.date.year < yearField b.date.year := by
  rw [String.lt_iff, stored_toList, stored_toList]
  exact append_lt_append_of_not_isPrefix (fun hp => h (eq_of_prefix_yearField hp))
    (fun hp => h (eq_of_prefix_yearField hp).symm)

/-- Within a year, stored texts stand in the order of time. -/
theorem stored_lt_iff_of_eq (ha : a.Valid) (hb : b.Valid) (h : a.date.year = b.date.year) :
    a.stored < b.stored ↔ ¬ b.truncate.le a.truncate := by
  rw [String.lt_iff, stored_toList, stored_toList, ← fields_lt_iff ha hb h, h,
    append_lt_append_iff rfl]
  have hirrefl : ¬ yearField b.date.year < yearField b.date.year := List.lt_irrefl _
  simp only [hirrefl, true_and, false_or]

/-- Between years, the order of time is that of the years. -/
theorem truncate_le_iff_of_ne (h : a.date.year ≠ b.date.year) :
    a.truncate.le b.truncate ↔ a.date.year < b.date.year := by
  have hlt := Date.ofNumber_earlier_iff (m := a.seconds / 86400) (n := b.seconds / 86400)
  have hgt := Date.ofNumber_earlier_iff (m := b.seconds / 86400) (n := a.seconds / 86400)
  change a.date.Earlier b.date ↔ _ at hlt
  change b.date.Earlier a.date ↔ _ at hgt
  unfold Date.Earlier at hlt hgt
  unfold le truncate
  dsimp only
  omega

/-- Stored texts stand in the order of time exactly when their years stand in their
order. -/
theorem stored_le_iff_truncate_le (ha : a.Valid) (hb : b.Valid) :
    (a.stored ≤ b.stored ↔ a.truncate.le b.truncate) ↔ YearsInOrder b.date.year a.date.year := by
  rw [← String.not_lt]
  unfold YearsInOrder
  by_cases h : a.date.year = b.date.year
  · rw [stored_lt_iff_of_eq hb ha h.symm, h]
    have hirrefl : ¬ yearField b.date.year < yearField b.date.year := List.lt_irrefl _
    simp only [Decidable.not_not, hirrefl, Int.lt_irrefl]
  · rw [stored_lt_iff_of_ne (Ne.symm h), truncate_le_iff_of_ne h]
    constructor
    · intro hiff
      have := not_congr hiff
      rw [Decidable.not_not] at this
      rw [this]
      omega
    · intro hiff
      rw [hiff]
      omega

/-- An instant after the year 9999 stands before all instants that are not, which are
earlier. -/
theorem stored_lt_of_beyond (ha : 9999 < a.date.year) (hb : b.date.year ≤ 9999) :
    a.stored < b.stored ∧ b.truncate.le a.truncate ∧ ¬ a.truncate.le b.truncate := by
  refine ⟨(stored_lt_iff_of_ne (by omega)).mpr (yearField_lt_of_beyond ha hb), ?_, ?_⟩
  · rw [truncate_le_iff_of_ne (by omega)]
    omega
  · rw [truncate_le_iff_of_ne (by omega)]
    omega

end Instant

end DurableWorkflow.Time
