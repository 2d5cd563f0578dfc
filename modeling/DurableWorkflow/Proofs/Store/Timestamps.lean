/-
Times as the tables hold them. A time is stored as a text, tables compare texts byte by
byte, and what is read back is cut to the microsecond. For the years 0000 to 9999 all of
this agrees with the times themselves (`stored_order`): a listing by the text is a listing
by the time, and nothing but the rest of a microsecond is lost.

The instants are those that clocks show. Every instant that is read from a text is one
(`Instant.valid_of_ofText`, `Instant.valid_of_ofStored`); a leap second at any other place
than the end of a minute would be written like the second after it.
-/
import DurableWorkflow.Proofs.Text.Bytes
import DurableWorkflow.Proofs.Time.Stamps
import DurableWorkflow.Store.Row

namespace DurableWorkflow.Store

open Time (Instant)

variable {a b t : Instant}

/-- A stored time of a year of four digits is read back, cut to the microsecond. -/
theorem readInstant_of_four_digits (ht : t.Valid) (hyear : 0 ≤ t.date.year ∧ t.date.year ≤ 9999) :
    readInstant t.stored = t.truncate := by
  unfold readInstant
  rw [Instant.ofStored_stored ht hyear]

/-- Stored times stand in the order of the times, cut to the microsecond. -/
theorem stored_le_iff_of_four_digits (ha : a.Valid) (hb : b.Valid)
    (hyear : 0 ≤ a.date.year ∧ a.date.year ≤ 9999)
    (hyear' : 0 ≤ b.date.year ∧ b.date.year ≤ 9999) :
    a.stored ≤ b.stored ↔ a.truncate.le b.truncate :=
  (Instant.stored_le_iff_truncate_le ha hb).mpr (Time.yearsInOrder_of_four_digits hyear' hyear)

theorem stored_lt_iff_of_four_digits (ha : a.Valid) (hb : b.Valid)
    (hyear : 0 ≤ a.date.year ∧ a.date.year ≤ 9999)
    (hyear' : 0 ≤ b.date.year ∧ b.date.year ≤ 9999) :
    a.stored < b.stored ↔ ¬ b.truncate.le a.truncate := by
  rw [← String.not_le, stored_le_iff_of_four_digits hb ha hyear' hyear]

/-- Two times are stored alike exactly if nothing but the rest of a microsecond tells them
apart: what is read back is told by the text, and the text by its order. -/
theorem stored_eq_iff_of_four_digits (ha : a.Valid) (hb : b.Valid)
    (hyear : 0 ≤ a.date.year ∧ a.date.year ≤ 9999)
    (hyear' : 0 ≤ b.date.year ∧ b.date.year ≤ 9999) :
    a.stored = b.stored ↔ a.truncate = b.truncate := by
  constructor
  · intro h
    rw [← readInstant_of_four_digits ha hyear, h, readInstant_of_four_digits hb hyear']
  · intro h
    have hrefl : a.truncate.le a.truncate := .inr ⟨rfl, Nat.le_refl _⟩
    apply Std.le_antisymm
    · rwa [stored_le_iff_of_four_digits ha hb hyear hyear', ← h]
    · rwa [stored_le_iff_of_four_digits hb ha hyear' hyear, ← h]

/-- Stored times. Of two instants in years of four digits one is stored with the lesser
bytes exactly if it is the earlier of the two when both are cut to the microsecond, they
are stored alike exactly if they are then the same, and what is read back of an instant is
the instant, cut to the microsecond. -/
theorem stored_order (ha : a.Valid) (hb : b.Valid) (hyear : 0 ≤ a.date.year ∧ a.date.year ≤ 9999)
    (hyear' : 0 ≤ b.date.year ∧ b.date.year ≤ 9999) :
    (Text.utf8 a.stored < Text.utf8 b.stored ↔ ¬ b.truncate.le a.truncate) ∧
    (a.stored = b.stored ↔ a.truncate = b.truncate) ∧
    readInstant a.stored = a.truncate := by
  refine ⟨?_, stored_eq_iff_of_four_digits ha hb hyear hyear', readInstant_of_four_digits ha hyear⟩
  rw [Text.utf8_lt_iff, stored_lt_iff_of_four_digits ha hb hyear hyear']

/-- The leap second at the end of the year 2016 is stored before the year 2017, and read
back as a leap second. -/
theorem stored_order_leap :
    (⟨1483228799, 1999999999⟩ : Instant).Valid ∧ (⟨1483228800, 0⟩ : Instant).Valid ∧
      Text.utf8 (⟨1483228799, 1999999999⟩ : Instant).stored
        < Text.utf8 (⟨1483228800, 0⟩ : Instant).stored ∧
      (⟨1483228799, 1999999999⟩ : Instant).stored ≠ (⟨1483228800, 0⟩ : Instant).stored ∧
      readInstant (⟨1483228799, 1999999999⟩ : Instant).stored = ⟨1483228799, 1999999000⟩ := by
  have hleap : (⟨1483228799, 1999999999⟩ : Instant).Valid := by decide
  have hnext : (⟨1483228800, 0⟩ : Instant).Valid := by decide
  obtain ⟨hlt, heq, hread⟩ := stored_order hleap hnext (by decide) (by decide)
  refine ⟨hleap, hnext, hlt.mpr (by decide), fun h => ?_, hread⟩
  exact absurd (heq.mp h) (by decide)

end DurableWorkflow.Store
