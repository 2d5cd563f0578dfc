/-
The hour before an instant, and lists of instants each of which was admitted
because the hour before it was not full.

Such a list has no fuller hour than that, wherever the hour is looked at
(`Admitted.count_le`). It is enough to look at the last instant in the hour: the
others are in the hour before it, too, and were counted when it was admitted.

# Leap seconds

That step needs that of two instants the later one has the later hour before it.
Hours are counted without leap seconds, so the hour before a time within a leap
second begins where the hour before the same fraction of the next second begins. An
instant early in that next second thus has an hour before it that began sooner than
the hour before a time late in the leap second (`Outruns`), and what was admitted in
each of the two may be more than either holds.
-/
import DurableWorkflow.Proofs.Time.Stamps

namespace DurableWorkflow.Time.Instant

variable {a b t : Instant}

-- ========================================================= the hour

/-- The instant an hour earlier; leap seconds are not counted. -/
def backAnHour (t : Instant) : Instant :=
  ⟨t.seconds + (if second ≤ t.nanos then 1 else 0) - 3600, t.nanos % second⟩

/-- Within the hour before an instant, which includes the instant itself. -/
def InHourBefore (t a : Instant) : Prop := a.le t ∧ ¬ a.le t.backAnHour

instance (t a : Instant) : Decidable (t.InHourBefore a) := inferInstanceAs (Decidable (_ ∧ _))

/-- A time within a leap second, and an instant in the second after it that has not
come as far in its own second. -/
def Outruns (t a : Instant) : Prop :=
  second ≤ a.nanos ∧ t.seconds = a.seconds + 1 ∧ t.nanos + second < a.nanos

instance (t a : Instant) : Decidable (t.Outruns a) := inferInstanceAs (Decidable (_ ∧ _))

/-- An hour is taken away, where that does not lead out of the range. -/
theorem addSeconds_back (ht : t.Valid) :
    t.addSeconds (-3600)
      = if inRange t.backAnHour.seconds = true then some t.backAnHour else none := by
  have hnanos := ht.nanos
  unfold addSeconds shift backAnHour
  unfold second at *
  by_cases hleap : 1000000000 ≤ t.nanos
  · have hlow : ¬ (t.nanos : Int) - (1000000000 : Nat) + 0 < 0 := by omega
    have hhigh : ¬ ((1000000000 : Nat) : Int) ≤ (t.nanos : Int) - (1000000000 : Nat) + 0 := by omega
    rw [if_pos hleap, if_neg (by omega), if_pos (by omega), if_pos hleap]
    simp only [hlow, hhigh, if_false]
    rw [show ((t.nanos : Int) - (1000000000 : Nat) + 0).toNat = t.nanos % 1000000000 by omega,
      show t.seconds + 1 + -3600 = t.seconds + 1 - 3600 by omega]
  · have hlow : ¬ (t.nanos : Int) + 0 < 0 := by omega
    have hhigh : ¬ ((1000000000 : Nat) : Int) ≤ (t.nanos : Int) + 0 := by omega
    rw [if_neg hleap, if_neg hleap]
    simp only [hlow, hhigh, if_false]
    rw [show ((t.nanos : Int) + 0).toNat = t.nanos % 1000000000 by omega,
      show t.seconds + -3600 = t.seconds + 0 - 3600 by omega]

/-- An hour before is not within a leap second. -/
theorem valid_backAnHour (t : Instant) : t.backAnHour.Valid := by
  have hlt : t.backAnHour.nanos < second := Nat.mod_lt _ (by decide)
  exact ⟨by omega, fun h => absurd h (by omega)⟩

/-- The hour before an instant of the years 1 to 9999 begins in a year of four
digits. -/
theorem year_backAnHour (h : 1 ≤ t.date.year ∧ t.date.year ≤ 9999) :
    0 ≤ t.backAnHour.date.year ∧ t.backAnHour.date.year ≤ 9999 := by
  have hfirst := Date.le_year_iff 1 (t.seconds / 86400)
  rw [show Date.number ⟨1, 1, 1⟩ = -719162 by decide] at hfirst
  change 1 ≤ t.date.year ↔ _ at hfirst
  have hrange := t.four_digits_iff.mp ⟨by omega, h.2⟩
  rw [four_digits_iff]
  unfold backAnHour
  dsimp only
  split <;> omega

/-- A year of four digits lies in the range of instants. -/
theorem inRange_of_year (h : 0 ≤ t.date.year ∧ t.date.year ≤ 9999) : inRange t.seconds = true :=
  t.inRange_iff.mpr (by omega)

-- ==================================================== order of hours

theorem le_trans {c : Instant} (hab : a.le b) (hbc : b.le c) : a.le c := by
  unfold le at *
  omega

theorem truncate_le (t : Instant) : t.truncate.le t :=
  .inr ⟨rfl, Nat.div_mul_le_self _ _⟩

/-- Cutting an instant to the microsecond does not bring it before a full
microsecond. -/
theorem truncate_le_truncate_iff : a.truncate.le b.truncate ↔ a.truncate.le b := by
  unfold le truncate
  dsimp only
  omega

/-- An instant and its hour before are cut alike. -/
theorem backAnHour_truncate (t : Instant) : t.truncate.backAnHour = t.backAnHour.truncate := by
  unfold backAnHour truncate second
  simp only [mk.injEq]
  constructor
  · split <;> split <;> omega
  · omega

/-- Of two instants the later one has the later hour before it, unless it outruns the
other one. -/
theorem backAnHour_le (ha : a.Valid) (hb : b.Valid) (h : a.le b) (hout : ¬ b.Outruns a) :
    a.backAnHour.le b.backAnHour := by
  have han := ha.nanos
  have hbn := hb.nanos
  have hal := ha.leap
  have hbl := hb.leap
  unfold le Outruns backAnHour at *
  unfold second at *
  dsimp only
  split <;> split <;> omega

-- ================================================= admitted instants

/-- Instants of which each found fewer than a limit in the hour before it, all of them
cut to the microsecond. -/
inductive Admitted (limit : Nat) : List Instant → Prop
  | nil : Admitted limit []
  | snoc {ts : List Instant} {t : Instant} (h : Admitted limit ts)
    (hcount : (ts.countP fun a => decide (¬ a.truncate.le t.backAnHour)) < limit) :
    Admitted limit (ts ++ [t])

/-- In no hour there are more than were admitted in one, unless the end of the hour
outruns one of them. -/
theorem Admitted.count_le {limit : Nat} {ts : List Instant} (h : Admitted limit ts)
    (hts : ∀ a ∈ ts, a.Valid) (ht : t.Valid) (hout : ∀ a ∈ ts, ¬ t.Outruns a.truncate) :
    (ts.countP fun a => decide (t.InHourBefore a.truncate)) ≤ limit := by
  induction h with
  | nil => exact Nat.zero_le _
  | @snoc ts last h hcount ih =>
      have hmem : ∀ a ∈ ts, a ∈ ts ++ [last] := fun a ha => List.mem_append_left _ ha
      have hlast : last ∈ ts ++ [last] := List.mem_append_right _ (List.mem_singleton_self _)
      rw [List.countP_append, List.countP_singleton]
      split
      next hin =>
        -- what is in this hour was in the hour before the last one, too
        obtain ⟨hle, -⟩ := of_decide_eq_true hin
        have hback : last.truncate.backAnHour.le t.backAnHour :=
          backAnHour_le (hts last hlast).truncate ht hle (hout last hlast)
        rw [backAnHour_truncate] at hback
        have hmono : (ts.countP fun a => decide (t.InHourBefore a.truncate))
            ≤ ts.countP fun a => decide (¬ a.truncate.le last.backAnHour) := by
          refine List.countP_mono_left fun a _ ha => ?_
          obtain ⟨-, hafter⟩ := of_decide_eq_true ha
          refine decide_eq_true fun hbefore => hafter ?_
          exact le_trans (truncate_le_truncate_iff.mpr hbefore) hback
        omega
      next => exact ih (fun a ha => hts a (hmem a ha)) fun a ha => hout a (hmem a ha)

end DurableWorkflow.Time.Instant
