/-
Days and dates of the Gregorian calendar, extended without end in both
directions. Days are counted from 1970-01-01. Inside, a year begins in March, so
that the leap day is its last day and the months before it have a fixed pattern
of lengths; years come in groups of 400 with 146097 days each.
-/

namespace DurableWorkflow.Time

/-- A calendar date. -/
structure Date where
  year : Int
  month : Nat
  day : Nat
deriving DecidableEq, Repr

/-- Whether a year has a leap day. -/
def isLeap (year : Int) : Bool :=
  year % 4 = 0 && (year % 100 ≠ 0 || year % 400 = 0)

/-- The number of days of a month. -/
def monthLength (year : Int) (month : Nat) : Nat :=
  match month with
  | 2 => if isLeap year then 29 else 28
  | 4 => 30
  | 6 => 30
  | 9 => 30
  | 11 => 30
  | _ => 31

/-- A date of the calendar. -/
def Date.Valid (d : Date) : Prop :=
  1 ≤ d.month ∧ d.month ≤ 12 ∧ 1 ≤ d.day ∧ d.day ≤ monthLength d.year d.month

instance (d : Date) : Decidable d.Valid := by unfold Date.Valid; infer_instance

/-- The days from the beginning of a group of 400 years to the beginning of one
of its years. -/
def yearStart (yearOfGroup : Int) : Int :=
  yearOfGroup * 365 + yearOfGroup / 4 - yearOfGroup / 100

/-- The number of a date, counted from 1970-01-01. -/
def Date.number (d : Date) : Int :=
  let year := if d.month ≤ 2 then d.year - 1 else d.year
  let group := year / 400
  let month : Int := if d.month ≤ 2 then d.month + 9 else d.month - 3
  let dayOfYear := (153 * month + 2) / 5 + d.day - 1
  group * 146097 + yearStart (year - group * 400) + dayOfYear - 719468

/-- The date with a number. -/
def Date.ofNumber (n : Int) : Date :=
  let shifted := n + 719468
  let group := shifted / 146097
  let dayOfGroup := shifted - group * 146097
  let yearOfGroup :=
    (dayOfGroup - dayOfGroup / 1460 + dayOfGroup / 36524 - dayOfGroup / 146096) / 365
  let dayOfYear := dayOfGroup - yearStart yearOfGroup
  let month := (5 * dayOfYear + 2) / 153
  let day := dayOfYear - (153 * month + 2) / 5 + 1
  let early := decide (month < 10)
  ⟨group * 400 + yearOfGroup + (if early then 0 else 1),
    (if early then month + 3 else month - 9).toNat, day.toNat⟩

end DurableWorkflow.Time
