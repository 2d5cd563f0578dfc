/-
Every day has one date, and dates come in the order of the days.

Inside, a year begins in March. A day of a group of 400 years is taken apart into
a century, four years, a year and a day of that year (`exists_cycle`), where the
last year of each of these may be one day longer than the others. From the parts
it is computed that the formulas for the year and its day find them again. The way
back is then an equation between the two sums (`number_ofNumber`).

That dates come in order is proved on the way back too: a later date has a greater
number (`number_lt`), and a number is that of its own date.
-/
import DurableWorkflow.Time.Calendar

namespace DurableWorkflow.Time

-- =================================================== years of a group

theorem isLeap_iff {year : Int} :
    isLeap year = true ↔ year % 4 = 0 ∧ (year % 100 ≠ 0 ∨ year % 400 = 0) := by
  simp [isLeap]

/-- A day of a group of 400 years as century, four years, year and day. The last day
of a long year is the last of its four years, and these are not the last of a
century, but for the last century of the group. -/
structure Cycle (doe c q k doy : Int) : Prop where
  sum : doe = 36524 * c + (1461 * q + 365 * k + doy)
  century : 0 ≤ c ∧ c ≤ 3
  fours : 0 ≤ q ∧ q ≤ 24
  year : 0 ≤ k ∧ k ≤ 3
  day : 0 ≤ doy ∧ doy ≤ 365
  long : doy = 365 → k = 3 ∧ (q < 24 ∨ c = 3)

theorem exists_cycle {doe : Int} (h0 : 0 ≤ doe) (h1 : doe < 146097) :
    ∃ c q k doy : Int, Cycle doe c q k doy := by
  -- the last century, the last four years and the last year take the day that is left over
  obtain ⟨c, r, hc, hcentury, hr0, hr1, hr2⟩ : ∃ c r : Int, doe = 36524 * c + r
      ∧ (0 ≤ c ∧ c ≤ 3) ∧ 0 ≤ r ∧ r ≤ 36524 ∧ (r = 36524 → c = 3) := by
    by_cases hlast : doe = 146096
    · exact ⟨3, 36524, by omega, by omega, by omega, by omega, fun _ => rfl⟩
    · exact ⟨doe / 36524, doe % 36524, by omega, by omega, by omega, by omega, by omega⟩
  obtain ⟨q, u, hq, hfours, hu0, hu1⟩ : ∃ q u : Int, r = 1461 * q + u ∧ (0 ≤ q ∧ q ≤ 24)
      ∧ 0 ≤ u ∧ u ≤ 1460 := ⟨r / 1461, r % 1461, by omega, by omega, by omega, by omega⟩
  obtain ⟨k, doy, hk, hyear, hday, hlong⟩ : ∃ k doy : Int, u = 365 * k + doy ∧ (0 ≤ k ∧ k ≤ 3)
      ∧ (0 ≤ doy ∧ doy ≤ 365) ∧ (doy = 365 → k = 3) := by
    by_cases hlast : u = 1460
    · exact ⟨3, 365, by omega, by omega, by omega, fun _ => rfl⟩
    · exact ⟨u / 365, u % 365, by omega, by omega, by omega, by omega⟩
  exact ⟨c, q, k, doy, by omega, hcentury, hfours, hyear, hday, by omega⟩

variable {doe c q k doy : Int}

/-- Of the days of a century none is left over, but for the last day of a group. -/
theorem Cycle.century_eq (h : Cycle doe c q k doy) : doe / 36524 - doe / 146096 = c := by
  obtain ⟨hc0, hc3⟩ := h.century
  have hr0 : 0 ≤ 1461 * q + 365 * k + doy := by
    obtain ⟨hq, -⟩ := h.fours
    obtain ⟨hk, -⟩ := h.year
    obtain ⟨hd, -⟩ := h.day
    omega
  have hr1 : 1461 * q + 365 * k + doy ≤ 36524 := by
    obtain ⟨-, hq⟩ := h.fours
    obtain ⟨-, hk⟩ := h.year
    obtain ⟨-, hd⟩ := h.day
    omega
  have hlast : 1461 * q + 365 * k + doy = 36524 → c = 3 := by
    obtain ⟨-, hq⟩ := h.fours
    obtain ⟨-, hk⟩ := h.year
    obtain ⟨-, hd⟩ := h.day
    have hlong := h.long
    omega
  rw [h.sum]
  generalize 1461 * q + 365 * k + doy = r at hr0 hr1 hlast
  by_cases hr : r = 36524
  · obtain rfl := hlast hr
    subst hr
    decide
  · have hcentury : (36524 * c + r) / 36524 = c := by omega
    have hgroup : (36524 * c + r) / 146096 = 0 := by omega
    rw [hcentury, hgroup, Int.sub_zero]

/-- Of every 1461 days one is left over by 1460, and one more on the last day of a
long year, but none on the first day of a year. -/
theorem Cycle.fours_eq (h : Cycle doe c q k doy) :
    ∃ more : Int, doe / 1460 = 25 * c + q + more ∧ 0 ≤ doy - more ∧ doy - more ≤ 364 := by
  obtain ⟨hc0, hc3⟩ := h.century
  obtain ⟨hq0, hq1⟩ := h.fours
  obtain ⟨hk0, hk1⟩ := h.year
  obtain ⟨hd0, hd1⟩ := h.day
  have hlong : doy = 365 → k = 3 := fun hd => (h.long hd).1
  rw [h.sum]
  by_cases hover : 1460 ≤ 24 * c + q + 365 * k + doy
  · exact ⟨1, by omega, by omega, by omega⟩
  · exact ⟨0, by omega, by omega, by omega⟩

/-- The formula for the year of a group. -/
theorem Cycle.year_eq (h : Cycle doe c q k doy) :
    (doe - doe / 1460 + doe / 36524 - doe / 146096) / 365 = 100 * c + 4 * q + k := by
  have hcentury := h.century_eq
  obtain ⟨more, hfours, hmore0, hmore1⟩ := h.fours_eq
  have hsum : doe - doe / 1460 + doe / 36524 - doe / 146096
      = 365 * (100 * c + 4 * q + k) + (doy - more) := by
    have := h.sum
    omega
  rw [hsum]
  generalize 100 * c + 4 * q + k = y
  generalize doy - more = r at hmore0 hmore1
  omega

/-- The formula for the first day of a year of a group. -/
theorem Cycle.yearStart_eq (h : Cycle doe c q k doy) :
    yearStart (100 * c + 4 * q + k) = 36524 * c + 1461 * q + 365 * k := by
  obtain ⟨hq0, hq1⟩ := h.fours
  obtain ⟨hk0, hk1⟩ := h.year
  have hfours : (100 * c + 4 * q + k) / 4 = 25 * c + q := by omega
  have hcentury : (100 * c + 4 * q + k) / 100 = c := by omega
  unfold yearStart
  rw [hfours, hcentury]
  omega

/-- The last day of a long year is a leap day. -/
theorem Cycle.isLeap (h : Cycle doe c q k doy) (hd : doy = 365) :
    isLeap (100 * c + 4 * q + k + 1) = true := by
  obtain ⟨hk, hq⟩ := h.long hd
  obtain ⟨hq0, hq1⟩ := h.fours
  rw [isLeap_iff]
  omega

/-- The year of a day of a group of 400 years is found by its formula, and the day
lies within that year. -/
theorem yearOfGroup_spec (h0 : 0 ≤ doe) (h1 : doe < 146097) :
    ∃ y doy : Int, (doe - doe / 1460 + doe / 36524 - doe / 146096) / 365 = y ∧ 0 ≤ y ∧ y < 400
      ∧ doe = yearStart y + doy ∧ 0 ≤ doy ∧ doy ≤ 365
      ∧ (doy = 365 → isLeap (y + 1) = true) := by
  obtain ⟨c, q, k, doy, h⟩ := exists_cycle h0 h1
  obtain ⟨hc0, hc3⟩ := h.century
  obtain ⟨hq0, hq1⟩ := h.fours
  obtain ⟨hk0, hk1⟩ := h.year
  refine ⟨100 * c + 4 * q + k, doy, h.year_eq, by omega, by omega, ?_, h.day.1, h.day.2, h.isLeap⟩
  rw [h.yearStart_eq, h.sum]
  omega

-- ============================================================ months

/-- The first day of a month of a year that begins in March. -/
def monthStart (month : Int) : Int := (153 * month + 2) / 5

/-- The month of a year that begins in March, and the day of the month. -/
theorem month_spec (h0 : 0 ≤ doy) (h1 : doy ≤ 365) :
    ∃ m day : Int, (5 * doy + 2) / 153 = m ∧ 0 ≤ m ∧ m ≤ 11 ∧ doy = monthStart m + day - 1
      ∧ 1 ≤ day ∧ day ≤ 31 ∧ ((m = 1 ∨ m = 3 ∨ m = 6 ∨ m = 8) → day ≤ 30)
      ∧ (m = 11 → day ≤ 29 ∧ (day = 29 → doy = 365)) := by
  refine ⟨_, doy - monthStart ((5 * doy + 2) / 153) + 1, rfl, by omega, by omega, by omega, ?_⟩
  unfold monthStart
  generalize hm : (5 * doy + 2) / 153 = m
  have hcases : m = 0 ∨ m = 1 ∨ m = 2 ∨ m = 3 ∨ m = 4 ∨ m = 5 ∨ m = 6 ∨ m = 7 ∨ m = 8 ∨ m = 9
      ∨ m = 10 ∨ m = 11 := by omega
  rcases hcases with rfl | rfl | rfl | rfl | rfl | rfl | rfl | rfl | rfl | rfl | rfl | rfl <;> omega

-- ======================================================== the way back

/-- A day as the sum of the days of whole groups, of whole years, of whole months,
and of a month; with its date. -/
theorem ofNumber_spec (n : Int) : ∃ g y m day : Int,
    n = g * 146097 + yearStart y + monthStart m + day - 1 - 719468
      ∧ 0 ≤ y ∧ y < 400 ∧ 0 ≤ m ∧ m ≤ 11 ∧ 1 ≤ day ∧ day ≤ 31
      ∧ ((m = 1 ∨ m = 3 ∨ m = 6 ∨ m = 8) → day ≤ 30)
      ∧ (m = 11 → day ≤ 29 ∧ (day = 29 → isLeap (g * 400 + y + 1) = true))
      ∧ Date.ofNumber n = ⟨g * 400 + y + (if m < 10 then 0 else 1),
        (if m < 10 then m + 3 else m - 9).toNat, day.toNat⟩ := by
  have h0 : 0 ≤ n + 719468 - (n + 719468) / 146097 * 146097 := by omega
  have h1 : n + 719468 - (n + 719468) / 146097 * 146097 < 146097 := by omega
  obtain ⟨y, doy, hy, hy0, hy1, hdoe, hd0, hd1, hleap⟩ := yearOfGroup_spec h0 h1
  obtain ⟨m, day, hm, hm0, hm1, hdoy, hday0, hday1, hshort, hfeb⟩ := month_spec hd0 hd1
  have hdayOfYear : n + 719468 - (n + 719468) / 146097 * 146097 - yearStart y = doy := by omega
  have hday : doy - (153 * m + 2) / 5 + 1 = day := by
    unfold monthStart at hdoy
    omega
  refine ⟨(n + 719468) / 146097, y, m, day, by omega, hy0, hy1, hm0, hm1, hday0, hday1, hshort,
    fun h => ⟨(hfeb h).1, fun h' => ?_⟩, ?_⟩
  · have := isLeap_iff.mp (hleap ((hfeb h).2 h'))
    rw [isLeap_iff]
    omega
  · unfold Date.ofNumber
    simp only [hy, hdayOfYear, hm, hday, decide_eq_true_eq]

/-- The date of a day is the date of that day. -/
theorem Date.number_ofNumber (n : Int) : (ofNumber n).number = n := by
  obtain ⟨g, y, m, day, hn, hy0, hy1, hm0, hm1, hday0, -, -, -, hdate⟩ := ofNumber_spec n
  rw [hdate]
  unfold number
  by_cases hearly : m < 10
  · have hlate : ¬ (m + 3).toNat ≤ 2 := by omega
    simp only [hearly, hlate, if_true, if_false]
    rw [show g * 400 + y + 0 = g * 400 + y by omega, show (g * 400 + y) / 400 = g by omega,
      show g * 400 + y - g * 400 = y by omega, show ((m + 3).toNat : Int) - 3 = m by omega]
    unfold monthStart at hn
    omega
  · have hlate : (m - 9).toNat ≤ 2 := by omega
    simp only [hearly, hlate, if_true, if_false]
    rw [show g * 400 + y + 1 - 1 = g * 400 + y by omega, show (g * 400 + y) / 400 = g by omega,
      show g * 400 + y - g * 400 = y by omega, show ((m - 9).toNat : Int) + 9 = m by omega]
    unfold monthStart at hn
    omega

/-- The date of a day is a date of the calendar. -/
theorem Date.valid_ofNumber (n : Int) : (ofNumber n).Valid := by
  obtain ⟨g, y, m, day, -, -, -, hm0, hm1, hday0, hday1, hshort, hfeb, hdate⟩ := ofNumber_spec n
  rw [hdate]
  unfold Valid
  dsimp only
  refine ⟨?_, ?_, by omega, ?_⟩
  · split <;> omega
  · split <;> omega
  · have hcases : m = 0 ∨ m = 1 ∨ m = 2 ∨ m = 3 ∨ m = 4 ∨ m = 5 ∨ m = 6 ∨ m = 7 ∨ m = 8 ∨ m = 9
        ∨ m = 10 ∨ m = 11 := by omega
    rcases hcases with rfl | rfl | rfl | rfl | rfl | rfl | rfl | rfl | rfl | rfl | rfl | rfl
    case inr.inr.inr.inr.inr.inr.inr.inr.inr.inr.inr =>
      -- February has its 29th day in the years in which the day before March is the 365th
      obtain ⟨hle, hleap⟩ := hfeb rfl
      show day.toNat ≤ if isLeap (g * 400 + y + 1) = true then 29 else 28
      split
      next => omega
      next hnot =>
        have : day ≠ 29 := fun h => hnot (hleap h)
        omega
    all_goals
      simp [monthLength]
      omega

-- ==================================================== order of dates

namespace Date

/-- Earlier in the calendar. -/
def Earlier (a b : Date) : Prop :=
  a.year < b.year ∨ a.year = b.year ∧ (a.month < b.month ∨ a.month = b.month ∧ a.day < b.day)

/-- The year of a date that begins in March. -/
def marchYear (d : Date) : Int := if d.month ≤ 2 then d.year - 1 else d.year

/-- The month of a date, counted from March. -/
def marchMonth (d : Date) : Int := if d.month ≤ 2 then d.month + 9 else d.month - 3

/-- The days before a year that begins in March. -/
def yearDays (year : Int) : Int := 365 * year + year / 4 - year / 100 + year / 400

/-- The number of a date: the days of the years, of the months and of the month
before it. -/
theorem number_eq (d : Date) :
    d.number = yearDays d.marchYear + monthStart d.marchMonth + d.day - 1 - 719468 := by
  have hyears : ∀ year : Int, year / 400 * 146097 + yearStart (year - year / 400 * 400)
      = yearDays year := by
    intro year
    have hfours : (year - year / 400 * 400) / 4 = year / 4 - year / 400 * 100 := by omega
    have hcentury : (year - year / 400 * 400) / 100 = year / 100 - year / 400 * 4 := by omega
    unfold yearStart yearDays
    rw [hfours, hcentury]
    omega
  unfold number
  show d.marchYear / 400 * 146097 + yearStart (d.marchYear - d.marchYear / 400 * 400)
    + ((153 * d.marchMonth + 2) / 5 + d.day - 1) - 719468 = _
  rw [← hyears, monthStart]
  omega

/-- A later year has all days of an earlier one before it, and its own. -/
theorem yearDays_lt {y z : Int} (h : y < z) : yearDays (y + 1) ≤ yearDays z := by
  unfold yearDays
  omega

/-- The length of a year that begins in March. -/
theorem yearDays_succ (year : Int) :
    yearDays (year + 1) = yearDays year + (if isLeap (year + 1) = true then 366 else 365) := by
  unfold yearDays
  split
  next h =>
    have := isLeap_iff.mp h
    omega
  next h =>
    have := mt isLeap_iff.mpr h
    omega

variable {d : Date}

theorem Valid.marchMonth (h : d.Valid) : 0 ≤ d.marchMonth ∧ d.marchMonth ≤ 11 := by
  obtain ⟨h1, h12, -, -⟩ := h
  unfold Date.marchMonth
  split <;> omega

/-- A month other than February ends where the next one begins. -/
theorem Valid.day_le (h : d.Valid) (hm : d.marchMonth ≤ 10) :
    monthStart d.marchMonth + d.day ≤ monthStart (d.marchMonth + 1) := by
  obtain ⟨year, month, day⟩ := d
  obtain ⟨h1, h12, -, hday⟩ := h
  simp only [Date.marchMonth] at h1 h12 hday hm ⊢
  have hcases : month = 1 ∨ month = 2 ∨ month = 3 ∨ month = 4 ∨ month = 5 ∨ month = 6
      ∨ month = 7 ∨ month = 8 ∨ month = 9 ∨ month = 10 ∨ month = 11 ∨ month = 12 := by omega
  rcases hcases with rfl | rfl | rfl | rfl | rfl | rfl | rfl | rfl | rfl | rfl | rfl | rfl
  case inr.inl => omega
  all_goals
    simp [monthLength, monthStart] at hday ⊢
    omega

/-- A year that begins in March ends with its February. -/
theorem Valid.day_le_year (h : d.Valid) :
    yearDays d.marchYear + monthStart d.marchMonth + d.day ≤ yearDays (d.marchYear + 1) := by
  have hsucc := yearDays_succ d.marchYear
  obtain ⟨hm0, hm1⟩ := h.marchMonth
  by_cases hm : d.marchMonth ≤ 10
  · have hday := h.day_le hm
    have hstart : monthStart (d.marchMonth + 1) ≤ 337 := by
      unfold monthStart
      omega
    split at hsucc <;> omega
  · have hfeb : d.month = 2 := by
      have h1 := h.1
      have h12 := h.2.1
      unfold Date.marchMonth at hm
      split at hm <;> omega
    have hday : d.day ≤ if isLeap d.year = true then 29 else 28 := by
      have := h.2.2.2
      rw [hfeb] at this
      exact this
    have hyear : d.marchYear + 1 = d.year := by
      unfold marchYear
      rw [if_pos (by omega)]
      omega
    have hstart : monthStart d.marchMonth = 337 := by
      rw [show d.marchMonth = 11 by omega]
      rfl
    rw [hyear] at hsucc ⊢
    split at hsucc
    next hleap =>
      rw [if_pos hleap] at hday
      omega
    next hleap =>
      rw [if_neg hleap] at hday
      omega

/-- A later date has a greater number. -/
theorem number_lt {a b : Date} (ha : a.Valid) (hb : b.Valid) (h : Earlier a b) :
    a.number < b.number := by
  rw [number_eq, number_eq]
  have hb1 := hb.2.2.1
  obtain ⟨hbm0, hbm1⟩ := hb.marchMonth
  have hstart : 0 ≤ monthStart b.marchMonth := by
    unfold monthStart
    omega
  -- the order of year and month is that of the year and month counted from March
  have hmarch : a.marchYear < b.marchYear ∨ a.marchYear = b.marchYear
      ∧ (a.marchMonth < b.marchMonth ∨ a.marchMonth = b.marchMonth ∧ a.day < b.day) := by
    have ha12 := ha.2.1
    have hb12 := hb.2.1
    have ha1 := ha.1
    have hbm := hb.1
    unfold Earlier at h
    unfold marchYear marchMonth
    split <;> split <;> omega
  rcases hmarch with hyear | ⟨hyear, hmonth | ⟨hmonth, hday⟩⟩
  · have hle := ha.day_le_year
    have hmono := yearDays_lt hyear
    omega
  · have hle := ha.day_le (by omega)
    have hmono : monthStart (a.marchMonth + 1) ≤ monthStart b.marchMonth := by
      unfold monthStart
      omega
    rw [hyear]
    omega
  · rw [hyear, hmonth]
    omega

theorem Earlier.trichotomy (a b : Date) : Earlier a b ∨ a = b ∨ Earlier b a := by
  obtain ⟨y, m, d⟩ := a
  obtain ⟨y', m', d'⟩ := b
  simp only [Earlier, mk.injEq]
  omega

/-- Dates come in the order of their days. -/
theorem ofNumber_earlier_iff {m n : Int} : (ofNumber m).Earlier (ofNumber n) ↔ m < n := by
  constructor
  · intro h
    have hlt := number_lt (valid_ofNumber m) (valid_ofNumber n) h
    rwa [number_ofNumber, number_ofNumber] at hlt
  · intro h
    rcases Earlier.trichotomy (ofNumber m) (ofNumber n) with hlt | heq | hgt
    · exact hlt
    · have hnumber := congrArg number heq
      rw [number_ofNumber, number_ofNumber] at hnumber
      omega
    · have hlt := number_lt (valid_ofNumber n) (valid_ofNumber m) hgt
      rw [number_ofNumber, number_ofNumber] at hlt
      omega

end Date

end DurableWorkflow.Time
