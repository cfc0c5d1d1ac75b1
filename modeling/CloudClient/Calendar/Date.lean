import CloudClient.Calendar.Month

namespace CloudClient

/-!
# Dates

Dates of the proleptic Gregorian calendar in the years 1 to 9999, and their numbering: day 0 is
1 January of year 1, a Monday.

* `Date` — a date, valid by its type;
* `Date.dayNumber`, `Date.ofDayNumber` — the numbering and its inverse
  (`Date.ofDayNumber_dayNumber`, `Date.dayNumber_ofDayNumber`);
* `Date.weekday` — the day of the week.
-/

/-- A date of the proleptic Gregorian calendar. -/
structure Date where
  year : Nat
  month : Month
  day : Nat
  year_pos : 1 ≤ year
  year_le : year ≤ 9999
  day_pos : 1 ≤ day
  day_le : day ≤ month.length (isLeapYear year)
deriving DecidableEq

/-- The days before the first of January of a year, counted from year 1. -/
def daysBeforeYear (year : Nat) : Nat :=
  365 * (year - 1) + (year - 1) / 4 - (year - 1) / 100 + (year - 1) / 400

/-- The year of a day.  The calendar repeats after 400 years; inside, centuries but the last, then
    spans of four years, then years but the last have one length each. -/
def yearOfDay (n : Nat) : Nat :=
  let century := min (n % 146097 / 36524) 3
  let inCentury := n % 146097 - 36524 * century
  let year := min (inCentury % 1461 / 365) 3
  400 * (n / 146097) + 100 * century + 4 * (inCentury / 1461) + year + 1

/-- The number of days in the years 1 to 9999. -/
def dayCount : Nat := 3652059

theorem daysBeforeYear_succ {year : Nat} (h : 1 ≤ year) :
    daysBeforeYear (year + 1) = daysBeforeYear year + if isLeapYear year then 366 else 365 := by
  obtain ⟨y, rfl⟩ : ∃ y, year = y + 1 := ⟨year - 1, by omega⟩
  -- Each of the three quotients grows by one exactly at its multiples.
  have fours : (y + 1) / 4 = y / 4 + if (y + 1) % 4 = 0 then 1 else 0 := by split <;> omega
  have centuries : (y + 1) / 100 = y / 100 + if (y + 1) % 100 = 0 then 1 else 0 := by
    split <;> omega
  have cycles : (y + 1) / 400 = y / 400 + if (y + 1) % 400 = 0 then 1 else 0 := by
    split <;> omega
  have four_of_century : (y + 1) % 100 = 0 → (y + 1) % 4 = 0 := by omega
  have century_of_cycle : (y + 1) % 400 = 0 → (y + 1) % 100 = 0 := by omega
  simp only [daysBeforeYear, isLeapYear, Bool.and_eq_true, Bool.or_eq_true, beq_iff_eq,
    bne_iff_ne, Nat.add_sub_cancel, fours, centuries, cycles]
  by_cases four : (y + 1) % 4 = 0 <;> by_cases century : (y + 1) % 100 = 0 <;>
    by_cases cycle : (y + 1) % 400 = 0 <;> simp only [four, century, cycle] <;> simp_all <;> omega

theorem daysBeforeYear_mono {y z : Nat} (pos : 1 ≤ y) (h : y ≤ z) :
    daysBeforeYear y ≤ daysBeforeYear z := by
  induction h with
  | refl => exact Nat.le_refl _
  | @step z h ih =>
    have := daysBeforeYear_succ (Nat.le_trans pos h)
    simp only [Nat.succ_eq_add_one]
    omega

/-- The days before a year whose number is split into cycles, centuries, spans of four and rest. -/
theorem daysBeforeYear_split {cycles centuries fours years : Nat} (hc : centuries ≤ 3)
    (hf : fours ≤ 24) (hy : years ≤ 3) :
    daysBeforeYear (400 * cycles + 100 * centuries + 4 * fours + years + 1)
      = 146097 * cycles + 36524 * centuries + 1461 * fours + 365 * years := by
  have by_four : (400 * cycles + 100 * centuries + 4 * fours + years) / 4
      = 100 * cycles + 25 * centuries + fours := by omega
  have by_century : (400 * cycles + 100 * centuries + 4 * fours + years) / 100
      = 4 * cycles + centuries := by omega
  have by_cycle : (400 * cycles + 100 * centuries + 4 * fours + years) / 400 = cycles := by omega
  simp only [daysBeforeYear, Nat.add_sub_cancel, by_four, by_century, by_cycle]
  omega

/-- The leap years among the years whose number is split in this way. -/
theorem isLeapYear_split (cycles : Nat) {centuries fours years : Nat} (hc : centuries ≤ 3)
    (hf : fours ≤ 24) (hy : years ≤ 3) :
    isLeapYear (400 * cycles + 100 * centuries + 4 * fours + years + 1) = true
      ↔ years = 3 ∧ (fours ≠ 24 ∨ centuries = 3) := by
  have by_four : (400 * cycles + 100 * centuries + 4 * fours + years + 1) % 4 = 0 ↔ years = 3 := by
    omega
  have by_century : (400 * cycles + 100 * centuries + 4 * fours + years + 1) % 100 = 0
      ↔ years = 3 ∧ fours = 24 := by omega
  have by_cycle : (400 * cycles + 100 * centuries + 4 * fours + years + 1) % 400 = 0
      ↔ years = 3 ∧ fours = 24 ∧ centuries = 3 := by omega
  simp only [isLeapYear, Bool.and_eq_true, Bool.or_eq_true, beq_iff_eq, bne_iff_ne, ne_eq, by_four,
    by_century, by_cycle]
  grind

/-- A day split into cycles, centuries, spans of four years, years and days, as its year is. -/
theorem yearOfDay_split (n : Nat) : ∃ cycles centuries fours years days,
    centuries ≤ 3 ∧ fours ≤ 24 ∧ years ≤ 3
      ∧ yearOfDay n = 400 * cycles + 100 * centuries + 4 * fours + years + 1
      ∧ n = 146097 * cycles + 36524 * centuries + 1461 * fours + 365 * years + days
      ∧ (days < 365 ∨ days = 365 ∧ years = 3 ∧ (fours ≠ 24 ∨ centuries = 3)) := by
  have part (r d k : Nat) : ∃ q, q = min (r / d) k := ⟨_, rfl⟩
  obtain ⟨centuries, hc⟩ := part (n % 146097) 36524 3
  obtain ⟨inCentury, hi⟩ : ∃ i, i = n % 146097 - 36524 * centuries := ⟨_, rfl⟩
  obtain ⟨years, hy⟩ := part (inCentury % 1461) 365 3
  refine ⟨n / 146097, centuries, inCentury / 1461, years, inCentury % 1461 - 365 * years,
    by omega, by omega, by omega, ?_, by omega, by omega⟩
  subst hy hi hc
  rfl

/-- The year of a day is the one that the day lies in. -/
theorem yearOfDay_bounds (n : Nat) :
    daysBeforeYear (yearOfDay n) ≤ n ∧ n < daysBeforeYear (yearOfDay n + 1) := by
  obtain ⟨cycles, centuries, fours, years, days, hc, hf, hy, year, day, inside⟩ := yearOfDay_split n
  rw [daysBeforeYear_succ (by omega), year, daysBeforeYear_split hc hf hy]
  refine ⟨by omega, ?_⟩
  -- The 366th day of a year exists exactly if the year is a leap year.
  have leap := isLeapYear_split cycles hc hf hy
  by_cases long : years = 3 ∧ (fours ≠ 24 ∨ centuries = 3)
  · rw [if_pos (leap.2 long)]
    omega
  · rw [if_neg (mt leap.1 long)]
    omega

/-- A day lies in one year only. -/
theorem yearOfDay_eq {n year : Nat} (low : daysBeforeYear year ≤ n)
    (high : n < daysBeforeYear (year + 1)) (pos : 1 ≤ year) : yearOfDay n = year := by
  have bounds := yearOfDay_bounds n
  -- Another year would lie wholly before or wholly after the day.
  rcases Nat.lt_trichotomy (yearOfDay n) year with h | h | h
  · have := daysBeforeYear_mono (by simp [yearOfDay]) (Nat.succ_le_of_lt h)
    simp only [Nat.succ_eq_add_one] at this
    omega
  · exact h
  · have := daysBeforeYear_mono (by omega) (Nat.succ_le_of_lt h)
    simp only [Nat.succ_eq_add_one] at this
    omega

/-- The number of days of a month together with those before it never exceeds the year's. -/
theorem Month.daysBefore_add_length_le (leap : Bool) (m : Month) :
    m.daysBefore leap + m.length leap ≤ if leap then 366 else 365 := by
  cases leap <;> cases m <;> decide

namespace Date

/-- The number of the date. -/
def dayNumber (d : Date) : Nat :=
  daysBeforeYear d.year + d.month.daysBefore (isLeapYear d.year) + (d.day - 1)

/-- The date with a number. -/
def ofDayNumber (n : Nat) (h : n < dayCount) : Date :=
  let year := yearOfDay n
  let dayOfYear := n - daysBeforeYear year
  let month := Month.ofDayOfYear (isLeapYear year) dayOfYear
  have bounds := yearOfDay_bounds n
  have year_pos : 1 ≤ year := by simp only [year, yearOfDay]; omega
  have year_le : year ≤ 9999 := by
    simp only [dayCount] at h
    simp only [year, yearOfDay]
    omega
  have in_month := Month.ofDayOfYear_bounds (isLeapYear year) dayOfYear (by
    have := daysBeforeYear_succ year_pos
    simp only [dayOfYear, year] at *
    omega)
  { year, month, day := dayOfYear - month.daysBefore (isLeapYear year) + 1,
    year_pos, year_le, day_pos := Nat.le_add_left _ _, day_le := by simp only [month] at *; omega }

/-- The date with the given year, month and day, if there is one. -/
def ofParts? (year month day : Nat) : Option Date := do
  let m ← Month.ofNumber? month
  if h : (1 ≤ year ∧ year ≤ 9999) ∧ 1 ≤ day ∧ day ≤ m.length (isLeapYear year) then
    some ⟨year, m, day, h.1.1, h.1.2, h.2.1, h.2.2⟩
  else none

/-- The day of the week. -/
def weekday (d : Date) : Weekday := Weekday.ofDayNumber d.dayNumber

theorem dayNumber_lt_next_year (d : Date) : d.dayNumber < daysBeforeYear (d.year + 1) := by
  have := d.day_le
  have := d.day_pos
  have := daysBeforeYear_succ d.year_pos
  have := d.month.daysBefore_add_length_le (isLeapYear d.year)
  simp only [dayNumber]
  omega

theorem dayNumber_lt (d : Date) : d.dayNumber < dayCount := by
  have := d.dayNumber_lt_next_year
  have : daysBeforeYear (d.year + 1) ≤ daysBeforeYear 10000 :=
    daysBeforeYear_mono (by omega) (Nat.succ_le_succ d.year_le)
  have : daysBeforeYear 10000 = dayCount := by decide
  omega

/-- The numbering reaches every day. -/
theorem dayNumber_ofDayNumber (n : Nat) (h : n < dayCount) : (ofDayNumber n h).dayNumber = n := by
  have bounds := yearOfDay_bounds n
  have year_pos : 1 ≤ yearOfDay n := by simp only [yearOfDay]; omega
  have in_month := Month.ofDayOfYear_bounds (isLeapYear (yearOfDay n))
    (n - daysBeforeYear (yearOfDay n)) (by
      have := daysBeforeYear_succ year_pos
      omega)
  simp only [dayNumber, ofDayNumber]
  omega

/-- The numbering tells dates apart. -/
theorem ofDayNumber_dayNumber (d : Date) : ofDayNumber d.dayNumber d.dayNumber_lt = d := by
  have day_pos := d.day_pos
  have day_le := d.day_le
  have year : yearOfDay d.dayNumber = d.year :=
    yearOfDay_eq (by simp only [dayNumber]; omega) d.dayNumber_lt_next_year d.year_pos
  -- What the year leaves is the month's days and the day itself.
  have rest : d.dayNumber - daysBeforeYear d.year
      = d.month.daysBefore (isLeapYear d.year) + (d.day - 1) := by
    simp only [dayNumber]
    omega
  have month : Month.ofDayOfYear (isLeapYear d.year)
      (d.month.daysBefore (isLeapYear d.year) + (d.day - 1)) = d.month :=
    Month.ofDayOfYear_daysBefore _ _ (by omega)
  cases d with
  | mk y m dd _ _ _ _ =>
    simp only [ofDayNumber, year, rest, month] at *
    simp only [mk.injEq, true_and]
    omega

end Date

end CloudClient
