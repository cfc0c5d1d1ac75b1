import CloudClient.Calendar.Date

namespace CloudClient

/-!
# The cycle of four hundred years

After 400 years, which are 146097 days and a whole number of weeks, the calendar repeats itself.
One, two or three centuries are never a whole number of weeks, whichever leap days lie in them.

* `leapDays` — the number of leap days up to a year;
* `Date.dayNumber_eq_leapDays` — the number of a date, by the leap days before it;
* `Date.dayNumber_of_centuries` — the days between two dates that are whole centuries apart;
* `Date.dayNumber_mod_cycle_iff` — dates whose numbers differ by whole cycles fall on the same day
  of the same month, and their years differ by whole cycles;
* `Date.weekday_eq_iff_cycle` — dates that are whole centuries apart have the same weekday exactly
  if these are whole cycles.
-/

/-! ### Leap days -/

/-- The number of leap days in the years from 1 up to the given one. -/
def leapDays (year : Nat) : Nat := year / 4 - year / 100 + year / 400

theorem daysBeforeYear_eq_leapDays (year : Nat) :
    daysBeforeYear year = 365 * (year - 1) + leapDays (year - 1) := by
  unfold daysBeforeYear leapDays
  omega

/-- A leap year has a leap day of its own. -/
theorem leapDays_eq_pred {year : Nat} (pos : 1 ≤ year) :
    leapDays year = leapDays (year - 1) + if isLeapYear year then 1 else 0 := by
  have succ := daysBeforeYear_succ pos
  rw [daysBeforeYear_eq_leapDays, daysBeforeYear_eq_leapDays, Nat.add_sub_cancel] at succ
  by_cases leap : isLeapYear year = true
  · rw [if_pos leap] at succ ⊢
    omega
  · rw [if_neg leap] at succ ⊢
    omega

/-- A century has 24 leap days and, once in four hundred years, a 25th one. -/
theorem leapDays_add_centuries (year centuries : Nat) : leapDays (year + 100 * centuries)
    = leapDays year + 24 * centuries + (year % 400 + 100 * centuries) / 400 := by
  have fours : (year + 100 * centuries) / 4 = year / 4 + 25 * centuries := by omega
  have hundreds : (year + 100 * centuries) / 100 = year / 100 + centuries := by omega
  have cycles : (year + 100 * centuries) / 400
      = year / 400 + (year % 400 + 100 * centuries) / 400 := by omega
  unfold leapDays
  rw [fours, hundreds, cycles]
  omega

/-- After whole cycles a leap year is a leap year again, and a common one a common one. -/
theorem isLeapYear_add_cycles (year cycles : Nat) :
    isLeapYear (year + 400 * cycles) = isLeapYear year := by
  have four : (year + 400 * cycles) % 4 = year % 4 := by omega
  have century : (year + 400 * cycles) % 100 = year % 100 := by omega
  have cycle : (year + 400 * cycles) % 400 = year % 400 := by omega
  simp only [isLeapYear, four, century, cycle]

/-- From March on the leap day of a leap year is over. -/
theorem Month.daysBefore_eq (leap : Bool) (m : Month) : m.daysBefore leap
    = m.daysBefore false + if 2 < m.number ∧ leap = true then 1 else 0 := by
  cases leap <;> cases m <;> rfl

/-! ### Weekdays -/

/-- Two days have the same weekday exactly if whole weeks lie between them. -/
theorem Weekday.ofDayNumber_eq_iff {m n : Nat} :
    ofDayNumber m = ofDayNumber n ↔ m % 7 = n % 7 := by
  have rest (n : Nat) : ofDayNumber n = ofDayNumber (n % 7) := by
    simp only [ofDayNumber, Nat.mod_mod]
  have week : ∀ m < 7, ∀ n < 7, ofDayNumber m = ofDayNumber n → m = n := by decide
  refine ⟨?_, ?_⟩
  · intro same
    rw [rest m, rest n] at same
    exact week _ (Nat.mod_lt _ (by decide)) _ (Nat.mod_lt _ (by decide)) same
  · intro same
    rw [rest m, rest n, same]

namespace Date

variable {d e : Date} {centuries : Nat}

/-- Different dates have different numbers. -/
theorem dayNumber_injective (same : d.dayNumber = e.dayNumber) : d = e := by
  rw [← d.ofDayNumber_dayNumber, ← e.ofDayNumber_dayNumber]
  simp only [same]

/-! ### Numbers of dates -/

/-- The last year whose leap day, if it has one, is over at the date. -/
def leapYear (d : Date) : Nat := if 2 < d.month.number then d.year else d.year - 1

/-- A date's number counts 365 days for each year before, the leap days that are over, and the days
    of its own year as if that were a common one. -/
theorem dayNumber_eq_leapDays (d : Date) : d.dayNumber
    = 365 * (d.year - 1) + leapDays d.leapYear + d.month.daysBefore false + (d.day - 1) := by
  rw [dayNumber, daysBeforeYear_eq_leapDays, Month.daysBefore_eq, leapYear]
  by_cases spring : 2 < d.month.number
  · rw [if_pos spring, leapDays_eq_pred d.year_pos]
    simp only [spring, true_and]
    omega
  · rw [if_neg spring, if_neg (fun h => spring h.1)]
    omega

/-- From a date to the same date some centuries later it is 36524 days for each century, and one
    more for each year among them that four hundred divides. -/
theorem dayNumber_of_centuries (year : e.year = d.year + 100 * centuries)
    (month : e.month = d.month) (day : e.day = d.day) :
    e.dayNumber = d.dayNumber + 36524 * centuries + (d.leapYear % 400 + 100 * centuries) / 400 := by
  have pos := d.year_pos
  have later : e.leapYear = d.leapYear + 100 * centuries := by
    unfold leapYear
    rw [month, year]
    split <;> omega
  rw [e.dayNumber_eq_leapDays, d.dayNumber_eq_leapDays, later, leapDays_add_centuries, year, month,
    day]
  omega

/-- Whole cycles later the number is larger by their days. -/
theorem dayNumber_of_cycles {cycles : Nat} (year : e.year = d.year + 400 * cycles)
    (month : e.month = d.month) (day : e.day = d.day) :
    e.dayNumber = d.dayNumber + 146097 * cycles := by
  have centuries : e.year = d.year + 100 * (4 * cycles) := by omega
  rw [dayNumber_of_centuries centuries month day]
  omega

/-! ### The cycle -/

/-- A year is found again 146097 days later as the one four hundred years later. -/
theorem yearOfDay_add_cycles (n cycles : Nat) :
    yearOfDay (n + 146097 * cycles) = yearOfDay n + 400 * cycles := by
  simp only [yearOfDay, Nat.add_mul_mod_self_left,
    Nat.add_mul_div_left _ _ (by decide : 0 < 146097)]
  omega

/-- The year of a date is found from its number. -/
theorem yearOfDay_dayNumber (d : Date) : yearOfDay d.dayNumber = d.year :=
  congrArg year d.ofDayNumber_dayNumber

/-- A date whose number is larger by the days of whole cycles is the same date in a later year. -/
theorem eq_of_dayNumber_add_cycles {cycles : Nat}
    (later : e.dayNumber = d.dayNumber + 146097 * cycles) :
    e.year = d.year + 400 * cycles ∧ e.month = d.month ∧ e.day = d.day := by
  have year : e.year = d.year + 400 * cycles := by
    rw [← e.yearOfDay_dayNumber, later, yearOfDay_add_cycles, yearOfDay_dayNumber]
  have pos := d.year_pos
  have leap := isLeapYear_add_cycles d.year cycles
  -- The same date in the later year exists, and there is only one date with its number.
  obtain ⟨f, hyear, hmonth, hday⟩ : ∃ f : Date,
      f.year = d.year + 400 * cycles ∧ f.month = d.month ∧ f.day = d.day :=
    ⟨⟨d.year + 400 * cycles, d.month, d.day, by omega, year ▸ e.year_le, d.day_pos,
      leap ▸ d.day_le⟩, rfl, rfl, rfl⟩
  have same : e = f :=
    dayNumber_injective (later.trans (dayNumber_of_cycles hyear hmonth hday).symm)
  rw [same]
  exact ⟨hyear, hmonth, hday⟩

/-- The numbers of two dates differ by whole cycles exactly if the dates fall on the same day of the
    same month, in years that differ by whole cycles. -/
theorem dayNumber_mod_cycle_iff : d.dayNumber % 146097 = e.dayNumber % 146097 ↔
    d.year % 400 = e.year % 400 ∧ d.month = e.month ∧ d.day = e.day := by
  refine ⟨?_, ?_⟩
  · intro same
    rcases Nat.le_total d.dayNumber e.dayNumber with le | le
    · have later : e.dayNumber = d.dayNumber + 146097 * ((e.dayNumber - d.dayNumber) / 146097) := by
        omega
      obtain ⟨year, month, day⟩ := eq_of_dayNumber_add_cycles later
      exact ⟨by omega, month.symm, day.symm⟩
    · have later : d.dayNumber = e.dayNumber + 146097 * ((d.dayNumber - e.dayNumber) / 146097) := by
        omega
      obtain ⟨year, month, day⟩ := eq_of_dayNumber_add_cycles later
      exact ⟨by omega, month, day⟩
  · rintro ⟨year, month, day⟩
    rcases Nat.le_total d.year e.year with le | le
    · have later : e.year = d.year + 400 * ((e.year - d.year) / 400) := by omega
      rw [dayNumber_of_cycles later month.symm day.symm, Nat.add_mul_mod_self_left]
    · have later : d.year = e.year + 400 * ((d.year - e.year) / 400) := by omega
      rw [dayNumber_of_cycles later month day, Nat.add_mul_mod_self_left]

/-- One, two or three centuries are five, three or one days over whole weeks, or one day more
    each. -/
theorem days_of_centuries_mod_week (year centuries : Nat) :
    7 ∣ 36524 * centuries + (year % 400 + 100 * centuries) / 400 ↔ 4 ∣ centuries := by
  obtain ⟨cycles, rest, bound, rfl⟩ : ∃ cycles rest, rest < 4 ∧ centuries = 4 * cycles + rest :=
    ⟨centuries / 4, centuries % 4, Nat.mod_lt _ (by decide), by omega⟩
  have split : (year % 400 + 100 * (4 * cycles + rest)) / 400
      = cycles + (year % 400 + 100 * rest) / 400 := by omega
  rw [split]
  omega

/-- A date some centuries later has the same weekday exactly if the centuries are whole cycles. -/
theorem weekday_eq_iff_four_dvd (year : e.year = d.year + 100 * centuries)
    (month : e.month = d.month) (day : e.day = d.day) : d.weekday = e.weekday ↔ 4 ∣ centuries := by
  have weeks (m n : Nat) : m % 7 = (m + n) % 7 ↔ 7 ∣ n := by omega
  show Weekday.ofDayNumber _ = Weekday.ofDayNumber _ ↔ _
  rw [Weekday.ofDayNumber_eq_iff, dayNumber_of_centuries year month day, Nat.add_assoc, weeks,
    days_of_centuries_mod_week]

/-- Of two dates on the same day of the same month, whole centuries apart, the weekdays are the same
    exactly if the centuries are whole cycles. -/
theorem weekday_eq_iff_cycle (year : d.year % 100 = e.year % 100) (month : d.month = e.month)
    (day : d.day = e.day) : d.weekday = e.weekday ↔ d.year % 400 = e.year % 400 := by
  rcases Nat.le_total d.year e.year with le | le
  · have apart : e.year = d.year + 100 * ((e.year - d.year) / 100) := by omega
    rw [weekday_eq_iff_four_dvd apart month.symm day.symm]
    omega
  · have apart : d.year = e.year + 100 * ((d.year - e.year) / 100) := by omega
    rw [eq_comm, weekday_eq_iff_four_dvd apart month day]
    omega

end Date

end CloudClient
