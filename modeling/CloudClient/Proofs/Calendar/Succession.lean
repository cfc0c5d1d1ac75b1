import CloudClient.Proofs.Wire.Resolution
import CloudClient.Proofs.Calendar.Cycle

namespace CloudClient

/-!
# The day after

How the calendar goes on from one day to the next, whatever formula finds the date of a day.

* `Date.Next` — the rule of the calendar: the next day of the month, the first day of the next
  month, or the first of January of the next year;
* `Date.dayNumber_succ_iff` — the date with the next number is the next one by this rule;
* `Weekday.ofDayNumber_succ` — its weekday is the next one of the week;
* `Instant.civil_of_day_later` — a day later a UTC clock shows the same time of the next day;
* `Instant.time_civil` — the time of day that a UTC clock shows.
-/

/-- The next day of the week; Monday comes after Sunday. -/
def Weekday.next : Weekday → Weekday
  | monday => tuesday
  | tuesday => wednesday
  | wednesday => thursday
  | thursday => friday
  | friday => saturday
  | saturday => sunday
  | sunday => monday

/-- The date `e` is the one that follows on `d` in the calendar. -/
inductive Date.Next (d e : Date) : Prop where
  /-- The next day of the month, unless the month is over. -/
  | day (inside : d.day < d.month.length (isLeapYear d.year)) (year : e.year = d.year)
      (month : e.month = d.month) (day : e.day = d.day + 1)
  /-- The first day of the next month, after the last day of any month but December. -/
  | month (last : d.day = d.month.length (isLeapYear d.year)) (year : e.year = d.year)
      (month : e.month.number = d.month.number + 1) (day : e.day = 1)
  /-- The first of January of the next year, after the last of December. -/
  | year (december : d.month = .december) (last : d.day = 31) (year : e.year = d.year + 1)
      (january : e.month = .january) (day : e.day = 1)

/-! ### Dates -/

/-- The next month begins where a month ends. -/
theorem Month.daysBefore_succ (leap : Bool) {m n : Month} (next : n.number = m.number + 1) :
    n.daysBefore leap = m.daysBefore leap + m.length leap := by
  revert next
  cases leap <;> cases m <;> cases n <;> decide

theorem Month.exists_next {m : Month} (inside : m ≠ .december) :
    ∃ n : Month, n.number = m.number + 1 := by
  have found : (ofNumber? (m.number + 1)).isSome := by
    revert inside
    cases m <;> decide
  obtain ⟨n, number⟩ := Option.isSome_iff_exists.mp found
  exact ⟨n, number_of_ofNumber? number⟩

theorem Month.length_pos (leap : Bool) (m : Month) : 1 ≤ m.length leap := by
  cases leap <;> cases m <;> decide

namespace Date

variable {d e : Date}

/-- The next year begins after the last of December. -/
theorem dayNumber_last_of_december (december : d.month = .december) (last : d.day = 31) :
    d.dayNumber + 1 = daysBeforeYear (d.year + 1) := by
  have whole : Month.december.daysBefore (isLeapYear d.year) + 31
      = if isLeapYear d.year then 366 else 365 := by
    cases isLeapYear d.year <;> rfl
  rw [dayNumber, december, last, daysBeforeYear_succ d.year_pos]
  omega

/-- The next date has the next number. -/
theorem Next.dayNumber (next : d.Next e) : e.dayNumber = d.dayNumber + 1 := by
  have pos := d.day_pos
  cases next with
  | day inside year month day =>
    simp only [Date.dayNumber, year, month, day]
    omega
  | month last year month day =>
    simp only [Date.dayNumber, year, Month.daysBefore_succ _ month, day, ← last]
    omega
  | year december last year january day =>
    rw [dayNumber_last_of_december december last, Date.dayNumber, year, january, day]
    rfl

/-- Every date but the last one has a next one. -/
theorem exists_next (before : d.dayNumber + 1 < dayCount) : ∃ e, d.Next e := by
  have year_pos := d.year_pos
  have year_le := d.year_le
  have day_le := d.day_le
  by_cases inside : d.day < d.month.length (isLeapYear d.year)
  · exact ⟨⟨d.year, d.month, d.day + 1, year_pos, year_le, by omega, inside⟩,
      .day inside rfl rfl rfl⟩
  · have last : d.day = d.month.length (isLeapYear d.year) := by omega
    by_cases december : d.month = .december
    · have thirtyFirst : d.day = 31 := by rw [last, december]; rfl
      -- The last of December in the year 9999 is the last date of all.
      have inRange : d.year ≠ 9999 := by
        intro final
        have number := dayNumber_last_of_december december thirtyFirst
        have all : daysBeforeYear (9999 + 1) = dayCount := by decide
        rw [final, all] at number
        omega
      exact ⟨⟨d.year + 1, .january, 1, by omega, by omega, Nat.le_refl 1, Month.length_pos _ _⟩,
        .year december thirtyFirst rfl rfl rfl⟩
    · obtain ⟨m, next⟩ := Month.exists_next december
      exact ⟨⟨d.year, m, 1, year_pos, year_le, Nat.le_refl 1, m.length_pos _⟩,
        .month last rfl next rfl⟩

/-- The date with the next number is the next one of the calendar. -/
theorem dayNumber_succ_iff : e.dayNumber = d.dayNumber + 1 ↔ d.Next e := by
  refine ⟨?_, Next.dayNumber⟩
  intro succ
  obtain ⟨f, next⟩ := exists_next (succ ▸ e.dayNumber_lt)
  -- There is only one date with this number.
  obtain rfl : e = f := dayNumber_injective (succ.trans next.dayNumber.symm)
  exact next

end Date

/-- The day after has the next weekday. -/
theorem Weekday.ofDayNumber_succ (n : Nat) : ofDayNumber (n + 1) = (ofDayNumber n).next := by
  have week : ∀ r < 7, ofDayNumber (r + 1) = (ofDayNumber r).next := by decide
  have whole : ofDayNumber n = ofDayNumber (n % 7) := ofDayNumber_eq_iff.mpr (by omega)
  have next : ofDayNumber (n + 1) = ofDayNumber (n % 7 + 1) := ofDayNumber_eq_iff.mpr (by omega)
  rw [whole, next, week _ (Nat.mod_lt n (by decide))]

theorem Date.Next.weekday {d e : Date} (next : d.Next e) : e.weekday = d.weekday.next := by
  rw [Date.weekday, next.dayNumber, Weekday.ofDayNumber_succ]
  rfl

/-! ### Instants -/

namespace Instant

variable {i j : Instant}

/-- A day later a UTC clock shows the same time of the next day. -/
theorem civil_of_day_later (later : j.millis = i.millis + 86400000) :
    i.civil.date.Next j.civil.date ∧ j.civil.time = i.civil.time := by
  have micros := i.micros_civil
  have micros' := j.micros_civil
  have lt := i.civil.time.micros_lt
  have lt' := j.civil.time.micros_lt
  rw [later] at micros'
  simp only [Civil.micros, epochDay, microsPerDay] at micros micros' lt lt'
  have day : j.civil.date.dayNumber = i.civil.date.dayNumber + 1 := by omega
  have time : j.civil.time.micros = i.civil.time.micros := by omega
  refine ⟨Date.dayNumber_succ_iff.mp day, ?_⟩
  rw [← j.civil.time.ofMicros_micros, ← i.civil.time.ofMicros_micros]
  simp only [time]

/-- The time of day that a UTC clock shows, by the milliseconds of the day. -/
theorem time_civil (i : Instant) :
    (i.civil.time.hour : Int) = i.millis % 86400000 / 3600000 ∧
      (i.civil.time.minute : Int) = i.millis % 86400000 / 60000 % 60 ∧
      (i.civil.time.second : Int) = i.millis % 86400000 / 1000 % 60 ∧
      (i.civil.time.micro : Int) = 1000 * (i.millis % 86400000 % 1000) := by
  have millis := i.millis_of_civil
  have := i.civil.time.hour_lt
  have := i.civil.time.minute_lt
  have := i.civil.time.second_lt
  have := i.civil.time.micro_lt
  omega

end Instant

end CloudClient
