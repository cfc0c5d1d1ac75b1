import CloudClient.Proofs.Wire.Likeness

namespace CloudClient

/-!
# The order of clock readings

A UTC clock shows the later of two instants as the greater reading, when its parts are compared from
the year down.

* `Date.dayNumber_lt_iff` — dates are numbered in the order of year, month and day;
* `TimeOfDay.secondOfDay_lt_iff` — the seconds of a day in the order of hour, minute and second;
* `Instant.second_lt_iff`, `Instant.millis_lt_iff` — instants in the order of their readings.
-/

/-- A month is over before any later one begins. -/
theorem Month.daysBefore_add_length_le_daysBefore (leap : Bool) {m n : Month}
    (lt : m.number < n.number) : m.daysBefore leap + m.length leap ≤ n.daysBefore leap := by
  revert lt
  cases leap <;> cases m <;> cases n <;> decide

namespace Date

variable {d e : Date}

theorem daysBeforeYear_le_dayNumber (d : Date) : daysBeforeYear d.year ≤ d.dayNumber := by
  unfold dayNumber
  omega

/-- A date that is earlier by its year, its month or its day has a smaller number. -/
theorem dayNumber_lt_of_earlier (earlier : d.year < e.year ∨ d.year = e.year ∧
    (d.month.number < e.month.number ∨ d.month.number = e.month.number ∧ d.day < e.day)) :
    d.dayNumber < e.dayNumber := by
  have inYear := d.dayNumber_lt_next_year
  have day := d.day_le
  have pos := d.day_pos
  have pos' := e.day_pos
  rcases earlier with year | ⟨year, month | ⟨month, later⟩⟩
  · have years := daysBeforeYear_mono (Nat.le_add_left 1 d.year) year
    have := e.daysBeforeYear_le_dayNumber
    omega
  · have months := Month.daysBefore_add_length_le_daysBefore (isLeapYear d.year) month
    unfold dayNumber
    rw [← year]
    omega
  · unfold dayNumber
    rw [← year, Month.number_injective month]
    omega

/-- Dates are numbered in the order of the year, then the month, then the day. -/
theorem dayNumber_lt_iff : d.dayNumber < e.dayNumber ↔ d.year < e.year ∨ d.year = e.year ∧
    (d.month.number < e.month.number ∨ d.month.number = e.month.number ∧ d.day < e.day) := by
  refine ⟨?_, dayNumber_lt_of_earlier⟩
  intro lt
  -- Otherwise the two are the same date, or the other one is the earlier.
  by_contra notEarlier
  by_cases same : d.year = e.year ∧ d.month.number = e.month.number ∧ d.day = e.day
  · have number : d.dayNumber = e.dayNumber := by
      unfold dayNumber
      rw [same.1, Month.number_injective same.2.1, same.2.2]
    omega
  · have gt : e.dayNumber < d.dayNumber := dayNumber_lt_of_earlier (by omega)
    omega

theorem dayNumber_eq_iff : d.dayNumber = e.dayNumber ↔
    d.year = e.year ∧ d.month.number = e.month.number ∧ d.day = e.day := by
  have lt := dayNumber_lt_iff (d := d) (e := e)
  have gt := dayNumber_lt_iff (d := e) (e := d)
  omega

end Date

/-- The seconds of a day in the order of the hour, then the minute, then the second. -/
theorem TimeOfDay.secondOfDay_lt_iff {t u : TimeOfDay} : t.secondOfDay < u.secondOfDay ↔
    t.hour < u.hour ∨ t.hour = u.hour ∧ (t.minute < u.minute ∨ t.minute = u.minute ∧
      t.second < u.second) := by
  have := t.minute_lt
  have := t.second_lt
  have := u.minute_lt
  have := u.second_lt
  unfold secondOfDay
  omega

namespace Instant

variable {i j : Instant}

/-- Full seconds are in the order of the day, then the second of the day. -/
theorem second_lt_iff : i.millis / 1000 < j.millis / 1000 ↔
    i.civil.date.dayNumber < j.civil.date.dayNumber ∨
      i.civil.date.dayNumber = j.civil.date.dayNumber ∧
        i.civil.time.secondOfDay < j.civil.time.secondOfDay := by
  have first := i.civil.time.secondOfDay_lt
  have second := j.civil.time.secondOfDay_lt
  rw [i.second_eq, j.second_eq]
  omega

/-- The milliseconds after the last full second. -/
theorem millis_mod (i : Instant) : i.millis % 1000 = i.civil.time.micro / 1000 := by
  have millis := i.millis_of_civil
  have micro := i.civil.time.micro_lt
  omega

/-- Instants are in the order of the full second, then the milliseconds that a clock shows. -/
theorem millis_lt_iff : i.millis < j.millis ↔ i.millis / 1000 < j.millis / 1000 ∨
    i.millis / 1000 = j.millis / 1000 ∧
      i.civil.time.micro / 1000 < j.civil.time.micro / 1000 := by
  have first := i.millis_mod
  have second := j.millis_mod
  omega

end Instant

end CloudClient
