import CloudClient.Calendar.Date
import CloudClient.Calendar.TimeOfDay

namespace CloudClient

/-!
# Civil times

A date with a time of day, as a clock on the wall shows it, and its place on the line of
microseconds through the epoch, 1970-01-01T00:00:00.

* `Civil` — the date and the time;
* `Civil.micros`, `Civil.ofMicros` — the microseconds since the epoch and back, over the range
  `firstMicro`, …, `lastMicro` of the years 1 to 9999.
-/

/-- A date and a time of day. -/
structure Civil where
  date : Date
  time : TimeOfDay
deriving DecidableEq

/-- The number of the epoch's day. -/
def epochDay : Nat := 719162

/-- The first microsecond of year 1, counted from the epoch. -/
def firstMicro : Int := -62135596800000000

/-- The last microsecond of year 9999, counted from the epoch. -/
def lastMicro : Int := 253402300799999999

namespace Civil

/-- The microseconds from the epoch. -/
def micros (c : Civil) : Int :=
  ((c.date.dayNumber : Int) - epochDay) * microsPerDay + c.time.micros

/-- The civil time that comes a number of microseconds after the epoch. -/
def ofMicros (u : Int) (low : firstMicro ≤ u) (high : u ≤ lastMicro) : Civil :=
  let n := (u - firstMicro).toNat
  have bound : n < dayCount * microsPerDay := by
    simp only [n, firstMicro, lastMicro, dayCount, microsPerDay] at *
    omega
  { date := Date.ofDayNumber (n / microsPerDay) (Nat.div_lt_of_lt_mul (by rwa [Nat.mul_comm]))
    time := TimeOfDay.ofMicros (n % microsPerDay) (Nat.mod_lt _ (by decide)) }

theorem firstMicro_le_micros (c : Civil) : firstMicro ≤ c.micros := by
  simp only [micros, firstMicro, epochDay, microsPerDay]
  omega

theorem micros_le_lastMicro (c : Civil) : c.micros ≤ lastMicro := by
  have date := c.date.dayNumber_lt
  have time := c.time.micros_lt
  simp only [micros, lastMicro, epochDay, microsPerDay, dayCount] at *
  omega

theorem micros_ofMicros (u : Int) (low : firstMicro ≤ u) (high : u ≤ lastMicro) :
    (ofMicros u low high).micros = u := by
  simp only [micros, ofMicros, Date.dayNumber_ofDayNumber, TimeOfDay.micros_ofMicros]
  simp only [firstMicro, epochDay, microsPerDay] at *
  omega

theorem ofMicros_micros (c : Civil) :
    ofMicros c.micros c.firstMicro_le_micros c.micros_le_lastMicro = c := by
  have time := c.time.micros_lt
  -- Counted from the first microsecond of all, days and time of day are quotient and rest.
  have count : (c.micros - firstMicro).toNat = microsPerDay * c.date.dayNumber + c.time.micros := by
    simp only [micros, firstMicro, epochDay, microsPerDay]
    omega
  have day : (c.micros - firstMicro).toNat / microsPerDay = c.date.dayNumber := by
    rw [count, Nat.mul_add_div (by decide), Nat.div_eq_of_lt time, Nat.add_zero]
  have rest : (c.micros - firstMicro).toNat % microsPerDay = c.time.micros := by
    rw [count, Nat.mul_add_mod, Nat.mod_eq_of_lt time]
  cases c with
  | mk date time =>
    simp only [ofMicros, day, rest, Date.ofDayNumber_dayNumber, TimeOfDay.ofMicros_micros]

end Civil

end CloudClient
