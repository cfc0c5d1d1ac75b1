namespace CloudClient

/-!
# Months and weekdays

* `Month` — with its number, its English abbreviation, its length and the days before it;
* `Month.ofDayOfYear` — the month of a day of the year;
* `Weekday` — with its English abbreviation; the week starts on Monday;
* `Weekday.ofDayNumber` — the weekday of a day counted from a Monday.
-/

/-- A year is a leap year if four divides it and a hundred does not, or if four hundred does. -/
def isLeapYear (year : Nat) : Bool := year % 4 == 0 && (year % 100 != 0 || year % 400 == 0)

/-- A month of the Gregorian calendar. -/
inductive Month where
  | january | february | march | april | may | june
  | july | august | september | october | november | december
deriving DecidableEq, Repr

namespace Month

/-- The months in their order. -/
def all : List Month :=
  [january, february, march, april, may, june,
   july, august, september, october, november, december]

/-- The number of the month, from 1. -/
def number : Month → Nat
  | january => 1
  | february => 2
  | march => 3
  | april => 4
  | may => 5
  | june => 6
  | july => 7
  | august => 8
  | september => 9
  | october => 10
  | november => 11
  | december => 12

/-- The English abbreviation. -/
def abbreviation : Month → List Char
  | january => ['J', 'a', 'n']
  | february => ['F', 'e', 'b']
  | march => ['M', 'a', 'r']
  | april => ['A', 'p', 'r']
  | may => ['M', 'a', 'y']
  | june => ['J', 'u', 'n']
  | july => ['J', 'u', 'l']
  | august => ['A', 'u', 'g']
  | september => ['S', 'e', 'p']
  | october => ['O', 'c', 't']
  | november => ['N', 'o', 'v']
  | december => ['D', 'e', 'c']

/-- The number of days. -/
def length (leap : Bool) : Month → Nat
  | january | march | may | july | august | october | december => 31
  | april | june | september | november => 30
  | february => if leap then 29 else 28

/-- The number of days of the year before the month. -/
def daysBefore (leap : Bool) (m : Month) : Nat :=
  ((all.take (m.number - 1)).map (length leap)).foldr (· + ·) 0

/-- The month with a number, none if the number is not in `1..12`. -/
def ofNumber? (n : Nat) : Option Month := all.find? fun m => m.number = n

/-- The month with an abbreviation; case matters. -/
def ofAbbreviation? (cs : List Char) : Option Month := all.find? fun m => m.abbreviation = cs

/-- The month that holds a day of the year; days count from 0. -/
def ofDayOfYear (leap : Bool) (day : Nat) : Month :=
  (all.find? fun m => day < m.daysBefore leap + m.length leap).getD december

@[simp] theorem ofNumber?_number (m : Month) : ofNumber? m.number = some m := by
  cases m <;> rfl

@[simp] theorem ofAbbreviation?_abbreviation (m : Month) :
    ofAbbreviation? m.abbreviation = some m := by
  cases m <;> rfl

theorem number_of_ofNumber? {n : Nat} {m : Month} (h : ofNumber? n = some m) : m.number = n := by
  simpa using List.find?_some h

theorem abbreviation_of_ofAbbreviation? {cs : List Char} {m : Month}
    (h : ofAbbreviation? cs = some m) : m.abbreviation = cs := by
  simpa using List.find?_some h

@[simp] theorem length_abbreviation (m : Month) : m.abbreviation.length = 3 := by
  cases m <;> rfl

/-- Every day of the year lies in its month. -/
theorem ofDayOfYear_bounds (leap : Bool) (day : Nat) (h : day < if leap then 366 else 365) :
    (ofDayOfYear leap day).daysBefore leap ≤ day ∧
      day < (ofDayOfYear leap day).daysBefore leap + (ofDayOfYear leap day).length leap := by
  have leap_years : ∀ day < 366, (ofDayOfYear true day).daysBefore true ≤ day ∧
      day < (ofDayOfYear true day).daysBefore true + (ofDayOfYear true day).length true := by
    decide +kernel
  have common_years : ∀ day < 365, (ofDayOfYear false day).daysBefore false ≤ day ∧
      day < (ofDayOfYear false day).daysBefore false + (ofDayOfYear false day).length false := by
    decide +kernel
  cases leap
  · exact common_years day h
  · exact leap_years day h

/-- A day of a month leads back to the month. -/
theorem ofDayOfYear_daysBefore (leap : Bool) (m : Month) {day : Nat} (h : day < m.length leap) :
    ofDayOfYear leap (m.daysBefore leap + day) = m := by
  have each : ∀ day < 31, day < m.length leap →
      ofDayOfYear leap (m.daysBefore leap + day) = m := by
    cases leap <;> cases m <;> decide +kernel
  refine each day (Nat.lt_of_lt_of_le h ?_) h
  cases leap <;> cases m <;> decide

end Month

/-- A day of the week. -/
inductive Weekday where
  | monday | tuesday | wednesday | thursday | friday | saturday | sunday
deriving DecidableEq, Repr

namespace Weekday

/-- The days of the week in their order. -/
def all : List Weekday := [monday, tuesday, wednesday, thursday, friday, saturday, sunday]

/-- The English abbreviation. -/
def abbreviation : Weekday → List Char
  | monday => ['M', 'o', 'n']
  | tuesday => ['T', 'u', 'e']
  | wednesday => ['W', 'e', 'd']
  | thursday => ['T', 'h', 'u']
  | friday => ['F', 'r', 'i']
  | saturday => ['S', 'a', 't']
  | sunday => ['S', 'u', 'n']

/-- The weekday with an abbreviation; case matters. -/
def ofAbbreviation? (cs : List Char) : Option Weekday := all.find? fun w => w.abbreviation = cs

/-- The weekday of the day that comes `n` days after a Monday. -/
def ofDayNumber (n : Nat) : Weekday :=
  match n % 7 with
  | 0 => monday
  | 1 => tuesday
  | 2 => wednesday
  | 3 => thursday
  | 4 => friday
  | 5 => saturday
  | _ => sunday

@[simp] theorem ofAbbreviation?_abbreviation (w : Weekday) :
    ofAbbreviation? w.abbreviation = some w := by
  cases w <;> rfl

theorem abbreviation_of_ofAbbreviation? {cs : List Char} {w : Weekday}
    (h : ofAbbreviation? cs = some w) : w.abbreviation = cs := by
  simpa using List.find?_some h

@[simp] theorem length_abbreviation (w : Weekday) : w.abbreviation.length = 3 := by
  cases w <;> rfl

end Weekday

end CloudClient
