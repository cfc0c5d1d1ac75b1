namespace CloudClient

/-!
# Times of day

* `TimeOfDay` — a time of day to the microsecond, valid by its type; there are no leap seconds;
* `TimeOfDay.micros`, `TimeOfDay.ofMicros` — the microseconds since midnight and back.
-/

/-- A time of day to the microsecond. -/
structure TimeOfDay where
  hour : Nat
  minute : Nat
  second : Nat
  micro : Nat
  hour_lt : hour < 24
  minute_lt : minute < 60
  second_lt : second < 60
  micro_lt : micro < 1000000
deriving DecidableEq

/-- The number of microseconds of a day. -/
def microsPerDay : Nat := 86400000000

namespace TimeOfDay

/-- The microseconds since midnight. -/
def micros (t : TimeOfDay) : Nat := ((t.hour * 60 + t.minute) * 60 + t.second) * 1000000 + t.micro

/-- The time that comes a number of microseconds after midnight. -/
def ofMicros (n : Nat) (h : n < microsPerDay) : TimeOfDay where
  hour := n / 3600000000
  minute := n / 60000000 % 60
  second := n / 1000000 % 60
  micro := n % 1000000
  hour_lt := by simp only [microsPerDay] at h; omega
  minute_lt := by omega
  second_lt := by omega
  micro_lt := by omega

/-- The time with the given parts, if there is one. -/
def ofParts? (hour minute second micro : Nat) : Option TimeOfDay :=
  if h : hour < 24 ∧ minute < 60 ∧ second < 60 ∧ micro < 1000000 then
    some ⟨hour, minute, second, micro, h.1, h.2.1, h.2.2.1, h.2.2.2⟩
  else none

theorem micros_lt (t : TimeOfDay) : t.micros < microsPerDay := by
  have := t.hour_lt
  have := t.minute_lt
  have := t.second_lt
  have := t.micro_lt
  simp only [micros, microsPerDay]
  omega

theorem micros_ofMicros (n : Nat) (h : n < microsPerDay) : (ofMicros n h).micros = n := by
  simp only [micros, ofMicros]
  omega

theorem ofMicros_micros (t : TimeOfDay) : ofMicros t.micros t.micros_lt = t := by
  have := t.hour_lt
  have := t.minute_lt
  have := t.second_lt
  have := t.micro_lt
  cases t with
  | mk hour minute second micro _ _ _ _ =>
    simp only [ofMicros, micros, mk.injEq] at *
    omega

end TimeOfDay

end CloudClient
