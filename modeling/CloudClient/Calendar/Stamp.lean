import CloudClient.Calendar.Instant
import CloudClient.Text.Digits

namespace CloudClient

/-!
# Time stamps

A civil time to the microsecond, with the offset from UTC of the clock that showed it.  Without an
offset the clock is taken to show UTC.

* `Offset`, `Stamp` — the data;
* `Stamp.utcMicros` — the microseconds from the epoch, which may lie outside the years 1 to 9999;
* `Stamp.instant?` — the instant, if there is one;
* `Stamp.extended` — the stamp as a report shows it.
-/

/-- An offset from UTC: less than a day, in microseconds. -/
structure Offset where
  micros : Int
  neg_day_lt : -(microsPerDay : Int) < micros
  lt_day : micros < microsPerDay
deriving DecidableEq

/-- The offset of a number of microseconds, if it is less than a day. -/
def Offset.ofMicros? (n : Int) : Option Offset :=
  if h : -(microsPerDay : Int) < n ∧ n < microsPerDay then some ⟨n, h.1, h.2⟩ else none

/-- A civil time with the offset of its clock, if known. -/
structure Stamp where
  civil : Civil
  offset : Option Offset
deriving DecidableEq

namespace Stamp

/-- The microseconds from the epoch. -/
def utcMicros (s : Stamp) : Int := s.civil.micros - (s.offset.map Offset.micros).getD 0

/-- The instant of the stamp, without what lies below the millisecond, if its year in UTC is one of
    1 to 9999. -/
def instant? (s : Stamp) : Option Instant :=
  if h : firstMicro ≤ s.utcMicros ∧ s.utcMicros ≤ lastMicro then
    some (Instant.ofMicros s.utcMicros h.1 h.2)
  else none

/-- The stamp that a UTC clock shows at an instant. -/
def ofInstant (i : Instant) : Stamp := ⟨i.civil, none⟩

/-- A fraction of a second in microseconds, left out if zero. -/
def fractionText (micro : Nat) : List Char :=
  if micro = 0 then [] else '.' :: Text.decimal 6 micro

end Stamp

/-- An offset as `+hh:mm`, then its seconds and their fraction as far as they are not zero. -/
def Offset.text (o : Offset) : List Char :=
  let n := o.micros.natAbs
  let seconds := n / 1000000
  (if o.micros < 0 then '-' else '+') :: (Text.decimal 2 (seconds / 3600) ++
    ':' :: (Text.decimal 2 (seconds / 60 % 60) ++
      if n % 60000000 = 0 then []
      else ':' :: (Text.decimal 2 (seconds % 60) ++ Stamp.fractionText (n % 1000000))))

namespace Stamp

/-- The stamp in the extended notation `yyyy-MM-ddTHH:mm:ss`, then the fraction of the second if not
    zero, then the offset. -/
def extended (s : Stamp) : List Char :=
  let date := s.civil.date
  let time := s.civil.time
  Text.decimal 4 date.year ++ '-' :: (Text.decimal 2 date.month.number ++
    '-' :: (Text.decimal 2 date.day ++
      'T' :: (Text.decimal 2 time.hour ++
        ':' :: (Text.decimal 2 time.minute ++
          ':' :: (Text.decimal 2 time.second ++ fractionText time.micro ++
            (s.offset.map Offset.text).getD [])))))

/-- A stamp without an offset always denotes an instant. -/
theorem instant?_of_no_offset (c : Civil) : instant? ⟨c, none⟩ = some c.instant := by
  have utc : utcMicros ⟨c, none⟩ = c.micros := by simp [utcMicros]
  simp only [instant?, utc]
  rw [dif_pos ⟨c.firstMicro_le_micros, c.micros_le_lastMicro⟩]
  rfl

@[simp] theorem instant?_ofInstant (i : Instant) : (ofInstant i).instant? = some i := by
  rw [ofInstant, instant?_of_no_offset, Instant.instant_civil]

end Stamp

end CloudClient
