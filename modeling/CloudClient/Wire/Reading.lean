import CloudClient.Datum
import CloudClient.Wire.Century
import CloudClient.Wire.Layout

namespace CloudClient

/-!
# Reading dates

From a value, which should be a text in a wire format, to an instant.

* `CalendarFault` — the part of a date or time that is out of range;
* `Fields.civil` — the civil time that fields state;
* `Rejection` — why a value is no date in a format;
* `WireFormat.read` — the instant that a value denotes.
-/

/-- The first part of a date or time that is out of range. -/
inductive CalendarFault where
  | year (year : Nat)
  | month
  | day
  | hour
  | minute
  | second
deriving DecidableEq, Repr

/-- The report on a part that is out of range. -/
def CalendarFault.message : CalendarFault → String
  | year y => s!"year {y} is out of range"
  | month => "month must be in 1..12"
  | day => "day is out of range for month"
  | hour => "hour must be in 0..23"
  | minute => "minute must be in 0..59"
  | second => "second must be in 0..59"

namespace Fields

/-- The date that the fields state, or the first of year, month and day that is out of range. -/
def date (f : Fields) : Except CalendarFault Date :=
  if hy : 1 ≤ f.year ∧ f.year ≤ 9999 then
    match Month.ofNumber? f.month with
    | none => .error .month
    | some m =>
      if hd : 1 ≤ f.day ∧ f.day ≤ m.length (isLeapYear f.year) then
        .ok ⟨f.year, m, f.day, hy.1, hy.2, hd.1, hd.2⟩
      else .error .day
  else .error (.year f.year)

/-- The time that the fields state, or the first of hour, minute and second that is out of range.
    Of the milliseconds the last three digits count. -/
def time (f : Fields) : Except CalendarFault TimeOfDay :=
  if hh : f.hour < 24 then
    if hm : f.minute < 60 then
      if hs : f.second < 60 then
        .ok ⟨f.hour, f.minute, f.second, f.milli % 1000 * 1000, hh, hm, hs, by omega⟩
      else .error .second
    else .error .minute
  else .error .hour

/-- The civil time that the fields state, whatever the weekday. -/
def civil (f : Fields) : Except CalendarFault Civil := do
  let date ← f.date
  let time ← f.time
  return ⟨date, time⟩

end Fields

/-- Why a value is no date in a format. -/
inductive Rejection where
  /-- The value is no text but of the kind named here. -/
  | notText (kind : String)
  /-- The text does not follow the layout. -/
  | layout
  /-- The hour of a text in one of the two ISO 8601 formats is no hour of a day. -/
  | hourOfDay
  /-- The text follows the layout, but its fields are no date and time. -/
  | calendar (fault : CalendarFault)
deriving DecidableEq, Repr

/-- The rejection comes from the calendar. -/
def Rejection.isCalendar : Rejection → Bool
  | calendar _ => true
  | notText _ | layout | hourOfDay => false

/-- The reason as a report gives it. -/
def Rejection.reason (f : WireFormat) : Rejection → String
  | notText kind => "expected str, got " ++ kind
  | layout => "expected " ++ f.pattern
  | hourOfDay => CalendarFault.hour.message
  | calendar fault => fault.message

namespace WireFormat

/-- The format is one of the two ISO 8601 formats, which are checked for the hour before anything
    else. -/
def checksHourFirst : WireFormat → Bool
  | iso8601 | iso8601Seconds => true
  | rfc1123 | rfc822 | asctime => false

/-- The year that the year field of the format stands for. -/
def fullYear (pivot : CenturyPivot) (year : Nat) : WireFormat → Nat
  | rfc822 => pivot.expand year
  | rfc1123 | iso8601 | iso8601Seconds | asctime => year

/-- The instant of the fields that a text in the format states.

    A text in one of the two ISO 8601 formats goes to a parser that is not part of this library.  Of
    a text of the layout it is taken to accept just what the calendar accepts, and to give the same
    date and time or the same report, so the fields are taken here for these formats too.  Only the
    hour 24 it takes for the start of the next day, and this hour does not get to it. -/
def resolve (f : WireFormat) (pivot : CenturyPivot) (fields : Fields) : Except Rejection Instant :=
  if f.checksHourFirst && 23 < fields.hour then .error .hourOfDay
  else
    match { fields with year := f.fullYear pivot fields.year }.civil with
    | .ok civil => .ok civil.instant
    | .error fault => .error (.calendar fault)

/-- The instant that a text in the format denotes. -/
def readText (f : WireFormat) (pivot : CenturyPivot) (cs : List Char) : Except Rejection Instant :=
  match f.layout.read .unset cs with
  | some fields => f.resolve pivot fields
  | none => .error .layout

/-- The instant that a value denotes in the format. -/
def read (f : WireFormat) (pivot : CenturyPivot) : Datum → Except Rejection Instant
  | .scalar (.text s) => f.readText pivot s.toList
  | other => .error (.notText other.kind)

end WireFormat

/-- The report on a value that was taken for a date and is none. -/
structure MalformedDate where
  value : Datum
  /-- The format it was read in, if known. -/
  format : Option WireFormat
  /-- What is wrong with it, if known. -/
  reason : Option String

/-- The report in words; an empty reason is left out. -/
def MalformedDate.message (m : MalformedDate) : String :=
  let target := (m.format.map WireFormat.name).getD "date"
  let reason := m.reason.getD ""
  "Malformed " ++ target ++ " string: " ++ m.value.literal ++
    if reason.isEmpty then "" else " (" ++ reason ++ ")"

end CloudClient
