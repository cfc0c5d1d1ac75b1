import CloudClient.Calendar.Stamp
import CloudClient.Event
import CloudClient.Text.Numeral

namespace CloudClient

/-!
# Requests to a date service

* `DateError` — everything that can go wrong with dates, services and codecs;
* `DateError.errorClass`, `DateError.cause?` — how a caller tells these errors apart;
* `TimeValue` — what a caller hands over to be rendered;
* `Request`, `Reply` — what is asked of a service and what it answers;
* `CenturyPivot.answer` — the answer of a service with this pivot, and what it logs.
-/

/-- What can go wrong with dates, services and codecs. -/
inductive DateError where
  /-- A value is no date in a format. -/
  | malformed (report : MalformedDate) (calendarFault : Bool)
  /-- A value is no date in a format, but the report on it cannot show it. -/
  | unshowable (fault : ShowFault)
  /-- A value of the kind named here was to be rendered. -/
  | notATime (kind : String)
  /-- A time stamp is outside the years 1 to 9999 of UTC. -/
  | unrepresentable (stamp : Stamp)
  /-- A number of milliseconds leads outside the years 1 to 9999. -/
  | beyondCalendar
  /-- A century pivot is not one of 0 to 99. -/
  | invalidPivot (pivot : Int)
  /-- A codec was to be made without a service. -/
  | missingService
  /-- A codec was to be made without a format. -/
  | missingFormat
  /-- A text that should be a numeral is none. -/
  | notANumeral (e : Text.NumeralError)
  /-- A codec was to be registered under a format other than its own. -/
  | wrongFormat (codec : CodecLabel) (registered : WireFormat)

/-- The report in words. -/
def DateError.message : DateError → String
  | malformed report _ => report.message
  | unshowable fault => fault.message
  | notATime kind => "Expected a datetime, got " ++ kind
  | unrepresentable stamp =>
    String.ofList stamp.extended ++ " is outside the range representable in UTC"
  | beyondCalendar => "date value out of range"
  | invalidPivot pivot =>
    if Text.isTooLong pivot then ShowFault.tooLong.message
    else "century_pivot must be between 0 and 99, got " ++ toString pivot
  | missingService => "date_service is required"
  | missingFormat => genericCodecName ++ " needs a wire_format"
  | notANumeral e => e.message
  | wrongFormat codec registered =>
    "Codec " ++ codec.text ++ " is bound to " ++ codec.format.name ++ ", not " ++ registered.name

/-- The class of the error. -/
def DateError.errorClass : DateError → ErrorClass
  | malformed .. => .malformedDate
  | unshowable fault => fault.errorClass
  | unrepresentable _ | invalidPivot _ | notANumeral _ | wrongFormat .. => .value
  | notATime _ | missingService | missingFormat => .type
  | beyondCalendar => .overflow

/-- The class of the error that this one was raised from, if it has such a cause. -/
def DateError.cause? : DateError → Option ErrorClass
  | malformed _ calendarFault => if calendarFault then some .value else none
  | unrepresentable _ => some .overflow
  | _ => none

/-- What a caller hands over to be rendered. -/
inductive TimeValue where
  | stamp (s : Stamp)
  /-- A date without a time. -/
  | dateOnly
  | other (v : Datum)

namespace TimeValue

/-- The instant of the value, if it has one. -/
def instant : TimeValue → Except DateError Instant
  | stamp s =>
    match s.instant? with
    | some i => .ok i
    | none => .error (.unrepresentable s)
  | dateOnly => .error (.notATime "date")
  | other v => .error (.notATime v.kind)

/-- The instant a number of milliseconds after the epoch, as a value to be rendered. -/
def ofMillis (n : Int) : Except DateError TimeValue :=
  match Instant.ofMillis? n with
  | some i => .ok (.stamp (.ofInstant i))
  | none => .error .beyondCalendar

end TimeValue

/-- What is asked of a date service. -/
inductive Request where
  /-- The instant that a value denotes in a format. -/
  | parse (format : WireFormat) (value : Datum)
  /-- The text of a value in a format. -/
  | render (format : WireFormat) (value : TimeValue)

/-- What a date service answers. -/
inductive Reply where
  | instant (i : Instant)
  | text (s : String)
deriving DecidableEq

/-- What an operation leaves behind: what it logged, and its result. -/
structure Outcome (α : Type) where
  events : List Event
  result : Except DateError α

/-- The error that a report on a malformed date is raised as.  The report is made first, so a value
    that cannot be shown is an error of its own, which has nothing of the report. -/
def MalformedDate.error (report : MalformedDate) (calendarFault : Bool) : DateError :=
  match report.value.showFault? Datum.shownLevels with
  | some fault => .unshowable fault
  | none => .malformed report calendarFault

/-- A rejected value as an error. -/
def Rejection.error (format : WireFormat) (value : Datum) (r : Rejection) : DateError :=
  MalformedDate.error ⟨value, some format, some (r.reason format)⟩ r.isCalendar

/-- A text can always be shown. -/
theorem Rejection.error_text (format : WireFormat) (t : String) (r : Rejection) :
    r.error format (.text t)
      = .malformed ⟨.text t, some format, some (r.reason format)⟩ r.isCalendar := rfl

theorem Rejection.error_of_shown {format : WireFormat} {v : Datum} {r : Rejection}
    (shown : v.showFault? Datum.shownLevels = none) :
    r.error format v = .malformed ⟨v, some format, some (r.reason format)⟩ r.isCalendar := by
  rw [error, MalformedDate.error, shown]

theorem Rejection.error_of_unshown {format : WireFormat} {v : Datum} {r : Rejection}
    {fault : ShowFault} (found : v.showFault? Datum.shownLevels = some fault) :
    r.error format v = .unshowable fault := by
  rw [error, MalformedDate.error, found]

/-- A rejection is reported, or else its report fails. -/
theorem Rejection.error_cases (format : WireFormat) (v : Datum) (r : Rejection) :
    (∃ report, r.error format v = .malformed report r.isCalendar) ∨
      ∃ fault, r.error format v = .unshowable fault := by
  cases found : v.showFault? Datum.shownLevels with
  | none => exact .inl ⟨_, error_of_shown found⟩
  | some fault => exact .inr ⟨fault, error_of_unshown found⟩

namespace CenturyPivot

/-- The instant that a value denotes in a format, for a service with this pivot. -/
def parse (pivot : CenturyPivot) (format : WireFormat) (value : Datum) : Outcome Instant :=
  match format.read pivot value with
  | .ok i => ⟨[], .ok i⟩
  | .error r => ⟨(r.event? format value).toList, .error (r.error format value)⟩

/-- The text of a value in a format.  It does not depend on the pivot. -/
def render (format : WireFormat) (value : TimeValue) : Except DateError String :=
  value.instant.map format.render

/-- What a service with this pivot logs and answers. -/
def answer (pivot : CenturyPivot) : Request → Outcome Reply
  | .parse format value =>
    let outcome := pivot.parse format value
    ⟨outcome.events, outcome.result.map .instant⟩
  | .render format value => ⟨[], (render format value).map .text⟩

/-- The pivot of a number, or the report on it. -/
def ofInt (p : Int) : Except DateError CenturyPivot :=
  match ofInt? p with
  | some pivot => .ok pivot
  | none => .error (.invalidPivot p)

theorem isOk_ofInt_iff {p : Int} : (∃ pivot, ofInt p = .ok pivot) ↔ 0 ≤ p ∧ p ≤ 99 := by
  rw [← ofInt?_isSome_iff, ofInt]
  cases ofInt? p <;> simp

/-- The pivot has the number that it is made of. -/
theorem value_of_ofInt {p : Int} {pivot : CenturyPivot} (ok : ofInt p = .ok pivot) :
    (pivot.value : Int) = p := by
  unfold ofInt ofInt? at ok
  by_cases range : 0 ≤ p ∧ p ≤ 99
  · rw [dif_pos range] at ok
    obtain rfl := Except.ok.inj ok
    exact Int.toNat_of_nonneg range.1
  · rw [dif_neg range] at ok
    exact absurd ok (by simp)

theorem ofInt_eq_error_iff {p : Int} {e : DateError} :
    ofInt p = .error e ↔ ¬ (0 ≤ p ∧ p ≤ 99) ∧ e = .invalidPivot p := by
  rw [← ofInt?_isSome_iff, ofInt]
  cases ofInt? p <;> simp [eq_comm]

end CenturyPivot

end CloudClient
