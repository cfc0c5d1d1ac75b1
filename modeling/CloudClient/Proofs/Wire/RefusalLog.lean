import CloudClient.Proofs.Wire.Refusal

namespace CloudClient

/-!
# What is logged of refused values

A date service logs one line for a value that it refuses, or none.

* `WireFormat.RefusesSilently` — a value that is refused without a line: one that is no text, or a
  text of the grammar whose hour is refused before its other fields are looked at;
* `Event.Reports` — the line that tells of a refused text;
* `Rejection.event?_of_silent`, `Rejection.event?_of_not_silent` — which reasons have a line;
* `refusal_logged_unless_silent` — what is logged of any value;
* `refusal_of_hour_unlogged` — two values that are refused without a line.
-/

/-- The value is no text, or a text of the grammar whose hour is refused. -/
def WireFormat.RefusesSilently (format : WireFormat) (v : Datum) : Prop :=
  (∀ t, v ≠ .text t) ∨ ∃ t f, v = .text t ∧ Written format f t.toList ∧ format.RefusesHour f

/-- The line tells of a text refused in the format, as a detail and from the date service: that the
    text does not follow the layout, or that a field is out of range, for the reason that the error
    gives. -/
structure Event.Reports (x : Event) (format : WireFormat) (t : String) (e : DateError) : Prop where
  level_eq : x.level = .debug
  source_eq : x.source = "cloudkit.date.date_service"
  message_eq : x.message = format.name ++ " grammar mismatch: " ++ Text.quote t ∨
    ∃ reason, e = .malformed ⟨.text t, some format, some reason⟩ true ∧
      x.message = format.name ++ " field out of range: " ++ Text.quote t ++ ": " ++ reason

namespace Rejection

variable {format : WireFormat} {pivot : CenturyPivot} {v : Datum} {r : Rejection}

theorem event?_of_silent (silent : format.RefusesSilently v)
    (refused : format.read pivot v = .error r) : r.event? format v = none := by
  rcases silent with other | ⟨t, f, rfl, written, hour⟩
  · cases v with
    | scalar s =>
      cases s with
      | text t => exact absurd rfl (other t)
      | _ => rfl
    | _ => rfl
  · rcases written.readText_cases pivot with ⟨-, found⟩ | ⟨passed, -⟩ | ⟨passed, -⟩
    · obtain rfl := Except.error.inj (refused.symm.trans found)
      rfl
    · exact absurd hour passed
    · exact absurd hour passed

theorem event?_of_not_silent (loud : ¬ format.RefusesSilently v)
    (refused : format.read pivot v = .error r) :
    ∃ t line, v = .text t ∧ r.event? format v = some line ∧
      line.Reports format t (r.error format v) := by
  obtain ⟨text, passed⟩ := not_or.mp loud
  obtain ⟨t, rfl⟩ : ∃ t, v = .text t := by simpa using text
  by_cases inside : ∃ f, Written format f t.toList
  · obtain ⟨f, written⟩ := inside
    rcases written.readText_cases pivot with ⟨hour, -⟩ | ⟨-, -, fault, found⟩ | ⟨-, -, i, found⟩
    · exact absurd ⟨t, f, rfl, written, hour⟩ passed
    · obtain rfl := Except.error.inj (refused.symm.trans found)
      exact ⟨t, .fieldOutOfRange format t fault, rfl, rfl, rfl, rfl, .inr ⟨_, rfl, rfl⟩⟩
    · exact absurd (refused.symm.trans found) (by simp)
  · have found : format.readText pivot t.toList = .error .layout :=
      WireFormat.readText_of_outside fun f written => inside ⟨f, written⟩
    obtain rfl := Except.error.inj (refused.symm.trans found)
    exact ⟨t, .layoutMismatch format t, rfl, rfl, rfl, rfl, .inl rfl⟩

end Rejection

namespace CenturyPivot

variable {format : WireFormat} {pivot : CenturyPivot} {v : Datum}

theorem events_parse_of_ok {i : Instant} (accepted : format.read pivot v = .ok i) :
    (pivot.parse format v).events = [] := by
  simp only [parse, accepted]

theorem events_parse_of_error {r : Rejection} (refused : format.read pivot v = .error r) :
    (pivot.parse format v).events = (r.event? format v).toList := by
  simp only [parse, refused]

end CenturyPivot

/-- A date service logs nothing of a value that it accepts.  Of one that it refuses it logs exactly
    one line, at the level of details, which names the format, shows the text and, if a field is out
    of range, gives the reason of the error.  Only two kinds of refused values leave no line: those
    that are no text, and in the ISO 8601 formats the texts of the grammar with an hour above 23. -/
theorem refusal_logged_unless_silent (pivot : CenturyPivot) (format : WireFormat) (v : Datum) :
    (∀ i, (pivot.parse format v).result = .ok i → (pivot.parse format v).events = []) ∧
    ∀ e, (pivot.parse format v).result = .error e →
      ((pivot.parse format v).events = [] ↔ format.RefusesSilently v) ∧
      (¬ format.RefusesSilently v → ∃ t line, v = .text t ∧
        (pivot.parse format v).events = [line] ∧ line.Reports format t e) := by
  refine ⟨?_, ?_⟩
  · intro i accepted
    exact CenturyPivot.events_parse_of_ok (CenturyPivot.result_parse_eq_ok_iff.mp accepted)
  · intro e answer
    obtain ⟨r, refused, rfl⟩ := CenturyPivot.result_parse_eq_error_iff.mp answer
    rw [CenturyPivot.events_parse_of_error refused]
    by_cases silent : format.RefusesSilently v
    · have nothing := Rejection.event?_of_silent silent refused
      exact ⟨iff_of_true (by rw [nothing]; rfl) silent, fun loud => absurd silent loud⟩
    · obtain ⟨t, line, text, logged, reports⟩ := Rejection.event?_of_not_silent silent refused
      rw [logged]
      exact ⟨iff_of_false (List.cons_ne_nil line []) silent, fun _ => ⟨t, line, text, rfl, reports⟩⟩

/-- A leap day of a common year, in a format that is checked for the hour first, is refused with a
    line. -/
theorem refusal_logged_of_leap_day :
    ¬ WireFormat.RefusesSilently .iso8601Seconds (.text "1995-02-29T16:00:00Z") ∧
    ∃ e line, (CenturyPivot.parse ⟨69, by decide⟩ .iso8601Seconds
        (.text "1995-02-29T16:00:00Z")).result = .error e ∧
      (CenturyPivot.parse ⟨69, by decide⟩ .iso8601Seconds
        (.text "1995-02-29T16:00:00Z")).events = [line] ∧
      line.Reports .iso8601Seconds "1995-02-29T16:00:00Z" e := by
  have read : WireFormat.readText .iso8601Seconds ⟨69, by decide⟩ "1995-02-29T16:00:00Z".toList
      = .error (.calendar .day) := rfl
  have loud : ¬ WireFormat.RefusesSilently .iso8601Seconds (.text "1995-02-29T16:00:00Z") := by
    rintro (other | ⟨t, f, same, written, hour⟩)
    · exact other _ rfl
    · cases same
      rcases written.readText_cases ⟨69, by decide⟩ with ⟨-, found⟩ | ⟨passed, -⟩ | ⟨passed, -⟩
      · exact absurd (read.symm.trans found) (by simp)
      · exact passed hour
      · exact passed hour
  obtain ⟨-, refused⟩ := refusal_logged_unless_silent ⟨69, by decide⟩ .iso8601Seconds
    (.text "1995-02-29T16:00:00Z")
  obtain ⟨t, line, same, logged, reports⟩ := (refused _ rfl).2 loud
  cases same
  exact ⟨loud, _, line, rfl, logged, reports⟩

/-- The hour 24 is refused without a line, and so is a value that is no text. -/
theorem refusal_of_hour_unlogged :
    (∃ e, (CenturyPivot.parse ⟨69, by decide⟩ .iso8601Seconds
        (.text "1994-12-01T24:00:00Z")).result = .error e ∧ e.errorClass = .malformedDate) ∧
      (CenturyPivot.parse ⟨69, by decide⟩ .iso8601Seconds (.text "1994-12-01T24:00:00Z")).events
        = [] ∧
      (∃ e, (CenturyPivot.parse ⟨69, by decide⟩ .rfc1123 (.scalar .null)).result = .error e ∧
        e.errorClass = .malformedDate) ∧
      (CenturyPivot.parse ⟨69, by decide⟩ .rfc1123 (.scalar .null)).events = [] :=
  ⟨⟨_, rfl, rfl⟩, rfl, ⟨_, rfl, rfl⟩, rfl⟩

end CloudClient
