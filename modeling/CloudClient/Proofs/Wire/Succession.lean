import CloudClient.Proofs.Calendar.Milliseconds
import CloudClient.Proofs.Calendar.Succession
import CloudClient.Proofs.Wire.Grammar
import CloudClient.Proofs.Wire.Respelling

namespace CloudClient

/-!
# The text of the day after

What becomes of the text of an instant a day later: the time of day stays, the weekday is the next
one and the date goes on by the rule of the calendar.

* `WireFormat.States` — the text states a clock reading under a weekday;
* `WireFormat.states_render` — the text of an instant states what a UTC clock shows;
* `render_day_later` — the texts of two instants that are a day apart.
-/

namespace WireFormat

/-- The text states the clock reading under the weekday, as far as the format has room for it: of
    the year only two digits in RFC 822, and milliseconds only in ISO 8601. -/
structure States (format : WireFormat) (w : Weekday) (c : Civil) (s : String) : Prop where
  written : Written format
    { Fields.ofCivil c with
      year := format.yearField c.date.year
      milli := format.milliField (c.time.micro / 1000) } s.toList
  spelled : format.RightlySpelled w s.toList

/-- The text of an instant is filled with the milliseconds that the format has room for. -/
theorem written_render (format : WireFormat) (i : Instant) :
    Written format
      { Fields.ofCivil i.civil with
        year := format.yearField i.civil.date.year
        milli := format.milliField (i.civil.time.micro / 1000) } (format.render i).toList := by
  -- It is the text of the last instant that the format can tell, too.
  have shows := shows_floor format i
  have spelled := spells_render format (format.floor i)
  rw [render_floor, shown, shows.ofCivil_eq, shows.year_eq] at spelled
  exact written_iff_spells.mpr
    ⟨by cases format <;> rfl, (format.floor i).civil.date.weekday, spelled⟩

/-- The text of an instant is spelled under the weekday of its date. -/
theorem rightlySpelled_render (format : WireFormat) (i : Instant) :
    format.RightlySpelled i.civil.date.weekday (format.render i).toList := by
  rw [← respelled_eq_self_iff, ← write_eq_respelled (spells_render format i), render,
    String.toList_ofList]
  exact write_layout_yearField format (Fields.ofCivil i.civil)

/-- The text of an instant states what a UTC clock shows. -/
theorem states_render (format : WireFormat) (i : Instant) :
    format.States i.civil.date.weekday i.civil (format.render i) :=
  ⟨written_render format i, rightlySpelled_render format i⟩

end WireFormat

/-- Two numbers of milliseconds in range that are a day apart are rendered, in every format, with
    the same time of day, which is the rest of the number split into hours, minutes, seconds and
    milliseconds; and the second text has the weekday after that of the first one and the date that
    comes next in the calendar. -/
theorem render_day_later (n : Int) (low : -62135596800000 ≤ n)
    (high : n + 86400000 ≤ 253402300799999) :
    ∃ c c' : Civil,
      TimeValue.ofMillis n = .ok (.stamp ⟨c, none⟩) ∧
      TimeValue.ofMillis (n + 86400000) = .ok (.stamp ⟨c', none⟩) ∧
      ((c.time.hour : Int) = n % 86400000 / 3600000 ∧
        (c.time.minute : Int) = n % 86400000 / 60000 % 60 ∧
        (c.time.second : Int) = n % 86400000 / 1000 % 60 ∧
        (c.time.micro : Int) = 1000 * (n % 86400000 % 1000)) ∧
      c'.time = c.time ∧ c.date.Next c'.date ∧
      ∀ format, ∃ s s',
        CenturyPivot.render format (.stamp ⟨c, none⟩) = .ok s ∧
        format.States c.date.weekday c s ∧
        CenturyPivot.render format (.stamp ⟨c', none⟩) = .ok s' ∧
        format.States c.date.weekday.next c' s' := by
  have inRange : firstMilli ≤ n ∧ n ≤ lastMilli := ⟨low, by simp only [lastMilli]; omega⟩
  have inRange' : firstMilli ≤ n + 86400000 ∧ n + 86400000 ≤ lastMilli :=
    ⟨by simp only [firstMilli]; omega, high⟩
  obtain ⟨i, rfl⟩ : ∃ i : Instant, i.millis = n := ⟨⟨n, inRange.1, inRange.2⟩, rfl⟩
  obtain ⟨j, later⟩ : ∃ j : Instant, j.millis = i.millis + 86400000 :=
    ⟨⟨_, inRange'.1, inRange'.2⟩, rfl⟩
  obtain ⟨next, time⟩ := Instant.civil_of_day_later later
  refine ⟨i.civil, j.civil, TimeValue.ofMillis_eq_ok_iff.mpr ⟨i, rfl, rfl⟩,
    TimeValue.ofMillis_eq_ok_iff.mpr ⟨j, later, rfl⟩, i.time_civil, time, next, ?_⟩
  intro format
  refine ⟨format.render i, format.render j,
    CenturyPivot.render_stamp format (Stamp.instant?_ofInstant i), format.states_render i,
    CenturyPivot.render_stamp format (Stamp.instant?_ofInstant j), ?_⟩
  rw [← next.weekday]
  exact format.states_render j

/-- The year 1900 is a common one, so that 1 March follows on 28 February. -/
theorem render_day_later_without_leap_day :
    ∃ v v' : TimeValue,
      TimeValue.ofMillis (-2203934400000) = .ok v ∧
      TimeValue.ofMillis (-2203934400000 + 86400000) = .ok v' ∧
      CenturyPivot.render .rfc1123 v = .ok "Wed, 28 Feb 1900 12:00:00 GMT" ∧
      CenturyPivot.render .rfc1123 v' = .ok "Thu, 01 Mar 1900 12:00:00 GMT" ∧
      ∃ c c' : Civil, c.date.Next c'.date ∧ c.date.day = 28 ∧ c'.date.day = 1 ∧
        WireFormat.States .rfc1123 .wednesday c "Wed, 28 Feb 1900 12:00:00 GMT" ∧
        WireFormat.States .rfc1123 .thursday c' "Thu, 01 Mar 1900 12:00:00 GMT" := by
  obtain ⟨c, c', made, made', -, -, next, texts⟩ :=
    render_day_later (-2203934400000) (by decide) (by decide)
  obtain ⟨s, s', rendered, states, rendered', states'⟩ := texts .rfc1123
  -- These are the readings of a UTC clock.
  have first : TimeValue.ofMillis (-2203934400000)
      = .ok (.stamp ⟨(Instant.mk (-2203934400000) (by decide) (by decide)).civil, none⟩) := rfl
  have second : TimeValue.ofMillis (-2203934400000 + 86400000)
      = .ok (.stamp ⟨(Instant.mk (-2203848000000) (by decide) (by decide)).civil, none⟩) := rfl
  cases first.symm.trans made
  cases second.symm.trans made'
  obtain rfl : s = "Wed, 28 Feb 1900 12:00:00 GMT" := Except.ok.inj (rendered.symm.trans rfl)
  obtain rfl : s' = "Thu, 01 Mar 1900 12:00:00 GMT" := Except.ok.inj (rendered'.symm.trans rfl)
  exact ⟨_, _, made, made', rendered, rendered', _, _, next, by decide +kernel, by decide +kernel,
    states, states'⟩

end CloudClient
