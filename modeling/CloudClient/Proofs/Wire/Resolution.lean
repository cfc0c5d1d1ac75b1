import CloudClient.Proofs.Wire.Spelling
import CloudClient.Service.Request

namespace CloudClient

/-!
# Fields and the clock

When the fields that a text states form a date and a time, and at which instant a UTC clock shows
them.

* `Civil.Shows` — a clock shows the fields;
* `Fields.IsReal` — the fields form a date of the calendar and a time of day;
* `Fields.civil_eq_ok_iff`, `exists_shows_iff` — `Fields.civil` finds the civil time that shows the
  fields, and there is one exactly if the fields are real;
* `Instant.shows_ofCivil`, `Instant.shows_floorSecond` — what a UTC clock shows at an instant and at
  the last full second before it;
* `WireFormat.resolve_eq_ok_iff`, `readText_eq_ok_iff_of_spells` — which instant is found for fields
  and for a text that spells them;
* `CenturyPivot.result_parse_eq_ok_iff`, `CenturyPivot.parse_text` — a date service answers a value
  with what is read from it.
-/

/-- The clock shows the fields; their weekday does not count. -/
structure Civil.Shows (c : Civil) (f : Fields) : Prop where
  year_eq : c.date.year = f.year
  month_eq : c.date.month.number = f.month
  day_eq : c.date.day = f.day
  hour_eq : c.time.hour = f.hour
  minute_eq : c.time.minute = f.minute
  second_eq : c.time.second = f.second
  micro_eq : c.time.micro = 1000 * f.milli

/-- The fields form a date of the Gregorian calendar in the years 1 to 9999 and a time of day. -/
structure Fields.IsReal (f : Fields) : Prop where
  year : 1 ≤ f.year ∧ f.year ≤ 9999
  date : ∃ m : Month, m.number = f.month ∧ 1 ≤ f.day ∧ f.day ≤ m.length (isLeapYear f.year)
  hour_le : f.hour ≤ 23
  minute_le : f.minute ≤ 59
  second_le : f.second ≤ 59

/-- The weekday of the fields does not count. -/
theorem Civil.shows_congr {c : Civil} {f g : Fields} (same : { f with weekday := g.weekday } = g) :
    c.Shows f ↔ c.Shows g := by
  rw [← same]
  refine ⟨?_, ?_⟩
  all_goals
    rintro ⟨year, month, day, hour, minute, second, micro⟩
    exact ⟨year, month, day, hour, minute, second, micro⟩

/-! ### The civil time of fields -/

namespace Fields

variable {f : Fields}

/-- `Fields.date` finds the date with the year, the month and the day of the fields. -/
theorem date_eq_ok_iff {d : Date} :
    f.date = .ok d ↔ d.year = f.year ∧ d.month.number = f.month ∧ d.day = f.day := by
  unfold date
  refine ⟨?_, ?_⟩
  · intro found
    split at found
    · split at found
      · exact absurd found (by simp)
      · rename_i m number
        split at found
        · rw [Except.ok.injEq] at found
          subst found
          exact ⟨rfl, Month.number_of_ofNumber? number, rfl⟩
        · exact absurd found (by simp)
    · exact absurd found (by simp)
  · rintro ⟨year, month, day⟩
    cases f
    simp only at year month day
    subst year month day
    simp only [Month.ofNumber?_number]
    rw [dif_pos ⟨d.year_pos, d.year_le⟩, dif_pos ⟨d.day_pos, d.day_le⟩]

/-- `Fields.time` finds the time with the hour, the minute, the second and the last three digits of
    the milliseconds of the fields. -/
theorem time_eq_ok_iff {t : TimeOfDay} :
    f.time = .ok t ↔ t.hour = f.hour ∧ t.minute = f.minute ∧ t.second = f.second
      ∧ t.micro = f.milli % 1000 * 1000 := by
  unfold time
  refine ⟨?_, ?_⟩
  · intro found
    split at found
    · split at found
      · split at found
        · rw [Except.ok.injEq] at found
          subst found
          exact ⟨rfl, rfl, rfl, rfl⟩
        · exact absurd found (by simp)
      · exact absurd found (by simp)
    · exact absurd found (by simp)
  · rintro ⟨hour, minute, second, micro⟩
    rw [dif_pos (hour ▸ t.hour_lt), dif_pos (minute ▸ t.minute_lt), dif_pos (second ▸ t.second_lt)]
    cases t
    simp only at hour minute second micro
    subst hour minute second micro
    rfl

/-- `Fields.civil` finds the civil time that shows the fields. -/
theorem civil_eq_ok_iff {c : Civil} (milli : f.milli < 1000) : f.civil = .ok c ↔ c.Shows f := by
  -- Both parts have to be found, the date first.
  have parts : f.civil = .ok c ↔ f.date = .ok c.date ∧ f.time = .ok c.time := by
    unfold civil
    cases f.date <;> cases f.time <;> cases c <;> simp [bind, Except.bind, pure, Except.pure]
  rw [parts, date_eq_ok_iff, time_eq_ok_iff, Nat.mod_eq_of_lt milli, Nat.mul_comm]
  refine ⟨?_, ?_⟩
  · rintro ⟨⟨year, month, day⟩, hour, minute, second, micro⟩
    exact ⟨year, month, day, hour, minute, second, micro⟩
  · rintro ⟨year, month, day, hour, minute, second, micro⟩
    exact ⟨⟨year, month, day⟩, hour, minute, second, micro⟩

/-- Fields are shown by some clock exactly if they are real. -/
theorem exists_shows_iff (milli : f.milli < 1000) : (∃ c : Civil, c.Shows f) ↔ f.IsReal := by
  refine ⟨?_, ?_⟩
  · intro shown
    obtain ⟨⟨d, t⟩, year, month, day, hour, minute, second, -⟩ := shown
    have := d.year_pos
    have := d.year_le
    have := d.day_pos
    have := d.day_le
    have := t.hour_lt
    have := t.minute_lt
    have := t.second_lt
    simp only at year month day hour minute second
    exact ⟨by omega, ⟨d.month, month, by omega, by rw [← year, ← day]; assumption⟩,
      by omega, by omega, by omega⟩
  · intro real
    obtain ⟨year, ⟨m, month, low, high⟩, hour, minute, second⟩ := real
    exact ⟨⟨⟨f.year, m, f.day, year.1, year.2, low, high⟩,
      ⟨f.hour, f.minute, f.second, 1000 * f.milli, by omega, by omega, by omega, by omega⟩⟩,
      ⟨rfl, month, rfl, rfl, rfl, rfl, rfl⟩⟩

end Fields

/-! ### Clocks and instants -/

/-- Different civil times lie at different microseconds. -/
theorem Civil.micros_injective {c d : Civil} (h : c.micros = d.micros) : c = d := by
  rw [← c.ofMicros_micros, ← d.ofMicros_micros]
  simp only [h]

/-- A clock that shows whole milliseconds shows the same again at the instant. -/
theorem Civil.civil_instant {c : Civil} (whole : c.time.micro % 1000 = 0) :
    c.instant.civil = c := by
  apply Civil.micros_injective
  rw [Instant.micros_civil]
  show 1000 * (c.micros / 1000) = c.micros
  simp only [Civil.micros, TimeOfDay.micros, epochDay, microsPerDay]
  omega

/-- At fields that a clock shows there is an instant at which a UTC clock shows them. -/
theorem Civil.Shows.instant {c : Civil} {f : Fields} (h : c.Shows f) : c.instant.civil.Shows f := by
  rw [Civil.civil_instant (by rw [h.micro_eq]; omega)]
  exact h

namespace Instant

variable (i : Instant)

/-- An instant in microseconds, from the date and the parts of the time of day that a UTC clock
    shows. -/
theorem millis_of_civil : 1000 * i.millis
    = 86400000000 * ((i.civil.date.dayNumber : Int) - epochDay) + 3600000000 * i.civil.time.hour
      + 60000000 * i.civil.time.minute + 1000000 * i.civil.time.second + i.civil.time.micro := by
  rw [← i.micros_civil]
  simp only [Civil.micros, TimeOfDay.micros, microsPerDay]
  omega

/-- A UTC clock shows whole milliseconds. -/
theorem micro_civil : i.civil.time.micro = 1000 * (i.civil.time.micro / 1000) := by
  have millis := i.millis_of_civil
  omega

/-- A UTC clock shows the fields that are read off it. -/
theorem shows_ofCivil : i.civil.Shows (Fields.ofCivil i.civil) :=
  ⟨rfl, rfl, rfl, rfl, rfl, rfl, i.micro_civil⟩

/-- The last full second that is not after the instant. -/
def floorSecond : Instant where
  millis := 1000 * (i.millis / 1000)
  firstMilli_le := by have := i.firstMilli_le; simp only [firstMilli] at *; omega
  le_lastMilli := by have := i.le_lastMilli; simp only [lastMilli] at *; omega

/-- At the last full second a UTC clock shows the same date and time without the fraction. -/
theorem civil_floorSecond : i.floorSecond.civil
    = ⟨i.civil.date, { i.civil.time with micro := 0, micro_lt := by decide }⟩ := by
  apply Civil.micros_injective
  have micros := i.micros_civil
  have micro := i.civil.time.micro_lt
  rw [micros_civil]
  show 1000 * (1000 * (i.millis / 1000)) = _
  simp only [Civil.micros, TimeOfDay.micros, epochDay, microsPerDay] at micros ⊢
  omega

/-- At the last full second a UTC clock shows the same fields without milliseconds. -/
theorem shows_floorSecond :
    i.floorSecond.civil.Shows { Fields.ofCivil i.civil with milli := 0 } := by
  rw [civil_floorSecond]
  exact ⟨rfl, rfl, rfl, rfl, rfl, rfl, rfl⟩

end Instant

/-- Fields are shown by a UTC clock at some instant exactly if they are real. -/
theorem Fields.exists_instant_shows_iff (f : Fields) (milli : f.milli < 1000) :
    (∃ i : Instant, i.civil.Shows f) ↔ f.IsReal := by
  rw [← exists_shows_iff milli]
  refine ⟨?_, ?_⟩
  · intro shown
    obtain ⟨i, shows⟩ := shown
    exact ⟨i.civil, shows⟩
  · intro shown
    obtain ⟨c, shows⟩ := shown
    exact ⟨c.instant, shows.instant⟩

/-! ### The instant of fields -/

namespace WireFormat

variable {format : WireFormat} {pivot : CenturyPivot} {f : Fields} {i : Instant}

/-- The fields in the year that is meant.  Two digits from the pivot on stand for a year of the
    nineteen hundreds, those below it for one of the two thousands; four digits are the year. -/
def meant (format : WireFormat) (pivot : CenturyPivot) (f : Fields) : Fields :=
  { f with
    year :=
      if format = .rfc822 then if pivot.value ≤ f.year then 1900 + f.year else 2000 + f.year
      else f.year }

/-- This is the year that the format takes the field for. -/
theorem meant_eq_fullYear (format : WireFormat) (pivot : CenturyPivot) (f : Fields) :
    format.meant pivot f = { f with year := format.fullYear pivot f.year } := by
  cases format <;> rfl

/-- The instant of the fields that a text states is the one at which a UTC clock shows them. -/
theorem resolve_eq_ok_iff (milli : f.milli < 1000) :
    format.resolve pivot f = .ok i ↔ i.civil.Shows (format.meant pivot f) := by
  rw [meant_eq_fullYear]
  have civil {c : Civil} : Fields.civil { f with year := format.fullYear pivot f.year } = .ok c ↔
      c.Shows { f with year := format.fullYear pivot f.year } :=
    Fields.civil_eq_ok_iff milli
  unfold resolve
  refine ⟨?_, ?_⟩
  · intro found
    split at found
    · exact absurd found (by simp)
    · split at found
      · rename_i c shown
        rw [Except.ok.injEq] at found
        rw [← found]
        exact (civil.mp shown).instant
      · exact absurd found (by simp)
  · intro shows
    -- A clock shows no hour that the check on hours refuses.
    have hour : ¬ (format.checksHourFirst && decide (23 < f.hour)) = true := by
      have bound := i.civil.time.hour_lt
      rw [shows.hour_eq] at bound
      simp only [Bool.and_eq_true, decide_eq_true_eq, not_and, Nat.not_lt]
      intro
      exact Nat.le_of_lt_succ bound
    have shown : Fields.civil { f with year := format.fullYear pivot f.year } = .ok i.civil :=
      civil.mpr shows
    rw [if_neg hour, shown]
    exact congrArg _ i.instant_civil

/-- From a spelling of fields the instant is read at which a UTC clock shows them, as far as the
    format keeps them. -/
theorem readText_eq_ok_iff_of_spells {cs : List Char} (spelled : format.layout.Spells f cs) :
    format.readText pivot cs = .ok i ↔ i.civil.Shows (format.meant pivot (format.kept f)) := by
  rw [readText, read_layout_of_spells spelled]
  exact resolve_eq_ok_iff (milli_kept_lt spelled)

/-- Whatever is read is read from a spelling of fields. -/
theorem exists_spells_of_readText {cs : List Char} (read : format.readText pivot cs = .ok i) :
    ∃ f, format.layout.Spells f cs ∧ format.kept f = f := by
  unfold readText at read
  split at read
  · rename_i f found
    exact ⟨f, spells_layout_of_read found⟩
  · exact absurd read (by simp)

end WireFormat

namespace CenturyPivot

variable {pivot : CenturyPivot} {format : WireFormat} {v : Datum} {t : String} {i : Instant}

/-- A date service answers with the instant that is read from a value. -/
theorem result_parse_eq_ok_iff :
    (pivot.parse format v).result = .ok i ↔ format.read pivot v = .ok i := by
  unfold parse
  cases format.read pivot v <;> simp

/-- It refuses a value with a report on a malformed date. -/
theorem result_parse_eq_error_iff {e : DateError} : (pivot.parse format v).result = .error e ↔
    ∃ r, format.read pivot v = .error r ∧ e = r.error format v := by
  unfold parse
  cases format.read pivot v <;> simp [eq_comm]

theorem parse_text_eq_ok_iff :
    (pivot.parse format (.text t)).result = .ok i ↔ format.readText pivot t.toList = .ok i :=
  result_parse_eq_ok_iff

/-- A date service answers a text with the instant that is read from it, or with a report on a
    malformed date. -/
theorem parse_text (pivot : CenturyPivot) (format : WireFormat) (t : String) :
    (∃ i, format.readText pivot t.toList = .ok i ∧ (pivot.parse format (.text t)).result = .ok i) ∨
      ∃ r, format.readText pivot t.toList = .error r ∧
        (pivot.parse format (.text t)).result = .error (r.error format (.text t)) := by
  cases read : format.readText pivot t.toList with
  | ok i => exact .inl ⟨i, rfl, parse_text_eq_ok_iff.mpr read⟩
  | error r => exact .inr ⟨r, rfl, result_parse_eq_error_iff.mpr ⟨r, read, rfl⟩⟩

end CenturyPivot

end CloudClient
