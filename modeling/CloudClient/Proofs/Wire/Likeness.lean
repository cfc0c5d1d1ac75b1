import CloudClient.Proofs.Calendar.Cycle
import CloudClient.Proofs.Wire.RoundTrip
import Mathlib.Data.Int.ModEq

namespace CloudClient

/-!
# Instants rendered alike

What the text of an instant does not tell.

* `WireFormat.render_eq_iff` — two instants have the same text exactly if the parts that the format
  states are the same;
* `Instant.second_eq`, `Instant.second_modEq_iff` — the full seconds from the epoch, by the date and
  the time of day;
* `render_rfc822_eq_iff_modEq` — with two digits of the year and the weekday, instants have the same
  text exactly if whole cycles of four hundred years lie between their seconds.
-/

/-! ### What the text tells -/

namespace WireFormat

variable {format : WireFormat} {i j : Instant}

/-- What the format does not keep is not written. -/
theorem write_layout_kept (format : WireFormat) (f : Fields) :
    format.layout.write (format.kept f) = format.layout.write f := by
  cases format <;> rfl

/-- Two instants are rendered alike exactly if the parts that a text in the format states are the
    same. -/
theorem render_eq_iff :
    format.render i = format.render j ↔
      format.kept (format.shown i) = format.kept (format.shown j) := by
  refine ⟨?_, ?_⟩
  · intro same
    -- The one text is read as the parts of both instants.
    have first := read_layout_of_spells (format.spells_render i)
    rw [same, read_layout_of_spells (format.spells_render j)] at first
    exact (Option.some.inj first).symm
  · intro same
    have written (i : Instant) : format.layout.write (format.kept (format.shown i))
        = format.layout.write (Fields.ofCivil i.civil) :=
      (write_layout_kept _ _).trans (write_layout_yearField _ _)
    unfold render
    rw [← written i, ← written j, same]

/-- A text with two digits of the year tells them, the weekday, the month, the day and the time of
    day. -/
theorem render_rfc822_eq_iff : render .rfc822 i = render .rfc822 j ↔
    (i.civil.date.weekday = j.civil.date.weekday ∧
      i.civil.date.year % 100 = j.civil.date.year % 100 ∧
      i.civil.date.month = j.civil.date.month ∧ i.civil.date.day = j.civil.date.day) ∧
    i.civil.time.hour = j.civil.time.hour ∧ i.civil.time.minute = j.civil.time.minute ∧
      i.civil.time.second = j.civil.time.second := by
  have number : i.civil.date.month.number = j.civil.date.month.number ↔
      i.civil.date.month = j.civil.date.month := ⟨Month.number_injective, congrArg _⟩
  rw [render_eq_iff]
  simp only [kept, shown, yearField, Fields.ofCivil, Fields.mk.injEq, number, and_true, and_assoc]

end WireFormat

/-! ### Seconds from the epoch -/

/-- The full seconds since midnight. -/
def TimeOfDay.secondOfDay (t : TimeOfDay) : Nat := (t.hour * 60 + t.minute) * 60 + t.second

/-- The full seconds since midnight tell the hour, the minute and the second. -/
theorem TimeOfDay.secondOfDay_eq_iff {t u : TimeOfDay} : t.secondOfDay = u.secondOfDay ↔
    t.hour = u.hour ∧ t.minute = u.minute ∧ t.second = u.second := by
  have := t.minute_lt
  have := t.second_lt
  have := u.minute_lt
  have := u.second_lt
  unfold secondOfDay
  omega

theorem TimeOfDay.secondOfDay_lt (t : TimeOfDay) : t.secondOfDay < 86400 := by
  have := t.hour_lt
  have := t.minute_lt
  have := t.second_lt
  unfold secondOfDay
  omega

namespace Instant

/-- The last full second, counted from the epoch. -/
theorem second_eq (i : Instant) : i.millis / 1000
    = ((i.civil.date.dayNumber : Int) - epochDay) * 86400 + i.civil.time.secondOfDay := by
  have millis := i.millis_of_civil
  have micro := i.civil.time.micro_lt
  unfold TimeOfDay.secondOfDay
  omega

/-- Whole cycles lie between the full seconds of two instants exactly if whole cycles lie between
    their days and the time of day is the same. -/
theorem second_modEq_iff {i j : Instant} : i.millis / 1000 ≡ j.millis / 1000 [ZMOD 12622780800] ↔
    i.civil.date.dayNumber % 146097 = j.civil.date.dayNumber % 146097 ∧
      i.civil.time.secondOfDay = j.civil.time.secondOfDay := by
  have first := i.civil.time.secondOfDay_lt
  have second := j.civil.time.secondOfDay_lt
  rw [i.second_eq, j.second_eq]
  unfold Int.ModEq
  omega

end Instant

/-- With two digits of the year and the weekday, two instants have the same text exactly if whole
    cycles lie between their days and the time of day is the same. -/
theorem WireFormat.render_rfc822_eq_iff_cycle {i j : Instant} :
    render .rfc822 i = render .rfc822 j ↔
      i.civil.date.dayNumber % 146097 = j.civil.date.dayNumber % 146097 ∧
        i.civil.time.secondOfDay = j.civil.time.secondOfDay := by
  rw [render_rfc822_eq_iff, TimeOfDay.secondOfDay_eq_iff, Date.dayNumber_mod_cycle_iff]
  refine and_congr_left fun _ => ?_
  refine ⟨?_, ?_⟩
  · rintro ⟨weekday, year, month, day⟩
    exact ⟨(Date.weekday_eq_iff_cycle year month day).mp weekday, month, day⟩
  · rintro ⟨cycle, month, day⟩
    have year : i.civil.date.year % 100 = j.civil.date.year % 100 := by omega
    exact ⟨(Date.weekday_eq_iff_cycle year month day).mpr cycle, year, month, day⟩

/-- With two digits of the year and the weekday, two time stamps have the same text exactly if whole
    cycles of four hundred years, 12622780800 seconds each, lie between their last full seconds.  So
    the texts of time stamps with other centuries between their years always differ. -/
theorem render_rfc822_eq_iff_modEq (x y : Stamp) (i j : Instant) (first : x.instant? = some i)
    (second : y.instant? = some j) :
    ∃ s t, CenturyPivot.render .rfc822 (.stamp x) = .ok s ∧
      CenturyPivot.render .rfc822 (.stamp y) = .ok t ∧
      (s = t ↔ i.millis / 1000 ≡ j.millis / 1000 [ZMOD 12622780800]) ∧
      ∀ centuries, ¬ 4 ∣ centuries → j.civil.date.year = i.civil.date.year + 100 * centuries →
        s ≠ t := by
  refine ⟨_, _, CenturyPivot.render_stamp .rfc822 first, CenturyPivot.render_stamp .rfc822 second,
    WireFormat.render_rfc822_eq_iff_cycle.trans Instant.second_modEq_iff.symm, ?_⟩
  intro centuries uneven year same
  obtain ⟨cycle, -, -⟩ :=
    Date.dayNumber_mod_cycle_iff.mp (WireFormat.render_rfc822_eq_iff_cycle.mp same).1
  rw [year] at cycle
  omega

/-- The leap days of 1600 and 2000 are written alike, on clocks in different zones too, and the
    first of March of 1900 and of 2000 are not. -/
theorem render_rfc822_leap_days_alike :
    (∃ s, CenturyPivot.render .rfc822 (.stamp
          ⟨⟨⟨1600, .february, 29, by decide, by decide, by decide, by decide⟩,
            ⟨12, 0, 0, 500000, by decide, by decide, by decide, by decide⟩⟩, none⟩) = .ok s ∧
        CenturyPivot.render .rfc822 (.stamp
          ⟨⟨⟨2000, .february, 29, by decide, by decide, by decide, by decide⟩,
            ⟨13, 0, 0, 0, by decide, by decide, by decide, by decide⟩⟩,
            some ⟨3600000000, by decide, by decide⟩⟩) = .ok s) ∧
      ∃ s t, CenturyPivot.render .rfc822 (.stamp
          ⟨⟨⟨1900, .march, 1, by decide, by decide, by decide, by decide⟩,
            ⟨12, 0, 0, 0, by decide, by decide, by decide, by decide⟩⟩, none⟩) = .ok s ∧
        CenturyPivot.render .rfc822 (.stamp
          ⟨⟨⟨2000, .march, 1, by decide, by decide, by decide, by decide⟩,
            ⟨12, 0, 0, 0, by decide, by decide, by decide, by decide⟩⟩, none⟩) = .ok t ∧ s ≠ t := by
  refine ⟨?_, ?_⟩
  · obtain ⟨s, t, hs, ht, alike, -⟩ := render_rfc822_eq_iff_modEq
      ⟨⟨⟨1600, .february, 29, by decide, by decide, by decide, by decide⟩,
        ⟨12, 0, 0, 500000, by decide, by decide, by decide, by decide⟩⟩, none⟩
      ⟨⟨⟨2000, .february, 29, by decide, by decide, by decide, by decide⟩,
        ⟨13, 0, 0, 0, by decide, by decide, by decide, by decide⟩⟩,
        some ⟨3600000000, by decide, by decide⟩⟩
      ⟨-11670955199500, by decide, by decide⟩ ⟨951825600000, by decide, by decide⟩
      (by decide +kernel) (by decide +kernel)
    obtain rfl := alike.mpr (by decide)
    exact ⟨s, hs, ht⟩
  · obtain ⟨s, t, hs, ht, -, differ⟩ := render_rfc822_eq_iff_modEq
      ⟨⟨⟨1900, .march, 1, by decide, by decide, by decide, by decide⟩,
        ⟨12, 0, 0, 0, by decide, by decide, by decide, by decide⟩⟩, none⟩
      ⟨⟨⟨2000, .march, 1, by decide, by decide, by decide, by decide⟩,
        ⟨12, 0, 0, 0, by decide, by decide, by decide, by decide⟩⟩, none⟩
      ⟨-2203848000000, by decide, by decide⟩ ⟨951912000000, by decide, by decide⟩
      (by decide +kernel) (by decide +kernel)
    exact ⟨s, t, hs, ht, differ 1 (by decide) (by decide +kernel)⟩

end CloudClient
