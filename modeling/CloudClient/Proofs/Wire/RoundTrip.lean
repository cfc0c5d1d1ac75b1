import CloudClient.Proofs.Wire.Century
import CloudClient.Proofs.Wire.Rendering

namespace CloudClient

/-!
# Round trips

What comes back from the text of a time stamp.

* `parse_render_to_resolution` — with a full year in the text, the instant itself, as far as the
  format can tell it from others;
* `parse_render_two_digit_year` — with two digits of the year, the same date and time in the one
  year with these digits that the pivot covers; this date is missing in one case only.
-/

/-! ### What a format can tell -/

namespace WireFormat

variable {format : WireFormat} {pivot : CenturyPivot} {i : Instant} {year : Nat}

/-- A full year is read as it stands; two digits of a year are read as that year if it is
    covered. -/
theorem fullYear_yearField_iff :
    format.fullYear pivot (format.yearField year) = year ↔
      (format = .rfc822 → pivot.Covers year) := by
  cases format with
  | rfc822 =>
    rw [forall_prop_of_true rfl]
    exact CenturyPivot.expand_mod_eq_iff
  | _ => simp [fullYear, yearField]

/-- From the text of an instant the instant is read back, up to the resolution, exactly if the text
    tells the year. -/
theorem parse_render_floor_iff :
    (pivot.parse format (.text (format.render i))).result = .ok (format.floor i) ↔
      (format = .rfc822 → pivot.Covers i.civil.date.year) := by
  rw [parse_render_iff, ← fullYear_yearField_iff]
  have shows := format.shows_floor i
  refine ⟨?_, ?_⟩
  · intro back
    exact back.year_eq.symm.trans shows.year_eq
  · intro same
    rw [same]
    exact shows

/-- Only one format tells milliseconds. -/
theorem millis_floor (format : WireFormat) (i : Instant) :
    (format.floor i).millis
      = if format = .iso8601 then i.millis else 1000 * (i.millis / 1000) := by
  cases format <;> rfl

end WireFormat

/-! ### Formats with a full year -/

/-- In the formats with a full year, the text of every time stamp with an instant is read as that
    instant, to the millisecond or to the second before it; and so is the text of every number of
    milliseconds in range. -/
theorem parse_render_to_resolution (pivot : CenturyPivot) (format : WireFormat)
    (full : format ≠ .rfc822) :
    (∀ (x : Stamp) (i : Instant), x.instant? = some i →
      ∃ text j, CenturyPivot.render format (.stamp x) = .ok text ∧
        (pivot.parse format (.text text)).result = .ok j ∧
        j.millis = if format = .iso8601 then i.millis else 1000 * (i.millis / 1000)) ∧
    ∀ (n : Int) (v : TimeValue), TimeValue.ofMillis n = .ok v →
      ∃ text j, CenturyPivot.render format v = .ok text ∧
        (pivot.parse format (.text text)).result = .ok j ∧
        j.millis = if format = .iso8601 then n else 1000 * (n / 1000) := by
  have ofStamp (x : Stamp) (i : Instant) (accepted : x.instant? = some i) :
      ∃ text j, CenturyPivot.render format (.stamp x) = .ok text ∧
        (pivot.parse format (.text text)).result = .ok j ∧
        j.millis = if format = .iso8601 then i.millis else 1000 * (i.millis / 1000) :=
    ⟨format.render i, format.floor i, CenturyPivot.render_stamp format accepted,
      WireFormat.parse_render_floor_iff.mpr fun short => absurd short full, format.millis_floor i⟩
  refine ⟨ofStamp, ?_⟩
  intro n v made
  unfold TimeValue.ofMillis at made
  split at made
  · rename_i i found
    rw [Except.ok.injEq] at made
    rw [← made, ← Instant.millis_of_ofMillis? found]
    exact ofStamp (.ofInstant i) i (Stamp.instant?_ofInstant i)
  · exact absurd made (by simp)

/-- A millisecond before the epoch, on a clock that is an hour ahead, comes back as the second
    before the epoch, and so does the number of this millisecond. -/
theorem parse_render_before_epoch :
    (∃ text j, CenturyPivot.render .asctime (.stamp
          ⟨⟨⟨1970, .january, 1, by decide, by decide, by decide, by decide⟩,
            ⟨0, 59, 59, 999999, by decide, by decide, by decide, by decide⟩⟩,
            some ⟨3600000000, by decide, by decide⟩⟩) = .ok text ∧
        (CenturyPivot.parse ⟨69, by decide⟩ .asctime (.text text)).result = .ok j ∧
        j.millis = -1000) ∧
      ∃ v text j, TimeValue.ofMillis (-1) = .ok v ∧ CenturyPivot.render .asctime v = .ok text ∧
        (CenturyPivot.parse ⟨69, by decide⟩ .asctime (.text text)).result = .ok j ∧
        j.millis = -1000 := by
  have stated := parse_render_to_resolution ⟨69, by decide⟩ .asctime (by decide)
  have made : TimeValue.ofMillis (-1) = .ok (.stamp (.ofInstant ⟨-1, by decide, by decide⟩)) := rfl
  obtain ⟨text, j, rendered, parsed, millis⟩ := stated.2 _ _ made
  refine ⟨?_, _, text, j, made, rendered, parsed, millis⟩
  exact stated.1 ⟨⟨⟨1970, .january, 1, by decide, by decide, by decide, by decide⟩,
      ⟨0, 59, 59, 999999, by decide, by decide, by decide, by decide⟩⟩,
      some ⟨3600000000, by decide, by decide⟩⟩
    ⟨-1, by decide, by decide⟩ (by decide +kernel)

/-! ### Two digits of the year -/

/-- The months are told apart by their numbers. -/
theorem Month.number_injective {m n : Month} (same : m.number = n.number) : m = n := by
  have found := ofNumber?_number m
  rw [same, ofNumber?_number, Option.some.injEq] at found
  exact found.symm

/-- The day of a date is a day of the month in other years too, but for 29 February. -/
theorem Date.day_le_length_iff (d : Date) (leap : Bool) :
    d.day ≤ d.month.length leap ↔ ¬ (d.month = .february ∧ d.day = 29 ∧ leap = false) := by
  have day := d.day_le
  by_cases february : d.month = .february
  · rw [february] at day ⊢
    simp only [Month.length, true_and] at day ⊢
    cases leap <;> split at day <;> simp <;> omega
  · -- Any other month has the same length in every year.
    have length : d.month.length leap = d.month.length (isLeapYear d.year) := by
      cases m : d.month with
      | february => exact absurd m february
      | _ => rfl
    rw [length]
    simp only [february, false_and, not_false_iff, iff_true]
    exact day

/-- The fields of a clock, moved to another year, are real unless they are on 29 February there and
    the year is a common one. -/
theorem Fields.isReal_ofCivil_iff (c : Civil) {year : Nat} (range : 1 ≤ year ∧ year ≤ 9999)
    (milli : Nat) :
    ({ Fields.ofCivil c with year := year, milli := milli } : Fields).IsReal ↔
      ¬ (c.date.month = .february ∧ c.date.day = 29 ∧ isLeapYear year = false) := by
  rw [← c.date.day_le_length_iff]
  refine ⟨?_, ?_⟩
  · intro real
    obtain ⟨-, ⟨m, number, -, high⟩, -, -, -⟩ := real
    rw [← Month.number_injective number]
    exact high
  · intro high
    exact ⟨range, ⟨c.date.month, rfl, c.date.day_pos, high⟩, Nat.le_of_lt_succ c.time.hour_lt,
      Nat.le_of_lt_succ c.time.minute_lt, Nat.le_of_lt_succ c.time.second_lt⟩

section

variable {pivot : CenturyPivot} {i j : Instant}

/-- With two digits of the year the fields are read in the year that the digits stand for. -/
theorem parse_render_rfc822_iff :
    (pivot.parse .rfc822 (.text (WireFormat.rfc822.render i))).result = .ok j ↔
      j.civil.Shows { Fields.ofCivil i.civil with
        year := pivot.expand (i.civil.date.year % 100), milli := 0 } :=
  WireFormat.parse_render_iff

/-- Such a text is refused exactly if it leads to 29 February 1900. -/
theorem exists_parse_render_rfc822_iff :
    (∃ j, (pivot.parse .rfc822 (.text (WireFormat.rfc822.render i))).result = .ok j) ↔
      ¬ (pivot.value = 0 ∧ i.civil.date.month = .february ∧ i.civil.date.day = 29 ∧
        400 ∣ i.civil.date.year) := by
  have bound := pivot.le_ninetyNine
  have short : i.civil.date.year % 100 < 100 := Nat.mod_lt _ (by decide)
  have covered : pivot.Covers (pivot.expand (i.civil.date.year % 100)) := pivot.covers_expand short
  unfold CenturyPivot.Covers at covered
  simp only [parse_render_rfc822_iff]
  rw [Fields.exists_instant_shows_iff _ (Nat.zero_lt_succ _),
    Fields.isReal_ofCivil_iff _ (by omega), not_iff_not]
  -- On 29 February the year of the instant is a leap year.
  have leap (february : i.civil.date.month = .february) (day : i.civil.date.day = 29) :
      isLeapYear i.civil.date.year = true := by
    have exists29 := (i.civil.date.day_le_length_iff (isLeapYear i.civil.date.year)).mp
      i.civil.date.day_le
    simpa [february, day] using exists29
  have common (h : isLeapYear i.civil.date.year = true) :=
    not_iff_comm.mp (pivot.isLeapYear_expand_mod_iff h).symm
  refine ⟨?_, ?_⟩
  · intro common29
    obtain ⟨february, day, year⟩ := common29
    obtain ⟨zero, cycle⟩ := (common (leap february day)).mp (by rw [year]; decide)
    exact ⟨zero, february, day, cycle⟩
  · intro refused
    obtain ⟨zero, february, day, cycle⟩ := refused
    have year := (common (leap february day)).mpr ⟨zero, cycle⟩
    exact ⟨february, day, Bool.eq_false_iff.mpr year⟩

end

/-- With two digits of the year, the text of a time stamp is read as the same date and time of day
    in the one year with these digits that the pivot covers, or is reported as malformed.  It is
    refused exactly for 29 February of a year that four hundred divides, with pivot zero; and the
    stamp itself, without its fraction of a second, comes back exactly if the pivot covers its
    year. -/
theorem parse_render_two_digit_year (pivot : CenturyPivot) (x : Stamp) (i : Instant)
    (accepted : x.instant? = some i) :
    ∃ text, CenturyPivot.render .rfc822 (.stamp x) = .ok text ∧
      ((∃ j year, (∀ z, pivot.Covers z ∧ z % 100 = i.civil.date.year % 100 ↔ z = year) ∧
          (pivot.parse .rfc822 (.text text)).result = .ok j ∧
          j.civil.Shows { Fields.ofCivil i.civil with year := year, milli := 0 }) ∨
        ∃ report fault, (pivot.parse .rfc822 (.text text)).result
          = .error (.malformed report fault)) ∧
      ((∃ e, (pivot.parse .rfc822 (.text text)).result = .error e) ↔
        pivot.value = 0 ∧ i.civil.date.month = .february ∧ i.civil.date.day = 29 ∧
          400 ∣ i.civil.date.year) ∧
      ((pivot.parse .rfc822 (.text text)).result = .ok i.floorSecond ↔
        pivot.Covers i.civil.date.year) := by
  have back :
      (pivot.parse .rfc822 (.text (WireFormat.rfc822.render i))).result = .ok i.floorSecond ↔
        pivot.Covers i.civil.date.year :=
    WireFormat.parse_render_floor_iff.trans (forall_prop_of_true rfl)
  refine ⟨WireFormat.rfc822.render i, CenturyPivot.render_stamp .rfc822 accepted, ?_, ?_, back⟩
  · rcases pivot.parse_text .rfc822 (WireFormat.rfc822.render i) with
      ⟨j, -, answer⟩ | ⟨r, -, answer⟩
    · exact .inl ⟨j, _, fun z => CenturyPivot.covers_and_mod_iff, answer,
        parse_render_rfc822_iff.mp answer⟩
    · exact .inr ⟨_, _, answer⟩
  · rw [← not_iff_not, ← exists_parse_render_rfc822_iff]
    -- The answer is an instant or an error, never both.
    cases (pivot.parse .rfc822 (.text (WireFormat.rfc822.render i))).result <;> simp

/-- With pivot zero, the text of the leap day of 2000 is refused. -/
theorem parse_render_leap_day_refused :
    ∃ text e, CenturyPivot.render .rfc822 (.stamp
          ⟨⟨⟨2000, .february, 29, by decide, by decide, by decide, by decide⟩,
            ⟨12, 0, 0, 0, by decide, by decide, by decide, by decide⟩⟩, none⟩) = .ok text ∧
      (CenturyPivot.parse ⟨0, by decide⟩ .rfc822 (.text text)).result = .error e := by
  obtain ⟨text, rendered, -, refused, -⟩ := parse_render_two_digit_year ⟨0, by decide⟩
    ⟨⟨⟨2000, .february, 29, by decide, by decide, by decide, by decide⟩,
      ⟨12, 0, 0, 0, by decide, by decide, by decide, by decide⟩⟩, none⟩
    ⟨951825600000, by decide, by decide⟩ (by decide +kernel)
  obtain ⟨e, answer⟩ := refused.mpr (by decide +kernel)
  exact ⟨text, e, rendered, answer⟩

end CloudClient
