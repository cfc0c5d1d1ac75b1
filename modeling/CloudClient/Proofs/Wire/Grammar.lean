import CloudClient.Proofs.Wire.Resolution

namespace CloudClient

open Text

/-!
# The grammar of the formats

The five formats written out in full, apart from the table that drives reading and writing.

* `Written` — a text is the layout of a format filled with fields;
* `written_iff_spells` — the texts of the grammar are the spellings of `WireFormat.layout`;
* `Written.readText_eq_ok_iff`, `exists_written_of_readText` — which instant is read from a text of
  the grammar, and that nothing is read from any other text;
* `parse_succeeds_iff_written` — the texts that a date service accepts, and what it makes of them.
-/

/-- The time of day `hh:mm:ss`. -/
inductive ClockText (h m s : Nat) : List Char → Prop where
  | intro {hh mm ss : List Char} (hour : Numeral 2 h hh) (minute : Numeral 2 m mm)
      (second : Numeral 2 s ss) : ClockText h m s (hh ++ [':'] ++ mm ++ [':'] ++ ss)

/-- The text is the layout of the format filled with the fields, the year as the text states it.
    The weekday in the text may be any one. -/
inductive Written : WireFormat → Fields → List Char → Prop where
  /-- `Www, dd Mon yyyy hh:mm:ss GMT` -/
  | rfc1123 {f : Fields} (w : Weekday) {m : Month} {dd yyyy clock : List Char}
      (day : Numeral 2 f.day dd) (month : m.number = f.month) (year : Numeral 4 f.year yyyy)
      (time : ClockText f.hour f.minute f.second clock) (milli : f.milli = 0) :
      Written .rfc1123 f
        (w.abbreviation ++ [',', ' '] ++ dd ++ [' '] ++ m.abbreviation ++ [' '] ++ yyyy ++ [' '] ++
          clock ++ [' ', 'G', 'M', 'T'])
  /-- `Www, dd Mon yy hh:mm:ss GMT` -/
  | rfc822 {f : Fields} (w : Weekday) {m : Month} {dd yy clock : List Char}
      (day : Numeral 2 f.day dd) (month : m.number = f.month) (year : Numeral 2 f.year yy)
      (time : ClockText f.hour f.minute f.second clock) (milli : f.milli = 0) :
      Written .rfc822 f
        (w.abbreviation ++ [',', ' '] ++ dd ++ [' '] ++ m.abbreviation ++ [' '] ++ yy ++ [' '] ++
          clock ++ [' ', 'G', 'M', 'T'])
  /-- `yyyy-MM-ddThh:mm:ss.SSSZ` -/
  | iso8601 {f : Fields} {yyyy mm dd clock sss : List Char}
      (year : Numeral 4 f.year yyyy) (month : Numeral 2 f.month mm) (day : Numeral 2 f.day dd)
      (time : ClockText f.hour f.minute f.second clock) (milli : Numeral 3 f.milli sss) :
      Written .iso8601 f
        (yyyy ++ ['-'] ++ mm ++ ['-'] ++ dd ++ ['T'] ++ clock ++ ['.'] ++ sss ++ ['Z'])
  /-- `yyyy-MM-ddThh:mm:ssZ` -/
  | iso8601Seconds {f : Fields} {yyyy mm dd clock : List Char}
      (year : Numeral 4 f.year yyyy) (month : Numeral 2 f.month mm) (day : Numeral 2 f.day dd)
      (time : ClockText f.hour f.minute f.second clock) (milli : f.milli = 0) :
      Written .iso8601Seconds f
        (yyyy ++ ['-'] ++ mm ++ ['-'] ++ dd ++ ['T'] ++ clock ++ ['Z'])
  /-- `Www Mon DD hh:mm:ss yyyy`, where `DD` is two digits or a space and one digit -/
  | asctime {f : Fields} (w : Weekday) {m : Month} {dd clock yyyy : List Char}
      (month : m.number = f.month)
      (day : Numeral 2 f.day dd ∨ ∃ d, Numeral 1 f.day d ∧ dd = ' ' :: d)
      (time : ClockText f.hour f.minute f.second clock) (year : Numeral 4 f.year yyyy)
      (milli : f.milli = 0) :
      Written .asctime f
        (w.abbreviation ++ [' '] ++ m.abbreviation ++ [' '] ++ dd ++ [' '] ++ clock ++ [' '] ++
          yyyy)

/-! ### The grammar and the layouts -/

/-- The clock of a layout is spelled by the time of day. -/
theorem Layout.spells_clock_iff {f : Fields} {cs : List Char} :
    Layout.clock.Spells f cs ↔ ClockText f.hour f.minute f.second cs := by
  simp only [clock, spells_cons_iff, spells_nil_iff, Piece.Spells, ↓existsAndEq, and_true, true_and,
    List.append_nil, List.cons_append, List.nil_append]
  refine ⟨?_, ?_⟩
  · rintro ⟨hh, mm, ss, hour, ⟨minute, second⟩, rfl⟩
    have text := ClockText.intro hour minute second
    simpa using text
  · rintro ⟨hour, minute, second⟩
    exact ⟨_, _, _, hour, ⟨minute, second⟩, by simp⟩

open Layout in
/-- The texts of the grammar are the spellings of the layout with any weekday. -/
theorem written_iff_spells {format : WireFormat} {f : Fields} {cs : List Char} :
    Written format f cs ↔
      f.milli = (format.kept f).milli ∧ ∃ w, format.layout.Spells { f with weekday := w } cs := by
  cases format
  all_goals simp only [WireFormat.layout, WireFormat.kept, spells_append_iff, spells_cons_iff,
    spells_nil_iff, spells_literals_iff, spells_clock_iff, Piece.Spells, ↓existsAndEq, and_true,
    true_and, exists_and_left, List.append_nil, List.cons_append, List.nil_append]
  case rfc1123 =>
    refine ⟨?_, ?_⟩
    · intro text
      cases text with
      | rfc1123 w day month year time milli =>
        exact ⟨milli, w, _, _, _, _, ⟨day, month, year, time⟩, by simp⟩
    · rintro ⟨milli, w, dd, m, yyyy, clock, ⟨day, month, year, time⟩, rfl⟩
      have text := Written.rfc1123 w day month year time milli
      simpa using text
  case rfc822 =>
    refine ⟨?_, ?_⟩
    · intro text
      cases text with
      | rfc822 w day month year time milli =>
        exact ⟨milli, w, _, _, _, _, ⟨day, month, year, time⟩, by simp⟩
    · rintro ⟨milli, w, dd, m, yy, clock, ⟨day, month, year, time⟩, rfl⟩
      have text := Written.rfc822 w day month year time milli
      simpa using text
  case iso8601 =>
    refine ⟨?_, ?_⟩
    · intro text
      cases text with
      | iso8601 year month day time milli =>
        exact ⟨.monday, _, year, _, _, _, _, ⟨month, day, time, milli⟩, by simp⟩
    · rintro ⟨-, yyyy, year, mm, dd, clock, sss, ⟨month, day, time, milli⟩, rfl⟩
      have text := Written.iso8601 year month day time milli
      simpa using text
  case iso8601Seconds =>
    refine ⟨?_, ?_⟩
    · intro text
      cases text with
      | iso8601Seconds year month day time milli =>
        exact ⟨milli, .monday, _, year, _, _, _, ⟨month, day, time⟩, by simp⟩
    · rintro ⟨milli, -, yyyy, year, mm, dd, clock, ⟨month, day, time⟩, rfl⟩
      have text := Written.iso8601Seconds year month day time milli
      simpa using text
  case asctime =>
    refine ⟨?_, ?_⟩
    · intro text
      cases text with
      | asctime w month day time year milli =>
        exact ⟨milli, w, _, _, _, _, ⟨month, day, time, year⟩, by simp⟩
    · rintro ⟨milli, w, m, dd, clock, yyyy, ⟨month, day, time, year⟩, rfl⟩
      have text := Written.asctime w month day time year milli
      simpa using text

/-! ### What is read -/

section

variable {pivot : CenturyPivot} {format : WireFormat} {f : Fields} {cs : List Char} {i : Instant}

/-- From a text of the grammar the instant is read at which a UTC clock shows the fields, in the
    year that is meant. -/
theorem Written.readText_eq_ok_iff (written : Written format f cs) :
    format.readText pivot cs = .ok i ↔ i.civil.Shows (format.meant pivot f) := by
  obtain ⟨milli, w, spelled⟩ := written_iff_spells.mp written
  rw [WireFormat.readText_eq_ok_iff_of_spells spelled]
  -- What has been read are the fields with another weekday.
  simp only [WireFormat.meant_eq_fullYear]
  apply Civil.shows_congr
  cases format <;> simp_all [WireFormat.kept, WireFormat.fullYear]

/-- Nothing is read from a text outside the grammar. -/
theorem exists_written_of_readText (read : format.readText pivot cs = .ok i) :
    ∃ f, Written format f cs := by
  obtain ⟨f, spelled, kept⟩ := WireFormat.exists_spells_of_readText read
  exact ⟨f, written_iff_spells.mpr ⟨by rw [kept], f.weekday, spelled⟩⟩

/-- The milliseconds of the fields of a text are below a thousand. -/
theorem Written.milli_lt (written : Written format f cs) : f.milli < 1000 := by
  obtain ⟨milli, w, spelled⟩ := written_iff_spells.mp written
  have bound := WireFormat.milli_kept_lt spelled
  cases format <;> simp_all [WireFormat.kept]

end

/-- A date service accepts a text exactly if it is the layout of the format filled with fields that
    form a date and a time, where two digits for the year from the pivot on mean one of the nineteen
    hundreds and those below it one of the two thousands; and the instant that it answers is the one
    at which a UTC clock shows these fields. -/
theorem parse_succeeds_iff_written (pivot : CenturyPivot) (format : WireFormat) (t : String) :
    let meant (f : Fields) : Fields :=
      { f with
        year :=
          if format = .rfc822 then if pivot.value ≤ f.year then 1900 + f.year else 2000 + f.year
          else f.year }
    ((∃ i, (pivot.parse format (.text t)).result = .ok i) ↔
      ∃ f, Written format f t.toList ∧ (meant f).IsReal) ∧
    ∀ f, Written format f t.toList →
      ∀ i, (pivot.parse format (.text t)).result = .ok i ↔ i.civil.Shows (meant f) := by
  intro meant
  have spelled (f : Fields) : meant f = format.meant pivot f := rfl
  simp only [spelled, CenturyPivot.parse_text_eq_ok_iff]
  refine ⟨⟨?_, ?_⟩, ?_⟩
  · intro accepted
    obtain ⟨i, read⟩ := accepted
    obtain ⟨f, written⟩ := exists_written_of_readText read
    have shows := written.readText_eq_ok_iff.mp read
    have real := ((format.meant pivot f).exists_instant_shows_iff written.milli_lt).mp ⟨i, shows⟩
    exact ⟨f, written, real⟩
  · intro filled
    obtain ⟨f, written, real⟩ := filled
    obtain ⟨i, shows⟩ := ((format.meant pivot f).exists_instant_shows_iff written.milli_lt).mpr real
    exact ⟨i, written.readText_eq_ok_iff.mpr shows⟩
  · intro f written i
    exact written.readText_eq_ok_iff

/-- A leap day under a wrong weekday is accepted.  Whether it is one of 1964 or of 2064 depends on
    the pivot. -/
theorem parse_succeeds_leap_day :
    Written .rfc822 ⟨.monday, 64, 2, 29, 23, 59, 59, 0⟩ "Wed, 29 Feb 64 23:59:59 GMT".toList ∧
      (∃ i, (CenturyPivot.parse ⟨64, by decide⟩ .rfc822
          (.text "Wed, 29 Feb 64 23:59:59 GMT")).result = .ok i ∧
        i.civil.Shows ⟨.monday, 1964, 2, 29, 23, 59, 59, 0⟩) ∧
      ∃ i, (CenturyPivot.parse ⟨65, by decide⟩ .rfc822
          (.text "Wed, 29 Feb 64 23:59:59 GMT")).result = .ok i ∧
        i.civil.Shows ⟨.monday, 2064, 2, 29, 23, 59, 59, 0⟩ := by
  have two (n : Nat) (cs : List Char) (read : decimalValue? cs = some n) (length : cs.length = 2) :
      Numeral 2 n cs := numeral_of_decimalValue? length read
  have clock : ClockText 23 59 59 _ := .intro (two 23 ['2', '3'] rfl rfl)
    (two 59 ['5', '9'] rfl rfl) (two 59 ['5', '9'] rfl rfl)
  have written : Written .rfc822 ⟨.monday, 64, 2, 29, 23, 59, 59, 0⟩ _ :=
    .rfc822 (m := .february) .wednesday (two 29 ['2', '9'] rfl rfl) rfl
      (two 64 ['6', '4'] rfl rfl) clock rfl
  change Written _ _ "Wed, 29 Feb 64 23:59:59 GMT".toList at written
  have early := parse_succeeds_iff_written ⟨64, by decide⟩ .rfc822 "Wed, 29 Feb 64 23:59:59 GMT"
  have late := parse_succeeds_iff_written ⟨65, by decide⟩ .rfc822 "Wed, 29 Feb 64 23:59:59 GMT"
  obtain ⟨i, accepted⟩ := early.1.mpr ⟨_, written, by decide, ⟨.february, by decide⟩, by decide,
    by decide, by decide⟩
  obtain ⟨j, accepted'⟩ := late.1.mpr ⟨_, written, by decide, ⟨.february, by decide⟩, by decide,
    by decide, by decide⟩
  exact ⟨written, ⟨i, accepted, (early.2 _ written i).mp accepted⟩,
    ⟨j, accepted', (late.2 _ written j).mp accepted'⟩⟩

end CloudClient
