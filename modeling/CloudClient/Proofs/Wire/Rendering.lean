import CloudClient.Proofs.Wire.Resolution

namespace CloudClient

/-!
# What a rendered text states

* `WireFormat.shown` — the fields that the text of an instant spells (`spells_render`);
* `WireFormat.parse_render_iff` — which instant is read back from the text;
* `WireFormat.floor` — the last instant that the format can tell, not after a given one;
* `Text.isPlain`, `WireFormat.all_isPlain_render` — the characters of a rendered text.
-/

namespace WireFormat

variable {format : WireFormat} {pivot : CenturyPivot} {f : Fields} {i j : Instant}

/-- The part of a year that a text in the format states. -/
def yearField (year : Nat) : WireFormat → Nat
  | rfc822 => year % 100
  | rfc1123 | iso8601 | iso8601Seconds | asctime => year

/-- The part of the milliseconds that a text in the format states. -/
def milliField (milli : Nat) : WireFormat → Nat
  | iso8601 => milli
  | rfc1123 | rfc822 | iso8601Seconds | asctime => 0

/-- The fields that the text of an instant spells. -/
def shown (format : WireFormat) (i : Instant) : Fields :=
  { Fields.ofCivil i.civil with year := format.yearField i.civil.date.year }

/-- Of the year only the stated part is written. -/
theorem write_layout_yearField (format : WireFormat) (f : Fields) :
    format.layout.write { f with year := format.yearField f.year } = format.layout.write f := by
  cases format with
  | rfc822 =>
    have year : Text.decimal 2 (f.year % 100) = Text.decimal 2 f.year := Text.decimal_mod 2 f.year
    simp only [layout, yearField, Layout.write, List.flatMap_append, List.flatMap_cons, Piece.write,
      year]
    rfl
  | _ => rfl

/-- The fields of a clock fit every piece of a layout, if the year fits. -/
theorem fits_ofCivil (c : Civil) {year : Nat} {p : Piece} (long : year < 10 ^ 4)
    (short : p = .shortYear → year < 10 ^ 2) : p.Fits { Fields.ofCivil c with year := year } := by
  have day := c.date.day_le
  have month : c.date.month.length (isLeapYear c.date.year) ≤ 31 := by
    cases c.date.month <;> simp only [Month.length] <;> first | omega | (split <;> omega)
  have number : c.date.month.number ≤ 12 := by cases c.date.month <;> decide
  have hour := c.time.hour_lt
  have minute := c.time.minute_lt
  have second := c.time.second_lt
  have micro := c.time.micro_lt
  cases p with
  | literal _ | weekday => trivial
  | year => exact long
  | shortYear => exact short rfl
  | monthName => exact ⟨c.date.month, rfl⟩
  | _ => simp only [Piece.Fits, Fields.ofCivil]; omega

/-- The text of an instant spells the fields that it shows. -/
theorem spells_render (format : WireFormat) (i : Instant) :
    format.layout.Spells (format.shown i) (format.render i).toList := by
  have year := i.civil.date.year_le
  have long : format.yearField i.civil.date.year < 10 ^ 4 := by
    cases format <;> simp only [yearField] <;> omega
  rw [render, String.toList_ofList, ← write_layout_yearField]
  apply Layout.spells_write
  intro p mem
  refine fits_ofCivil i.civil long ?_
  rintro rfl
  -- Only RFC 822 has a short year.
  cases format with
  | rfc822 => exact Nat.mod_lt _ (by decide)
  | _ => exact absurd mem (by decide)

/-- From the text of an instant the instant is read at which a UTC clock shows the same fields, as
    far as the text states them. -/
theorem parse_render_iff :
    (pivot.parse format (.text (format.render i))).result = .ok j ↔
      j.civil.Shows { Fields.ofCivil i.civil with
        year := format.fullYear pivot (format.yearField i.civil.date.year)
        milli := format.milliField (i.civil.time.micro / 1000) } := by
  rw [CenturyPivot.parse_text_eq_ok_iff, readText_eq_ok_iff_of_spells (spells_render format i)]
  apply Civil.shows_congr
  cases format <;> rfl

/-- The last instant not after the given one that a text in the format can tell from others. -/
def floor (i : Instant) : WireFormat → Instant
  | iso8601 => i
  | rfc1123 | rfc822 | iso8601Seconds | asctime => i.floorSecond

/-- At this instant a UTC clock shows the fields as far as the format states the milliseconds. -/
theorem shows_floor (format : WireFormat) (i : Instant) :
    (format.floor i).civil.Shows
      { Fields.ofCivil i.civil with milli := format.milliField (i.civil.time.micro / 1000) } := by
  cases format with
  | iso8601 => exact i.shows_ofCivil
  | _ => exact i.shows_floorSecond

end WireFormat

/-! ### The characters of a text -/

/-- A space or a visible character of ASCII. -/
def Text.isPlain (c : Char) : Bool := 0x20 ≤ c.toNat && c.toNat < 0x7f

theorem Text.all_isPlain_decimal (width n : Nat) : (decimal width n).all isPlain = true := by
  rw [List.all_eq_true]
  intro c mem
  have digit := toNat_of_isDigit (List.all_eq_true.mp (all_isDigit_decimal width n) c mem)
  simp only [isPlain, Bool.and_eq_true, decide_eq_true_eq]
  omega

/-- Only a literal, which is the same for all fields, could be another character. -/
theorem Piece.all_isPlain_write {p : Piece} (unset : (p.write .unset).all Text.isPlain = true)
    (f : Fields) : (p.write f).all Text.isPlain = true := by
  have weekdays (w : Weekday) : w.abbreviation.all Text.isPlain = true := by cases w <;> rfl
  have months (m : Month) : m.abbreviation.all Text.isPlain = true := by cases m <;> rfl
  cases p with
  | literal d => exact unset
  | weekday => exact weekdays _
  | monthName => exact months _
  | spacedDay =>
    simp only [write]
    split
    · rw [List.all_cons, Text.all_isPlain_decimal]
      rfl
    · exact Text.all_isPlain_decimal _ _
  | _ => exact Text.all_isPlain_decimal _ _

/-- A rendered text is in ASCII, without line breaks. -/
theorem WireFormat.all_isPlain_render (format : WireFormat) (i : Instant) :
    (format.render i).toList.all Text.isPlain = true := by
  have unset : (format.layout.all fun p => (p.write .unset).all Text.isPlain) = true := by
    cases format <;> decide
  rw [render, String.toList_ofList, Layout.write, List.all_flatMap, List.all_eq_true]
  intro p mem
  exact Piece.all_isPlain_write (List.all_eq_true.mp unset p mem) _

/-- A time stamp is rendered as its instant. -/
theorem CenturyPivot.render_stamp {x : Stamp} {i : Instant} (format : WireFormat)
    (accepted : x.instant? = some i) : render format (.stamp x) = .ok (format.render i) := by
  have instant : (TimeValue.stamp x).instant = .ok i := by simp only [TimeValue.instant, accepted]
  rw [render, instant]
  rfl

end CloudClient
