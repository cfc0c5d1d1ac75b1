import CloudClient.Proofs.Wire.Respelling

namespace CloudClient

open Text

/-!
# The texts of one instant

All formats write the same fields, each format at places of its own.  So most of one text can be
found in another.

* `Text.without`, `Text.spaceZero` — texts with a part left out, and with a space for a leading
  zero;
* `Layout.extract_write`, `Layout.without_write` — a part of a layout has its place in every text;
* `WireFormat.Concordant` — what texts in the five formats have in common if they show the same
  fields;
* `texts_concordant` — the texts of a time stamp do.
-/

/-- The text without the characters from one place up to another. -/
def Text.without (start stop : Nat) (cs : List Char) : List Char := cs.take start ++ cs.drop stop

/-- The text with a space for a zero that it starts with. -/
def Text.spaceZero (cs : List Char) : List Char :=
  if cs.head? = some '0' then ' ' :: cs.tail else cs

theorem Text.without_append {start stop : Nat} {front middle back : List Char}
    (first : front.length = start) (last : start + middle.length = stop) :
    without start stop (front ++ (middle ++ back)) = front ++ back := by
  have rest : (front ++ middle).length = stop := by rw [List.length_append, first, last]
  rw [without, List.take_left' first, ← List.append_assoc, List.drop_left' rest]

namespace Layout

variable {layout after : Layout} {start stop : Nat}

theorem write_singleton (p : Piece) (f : Fields) : write [p] f = p.write f :=
  List.append_nil (p.write f)

/-- A part of a layout is written at the place that the widths of the pieces give it. -/
theorem extract_write (f : Fields) (before part : Layout)
    (parts : layout = before ++ (part ++ after))
    (first : before.width = start) (last : start + part.width = stop) :
    (layout.write f).extract start stop = part.write f := by
  have front : (before.write f).length = start := (length_write _ _).trans first
  have middle : (part.write f).length = stop - start := by rw [length_write]; omega
  rw [parts, write_append, write_append, List.extract_eq_take_drop, List.drop_left' front,
    List.take_left' middle]

/-- Without the part, what is written is the text of the others. -/
theorem without_write (f : Fields) (before part : Layout)
    (parts : layout = before ++ (part ++ after))
    (first : before.width = start) (last : start + part.width = stop) :
    without start stop (layout.write f) = (before ++ after).write f := by
  rw [parts, write_append, write_append, write_append]
  exact without_append ((length_write _ _).trans first) (by rw [length_write, last])

end Layout

namespace WireFormat

/-- Texts in the five formats that show the same fields, compared character by character. -/
structure Concordant (text : WireFormat → List Char) : Prop where
  /-- The two ISO 8601 texts differ by the point and the milliseconds. -/
  seconds : text .iso8601Seconds = without 19 23 (text .iso8601)
  /-- RFC 822 leaves the first two digits of the year out. -/
  shortYear : text .rfc822 = without 12 14 (text .rfc1123)
  /-- The asctime text has the parts of the RFC 1123 text in another order. -/
  reordered : text .asctime =
    (text .rfc1123).extract 0 3 ++ [' '] ++ (text .rfc1123).extract 8 11 ++ [' '] ++
      spaceZero ((text .rfc1123).extract 5 7) ++ [' '] ++ (text .rfc1123).extract 17 25 ++ [' '] ++
      (text .rfc1123).extract 12 16
  day : (text .rfc1123).extract 5 7 = (text .iso8601).extract 8 10
  year : (text .rfc1123).extract 12 16 = (text .iso8601).extract 0 4
  time : (text .rfc1123).extract 17 25 = (text .iso8601).extract 11 19
  /-- The one text has the number of the month and the other one its name. -/
  month : ∃ n, decimalValue? ((text .iso8601).extract 5 7) = some (n + 1) ∧
    ["Jan", "Feb", "Mar", "Apr", "May", "Jun", "Jul", "Aug", "Sep", "Oct", "Nov", "Dec"][n]?
      = some (String.ofList ((text .rfc1123).extract 8 11))
  ascii : ∀ format, ∀ c ∈ text format, c.toNat < 128
  length : (text .rfc1123).length = 29 ∧ (text .rfc822).length = 27 ∧
    (text .iso8601).length = 24 ∧ (text .iso8601Seconds).length = 20 ∧ (text .asctime).length = 24

/-! ### Parts of the layouts -/

/-- Where the parts of an RFC 1123 text stand. -/
theorem extract_rfc1123 (f : Fields) :
    (rfc1123.layout.write f).extract 0 3 = Piece.weekday.write f ∧
    (rfc1123.layout.write f).extract 5 7 = Piece.day.write f ∧
    (rfc1123.layout.write f).extract 8 11 = Piece.monthName.write f ∧
    (rfc1123.layout.write f).extract 12 16 = Piece.year.write f ∧
    (rfc1123.layout.write f).extract 17 25 = Layout.clock.write f := by
  simp only [← Layout.write_singleton]
  refine ⟨?_, ?_, ?_, ?_, ?_⟩
  · exact Layout.extract_write f [] [_] rfl rfl rfl
  · exact Layout.extract_write f [_, _, _] [_] rfl rfl rfl
  · exact Layout.extract_write f [_, _, _, _, _] [_] rfl rfl rfl
  · exact Layout.extract_write f [_, _, _, _, _, _, _] [_] rfl rfl rfl
  · exact Layout.extract_write f [_, _, _, _, _, _, _, _, _] .clock rfl rfl rfl

/-- Where the parts of an ISO 8601 text stand. -/
theorem extract_iso8601 (f : Fields) :
    (iso8601.layout.write f).extract 0 4 = Piece.year.write f ∧
    (iso8601.layout.write f).extract 5 7 = Piece.month.write f ∧
    (iso8601.layout.write f).extract 8 10 = Piece.day.write f ∧
    (iso8601.layout.write f).extract 11 19 = Layout.clock.write f := by
  simp only [← Layout.write_singleton]
  refine ⟨?_, ?_, ?_, ?_⟩
  · exact Layout.extract_write f [] [_] rfl rfl rfl
  · exact Layout.extract_write f [_, _] [_] rfl rfl rfl
  · exact Layout.extract_write f [_, _, _, _] [_] rfl rfl rfl
  · exact Layout.extract_write f [_, _, _, _, _, _] .clock rfl rfl rfl

/-- Without the point and the milliseconds the one ISO 8601 text is the other. -/
theorem without_fraction (f : Fields) :
    without 19 23 (iso8601.layout.write f) = iso8601Seconds.layout.write f :=
  Layout.without_write f (.year :: _ :: .month :: _ :: .day :: _ :: Layout.clock) [_, .milli]
    rfl rfl rfl

/-- Without the first two digits of the year the RFC 1123 text is the RFC 822 text. -/
theorem without_century (f : Fields) :
    without 12 14 (rfc1123.layout.write f) = rfc822.layout.write f := by
  let front : Layout :=
    [.weekday, .literal ',', .literal ' ', .day, .literal ' ', .monthName, .literal ' ']
  let back : Layout := .literal ' ' :: (Layout.clock ++ Layout.literals [' ', 'G', 'M', 'T'])
  have long : rfc1123.layout = front ++ .year :: back := rfl
  have short : rfc822.layout = front ++ .shortYear :: back := rfl
  -- The four digits are no two pieces, but the last two are written like the short year.
  have year : Piece.year.write f = decimal 2 (f.year / 100) ++ Piece.shortYear.write f :=
    decimal_add 2 2 f.year
  rw [long, short, Layout.write_append, Layout.write_append, Layout.write_cons .year,
    Layout.write_cons .shortYear, year, List.append_assoc]
  exact without_append (Layout.length_write front f) rfl

/-- A day of two digits is written with a space for a leading zero. -/
theorem spaceZero_day {f : Fields} (small : f.day < 10 ^ 2) :
    spaceZero (Piece.day.write f) = Piece.spacedDay.write f :=
  (Piece.write_spacedDay (.inl (numeral_iff.mpr ⟨small, rfl⟩))).symm

/-- The asctime text, part by part. -/
theorem write_asctime (f : Fields) : asctime.layout.write f =
    Piece.weekday.write f ++ [' '] ++ Piece.monthName.write f ++ [' '] ++ Piece.spacedDay.write f ++
      [' '] ++ Layout.clock.write f ++ [' '] ++ Piece.year.write f := by
  have layout : asctime.layout = [.weekday] ++ [.literal ' '] ++ [.monthName] ++ [.literal ' '] ++
    [.spacedDay] ++ [.literal ' '] ++ Layout.clock ++ [.literal ' '] ++ [.year] := rfl
  simp only [layout, Layout.write_append, Layout.write_singleton]
  rfl

/-- The number and the name of a month are those of one entry in the list of the names. -/
theorem exists_month (c : Civil) :
    ∃ n, decimalValue? (Piece.month.write (Fields.ofCivil c)) = some (n + 1) ∧
      ["Jan", "Feb", "Mar", "Apr", "May", "Jun", "Jul", "Aug", "Sep", "Oct", "Nov", "Dec"][n]?
        = some (String.ofList (Piece.monthName.write (Fields.ofCivil c))) := by
  show ∃ n, decimalValue? (decimal 2 c.date.month.number) = _ ∧
    _ = some (String.ofList ((Month.ofNumber? c.date.month.number).getD .december).abbreviation)
  rw [Month.ofNumber?_number]
  refine ⟨c.date.month.number - 1, ?_, ?_⟩
  · cases c.date.month <;> decide
  · cases c.date.month <;> rfl

/-- The texts of an instant show the same fields. -/
theorem concordant_render (i : Instant) : Concordant fun format => (format.render i).toList := by
  have day_lt : Piece.day.Fits (Fields.ofCivil i.civil) :=
    fits_ofCivil i.civil (Nat.lt_succ_of_le i.civil.date.year_le) fun short =>
      absurd short (by decide)
  have written (format : WireFormat) :
      (format.render i).toList = format.layout.write (Fields.ofCivil i.civil) :=
    String.toList_ofList
  obtain ⟨weekday, day, month, year, time⟩ := extract_rfc1123 (Fields.ofCivil i.civil)
  obtain ⟨year', month', day', time'⟩ := extract_iso8601 (Fields.ofCivil i.civil)
  refine ⟨?_, ?_, ?_, ?_, ?_, ?_, ?_, ?_, ?_⟩
  · rw [written, written, without_fraction]
  · rw [written, written, without_century]
  · rw [written, written, weekday, day, month, year, time, spaceZero_day day_lt, write_asctime]
  · rw [written, written, day, day']
  · rw [written, written, year, year']
  · rw [written, written, time, time']
  · rw [written, written, month, month']
    exact exists_month i.civil
  · intro format c mem
    have plain := List.all_eq_true.mp (all_isPlain_render format i) c mem
    simp only [isPlain, Bool.and_eq_true, decide_eq_true_eq] at plain
    exact plain.2.trans (by decide)
  · simp only [length_render]
    decide

end WireFormat

/-- The texts of a time stamp in the five formats show the same fields: each of them can be put
    together from the RFC 1123 text and the ISO 8601 text, and these two agree on the date and the
    time of day.  They are in ASCII and of lengths that the formats fix. -/
theorem texts_concordant (x : Stamp) (i : Instant) (accepted : x.instant? = some i) :
    ∃ text : WireFormat → List Char,
      (∀ format, CenturyPivot.render format (.stamp x) = .ok (String.ofList (text format))) ∧
      WireFormat.Concordant text := by
  refine ⟨fun format => (format.render i).toList, ?_, WireFormat.concordant_render i⟩
  intro format
  rw [CenturyPivot.render_stamp format accepted, String.ofList_toList]

/-- Half an hour after midnight on a clock that is an hour ahead, in a year of one digit and on a
    day of one. -/
theorem texts_concordant_in_year_five :
    ∃ text : WireFormat → List Char,
      (∀ format, CenturyPivot.render format (.stamp
          ⟨⟨⟨5, .march, 5, by decide, by decide, by decide, by decide⟩,
            ⟨0, 30, 0, 0, by decide, by decide, by decide, by decide⟩⟩,
            some ⟨3600000000, by decide, by decide⟩⟩) = .ok (String.ofList (text format))) ∧
      WireFormat.Concordant text ∧
      String.ofList (text .rfc1123) = "Fri, 04 Mar 0005 23:30:00 GMT" ∧
      String.ofList (text .rfc822) = "Fri, 04 Mar 05 23:30:00 GMT" ∧
      String.ofList (text .asctime) = "Fri Mar  4 23:30:00 0005" := by
  obtain ⟨text, rendered, concordant⟩ := texts_concordant
    ⟨⟨⟨5, .march, 5, by decide, by decide, by decide, by decide⟩,
      ⟨0, 30, 0, 0, by decide, by decide, by decide, by decide⟩⟩,
      some ⟨3600000000, by decide, by decide⟩⟩
    ⟨-62003925000000, by decide, by decide⟩ (by decide +kernel)
  refine ⟨text, rendered, concordant, ?_, ?_, ?_⟩
  · exact Except.ok.inj ((rendered .rfc1123).symm.trans rfl)
  · exact Except.ok.inj ((rendered .rfc822).symm.trans rfl)
  · exact Except.ok.inj ((rendered .asctime).symm.trans rfl)

end CloudClient
