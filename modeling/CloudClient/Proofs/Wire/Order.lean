import CloudClient.Proofs.Calendar.Order
import CloudClient.Proofs.Text.Order
import CloudClient.Proofs.Wire.Respelling
import Mathlib.Data.String.Basic

namespace CloudClient

open Text

/-!
# The order of rendered texts

Texts in the ISO 8601 formats are in the order of their instants, and a text with a full year tells
its instant, as far as the resolution of the format goes.

* `Layout.dateTime` — what the two ISO 8601 formats begin with, in the order of the full seconds
  (`write_dateTime_lt_iff`);
* `WireFormat.render_iso8601_lt_iff`, `WireFormat.render_iso8601Seconds_lt_iff` — the order of the
  texts;
* `WireFormat.render_eq_iff_floor` — which instants have the same text;
* `texts_ordered_as_instants` — both, for time stamps on clocks with any offsets.
-/

namespace Layout

variable {f g : Fields} {p : Piece} {layout layout' : Layout}

/-- The first piece decides, and where it is written alike the rest does. -/
theorem write_cons_lt_iff : write (p :: layout) f < write (p :: layout) g ↔
    p.write f < p.write g ∨ p.write f = p.write g ∧ layout.write f < layout.write g :=
  append_lt_append_iff (by rw [Piece.length_write, Piece.length_write])

theorem write_append_lt_iff : write (layout ++ layout') f < write (layout ++ layout') g ↔
    layout.write f < layout.write g ∨
      layout.write f = layout.write g ∧ layout'.write f < layout'.write g := by
  rw [write_append, write_append]
  exact append_lt_append_iff (by rw [length_write, length_write])

/-- The date and the time of day, from the year down to the second. -/
def dateTime : Layout :=
  [.year, .literal '-', .month, .literal '-', .day, .literal 'T'] ++ Layout.clock

/-- Clock readings are written in the order of their full seconds. -/
theorem write_dateTime_lt_iff {i j : Instant} :
    dateTime.write (Fields.ofCivil i.civil) < dateTime.write (Fields.ofCivil j.civil) ↔
      i.millis / 1000 < j.millis / 1000 := by
  have fits (i : Instant) (p : Piece) (long : p ≠ .shortYear) : p.Fits (Fields.ofCivil i.civil) :=
    WireFormat.fits_ofCivil i.civil (Nat.lt_succ_of_le i.civil.date.year_le)
      fun short => absurd short long
  have numeral {width m n : Nat} (hm : m < 10 ^ width) (hn : n < 10 ^ width) :=
    And.intro (decimal_lt_decimal_iff hm hn) (decimal_inj hm hn)
  have year := numeral (fits i .year (by decide)) (fits j .year (by decide))
  have month := numeral (fits i .month (by decide)) (fits j .month (by decide))
  have day := numeral (fits i .day (by decide)) (fits j .day (by decide))
  have hour := numeral (fits i .hour (by decide)) (fits j .hour (by decide))
  have minute := numeral (fits i .minute (by decide)) (fits j .minute (by decide))
  have second := numeral (fits i .second (by decide)) (fits j .second (by decide))
  rw [Instant.second_lt_iff, Date.dayNumber_lt_iff, Date.dayNumber_eq_iff,
    TimeOfDay.secondOfDay_lt_iff]
  -- Both sides compare the parts in turn, from the year down to the second.
  simp only [dateTime, clock, List.cons_append, List.nil_append, write_cons_lt_iff, Piece.write,
    write_nil, List.lt_irrefl, false_or, true_and, and_false, or_false, year, month, day, hour,
    minute, second]
  simp only [Fields.ofCivil, and_or_left, or_assoc, and_assoc]

theorem write_dateTime_eq_iff {i j : Instant} :
    dateTime.write (Fields.ofCivil i.civil) = dateTime.write (Fields.ofCivil j.civil) ↔
      i.millis / 1000 = j.millis / 1000 :=
  eq_iff_of_lt_iff write_dateTime_lt_iff write_dateTime_lt_iff

end Layout

namespace WireFormat

variable {format : WireFormat} {i j : Instant}

/-! ### Texts in the order of their instants -/

theorem render_iso8601Seconds_lt_iff : render .iso8601Seconds i < render .iso8601Seconds j ↔
    i.millis / 1000 < j.millis / 1000 := by
  have layout : layout .iso8601Seconds = Layout.dateTime ++ [.literal 'Z'] := rfl
  rw [String.lt_iff_toList_lt, render, render, String.toList_ofList, String.toList_ofList, layout,
    Layout.write_append_lt_iff, Layout.write_dateTime_lt_iff]
  simp only [Layout.write_cons_lt_iff, Layout.write_nil, Piece.write, List.lt_irrefl, and_false,
    or_false]

theorem render_iso8601_lt_iff : render .iso8601 i < render .iso8601 j ↔ i.millis < j.millis := by
  have layout : layout .iso8601 = Layout.dateTime ++ [.literal '.', .milli, .literal 'Z'] := rfl
  have fits (i : Instant) : i.civil.time.micro / 1000 < 10 ^ 3 := by
    have micro := i.civil.time.micro_lt
    omega
  rw [String.lt_iff_toList_lt, render, render, String.toList_ofList, String.toList_ofList, layout,
    Layout.write_append_lt_iff, Layout.write_dateTime_lt_iff, Layout.write_dateTime_eq_iff,
    Instant.millis_lt_iff]
  -- Where the full seconds are the same, the milliseconds decide.
  simp only [Layout.write_cons_lt_iff, Layout.write_nil, Piece.write, Fields.ofCivil,
    decimal_lt_decimal_iff (fits i) (fits j), List.lt_irrefl, false_or, true_and, and_false,
    or_false]

/-! ### Texts that tell their instants -/

theorem floor_eq_iff (seconds : format ≠ .iso8601) :
    format.floor i = format.floor j ↔ i.millis / 1000 = j.millis / 1000 := by
  have same : i.floorSecond = j.floorSecond ↔ i.millis / 1000 = j.millis / 1000 := by
    unfold Instant.floorSecond
    rw [Instant.mk.injEq]
    omega
  cases format with
  | iso8601 => exact absurd rfl seconds
  | _ => exact same

/-- Instants that the format cannot tell apart have the same text. -/
theorem render_congr (same : format.floor i = format.floor j) :
    format.render i = format.render j := by
  rw [← render_floor format i, ← render_floor format j, same]

/-- With a full year in the text, no other instants have. -/
theorem render_eq_iff_floor (full : format ≠ .rfc822) :
    format.render i = format.render j ↔ format.floor i = format.floor j := by
  refine ⟨?_, render_congr⟩
  intro same
  -- The one text is read as the one instant and as the other.
  have back (i : Instant) :
      (CenturyPivot.parse ⟨0, by decide⟩ format (.text (format.render i))).result
        = .ok (format.floor i) := parse_render_floor_iff.mpr fun short => absurd short full
  have first := back i
  rw [same, back j, Except.ok.injEq] at first
  exact first.symm

end WireFormat

/-- Texts in the ISO 8601 format are in the order of the milliseconds of the time stamps, those
    without a fraction in the order of the full seconds, and in the other two formats with a full
    year texts are the same exactly if the full seconds are.  So no text shows the offset of a time
    stamp or what lies below the resolution, also not where only two digits of the year are written,
    and in the four formats with a full year different instants of the resolution have different
    texts. -/
theorem texts_ordered_as_instants (x y : Stamp) (i j : Instant) (first : x.instant? = some i)
    (second : y.instant? = some j) :
    ∃ s t : WireFormat → String,
      (∀ format, CenturyPivot.render format (.stamp x) = .ok (s format)) ∧
      (∀ format, CenturyPivot.render format (.stamp y) = .ok (t format)) ∧
      compare (s .iso8601) (t .iso8601) = compare i.millis j.millis ∧
      compare (s .iso8601Seconds) (t .iso8601Seconds)
        = compare (i.millis / 1000) (j.millis / 1000) ∧
      (s .rfc1123 = t .rfc1123 ↔ i.millis / 1000 = j.millis / 1000) ∧
      (s .asctime = t .asctime ↔ i.millis / 1000 = j.millis / 1000) ∧
      (i.millis / 1000 = j.millis / 1000 → s .rfc822 = t .rfc822) := by
  refine ⟨fun format => format.render i, fun format => format.render j,
    fun format => CenturyPivot.render_stamp format first,
    fun format => CenturyPivot.render_stamp format second, ?_, ?_, ?_, ?_, ?_⟩
  · exact compare_eq_compare WireFormat.render_iso8601_lt_iff WireFormat.render_iso8601_lt_iff
  · exact compare_eq_compare WireFormat.render_iso8601Seconds_lt_iff
      WireFormat.render_iso8601Seconds_lt_iff
  · exact (WireFormat.render_eq_iff_floor (by decide)).trans (WireFormat.floor_eq_iff (by decide))
  · exact (WireFormat.render_eq_iff_floor (by decide)).trans (WireFormat.floor_eq_iff (by decide))
  · intro same
    exact WireFormat.render_congr ((WireFormat.floor_eq_iff (by decide)).mpr same)

/-- The text of the last microsecond before the epoch comes before the one of the epoch itself, on a
    clock that is an hour ahead; and on such a clock the same second is written alike. -/
theorem texts_ordered_across_epoch :
    (∃ s t, CenturyPivot.render .iso8601 (.stamp
          ⟨⟨⟨1969, .december, 31, by decide, by decide, by decide, by decide⟩,
            ⟨23, 59, 59, 999999, by decide, by decide, by decide, by decide⟩⟩, none⟩) = .ok s ∧
        CenturyPivot.render .iso8601 (.stamp
          ⟨⟨⟨1970, .january, 1, by decide, by decide, by decide, by decide⟩,
            ⟨1, 0, 0, 0, by decide, by decide, by decide, by decide⟩⟩,
            some ⟨3600000000, by decide, by decide⟩⟩) = .ok t ∧ s < t) ∧
      ∃ s, CenturyPivot.render .asctime (.stamp
          ⟨⟨⟨1969, .december, 31, by decide, by decide, by decide, by decide⟩,
            ⟨23, 59, 59, 999999, by decide, by decide, by decide, by decide⟩⟩, none⟩) = .ok s ∧
        CenturyPivot.render .asctime (.stamp
          ⟨⟨⟨1970, .january, 1, by decide, by decide, by decide, by decide⟩,
            ⟨0, 59, 59, 0, by decide, by decide, by decide, by decide⟩⟩,
            some ⟨3600000000, by decide, by decide⟩⟩) = .ok s := by
  refine ⟨?_, ?_⟩
  · obtain ⟨s, t, hs, ht, order, -⟩ := texts_ordered_as_instants
      ⟨⟨⟨1969, .december, 31, by decide, by decide, by decide, by decide⟩,
        ⟨23, 59, 59, 999999, by decide, by decide, by decide, by decide⟩⟩, none⟩
      ⟨⟨⟨1970, .january, 1, by decide, by decide, by decide, by decide⟩,
        ⟨1, 0, 0, 0, by decide, by decide, by decide, by decide⟩⟩,
        some ⟨3600000000, by decide, by decide⟩⟩
      ⟨-1, by decide, by decide⟩ ⟨0, by decide, by decide⟩ (by decide +kernel) (by decide +kernel)
    exact ⟨_, _, hs _, ht _, compare_lt_iff_lt.mp (order.trans (by decide))⟩
  · obtain ⟨s, t, hs, ht, -, -, -, alike, -⟩ := texts_ordered_as_instants
      ⟨⟨⟨1969, .december, 31, by decide, by decide, by decide, by decide⟩,
        ⟨23, 59, 59, 999999, by decide, by decide, by decide, by decide⟩⟩, none⟩
      ⟨⟨⟨1970, .january, 1, by decide, by decide, by decide, by decide⟩,
        ⟨0, 59, 59, 0, by decide, by decide, by decide, by decide⟩⟩,
        some ⟨3600000000, by decide, by decide⟩⟩
      ⟨-1, by decide, by decide⟩ ⟨-1000, by decide, by decide⟩ (by decide +kernel)
      (by decide +kernel)
    exact ⟨_, hs _, (alike.mpr (by decide)).symm ▸ ht _⟩

end CloudClient
