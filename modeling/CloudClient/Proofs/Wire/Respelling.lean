import CloudClient.Proofs.Wire.RoundTrip
import Mathlib.Data.List.Basic

namespace CloudClient

open Text

/-!
# Reading and rendering again

What becomes of a text that is accepted and then rendered again in its own format.

* `WireFormat.respelled` — the text with another weekday and its day padded with a space;
* `WireFormat.RightlySpelled` — the text has this weekday and this padding already;
* `CenturyPivot.Renders` — the text of a time stamp whose year the text tells;
* `render_parse_respelled` — an accepted text is rendered again respelled, so the rightly spelled
  texts are those of the time stamps, one for each instant.
-/

/-- The text with a space for the zero of a day `0d` that starts at its ninth character. -/
def spaceDay (cs : List Char) : List Char := if cs[8]? = some '0' then cs.set 8 ' ' else cs

/-- The text under the given weekday, if the format has one, with a day below ten padded as the
    format pads it. -/
def WireFormat.respelled (w : Weekday) (cs : List Char) : WireFormat → List Char
  | rfc1123 | rfc822 => w.abbreviation ++ cs.drop 3
  | asctime => w.abbreviation ++ (spaceDay cs).drop 3
  | iso8601 | iso8601Seconds => cs

/-- The text has the given weekday, if the format has one, and pads its day as the format does. -/
def WireFormat.RightlySpelled (w : Weekday) (cs : List Char) : WireFormat → Prop
  | rfc1123 | rfc822 => cs.take 3 = w.abbreviation
  | asctime => cs.take 3 = w.abbreviation ∧ cs[8]? ≠ some '0'
  | iso8601 | iso8601Seconds => True

/-- The text is the one of a time stamp in a year that the text tells. -/
def CenturyPivot.Renders (pivot : CenturyPivot) (format : WireFormat) (t : String) : Prop :=
  ∃ (x : Stamp) (i : Instant), x.instant? = some i ∧
    (format = .rfc822 → pivot.Covers i.civil.date.year) ∧ render format (.stamp x) = .ok t

/-- What stands before and after the day stays as it is. -/
theorem spaceDay_append {front dd rest : List Char} (eight : front.length = 8)
    (two : dd.length = 2) : spaceDay (front ++ (dd ++ rest))
      = front ++ ((if dd.head? = some '0' then ' ' :: dd.tail else dd) ++ rest) := by
  obtain ⟨a, b, rfl⟩ := List.length_eq_two.mp two
  have ninth : (front ++ ([a, b] ++ rest))[8]? = some a := by
    rw [List.getElem?_append_right (Nat.le_of_eq eight), eight]
    rfl
  rw [spaceDay, ninth, List.head?_cons]
  by_cases zero : some a = some '0'
  · rw [if_pos zero, if_pos zero, List.set_append_right 8 ' ' (Nat.le_of_eq eight), eight]
    rfl
  · rw [if_neg zero, if_neg zero]

/-! ### What is written of the fields that were read -/

/-- The fields read off a clock are those that it shows, under the right weekday. -/
theorem Civil.Shows.ofCivil_eq {c : Civil} {f : Fields} (shows : c.Shows f) :
    Fields.ofCivil c = { f with weekday := c.date.weekday } := by
  have milli : c.time.micro / 1000 = f.milli := by
    rw [shows.micro_eq]
    omega
  simp only [Fields.ofCivil, shows.year_eq, shows.month_eq, shows.day_eq, shows.hour_eq,
    shows.minute_eq, shows.second_eq, milli]

/-- Of a day that was read the two places are written as they were, but with a space for a zero. -/
theorem Piece.write_spacedDay {f : Fields} {dd : List Char} (spelled : spacedDay.Spells f dd) :
    write f spacedDay = if dd.head? = some '0' then ' ' :: dd.tail else dd := by
  rcases spelled with two | ⟨d, one, rfl⟩
  · obtain ⟨bound, rfl⟩ := numeral_iff.mp two
    show _ = if some (Nat.digitChar (f.day / 10 % 10)) = some '0' then
      ' ' :: [Nat.digitChar (f.day % 10)] else _
    by_cases single : f.day < 10
    · rw [Nat.div_eq_of_lt single]
      simp only [write, if_pos single]
      rfl
    · -- The first digit is one to nine.
      have first : Nat.digitChar (f.day / 10 % 10) ≠ '0' := by
        have low : 1 ≤ f.day / 10 % 10 := by omega
        have high : f.day / 10 % 10 ≤ 9 := by omega
        interval_cases f.day / 10 % 10 <;> decide
      simp only [write, if_neg single, Option.some.injEq, if_neg first]
  · obtain ⟨bound, rfl⟩ := numeral_iff.mp one
    have single : f.day < 10 := bound
    simp only [write, if_pos single, List.head?_cons]
    rfl

theorem Layout.write_append (layout layout' : Layout) (f : Fields) :
    write (layout ++ layout') f = write layout f ++ write layout' f := List.flatMap_append

namespace WireFormat

variable {format : WireFormat} {pivot : CenturyPivot} {f : Fields} {cs : List Char} {i : Instant}

/-- The year field of a text comes back from the year that is meant by it. -/
theorem yearField_fullYear (spelled : format.layout.Spells f cs) :
    format.yearField (format.fullYear pivot f.year) = f.year := by
  cases format with
  | rfc822 =>
    have mem : Piece.shortYear ∈ layout .rfc822 := by decide
    obtain ⟨yy, year⟩ := spelled.piece mem
    exact CenturyPivot.expand_mod (numeral_iff.mp year).1
  | _ => rfl

/-- Of the instant that was read the fields that were read are written, under the right weekday. -/
theorem toList_render_of_spells (spelled : format.layout.Spells f cs)
    (shows : i.civil.Shows (format.meant pivot f)) :
    (format.render i).toList = format.layout.write { f with weekday := i.civil.date.weekday } := by
  rw [render, String.toList_ofList, ← write_layout_yearField, shows.ofCivil_eq, meant_eq_fullYear]
  show format.layout.write
    { f with weekday := _, year := format.yearField (format.fullYear pivot f.year) } = _
  rw [yearField_fullYear spelled]

/-- The fields that a text spells are written as the respelled text. -/
theorem write_eq_respelled (spelled : format.layout.Spells f cs) (w : Weekday) :
    format.layout.write { f with weekday := w } = format.respelled w cs := by
  have length := f.weekday.length_abbreviation
  cases format with
  | rfc1123 =>
    rw [Layout.eq_write_of_spells spelled (by decide)]
    show _ = _ ++ (f.weekday.abbreviation ++ _).drop 3
    rw [List.drop_left' length]
    rfl
  | rfc822 =>
    rw [Layout.eq_write_of_spells spelled (by decide)]
    show _ = _ ++ (f.weekday.abbreviation ++ _).drop 3
    rw [List.drop_left' length]
    rfl
  | iso8601 => exact (Layout.eq_write_of_spells spelled (by decide)).symm
  | iso8601Seconds => exact (Layout.eq_write_of_spells spelled (by decide)).symm
  | asctime =>
    -- Around the day there is only one spelling.
    have parts : layout .asctime = [.weekday, .literal ' ', .monthName, .literal ' '] ++
      .spacedDay :: ([.literal ' '] ++ Layout.clock ++ [.literal ' ', .year]) := rfl
    rw [parts, Layout.spells_append_iff] at spelled
    obtain ⟨front, back, spelledFront, spelledBack, rfl⟩ := spelled
    obtain ⟨dd, rest, day, spelledRest, rfl⟩ := Layout.spells_cons_iff.mp spelledBack
    have front_eq := Layout.eq_write_of_spells spelledFront (by decide)
    have eight : front.length = 8 := by rw [front_eq, Layout.length_write]; rfl
    rw [respelled, spaceDay_append eight (Piece.length_of_spells day), ← Piece.write_spacedDay day,
      front_eq, Layout.eq_write_of_spells spelledRest (by decide), ← Layout.write_cons,
      ← Layout.write_append]
    show _ = _ ++ (f.weekday.abbreviation ++ _).drop 3
    rw [List.drop_left' length]
    rfl

/-! ### The rightly spelled texts -/

/-- The weekday of a text is replaced by itself if the text starts with it. -/
theorem abbreviation_append_drop_eq_iff {w : Weekday} {ds : List Char} :
    w.abbreviation ++ ds.drop 3 = cs ↔ cs.take 3 = w.abbreviation ∧ ds.drop 3 = cs.drop 3 := by
  refine ⟨?_, ?_⟩
  · rintro rfl
    rw [List.take_left' w.length_abbreviation, List.drop_left' w.length_abbreviation]
    exact ⟨rfl, rfl⟩
  · intro agree
    obtain ⟨weekday, rest⟩ := agree
    rw [← weekday, rest, List.take_append_drop]

/-- A text without a zero in front of the day keeps its day, and no other one does. -/
theorem drop_spaceDay_eq_iff : (spaceDay cs).drop 3 = cs.drop 3 ↔ cs[8]? ≠ some '0' := by
  unfold spaceDay
  by_cases zero : cs[8]? = some '0'
  · rw [if_pos zero]
    refine iff_of_false ?_ (not_not_intro zero)
    intro same
    -- The ninth character would be a space.
    have ninth : (cs.set 8 ' ')[8]? = cs[8]? := by
      have sixth := congrArg (fun ds => ds[5]?) same
      simp only [List.getElem?_drop] at sixth
      exact sixth
    have long : 8 < cs.length := (List.getElem?_eq_some_iff.mp zero).1
    rw [List.getElem?_set_self long, zero] at ninth
    exact absurd ninth (by decide)
  · rw [if_neg zero]
    exact iff_of_true rfl zero

/-- Exactly the rightly spelled texts are respelled as they are. -/
theorem respelled_eq_self_iff {w : Weekday} :
    format.respelled w cs = cs ↔ format.RightlySpelled w cs := by
  cases format with
  | rfc1123 => exact abbreviation_append_drop_eq_iff.trans (and_iff_left rfl)
  | rfc822 => exact abbreviation_append_drop_eq_iff.trans (and_iff_left rfl)
  | asctime =>
    exact abbreviation_append_drop_eq_iff.trans (and_congr_right fun _ => drop_spaceDay_eq_iff)
  | _ => exact iff_of_true rfl trivial

/-- An instant is written like the last one before it that the format can tell. -/
theorem render_floor (format : WireFormat) (i : Instant) :
    format.render (format.floor i) = format.render i := by
  cases format with
  | iso8601 => rfl
  | _ =>
    show render _ i.floorSecond = _
    rw [render, Instant.civil_floorSecond]
    rfl

end WireFormat

section

variable {pivot : CenturyPivot} {format : WireFormat} {t : String} {i : Instant}

/-- Of the texts that are read as an instant, only the one that is written of it is the text of a
    time stamp in a year that it tells. -/
theorem CenturyPivot.renders_iff (accepted : (pivot.parse format (.text t)).result = .ok i) :
    pivot.Renders format t ↔ t = format.render i := by
  refine ⟨?_, ?_⟩
  · intro renders
    obtain ⟨x, j, instant, tells, rendered⟩ := renders
    rw [render_stamp format instant, Except.ok.injEq] at rendered
    subst rendered
    have back := accepted.symm.trans (WireFormat.parse_render_floor_iff.mpr tells)
    rw [Except.ok.inj back, WireFormat.render_floor]
  · rintro rfl
    -- The year that was read is the one that its own text is read as.
    have year := (WireFormat.parse_render_iff.mp accepted).year_eq
    exact ⟨.ofInstant i, i, Stamp.instant?_ofInstant i,
      WireFormat.fullYear_yearField_iff.mp year.symm,
      render_stamp format (Stamp.instant?_ofInstant i)⟩

/-- An accepted text is rendered again respelled, under the right weekday. -/
theorem WireFormat.toList_render_of_parse
    (accepted : (pivot.parse format (.text t)).result = .ok i) :
    (format.render i).toList = format.respelled i.civil.date.weekday t.toList := by
  have read := CenturyPivot.parse_text_eq_ok_iff.mp accepted
  obtain ⟨f, spelled, kept⟩ := exists_spells_of_readText read
  rw [readText_eq_ok_iff_of_spells spelled, kept] at read
  rw [toList_render_of_spells spelled read, write_eq_respelled spelled]

end

/-- An accepted text is rendered again in the same format with the right weekday and the right
    padding of the day, and otherwise as it was.  So an accepted text is the text of a time stamp,
    in a year that the text tells, exactly if it is spelled rightly, and no two such texts are read
    as the same instant. -/
theorem render_parse_respelled (pivot : CenturyPivot) (format : WireFormat) (t : String)
    (i : Instant) (accepted : (pivot.parse format (.text t)).result = .ok i) :
    CenturyPivot.render format (.stamp (.ofInstant i))
        = .ok (String.ofList (format.respelled i.civil.date.weekday t.toList)) ∧
      (pivot.Renders format t ↔ format.RightlySpelled i.civil.date.weekday t.toList) ∧
      ∀ u, pivot.Renders format t → pivot.Renders format u →
        (pivot.parse format (.text u)).result = .ok i → u = t := by
  have again := WireFormat.toList_render_of_parse accepted
  refine ⟨?_, ?_, ?_⟩
  · rw [CenturyPivot.render_stamp format (Stamp.instant?_ofInstant i), ← again,
      String.ofList_toList]
  · rw [CenturyPivot.renders_iff accepted, ← WireFormat.respelled_eq_self_iff, ← again,
      String.toList_inj, eq_comm]
  · intro u first second parsed
    rw [(CenturyPivot.renders_iff accepted).mp first, (CenturyPivot.renders_iff parsed).mp second]

/-- A wrong weekday and a zero in front of the day do not come back. -/
theorem render_parse_first_of_december :
    ∃ i, (CenturyPivot.parse ⟨69, by decide⟩ .asctime (.text "Sat Dec 01 16:00:00 1994")).result
        = .ok i ∧
      CenturyPivot.render .asctime (.stamp (.ofInstant i)) = .ok "Thu Dec  1 16:00:00 1994" := by
  have accepted : (CenturyPivot.parse ⟨69, by decide⟩ .asctime
      (.text "Sat Dec 01 16:00:00 1994")).result = .ok ⟨786297600000, by decide, by decide⟩ :=
    CenturyPivot.parse_text_eq_ok_iff.mpr (by decide +kernel)
  exact ⟨_, accepted, (render_parse_respelled _ _ _ _ accepted).1⟩

/-- The text of a time stamp in another century is accepted as well.  It is read as an instant of
    another weekday, and so is a second text, which is rendered of that instant. -/
theorem parse_text_of_other_century :
    CenturyPivot.render .rfc822 (.stamp
        ⟨⟨⟨1894, .december, 1, by decide, by decide, by decide, by decide⟩,
          ⟨16, 0, 0, 0, by decide, by decide, by decide, by decide⟩⟩, none⟩)
        = .ok "Sat, 01 Dec 94 16:00:00 GMT" ∧
      ∃ i, (CenturyPivot.parse ⟨69, by decide⟩ .rfc822
            (.text "Sat, 01 Dec 94 16:00:00 GMT")).result = .ok i ∧
        ¬ WireFormat.RightlySpelled i.civil.date.weekday "Sat, 01 Dec 94 16:00:00 GMT".toList
          .rfc822 ∧
        CenturyPivot.render .rfc822 (.stamp (.ofInstant i)) = .ok "Thu, 01 Dec 94 16:00:00 GMT" ∧
        (CenturyPivot.parse ⟨69, by decide⟩ .rfc822
            (.text "Thu, 01 Dec 94 16:00:00 GMT")).result = .ok i := by
  refine ⟨rfl, ⟨786297600000, by decide, by decide⟩, ?_, ?_, rfl, ?_⟩
  · exact CenturyPivot.parse_text_eq_ok_iff.mpr (by decide +kernel)
  · show ¬ (_ : List Char) = _
    decide +kernel
  · exact CenturyPivot.parse_text_eq_ok_iff.mpr (by decide +kernel)

end CloudClient
