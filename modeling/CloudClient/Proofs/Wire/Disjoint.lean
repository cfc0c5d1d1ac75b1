import CloudClient.Proofs.Wire.Rendering

namespace CloudClient

open Text

/-!
# No text in two formats

A text tells its format: the five layouts differ in their widths, but for ISO 8601 with milliseconds
and asctime, and of these one starts with a digit and the other with a letter.

* `Layout.length_of_spells` — the width of a spelling;
* `Layout.head?_of_spells_year`, `Layout.head?_of_spells_weekday` — how a spelling starts;
* `WireFormat.eq_of_spells` — a text spells fields in one format only;
* `parse_refused_in_other_formats` — a text that is accepted or rendered in one format does not
  follow the layout of any other one.
-/

namespace Layout

variable {f : Fields} {cs : List Char} {layout : Layout}

/-- A spelling has the width of its layout. -/
theorem length_of_spells (spelled : layout.Spells f cs) : cs.length = layout.width := by
  induction spelled with
  | nil => rfl
  | @cons p layout cs ds piece _ ih =>
    rw [List.length_append, p.length_of_spells piece, ih]
    rfl

/-- A layout that starts with a year is spelled by texts that start with a digit. -/
theorem head?_of_spells_year (spelled : Spells f (.year :: layout) cs) :
    ∃ c, cs.head? = some c ∧ c.isDigit = true := by
  obtain ⟨yyyy, rest, year, -, rfl⟩ := spells_cons_iff.mp spelled
  have numeral : Numeral 4 f.year yyyy := year
  obtain ⟨c, ds, rfl⟩ := List.exists_cons_of_length_eq_add_one numeral.length_eq
  exact ⟨c, rfl, numeral.isDigit c List.mem_cons_self⟩

/-- A layout that starts with a weekday is spelled by texts that start with something else. -/
theorem head?_of_spells_weekday (spelled : Spells f (.weekday :: layout) cs) :
    ∃ c, cs.head? = some c ∧ c.isDigit = false := by
  obtain ⟨www, rest, weekday, -, rfl⟩ := spells_cons_iff.mp spelled
  obtain rfl : www = f.weekday.abbreviation := weekday
  cases f.weekday <;> exact ⟨_, rfl, by decide⟩

end Layout

namespace WireFormat

variable {format other : WireFormat} {f g : Fields} {cs : List Char} {pivot : CenturyPivot}

/-- A text that starts with a year does not start with a weekday. -/
theorem not_spells_iso8601_and_asctime (first : iso8601.layout.Spells f cs)
    (second : asctime.layout.Spells g cs) : False := by
  obtain ⟨c, head, digit⟩ := Layout.head?_of_spells_year first
  obtain ⟨d, head', letter⟩ := Layout.head?_of_spells_weekday second
  obtain rfl : c = d := Option.some.inj (head.symm.trans head')
  exact absurd (digit.symm.trans letter) (by decide)

/-- A text spells fields in one format only. -/
theorem eq_of_spells (first : format.layout.Spells f cs) (second : other.layout.Spells g cs) :
    format = other := by
  have widths : format.layout.width = other.layout.width :=
    (Layout.length_of_spells first).symm.trans (Layout.length_of_spells second)
  cases format <;> cases other
  case iso8601.asctime => exact (not_spells_iso8601_and_asctime first second).elim
  case asctime.iso8601 => exact (not_spells_iso8601_and_asctime second first).elim
  -- All other pairs have different widths.
  all_goals first | rfl | exact absurd widths (by decide)

/-- What spells fields in one format does not follow the layout of another one. -/
theorem readText_of_spells_other (spelled : format.layout.Spells f cs) (differ : other ≠ format) :
    other.readText pivot cs = .error .layout := by
  unfold readText
  split
  · rename_i g read
    exact absurd (eq_of_spells spelled (spells_layout_of_read read).1) (Ne.symm differ)
  · rfl

/-- A service reports on such a text that it does not follow the layout. -/
theorem parse_of_spells_other {t : String} (spelled : format.layout.Spells f t.toList)
    (differ : other ≠ format) : (pivot.parse other (.text t)).result
      = .error (.malformed ⟨.text t, some other, some ("expected " ++ other.pattern)⟩ false) := by
  have refused : other.readText pivot t.toList = .error .layout :=
    readText_of_spells_other spelled differ
  rcases pivot.parse_text other t with ⟨i, read, -⟩ | ⟨r, read, answer⟩
  · exact absurd (refused.symm.trans read) (by simp)
  · obtain rfl : r = .layout := Except.error.inj (read.symm.trans refused)
    exact answer

end WireFormat

/-- At most one format accepts a text: a text that a service accepts in one format, and a text that
    is rendered in one format, is refused in every other format by services with whatever pivots,
    because it does not follow the layout. -/
theorem parse_refused_in_other_formats (p q : CenturyPivot) {format other : WireFormat}
    (differ : other ≠ format) :
    (∀ (t : String) (i : Instant), (p.parse format (.text t)).result = .ok i →
      (q.parse other (.text t)).result
        = .error (.malformed ⟨.text t, some other, some ("expected " ++ other.pattern)⟩ false)) ∧
    ∀ (x : TimeValue) (t : String), CenturyPivot.render format x = .ok t →
      (q.parse other (.text t)).result
        = .error (.malformed ⟨.text t, some other, some ("expected " ++ other.pattern)⟩ false) := by
  refine ⟨?_, ?_⟩
  · intro t i accepted
    have read := CenturyPivot.parse_text_eq_ok_iff.mp accepted
    obtain ⟨f, spelled, -⟩ := WireFormat.exists_spells_of_readText read
    exact WireFormat.parse_of_spells_other spelled differ
  · intro x t rendered
    unfold CenturyPivot.render at rendered
    cases instant : x.instant with
    | error e =>
      rw [instant] at rendered
      exact absurd rendered (by simp [Except.map])
    | ok i =>
      rw [instant] at rendered
      obtain rfl : format.render i = t := Except.ok.inj rendered
      exact WireFormat.parse_of_spells_other (format.spells_render i) differ

/-- A text of asctime has the width of ISO 8601 with milliseconds, and is refused there. -/
theorem parse_refused_asctime_as_iso8601 :
    WireFormat.iso8601 ≠ .asctime ∧
      (CenturyPivot.parse ⟨0, by decide⟩ .asctime (.text "Thu Dec  1 16:00:00 1994")).result
        = .ok ⟨786297600000, by decide, by decide⟩ ∧
      (CenturyPivot.parse ⟨99, by decide⟩ .iso8601 (.text "Thu Dec  1 16:00:00 1994")).result
        = .error (.malformed ⟨.text "Thu Dec  1 16:00:00 1994", some .iso8601,
            some "expected yyyy-MM-dd'T'HH:mm:ss.SSS'Z'"⟩ false) ∧
      CenturyPivot.render .rfc822 (.stamp (.ofInstant ⟨786297600000, by decide, by decide⟩))
        = .ok "Thu, 01 Dec 94 16:00:00 GMT" ∧
      (CenturyPivot.parse ⟨69, by decide⟩ .rfc1123 (.text "Thu, 01 Dec 94 16:00:00 GMT")).result
        = .error (.malformed ⟨.text "Thu, 01 Dec 94 16:00:00 GMT", some .rfc1123,
            some "expected EEE, dd MMM yyyy HH:mm:ss 'GMT'"⟩ false) := by
  have accepted : (CenturyPivot.parse ⟨0, by decide⟩ .asctime
      (.text "Thu Dec  1 16:00:00 1994")).result = .ok ⟨786297600000, by decide, by decide⟩ :=
    CenturyPivot.parse_text_eq_ok_iff.mpr (by decide +kernel)
  have rendered : CenturyPivot.render .rfc822
      (.stamp (.ofInstant ⟨786297600000, by decide, by decide⟩))
        = .ok "Thu, 01 Dec 94 16:00:00 GMT" := by
    rw [CenturyPivot.render_stamp .rfc822 (Stamp.instant?_ofInstant _)]
    exact congrArg Except.ok (by decide +kernel)
  exact ⟨by decide, accepted,
    (parse_refused_in_other_formats _ _ (by decide)).1 _ _ accepted, rendered,
    (parse_refused_in_other_formats ⟨0, by decide⟩ _ (by decide)).2 _ _ rendered⟩

end CloudClient
