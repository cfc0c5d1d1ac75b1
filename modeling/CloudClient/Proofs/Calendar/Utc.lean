import CloudClient.Proofs.Calendar.Milliseconds

namespace CloudClient

/-!
# Time stamps in UTC

What becomes of a time stamp that is brought to UTC and cut to whole milliseconds.

* `Stamp.instant?_eq_some_iff_floor`, `Stamp.instant?_eq_none_iff` — the instant of a time stamp, by
  the microseconds from the epoch, and when there is none;
* `CenturyPivot.render_eq_error_iff` — a format refuses what has no instant, and nothing else;
* `stamp_brought_to_utc` — which time stamps are refused and what is made of the others.
-/

/-! ### Instants by their microseconds -/

namespace Stamp

variable {x y : Stamp} {i j : Instant}

/-- In the years 1 to 9999 of UTC a time stamp has the instant of its microseconds, rounded down to
    whole milliseconds before the epoch too. -/
theorem instant?_eq_some_iff_floor : x.instant? = some i ↔
    (firstMicro ≤ x.utcMicros ∧ x.utcMicros ≤ lastMicro) ∧ i.millis = x.utcMicros / 1000 := by
  unfold instant?
  by_cases range : firstMicro ≤ x.utcMicros ∧ x.utcMicros ≤ lastMicro
  · rw [dif_pos range, Option.some.injEq, and_iff_right range]
    refine ⟨?_, ?_⟩
    · rintro rfl
      rfl
    · intro millis
      cases i
      exact (Instant.mk.injEq ..).mpr millis.symm
  · rw [dif_neg range]
    simp only [range, false_and, reduceCtorEq]

/-- Outside these years it has none. -/
theorem instant?_eq_none_iff :
    x.instant? = none ↔ x.utcMicros < firstMicro ∨ lastMicro < x.utcMicros := by
  unfold instant?
  rw [dite_eq_right_iff]
  simp only [reduceCtorEq, imp_false]
  omega

/-- A clock that is not apart from UTC, whether or not this is said, shows an instant as that
    instant. -/
theorem instant?_civil {o : Option Offset} (zero : (o.map Offset.micros).getD 0 = 0) :
    instant? ⟨i.civil, o⟩ = some i := by
  have utc : utcMicros ⟨i.civil, o⟩ = 1000 * i.millis := by
    rw [utcMicros, zero, i.micros_civil, Int.sub_zero]
  have low := i.firstMilli_le
  have high := i.le_lastMilli
  rw [instant?_eq_some_iff_floor, utc]
  simp only [firstMilli, lastMilli, firstMicro, lastMicro] at low high ⊢
  omega

/-- Cutting to whole milliseconds keeps the order. -/
theorem millis_le_of_utcMicros_le (first : x.instant? = some i) (second : y.instant? = some j)
    (le : x.utcMicros ≤ y.utcMicros) : i.millis ≤ j.millis := by
  rw [(instant?_eq_some_iff_floor.mp first).2, (instant?_eq_some_iff_floor.mp second).2]
  exact Int.ediv_le_ediv (by decide) le

end Stamp

/-! ### Refusals -/

theorem TimeValue.instant_stamp_eq_error_iff {x : Stamp} {e : DateError} :
    (stamp x).instant = .error e ↔ x.instant? = none ∧ e = .unrepresentable x := by
  unfold instant
  cases found : x.instant? <;> simp [found, eq_comm]

/-- A value is refused in any format exactly if it has no instant, and for the same reason. -/
theorem CenturyPivot.render_eq_error_iff {format : WireFormat} {v : TimeValue} {e : DateError} :
    render format v = .error e ↔ v.instant = .error e := by
  unfold render
  cases v.instant <;> simp [Except.map]

/-- Let a clock reading less its offset be some microseconds from the epoch.  The time stamp is
    refused exactly if these lie outside the years 1 to 9999, as one that UTC cannot represent, with
    an overflow as the cause, and never if it has no offset.  Otherwise it is brought to the clock
    reading in UTC that they give when they are rounded down to whole milliseconds.  This is the
    reading that they give themselves, cut at the millisecond, and it is brought to itself again.
    The earlier of two time stamps is not brought to the later instant, and each format refuses what
    is refused here, for the same reason. -/
theorem stamp_brought_to_utc (x : Stamp) (u : Int)
    (utc : u = x.civil.micros - (x.offset.map Offset.micros).getD 0) :
    ((∃ e, (TimeValue.stamp x).instant = .error e) ↔
        u < -62135596800000000 ∨ 253402300800000000 ≤ u) ∧
      (∀ e, (TimeValue.stamp x).instant = .error e →
        e = .unrepresentable x ∧ e.errorClass = .value ∧ e.cause? = some .overflow) ∧
      (x.offset = none → ∃ i, (TimeValue.stamp x).instant = .ok i) ∧
      (¬ (u < -62135596800000000 ∨ 253402300800000000 ≤ u) →
        ∃ i, (TimeValue.stamp x).instant = .ok i ∧ i.civil.micros = 1000 * (u / 1000) ∧
          i.millis = u / 1000 ∧ (∃ c : Civil, c.micros = u ∧ i.civil = c.floorMilli) ∧
          ∀ o : Option Offset, (o.map Offset.micros).getD 0 = 0 →
            (TimeValue.stamp ⟨i.civil, o⟩).instant = .ok i) ∧
      (∀ (y : Stamp) (v : Int), v = y.civil.micros - (y.offset.map Offset.micros).getD 0 → u ≤ v →
        ∀ i j, (TimeValue.stamp x).instant = .ok i → (TimeValue.stamp y).instant = .ok j →
          i.millis ≤ j.millis) ∧
      ∀ (format : WireFormat) (e : DateError),
        CenturyPivot.render format (.stamp x) = .error e ↔
          (TimeValue.stamp x).instant = .error e := by
  have reading : x.utcMicros = u := utc.symm
  simp only [TimeValue.instant_stamp_eq_ok_iff, TimeValue.instant_stamp_eq_error_iff]
  refine ⟨?_, ?_, ?_, ?_, ?_, ?_⟩
  · rw [exists_and_left, and_iff_left ⟨_, rfl⟩, Stamp.instant?_eq_none_iff, reading]
    exact or_congr_right Int.lt_iff_add_one_le
  · rintro e ⟨-, rfl⟩
    exact ⟨rfl, rfl, rfl⟩
  · intro naive
    obtain ⟨c, o⟩ := x
    obtain rfl : o = none := naive
    exact ⟨c.instant, Stamp.instant?_of_no_offset c⟩
  · intro range
    have inside : firstMicro ≤ x.utcMicros ∧ x.utcMicros ≤ lastMicro := by
      simp only [firstMicro, lastMicro]
      omega
    obtain ⟨i, found⟩ : ∃ i, x.instant? = some i := ⟨_, dif_pos inside⟩
    have millis := (Stamp.instant?_eq_some_iff_floor.mp found).2
    have shifted := Stamp.instant?_eq_some_iff.mp found
    rw [reading] at millis shifted
    exact ⟨i, found, by rw [i.micros_civil, millis], millis, shifted,
      fun o => Stamp.instant?_civil⟩
  · intro y v later le i j first second
    have reading' : y.utcMicros = v := later.symm
    exact Stamp.millis_le_of_utcMicros_le first second (by rw [reading, reading']; exact le)
  · intro format e
    rw [CenturyPivot.render_eq_error_iff, TimeValue.instant_stamp_eq_error_iff]

/-- A clock that is a microsecond ahead shows the epoch in the last millisecond of 1969, and the
    first moment of year 1 a microsecond too early. -/
theorem stamp_brought_to_utc_borrowing :
    (∃ i, (TimeValue.stamp
          ⟨⟨⟨1970, .january, 1, by decide, by decide, by decide, by decide⟩,
            ⟨0, 0, 0, 0, by decide, by decide, by decide, by decide⟩⟩,
            some ⟨1, by decide, by decide⟩⟩).instant = .ok i ∧
        i.civil.micros = -1000 ∧ i.millis = -1) ∧
      ∀ format, CenturyPivot.render format (.stamp
          ⟨⟨⟨1, .january, 1, by decide, by decide, by decide, by decide⟩,
            ⟨0, 0, 0, 0, by decide, by decide, by decide, by decide⟩⟩,
            some ⟨1, by decide, by decide⟩⟩)
        = .error (.unrepresentable
          ⟨⟨⟨1, .january, 1, by decide, by decide, by decide, by decide⟩,
            ⟨0, 0, 0, 0, by decide, by decide, by decide, by decide⟩⟩,
            some ⟨1, by decide, by decide⟩⟩) := by
  refine ⟨?_, ?_⟩
  · obtain ⟨-, -, -, accepted, -⟩ := stamp_brought_to_utc
      ⟨⟨⟨1970, .january, 1, by decide, by decide, by decide, by decide⟩,
        ⟨0, 0, 0, 0, by decide, by decide, by decide, by decide⟩⟩,
        some ⟨1, by decide, by decide⟩⟩ (-1) (by decide +kernel)
    obtain ⟨i, found, micros, millis, -⟩ := accepted (by decide)
    exact ⟨i, found, micros, millis⟩
  · intro format
    obtain ⟨refused, as, -, -, -, rendered⟩ := stamp_brought_to_utc
      ⟨⟨⟨1, .january, 1, by decide, by decide, by decide, by decide⟩,
        ⟨0, 0, 0, 0, by decide, by decide, by decide, by decide⟩⟩,
        some ⟨1, by decide, by decide⟩⟩ (-62135596800000001) (by decide +kernel)
    obtain ⟨e, found⟩ := refused.mpr (by decide)
    obtain ⟨rfl, -⟩ := as e found
    exact (rendered format _).mpr found

end CloudClient
