import CloudClient.Proofs.Wire.Resolution

namespace CloudClient

/-!
# Milliseconds and clock readings

The numbers of milliseconds in range and the readings of a UTC clock in whole milliseconds belong
together one to one.

* `Civil.floorMilli` — a reading without what lies below the millisecond;
* `Stamp.instant?_eq_some_iff` — the instant of a time stamp is the one at which a UTC clock shows
  the stamp's reading in UTC, without what lies below the millisecond;
* `TimeValue.ofMillis_eq_ok_iff` — what is made of a number of milliseconds;
* `ofMillis_inverts_millis` — numbers to readings and readings to numbers are inverse to each other,
  and both are defined exactly in the years 1 to 9999.
-/

/-! ### Whole milliseconds -/

/-- The reading without what lies below the millisecond. -/
def Civil.floorMilli (c : Civil) : Civil where
  date := c.date
  time := { c.time with
    micro := c.time.micro - c.time.micro % 1000
    micro_lt := Nat.lt_of_le_of_lt (Nat.sub_le _ _) c.time.micro_lt }

namespace Civil

/-- The microseconds from the epoch are rounded down to whole milliseconds, before the epoch too. -/
theorem micros_floorMilli (c : Civil) : c.floorMilli.micros = 1000 * (c.micros / 1000) := by
  simp only [micros, floorMilli, TimeOfDay.micros, epochDay, microsPerDay]
  omega

/-- A reading in whole milliseconds is left as it is. -/
theorem floorMilli_eq_self_iff {c : Civil} : c.floorMilli = c ↔ 1000 ∣ c.time.micro := by
  refine ⟨?_, ?_⟩
  · intro same
    have micro : c.time.micro - c.time.micro % 1000 = c.time.micro :=
      congrArg (fun c => c.time.micro) same
    omega
  · intro whole
    apply micros_injective
    rw [micros_floorMilli]
    simp only [micros, TimeOfDay.micros, epochDay, microsPerDay]
    omega

/-- At the instant of a reading a UTC clock shows it, without what lies below the millisecond. -/
theorem civil_instant_eq_floorMilli (c : Civil) : c.instant.civil = c.floorMilli := by
  apply micros_injective
  rw [Instant.micros_civil, micros_floorMilli]
  rfl

end Civil

/-! ### From time stamps to milliseconds -/

/-- The instants are told apart by their clock readings. -/
theorem Instant.civil_injective {i j : Instant} (same : i.civil = j.civil) : i = j := by
  rw [← i.instant_civil, ← j.instant_civil, same]

/-- A time stamp has an instant exactly if its reading in UTC is one of the years 1 to 9999; there a
    UTC clock shows this reading, without what lies below the millisecond. -/
theorem Stamp.instant?_eq_some_iff {x : Stamp} {i : Instant} :
    x.instant? = some i ↔ ∃ c : Civil, c.micros = x.utcMicros ∧ i.civil = c.floorMilli := by
  unfold instant?
  refine ⟨?_, ?_⟩
  · intro accepted
    rw [Option.dite_none_right_eq_some] at accepted
    obtain ⟨⟨low, high⟩, found⟩ := accepted
    rw [Option.some.injEq] at found
    have reading := Civil.micros_ofMicros x.utcMicros low high
    refine ⟨.ofMicros x.utcMicros low high, reading, ?_⟩
    apply Civil.micros_injective
    rw [← found, Instant.micros_civil, Civil.micros_floorMilli, reading]
    rfl
  · rintro ⟨c, utc, shown⟩
    rw [dif_pos ⟨utc ▸ c.firstMicro_le_micros, utc ▸ c.micros_le_lastMicro⟩, Option.some.injEq]
    apply Instant.civil_injective
    rw [shown, ← c.civil_instant_eq_floorMilli]
    simp only [Civil.instant, utc]

/-! ### From milliseconds to clock readings -/

theorem Instant.ofMillis?_eq_some_iff {n : Int} {i : Instant} :
    ofMillis? n = some i ↔ i.millis = n := by
  refine ⟨millis_of_ofMillis?, ?_⟩
  rintro rfl
  exact i.ofMillis?_millis

namespace TimeValue

/-- The instant of a time stamp as a value to be rendered. -/
theorem instant_stamp_eq_ok_iff {x : Stamp} {i : Instant} :
    (stamp x).instant = .ok i ↔ x.instant? = some i := by
  unfold instant
  cases found : x.instant? <;> simp [found]

/-- Of a number of milliseconds the reading of a UTC clock is made. -/
theorem ofMillis_eq_ok_iff {n : Int} {v : TimeValue} :
    ofMillis n = .ok v ↔ ∃ i : Instant, i.millis = n ∧ v = .stamp ⟨i.civil, none⟩ := by
  simp only [← Instant.ofMillis?_eq_some_iff]
  unfold ofMillis
  cases Instant.ofMillis? n with
  | none => simp
  | some i => simp [Stamp.ofInstant, eq_comm]

/-- A number of milliseconds outside the years 1 to 9999 is refused. -/
theorem ofMillis_eq_error_iff {n : Int} :
    ofMillis n = .error .beyondCalendar ↔ ¬ (firstMilli ≤ n ∧ n ≤ lastMilli) := by
  rw [← Instant.ofMillis?_isSome_iff]
  unfold ofMillis
  cases Instant.ofMillis? n <;> simp

/-- A number of milliseconds in the years 1 to 9999 is accepted. -/
theorem exists_ofMillis_iff {n : Int} :
    (∃ v, ofMillis n = .ok v) ↔ firstMilli ≤ n ∧ n ≤ lastMilli := by
  rw [← Instant.ofMillis?_isSome_iff]
  unfold ofMillis
  cases Instant.ofMillis? n <;> simp

/-- Any other number leads beyond the calendar. -/
theorem errorClass_of_ofMillis {n : Int} {e : DateError} (refused : ofMillis n = .error e) :
    e.errorClass = .overflow := by
  unfold ofMillis at refused
  cases found : Instant.ofMillis? n with
  | some i => exact absurd refused (by simp [found])
  | none =>
    rw [found] at refused
    obtain rfl := Except.error.inj refused
    rfl

end TimeValue

/-- A number of milliseconds is accepted exactly if it lies in the years 1 to 9999, and what is made
    of it has this number again; any other one is refused with an overflow.  The number of every
    time stamp with an instant is in this range, and of it the stamp's reading in UTC is made,
    without what lies below the millisecond.  So the numbers in range and the readings of a UTC
    clock in whole milliseconds belong together one to one. -/
theorem ofMillis_inverts_millis :
    (∀ n : Int,
      ((∃ v, TimeValue.ofMillis n = .ok v) ↔ -62135596800000 ≤ n ∧ n ≤ 253402300799999) ∧
      (TimeValue.ofMillis n = .error .beyondCalendar ↔
        ¬ (-62135596800000 ≤ n ∧ n ≤ 253402300799999)) ∧
      (∀ e, TimeValue.ofMillis n = .error e → e.errorClass = .overflow) ∧
      ∀ v, TimeValue.ofMillis n = .ok v → ∃ i, v.instant = .ok i ∧ i.millis = n) ∧
    (∀ (x : Stamp) (i : Instant), (TimeValue.stamp x).instant = .ok i →
      (-62135596800000 ≤ i.millis ∧ i.millis ≤ 253402300799999) ∧
      ∃ c : Civil, c.micros = x.utcMicros ∧ i.civil = c.floorMilli ∧
        1000 * i.millis = c.floorMilli.micros ∧
        TimeValue.ofMillis i.millis = .ok (.stamp ⟨c.floorMilli, none⟩)) ∧
    ∀ (n : Int) (c : Civil), TimeValue.ofMillis n = .ok (.stamp ⟨c, none⟩) ↔
      1000 ∣ c.time.micro ∧ ∃ i, (TimeValue.stamp ⟨c, none⟩).instant = .ok i ∧ i.millis = n := by
  simp only [TimeValue.instant_stamp_eq_ok_iff]
  refine ⟨?_, ?_, ?_⟩
  · intro n
    refine ⟨TimeValue.exists_ofMillis_iff, TimeValue.ofMillis_eq_error_iff, ?_, ?_⟩
    · intro e refused
      exact TimeValue.errorClass_of_ofMillis refused
    · intro v made
      obtain ⟨i, millis, rfl⟩ := TimeValue.ofMillis_eq_ok_iff.mp made
      exact ⟨i, TimeValue.instant_stamp_eq_ok_iff.mpr (Stamp.instant?_ofInstant i), millis⟩
  · intro x i accepted
    obtain ⟨c, utc, shown⟩ := Stamp.instant?_eq_some_iff.mp accepted
    refine ⟨⟨i.firstMilli_le, i.le_lastMilli⟩, c, utc, shown, ?_, ?_⟩
    · rw [← shown, i.micros_civil]
    · exact TimeValue.ofMillis_eq_ok_iff.mpr ⟨i, rfl, by rw [shown]⟩
  · intro n c
    rw [TimeValue.ofMillis_eq_ok_iff, Stamp.instant?_of_no_offset, ← Civil.floorMilli_eq_self_iff,
      ← Civil.civil_instant_eq_floorMilli]
    refine ⟨?_, ?_⟩
    · rintro ⟨i, millis, same⟩
      obtain rfl : c = i.civil := by simpa using same
      exact ⟨by rw [i.instant_civil], i, congrArg some i.instant_civil, millis⟩
    · rintro ⟨whole, i, found, millis⟩
      obtain rfl : c.instant = i := Option.some.inj found
      exact ⟨c.instant, millis, by rw [whole]⟩

/-- A microsecond before the epoch, on a clock that is an hour ahead, has the number minus one, of
    which the last millisecond of 1969 is made; and the number after the last one is refused. -/
theorem ofMillis_inverts_millis_before_epoch :
    (∃ i, (TimeValue.stamp
          ⟨⟨⟨1970, .january, 1, by decide, by decide, by decide, by decide⟩,
            ⟨0, 59, 59, 999999, by decide, by decide, by decide, by decide⟩⟩,
            some ⟨3600000000, by decide, by decide⟩⟩).instant = .ok i ∧
        i.millis = -1 ∧
        TimeValue.ofMillis (-1) = .ok (.stamp
          ⟨⟨⟨1969, .december, 31, by decide, by decide, by decide, by decide⟩,
            ⟨23, 59, 59, 999000, by decide, by decide, by decide, by decide⟩⟩, none⟩)) ∧
      TimeValue.ofMillis 253402300800000 = .error .beyondCalendar := by
  have accepted : (TimeValue.stamp
      ⟨⟨⟨1970, .january, 1, by decide, by decide, by decide, by decide⟩,
        ⟨0, 59, 59, 999999, by decide, by decide, by decide, by decide⟩⟩,
        some ⟨3600000000, by decide, by decide⟩⟩).instant = .ok ⟨-1, by decide, by decide⟩ :=
    TimeValue.instant_stamp_eq_ok_iff.mpr (by decide +kernel)
  obtain ⟨numbers, stamps, -⟩ := ofMillis_inverts_millis
  obtain ⟨-, c, utc, -, -, made⟩ := stamps _ _ accepted
  have reading : c = ⟨⟨1969, .december, 31, by decide, by decide, by decide, by decide⟩,
      ⟨23, 59, 59, 999999, by decide, by decide, by decide, by decide⟩⟩ :=
    Civil.micros_injective (utc.trans (by decide +kernel))
  rw [reading] at made
  exact ⟨⟨_, accepted, rfl, made⟩, (numbers 253402300800000).2.1.mpr (by decide)⟩

end CloudClient
