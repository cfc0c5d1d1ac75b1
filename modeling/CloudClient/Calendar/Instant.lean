import CloudClient.Calendar.Civil

namespace CloudClient

/-!
# Instants

Points in time with a resolution of a millisecond, in the years 1 to 9999 of UTC.

* `Instant` — the instant, by its milliseconds from the epoch;
* `Instant.ofMillis?` — the instant with a number of milliseconds, if in range;
* `Instant.civil`, `Civil.instant` — what a UTC clock shows, and back.
-/

/-- The first millisecond of year 1, counted from the epoch. -/
def firstMilli : Int := -62135596800000

/-- The last millisecond of year 9999, counted from the epoch. -/
def lastMilli : Int := 253402300799999

/-- An instant, given by its milliseconds from the epoch. -/
structure Instant where
  millis : Int
  firstMilli_le : firstMilli ≤ millis
  le_lastMilli : millis ≤ lastMilli
deriving DecidableEq

namespace Instant

/-- The instant a number of milliseconds after the epoch, if its year is one of 1 to 9999. -/
def ofMillis? (n : Int) : Option Instant :=
  if h : firstMilli ≤ n ∧ n ≤ lastMilli then some ⟨n, h.1, h.2⟩ else none

/-- What a UTC clock shows at the instant. -/
def civil (i : Instant) : Civil :=
  Civil.ofMicros (1000 * i.millis)
    (by have := i.firstMilli_le; simp only [firstMilli, firstMicro] at *; omega)
    (by have := i.le_lastMilli; simp only [lastMilli, lastMicro] at *; omega)

/-- The last instant not after a number of microseconds from the epoch. -/
def ofMicros (u : Int) (low : firstMicro ≤ u) (high : u ≤ lastMicro) : Instant where
  millis := u / 1000
  firstMilli_le := by simp only [firstMilli, firstMicro] at *; omega
  le_lastMilli := by simp only [lastMilli, lastMicro] at *; omega

end Instant

/-- The instant at which a UTC clock shows the civil time, without its microseconds below the
    millisecond. -/
def Civil.instant (c : Civil) : Instant :=
  Instant.ofMicros c.micros c.firstMicro_le_micros c.micros_le_lastMicro

namespace Instant

theorem ofMillis?_isSome_iff {n : Int} :
    (ofMillis? n).isSome = true ↔ firstMilli ≤ n ∧ n ≤ lastMilli := by
  simp only [ofMillis?]
  split <;> simp_all

@[simp] theorem ofMillis?_millis (i : Instant) : ofMillis? i.millis = some i := by
  rw [ofMillis?, dif_pos ⟨i.firstMilli_le, i.le_lastMilli⟩]

theorem millis_of_ofMillis? {n : Int} {i : Instant} (h : ofMillis? n = some i) : i.millis = n := by
  simp only [ofMillis?] at h
  split at h <;> simp at h
  rw [← h]

@[simp] theorem micros_civil (i : Instant) : i.civil.micros = 1000 * i.millis :=
  Civil.micros_ofMicros _ _ _

/-- The clock's reading determines the instant. -/
@[simp] theorem instant_civil (i : Instant) : i.civil.instant = i := by
  cases i with
  | mk millis _ _ =>
    simp only [Civil.instant, ofMicros, micros_civil, mk.injEq]
    omega

end Instant

end CloudClient
