import CloudClient.Calendar.Date
import CloudClient.Wire.Century

namespace CloudClient

/-!
# The hundred years of a pivot

Two-digit years stand for a hundred years in a row.

* `CenturyPivot.Covers` — the years that two digits can stand for;
* `CenturyPivot.expand_mod_eq_iff` — exactly these years come back from their last two digits;
* `CenturyPivot.isLeapYear_expand_mod_iff` — a leap year comes back as a leap year, unless it comes
  back as 1900.
-/

namespace CenturyPivot

variable {pivot : CenturyPivot} {n year : Nat}

/-- The year is one of the hundred years that two digits stand for. -/
def Covers (pivot : CenturyPivot) (year : Nat) : Prop :=
  1900 + pivot.value ≤ year ∧ year ≤ 1999 + pivot.value

/-- Two digits stand for a year that the pivot covers. -/
theorem covers_expand (short : n < 100) : pivot.Covers (pivot.expand n) := by
  have bound := pivot.le_ninetyNine
  unfold Covers expand
  by_cases late : pivot.value ≤ n
  · rw [if_pos late]
    omega
  · rw [if_neg late]
    omega

/-- Two digits stand for a year that ends in them. -/
theorem expand_mod (short : n < 100) : pivot.expand n % 100 = n := by
  unfold expand
  split <;> omega

/-- The years that are covered, and no others, come back from their last two digits. -/
theorem expand_mod_eq_iff : pivot.expand (year % 100) = year ↔ pivot.Covers year := by
  have short : year % 100 < 100 := Nat.mod_lt _ (by decide)
  have covered := pivot.covers_expand short
  have same := pivot.expand_mod short
  refine ⟨?_, ?_⟩
  · intro back
    rw [back] at covered
    exact covered
  · intro covers
    -- Among a hundred years in a row no two end in the same two digits.
    unfold Covers at covered covers
    omega

/-- The year that two digits stand for is the only covered one that ends in them. -/
theorem covers_and_mod_iff {z : Nat} :
    pivot.Covers z ∧ z % 100 = year % 100 ↔ z = pivot.expand (year % 100) := by
  refine ⟨?_, ?_⟩
  · intro covered
    obtain ⟨covers, same⟩ := covered
    rw [← same]
    exact (expand_mod_eq_iff.mpr covers).symm
  · rintro rfl
    have short : year % 100 < 100 := Nat.mod_lt _ (by decide)
    exact ⟨covers_expand short, expand_mod short⟩

/-- A leap year comes back as a leap year, but for one that four hundred divides when the two digits
    `00` stand for 1900. -/
theorem isLeapYear_expand_mod_iff (leap : isLeapYear year = true) :
    isLeapYear (pivot.expand (year % 100)) = true ↔ ¬ (pivot.value = 0 ∧ 400 ∣ year) := by
  simp only [isLeapYear, Bool.and_eq_true, Bool.or_eq_true, beq_iff_eq, bne_iff_ne] at leap ⊢
  unfold expand
  by_cases late : pivot.value ≤ year % 100
  · rw [if_pos late]
    omega
  · rw [if_neg late]
    omega

end CenturyPivot

end CloudClient
