namespace CloudClient

/-!
# Two-digit years

* `CenturyPivot` — the two-digit year from which on a year belongs to the twentieth century;
* `CenturyPivot.expand` — the full year.
-/

/-- Two-digit years from the pivot on belong to the twentieth century, the others to the
    twenty-first. -/
structure CenturyPivot where
  value : Nat
  le_ninetyNine : value ≤ 99
deriving DecidableEq

namespace CenturyPivot

/-- The pivot of a number, which has to be one of 0 to 99. -/
def ofInt? (p : Int) : Option CenturyPivot :=
  if h : 0 ≤ p ∧ p ≤ 99 then some ⟨p.toNat, by omega⟩ else none

/-- The year that a two-digit year stands for. -/
def expand (pivot : CenturyPivot) (year : Nat) : Nat :=
  if pivot.value ≤ year then 1900 + year else 2000 + year

theorem ofInt?_isSome_iff {p : Int} : (ofInt? p).isSome = true ↔ 0 ≤ p ∧ p ≤ 99 := by
  simp only [ofInt?]
  split <;> simp_all

end CenturyPivot

end CloudClient
