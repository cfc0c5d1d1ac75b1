import CloudClient.Proofs.Text.FixedWidth
import Mathlib.Data.List.Lex

namespace CloudClient.Text

/-!
# The order of texts

Texts are compared character by character, the first difference decides, and characters are compared
by their code points.

* `append_lt_append_iff` — texts of several parts, of which the first ones are of one length;
* `decimal_lt_decimal_iff` — numerals of one width are in the order of their numbers;
* `compare_eq_compare`, `eq_iff_of_lt_iff` — two orders that agree on what comes first agree.
-/

/-- The first parts decide, and where they are equal the other ones do. -/
theorem append_lt_append_iff {as bs cs ds : List Char} (length : as.length = bs.length) :
    as ++ cs < bs ++ ds ↔ as < bs ∨ as = bs ∧ cs < ds := by
  induction as generalizing bs with
  | nil =>
    obtain rfl : bs = [] := List.length_eq_zero_iff.mp length.symm
    simp
  | cons a as ih =>
    cases bs with
    | nil => exact absurd length (Nat.succ_ne_zero _)
    | cons b bs =>
      simp only [List.cons_append, List.cons_lt_cons_iff, List.cons.injEq, ih (Nat.succ.inj length),
        and_or_left, and_assoc, or_assoc]

/-- Digits are in the order of their values. -/
theorem digitChar_lt_digitChar_iff {m n : Nat} (hm : m < 10) (hn : n < 10) :
    Nat.digitChar m < Nat.digitChar n ↔ m < n := by
  have each : ∀ m < 10, ∀ n < 10, (Nat.digitChar m < Nat.digitChar n ↔ m < n) := by decide
  exact each m hm n hn

/-- Numerals of one width stand for different numbers, as far as the width holds them. -/
theorem decimal_inj {width m n : Nat} (hm : m < 10 ^ width) (hn : n < 10 ^ width) :
    decimal width m = decimal width n ↔ m = n := by
  refine ⟨?_, congrArg _⟩
  intro same
  have value := congrArg decimalNumber same
  rwa [decimalNumber_decimal, decimalNumber_decimal, Nat.mod_eq_of_lt hm, Nat.mod_eq_of_lt hn]
    at value

/-- Numerals of one width are in the order of their numbers, as far as the width holds them. -/
theorem decimal_lt_decimal_iff {width m n : Nat} (hm : m < 10 ^ width) (hn : n < 10 ^ width) :
    decimal width m < decimal width n ↔ m < n := by
  induction width generalizing m n with
  | zero =>
    obtain rfl : m = n := by omega
    simp
  | succ width ih =>
    rw [Nat.pow_succ] at hm hn
    have front (n : Nat) : decimal (width + 1) n
        = decimal width (n / 10) ++ [Nat.digitChar (n % 10)] := rfl
    have hm' : m / 10 < 10 ^ width := by omega
    have hn' : n / 10 < 10 ^ width := by omega
    have length : (decimal width (m / 10)).length = (decimal width (n / 10)).length := by simp
    -- The quotients decide, and where they are equal the last digits do.
    rw [front m, front n, append_lt_append_iff length, ih hm' hn', decimal_inj hm' hn']
    simp only [List.cons_lt_cons_iff, List.not_lt_nil, and_false, or_false,
      digitChar_lt_digitChar_iff (Nat.mod_lt m (by decide)) (Nat.mod_lt n (by decide))]
    omega

section

variable {α β : Type*} [LinearOrder α] [LinearOrder β] {a b : α} {s t : β}

/-- Two pairs compare alike if they do so as to what comes first. -/
theorem compare_eq_compare (first : s < t ↔ a < b) (second : t < s ↔ b < a) :
    compare s t = compare a b := by
  rcases lt_trichotomy a b with lt | eq | gt
  · rw [compare_lt_iff_lt.mpr lt, compare_lt_iff_lt.mpr (first.mpr lt)]
  · have same : s = t := le_antisymm (not_lt.mp (mt second.mp (by simp [eq])))
      (not_lt.mp (mt first.mp (by simp [eq])))
    rw [compare_eq_iff_eq.mpr eq, compare_eq_iff_eq.mpr same]
  · rw [compare_gt_iff_gt.mpr gt, compare_gt_iff_gt.mpr (second.mpr gt)]

theorem eq_iff_of_lt_iff (first : s < t ↔ a < b) (second : t < s ↔ b < a) : s = t ↔ a = b := by
  rw [← compare_eq_iff_eq, compare_eq_compare first second, compare_eq_iff_eq]

end

end CloudClient.Text
