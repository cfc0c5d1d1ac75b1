import CloudClient.Text.Digits
import Mathlib.Data.List.Induction
import Mathlib.Tactic.IntervalCases

namespace CloudClient.Text

/-!
# Numerals of a fixed width

Every row of `width` ASCII digits stands for one number below `10 ^ width`, and every such number is
written by one row only.

* `Numeral` — a row of digits with its width and its value;
* `numeral_iff` — the row is the one that `decimal` writes;
* `decimalValue?_eq_some_iff` — `decimalValue?` reads exactly the numerals;
* `decimal_mod` — a number and its rest modulo `10 ^ width` are written alike;
* `decimal_add` — the last digits are written like the number itself, in a smaller width.
-/

/-- The text is a row of `width` ASCII digits that stands for `n`. -/
structure Numeral (width n : Nat) (cs : List Char) : Prop where
  length_eq : cs.length = width
  isDigit : ∀ c ∈ cs, c.isDigit = true
  value_eq : decimalNumber cs = n

/-! ### Single digits -/

/-- The code points of the ASCII digits. -/
theorem toNat_of_isDigit {c : Char} (h : c.isDigit = true) : 48 ≤ c.toNat ∧ c.toNat ≤ 57 := by
  simpa [Char.isDigit, UInt32.le_iff_toNat_le] using h

/-- An ASCII digit has a value below ten. -/
theorem value_lt_of_isDigit {c : Char} (h : c.isDigit = true) : c.toNat - '0'.toNat < 10 := by
  have bounds := toNat_of_isDigit h
  have zero : '0'.toNat = 48 := rfl
  omega

/-- An ASCII digit is the digit of its own value. -/
theorem digitChar_of_isDigit {c : Char} (h : c.isDigit = true) :
    Nat.digitChar (c.toNat - '0'.toNat) = c := by
  obtain ⟨low, high⟩ := toNat_of_isDigit h
  -- Ten code points are left, and a character is given by its code point.
  have code : c = Char.ofNat c.toNat := (Char.ofNat_toNat c).symm
  generalize c.toNat = n at code low high ⊢
  subst code
  interval_cases n <;> rfl

/-! ### Rows of digits -/

/-- A row of ASCII digits stands for a number that its width can hold. -/
theorem decimalNumber_lt {cs : List Char} (h : ∀ c ∈ cs, c.isDigit = true) :
    decimalNumber cs < 10 ^ cs.length := by
  induction cs using List.reverseRecOn with
  | nil => exact Nat.one_pos
  | append_singleton cs c ih =>
    have front := ih fun d hd => h d (List.mem_append_left _ hd)
    have last := value_lt_of_isDigit (h c (by simp))
    rw [decimalNumber_concat, List.length_append, List.length_singleton, Nat.pow_succ']
    omega

/-- A row of ASCII digits is the numeral of its value. -/
theorem decimal_decimalNumber {cs : List Char} (h : ∀ c ∈ cs, c.isDigit = true) :
    decimal cs.length (decimalNumber cs) = cs := by
  induction cs using List.reverseRecOn with
  | nil => rfl
  | append_singleton cs c ih =>
    have front := ih fun d hd => h d (List.mem_append_left _ hd)
    have isDigit := h c (by simp)
    have last := value_lt_of_isDigit isDigit
    rw [decimalNumber_concat, List.length_append, List.length_singleton]
    show digits 10 cs.length _ ++ [Nat.digitChar _] = _
    -- The last digit is the rest modulo ten, the others are the quotient.
    have quotient : (10 * decimalNumber cs + (c.toNat - '0'.toNat)) / 10 = decimalNumber cs := by
      omega
    have rest : (10 * decimalNumber cs + (c.toNat - '0'.toNat)) % 10 = c.toNat - '0'.toNat := by
      omega
    rw [quotient, rest, digitChar_of_isDigit isDigit]
    exact congrArg (· ++ [c]) front

/-- A written number reads back, as far as the width holds it. -/
theorem decimalNumber_decimal (width n : Nat) :
    decimalNumber (decimal width n) = n % 10 ^ width := by
  induction width generalizing n with
  | zero => exact (Nat.mod_one n).symm
  | succ width ih =>
    have last := digitChar_ascii (Nat.mod_lt n (by decide : 0 < 10))
    simp only [decimal] at ih
    simp only [decimal, digits, decimalNumber_concat, ih, last.2]
    rw [Nat.pow_succ', Nat.mod_mul]
    omega

/-- What `decimal` writes is a numeral of the rest that the width holds. -/
theorem numeral_decimal (width n : Nat) : Numeral width (n % 10 ^ width) (decimal width n) where
  length_eq := length_digits 10 width n
  isDigit := List.all_eq_true.mp (all_isDigit_decimal width n)
  value_eq := decimalNumber_decimal width n

/-- The numerals are what `decimal` writes of the numbers that the width holds. -/
theorem numeral_iff {width n : Nat} {cs : List Char} :
    Numeral width n cs ↔ n < 10 ^ width ∧ cs = decimal width n := by
  refine ⟨?_, ?_⟩
  · intro numeral
    obtain ⟨rfl, isDigit, rfl⟩ := numeral
    exact ⟨decimalNumber_lt isDigit, (decimal_decimalNumber isDigit).symm⟩
  · rintro ⟨bound, rfl⟩
    have written := numeral_decimal width n
    rwa [Nat.mod_eq_of_lt bound] at written

/-- `decimalValue?` reads exactly the numerals. -/
theorem decimalValue?_eq_some_iff {cs : List Char} {n : Nat} :
    decimalValue? cs = some n ↔ Numeral cs.length n cs := by
  unfold decimalValue?
  refine ⟨?_, ?_⟩
  · intro read
    split at read
    · rename_i isDigit
      rw [Option.some.injEq] at read
      exact ⟨rfl, List.all_eq_true.mp isDigit, read⟩
    · exact absurd read (by simp)
  · intro numeral
    obtain ⟨-, isDigit, value⟩ := numeral
    rw [if_pos (List.all_eq_true.mpr isDigit), value]

/-- A numeral is read as what it stands for. -/
theorem Numeral.decimalValue? {width n : Nat} {cs : List Char} (h : Numeral width n cs) :
    Text.decimalValue? cs = some n :=
  decimalValue?_eq_some_iff.mpr ⟨rfl, h.isDigit, h.value_eq⟩

/-- What is read is a numeral of the text's own width. -/
theorem numeral_of_decimalValue? {width n : Nat} {cs : List Char} (length : cs.length = width)
    (h : decimalValue? cs = some n) : Numeral width n cs :=
  length ▸ decimalValue?_eq_some_iff.mp h

/-- Only the rest modulo `10 ^ width` is written. -/
theorem decimal_mod (width n : Nat) : decimal width (n % 10 ^ width) = decimal width n :=
  (numeral_iff.mp (numeral_decimal width n)).2.symm

/-- The first digits are those of the quotient, and the last ones are written of the number
    itself. -/
theorem decimal_add (front back n : Nat) :
    decimal (front + back) n = decimal front (n / 10 ^ back) ++ decimal back n := by
  induction back generalizing n with
  | zero => rw [Nat.pow_zero, Nat.div_one]; exact (List.append_nil _).symm
  | succ back ih =>
    show decimal (front + back) (n / 10) ++ _ = _ ++ (decimal back (n / 10) ++ _)
    rw [ih, Nat.div_div_eq_div_mul, ← Nat.pow_succ', List.append_assoc]

end CloudClient.Text
