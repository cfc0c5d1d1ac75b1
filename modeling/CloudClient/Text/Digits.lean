namespace CloudClient.Text

/-!
# Numbers of a fixed width

* `digits` — a number written with a set count of digits, zeros in front;
* `decimal` — the same in base ten;
* `decimalNumber`, `decimalValue?` — the number that ASCII decimal digits stand for;
* `maxDigits`, `isTooLong` — the limit on numerals, and the whole numbers that are beyond it.
-/

/-- The last `width` digits of `n` in a base up to sixteen, lower case. -/
def digits (base : Nat) : (width n : Nat) → List Char
  | 0, _ => []
  | width + 1, n => digits base width (n / base) ++ [Nat.digitChar (n % base)]

/-- The last `width` decimal digits of `n`. -/
abbrev decimal (width n : Nat) : List Char := digits 10 width n

/-- The number that a row of ASCII digits stands for, the most significant first. -/
def decimalNumber (cs : List Char) : Nat := cs.foldl (fun n c => 10 * n + (c.toNat - '0'.toNat)) 0

/-- The value of a text of ASCII digits alone; none if any other character occurs. -/
def decimalValue? (cs : List Char) : Option Nat :=
  if cs.all Char.isDigit then some (decimalNumber cs) else none

/-- The longest numeral that is read or written has this many digits. -/
def maxDigits : Nat := 4300

/-- The number has more digits than are written. -/
def isTooLong (n : Int) : Bool := Nat.pow 10 maxDigits ≤ n.natAbs

/-- What is said of a numeral that goes beyond the limit; `found` tells what was found. -/
def tooLongMessage (found : String) : String :=
  "Exceeds the limit (" ++ toString maxDigits ++ " digits) for integer string conversion" ++
    found ++ "; use sys.set_int_max_str_digits() to increase the limit"

/-- The limit in terms of the numeral. -/
theorem isTooLong_iff {n : Int} :
    isTooLong n = true ↔ 4300 < (Nat.toDigits 10 n.natAbs).length := by
  have limit : maxDigits = 4300 := rfl
  -- the power stays unevaluated behind the name of the limit
  rw [← limit, ← Nat.not_le, Nat.length_toDigits_le_iff (by decide) (by decide), Nat.not_lt]
  exact decide_eq_true_iff

@[simp] theorem length_digits (base width n : Nat) : (digits base width n).length = width := by
  induction width generalizing n with
  | zero => rfl
  | succ width ih => simp [digits, ih]

/-- The digit of a number below ten is an ASCII digit with that value. -/
theorem digitChar_ascii : ∀ {d : Nat}, d < 10 →
    (Nat.digitChar d).isDigit = true ∧ (Nat.digitChar d).toNat - '0'.toNat = d
  | 0, _ | 1, _ | 2, _ | 3, _ | 4, _ | 5, _ | 6, _ | 7, _ | 8, _ | 9, _ => by decide
  | _ + 10, h => absurd h (by omega)

@[simp] theorem decimalNumber_nil : decimalNumber [] = 0 := rfl

@[simp] theorem decimalNumber_concat (cs : List Char) (c : Char) :
    decimalNumber (cs ++ [c]) = 10 * decimalNumber cs + (c.toNat - '0'.toNat) := by
  simp only [decimalNumber, List.foldl_append, List.foldl_cons, List.foldl_nil]

theorem all_isDigit_decimal (width n : Nat) : (decimal width n).all Char.isDigit = true := by
  induction width generalizing n with
  | zero => rfl
  | succ width ih =>
    have last := digitChar_ascii (Nat.mod_lt n (by decide : 0 < 10))
    simp only [decimal] at ih
    simp only [decimal, digits, List.all_append, ih, last.1, List.all_cons, List.all_nil,
      Bool.and_self]

end CloudClient.Text
