import CloudClient.Number.Binary64
import CloudClient.Text.Digits

namespace CloudClient

/-!
# Shortest decimals

The text of a floating-point number: as few digits as identify it among the 64-bit numbers, laid out
by a style.

* `Decimal` — a number of the form `digits * 10 ^ exponent`;
* `Binary64.readsBack` — the decimal lies among the reals that round to the number;
* `Binary64.shortest` — the shortest such decimal, and of two the nearer;
* `DecimalStyle` — the decisions of a layout, and `DecimalStyle.write`, which follows them.
-/

/-- The number `digits * 10 ^ exponent`. -/
structure Decimal where
  digits : Nat
  exponent : Int
deriving DecidableEq, Repr

/-- The same number without zeros at the end of its digits. -/
def Decimal.strip (d : Decimal) : (fuel : Nat) → Decimal
  | 0 => d
  | fuel + 1 =>
    if d.digits % 10 = 0 then Decimal.strip ⟨d.digits / 10, d.exponent + 1⟩ fuel else d

namespace Binary64

/-- Compares `2 ^ 1074 * d`, scaled by four, with `quarters`: a count of quarters of the smallest
    positive number. -/
def compareQuarters (d : Decimal) (quarters : Nat) : Ordering :=
  compare (4 * d.digits * Nat.pow 2 1074 * Nat.pow 10 d.exponent.toNat)
    (quarters * Nat.pow 10 (-d.exponent).toNat)

/-- The decimal lies between the halfway points to the two neighbours of the magnitude.  The points
    themselves count exactly for an even significand; just above a power of two the lower neighbour
    is only half as far away. -/
def readsBack (x : Binary64) (d : Decimal) : Bool :=
  -- The first number of a binade is closer to the number below it than to the one above.
  let narrow := x.fraction = 0 && 1 < x.exponentField
  let low := compareQuarters d (4 * x.magnitude - if narrow then x.gap else 2 * x.gap)
  let high := compareQuarters d (4 * x.magnitude + 2 * x.gap)
  let even := x.fraction % 2 = 0
  (low == .gt || (even && low == .eq)) && (high == .lt || (even && high == .eq))

/-- The number of digits before the decimal point, or minus the number of zeros after it, of the
    magnitude of a number other than zero. -/
def pointPosition (x : Binary64) : Int :=
  if Nat.pow 2 1074 ≤ x.magnitude then
    ((Nat.toDigits 10 (x.magnitude / Nat.pow 2 1074)).length : Int)
  else 1 - ((Nat.toDigits 10 (Nat.pow 2 1074 / x.magnitude)).length : Int)

/-- The better of the two decimals with the given exponent next to the magnitude: the one that reads
    back, of two the nearer, at the same distance the even one. -/
def nearest? (x : Binary64) (exponent : Int) : Option Decimal :=
  let den := Nat.pow 2 1074 * Nat.pow 10 exponent.toNat
  let num := x.magnitude * Nat.pow 10 (-exponent).toNat
  let low := num / den
  let first : Decimal := ⟨low, exponent⟩
  let second : Decimal := ⟨low + 1, exponent⟩
  -- Twice the rest against the whole tells which of the two is nearer.
  let upward := den < 2 * (num % den) || (den = 2 * (num % den) && low % 2 = 1)
  match x.readsBack first, x.readsBack second with
  | true, true => some (if upward then second else first)
  | true, false => some first
  | false, true => some second
  | false, false => none

/-- The shortest decimal that reads back to the magnitude of a finite number.  Seventeen digits
    always suffice. -/
def shortest (x : Binary64) : Decimal :=
  if x.magnitude = 0 then ⟨0, 0⟩
  else
    let found := (List.range 17).findSome? fun n : Nat =>
      x.nearest? (x.pointPosition - (n + 1 : Nat))
    (found.getD ⟨x.magnitude * Nat.pow 5 1074, -1074⟩).strip 17

end Binary64

/-- How a decimal is laid out. -/
structure DecimalStyle where
  /-- The least position of the decimal point that is written without an exponent. -/
  leastPoint : Int
  /-- The greatest position of the decimal point that is written without an exponent. -/
  greatestPoint : Int
  /-- The least number of digits of an exponent. -/
  exponentWidth : Nat
  /-- What stands for the missing fraction of a whole number. -/
  wholeMark : String
  infinity : String
  nan : String

namespace DecimalStyle

/-- An exponent with its sign and its least number of digits. -/
def writeExponent (style : DecimalStyle) (e : Int) : String :=
  let ds := toString e.natAbs
  (if e < 0 then "e-" else "e+") ++ "".pushn '0' (style.exponentWidth - ds.length) ++ ds

/-- The magnitude of a decimal. -/
def writeMagnitude (style : DecimalStyle) (d : Decimal) : String :=
  let ds := Nat.toDigits 10 d.digits
  let point := ds.length + d.exponent
  if style.leastPoint ≤ point && point ≤ style.greatestPoint then
    if point ≤ 0 then "0." ++ "".pushn '0' (-point).toNat ++ String.ofList ds
    else if ds.length ≤ point then
      String.ofList ds ++ "".pushn '0' (point - ds.length).toNat ++ style.wholeMark
    else String.ofList (ds.take point.toNat) ++ "." ++ String.ofList (ds.drop point.toNat)
  else
    let fraction := if ds.length = 1 then "" else "." ++ String.ofList (ds.drop 1)
    String.ofList (ds.take 1) ++ fraction ++ style.writeExponent (point - 1)

/-- A number in this style. -/
def write (style : DecimalStyle) (x : Binary64) : String :=
  if x.isNaN then style.nan
  else
    (if x.isNegative then "-" else "") ++
      if x.isFinite then style.writeMagnitude x.shortest else style.infinity

end DecimalStyle

end CloudClient
