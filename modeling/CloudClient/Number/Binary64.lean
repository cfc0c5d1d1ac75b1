namespace CloudClient

/-!
# Binary floating-point numbers

A number in the 64-bit binary format, taken apart with exact arithmetic.

* `Binary64` — the number, given by its bits;
* `Binary64.units` — its exact value as a multiple of the smallest positive number, `2 ^ (-1074)`;
* `Binary64.isBelowZero`, `Binary64.equals`, `Binary64.equalsInt` — comparisons by value.
-/

/-- A number in the 64-bit binary format. -/
structure Binary64 where
  bits : UInt64
deriving DecidableEq

namespace Binary64

/-- The sign bit, which also zero has. -/
def isNegative (x : Binary64) : Bool := Nat.pow 2 63 ≤ x.bits.toNat

/-- The exponent field. -/
def exponentField (x : Binary64) : Nat := x.bits.toNat / Nat.pow 2 52 % Nat.pow 2 11

/-- The fraction field. -/
def fraction (x : Binary64) : Nat := x.bits.toNat % Nat.pow 2 52

/-- Neither an infinity nor a NaN. -/
def isFinite (x : Binary64) : Bool := x.exponentField != 0x7ff

/-- The number is a NaN. -/
def isNaN (x : Binary64) : Bool := x.exponentField == 0x7ff && x.fraction != 0

/-- The distance to the next larger magnitude, in units of `2 ^ (-1074)`. -/
def gap (x : Binary64) : Nat := Nat.pow 2 (x.exponentField - 1)

/-- The magnitude of a finite number, in units of `2 ^ (-1074)`. -/
def magnitude (x : Binary64) : Nat :=
  (if x.exponentField = 0 then x.fraction else Nat.pow 2 52 + x.fraction) * x.gap

/-- The value of a finite number, in units of `2 ^ (-1074)`. -/
def units (x : Binary64) : Int := if x.isNegative then -(x.magnitude : Int) else x.magnitude

/-- The number is below zero, which neither `-0.0` nor a NaN is. -/
def isBelowZero (x : Binary64) : Bool := x.isNegative && x.magnitude != 0 && !x.isNaN

/-- Equality by value: both zeros are equal, a NaN equals nothing. -/
def equals (x y : Binary64) : Bool :=
  if x.isFinite && y.isFinite then x.units == y.units else x == y && !x.isNaN

/-- Equality with a whole number, without rounding. -/
def equalsInt (x : Binary64) (n : Int) : Bool :=
  x.isFinite && x.units == n * (Nat.pow 2 1074 : Nat)

end Binary64

end CloudClient
