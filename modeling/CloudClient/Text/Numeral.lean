import CloudClient.Text.Blank
import CloudClient.Text.DecimalDigit
import CloudClient.Text.Quoted

namespace CloudClient.Text

/-!
# Numerals of whole numbers

A numeral as people type it: blanks around it, a sign, decimal digits of any script, and single
underscores between digits.

* `isPadding` — the blanks that may stand around a numeral;
* `separated` — the rule on underscores;
* `readInt`, `parseInt` — the number, or what is wrong with the numeral (`NumeralFault`).
-/

/-- What keeps a text from being read as a number. -/
inductive NumeralFault where
  /-- The text is no numeral. -/
  | malformed
  /-- The numeral has more digits than are read. -/
  | tooLong (count : Nat)
deriving DecidableEq, Repr

/-- A blank that may stand around a numeral: any but the four ASCII separator controls. -/
def isPadding (c : Char) : Bool := isBlank c && !(0x1c ≤ c.toNat && c.toNat ≤ 0x1f)

/-- A character that a numeral's body consists of. -/
def isNumeralChar (c : Char) : Bool := c == '_' || (digitValue? c).isSome

/-- Every underscore stands between two digits; `digitDue` tells that a digit has to come next. -/
def separated : (digitDue : Bool) → List Char → Bool
  | digitDue, [] => !digitDue
  | digitDue, c :: cs => if c = '_' then !digitDue && separated true cs else separated false cs

/-- Splits off a sign; the flag tells a minus. -/
def readSign : List Char → Bool × List Char
  | '+' :: cs => (false, cs)
  | '-' :: cs => (true, cs)
  | cs => (false, cs)

/-- The number that a row of digits stands for, the most significant first. -/
def digitsValue (ds : List Nat) : Nat := ds.foldl (fun n d => 10 * n + d) 0

/-- Reads a numeral.  A body with a misplaced underscore is malformed; then its digits are counted;
    then nothing but blanks may follow. -/
def readInt (cs : List Char) : Except NumeralFault Int :=
  let (negative, cs) := readSign (cs.dropWhile isPadding)
  let body := cs.takeWhile isNumeralChar
  let rest := cs.dropWhile isNumeralChar
  let ds := body.filterMap digitValue?
  -- What follows the body is looked at last, so a long numeral is too long whatever comes after it.
  if !separated true body then .error .malformed
  else if maxDigits < ds.length then .error (.tooLong ds.length)
  else if !rest.all isPadding then .error .malformed
  else
    let n : Int := digitsValue ds
    .ok (if negative then -n else n)

/-- A text that was taken for a numeral and refused. -/
structure NumeralError where
  text : String
  fault : NumeralFault
deriving DecidableEq

/-- The report on a refused numeral.  It shows at most the first two hundred characters of the
    quoted text. -/
def NumeralError.message (e : NumeralError) : String :=
  match e.fault with
  | .malformed =>
    "invalid literal for int() with base 10: " ++ String.ofList ((quoted e.text.toList).take 200)
  | .tooLong count => tooLongMessage (": value has " ++ toString count ++ " digits")

/-- The number that a text stands for, or the report on the text. -/
def parseInt (s : String) : Except NumeralError Int :=
  match readInt s.toList with
  | .ok n => .ok n
  | .error fault => .error ⟨s, fault⟩

end CloudClient.Text
