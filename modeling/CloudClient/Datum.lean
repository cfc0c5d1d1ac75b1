import CloudClient.Number.Shortest
import CloudClient.Text.Quoted

namespace CloudClient

/-!
# Dynamic values

What a caller may hand over where a particular kind of value is wanted: the fields of a pool record
are scalars of any kind, and the text to parse may turn out to be no text at all.

* `Scalar`, `Datum` — the values;
* `kind` — the name of a value's kind, as reports give it;
* `literal` — a value as reports show it, as far as it can be shown;
* `Scalar.plain` — a scalar as reports mention it, a text without quotes;
* `ShowFault`, `showFault?` — what keeps a value from being shown or mentioned;
* `Scalar.mention`, `Scalar.reportClass` — a report that mentions a scalar, and how a caller tells
  it;
* `Scalar.agrees` — equality by value, across the kinds of numbers;
* `ErrorClass` — the classes of errors that a caller can catch;
* `noMemberReport` — what is said when a value is asked for something that it does not have.
-/

/-- The classes of errors that a caller can catch. -/
inductive ErrorClass where
  | malformedDate
  | value
  | type
  | overflow
  | recursion
deriving DecidableEq

/-- What keeps a value from being shown. -/
inductive ShowFault where
  /-- A whole number has more digits than are written. -/
  | tooLong
  /-- The value is nested too deeply. -/
  | tooDeep
deriving DecidableEq

namespace ShowFault

/-- The report in words. -/
def message : ShowFault → String
  | tooLong => Text.tooLongMessage ""
  | tooDeep => "maximum recursion depth exceeded while getting the repr of an object"

/-- The class of the error. -/
def errorClass : ShowFault → ErrorClass
  | tooLong => .value
  | tooDeep => .recursion

end ShowFault

/-- A value without parts. -/
inductive Scalar where
  | null
  | bool (b : Bool)
  | int (n : Int)
  | real (x : Binary64)
  | text (s : String)
deriving DecidableEq

/-- Reals show the fewest digits that identify them, without an exponent from `0.0001` up to below
    `10 ^ 16`, and a whole real keeps a fraction. -/
def realStyle : DecimalStyle where
  leastPoint := -3
  greatestPoint := 16
  exponentWidth := 2
  wholeMark := ".0"
  infinity := "inf"
  nan := "nan"

namespace Scalar

/-- The name of the kind. -/
def kind : Scalar → String
  | null => "NoneType"
  | bool _ => "bool"
  | int _ => "int"
  | real _ => "float"
  | text _ => "str"

/-- The value as a report mentions it. -/
def plain : Scalar → String
  | null => "None"
  | bool b => if b then "True" else "False"
  | int n => toString n
  | real x => realStyle.write x
  | text s => s

/-- The value as a report shows it: a text is quoted. -/
def literal : Scalar → String
  | text s => Text.quote s
  | other => other.plain

/-- What keeps the value from being shown or mentioned. -/
def showFault? : Scalar → Option ShowFault
  | int n => if Text.isTooLong n then some .tooLong else none
  | null | bool _ | real _ | text _ => none

/-- A report that mentions the value; if it cannot be mentioned, the report says why. -/
def mention (s : Scalar) (report : String → String) : String :=
  match s.showFault? with
  | some fault => fault.message
  | none => report s.plain

/-- The class of an error whose report mentions the value; if it cannot be mentioned, this is the
    error that is raised. -/
def reportClass (s : Scalar) (intended : ErrorClass) : ErrorClass :=
  match s.showFault? with
  | some fault => fault.errorClass
  | none => intended

/-- The whole number that a truth value or an integer counts as. -/
def wholeNumber? : Scalar → Option Int
  | bool b => some (if b then 1 else 0)
  | int n => some n
  | _ => none

/-- Equality by value: truth values count as numbers, and numbers of different kinds are compared
    without rounding. -/
def agrees : Scalar → Scalar → Bool
  | null, null => true
  | text s, text t => s == t
  | real x, real y => x.equals y
  | real x, other => other.wholeNumber?.any x.equalsInt
  | other, real x => other.wholeNumber?.any x.equalsInt
  | a, b =>
    match a.wholeNumber?, b.wholeNumber? with
    | some m, some n => m == n
    | _, _ => false

end Scalar

/-- A value of any kind. -/
inductive Datum where
  | scalar (s : Scalar)
  | bytes (bs : List UInt8)
  | list (items : List Datum)
  | dict (entries : List (String × Datum))

namespace Datum

/-- The text as a value. -/
abbrev text (s : String) : Datum := .scalar (.text s)

/-- The name of the kind. -/
def kind : Datum → String
  | scalar s => s.kind
  | bytes _ => "bytes"
  | list _ => "list"
  | dict _ => "dict"

mutual

/-- The value as a report shows it. -/
def literal : Datum → String
  | scalar s => s.literal
  | bytes bs => String.ofList (Text.quotedBytes bs)
  | list items => "[" ++ literals items ++ "]"
  | dict entries => "\x7b" ++ entryLiterals entries ++ "\x7d"

/-- The items of a list, with commas between them. -/
def literals : List Datum → String
  | [] => ""
  | [item] => item.literal
  | item :: items => item.literal ++ ", " ++ literals items

/-- The entries of a dictionary, with commas between them. -/
def entryLiterals : List (String × Datum) → String
  | [] => ""
  | [(key, value)] => Text.quote key ++ ": " ++ value.literal
  | (key, value) :: entries =>
    Text.quote key ++ ": " ++ value.literal ++ ", " ++ entryLiterals entries

end

/-- The levels of a value that can be shown.  A value without parts has one, and one that holds
    others has one more than the deepest of them.  The limit is what the stack of the runtime leaves
    to a call that comes to a date service through a codec; it shrinks with the calls that are under
    way. -/
def shownLevels : Nat := 987

mutual

/-- What keeps a value from being shown if there is room for a number of levels: what comes first
    when the value is gone through from the left. -/
def showFault? : (room : Nat) → Datum → Option ShowFault
  | 0, _ => some .tooDeep
  | _ + 1, scalar s => s.showFault?
  | _ + 1, bytes _ => none
  | room + 1, list items => itemsFault? room items
  | room + 1, dict entries => entriesFault? room entries

/-- The same of the items of a list. -/
def itemsFault? : (room : Nat) → List Datum → Option ShowFault
  | _, [] => none
  | room, item :: items => (showFault? room item).or (itemsFault? room items)

/-- The same of the entries of a dictionary.  A key is a text and takes no more room than its
    value. -/
def entriesFault? : (room : Nat) → List (String × Datum) → Option ShowFault
  | _, [] => none
  | room, (_, value) :: entries => (showFault? room value).or (entriesFault? room entries)

end

end Datum

/-- The report that values of a kind have nothing under a name. -/
def noMemberReport (kind name : String) : String :=
  "'" ++ kind ++ "' object has no attribute '" ++ name ++ "'"

end CloudClient
