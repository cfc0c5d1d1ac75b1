import CloudClient.Calendar.Instant
import CloudClient.Text.Digits
import CloudClient.Wire.Format

namespace CloudClient

/-!
# Layouts

A wire format as a row of pieces, each of a fixed width.  Writing and reading both follow this row.

* `Fields` — what a text states, part by part;
* `Piece`, `Layout` — the parts of a text and their order; `WireFormat.layout` is the table;
* `Layout.write` — the text of the fields;
* `Layout.read` — the fields of a text that follows the layout from its first to its last character.
-/

/-- The parts of a date and a time as a text states them, in range or not. -/
structure Fields where
  weekday : Weekday
  year : Nat
  month : Nat
  day : Nat
  hour : Nat
  minute : Nat
  second : Nat
  milli : Nat
deriving DecidableEq

/-- The fields before anything is read. -/
def Fields.unset : Fields := ⟨.monday, 0, 0, 0, 0, 0, 0, 0⟩

/-- What a clock shows, part by part. -/
def Fields.ofCivil (c : Civil) : Fields where
  weekday := c.date.weekday
  year := c.date.year
  month := c.date.month.number
  day := c.date.day
  hour := c.time.hour
  minute := c.time.minute
  second := c.time.second
  milli := c.time.micro / 1000

/-- A piece of a layout. -/
inductive Piece where
  /-- This character. -/
  | literal (c : Char)
  /-- The English abbreviation of the weekday. -/
  | weekday
  /-- The year, four digits. -/
  | year
  /-- The year within its century, two digits. -/
  | shortYear
  /-- The number of the month, two digits. -/
  | month
  /-- The English abbreviation of the month. -/
  | monthName
  /-- The day of the month, two digits. -/
  | day
  /-- The day of the month in two places, written with a space for a leading zero. -/
  | spacedDay
  | hour
  | minute
  | second
  /-- The milliseconds, three digits. -/
  | milli
deriving DecidableEq

namespace Piece

/-- The number of characters. -/
def width : Piece → Nat
  | literal _ => 1
  | shortYear | month | day | spacedDay | hour | minute | second => 2
  | weekday | monthName | milli => 3
  | year => 4

/-- The piece for the given fields. -/
def write (f : Fields) : Piece → List Char
  | literal c => [c]
  | weekday => f.weekday.abbreviation
  | year => Text.decimal 4 f.year
  | shortYear => Text.decimal 2 f.year
  | month => Text.decimal 2 f.month
  | monthName => ((Month.ofNumber? f.month).getD .december).abbreviation
  | day => Text.decimal 2 f.day
  | spacedDay => if f.day < 10 then ' ' :: Text.decimal 1 f.day else Text.decimal 2 f.day
  | hour => Text.decimal 2 f.hour
  | minute => Text.decimal 2 f.minute
  | second => Text.decimal 2 f.second
  | milli => Text.decimal 3 f.milli

/-- Takes over into the fields what a text of the right width states as this piece.  A day with a
    space before it may also be written with a zero. -/
def read (f : Fields) (cs : List Char) : Piece → Option Fields
  | literal c => if cs = [c] then some f else none
  | weekday => (Weekday.ofAbbreviation? cs).map fun w => { f with weekday := w }
  | year | shortYear => (Text.decimalValue? cs).map fun n => { f with year := n }
  | month => (Text.decimalValue? cs).map fun n => { f with month := n }
  | monthName => (Month.ofAbbreviation? cs).map fun m => { f with month := m.number }
  | day => (Text.decimalValue? cs).map fun n => { f with day := n }
  | spacedDay =>
    (Text.decimalValue? (if cs.head? = some ' ' then cs.tail else cs)).map fun n =>
      { f with day := n }
  | hour => (Text.decimalValue? cs).map fun n => { f with hour := n }
  | minute => (Text.decimalValue? cs).map fun n => { f with minute := n }
  | second => (Text.decimalValue? cs).map fun n => { f with second := n }
  | milli => (Text.decimalValue? cs).map fun n => { f with milli := n }

/-- Whatever the fields, the text of a piece has its width. -/
@[simp] theorem length_write (f : Fields) (p : Piece) : (p.write f).length = p.width := by
  cases p with
  | literal => rfl
  | weekday => exact Weekday.length_abbreviation _
  | monthName => exact Month.length_abbreviation _
  | spacedDay =>
    -- Both spellings of the day take two places.
    by_cases single : f.day < 10
    · simp only [write, if_pos single, List.length_cons, Text.length_digits, width]
    · simp only [write, if_neg single, Text.length_digits, width]
  | _ => exact Text.length_digits _ _ _

end Piece

/-- The pieces of a format in their order. -/
abbrev Layout := List Piece

namespace Layout

/-- Hours, minutes and seconds with colons between them. -/
def clock : Layout := [.hour, .literal ':', .minute, .literal ':', .second]

/-- The characters as they are. -/
def literals (cs : List Char) : Layout := cs.map .literal

/-- The number of characters. -/
def width (layout : Layout) : Nat := (layout.map Piece.width).foldr (· + ·) 0

/-- The text of the fields. -/
def write (layout : Layout) (f : Fields) : List Char := layout.flatMap (Piece.write f)

/-- The fields that a text states, if it follows the layout from its first to its last character;
    fields without a piece stay as they are. -/
def read : Layout → Fields → List Char → Option Fields
  | [], f, cs => if cs.isEmpty then some f else none
  | p :: layout, f, cs =>
    if cs.length < p.width then none
    else (p.read f (cs.take p.width)).bind fun f => read layout f (cs.drop p.width)

@[simp] theorem write_nil (f : Fields) : write [] f = [] := rfl

@[simp] theorem write_cons (p : Piece) (layout : Layout) (f : Fields) :
    write (p :: layout) f = p.write f ++ write layout f := rfl

@[simp] theorem length_write (layout : Layout) (f : Fields) :
    (layout.write f).length = layout.width := by
  induction layout with
  | nil => rfl
  | cons p layout ih => simp [ih, width]

end Layout

namespace WireFormat

/-- The layout of a format. -/
def layout : WireFormat → Layout
  | rfc1123 =>
    [.weekday, .literal ',', .literal ' ', .day, .literal ' ', .monthName, .literal ' ', .year,
     .literal ' '] ++ Layout.clock ++ Layout.literals [' ', 'G', 'M', 'T']
  | rfc822 =>
    [.weekday, .literal ',', .literal ' ', .day, .literal ' ', .monthName, .literal ' ', .shortYear,
     .literal ' '] ++ Layout.clock ++ Layout.literals [' ', 'G', 'M', 'T']
  | iso8601 =>
    [.year, .literal '-', .month, .literal '-', .day, .literal 'T'] ++ Layout.clock ++
      [.literal '.', .milli, .literal 'Z']
  | iso8601Seconds =>
    [.year, .literal '-', .month, .literal '-', .day, .literal 'T'] ++ Layout.clock ++
      [.literal 'Z']
  | asctime =>
    [.weekday, .literal ' ', .monthName, .literal ' ', .spacedDay, .literal ' '] ++ Layout.clock ++
      [.literal ' ', .year]

/-- The instant in the format, as UTC. -/
def render (f : WireFormat) (i : Instant) : String :=
  String.ofList (f.layout.write (Fields.ofCivil i.civil))

/-- Every text of a format has the same length. -/
theorem length_render (f : WireFormat) (i : Instant) :
    (f.render i).toList.length = f.layout.width := by
  simp [render]

end WireFormat

end CloudClient
