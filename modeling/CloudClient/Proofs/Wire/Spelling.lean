import CloudClient.Proofs.Text.FixedWidth
import CloudClient.Wire.Layout

namespace CloudClient

open Text

/-!
# Spellings of fields

Which texts spell given fields, piece by piece and over a whole layout.  The relation mentions
neither writing nor reading, and both are measured by it:

* `Piece.Spells`, `Layout.Spells` — the relation;
* `Layout.read_of_spells`, `Layout.spells_of_read` — reading takes exactly the spellings, and takes
  over what they spell, provided that no two pieces of the layout state the same field;
* `Layout.spells_write` — what is written spells the fields that fit the layout;
* `Layout.eq_write_of_spells` — nothing else does, unless the layout has a day that may start with
  a space.
-/

/-- The parts of a date and time that a piece can state. -/
inductive Slot where
  | weekday
  | year
  | month
  | day
  | hour
  | minute
  | second
  | milli
deriving DecidableEq

namespace Piece

/-- The text spells the fields as far as this piece goes. -/
def Spells (f : Fields) (cs : List Char) : Piece → Prop
  | literal c => cs = [c]
  | weekday => cs = f.weekday.abbreviation
  | year => Numeral 4 f.year cs
  | shortYear => Numeral 2 f.year cs
  | month => Numeral 2 f.month cs
  | monthName => ∃ m : Month, m.number = f.month ∧ cs = m.abbreviation
  | day => Numeral 2 f.day cs
  | spacedDay => Numeral 2 f.day cs ∨ ∃ ds, Numeral 1 f.day ds ∧ cs = ' ' :: ds
  | hour => Numeral 2 f.hour cs
  | minute => Numeral 2 f.minute cs
  | second => Numeral 2 f.second cs
  | milli => Numeral 3 f.milli cs

/-- The part that the piece states; a literal states none. -/
def slot? : Piece → Option Slot
  | literal _ => none
  | weekday => some .weekday
  | year | shortYear => some .year
  | month | monthName => some .month
  | day | spacedDay => some .day
  | hour => some .hour
  | minute => some .minute
  | second => some .second
  | milli => some .milli

/-- The fields `g` with the part that the piece states taken from `f`. -/
def adopt (f g : Fields) : Piece → Fields
  | literal _ => g
  | weekday => { g with weekday := f.weekday }
  | year | shortYear => { g with year := f.year }
  | month | monthName => { g with month := f.month }
  | day | spacedDay => { g with day := f.day }
  | hour => { g with hour := f.hour }
  | minute => { g with minute := f.minute }
  | second => { g with second := f.second }
  | milli => { g with milli := f.milli }

/-- The two pieces do not state the same part. -/
def Apart (p q : Piece) : Prop := p.slot? = none ∨ p.slot? ≠ q.slot?

instance (p q : Piece) : Decidable (p.Apart q) := inferInstanceAs (Decidable (_ ∨ _))

variable {f g h : Fields} {cs : List Char} {p q : Piece}

/-! ### Reading a piece -/

/-- A spelling has the width of its piece. -/
theorem length_of_spells (spelled : p.Spells f cs) : cs.length = p.width := by
  cases p with
  | literal c => rw [show cs = [c] from spelled]; rfl
  | weekday => rw [show cs = f.weekday.abbreviation from spelled, Weekday.length_abbreviation]; rfl
  | monthName =>
    obtain ⟨m, -, rfl⟩ := spelled
    exact Month.length_abbreviation m
  | spacedDay =>
    rcases spelled with two | ⟨ds, one, rfl⟩
    · exact two.length_eq
    · rw [List.length_cons, one.length_eq]; rfl
  | _ => exact Numeral.length_eq spelled

/-- A numeral does not start with a space. -/
theorem head?_ne_space {width n : Nat} (numeral : Numeral width n cs) : cs.head? ≠ some ' ' := by
  intro space
  have digit := numeral.isDigit ' ' (List.mem_of_head? space)
  exact absurd digit (by decide)

/-- Every spelling is read, and the part that it states is taken over. -/
theorem read_of_spells (g : Fields) (spelled : p.Spells f cs) :
    p.read g cs = some (p.adopt f g) := by
  -- A numeral is read to the same effect whatever field it is for.
  have numeral {width n : Nat} {ds : List Char} (set : Nat → Fields) (h : Numeral width n ds) :
      (decimalValue? ds).map set = some (set n) := by
    rw [h.decimalValue?, Option.map_some]
  cases p with
  | literal c => exact if_pos spelled
  | weekday =>
    rw [show cs = f.weekday.abbreviation from spelled]
    simp only [read, Weekday.ofAbbreviation?_abbreviation, Option.map_some, adopt]
  | monthName =>
    obtain ⟨m, number, rfl⟩ := spelled
    simp only [read, Month.ofAbbreviation?_abbreviation, Option.map_some, number, adopt]
  | spacedDay =>
    rcases spelled with two | ⟨ds, one, rfl⟩
    · simp only [read, if_neg (head?_ne_space two)]
      exact numeral _ two
    · simp only [read, List.head?_cons, List.tail_cons, if_pos]
      exact numeral _ one
  | _ => exact numeral _ spelled

/-- A text of the right width that is read is a spelling of the fields that come out. -/
theorem spells_of_read (length : cs.length = p.width) (read : p.read g cs = some h) :
    p.Spells h cs := by
  -- What `map` makes of a number comes from a numeral of the text's width.
  have numeral {width : Nat} {ds : List Char} {set : Nat → Fields} (length : ds.length = width)
      (read : (decimalValue? ds).map set = some h) : ∃ n, Numeral width n ds ∧ set n = h := by
    obtain ⟨n, value, rfl⟩ := Option.map_eq_some_iff.mp read
    exact ⟨n, numeral_of_decimalValue? length value, rfl⟩
  cases p with
  | literal c =>
    simp only [Piece.read, Option.ite_none_right_eq_some] at read
    exact read.1
  | weekday =>
    obtain ⟨w, found, rfl⟩ := Option.map_eq_some_iff.mp read
    exact (Weekday.abbreviation_of_ofAbbreviation? found).symm
  | monthName =>
    obtain ⟨m, found, rfl⟩ := Option.map_eq_some_iff.mp read
    exact ⟨m, rfl, (Month.abbreviation_of_ofAbbreviation? found).symm⟩
  | spacedDay =>
    by_cases space : cs.head? = some ' '
    · obtain ⟨ds, rfl⟩ := List.head?_eq_some_iff.mp space
      have one : ds.length = 1 := Nat.succ.inj length
      simp only [Piece.read, List.head?_cons, List.tail_cons, if_pos] at read
      obtain ⟨n, spelled, rfl⟩ := numeral one read
      exact .inr ⟨ds, spelled, rfl⟩
    · simp only [Piece.read, if_neg space] at read
      obtain ⟨n, spelled, rfl⟩ := numeral length read
      exact .inl spelled
  | _ =>
    obtain ⟨n, spelled, rfl⟩ := numeral length read
    exact spelled

/-- Taking over the part of another piece leaves a spelling what it is. -/
theorem spells_adopt (apart : p.Apart q) (spelled : p.Spells g cs) :
    p.Spells (q.adopt f g) cs := by
  cases p <;> cases q <;> first | exact spelled | exact absurd apart (by decide)

/-! ### Writing a piece -/

/-- The fields fit the piece: its places hold what it states. -/
def Fits (f : Fields) : Piece → Prop
  | literal _ | weekday => True
  | year => f.year < 10 ^ 4
  | shortYear => f.year < 10 ^ 2
  | month => f.month < 10 ^ 2
  | monthName => ∃ m : Month, m.number = f.month
  | day | spacedDay => f.day < 10 ^ 2
  | hour => f.hour < 10 ^ 2
  | minute => f.minute < 10 ^ 2
  | second => f.second < 10 ^ 2
  | milli => f.milli < 10 ^ 3

/-- The text that is written for the name of a month is the abbreviation of the month. -/
theorem write_monthName {m : Month} (number : m.number = f.month) :
    write f monthName = m.abbreviation := by
  simp only [write, ← number, Month.ofNumber?_number, Option.getD_some]

/-- What is written spells the fields that fit. -/
theorem spells_write (fits : p.Fits f) : p.Spells f (p.write f) := by
  cases p with
  | literal c => rfl
  | weekday => rfl
  | monthName =>
    obtain ⟨m, number⟩ := fits
    exact ⟨m, number, write_monthName number⟩
  | spacedDay =>
    -- A day below ten is written with a space, any other one with two digits.
    by_cases single : f.day < 10
    · simp only [write, if_pos single]
      exact .inr ⟨_, numeral_iff.mpr ⟨single, rfl⟩, rfl⟩
    · simp only [write, if_neg single]
      exact .inl (numeral_iff.mpr ⟨fits, rfl⟩)
  | _ => exact numeral_iff.mpr ⟨fits, rfl⟩

/-- Apart from a day that may start with a space, only what is written spells the fields. -/
theorem eq_write_of_spells (spelled : p.Spells f cs) (unspaced : p ≠ spacedDay) :
    cs = p.write f := by
  cases p with
  | literal c => exact spelled
  | weekday => exact spelled
  | monthName =>
    obtain ⟨m, number, rfl⟩ := spelled
    exact (write_monthName number).symm
  | spacedDay => exact absurd rfl unspaced
  | _ => exact (numeral_iff.mp spelled).2

end Piece

namespace Layout

/-- The text spells the fields piece by piece. -/
inductive Spells (f : Fields) : Layout → List Char → Prop where
  | nil : Spells f [] []
  | cons {p : Piece} {layout : Layout} {cs ds : List Char} :
      p.Spells f cs → Spells f layout ds → Spells f (p :: layout) (cs ++ ds)

/-- The fields `g` with everything that the layout states taken from `f`. -/
def adopt (f g : Fields) (layout : Layout) : Fields := layout.foldl (fun g p => p.adopt f g) g

variable {f g h : Fields} {cs ds : List Char} {p : Piece} {layout layout' : Layout}

@[simp] theorem adopt_nil : adopt f g [] = g := rfl

@[simp] theorem adopt_cons : adopt f g (p :: layout) = adopt f (p.adopt f g) layout := rfl

/-! ### Spellings of a layout -/

theorem spells_nil_iff : Spells f [] cs ↔ cs = [] := by
  refine ⟨?_, ?_⟩
  · rintro ⟨⟩
    rfl
  · rintro rfl
    exact .nil

theorem spells_cons_iff :
    Spells f (p :: layout) cs ↔ ∃ ds es, p.Spells f ds ∧ layout.Spells f es ∧ cs = ds ++ es := by
  refine ⟨?_, ?_⟩
  · rintro ⟨⟩
    exact ⟨_, _, ‹_›, ‹_›, rfl⟩
  · intro parts
    obtain ⟨ds, es, piece, rest, rfl⟩ := parts
    exact .cons piece rest

theorem spells_literal_cons_iff {c : Char} :
    Spells f (.literal c :: layout) cs ↔ ∃ ds, layout.Spells f ds ∧ cs = c :: ds := by
  simp [spells_cons_iff, Piece.Spells]

/-- The spellings of two layouts in a row are the spellings of the one followed by those of the
    other. -/
theorem spells_append_iff :
    Spells f (layout ++ layout') cs
      ↔ ∃ ds es, layout.Spells f ds ∧ layout'.Spells f es ∧ cs = ds ++ es := by
  induction layout generalizing cs with
  | nil => simp [spells_nil_iff]
  | cons p layout ih =>
    rw [List.cons_append, spells_cons_iff]
    refine ⟨?_, ?_⟩
    · intro parts
      obtain ⟨ds, es, piece, rest, rfl⟩ := parts
      obtain ⟨es, gs, first, second, rfl⟩ := ih.mp rest
      exact ⟨ds ++ es, gs, .cons piece first, second, (List.append_assoc ..).symm⟩
    · intro parts
      obtain ⟨ds, es, first, second, rfl⟩ := parts
      obtain ⟨ds, gs, piece, rest, rfl⟩ := spells_cons_iff.mp first
      exact ⟨ds, gs ++ es, piece, ih.mpr ⟨gs, es, rest, second, rfl⟩, List.append_assoc ..⟩

/-- Literal characters spell themselves. -/
theorem spells_literals_iff : (literals ds).Spells f cs ↔ cs = ds := by
  induction ds generalizing cs with
  | nil => exact spells_nil_iff
  | cons d ds ih =>
    show Spells f (.literal d :: literals ds) cs ↔ _
    simp [spells_literal_cons_iff, ih]

/-- Every piece of a layout is spelled by some part of the text. -/
theorem Spells.piece (spelled : layout.Spells f cs) (mem : p ∈ layout) : ∃ ds, p.Spells f ds := by
  induction spelled with
  | nil => exact absurd mem List.not_mem_nil
  | cons piece _ ih =>
    rcases List.mem_cons.mp mem with rfl | mem
    · exact ⟨_, piece⟩
    · exact ih mem

/-! ### Reading a layout -/

/-- Every spelling is read, and everything that the layout states is taken over. -/
theorem read_of_spells (g : Fields) (spelled : layout.Spells f cs) :
    layout.read g cs = some (layout.adopt f g) := by
  induction spelled generalizing g with
  | nil => rfl
  | @cons p layout cs ds piece _ ih =>
    have width := p.length_of_spells piece
    have long : ¬ (cs ++ ds).length < p.width := by rw [List.length_append]; omega
    rw [read, if_neg long, List.take_left' width, List.drop_left' width,
      p.read_of_spells g piece, Option.bind_some, ih, adopt_cons]

/-- Taking over what other pieces state leaves a spelling what it is. -/
theorem spells_adopt (apart : ∀ q ∈ layout, p.Apart q) (spelled : p.Spells g cs) :
    p.Spells (layout.adopt f g) cs := by
  induction layout generalizing g with
  | nil => exact spelled
  | cons q layout ih =>
    exact ih (fun r hr => apart r (List.mem_cons_of_mem _ hr))
      (p.spells_adopt (apart q List.mem_cons_self) spelled)

/-- What is read is a spelling of the fields that come out, if no two pieces state the same part:
    a later piece then never overwrites what an earlier one has read. -/
theorem spells_of_read (distinct : layout.Pairwise Piece.Apart)
    (read : layout.read g cs = some h) : layout.Spells h cs := by
  induction layout generalizing g cs with
  | nil =>
    simp only [Layout.read, Option.ite_none_right_eq_some, List.isEmpty_iff] at read
    rw [read.1]
    exact .nil
  | cons p layout ih =>
    rw [List.pairwise_cons] at distinct
    rw [Layout.read, Option.ite_none_left_eq_some] at read
    obtain ⟨long, read⟩ := read
    obtain ⟨first, readFirst, readRest⟩ := Option.bind_eq_some_iff.mp read
    have width : (cs.take p.width).length = p.width := by rw [List.length_take]; omega
    have rest := ih distinct.2 readRest
    -- The rest of the text changes only what the rest of the layout states.
    have frame : h = adopt h first layout :=
      Option.some.inj (readRest.symm.trans (read_of_spells first rest))
    have piece : p.Spells h (cs.take p.width) := by
      rw [frame]
      exact spells_adopt distinct.1 (p.spells_of_read width readFirst)
    rw [← List.take_append_drop p.width cs]
    exact .cons piece rest

/-! ### Writing a layout -/

/-- What is written spells the fields that fit every piece. -/
theorem spells_write (fits : ∀ p ∈ layout, p.Fits f) : layout.Spells f (layout.write f) := by
  induction layout with
  | nil => exact .nil
  | cons p layout ih =>
    exact .cons (p.spells_write (fits p List.mem_cons_self))
      (ih fun q hq => fits q (List.mem_cons_of_mem _ hq))

/-- Without a day that may start with a space, only what is written spells the fields. -/
theorem eq_write_of_spells (spelled : layout.Spells f cs) (unspaced : Piece.spacedDay ∉ layout) :
    cs = layout.write f := by
  induction spelled with
  | nil => rfl
  | @cons p layout cs ds piece _ ih =>
    rw [List.mem_cons, not_or] at unspaced
    rw [write_cons, ← p.eq_write_of_spells piece (Ne.symm unspaced.1), ← ih unspaced.2]

end Layout

/-! ### The layouts of the formats -/

namespace WireFormat

variable {format : WireFormat} {f g : Fields} {cs : List Char}

/-- No two pieces of a format state the same part. -/
theorem layout_apart (format : WireFormat) : format.layout.Pairwise Piece.Apart := by
  cases format <;> decide

/-- The fields as far as a text in the format states them. -/
def kept (f : Fields) : WireFormat → Fields
  | rfc1123 | rfc822 | asctime => { f with milli := 0 }
  | iso8601 => { f with weekday := .monday }
  | iso8601Seconds => { f with weekday := .monday, milli := 0 }

theorem adopt_layout (format : WireFormat) (f : Fields) :
    format.layout.adopt f .unset = format.kept f := by
  cases format <;> rfl

/-- A spelling is read as the fields that it states. -/
theorem read_layout_of_spells (spelled : format.layout.Spells f cs) :
    format.layout.read .unset cs = some (format.kept f) := by
  rw [Layout.read_of_spells _ spelled, adopt_layout]

/-- What is read is spelled by the text, and nothing else has been made up. -/
theorem spells_layout_of_read (read : format.layout.read .unset cs = some f) :
    format.layout.Spells f cs ∧ format.kept f = f := by
  have spelled := Layout.spells_of_read format.layout_apart read
  refine ⟨spelled, ?_⟩
  rw [read_layout_of_spells spelled, Option.some.injEq] at read
  exact read

/-- The milliseconds that a text states are below a thousand. -/
theorem milli_kept_lt (spelled : format.layout.Spells f cs) : (format.kept f).milli < 1000 := by
  cases format with
  | iso8601 =>
    have mem : Piece.milli ∈ layout .iso8601 := by decide
    obtain ⟨sss, milli⟩ := spelled.piece mem
    exact (numeral_iff.mp milli).1
  | _ => exact Nat.zero_lt_succ _

end WireFormat

end CloudClient
