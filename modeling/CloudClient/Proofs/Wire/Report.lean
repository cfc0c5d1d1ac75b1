import CloudClient.Proofs.Text.Quoted
import CloudClient.Service.Request

namespace CloudClient

open Text (Printable)

/-!
# Printable reports

Values of any kind reach reports and the log only in their shown form, so what is said of them is
printable.

* `DecimalStyle.printable_write` — the text of a floating-point number;
* `Datum.printable_literal` — the shown form of a value of any kind;
* `Rejection.printable_reason_iff`, `WireFormat.printable_reason_of_read` — the reason of a refusal;
* `MalformedDate.printable_message` — the report on a refused value;
* `Event.verbatim`, `Event.printable_message_iff` — a line of the log is printable but for the texts
  that it holds as they are;
* `CenturyPivot.printable_message_of_mem_events_parse` — the log of a date service.
-/

/-! ### The shown form of a value -/

namespace DecimalStyle

variable {style : DecimalStyle}

theorem printable_writeExponent (style : DecimalStyle) (e : Int) :
    Printable (style.writeExponent e) := by
  simp only [writeExponent, Text.printable_append]
  refine ⟨⟨?_, Text.printable_pushn (by decide) (by decide) _⟩, Text.printable_toString_nat _⟩
  split <;> decide

theorem printable_writeMagnitude (mark : Printable style.wholeMark) (d : Decimal) :
    Printable (style.writeMagnitude d) := by
  -- The digits are split at the point, and zeros fill the places between them and the point.
  have all : Printable (String.ofList (Nat.toDigits 10 d.digits)) :=
    Text.printable_ofList.mpr fun _ => Text.isPrintable_of_mem_toDigits
  have front (n : Nat) : Printable (String.ofList ((Nat.toDigits 10 d.digits).take n)) :=
    Text.printable_ofList.mpr fun _ here =>
      Text.isPrintable_of_mem_toDigits (List.mem_of_mem_take here)
  have back (n : Nat) : Printable (String.ofList ((Nat.toDigits 10 d.digits).drop n)) :=
    Text.printable_ofList.mpr fun _ here =>
      Text.isPrintable_of_mem_toDigits (List.mem_of_mem_drop here)
  have zeros (n : Nat) : Printable ("".pushn '0' n) :=
    Text.printable_pushn (by decide) (by decide) n
  have point : Printable "." := by decide
  simp only [writeMagnitude]
  split
  · split
    · simp only [Text.printable_append]
      exact ⟨⟨by decide, zeros _⟩, all⟩
    · split
      · simp only [Text.printable_append]
        exact ⟨⟨all, zeros _⟩, mark⟩
      · simp only [Text.printable_append]
        exact ⟨⟨front _, point⟩, back _⟩
  · simp only [Text.printable_append]
    refine ⟨⟨front _, ?_⟩, style.printable_writeExponent _⟩
    split
    · decide
    · simp only [Text.printable_append]
      exact ⟨point, back _⟩

/-- The text of a number is printable if the words of the style are. -/
theorem printable_write (mark : Printable style.wholeMark) (infinity : Printable style.infinity)
    (nan : Printable style.nan) (x : Binary64) : Printable (style.write x) := by
  unfold write
  split
  · exact nan
  · rw [Text.printable_append]
    refine ⟨?_, ?_⟩
    · split <;> decide
    · split
      · exact printable_writeMagnitude mark _
      · exact infinity

end DecimalStyle

theorem Scalar.printable_literal (s : Scalar) : Printable s.literal := by
  cases s with
  | null => decide
  | bool b => cases b <;> decide
  | int n => exact Text.printable_toString_int n
  | real x => exact DecimalStyle.printable_write (by decide) (by decide) (by decide) x
  | text s => exact Text.printable_quote s

namespace Datum

mutual

/-- The shown form of a value of any kind is printable. -/
theorem printable_literal : (v : Datum) → Printable v.literal
  | scalar s => s.printable_literal
  | bytes bs => Text.printable_quotedBytes bs
  | list items => by
    simp only [literal, Text.printable_append]
    exact ⟨⟨by decide, printable_literals items⟩, by decide⟩
  | dict entries => by
    simp only [literal, Text.printable_append]
    exact ⟨⟨by decide, printable_entryLiterals entries⟩, by decide⟩

theorem printable_literals : (items : List Datum) → Printable (literals items)
  | [] => by decide
  | [item] => printable_literal item
  | item :: next :: items => by
    simp only [literals, Text.printable_append]
    exact ⟨⟨printable_literal item, by decide⟩, printable_literals (next :: items)⟩

theorem printable_entryLiterals : (entries : List (String × Datum)) →
    Printable (entryLiterals entries)
  | [] => by decide
  | [(key, value)] => by
    simp only [entryLiterals, Text.printable_append]
    exact ⟨⟨Text.printable_quote key, by decide⟩, printable_literal value⟩
  | (key, value) :: next :: entries => by
    simp only [entryLiterals, Text.printable_append]
    exact ⟨⟨⟨⟨Text.printable_quote key, by decide⟩, printable_literal value⟩, by decide⟩,
      printable_entryLiterals (next :: entries)⟩

end

theorem printable_kind (v : Datum) : Printable v.kind := by
  -- Each kind has a name of its own, whatever the value holds.
  have names : ∀ name ∈ ["NoneType", "bool", "int", "float", "str", "bytes", "list", "dict"],
      Printable name := by decide
  apply names
  cases v with
  | scalar s => cases s <;> simp [kind, Scalar.kind]
  | _ => simp [kind]

end Datum

/-! ### The report on a refused value -/

namespace WireFormat

theorem printable_name (F : WireFormat) : Printable F.name := by
  cases F <;> decide

theorem printable_pattern (F : WireFormat) : Printable F.pattern := by
  cases F <;> decide

end WireFormat

theorem CalendarFault.printable_message (fault : CalendarFault) : Printable fault.message := by
  cases fault with
  | year y =>
    have spelled : (year y).message = "year " ++ toString y ++ " is out of range" := rfl
    rw [spelled, Text.printable_append, Text.printable_append]
    exact ⟨⟨by decide, Text.printable_toString_nat y⟩, by decide⟩
  | _ => decide

/-- The reason names a kind of values as it is; all else in it is printable. -/
theorem Rejection.printable_reason_iff {F : WireFormat} {r : Rejection} :
    Printable (r.reason F) ↔ ∀ kind, r = .notText kind → Printable kind := by
  cases r with
  | notText kind =>
    have spelled : (notText kind).reason F = "expected str, got " ++ kind := rfl
    rw [spelled, Text.printable_append]
    refine ⟨?_, fun named => ⟨by decide, named kind rfl⟩⟩
    rintro ⟨-, printable⟩ _ ⟨⟩
    exact printable
  | layout =>
    refine iff_of_true ?_ (by simp)
    have spelled : layout.reason F = "expected " ++ F.pattern := rfl
    rw [spelled, Text.printable_append]
    exact ⟨by decide, F.printable_pattern⟩
  | hourOfDay => exact iff_of_true CalendarFault.hour.printable_message (by simp)
  | calendar fault => exact iff_of_true fault.printable_message (by simp)

namespace WireFormat

variable {F : WireFormat} {p : CenturyPivot} {v : Datum} {r : Rejection} {kind : String}

theorem readText_ne_notText {cs : List Char} : F.readText p cs ≠ .error (.notText kind) := by
  unfold readText
  split
  · unfold resolve
    split
    · simp
    · split <;> simp
  · simp

/-- A value is refused as no text under its own kind only. -/
theorem kind_eq_of_read (refused : F.read p v = .error (.notText kind)) : v.kind = kind := by
  cases v with
  | scalar s =>
    cases s with
    | text t => exact absurd refused readText_ne_notText
    | _ => exact Rejection.notText.inj (Except.error.inj refused)
  | _ => exact Rejection.notText.inj (Except.error.inj refused)

theorem printable_reason_of_read (refused : F.read p v = .error r) : Printable (r.reason F) := by
  refine Rejection.printable_reason_iff.mpr ?_
  rintro kind rfl
  rw [← kind_eq_of_read refused]
  exact v.printable_kind

end WireFormat

/-- The report shows the value, so it is printable if the reason is. -/
theorem MalformedDate.printable_message {m : MalformedDate}
    (reason : ∀ r, m.reason = some r → Printable r) : Printable m.message := by
  have target : Printable ((m.format.map WireFormat.name).getD "date") := by
    cases m.format with
    | none => decide
    | some F => exact F.printable_name
  simp only [message, Text.printable_append]
  refine ⟨⟨⟨⟨by decide, target⟩, by decide⟩, m.value.printable_literal⟩, ?_⟩
  split
  · decide
  · cases known : m.reason with
    | none => decide
    | some r =>
      simp only [Option.getD_some, Text.printable_append]
      exact ⟨⟨by decide, reason r known⟩, by decide⟩

/-! ### The log -/

namespace Event

/-- The texts that the report on the event holds as they are. -/
def verbatim : Event → List String
  | delegateCreated thread => [thread]
  | commandStarted _ command _ => [command]
  | layoutMismatch .. | fieldOutOfRange .. | codecCreated .. => []

end Event

theorem ServiceKind.printable_name (kind : ServiceKind) : Printable kind.name := by
  cases kind <;> decide

theorem CodecLabel.printable_text (c : CodecLabel) : Printable c.text := by
  have kindName : Printable c.kindName := by
    unfold kindName
    split
    · cases c.format <;> decide
    · decide
  simp only [text, Text.printable_append]
  exact ⟨⟨⟨⟨⟨kindName, by decide⟩, c.format.printable_name⟩, by decide⟩, c.service.printable_name⟩,
    by decide⟩

namespace Event

/-- The report is printable exactly if the texts that it holds as they are are. -/
theorem printable_message_iff {e : Event} :
    Printable e.message ↔ ∀ t ∈ e.verbatim, Printable t := by
  cases e with
  | layoutMismatch F t =>
    refine iff_of_true ?_ (by simp [verbatim])
    simp only [message, Text.printable_append]
    exact ⟨⟨F.printable_name, by decide⟩, Text.printable_quote t⟩
  | fieldOutOfRange F t fault =>
    refine iff_of_true ?_ (by simp [verbatim])
    simp only [message, Text.printable_append]
    exact ⟨⟨⟨⟨F.printable_name, by decide⟩, Text.printable_quote t⟩, by decide⟩,
      fault.printable_message⟩
  | delegateCreated thread =>
    simp only [message, verbatim, Text.printable_append, List.mem_singleton, forall_eq,
      and_iff_right_iff_imp]
    exact fun _ => ⟨⟨by decide, ServiceKind.simple.printable_name⟩, by decide⟩
  | codecCreated F kind =>
    refine iff_of_true ?_ (by simp [verbatim])
    simp only [message, Text.printable_append]
    exact ⟨⟨⟨by decide, F.printable_name⟩, by decide⟩, CodecLabel.printable_text _⟩
  | commandStarted asScript command arguments =>
    simp only [message, verbatim, Text.printable_append, List.mem_singleton, forall_eq]
    refine ⟨fun parts => parts.1.1.2, fun named => ⟨⟨⟨by decide, named⟩, by decide⟩, ?_⟩⟩
    exact Datum.printable_literal _

end Event

/-! ### What a date service says of a value -/

namespace CenturyPivot

variable {p : CenturyPivot} {F : WireFormat} {v : Datum}

/-- Whatever the value is, every line that is logged of it is printable. -/
theorem printable_message_of_mem_events_parse {x : Event} (logged : x ∈ (p.parse F v).events) :
    Printable x.message := by
  refine Event.printable_message_iff.mpr ?_
  unfold parse at logged
  cases read : F.read p v with
  | ok i => exact absurd logged (by simp [read])
  | error r =>
    simp only [read, Option.mem_toList] at logged
    -- The line shows the text between quotes.
    unfold Rejection.event? at logged
    split at logged
    · obtain rfl := Option.some.inj logged
      simp [Event.verbatim]
    · obtain rfl := Option.some.inj logged
      simp [Event.verbatim]
    · exact absurd logged (by simp)

end CenturyPivot

end CloudClient
