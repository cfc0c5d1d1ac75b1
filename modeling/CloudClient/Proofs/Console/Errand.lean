import CloudClient.Console
import CloudClient.Proofs.Codec.Shared
import CloudClient.Proofs.Wire.Rendering

namespace CloudClient

/-!
# What a command line asks for

* `Errand` — the work of a command line for a codec: to write an instant, or to read a text;
* `Errand.answer`, `Errand.settle` — the answer under a pivot, and the run that gives it;
* `Errand.result_fulfil_write`, `Errand.fulfil_beyond`, `Errand.result_fulfil_read` — what a
  simple service replies to it;
* `Settings.Names` — the format that the words after the value name;
* `Settings.Reaches` — a command line has an errand in a format;
* `Settings.Reaches.unique` — it has at most one;
* `Settings.reaches_format_iff`, `Settings.reaches_parse_iff` — the command lines that have one.
-/

/-- What a command line has a codec do. -/
inductive Errand where
  /-- Write the instant a number of milliseconds after the epoch. -/
  | write (millis : Int)
  /-- Read a text. -/
  | read (text : String)

namespace Errand

variable {p : CenturyPivot} {F : WireFormat} {n : Int} {t : String} {i : Instant}

/-- The command. -/
def command : Errand → Command
  | write _ => .format
  | read _ => .parse

/-- What is asked of the codec. -/
def request : Errand → Except DateError CodecRequest
  | write n => (TimeValue.ofMillis n).map .toText
  | read t => .ok (.toDate (.text t))

/-- What is said of a number that leads outside the calendar; of a text it never is. -/
def beyond : Errand → Complaint
  | write n => .beyondCalendar n
  | read _ => .usage

/-- The line that answers the errand in a format under a pivot, or the complaint. -/
def answer (p : CenturyPivot) (F : WireFormat) : Errand → Except Complaint String
  | write n =>
    match Instant.ofMillis? n with
    | some i => .ok (F.render i)
    | none => .error (.beyondCalendar n)
  | read t =>
    match F.readText p t.toList with
    | .ok i => .ok (toString i.millis)
    | .error r => .error (.malformed ⟨.text t, some F, some (r.reason F)⟩)

/-- The run that gives the answer after some events. -/
def settle (p : CenturyPivot) (F : WireFormat) (e : Errand) (events : List Event) : Run :=
  match e.answer p F with
  | .ok line => ⟨.exit 0, [line], events.map .event⟩
  | .error complaint => .refused complaint events

/-! ### The answer -/

/-- A number is written if it is the one of an instant. -/
theorem answer_write_isOk_iff : (∃ line, (write n).answer p F = .ok line) ↔
    firstMilli ≤ n ∧ n ≤ lastMilli := by
  rw [← Instant.ofMillis?_isSome_iff]
  simp only [answer]
  cases Instant.ofMillis? n <;> simp

/-- A text is read if a date service with the pivot accepts it. -/
theorem answer_read_isOk_iff : (∃ line, (read t).answer p F = .ok line) ↔
    ∃ i, (p.parse F (.text t)).result = .ok i := by
  simp only [CenturyPivot.parse_text_eq_ok_iff, answer]
  cases F.readText p t.toList <;> simp

/-! ### The reply of a service -/

theorem result_fulfil_write (p : CenturyPivot) (F : WireFormat)
    (found : Instant.ofMillis? n = some i) :
    (p.fulfil F (write n).request).result = .ok (.text (F.render i)) := by
  have request : (write n).request = .ok (.toText (.stamp (.ofInstant i))) := by
    simp only [Errand.request, TimeValue.ofMillis, found]
    rfl
  rw [request]
  show (CenturyPivot.render F (.stamp (.ofInstant i))).map Reply.text = _
  rw [CenturyPivot.render_stamp F (Stamp.instant?_ofInstant i)]
  rfl

theorem fulfil_beyond (p : CenturyPivot) (F : WireFormat) (none : Instant.ofMillis? n = none) :
    p.fulfil F (write n).request = ⟨[], .error .beyondCalendar⟩ := by
  have request : (write n).request = .error .beyondCalendar := by
    simp only [Errand.request, TimeValue.ofMillis, none]
    rfl
  rw [request]
  rfl

theorem result_fulfil_read (p : CenturyPivot) (F : WireFormat) (t : String) :
    (p.fulfil F (read t).request).result
      = (p.parse F (.text t)).result.map Reply.instant := rfl

end Errand

namespace Settings

variable {s : Settings} {F G : WireFormat} {e e' : Errand} {argv words : List String}

/-! ### The format that is named -/

/-- The words after the value name the format: the default one if there is no word or an empty
    one. -/
inductive Names (s : Settings) : List String → WireFormat → Prop where
  | absent {F : WireFormat} (default : WireFormat.ofName? s.defaultFormat = some F) :
      Names s [] F
  | empty {F : WireFormat} (default : WireFormat.ofName? s.defaultFormat = some F) :
      Names s [""] F
  | typed {word : String} {F : WireFormat} (nonempty : word ≠ "")
      (found : WireFormat.ofName? word = some F) : Names s [word] F

/-- The words name a format if they are at most one argument and its format is found. -/
theorem names_toList_iff {c : Console} (argument : Option String) :
    c.settings.Names argument.toList F ↔ WireFormat.ofName? (c.typedFormat argument) = some F := by
  cases argument with
  | none =>
    refine ⟨?_, .absent⟩
    rintro ⟨default⟩
    exact default
  | some word =>
    -- An empty word counts as none.
    by_cases empty : word = ""
    · subst empty
      refine ⟨?_, .empty⟩
      rintro (_ | default | ⟨nonempty, -⟩)
      · exact default
      · exact absurd rfl nonempty
    · have typed : c.typedFormat (some word) = word := by
        simp only [Console.typedFormat, String.isEmpty_iff, empty, if_false]
      rw [typed]
      refine ⟨?_, .typed empty⟩
      rintro (_ | _ | ⟨-, found⟩)
      · exact absurd rfl empty
      · exact found

theorem Names.unique (first : s.Names words F) (second : s.Names words G) : F = G := by
  rcases first with default | default | ⟨nonempty, found⟩
  · obtain ⟨other⟩ := second
    exact Option.some.inj (default.symm.trans other)
  · rcases second with _ | other | ⟨nonempty, -⟩
    · exact Option.some.inj (default.symm.trans other)
    · exact absurd rfl nonempty
  · rcases second with _ | _ | ⟨-, other⟩
    · exact absurd rfl nonempty
    · exact Option.some.inj (found.symm.trans other)

theorem Names.exists_toList (names : s.Names words F) :
    ∃ argument : Option String, words = argument.toList := by
  rcases names with _ | _ | _
  · exact ⟨none, rfl⟩
  · exact ⟨some _, rfl⟩
  · exact ⟨some _, rfl⟩

/-! ### The errand -/

/-- The command line has a codec for the format do the errand. -/
inductive Reaches (s : Settings) : List String → WireFormat → Errand → Prop where
  | format {word : String} {words : List String} {F : WireFormat} {n : Int}
      (number : Text.parseInt word = .ok n) (names : s.Names words F) :
      Reaches s ("format" :: word :: words) F (.write n)
  | parse {text : String} {words : List String} {F : WireFormat} (names : s.Names words F) :
      Reaches s ("parse" :: text :: words) F (.read text)

theorem reaches_write_iff {n : Int} : s.Reaches argv F (.write n) ↔
    ∃ word words, argv = "format" :: word :: words ∧ Text.parseInt word = .ok n ∧
      s.Names words F := by
  refine ⟨?_, ?_⟩
  · intro reaches
    cases reaches with
    | format number names => exact ⟨_, _, rfl, number, names⟩
  · rintro ⟨word, words, rfl, number, names⟩
    exact .format number names

theorem reaches_read_iff {t : String} : s.Reaches argv F (.read t) ↔
    ∃ words, argv = "parse" :: t :: words ∧ s.Names words F := by
  refine ⟨?_, ?_⟩
  · intro reaches
    cases reaches with
    | parse names => exact ⟨_, rfl, names⟩
  · rintro ⟨words, rfl, names⟩
    exact .parse names

/-- The first word is the command of the errand. -/
theorem Reaches.head? (reaches : s.Reaches argv F e) : argv.head? = some e.command.name := by
  cases reaches <;> rfl

/-- So a command line with an errand starts with the word of a command. -/
theorem Reaches.not_unknown (reaches : s.Reaches argv F e) :
    ¬ ∀ command arguments, argv ≠ Command.name command :: arguments := by
  intro unknown
  obtain ⟨words, rfl⟩ := List.head?_eq_some_iff.mp reaches.head?
  exact unknown e.command words rfl

/-- After the command to write there is one errand at most, to write the number. -/
theorem reaches_format_iff {word : String} {n : Int} (number : Text.parseInt word = .ok n) :
    s.Reaches ("format" :: word :: words) F e ↔ e = .write n ∧ s.Names words F := by
  refine ⟨?_, ?_⟩
  · intro reaches
    cases e with
    | write m =>
      obtain ⟨_, _, same, number', names⟩ := reaches_write_iff.mp reaches
      obtain ⟨rfl, rfl⟩ := List.cons.inj (List.cons.inj same).2
      obtain rfl := Except.ok.inj (number'.symm.trans number)
      exact ⟨rfl, names⟩
    | read t => exact absurd reaches.head? (by simp [Errand.command, Command.name])
  · rintro ⟨rfl, names⟩
    exact .format number names

/-- After the command to write there is none without a number. -/
theorem not_reaches_of_error {word : String} {fault : Text.NumeralError}
    (number : Text.parseInt word = .error fault) : ¬ s.Reaches ("format" :: word :: words) F e := by
  intro reaches
  cases e with
  | write n =>
    obtain ⟨_, _, same, number', -⟩ := reaches_write_iff.mp reaches
    obtain ⟨rfl, rfl⟩ := List.cons.inj (List.cons.inj same).2
    exact absurd (number'.symm.trans number) (by simp)
  | read t => exact absurd reaches.head? (by simp [Errand.command, Command.name])

/-- After the command to read there is one errand, to read the text. -/
theorem reaches_parse_iff {t : String} :
    s.Reaches ("parse" :: t :: words) F e ↔ e = .read t ∧ s.Names words F := by
  refine ⟨?_, ?_⟩
  · intro reaches
    cases e with
    | write n => exact absurd reaches.head? (by simp [Errand.command, Command.name])
    | read u =>
      obtain ⟨_, same, names⟩ := reaches_read_iff.mp reaches
      obtain ⟨rfl, rfl⟩ := List.cons.inj (List.cons.inj same).2
      exact ⟨rfl, names⟩
  · rintro ⟨rfl, names⟩
    exact .parse names

/-- A command line has one errand at most, in one format. -/
theorem Reaches.unique (first : s.Reaches argv F e) (second : s.Reaches argv G e') :
    F = G ∧ e = e' := by
  cases first with
  | format number names =>
    obtain ⟨rfl, names'⟩ := (reaches_format_iff number).mp second
    exact ⟨names.unique names', rfl⟩
  | parse names =>
    obtain ⟨rfl, names'⟩ := reaches_parse_iff.mp second
    exact ⟨names.unique names', rfl⟩

/-- Listing the formats is no errand. -/
theorem not_reaches_formats (arguments : List String) :
    ¬ s.Reaches ("formats" :: arguments) F e := by
  intro reaches
  cases e <;> exact absurd reaches.head? (by simp [Errand.command, Command.name])

end Settings

theorem Console.valueAndFormat?_eq_some_iff {arguments : List String} {value : String}
    {argument : Option String} : valueAndFormat? arguments = some (value, argument) ↔
      arguments = value :: argument.toList := by
  rcases arguments with _ | ⟨first, _ | ⟨second, _ | ⟨third, rest⟩⟩⟩ <;> cases argument <;>
    simp [valueAndFormat?]

/-- An errand has a value and perhaps a format. -/
theorem Settings.Reaches.valueAndFormat? {s : Settings} {word : String} {arguments : List String}
    {F : WireFormat} {e : Errand} (reaches : s.Reaches (word :: arguments) F e) :
    (Console.valueAndFormat? arguments).isSome = true := by
  cases reaches with
  | format number names | parse names =>
    obtain ⟨argument, rfl⟩ := names.exists_toList
    rw [Console.valueAndFormat?_eq_some_iff.mpr rfl]
    rfl

end CloudClient
