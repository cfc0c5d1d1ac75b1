import CloudClient.Proofs.Console.Ending
import CloudClient.Proofs.Wire.Report

namespace CloudClient

open Text (Printable)

/-!
# The lines of a run

Arguments and settings reach the outputs in their shown form only, so no text can break a line or
make one up.

* `mem_unlines_cases`, `splitOn_unlines` — printable lines are written with nothing else but the end
  of each, and are found again between these ends;
* `Ending.report?` — the report on an error that nobody handles;
* `Run.Legible` — all that a run has to say is printable, and its output is short;
* `Run.legible_answered`, `Run.legible_refused`, `Errand.legible_settle` — an answer, a complaint,
  and what comes of an errand;
* `Console.GoesBy.legible_run` — any run of a console;
* `Notice.lines_cases` — how many lines a notice takes, and how they begin;
* `Run.Shape.says_something` — no run is silent;
* `runs_write_printable_lines` — what any run of a process writes, line by line.
-/

/-! ### Lines written one after the other -/

theorem toList_unlines (lines : List String) :
    (unlines lines).toList = lines.flatMap fun line => line.toList ++ ['\n'] := by
  simp only [unlines, String.toList_join, List.flatMap_map, String.toList_append]
  rfl

/-- Besides the ends of the lines only what stands in them is written. -/
theorem mem_unlines_cases {lines : List String} (printable : ∀ line ∈ lines, Printable line)
    {x : Char} (here : x ∈ (unlines lines).toList) : x = '\n' ∨ Text.isPrintable x = true := by
  rw [toList_unlines] at here
  obtain ⟨line, one, within⟩ := List.mem_flatMap.mp here
  rcases List.mem_append.mp within with inside | last
  · exact .inr (printable line one x inside)
  · exact .inl (List.mem_singleton.mp last)

/-- Between the ends of the lines stand the lines, and nothing follows the last end. -/
theorem splitOn_unlines {lines : List String} (printable : ∀ line ∈ lines, Printable line) :
    (unlines lines).toList.splitOn '\n' = lines.map String.toList ++ [[]] := by
  rw [toList_unlines]
  induction lines with
  | nil => exact List.splitOn_nil '\n'
  | cons line lines ih =>
    have whole : '\n' ∉ line.toList := (printable line List.mem_cons_self).newline_notMem
    have rest := ih fun other here => printable other (List.mem_cons_of_mem line here)
    rw [List.flatMap_cons, List.append_assoc, List.singleton_append,
      List.splitOn_append_cons_self_of_not_mem whole, rest]
    rfl

/-! ### What a run has to say -/

/-- The report on an error that nobody handles. -/
def Ending.report? : Ending → Option String
  | exit _ => none
  | unknownLevel name => some (unknownLevelMessage name)
  | failure e => some e.message

/-- The list of the formats. -/
def formatListing : List String :=
  ["rfc1123          Thu, 01 Dec 1994 16:00:00 GMT",
   "rfc822           Thu, 01 Dec 94 16:00:00 GMT",
   "iso8601          1994-12-01T16:00:00.000Z",
   "iso8601_seconds  1994-12-01T16:00:00Z",
   "asctime          Thu Dec  1 16:00:00 1994"]

/-- All that the run has to say is printable: its output, which is one line at most or the list of
    the formats, its notices, shown or not, and the report on an error that nobody handles. -/
structure Run.Legible (run : Run) : Prop where
  extent : run.output.length ≤ 1 ∨ run.output = formatListing
  output : ∀ line ∈ run.output, Printable line
  notices : ∀ notice ∈ run.notices, ∀ line ∈ notice.lines, Printable line
  report : ∀ report, run.ending.report? = some report → Printable report

theorem Event.printable_source (x : Event) : Printable x.source := by
  have names : ∀ name ∈ ["cloudkit.date.date_service", "cloudkit.date.codec_factory", "__main__",
      "cloudkit.cli"], Printable name := by decide
  apply names
  cases x with
  | commandStarted asScript command arguments => cases asScript <;> simp [source]
  | _ => simp [source]

/-- A line of the log is printable if its message is. -/
theorem Notice.printable_lines_event {x : Event} (message : Printable x.message) :
    ∀ line ∈ (event x).lines, Printable line := by
  intro line here
  obtain rfl := List.mem_singleton.mp here
  have level : Printable x.level.name := by
    cases x.level <;> decide
  simp only [Text.printable_append]
  exact ⟨⟨⟨⟨x.printable_source, by decide⟩, level⟩, by decide⟩, message⟩

theorem printable_unknownFormatMessage (typed : String) :
    Printable (unknownFormatMessage typed) := by
  unfold unknownFormatMessage
  rw [Text.printable_append]
  exact ⟨by decide, Text.printable_quote typed⟩

theorem printable_unknownLevelMessage (name : String) : Printable (unknownLevelMessage name) := by
  unfold unknownLevelMessage
  rw [Text.printable_append]
  exact ⟨by decide, Text.printable_quote name⟩

/-- A pivot that is none is a number, or too long to be shown. -/
theorem printable_invalidPivot (pivot : Int) :
    Printable (DateError.invalidPivot pivot).message := by
  have spelled : (DateError.invalidPivot pivot).message = if Text.isTooLong pivot
      then ShowFault.tooLong.message
      else "century_pivot must be between 0 and 99, got " ++ toString pivot := rfl
  rw [spelled]
  split
  next => decide +kernel
  next =>
    rw [Text.printable_append]
    exact ⟨by decide, Text.printable_toString_int pivot⟩

/-- A complaint is printable, unless it reports on a refused value and that report is not. -/
theorem Complaint.printable_lines (complaint : Complaint)
    (malformed : ∀ m, complaint = .malformed m → Printable m.message) :
    ∀ line ∈ complaint.lines, Printable line := by
  have error {message : String} (printable : Printable message) :
      ∀ line ∈ ["Error: " ++ message], Printable line := by
    intro line here
    obtain rfl := List.mem_singleton.mp here
    exact Text.printable_append.mpr ⟨by decide, printable⟩
  cases complaint with
  | usage => decide
  | notAnInteger text =>
    have spelled : (notAnInteger text).lines
        = ["Error: epoch milliseconds must be an integer, got " ++ Text.quote text] := rfl
    simp only [spelled, List.mem_singleton, forall_eq, Text.printable_append]
    exact ⟨by decide, Text.printable_quote text⟩
  | unknownFormat typed => exact error (printable_unknownFormatMessage typed)
  | beyondCalendar millis =>
    have spelled : (beyondCalendar millis).lines
        = ["Error: " ++ toString millis ++ " is outside the supported date range"] := rfl
    simp only [spelled, List.mem_singleton, forall_eq, Text.printable_append]
    exact ⟨⟨by decide, Text.printable_toString_int millis⟩, by decide⟩
  | malformed m => exact error (malformed m rfl)

namespace Run

variable {ending : Ending} {events : List Event} {complaint : Complaint}

/-- A run that answers. -/
theorem legible_answered {line : String} (printable : Printable line)
    (logged : ∀ x ∈ events, Printable x.message) :
    (Run.mk (.exit 0) [line] (events.map .event)).Legible where
  extent := .inl (Nat.le_refl 1)
  output := by simpa using printable
  notices := by
    intro notice here
    obtain ⟨x, happened, rfl⟩ := List.mem_map.mp here
    exact Notice.printable_lines_event (logged x happened)
  report := by
    rintro _ ⟨⟩

/-- A run that writes nothing before it ends. -/
theorem legible_of_report (report : ∀ report, ending.report? = some report → Printable report) :
    (Run.mk ending [] []).Legible where
  extent := .inl (Nat.zero_le 1)
  output := by simp
  notices := by simp
  report := report

/-- A run that complains. -/
theorem legible_refused (malformed : ∀ m, complaint = .malformed m → Printable m.message)
    (logged : ∀ x ∈ events, Printable x.message) : (refused complaint events).Legible where
  extent := .inl (Nat.zero_le 1)
  output := by
    intro line none
    exact absurd none List.not_mem_nil
  notices := by
    intro notice here
    rcases List.mem_append.mp here with before | last
    · obtain ⟨x, happened, rfl⟩ := List.mem_map.mp before
      exact Notice.printable_lines_event (logged x happened)
    · obtain rfl := List.mem_singleton.mp last
      exact complaint.printable_lines malformed
  report := by
    rintro _ ⟨⟩

/-- One more event in front. -/
theorem Legible.after {run : Run} (legible : run.Legible) {x : Event}
    (logged : Printable x.message) : Legible { run with notices := .event x :: run.notices } where
  extent := legible.extent
  output := legible.output
  notices := by
    intro notice here
    rcases List.mem_cons.mp here with rfl | before
    · exact Notice.printable_lines_event logged
    · exact legible.notices notice before
  report := legible.report

end Run

/-! ### An errand -/

/-- The text of an instant is plain. -/
theorem WireFormat.printable_render (F : WireFormat) (i : Instant) : Printable (F.render i) := by
  intro c here
  have plain := List.all_eq_true.mp (F.all_isPlain_render i) c here
  simp only [Text.isPlain, Bool.and_eq_true, decide_eq_true_eq] at plain
  exact Text.isPrintable_of_ascii plain.1 plain.2

/-- A registry reports the making of a codec, with a printable name. -/
theorem Registry.Serves.printable_events_codecFor {r : Registry} {p : CenturyPivot}
    (serves : r.Serves p) (F : WireFormat) : ∀ x ∈ (r.codecFor F).2.1, Printable x.message := by
  rw [serves.events_codecFor]
  split
  · simp
  · intro x here
    obtain rfl := List.mem_singleton.mp here
    exact Event.printable_message_iff.mpr (by simp [Event.verbatim])

namespace Errand

variable {p : CenturyPivot} {F : WireFormat} {e : Errand} {events : List Event}

/-- What a date service logs of an errand is printable. -/
theorem printable_events_fulfil {x : Event} (logged : x ∈ (p.fulfil F e.request).events) :
    Printable x.message := by
  cases e with
  | write n =>
    -- Nothing is logged of writing.
    have silent : (p.fulfil F (write n).request).events = [] := by
      show (p.fulfil F ((TimeValue.ofMillis n).map .toText)).events = []
      cases TimeValue.ofMillis n <;> rfl
    rw [silent] at logged
    exact absurd logged List.not_mem_nil
  | read t => exact CenturyPivot.printable_message_of_mem_events_parse logged

theorem legible_settle (logged : ∀ x ∈ events, Printable x.message) :
    (e.settle p F events).Legible := by
  unfold settle
  cases e with
  | write n =>
    simp only [answer]
    cases Instant.ofMillis? n with
    | some i => exact Run.legible_answered (F.printable_render i) logged
    | none => exact Run.legible_refused (by simp) logged
  | read t =>
    simp only [answer]
    cases read : F.readText p t.toList with
    | ok i => exact Run.legible_answered (Text.printable_toString_int i.millis) logged
    | error r =>
      refine Run.legible_refused ?_ logged
      rintro _ ⟨⟩
      refine MalformedDate.printable_message ?_
      rintro _ ⟨⟩
      exact WireFormat.printable_reason_of_read (v := .text t) read

end Errand

/-! ### Any run of a console -/

namespace Console

variable {c : Console} {s : Settings}

theorem GoesBy.legible_exchange (goes : c.GoesBy s) (argument : Option String) (e : Errand) :
    (c.exchange argument e.request e.beyond).2.Legible := by
  rcases goes.exchange_cases argument e with
    ⟨-, step⟩ | ⟨F, err, -, bad, step⟩ | ⟨F, p, r, -, -, -, serves, step⟩ <;> rw [step]
  · exact Run.legible_refused (by simp) (by simp)
  · refine Run.legible_of_report ?_
    rintro _ ⟨⟩
    -- The only failure is a pivot that is none.
    obtain ⟨-, rfl⟩ := CenturyPivot.ofInt_eq_error_iff.mp bad
    exact printable_invalidPivot s.centuryPivot
  · refine Errand.legible_settle ?_
    intro x logged
    rcases List.mem_append.mp logged with made | asked
    · exact serves.printable_events_codecFor F x made
    · exact Errand.printable_events_fulfil asked

theorem perform_formats (arguments : List String) :
    c.perform .formats arguments = (c, ⟨.exit 0, formatListing, []⟩) := by
  have listing : (WireFormat.all.map fun f => f.name.map Char.toLower ++
      "".pushn ' ' (16 - f.name.length) ++ " " ++ f.sample) = formatListing := by decide +kernel
  rw [← listing]
  rfl

theorem GoesBy.legible_perform (goes : c.GoesBy s) (command : Command) (arguments : List String) :
    (c.perform command arguments).2.Legible := by
  by_cases list : command = .formats
  · subst list
    rw [perform_formats]
    have printable : ∀ line ∈ formatListing, Printable line := by decide
    exact ⟨.inr rfl, printable, by simp, by simp [Ending.report?]⟩
  cases words : valueAndFormat? arguments with
  | none =>
    rw [perform_of_misuse list words]
    exact Run.legible_refused (by simp) (by simp)
  | some found =>
    obtain ⟨value, argument⟩ := found
    obtain rfl := valueAndFormat?_eq_some_iff.mp words
    cases command with
    | formats => exact absurd rfl list
    | parse =>
      rw [perform_parse]
      exact goes.legible_exchange argument (.read value)
    | format =>
      rw [perform_format]
      cases Text.parseInt value with
      | error fault => exact Run.legible_refused (by simp) (by simp)
      | ok n => exact goes.legible_exchange argument (.write n)

theorem GoesBy.legible_dispatch (goes : c.GoesBy s) (asScript : Bool) (argv : List String) :
    (c.dispatch asScript argv).2.Legible := by
  rcases c.dispatch_cases asScript argv with ⟨-, step⟩ | ⟨command, arguments, -, step⟩ <;> rw [step]
  · exact Run.legible_refused (by simp) (by simp)
  · refine (goes.legible_perform command arguments).after (Event.printable_message_iff.mpr ?_)
    -- The word of a command is one of three, and its arguments are shown between quotes.
    simp only [Event.verbatim, List.mem_singleton, forall_eq]
    cases command <;> decide

theorem GoesBy.legible_run (goes : c.GoesBy s) (asScript : Bool) (argv : List String) :
    (c.run asScript argv).2.Legible := by
  rcases c.run_cases asScript argv with ⟨-, -, step⟩ | ⟨rank, -, step⟩ <;> rw [step]
  · refine Run.legible_of_report ?_
    rintro _ ⟨⟩
    exact printable_unknownLevelMessage _
  · exact (goes.set (some rank)).legible_dispatch asScript argv

end Console

/-- A notice is the usage, or it takes one line, that of an error or that of an event. -/
theorem Notice.lines_cases (notice : Notice) : notice = .complaint .usage ∨
    (∃ message, notice.lines = ["Error: " ++ message]) ∨
    ∃ x : Event, notice = .event x ∧
      notice.lines = [x.source ++ " - " ++ x.level.name ++ " - " ++ x.message] := by
  cases notice with
  | event x => exact .inr (.inr ⟨x, rfl, rfl⟩)
  | complaint complaint =>
    rcases complaint.lines_cases with usage | error
    · -- Four lines are the usage only.
      refine .inl ?_
      cases complaint with
      | usage => rfl
      | _ => exact absurd (congrArg List.length usage) (by simp [Complaint.lines, usageLines])
    · exact .inr (.inl error)

/-- A run prints an answer, or complains, or leaves a report on an error that nobody handles. -/
theorem Run.Shape.says_something {run : Run} (shape : run.Shape) :
    run.output ≠ [] ∨ (∃ complaint, .complaint complaint ∈ run.notices) ∨
      run.ending.report?.isSome = true := by
  cases shape with
  | answered events some => exact .inl some
  | complained complaint events => exact .inr (.inl ⟨complaint, List.mem_concat_self⟩)
  | @failed ending events uncaught =>
    cases ending with
    | exit status => exact absurd uncaught (by simp [Ending.isUncaught])
    | unknownLevel | failure => exact .inr (.inr rfl)

/-- The error output shows lines of the notices only. -/
theorem Run.Legible.printable_errorLines {run : Run} (legible : run.Legible) (c : Console) :
    ∀ line ∈ c.errorLines run, Printable line := by
  intro line here
  obtain ⟨notice, shown, within⟩ := List.mem_flatMap.mp here
  exact legible.notices notice (List.mem_of_mem_filter shown) line within

/-- Whatever runs there were before in the process that an environment starts, whatever the
    arguments and the settings hold:

* every character that a run writes to one of the outputs is printable, but for the end of each
  line;
* cut at the ends of lines, what it writes falls into the lines that it has to say and no others;
* the output has one line at most, or is the list of the formats;
* of all notices, shown or not, only the usage takes more than one line; any other complaint is one
  line that begins as an error, and an event is one line that begins with its source and its level;
* no run is silent: it prints something, or complains, or leaves a report on an error that nobody
  handles, and this report is printable. -/
theorem runs_write_printable_lines (env : Environment) (console : Console)
    (runs : List (Bool × List String)) (k : Nat) (asScript : Bool) (argv : List String)
    (starts : (Settings.ofEnvironment env).map Console.start = .ok console)
    (here : runs[k]? = some (asScript, argv)) :
    ∃ c run, (console.runAll runs)[k]? = some (c, run) ∧
      (∀ x ∈ (unlines run.output).toList ++ (unlines (c.errorLines run)).toList,
        x = '\n' ∨ Text.isPrintable x = true) ∧
      (unlines run.output).toList.splitOn '\n' = run.output.map String.toList ++ [[]] ∧
      (unlines (c.errorLines run)).toList.splitOn '\n'
        = (c.errorLines run).map String.toList ++ [[]] ∧
      (run.output.length ≤ 1 ∨ run.output = formatListing) ∧
      (∀ notice ∈ run.notices, (∀ line ∈ notice.lines, Printable line) ∧
        (notice = .complaint .usage ∨ (∃ message, notice.lines = ["Error: " ++ message]) ∨
          ∃ x : Event, notice = .event x ∧
            notice.lines = [x.source ++ " - " ++ x.level.name ++ " - " ++ x.message])) ∧
      (run.output ≠ [] ∨ (∃ complaint, .complaint complaint ∈ run.notices) ∨
        run.ending.report?.isSome = true) ∧
      ∀ report, run.ending.report? = some report → Printable report := by
  have start := Console.eq_start starts
  generalize console.settings = s at start
  subst start
  obtain ⟨before, goes, -, now⟩ := Console.exists_run (s := s) here
  have legible := goes.legible_run asScript argv
  have errors := legible.printable_errorLines (before.run asScript argv).1
  refine ⟨_, _, now, ?_, splitOn_unlines legible.output, splitOn_unlines errors, legible.extent,
    fun notice said => ⟨legible.notices notice said, notice.lines_cases⟩,
    (goes.shape_run asScript argv).says_something, legible.report⟩
  intro x written
  rcases List.mem_append.mp written with printed | shown
  · exact mem_unlines_cases legible.output printed
  · exact mem_unlines_cases errors shown

/-- A default format and a text that hold the end of a line and what looks like another are shown
    within the two lines of the run. -/
theorem runs_write_printable_lines_of_forgery :
    (Settings.ofEnvironment ⟨some "none\nError: forged", none, some "debug"⟩).map Console.start
      = .ok (Console.start ⟨"none\nError: forged", 69, "debug"⟩) ∧
    ∃ c run, ((Console.start ⟨"none\nError: forged", 69, "debug"⟩).runAll
        [(true, ["formats"]), (false, ["parse", "it's\r\u2028"])])[1]? = some (c, run) ∧
      c.errorLines run = ["cloudkit.cli - DEBUG - Running parse with [\"it's\\r\\u2028\"]",
        "Error: Unknown date format: 'none\\nError: forged'"] ∧
      ((unlines (c.errorLines run)).toList.splitOn '\n').length = 3 := by
  have starts : (Settings.ofEnvironment ⟨some "none\nError: forged", none, some "debug"⟩).map
      Console.start = .ok (Console.start ⟨"none\nError: forged", 69, "debug"⟩) := rfl
  obtain ⟨c, run, now, -, -, split, -⟩ := runs_write_printable_lines _ _
    [(true, ["formats"]), (false, ["parse", "it's\r\u2028"])] 1 false ["parse", "it's\r\u2028"]
    starts rfl
  have shown : (((Console.start ⟨"none\nError: forged", 69, "debug"⟩).runAll
      [(true, ["formats"]), (false, ["parse", "it's\r\u2028"])])[1]?).map
        (fun r => r.1.errorLines r.2)
      = some ["cloudkit.cli - DEBUG - Running parse with [\"it's\\r\\u2028\"]",
        "Error: Unknown date format: 'none\\nError: forged'"] := by decide +kernel
  rw [now] at shown
  have lines : c.errorLines run = _ := Option.some.inj shown
  refine ⟨starts, c, run, now, lines, ?_⟩
  rw [split, lines]
  rfl

end CloudClient
