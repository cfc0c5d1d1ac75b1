import CloudClient.Proofs.Console.Errand

namespace CloudClient

/-!
# One run of the command line

* `Console.GoesBy` — a console with these settings, before its first run or after some;
* `Console.GoesBy.exchange_cases` — the three things that can come of an argument for a format;
* `Console.perform_cases`, `Console.dispatch_cases`, `Console.run_cases` — what a command, a command
  line and a run do, whatever the console is;
* `Console.GoesBy.dispatch`, `Console.GoesBy.run` — the console stays one with these settings;
* `Settings.Yields`, `Settings.yields_dispatch` — what a run that gets to its command leaves;
* `Console.after`, `Console.exists_run` — each run of a process starts from the console that those
  before it left, which has its settings;
* `Console.LogsFrom` — a console with the settings, one of which is a level that the log knows.
-/

/-- The console has the settings, and what its shared registry has made goes with their pivot. -/
structure Console.GoesBy (c : Console) (s : Settings) : Prop where
  settings_eq : c.settings = s
  configured_eq : c.shared.configured = s.centuryPivot
  tied : c.shared.Tied

theorem Console.goesBy_start (s : Settings) : (Console.start s).GoesBy s where
  settings_eq := rfl
  configured_eq := rfl
  tied := SharedRegistry.tied_unused s.centuryPivot

/-- The console whose shared registry is this one. -/
def Console.hold (c : Console) (r : Registry) : Console :=
  { c with shared := { c.shared with made := some r } }

theorem Console.GoesBy.hold {c : Console} {s : Settings} {r : Registry} {p : CenturyPivot}
    (goes : c.GoesBy s) (ok : CenturyPivot.ofInt s.centuryPivot = .ok p) (serves : r.Serves p) :
    (c.hold r).GoesBy s where
  settings_eq := goes.settings_eq
  configured_eq := goes.configured_eq
  tied := by
    rintro _ ⟨⟩
    rw [← goes.configured_eq] at ok
    exact ⟨p, ok, serves⟩

/-! ### An errand in the format of an argument -/

namespace Console

variable {c : Console} {s : Settings} {F : WireFormat} {e : Errand} {p : CenturyPivot}
  {r : Registry}
  {err : DateError} {argument : Option String} {argv : List String}

theorem exchange_of_unknown (unknown : WireFormat.ofName? (c.typedFormat argument) = none) :
    c.exchange argument e.request e.beyond
      = (c, .refused (.unknownFormat (c.typedFormat argument)) []) := by
  simp only [exchange, unknown]

theorem exchange_of_error (found : WireFormat.ofName? (c.typedFormat argument) = some F)
    (got : c.shared.get = .error err) :
    c.exchange argument e.request e.beyond = (c, ⟨.failure err, [], []⟩) := by
  simp only [exchange, found, got]

/-- A registry over a simple service settles the errand. -/
theorem exchange_of_serves (found : WireFormat.ofName? (c.typedFormat argument) = some F)
    (got : c.shared.get = .ok r) (serves : r.Serves p) : c.exchange argument e.request e.beyond
      = (c.hold (r.codecFor F).1,
        e.settle p F ((r.codecFor F).2.1 ++ (p.fulfil F e.request).events)) := by
  simp only [exchange, found, got, serves.ask_eq]
  -- A number can lead outside the calendar, and a text can be malformed; nothing else goes wrong.
  cases e with
  | write n =>
    cases instant : Instant.ofMillis? n with
    | some i =>
      simp only [Errand.result_fulfil_write p F instant, Errand.settle, Errand.answer, instant,
        hold]
    | none =>
      simp only [Errand.fulfil_beyond p F instant, Errand.settle, Errand.answer, instant, hold,
        Errand.beyond]
  | read t =>
    rw [Errand.result_fulfil_read]
    rcases p.parse_text F t with ⟨i, read, answer⟩ | ⟨rejection, read, answer⟩ <;> rw [answer]
    · simp only [Except.map, Errand.settle, Errand.answer, read, hold]
    · simp only [Rejection.error_text, Except.map, Errand.settle, Errand.answer, read, hold]

/-- Of an argument for a format comes a complaint that there is no such format, a failure because
    the pivot is none, or the answer of a registry over a simple service. -/
theorem GoesBy.exchange_cases (goes : c.GoesBy s) (argument : Option String) (e : Errand) :
    ((∀ F, ¬ s.Names argument.toList F) ∧ c.exchange argument e.request e.beyond
      = (c, .refused (.unknownFormat (c.typedFormat argument)) [])) ∨
    (∃ F err, s.Names argument.toList F ∧ CenturyPivot.ofInt s.centuryPivot = .error err ∧
      c.exchange argument e.request e.beyond = (c, ⟨.failure err, [], []⟩)) ∨
    (∃ F p r, s.Names argument.toList F ∧ CenturyPivot.ofInt s.centuryPivot = .ok p ∧
      c.shared.get = .ok r ∧ r.Serves p ∧ c.exchange argument e.request e.beyond
        = (c.hold (r.codecFor F).1,
          e.settle p F ((r.codecFor F).2.1 ++ (p.fulfil F e.request).events))) := by
  obtain ⟨rfl, configured, tied⟩ := goes
  cases found : WireFormat.ofName? (c.typedFormat argument) with
  | none =>
    refine .inl ⟨?_, exchange_of_unknown found⟩
    intro F names
    exact absurd ((Settings.names_toList_iff argument).mp names) (by simp [found])
  | some F =>
    have names := (Settings.names_toList_iff argument).mpr found
    cases pivot : CenturyPivot.ofInt c.settings.centuryPivot with
    | error err =>
      have got := tied.get_eq_error (configured ▸ pivot)
      exact .inr (.inl ⟨F, err, names, rfl, exchange_of_error found got⟩)
    | ok p =>
      obtain ⟨r, got, serves⟩ := tied.get_eq_ok (configured ▸ pivot)
      exact .inr (.inr ⟨F, p, r, names, rfl, got, serves, exchange_of_serves found got serves⟩)

/-- The registry that is kept goes with the settings again. -/
theorem GoesBy.exchange (goes : c.GoesBy s) (argument : Option String) (e : Errand) :
    (c.exchange argument e.request e.beyond).1.GoesBy s ∧
      (c.exchange argument e.request e.beyond).1.threshold = c.threshold := by
  rcases goes.exchange_cases argument e with
    ⟨-, step⟩ | ⟨F, err, -, -, step⟩ | ⟨F, p, r, -, ok, -, serves, step⟩ <;> rw [step]
  · exact ⟨goes, rfl⟩
  · exact ⟨goes, rfl⟩
  · exact ⟨goes.hold ok (serves.codecFor F), rfl⟩

/-! ### The command -/

theorem perform_of_misuse {command : Command} {arguments : List String} (other : command ≠ .formats)
    (misuse : valueAndFormat? arguments = none) :
    c.perform command arguments = (c, .refused .usage []) := by
  cases command with
  | formats => exact absurd rfl other
  | format | parse => simp only [perform, misuse]

theorem perform_format (value : String) (argument : Option String) :
    c.perform .format (value :: argument.toList) = match Text.parseInt value with
      | .error _ => (c, .refused (.notAnInteger value) [])
      | .ok n => c.exchange argument (Errand.write n).request (Errand.write n).beyond := by
  have words := valueAndFormat?_eq_some_iff.mpr (rfl : value :: argument.toList = _)
  simp only [perform, words]
  rfl

theorem perform_parse (value : String) (argument : Option String) :
    c.perform .parse (value :: argument.toList)
      = c.exchange argument (Errand.read value).request (Errand.read value).beyond := by
  have words := valueAndFormat?_eq_some_iff.mpr (rfl : value :: argument.toList = _)
  simp only [perform, words]
  rfl

/-- A command lists the formats, or the command line has no errand and gets a complaint, or it has
    one errand, in the formats that an argument names. -/
theorem perform_cases (c : Console) (command : Command) (arguments : List String) :
    (command = .formats ∧ ∃ lines, lines ≠ [] ∧
      c.perform command arguments = (c, ⟨.exit 0, lines, []⟩)) ∨
    (command ≠ .formats ∧ (∀ s F e, ¬ Settings.Reaches s (command.name :: arguments) F e) ∧
      ∃ complaint, c.perform command arguments = (c, .refused complaint [])) ∨
    (command ≠ .formats ∧ ∃ argument e,
      (∀ s F e', Settings.Reaches s (command.name :: arguments) F e' ↔
        e' = e ∧ s.Names argument.toList F) ∧
      c.perform command arguments = c.exchange argument e.request e.beyond) := by
  by_cases list : command = .formats
  · subst list
    exact .inl ⟨rfl, _, by simp [WireFormat.all], rfl⟩
  refine .inr ?_
  -- Both other commands look at the number of words first, and only one looks at the value.
  cases words : valueAndFormat? arguments with
  | none =>
    refine .inl ⟨list, ?_, _, perform_of_misuse list words⟩
    intro s F e reaches
    exact absurd reaches.valueAndFormat? (by simp [words])
  | some found =>
    obtain ⟨value, argument⟩ := found
    obtain rfl := valueAndFormat?_eq_some_iff.mp words
    cases command with
    | formats => exact absurd rfl list
    | parse =>
      exact .inr ⟨list, argument, .read value, fun s F e => Settings.reaches_parse_iff,
        perform_parse value argument⟩
    | format =>
      rw [perform_format]
      cases number : Text.parseInt value with
      | error fault =>
        refine .inl ⟨list, ?_, _, rfl⟩
        intro s F e reaches
        exact Settings.not_reaches_of_error number reaches
      | ok n =>
        exact .inr ⟨list, argument, .write n, fun s F e => Settings.reaches_format_iff number, rfl⟩

/-- A run whose command is known reports this and what the command leaves; any other gets a
    complaint. -/
theorem dispatch_cases (c : Console) (asScript : Bool) (argv : List String) :
    ((∀ command arguments, argv ≠ Command.name command :: arguments) ∧
      c.dispatch asScript argv = (c, .refused .usage [])) ∨
    ∃ command arguments, argv = Command.name command :: arguments ∧ c.dispatch asScript argv
      = ((c.perform command arguments).1, { (c.perform command arguments).2 with
        notices := .event (.commandStarted asScript command.name arguments) ::
          (c.perform command arguments).2.notices }) := by
  cases argv with
  | nil => exact .inl ⟨by simp, rfl⟩
  | cons word arguments =>
    cases found : Command.ofName? word with
    | none =>
      refine .inl ⟨?_, by simp only [dispatch, found]⟩
      rintro command _ ⟨⟩
      cases command <;> exact absurd found (by decide)
    | some command =>
      have name : Command.name command = word := by
        simpa using List.find?_some found
      subst name
      exact .inr ⟨command, arguments, rfl, by simp only [dispatch, found]⟩

theorem GoesBy.dispatch (goes : c.GoesBy s) (asScript : Bool) (argv : List String) :
    (c.dispatch asScript argv).1.GoesBy s ∧
      (c.dispatch asScript argv).1.threshold = c.threshold := by
  rcases c.dispatch_cases asScript argv with ⟨-, step⟩ | ⟨command, arguments, -, step⟩ <;>
    rw [step]
  · exact ⟨goes, rfl⟩
  · rcases c.perform_cases command arguments with
      ⟨-, lines, -, step⟩ | ⟨-, -, complaint, step⟩ | ⟨-, argument, e, -, step⟩ <;> rw [step]
    · exact ⟨goes, rfl⟩
    · exact ⟨goes, rfl⟩
    · exact goes.exchange argument e

end Console

/-! ### What a command line leaves -/

/-- What a run leaves that gets to its command: the list of the formats, what comes of its errand,
    or a complaint. -/
inductive Settings.Yields (s : Settings) (argv : List String) : Run → Prop where
  | listed {arguments lines : List String} (events : List Event)
      (command : argv = "formats" :: arguments) (some : lines ≠ []) :
      Yields s argv ⟨.exit 0, lines, events.map .event⟩
  | settled {F : WireFormat} {e : Errand} {p : CenturyPivot} (events : List Event)
      (reaches : s.Reaches argv F e) (ok : CenturyPivot.ofInt s.centuryPivot = .ok p) :
      Yields s argv (e.settle p F events)
  | stopped {F : WireFormat} {e : Errand} {err : DateError} (events : List Event)
      (reaches : s.Reaches argv F e) (bad : CenturyPivot.ofInt s.centuryPivot = .error err) :
      Yields s argv ⟨.failure err, [], events.map .event⟩
  | declined (complaint : Complaint) (events : List Event) (idle : ∀ F e, ¬ s.Reaches argv F e)
      (command : ∀ arguments, argv ≠ "formats" :: arguments) :
      Yields s argv (.refused complaint events)

namespace Settings

variable {s : Settings} {c : Console} {argv arguments : List String} {run : Run}

/-- One more event in front changes nothing. -/
theorem Yields.after (yields : s.Yields argv run) (x : Event) :
    s.Yields argv { run with notices := .event x :: run.notices } := by
  cases yields with
  | listed events command some => exact .listed (x :: events) command some
  | @settled F e p events reaches ok =>
    have front : { e.settle p F events with notices := .event x :: (e.settle p F events).notices }
        = e.settle p F (x :: events) := by
      unfold Errand.settle
      cases e.answer p F <;> rfl
    rw [front]
    exact .settled (x :: events) reaches ok
  | stopped events reaches bad => exact .stopped (x :: events) reaches bad
  | declined complaint events idle command => exact .declined complaint (x :: events) idle command

theorem yields_perform (goes : c.GoesBy s) (command : Command) (arguments : List String) :
    s.Yields (command.name :: arguments) (c.perform command arguments).2 := by
  have unlisted (other : command ≠ .formats) (words : List String) :
      command.name :: arguments ≠ "formats" :: words := by
    cases command <;> simp_all [Command.name]
  rcases c.perform_cases command arguments with
    ⟨rfl, lines, some, step⟩ | ⟨other, idle, complaint, step⟩ |
      ⟨other, argument, e, reaches, step⟩ <;>
    rw [step]
  · exact .listed [] rfl some
  · exact .declined complaint [] (idle s) (unlisted other)
  · rcases goes.exchange_cases argument e with
      ⟨unnamed, step⟩ | ⟨F, err, names, bad, step⟩ | ⟨F, p, r, names, ok, -, -, step⟩ <;> rw [step]
    · refine .declined _ [] ?_ (unlisted other)
      intro F e' found
      exact unnamed F ((reaches s F e').mp found).2
    · exact .stopped [] ((reaches s F e).mpr ⟨rfl, names⟩) bad
    · exact .settled _ ((reaches s F e).mpr ⟨rfl, names⟩) ok

theorem yields_dispatch (goes : c.GoesBy s) (asScript : Bool) (argv : List String) :
    s.Yields argv (c.dispatch asScript argv).2 := by
  rcases c.dispatch_cases asScript argv with ⟨unknown, step⟩ | ⟨command, arguments, rfl, step⟩ <;>
    rw [step]
  · exact .declined .usage [] (fun F e reaches => reaches.not_unknown unknown) (unknown .formats)
  · exact (yields_perform goes command arguments).after _

end Settings

/-! ### The first run and the later ones -/

namespace Console

variable {c : Console} {s : Settings}

/-- A run that has to set up the log for a level that it does not know ends there.  Any other run
    gets to its command line, with the threshold that the log has already or the rank of the
    level. -/
theorem run_cases (c : Console) (asScript : Bool) (argv : List String) :
    (c.threshold = none ∧ levelRanks.lookup (upperName c.settings.logLevel) = none ∧
      c.run asScript argv = ({ c with threshold := some unsetThreshold },
        ⟨.unknownLevel (upperName c.settings.logLevel), [], []⟩)) ∨
    ∃ rank, c.threshold.or (levelRanks.lookup (upperName c.settings.logLevel)) = some rank ∧
      c.run asScript argv = { c with threshold := some rank }.dispatch asScript argv := by
  obtain ⟨settings, _ | rank, shared⟩ := c
  · cases level : levelRanks.lookup (upperName settings.logLevel) with
    | none => exact .inl ⟨rfl, rfl, by simp only [run, level]⟩
    | some rank => exact .inr ⟨rank, rfl, by simp only [run, level]⟩
  · exact .inr ⟨rank, rfl, rfl⟩

theorem GoesBy.set (goes : c.GoesBy s) (threshold : Option Nat) :
    GoesBy { c with threshold := threshold } s :=
  ⟨goes.settings_eq, goes.configured_eq, goes.tied⟩

/-- A run leaves a console with the same settings, and with a log that is set up. -/
theorem GoesBy.run (goes : c.GoesBy s) (asScript : Bool) (argv : List String) :
    (c.run asScript argv).1.GoesBy s ∧ (c.run asScript argv).1.threshold ≠ none := by
  rcases c.run_cases asScript argv with ⟨-, -, step⟩ | ⟨rank, -, step⟩ <;> rw [step]
  · exact ⟨goes.set _, by simp⟩
  · obtain ⟨after, threshold⟩ := (goes.set (some rank)).dispatch asScript argv
    refine ⟨after, ?_⟩
    rw [threshold]
    simp

/-- The console after some runs. -/
def after (c : Console) (runs : List (Bool × List String)) : Console :=
  finalState (fun c r => c.run r.1 r.2) c runs

theorem GoesBy.after (goes : c.GoesBy s) (runs : List (Bool × List String)) :
    (c.after runs).GoesBy s :=
  finalState_induction (motive := (GoesBy · s)) goes (fun _ r goes => (goes.run r.1 r.2).1) runs

/-- Each run starts from the console that those before it left. -/
theorem getElem?_runAll {runs : List (Bool × List String)} {k : Nat} {asScript : Bool}
    {argv : List String} (here : runs[k]? = some (asScript, argv)) :
    (c.runAll runs)[k]? = some ((c.after (runs.take k)).run asScript argv) := by
  rw [runAll, getElem?_history, here]
  rfl

/-- Each run of a process starts from a console with its settings, on which the log is set up unless
    it is the first. -/
theorem exists_run {runs : List (Bool × List String)} {k : Nat} {asScript : Bool}
    {argv : List String} (here : runs[k]? = some (asScript, argv)) :
    ∃ c : Console, c.GoesBy s ∧ (c.threshold = none ↔ k = 0) ∧
      ((start s).runAll runs)[k]? = some (c.run asScript argv) := by
  refine ⟨_, (goesBy_start s).after (runs.take k), ?_, getElem?_runAll here⟩
  cases k with
  | zero => exact iff_of_true rfl rfl
  | succ j =>
    -- The run before this one has set up the log, also if it did not know the level.
    obtain ⟨long, -⟩ := List.getElem?_eq_some_iff.mp here
    have before := List.getElem?_eq_getElem (Nat.lt_of_succ_lt long)
    rw [Console.after, finalState_take_succ _ _ before]
    exact iff_of_false (((goesBy_start s).after (runs.take j)).run _ _).2 (Nat.succ_ne_zero j)

/-! ### Runs with a level that the log knows -/

variable {rank : Nat}

/-- The console has the settings, and its log, once it is set up, shows events from the rank of the
    level on. -/
structure LogsFrom (c : Console) (s : Settings) (rank : Nat) : Prop where
  goes : c.GoesBy s
  level : levelRanks.lookup (upperName s.logLevel) = some rank
  threshold : c.threshold = none ∨ c.threshold = some rank

theorem logsFrom_start (level : levelRanks.lookup (upperName s.logLevel) = some rank) :
    (start s).LogsFrom s rank where
  goes := goesBy_start s
  level := level
  threshold := .inl rfl

theorem LogsFrom.run_eq (logs : c.LogsFrom s rank) (asScript : Bool) (argv : List String) :
    c.run asScript argv = { c with threshold := some rank }.dispatch asScript argv := by
  obtain ⟨⟨rfl, -, -⟩, level, unset | set⟩ := logs
  · simp only [run, unset, level]
  · simp only [run, set]
    rw [← set]

theorem LogsFrom.threshold_run (logs : c.LogsFrom s rank) (asScript : Bool) (argv : List String) :
    (c.run asScript argv).1.threshold = some rank := by
  rw [logs.run_eq]
  exact ((logs.goes.set (some rank)).dispatch asScript argv).2

theorem LogsFrom.run (logs : c.LogsFrom s rank) (asScript : Bool) (argv : List String) :
    (c.run asScript argv).1.LogsFrom s rank where
  goes := (logs.goes.run asScript argv).1
  level := logs.level
  threshold := .inr (logs.threshold_run asScript argv)

theorem LogsFrom.after (logs : c.LogsFrom s rank) (runs : List (Bool × List String)) :
    (c.after runs).LogsFrom s rank :=
  finalState_induction (motive := (LogsFrom · s rank)) logs (fun _ r logs => logs.run r.1 r.2) runs

end Console

end CloudClient
