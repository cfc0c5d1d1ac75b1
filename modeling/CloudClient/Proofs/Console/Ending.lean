import CloudClient.Proofs.Console.Run

namespace CloudClient

/-!
# How the runs of a process end

* `Ending.isUncaught` — an error that nobody handles ends the run;
* `Event.line` — the line of the log for an event;
* `lookup_levelRanks_eq_none_iff` — which levels there are;
* `Run.Shape` — a run prints an answer, or complains, or fails;
* `Run.Shape.outputs` — what the two outputs hold of it;
* `Settings.Yields.isUncaught_iff`, `Settings.Yields.exit_zero_iff` — when a run that gets to its
  command fails, and when it prints an answer;
* `Console.GoesBy.shape_run`, `Console.GoesBy.isUncaught_run_iff`,
  `Console.GoesBy.exit_zero_run_iff` — the same of any run of a console;
* `runs_end` — how each run of a process ends, from its settings and its arguments.
-/

/-- An error that nobody handles ends the run. -/
def Ending.isUncaught : Ending → Bool
  | exit _ => false
  | unknownLevel _ | failure _ => true

/-- The log knows the levels by these names. -/
theorem lookup_levelRanks_eq_none_iff {name : String} : levelRanks.lookup name = none ↔
    name ∉ ["CRITICAL", "FATAL", "ERROR", "WARN", "WARNING", "INFO", "DEBUG", "NOTSET"] := by
  simp [levelRanks, List.lookup_eq_none_iff]

/-! ### The error output -/

/-- A complaint is the usage or one line that tells of an error. -/
theorem Complaint.lines_cases (complaint : Complaint) :
    complaint.lines = usageLines ∨ ∃ message, complaint.lines = ["Error: " ++ message] := by
  cases complaint with
  | usage => exact .inl rfl
  | notAnInteger text =>
    refine .inr ⟨"epoch milliseconds must be an integer, got " ++ Text.quote text, ?_⟩
    rw [← String.append_assoc]
    rfl
  | unknownFormat typed => exact .inr ⟨_, rfl⟩
  | beyondCalendar millis =>
    refine .inr ⟨toString millis ++ " is outside the supported date range", ?_⟩
    rw [← String.append_assoc]
    rfl
  | malformed report => exact .inr ⟨_, rfl⟩

/-- The line of the log for an event. -/
def Event.line (e : Event) : String := e.source ++ " - " ++ e.level.name ++ " - " ++ e.message

theorem flatMap_lines_event (log : List Event) :
    (log.map Notice.event).flatMap Notice.lines = log.map Event.line := by
  rw [List.flatMap_map]
  exact List.flatMap_pure_eq_map Event.line log

namespace Console

variable (c : Console) (events : List Event)

/-- Of events some are shown. -/
theorem errorLines_of_events (ending : Ending) (lines : List String) :
    ∃ log : List Event,
      c.errorLines ⟨ending, lines, events.map .event⟩ = log.map Event.line := by
  refine ⟨events.filter fun e => c.threshold.getD unsetThreshold ≤ e.level.rank, ?_⟩
  rw [errorLines, Run.shown, List.filter_map]
  exact flatMap_lines_event _

/-- A complaint is shown, after some of the events. -/
theorem errorLines_refused (complaint : Complaint) :
    ∃ log : List Event,
      c.errorLines (.refused complaint events) = log.map Event.line ++ complaint.lines := by
  refine ⟨events.filter fun e => c.threshold.getD unsetThreshold ≤ e.level.rank, ?_⟩
  rw [errorLines, Run.shown, Run.refused, List.filter_append, List.filter_map, List.flatMap_append,
    ← flatMap_lines_event]
  exact congrArg (_ ++ ·) (List.append_nil _)

end Console

/-! ### What a run leaves -/

namespace Run

/-- The run prints an answer, or complains, or fails. -/
inductive Shape : Run → Prop where
  | answered {lines : List String} (events : List Event) (some : lines ≠ []) :
      Shape ⟨.exit 0, lines, events.map .event⟩
  | complained (complaint : Complaint) (events : List Event) : Shape (.refused complaint events)
  | failed {ending : Ending} (events : List Event) (uncaught : ending.isUncaught = true) :
      Shape ⟨ending, [], events.map .event⟩

variable {run : Run}

/-- An answer is printed, and a complaint shown after lines of the log. -/
theorem Shape.outputs (shape : run.Shape) (c : Console) :
    (run.ending.isUncaught = false → run.ending = .exit 0 ∨ run.ending = .exit 1) ∧
    (run.ending = .exit 0 → run.output ≠ [] ∧
      ∃ log : List Event, c.errorLines run = log.map Event.line) ∧
    (run.ending ≠ .exit 0 → run.output = []) ∧
    (run.ending = .exit 1 → ∃ (log : List Event) (report : List String),
      c.errorLines run = log.map Event.line ++ report ∧
      (report = usageLines ∨ ∃ message, report = ["Error: " ++ message])) := by
  cases shape with
  | @answered lines events some =>
    refine ⟨fun _ => .inl rfl, fun _ => ⟨some, c.errorLines_of_events events _ lines⟩, ?_, ?_⟩
    · intro other
      exact absurd rfl other
    · intro one
      exact absurd one (by simp)
  | complained complaint events =>
    refine ⟨fun _ => .inr rfl, ?_, fun _ => rfl, ?_⟩
    · intro zero
      exact absurd zero (by simp [refused])
    · intro _
      obtain ⟨log, shown⟩ := c.errorLines_refused events complaint
      exact ⟨log, complaint.lines, shown, complaint.lines_cases⟩
  | failed events uncaught =>
    refine ⟨?_, ?_, fun _ => rfl, ?_⟩
    · intro ends
      exact absurd (uncaught.symm.trans ends) (by simp)
    -- A run that ends with a status is no failure.
    all_goals
      rintro rfl
      exact absurd uncaught (by simp [Ending.isUncaught])

end Run

namespace Settings.Yields

variable {s : Settings} {argv : List String} {run : Run}

theorem shape (yields : s.Yields argv run) : run.Shape := by
  cases yields with
  | listed events command some => exact .answered events some
  | @settled F e p events reaches ok =>
    unfold Errand.settle
    cases e.answer p F with
    | ok line => exact .answered events (List.cons_ne_nil line [])
    | error complaint => exact .complained complaint events
  | stopped events reaches bad => exact .failed events rfl
  | declined complaint events idle command => exact .complained complaint events

/-- The run fails exactly if it has an errand and the pivot is none. -/
theorem isUncaught_iff (yields : s.Yields argv run) : run.ending.isUncaught = true ↔
    ¬ (0 ≤ s.centuryPivot ∧ s.centuryPivot ≤ 99) ∧ ∃ F e, s.Reaches argv F e := by
  cases yields with
  | listed events command some =>
    refine iff_of_false (by simp [Ending.isUncaught]) ?_
    rintro ⟨-, F, e, reaches⟩
    exact not_reaches_formats _ (command ▸ reaches)
  | @settled F e p events reaches ok =>
    -- The pivot is one, and neither an answer nor a complaint is a failure.
    have range := CenturyPivot.isOk_ofInt_iff.mp ⟨p, ok⟩
    refine iff_of_false ?_ fun fails => fails.1 range
    unfold Errand.settle
    cases e.answer p F <;> simp [Ending.isUncaught, Run.refused]
  | stopped events reaches bad =>
    exact iff_of_true rfl ⟨(CenturyPivot.ofInt_eq_error_iff.mp bad).1, _, _, reaches⟩
  | declined complaint events idle command =>
    refine iff_of_false (by simp [Ending.isUncaught, Run.refused]) ?_
    rintro ⟨-, F, e, reaches⟩
    exact idle F e reaches

/-- The run prints an answer exactly if it lists the formats or its errand has one. -/
theorem exit_zero_iff (yields : s.Yields argv run) : run.ending = .exit 0 ↔
    (∃ arguments, argv = "formats" :: arguments) ∨
      ∃ F e p line, s.Reaches argv F e ∧ CenturyPivot.ofInt s.centuryPivot = .ok p ∧
        e.answer p F = .ok line := by
  cases yields with
  | listed events command some => exact iff_of_true rfl (.inl ⟨_, command⟩)
  | @settled F e p events reaches ok =>
    unfold Errand.settle
    cases answer : e.answer p F with
    | ok line => exact iff_of_true rfl (.inr ⟨F, e, p, line, reaches, ok, answer⟩)
    | error complaint =>
      refine iff_of_false (by simp [Run.refused]) ?_
      rintro (⟨arguments, rfl⟩ | ⟨G, e', q, line, reaches', ok', answer'⟩)
      · exact not_reaches_formats arguments reaches
      · -- There is no second errand that could have the answer.
        obtain ⟨rfl, rfl⟩ := reaches.unique reaches'
        obtain rfl := Except.ok.inj (ok.symm.trans ok')
        exact absurd (answer.symm.trans answer') (by simp)
  | stopped events reaches bad =>
    refine iff_of_false (by simp) ?_
    rintro (⟨arguments, rfl⟩ | ⟨G, e', q, line, -, ok, -⟩)
    · exact not_reaches_formats arguments reaches
    · exact absurd (bad.symm.trans ok) (by simp)
  | declined complaint events idle command =>
    refine iff_of_false (by simp [Run.refused]) ?_
    rintro (⟨arguments, list⟩ | ⟨G, e', q, line, reaches, -, -⟩)
    · exact command arguments list
    · exact idle G e' reaches

/-- If the run does not fail, an errand has an answer if its number is the one of an instant or its
    text is accepted. -/
theorem exit_zero_iff_of_not_isUncaught (yields : s.Yields argv run)
    (ends : run.ending.isUncaught = false) : run.ending = .exit 0 ↔
      (∃ arguments, argv = "formats" :: arguments) ∨
      (∃ F n, s.Reaches argv F (.write n) ∧ firstMilli ≤ n ∧ n ≤ lastMilli) ∨
      ∃ F t p i, s.Reaches argv F (.read t) ∧ CenturyPivot.ofInt s.centuryPivot = .ok p ∧
        (p.parse F (.text t)).result = .ok i := by
  rw [yields.exit_zero_iff]
  refine or_congr_right ⟨?_, ?_⟩
  · rintro ⟨F, e, p, line, reaches, ok, answer⟩
    cases e with
    | write n => exact .inl ⟨F, n, reaches, Errand.answer_write_isOk_iff.mp ⟨line, answer⟩⟩
    | read t =>
      obtain ⟨i, accepted⟩ := Errand.answer_read_isOk_iff.mp ⟨line, answer⟩
      exact .inr ⟨F, t, p, i, reaches, ok, accepted⟩
  · rintro (⟨F, n, reaches, range⟩ | ⟨F, t, p, i, reaches, ok, accepted⟩)
    · -- A number is written whatever the pivot is, but there has to be one.
      have pivot : 0 ≤ s.centuryPivot ∧ s.centuryPivot ≤ 99 := by
        by_contra bad
        exact absurd (yields.isUncaught_iff.mpr ⟨bad, F, _, reaches⟩) (by simp [ends])
      obtain ⟨p, ok⟩ := CenturyPivot.isOk_ofInt_iff.mpr pivot
      obtain ⟨line, answer⟩ := (Errand.answer_write_isOk_iff (p := p) (F := F)).mpr range
      exact ⟨F, _, p, line, reaches, ok, answer⟩
    · obtain ⟨line, answer⟩ := Errand.answer_read_isOk_iff.mpr ⟨i, accepted⟩
      exact ⟨F, _, p, line, reaches, ok, answer⟩

end Settings.Yields

/-- Settings pass the check if the pivot is one and the level is on the list of the check. -/
theorem Settings.isValid_iff (s : Settings) : s.isValid = true ↔
    (0 ≤ s.centuryPivot ∧ s.centuryPivot ≤ 99) ∧ upperName s.logLevel ∈ checkedLevels := by
  unfold isValid problems
  split <;> split <;> simp_all

/-- The log knows the levels that pass the check. -/
theorem Settings.level_of_isValid {s : Settings} (valid : s.isValid = true) :
    levelRanks.lookup (upperName s.logLevel) ≠ none := by
  have checked := (s.isValid_iff.mp valid).2
  -- The list of the check is shorter: it leaves out the other names of two levels, and the least
  -- one.
  rw [ne_eq, lookup_levelRanks_eq_none_iff, not_not]
  revert checked
  generalize upperName s.logLevel = level
  simp only [checkedLevels]
  grind

/-! ### Any run of a console -/

namespace Console

variable {c : Console} {s : Settings}

theorem GoesBy.shape_run (goes : c.GoesBy s) (asScript : Bool) (argv : List String) :
    (c.run asScript argv).2.Shape := by
  rcases c.run_cases asScript argv with ⟨-, -, step⟩ | ⟨rank, -, step⟩ <;> rw [step]
  · exact .failed [] rfl
  · exact (Settings.yields_dispatch (goes.set (some rank)) asScript argv).shape

/-- A run fails exactly if it has to set up the log for a level that the log does not know, or has
    an errand and the pivot is none. -/
theorem GoesBy.isUncaught_run_iff (goes : c.GoesBy s) (asScript : Bool) (argv : List String) :
    (c.run asScript argv).2.ending.isUncaught = true ↔
      (c.threshold = none ∧ levelRanks.lookup (upperName s.logLevel) = none) ∨
      (¬ (0 ≤ s.centuryPivot ∧ s.centuryPivot ≤ 99) ∧ ∃ F e, s.Reaches argv F e) := by
  rcases c.run_cases asScript argv with ⟨unset, unknown, step⟩ | ⟨rank, known, step⟩ <;>
    rw [step]
  · rw [goes.settings_eq] at unknown
    exact iff_of_true rfl (.inl ⟨unset, unknown⟩)
  · have yields := Settings.yields_dispatch (goes.set (some rank)) asScript argv
    rw [yields.isUncaught_iff, or_iff_right]
    rintro ⟨unset, unknown⟩
    rw [goes.settings_eq, unset, unknown] at known
    exact absurd known (by simp)

/-- Under settings that pass the check no run fails. -/
theorem GoesBy.isUncaught_run_of_isValid (goes : c.GoesBy s) (valid : s.isValid = true)
    (asScript : Bool) (argv : List String) :
    (c.run asScript argv).2.ending.isUncaught = false := by
  rw [← Bool.not_eq_true, goes.isUncaught_run_iff]
  rintro (⟨-, unknown⟩ | ⟨bad, -⟩)
  · exact Settings.level_of_isValid valid unknown
  · exact bad (s.isValid_iff.mp valid).1

/-- If it does not fail, it prints an answer exactly if it lists the formats or its errand has
    one. -/
theorem GoesBy.exit_zero_run_iff (goes : c.GoesBy s) {asScript : Bool} {argv : List String}
    (ends : (c.run asScript argv).2.ending.isUncaught = false) :
    (c.run asScript argv).2.ending = .exit 0 ↔
      (∃ arguments, argv = "formats" :: arguments) ∨
      (∃ F n, s.Reaches argv F (.write n) ∧ firstMilli ≤ n ∧ n ≤ lastMilli) ∨
      ∃ F t p i, s.Reaches argv F (.read t) ∧ CenturyPivot.ofInt s.centuryPivot = .ok p ∧
        (p.parse F (.text t)).result = .ok i := by
  rcases c.run_cases asScript argv with ⟨-, -, step⟩ | ⟨rank, -, step⟩ <;> rw [step] at ends ⊢
  · exact absurd ends (by simp [Ending.isUncaught])
  · have yields := Settings.yields_dispatch (goes.set (some rank)) asScript argv
    exact yields.exit_zero_iff_of_not_isUncaught ends

/-- The process that an environment starts is the one with the environment's settings. -/
theorem eq_start {env : Environment}
    (starts : (Settings.ofEnvironment env).map start = .ok c) : c = start c.settings := by
  cases executes : Settings.ofEnvironment env with
  | error e => exact absurd starts (by simp [executes, Except.map])
  | ok s =>
    rw [executes] at starts
    obtain rfl := Except.ok.inj starts
    rfl

end Console

/-- Whatever runs there were before in the process that an environment starts:

* a run ends with an error that nobody handles exactly if it is the first one and the name of the
  level in upper case is not one of the eight that the log knows, or the configured pivot is not one
  of 0 to 99 and the command line has an errand for a codec, that is, it is the command to write
  with a word that is read as a number, or the command to read with a text, and at most one further
  word, which names a format, as the default one does if this word is missing or empty;
* every other run ends with the status 0 or 1, with 0 exactly if it lists the formats, or has the
  errand to write a number of milliseconds of the years 1 to 9999, or has the errand to read a text
  that the format accepts under the configured pivot;
* a run that ends with 0 prints something, and shows nothing but lines of the log on the error
  output;
* any other run prints nothing, and if it ends with 1 it shows one complaint, the usage or one
  error, after lines of the log;
* under settings that pass the check no command line makes a run end with an error that nobody
  handles. -/
theorem runs_end (env : Environment) (console : Console) (runs : List (Bool × List String))
    (k : Nat) (asScript : Bool) (argv : List String)
    (starts : (Settings.ofEnvironment env).map Console.start = .ok console)
    (here : runs[k]? = some (asScript, argv)) :
    ∃ c run, (console.runAll runs)[k]? = some (c, run) ∧
      (run.ending.isUncaught = true ↔
        (k = 0 ∧ upperName console.settings.logLevel ∉
          ["CRITICAL", "FATAL", "ERROR", "WARN", "WARNING", "INFO", "DEBUG", "NOTSET"]) ∨
        (¬ (0 ≤ console.settings.centuryPivot ∧ console.settings.centuryPivot ≤ 99) ∧
          ∃ F e, console.settings.Reaches argv F e)) ∧
      (run.ending.isUncaught = false →
        (run.ending = .exit 0 ∨ run.ending = .exit 1) ∧
        (run.ending = .exit 0 ↔
          (∃ arguments, argv = "formats" :: arguments) ∨
          (∃ F n, console.settings.Reaches argv F (.write n) ∧
            -62135596800000 ≤ n ∧ n ≤ 253402300799999) ∨
          ∃ F t p i, console.settings.Reaches argv F (.read t) ∧
            CenturyPivot.ofInt console.settings.centuryPivot = .ok p ∧
            (p.parse F (.text t)).result = .ok i)) ∧
      (run.ending = .exit 0 → run.output ≠ [] ∧ ∃ log : List Event,
        c.errorLines run
          = log.map fun e => e.source ++ " - " ++ e.level.name ++ " - " ++ e.message) ∧
      (run.ending ≠ .exit 0 → run.output = []) ∧
      (run.ending = .exit 1 → ∃ (log : List Event) (report : List String),
        c.errorLines run
          = (log.map fun e => e.source ++ " - " ++ e.level.name ++ " - " ++ e.message) ++ report ∧
        (report =
            ["Usage:",
             "    python -m cloudkit.cli format <epoch_millis> [format]",
             "    python -m cloudkit.cli parse \"<date string>\" [format]",
             "    python -m cloudkit.cli formats"] ∨
          ∃ message, report = ["Error: " ++ message])) ∧
      (console.settings.isValid = true → run.ending.isUncaught = false) := by
  have start := Console.eq_start starts
  generalize console.settings = s at start ⊢
  subst start
  obtain ⟨before, goes, first, now⟩ := Console.exists_run (s := s) here
  obtain ⟨exits, answers, silent, complains⟩ :=
    (goes.shape_run asScript argv).outputs (before.run asScript argv).1
  have uncaught := goes.isUncaught_run_iff asScript argv
  rw [first, lookup_levelRanks_eq_none_iff] at uncaught
  exact ⟨(before.run asScript argv).1, (before.run asScript argv).2, now, uncaught,
    fun ends => ⟨exits ends, goes.exit_zero_run_iff ends⟩, answers, silent, complains,
    fun valid => goes.isUncaught_run_of_isValid valid asScript argv⟩

/-- With the pivot 100 and a level that the log does not know, the second run gets to its command,
    reads its number and finds the default format under an empty name, and fails only then. -/
theorem runs_end_without_pivot :
    (Settings.ofEnvironment ⟨some " Asctime", some "1_00", some "loud"⟩).map Console.start
      = .ok (Console.start ⟨" Asctime", 100, "loud"⟩) ∧
    ∃ c run, ((Console.start ⟨" Asctime", 100, "loud"⟩).runAll
        [(true, ["formats"]), (false, ["format", " +1_0 ", ""])])[1]? = some (c, run) ∧
      run.ending.isUncaught = true ∧ run.output = [] := by
  have starts : (Settings.ofEnvironment ⟨some " Asctime", some "1_00", some "loud"⟩).map
      Console.start = .ok (Console.start ⟨" Asctime", 100, "loud"⟩) := rfl
  refine ⟨starts, ?_⟩
  obtain ⟨c, run, now, uncaught, -, -, silent, -⟩ := runs_end _ _
    [(true, ["formats"]), (false, ["format", " +1_0 ", ""])] 1 false ["format", " +1_0 ", ""] starts
    rfl
  have number : Text.parseInt " +1_0 " = .ok 10 := rfl
  have default : WireFormat.ofName? " Asctime" = some .asctime := by decide +kernel
  have fails :=
    uncaught.mpr (.inr ⟨by decide, .asctime, .write 10, .format number (.empty default)⟩)
  refine ⟨c, run, now, fails, silent ?_⟩
  intro zero
  exact absurd fails (by simp [zero, Ending.isUncaught])

end CloudClient
