import CloudClient.Proofs.Console.Ending

namespace CloudClient

/-!
# A run beside the same run in a fresh process

The runs of a process share the log and the codecs of the shared registry.  A run after others is
still the one that a fresh process would make, up to the report on a codec that is there already.

* `Run.without` — a run without the reports on new codecs for some formats;
* `Run.reports` — the reports on a new codec for one format;
* `creationLine`, `Run.Tidy` — the line of such a report, and the runs whose reports on new codecs
  all have it;
* `Run.Tidy.errorLines_without`, `Run.Tidy.count_errorLines` — these reports as lines;
* `Console.has` — there is a codec for a format;
* `Console.GoesBy.dispatch_eq_without` — a command line does the same as before any codec was made,
  without the reports on those that there are;
* `Settings.Fetches`, `Console.Fetched` — a command line fetches the codec for a format, and what
  this leaves;
* `Console.LogsFrom.run_eq_without`, `Console.LogsFrom.fetched_run` — the same of a run;
* `Console.LogsFrom.has_after`, `Console.LogsFrom.sum_count_runAll_le` — which codecs there are
  after some runs, and how often one is reported;
* `run_like_alone` — all this together.
-/

/-! ### Reports on new codecs -/

/-- The format of the new codec that the event reports. -/
def Event.created? : Event → Option WireFormat
  | codecCreated F _ => some F
  | layoutMismatch .. | fieldOutOfRange .. | delegateCreated .. | commandStarted .. => none

/-- The format of the new codec that the notice reports. -/
def Notice.created? : Notice → Option WireFormat
  | event e => e.created?
  | complaint _ => none

theorem Notice.created?_eq_some_iff {n : Notice} {F : WireFormat} :
    n.created? = some F ↔ ∃ kind, n = .event (.codecCreated F kind) := by
  cases n with
  | complaint c => simp [created?]
  | event e => cases e <;> simp [created?, Event.created?]

namespace Run

/-- The run without the reports on new codecs for these formats. -/
def without (formats : WireFormat → Bool) (r : Run) : Run :=
  { r with notices := r.notices.filter fun n => !n.created?.any formats }

/-- The reports on a new codec for the format. -/
def reports (F : WireFormat) (r : Run) : List Notice :=
  r.notices.filter fun n => n.created? = some F

variable {r : Run} {f g : WireFormat → Bool} {F : WireFormat}

@[simp] theorem ending_without : (r.without f).ending = r.ending := rfl

@[simp] theorem output_without : (r.without f).output = r.output := rfl

/-- Only the formats matter of which there is a report. -/
theorem without_congr (same : ∀ F, r.reports F ≠ [] → f F = g F) : r.without f = r.without g := by
  have alike : ∀ n ∈ r.notices, n.created?.any f = n.created?.any g := by
    intro n mem
    cases created : n.created? with
    | none => rfl
    | some F => exact same F (List.ne_nil_of_mem (List.mem_filter.mpr ⟨mem, by simp [created]⟩))
  unfold without
  rw [List.filter_congr fun n mem => congrArg Bool.not (alike n mem)]

theorem without_none : r.without (fun _ => false) = r := by
  unfold without
  rw [List.filter_eq_self.mpr]
  intro n _
  cases n.created? <;> rfl

/-- A log shows the reports on a new codec if it shows events of their level. -/
theorem reports_shown (rank : Nat) : (r.shown rank).filter (fun n => n.created? = some F)
    = if rank ≤ Level.info.rank then r.reports F else [] := by
  rw [shown, List.filter_comm]
  show (r.reports F).filter _ = _
  -- All these reports are of one level.
  have level : ∀ n ∈ r.reports F, ∃ e, n = .event e ∧ e.level = .info := by
    intro n mem
    have created : n.created? = some F := by simpa using (List.mem_filter.mp mem).2
    obtain ⟨kind, rfl⟩ := Notice.created?_eq_some_iff.mp created
    exact ⟨_, rfl, rfl⟩
  split
  next shows =>
    rw [List.filter_eq_self]
    intro n mem
    obtain ⟨e, rfl, info⟩ := level n mem
    simpa [info] using shows
  next hides =>
    rw [List.filter_eq_nil_iff]
    intro n mem
    obtain ⟨e, rfl, info⟩ := level n mem
    simpa [info] using hides

end Run

/-! ### Their lines -/

/-- Texts differ that begin with texts that do. -/
theorem Text.append_ne_append {a b x y : String} {n : Nat} (left : n ≤ a.toList.length)
    (right : n ≤ b.toList.length) (differ : a.toList.take n ≠ b.toList.take n) :
    a ++ x ≠ b ++ y := by
  intro same
  have heads := congrArg (fun s : String => s.toList.take n) same
  simp only [String.toList_append, List.take_append_of_le_length left,
    List.take_append_of_le_length right] at heads
  exact differ heads

/-- The line on a new codec for the format that goes by a simple service. -/
def creationLine (F : WireFormat) : String :=
  "cloudkit.date.codec_factory - INFO - Created " ++ F.name ++ " codec: " ++ F.codecName ++
    "(wire_format=" ++ F.name ++ ", date_service=SimpleDateService)"

theorem creationLine_inj {F G : WireFormat} (same : creationLine F = creationLine G) : F = G := by
  revert same
  cases F <;> cases G <;> decide +kernel

theorem creationLine_eq_append (F : WireFormat) :
    ∃ rest, creationLine F = "cloudkit.date.codec_factory" ++ rest := by
  refine ⟨" - INFO - Created " ++ F.name ++ " codec: " ++ F.codecName ++
    "(wire_format=" ++ F.name ++ ", date_service=SimpleDateService)", ?_⟩
  simp only [← String.append_assoc]
  rfl

/-- The other events have other sources. -/
theorem Event.source_of_created?_eq_none {e : Event} (other : e.created? = none) :
    e.source = "cloudkit.date.date_service" ∨ e.source = "cloudkit.cli" ∨
      e.source = "__main__" := by
  cases e with
  | codecCreated F codec => exact absurd other (by simp [created?])
  | layoutMismatch | fieldOutOfRange | delegateCreated => exact .inl rfl
  | commandStarted asScript =>
    cases asScript
    · exact .inr (.inl rfl)
    · exact .inr (.inr rfl)

theorem Event.line_ne_creationLine {e : Event} (other : e.created? = none) (F : WireFormat) :
    e.line ≠ creationLine F := by
  obtain ⟨rest, line⟩ := creationLine_eq_append F
  simp only [line, Event.line, String.append_assoc]
  -- The sources differ in one of their first characters.
  rcases source_of_created?_eq_none other with source | source | source <;> rw [source]
  · apply Text.append_ne_append (n := 15) <;> decide +kernel
  · apply Text.append_ne_append (n := 10) <;> decide +kernel
  · apply Text.append_ne_append (n := 1) <;> decide +kernel

namespace Notice

variable {n : Notice} {F G : WireFormat}

theorem lines_codecCreated :
    (event (.codecCreated F ⟨true, F, .simple⟩)).lines = [creationLine F] := by
  have front : "cloudkit.date.codec_factory" ++ " - " ++ "INFO" ++ " - " ++ "Created "
      = "cloudkit.date.codec_factory - INFO - Created " := by decide +kernel
  have back : ", date_service=" ++ "SimpleDateService" ++ ")"
      = ", date_service=SimpleDateService)" := by decide +kernel
  have spelled : (event (.codecCreated F ⟨true, F, .simple⟩)).lines
      = ["cloudkit.date.codec_factory" ++ " - " ++ "INFO" ++ " - " ++
          (Event.codecCreated F ⟨true, F, .simple⟩).message] := rfl
  have service : ServiceKind.simple.name = "SimpleDateService" := rfl
  refine Eq.trans ?_ (congrArg₂ (fun x y =>
    [x ++ F.name ++ " codec: " ++ F.codecName ++ "(wire_format=" ++ F.name ++ y]) front back)
  rw [spelled, Event.message_codecCreated, service]
  simp only [String.append_assoc]

/-- No other notice has this line. -/
theorem creationLine_notMem_lines (other : n.created? = none) : creationLine F ∉ n.lines := by
  cases n with
  | event e =>
    intro mem
    exact Event.line_ne_creationLine other F (List.mem_singleton.mp mem).symm
  | complaint c =>
    rcases c.lines_cases with usage | ⟨message, error⟩
    · have absent : creationLine F ∉ usageLines := by cases F <;> decide +kernel
      exact fun mem => absent (usage ▸ mem)
    · obtain ⟨rest, line⟩ := creationLine_eq_append F
      intro mem
      have same : creationLine F = "Error: " ++ message := List.mem_singleton.mp (error ▸ mem)
      rw [line] at same
      revert same
      apply Text.append_ne_append (n := 1) <;> decide +kernel

/-- If the notice reports a new codec, this is one made for its format, over a simple service. -/
def Tidy (n : Notice) : Prop :=
  ∀ F, n.created? = some F → n = .event (.codecCreated F ⟨true, F, .simple⟩)

/-- The line tells the report from other notices. -/
theorem Tidy.lines_cases (tidy : n.Tidy) (F : WireFormat) :
    n.created? = some F ∧ n.lines = [creationLine F] ∨
      n.created? ≠ some F ∧ creationLine F ∉ n.lines := by
  cases created : n.created? with
  | none => exact .inr ⟨by simp, creationLine_notMem_lines created⟩
  | some G =>
    rw [tidy G created, lines_codecCreated]
    by_cases same : G = F
    · subst same
      exact .inl ⟨rfl, rfl⟩
    · refine .inr ⟨by simpa using same, ?_⟩
      rw [List.mem_singleton]
      exact fun line => same (creationLine_inj line).symm

end Notice

namespace Run

variable {r : Run} {ns : List Notice}

theorem flatMap_lines_filter (tidy : ∀ n ∈ ns, n.Tidy) (F : WireFormat) :
    (ns.filter fun n => !n.created?.any fun G => G = F).flatMap Notice.lines
      = (ns.flatMap Notice.lines).filter fun line => line ≠ creationLine F := by
  induction ns with
  | nil => rfl
  | cons n rest ih =>
    have later := ih fun m mem => tidy m (List.mem_cons_of_mem n mem)
    rw [List.flatMap_cons, List.filter_append, ← later]
    rcases (tidy n List.mem_cons_self).lines_cases F with ⟨created, lines⟩ | ⟨other, unsaid⟩
    · simp [created, lines]
    · have kept : (!n.created?.any fun G => G = F) = true := by
        cases created : n.created? <;> simp_all
      have whole : n.lines.filter (fun line => line ≠ creationLine F) = n.lines := by
        rw [List.filter_eq_self]
        intro line mem
        simp only [decide_eq_true_eq]
        rintro rfl
        exact unsaid mem
      rw [List.filter_cons (p := fun n : Notice => !n.created?.any fun G => G = F), if_pos kept,
        List.flatMap_cons, whole]

theorem count_flatMap_lines (tidy : ∀ n ∈ ns, n.Tidy) (F : WireFormat) :
    (ns.flatMap Notice.lines).count (creationLine F)
      = (ns.filter fun n => n.created? = some F).length := by
  induction ns with
  | nil => rfl
  | cons n rest ih =>
    have later := ih fun m mem => tidy m (List.mem_cons_of_mem n mem)
    rw [List.flatMap_cons, List.count_append, later]
    rcases (tidy n List.mem_cons_self).lines_cases F with ⟨created, lines⟩ | ⟨other, unsaid⟩
    · rw [lines, List.count_singleton_self, List.filter_cons_of_pos (by simpa using created),
        List.length_cons, Nat.add_comm]
    · rw [List.count_eq_zero.mpr unsaid, List.filter_cons_of_neg (by simpa using other),
        Nat.zero_add]

/-- All codecs that the run reports are made for their formats, over simple services. -/
def Tidy (r : Run) : Prop := ∀ n ∈ r.notices, n.Tidy

/-- Without the reports on a new codec for the format, the error output is without their line. -/
theorem Tidy.errorLines_without (tidy : r.Tidy) (c : Console) (F : WireFormat) :
    c.errorLines (r.without fun G => G = F)
      = (c.errorLines r).filter fun line => line ≠ creationLine F := by
  rw [Console.errorLines, Console.errorLines, shown, without, List.filter_comm]
  exact flatMap_lines_filter (fun n mem => tidy n (List.mem_of_mem_filter mem)) F

/-- The error output has this line once for each report that the log shows. -/
theorem Tidy.count_errorLines (tidy : r.Tidy) (c : Console) (F : WireFormat) :
    (c.errorLines r).count (creationLine F)
      = if c.threshold.getD unsetThreshold ≤ Level.info.rank then (r.reports F).length else 0 := by
  have shown : ∀ n ∈ r.shown (c.threshold.getD unsetThreshold), n.Tidy :=
    fun n mem => tidy n (List.mem_of_mem_filter mem)
  rw [Console.errorLines, count_flatMap_lines shown, reports_shown]
  split <;> rfl

end Run

/-! ### The reports of an errand -/

/-- A simple service reports no codec. -/
theorem CenturyPivot.created?_fulfil {p : CenturyPivot} {F : WireFormat}
    {request : Except DateError CodecRequest} {x : Event} (mem : x ∈ (p.fulfil F request).events) :
    x.created? = none := by
  cases request with
  | error e => exact absurd mem (by simp [fulfil])
  | ok request =>
    have silent := List.filter_eq_nil_iff.mp (p.creations_answer (request.at F)) x mem
    cases x <;> first | rfl | exact absurd rfl silent

namespace Errand

variable (p : CenturyPivot) (F : WireFormat) (e : Errand) (events : List Event)

theorem without_settle (formats : WireFormat → Bool) : (e.settle p F events).without formats
    = e.settle p F (events.filter fun x => !x.created?.any formats) := by
  unfold settle
  cases e.answer p F with
  | ok line =>
    simp only [Run.without, List.filter_map]
    rfl
  | error complaint =>
    simp only [Run.without, Run.refused, List.filter_append, List.filter_map]
    rfl

theorem reports_settle (G : WireFormat) : (e.settle p F events).reports G
    = (events.filter fun x => x.created? = some G).map .event := by
  unfold settle
  cases e.answer p F with
  | ok line =>
    simp only [Run.reports, List.filter_map]
    rfl
  | error complaint =>
    simp only [Run.reports, Run.refused, List.filter_append, List.filter_map]
    exact List.append_nil _

end Errand

namespace Console

variable {c d : Console} {s : Settings} {F G : WireFormat} {argument : Option String} {e : Errand}
  {argv : List String}

/-! ### The codecs that there are -/

/-- The shared registry has a codec for the format. -/
def has (c : Console) (F : WireFormat) : Bool := c.shared.made.any fun r => (r.mark? F).isSome

/-- A registry that is made only now has none. -/
theorem has_of_get {r : Registry} (got : c.shared.get = .ok r) (F : WireFormat) :
    c.has F = (r.mark? F).isSome := by
  unfold has
  unfold SharedRegistry.get at got
  cases made : c.shared.made with
  | some q =>
    rw [made] at got
    obtain rfl := Except.ok.inj got
    rfl
  | none =>
    rw [made] at got
    cases service : Service.ofPivot c.shared.configured none with
    | error e => exact absurd got (by simp [service, Except.map])
    | ok service' =>
      rw [service] at got
      obtain rfl := Except.ok.inj got
      rfl

/-! ### The same without earlier runs -/

/-- An errand is done as by a console whose shared registry is not made yet, without the reports on
    the codecs that there are. -/
theorem GoesBy.exchange_eq_without (goes : c.GoesBy s) (fresh : d.GoesBy s)
    (unmade : d.shared.made = none) (argument : Option String) (e : Errand) :
    (c.exchange argument e.request e.beyond).2
      = (d.exchange argument e.request e.beyond).2.without c.has := by
  have typed : c.typedFormat argument = d.typedFormat argument := by
    unfold typedFormat
    rw [goes.settings_eq, fresh.settings_eq]
  cases found : WireFormat.ofName? (c.typedFormat argument) with
  | none =>
    rw [exchange_of_unknown found, exchange_of_unknown (typed ▸ found), typed]
    rfl
  | some F =>
    cases pivot : CenturyPivot.ofInt s.centuryPivot with
    | error err =>
      rw [exchange_of_error found (goes.tied.get_eq_error (goes.configured_eq ▸ pivot)),
        exchange_of_error (typed ▸ found) (fresh.tied.get_eq_error (fresh.configured_eq ▸ pivot))]
      rfl
    | ok p =>
      obtain ⟨r, got, serves⟩ := goes.tied.get_eq_ok (goes.configured_eq ▸ pivot)
      obtain ⟨q, got', serves'⟩ := fresh.tied.get_eq_ok (fresh.configured_eq ▸ pivot)
      have lacks : (q.mark? F).isSome = false := by
        rw [← has_of_get got', has, unmade]
        rfl
      -- The service reports no codec, so only the report on the codec for this format can go.
      have silent : ((p.fulfil F e.request).events.filter fun x => !x.created?.any c.has)
          = (p.fulfil F e.request).events := by
        rw [List.filter_eq_self]
        intro x mem
        rw [CenturyPivot.created?_fulfil mem]
        rfl
      rw [exchange_of_serves found got serves, exchange_of_serves (typed ▸ found) got' serves',
        Errand.without_settle, List.filter_append, silent, serves.events_codecFor,
        serves'.events_codecFor, lacks, ← has_of_get got]
      cases has : c.has F <;> simp [Event.created?, has]

theorem GoesBy.perform_eq_without (goes : c.GoesBy s) (fresh : d.GoesBy s)
    (unmade : d.shared.made = none) (command : Command) (arguments : List String) :
    (c.perform command arguments).2 = (d.perform command arguments).2.without c.has := by
  by_cases list : command = .formats
  · subst list
    rfl
  cases words : valueAndFormat? arguments with
  | none =>
    rw [perform_of_misuse list words, perform_of_misuse list words]
    rfl
  | some found =>
    obtain ⟨value, argument⟩ := found
    obtain rfl := valueAndFormat?_eq_some_iff.mp words
    cases command with
    | formats => exact absurd rfl list
    | parse =>
      rw [perform_parse, perform_parse]
      exact goes.exchange_eq_without fresh unmade argument (.read value)
    | format =>
      rw [perform_format, perform_format]
      cases Text.parseInt value with
      | error fault => rfl
      | ok n => exact goes.exchange_eq_without fresh unmade argument (.write n)

/-- So is a command line. -/
theorem GoesBy.dispatch_eq_without (goes : c.GoesBy s) (fresh : d.GoesBy s)
    (unmade : d.shared.made = none) (asScript : Bool) (argv : List String) :
    (c.dispatch asScript argv).2 = (d.dispatch asScript argv).2.without c.has := by
  cases argv with
  | nil => rfl
  | cons word arguments =>
    cases found : Command.ofName? word with
    | none =>
      simp only [Console.dispatch, found]
      rfl
    | some command =>
      simp only [Console.dispatch, found, goes.perform_eq_without fresh unmade]
      rfl

end Console

/-! ### The codecs that are fetched -/

/-- The command line has a codec for the format fetched: it has an errand in the format, and the
    pivot is one. -/
def Settings.Fetches (s : Settings) (argv : List String) (F : WireFormat) : Prop :=
  (0 ≤ s.centuryPivot ∧ s.centuryPivot ≤ 99) ∧ ∃ e, s.Reaches argv F e

/-- What is left of a console and its run with regard to one format, of which a codec may have been
    fetched: there is one then, and it is reported if there was none before. -/
structure Console.Fetched (c : Console) (F : WireFormat) (fetches : Prop) (result : Console × Run) :
    Prop where
  has_iff : result.1.has F = true ↔ c.has F = true ∨ fetches
  reports_eq_single : fetches ∧ c.has F = false →
    result.2.reports F = [.event (.codecCreated F ⟨true, F, .simple⟩)]
  reports_eq_nil : ¬ (fetches ∧ c.has F = false) → result.2.reports F = []

namespace Console

variable {c : Console} {s : Settings} {F : WireFormat} {fetches : Prop}

/-- Where none is fetched, none is reported. -/
theorem fetched_of_idle {run : Run} (idle : ¬ fetches) (silent : run.reports F = []) :
    c.Fetched F fetches (c, run) where
  has_iff := by simp [idle]
  reports_eq_single := fun fetched => absurd fetched.1 idle
  reports_eq_nil := fun _ => silent

theorem GoesBy.fetched_exchange (goes : c.GoesBy s) (argument : Option String) (e : Errand) :
    c.Fetched F ((0 ≤ s.centuryPivot ∧ s.centuryPivot ≤ 99) ∧ s.Names argument.toList F)
      (c.exchange argument e.request e.beyond) := by
  rcases goes.exchange_cases argument e with
    ⟨unnamed, step⟩ | ⟨G, err, -, bad, step⟩ | ⟨G, p, r, names, ok, got, serves, step⟩ <;> rw [step]
  · exact fetched_of_idle (fun fetched => unnamed F fetched.2) rfl
  · have range := (CenturyPivot.ofInt_eq_error_iff.mp bad).1
    exact fetched_of_idle (fun fetched => range fetched.1) rfl
  have named :
      ((0 ≤ s.centuryPivot ∧ s.centuryPivot ≤ 99) ∧ s.Names argument.toList F) ↔ F = G := by
    refine ⟨fun fetched => fetched.2.unique names, ?_⟩
    rintro rfl
    exact ⟨CenturyPivot.isOk_ofInt_iff.mp ⟨p, ok⟩, names⟩
  -- Of the reports only the one of the registry is on a codec.
  have reports : (e.settle p G ((r.codecFor G).2.1 ++ (p.fulfil G e.request).events)).reports F
      = if F = G ∧ c.has F = false then [.event (.codecCreated F ⟨true, F, .simple⟩)] else [] := by
    have silent : ((p.fulfil G e.request).events.filter fun x => x.created? = some F) = [] := by
      rw [List.filter_eq_nil_iff]
      intro x mem
      simp [CenturyPivot.created?_fulfil mem]
    rw [Errand.reports_settle, List.filter_append, silent, List.append_nil, serves.events_codecFor,
      ← has_of_get got]
    by_cases same : F = G
    · subst same
      cases c.has F <;> simp [Event.created?]
    · cases c.has G <;> simp [Event.created?, same, Ne.symm same]
  refine ⟨?_, ?_, ?_⟩
  · rw [named, has_of_get got]
    exact r.isSome_mark?_call_iff (.codecFor G) F
  · rw [named]
    intro fetched
    rw [reports, if_pos fetched]
  · rw [named]
    intro unfetched
    rw [reports, if_neg unfetched]

theorem GoesBy.fetched_perform (goes : c.GoesBy s) (command : Command) (arguments : List String) :
    c.Fetched F (s.Fetches (command.name :: arguments) F) (c.perform command arguments) := by
  rcases c.perform_cases command arguments with
    ⟨rfl, lines, -, step⟩ | ⟨-, idle, complaint, step⟩ | ⟨-, argument, e, reaches, step⟩ <;>
    rw [step]
  · refine fetched_of_idle ?_ rfl
    rintro ⟨-, e, reaches⟩
    exact Settings.not_reaches_formats arguments reaches
  · refine fetched_of_idle ?_ rfl
    rintro ⟨-, e, reaches⟩
    exact idle s F e reaches
  · have fetches : s.Fetches (command.name :: arguments) F
        ↔ (0 ≤ s.centuryPivot ∧ s.centuryPivot ≤ 99) ∧ s.Names argument.toList F := by
      simp only [Settings.Fetches, reaches, exists_eq_left]
    rw [fetches]
    exact goes.fetched_exchange argument e

theorem GoesBy.fetched_dispatch (goes : c.GoesBy s) (asScript : Bool) (argv : List String) :
    c.Fetched F (s.Fetches argv F) (c.dispatch asScript argv) := by
  rcases c.dispatch_cases asScript argv with ⟨unknown, step⟩ | ⟨command, arguments, rfl, step⟩ <;>
    rw [step]
  · refine fetched_of_idle ?_ rfl
    rintro ⟨-, e, reaches⟩
    exact reaches.not_unknown unknown
  · -- The event in front is no report on a codec.
    obtain ⟨has, single, silent⟩ := goes.fetched_perform (F := F) command arguments
    exact ⟨has, single, silent⟩

/-! ### From run to run -/

variable {rank : Nat}

/-- A run is the one of a fresh process, without the reports on the codecs that there are. -/
theorem LogsFrom.run_eq_without (logs : c.LogsFrom s rank) (asScript : Bool) (argv : List String) :
    (c.run asScript argv).2 = ((start s).run asScript argv).2.without c.has := by
  rw [logs.run_eq, (logsFrom_start logs.level).run_eq]
  exact (logs.goes.set (some rank)).dispatch_eq_without ((goesBy_start s).set (some rank)) rfl
    asScript argv

theorem LogsFrom.fetched_run (logs : c.LogsFrom s rank) (F : WireFormat) (asScript : Bool)
    (argv : List String) : c.Fetched F (s.Fetches argv F) (c.run asScript argv) := by
  rw [logs.run_eq]
  obtain ⟨has, single, silent⟩ :=
    (logs.goes.set (some rank)).fetched_dispatch (F := F) asScript argv
  exact ⟨has, single, silent⟩

/-- After some runs there is a codec for a format if there was one before, or if one of them fetched
    it. -/
theorem LogsFrom.has_after (logs : c.LogsFrom s rank) (runs : List (Bool × List String)) :
    (c.after runs).has F = true ↔ c.has F = true ∨ ∃ r ∈ runs, s.Fetches r.2 F := by
  induction runs generalizing c with
  | nil => simp [Console.after]
  | cons r rest ih =>
    have later := ih (logs.run r.1 r.2)
    rw [(logs.fetched_run F r.1 r.2).has_iff, or_assoc] at later
    rw [List.exists_mem_cons_iff]
    exact later

/-- In a fresh process there is none before. -/
theorem has_after_start (level : levelRanks.lookup (upperName s.logLevel) = some rank)
    (runs : List (Bool × List String)) :
    ((start s).after runs).has F = true ↔ ∃ r ∈ runs, s.Fetches r.2 F := by
  rw [(logsFrom_start level).has_after]
  exact or_iff_right Bool.false_ne_true

/-- Its reports on new codecs are on codecs that are made for their format. -/
theorem LogsFrom.tidy_run (logs : c.LogsFrom s rank) (asScript : Bool) (argv : List String) :
    (c.run asScript argv).2.Tidy := by
  intro n mem F created
  obtain ⟨-, single, silent⟩ := logs.fetched_run F asScript argv
  have within : n ∈ (c.run asScript argv).2.reports F :=
    List.mem_filter.mpr ⟨mem, by simpa using created⟩
  by_cases fetched : s.Fetches argv F ∧ c.has F = false
  · rw [single fetched] at within
    exact List.mem_singleton.mp within
  · rw [silent fetched] at within
    exact absurd within List.not_mem_nil

/-- A run shows the line exactly if the log shows events of its level, and the run fetches the codec
    and there was none before. -/
theorem LogsFrom.count_run (logs : c.LogsFrom s rank) (F : WireFormat) (asScript : Bool)
    (argv : List String) :
    (rank ≤ Level.info.rank ∧ s.Fetches argv F ∧ c.has F = false →
      ((c.run asScript argv).1.errorLines (c.run asScript argv).2).count (creationLine F) = 1) ∧
    (¬ (rank ≤ Level.info.rank ∧ s.Fetches argv F ∧ c.has F = false) →
      ((c.run asScript argv).1.errorLines (c.run asScript argv).2).count (creationLine F) = 0) := by
  obtain ⟨-, single, silent⟩ := logs.fetched_run F asScript argv
  rw [(logs.tidy_run asScript argv).count_errorLines, logs.threshold_run, Option.getD_some]
  refine ⟨?_, ?_⟩
  · rintro ⟨shows, fetched⟩
    rw [if_pos shows, single fetched, List.length_singleton]
  · intro other
    split
    next shows => rw [silent fun fetched => other ⟨shows, fetched⟩, List.length_nil]
    next => rfl

/-- All runs together show the line for a format once at most, and not at all if there was a codec
    before. -/
theorem LogsFrom.sum_count_runAll_le (logs : c.LogsFrom s rank) (F : WireFormat)
    (runs : List (Bool × List String)) :
    ((c.runAll runs).map fun x => (x.1.errorLines x.2).count (creationLine F)).sum
      ≤ if c.has F then 0 else 1 := by
  induction runs generalizing c with
  | nil => simp [runAll]
  | cons r rest ih =>
    have later := ih (logs.run r.1 r.2)
    have has := (logs.fetched_run F r.1 r.2).has_iff
    obtain ⟨once, never⟩ := logs.count_run F r.1 r.2
    rw [runAll, history_cons, List.map_cons, List.sum_cons]
    by_cases now : rank ≤ Level.info.rank ∧ s.Fetches r.2 F ∧ c.has F = false
    · -- The line is shown now, so it is not shown again.
      rw [has.mpr (.inr now.2.1), if_pos rfl] at later
      rw [once now, now.2.2]
      exact Nat.add_le_add_left later 1
    · rw [never now, Nat.zero_add]
      refine later.trans ?_
      cases before : c.has F with
      | true => rw [has.mpr (.inl before)]
      | false => split <;> simp

/-- A run shows what it does in a fresh process without the reports on codecs that there are
    already.  Of these only the formats matter that it fetches the codecs for. -/
theorem LogsFrom.errorLines_run (logs : c.LogsFrom s rank) (asScript : Bool) (argv : List String)
    (formats : WireFormat → Bool) (same : ∀ F, s.Fetches argv F → c.has F = formats F) :
    (c.run asScript argv).1.errorLines (c.run asScript argv).2
      = ((start s).run asScript argv).1.errorLines
          (((start s).run asScript argv).2.without formats) := by
  have fresh := logsFrom_start logs.level
  have agree (F : WireFormat) (reports : ((start s).run asScript argv).2.reports F ≠ []) :
      c.has F = formats F := by
    apply same
    by_contra idle
    exact reports ((fresh.fetched_run F asScript argv).reports_eq_nil fun fetched => idle fetched.1)
  rw [errorLines, errorLines, logs.threshold_run, fresh.threshold_run, logs.run_eq_without,
    Run.without_congr agree]

end Console

/-- In the process that an environment starts, with a level that the log knows, whatever runs there
    are:

* each run ends and prints as the same run does in a fresh process;
* if no earlier run had an errand in the format of its errand, it shows the same on the error
  output; otherwise it shows the same without the line on a new codec for this format;
* this line is shown, and then once, exactly if the level lets it through, the pivot is one, and the
  run is the first one with an errand in the format;
* so all runs together show it once at most for each format. -/
theorem run_like_alone (env : Environment) (console : Console) (rank : Nat)
    (runs : List (Bool × List String))
    (starts : (Settings.ofEnvironment env).map Console.start = .ok console)
    (level : levelRanks.lookup (upperName console.settings.logLevel) = some rank) :
    let resolves (argv : List String) (F : WireFormat) := ∃ e, console.settings.Reaches argv F e
    let created (F : WireFormat) :=
      "cloudkit.date.codec_factory - INFO - Created " ++ F.name ++ " codec: " ++ F.codecName ++
        "(wire_format=" ++ F.name ++ ", date_service=SimpleDateService)"
    (∀ (k : Nat) (asScript : Bool) (argv : List String), runs[k]? = some (asScript, argv) →
      let before (F : WireFormat) := ∃ r ∈ runs.take k, resolves r.2 F
      let alone := console.run asScript argv
      ∃ c run, (console.runAll runs)[k]? = some (c, run) ∧
        run.ending = alone.2.ending ∧ run.output = alone.2.output ∧
        ((∀ F, resolves argv F → ¬ before F) → c.errorLines run = alone.1.errorLines alone.2) ∧
        (∀ F, resolves argv F → before F →
          c.errorLines run
            = (alone.1.errorLines alone.2).filter fun line => line ≠ created F) ∧
        ∀ F, let first := rank ≤ 20 ∧
            (0 ≤ console.settings.centuryPivot ∧ console.settings.centuryPivot ≤ 99) ∧
            resolves argv F ∧ ¬ before F
          (first → (c.errorLines run).count (created F) = 1) ∧
          (¬ first → (c.errorLines run).count (created F) = 0)) ∧
    ∀ F, ((console.runAll runs).map fun x => (x.1.errorLines x.2).count (created F)).sum ≤ 1 := by
  have start := Console.eq_start starts
  generalize console.settings = s at start level ⊢
  subst start
  have fresh := Console.logsFrom_start level
  intro resolves created
  refine ⟨?_, fun F => fresh.sum_count_runAll_le F runs⟩
  intro k asScript argv here before alone
  have there := Console.getElem?_runAll (c := Console.start s) here
  have logs := fresh.after (runs.take k)
  have has (F : WireFormat) (range : 0 ≤ s.centuryPivot ∧ s.centuryPivot ≤ 99) :
      ((Console.start s).after (runs.take k)).has F = true ↔ before F := by
    rw [Console.has_after_start level]
    simp only [Settings.Fetches, range, true_and, and_self, before, resolves]
  generalize (Console.start s).after (runs.take k) = c at there logs has
  refine ⟨(c.run asScript argv).1, (c.run asScript argv).2, there, ?_, ?_, ?_, ?_, ?_⟩
  · rw [logs.run_eq_without, Run.ending_without]
  · rw [logs.run_eq_without, Run.output_without]
  · intro new
    have lacks (F : WireFormat) (fetches : s.Fetches argv F) : c.has F = false := by
      rw [← Bool.not_eq_true, has F fetches.1]
      exact new F fetches.2
    have lines := logs.errorLines_run asScript argv (fun _ => false) lacks
    rwa [Run.without_none] at lines
  · intro F ⟨e, reaches⟩ already
    refine Eq.trans (logs.errorLines_run asScript argv (fun G => G = F) ?_)
      ((fresh.tidy_run asScript argv).errorLines_without _ F)
    rintro G ⟨range, e', reaches'⟩
    obtain ⟨rfl, -⟩ := reaches.unique reaches'
    rw [(has F range).mpr already]
    simp
  · intro F first
    have first_iff : first ↔ rank ≤ Level.info.rank ∧ s.Fetches argv F ∧ c.has F = false := by
      refine and_congr_right fun _ => ⟨?_, ?_⟩
      · rintro ⟨range, resolved, new⟩
        rw [← has F range, Bool.not_eq_true] at new
        exact ⟨⟨range, resolved⟩, new⟩
      · rintro ⟨⟨range, resolved⟩, new⟩
        rw [← Bool.not_eq_true, has F range] at new
        exact ⟨range, resolved, new⟩
    rw [first_iff]
    exact logs.count_run F asScript argv

/-- Under the default settings a number is written and then a text is refused, both in the default
    format.  Only the first run shows that its codec is made, as the second one would by itself. -/
theorem run_like_alone_by_default :
    (Settings.ofEnvironment ⟨none, none, none⟩).map Console.start
      = .ok (Console.start ⟨"rfc1123", 69, "INFO"⟩) ∧
    levelRanks.lookup (upperName "INFO") = some 20 ∧
    let console := Console.start ⟨"rfc1123", 69, "INFO"⟩
    let runs := [(false, ["format", "-1"]), (false, ["parse", "never", ""])]
    let alone := console.run false ["parse", "never", ""]
    let created := "cloudkit.date.codec_factory - INFO - Created " ++
      "RFC1123 codec: DateServiceRfc1123Codec(wire_format=RFC1123, date_service=SimpleDateService)"
    (∃ c run, (console.runAll runs)[0]? = some (c, run) ∧ (c.errorLines run).count created = 1) ∧
    (∃ c run, (console.runAll runs)[1]? = some (c, run) ∧ run.ending = alone.2.ending ∧
      (c.errorLines run).count created = 0 ∧
      c.errorLines run = (alone.1.errorLines alone.2).filter fun line => line ≠ created) ∧
    ((console.runAll runs).map fun x => (x.1.errorLines x.2).count created).sum ≤ 1 := by
  have starts : (Settings.ofEnvironment ⟨none, none, none⟩).map Console.start
      = .ok (Console.start ⟨"rfc1123", 69, "INFO"⟩) := rfl
  have level : levelRanks.lookup (upperName "INFO") = some 20 := by decide +kernel
  have default : WireFormat.ofName? "rfc1123" = some .rfc1123 := by decide +kernel
  refine ⟨starts, level, ?_⟩
  intro console runs alone created
  have spelled : creationLine .rfc1123 = created := by decide +kernel
  rw [← spelled]
  obtain ⟨each, once⟩ := run_like_alone _ console 20 runs starts level
  have first : console.settings.Reaches ["format", "-1"] .rfc1123 (.write (-1)) :=
    .format rfl (.absent default)
  have second : console.settings.Reaches ["parse", "never", ""] .rfc1123 (.read "never") :=
    .parse (.empty default)
  refine ⟨?_, ?_, once .rfc1123⟩
  · obtain ⟨c, run, there, -, -, -, -, counts⟩ := each 0 false ["format", "-1"] rfl
    exact ⟨c, run, there, (counts .rfc1123).1 ⟨by decide, by decide, ⟨_, first⟩, by simp⟩⟩
  · obtain ⟨c, run, there, ending, -, -, less, counts⟩ := each 1 false ["parse", "never", ""] rfl
    have before : ∃ r ∈ runs.take 1, ∃ e, console.settings.Reaches r.2 .rfc1123 e :=
      ⟨_, List.mem_singleton.mpr rfl, _, first⟩
    exact ⟨c, run, there, ending, (counts .rfc1123).2 fun new => new.2.2.2 before,
      less .rfc1123 ⟨_, second⟩ before⟩

end CloudClient
