import CloudClient.Proofs.Console.Ending
import CloudClient.Proofs.Wire.RoundTrip

namespace CloudClient

/-!
# Round trips on the command line

What the command to write prints is read back by the command to read, with the same words for the
format.

* `Settings.Yields.eq_settle` — a run with an errand settles it, if the pivot is one;
* `Errand.answer_write`, `Errand.answer_read_render` — what is written, and what is read of it;
* `Console.Prints` — wherever a command line comes among the runs of a process, its run prints a
  line;
* `Console.prints_of_answer` — it prints the answer of its errand;
* `read_prints_what_was_written` — the round trip.
-/

namespace Errand

variable {p : CenturyPivot} {F : WireFormat} {e : Errand} {i : Instant} {line : String}

/-- An errand with an answer is settled by printing it. -/
theorem settle_of_answer (answer : e.answer p F = .ok line) (events : List Event) :
    e.settle p F events = ⟨.exit 0, [line], events.map .event⟩ := by
  unfold settle
  rw [answer]

/-- The number of an instant is written as its text. -/
theorem answer_write (p : CenturyPivot) (F : WireFormat) (i : Instant) :
    (write i.millis).answer p F = .ok (F.render i) := by
  simp only [answer, i.ofMillis?_millis]

/-- Of the text of an instant the number is read up to the resolution of the format, if the text
    tells the year. -/
theorem answer_read_render (covered : F = .rfc822 → p.Covers i.civil.date.year) :
    (read (F.render i)).answer p F = .ok (toString (F.floor i).millis) := by
  have back := WireFormat.parse_render_floor_iff.mpr covered
  rw [CenturyPivot.parse_text_eq_ok_iff] at back
  simp only [answer, back]

end Errand

/-- A run with an errand settles it, if the pivot is one. -/
theorem Settings.Yields.eq_settle {s : Settings} {argv : List String} {run : Run} {F : WireFormat}
    {e : Errand} {p : CenturyPivot} (yields : s.Yields argv run) (reaches : s.Reaches argv F e)
    (ok : CenturyPivot.ofInt s.centuryPivot = .ok p) : ∃ events, run = e.settle p F events := by
  cases yields with
  | listed events command some => exact absurd (command ▸ reaches) (not_reaches_formats _)
  | settled events reaches' ok' =>
    obtain ⟨rfl, rfl⟩ := reaches.unique reaches'
    obtain rfl := Except.ok.inj (ok.symm.trans ok')
    exact ⟨events, rfl⟩
  | stopped events reaches' bad => exact absurd (bad.symm.trans ok) (by simp)
  | declined complaint events idle command => exact absurd reaches (idle F e)

namespace Console

/-- Wherever the command line comes among the runs of the process, its run ends with the status 0
    and prints this line alone. -/
def Prints (c : Console) (argv : List String) (line : String) : Prop :=
  ∀ (runs : List (Bool × List String)) (k : Nat) (asScript : Bool),
    runs[k]? = some (asScript, argv) →
      ∃ after run, (c.runAll runs)[k]? = some (after, run) ∧ run.ending = .exit 0 ∧
        run.output = [line]

/-- A command line prints the answer of its errand. -/
theorem prints_of_answer {s : Settings} {rank : Nat} {argv : List String} {F : WireFormat}
    {e : Errand} {p : CenturyPivot} {line : String}
    (level : levelRanks.lookup (upperName s.logLevel) = some rank) (reaches : s.Reaches argv F e)
    (ok : CenturyPivot.ofInt s.centuryPivot = .ok p) (answer : e.answer p F = .ok line) :
    (start s).Prints argv line := by
  intro runs k asScript here
  have there := getElem?_runAll (c := start s) here
  have logs := (logsFrom_start level).after (runs.take k)
  have yields := Settings.yields_dispatch (logs.goes.set (some rank)) asScript argv
  rw [← logs.run_eq] at yields
  obtain ⟨events, settled⟩ := yields.eq_settle reaches ok
  rw [Errand.settle_of_answer answer] at settled
  exact ⟨_, _, there, congrArg Run.ending settled, congrArg Run.output settled⟩

end Console

/-- In the process that an environment starts, with a level that the log knows and a pivot that is
    one, a word that is read as a number of milliseconds of the years 1 to 9999 is written in the
    format that the words after it name, as one line of ASCII.  This line, with the same words after
    it, is read back as the number, in ISO 8601 with milliseconds, or as the whole second before it,
    in the other formats with a full year, and with two digits of the year if the pivot covers the
    year.  Both runs end with the status 0 and print nothing else, whatever runs there are
    besides. -/
theorem read_prints_what_was_written (env : Environment) (console : Console) (rank : Nat)
    (word : String) (n : Int) (words : List String) (F : WireFormat)
    (starts : (Settings.ofEnvironment env).map Console.start = .ok console)
    (level : levelRanks.lookup (upperName console.settings.logLevel) = some rank)
    (pivot : 0 ≤ console.settings.centuryPivot ∧ console.settings.centuryPivot ≤ 99)
    (number : Text.parseInt word = .ok n)
    (range : -62135596800000 ≤ n ∧ n ≤ 253402300799999)
    (names : console.settings.Names words F) :
    let i : Instant := ⟨n, range.1, range.2⟩
    ∃ t : String, t.toList.all Text.isPlain = true ∧
      console.Prints ("format" :: word :: words) t ∧
      ((F = .rfc822 → 1900 + console.settings.centuryPivot ≤ i.civil.date.year ∧
          i.civil.date.year ≤ 1999 + console.settings.centuryPivot) →
        console.Prints ("parse" :: t :: words)
          (toString (if F = .iso8601 then n else 1000 * (n / 1000)))) := by
  have start := Console.eq_start starts
  generalize console.settings = s at start level pivot names ⊢
  subst start
  intro i
  obtain ⟨p, ok⟩ := CenturyPivot.isOk_ofInt_iff.mpr pivot
  refine ⟨F.render i, F.all_isPlain_render i, ?_, ?_⟩
  · exact Console.prints_of_answer level (.format number names) ok (Errand.answer_write p F i)
  · intro year
    have covered : F = .rfc822 → p.Covers i.civil.date.year := by
      intro short
      have bounds := year short
      rw [← CenturyPivot.value_of_ofInt ok] at bounds
      unfold CenturyPivot.Covers
      omega
    have answer := Errand.answer_read_render covered
    rw [WireFormat.millis_floor] at answer
    exact Console.prints_of_answer level (.parse names) ok answer

/-- With an accepted level in lower case and RFC 822 by default, the last millisecond of 1969 is
    written and read back as the second before the epoch. -/
theorem read_prints_what_was_written_before_epoch :
    (Settings.ofEnvironment ⟨some "rfc822", none, some "debug"⟩).map Console.start
      = .ok (Console.start ⟨"rfc822", 69, "debug"⟩) ∧
    levelRanks.lookup (upperName "debug") = some 10 ∧ Text.parseInt " -0_1 " = .ok (-1) ∧
    (Console.start ⟨"rfc822", 69, "debug"⟩).settings.Names [""] .rfc822 ∧
    ∃ t : String, (Console.start ⟨"rfc822", 69, "debug"⟩).Prints ["format", " -0_1 ", ""] t ∧
      (Console.start ⟨"rfc822", 69, "debug"⟩).Prints ["parse", t, ""] "-1000" := by
  have starts : (Settings.ofEnvironment ⟨some "rfc822", none, some "debug"⟩).map Console.start
      = .ok (Console.start ⟨"rfc822", 69, "debug"⟩) := rfl
  have level : levelRanks.lookup (upperName "debug") = some 10 := by decide +kernel
  have number : Text.parseInt " -0_1 " = .ok (-1) := rfl
  have names : (Console.start ⟨"rfc822", 69, "debug"⟩).settings.Names [""] .rfc822 :=
    .empty (by decide +kernel)
  obtain ⟨t, -, written, back⟩ :=
    read_prints_what_was_written _ _ 10 " -0_1 " (-1) [""] .rfc822 starts
    level (by decide) number (by decide) names
  exact ⟨starts, level, number, names, t, written, back fun _ => by decide +kernel⟩

end CloudClient
