import CloudClient.Proofs.Console.Ending

namespace CloudClient

/-!
# The check of the settings and what they are used for

The check looks at the pivot and at the level.  It does not look at the default format, which is
looked up when a command line names none.

* `Settings.reaches_format_default_iff` — a command line that writes a number and names no format
  reaches the default one;
* `Console.GoesBy.exit_zero_format_default_iff` — it is answered exactly if this one is found;
* `format_by_default_iff` — so it is in a fresh process whose settings pass the check;
* `check_passes_unknown_default_format` — the check passes a name that is none.
-/

/-- A command line that writes a number and names no format reaches the default one. -/
theorem Settings.reaches_format_default_iff {s : Settings} {word : String} {n : Int}
    {F : WireFormat}
    {e : Errand} (number : Text.parseInt word = .ok n) : s.Reaches ["format", word] F e ↔
      e = .write n ∧ WireFormat.ofName? s.defaultFormat = some F := by
  rw [reaches_format_iff number]
  refine and_congr_right fun _ => ⟨?_, .absent⟩
  rintro ⟨default⟩
  exact default

namespace Console.GoesBy

variable {c : Console} {s : Settings} {asScript : Bool} {word : String} {n : Int}
  {argv : List String}

/-- A run that does not fail and prints no answer complains. -/
theorem exit_one_run_iff (goes : c.GoesBy s)
    (ends : (c.run asScript argv).2.ending.isUncaught = false) :
    (c.run asScript argv).2.ending = .exit 1 ↔ ¬ (c.run asScript argv).2.ending = .exit 0 := by
  obtain ⟨exits, -⟩ := (goes.shape_run asScript argv).outputs c
  rcases exits ends with exit | exit <;> simp [exit]

/-- If such a command line does not fail, it is answered exactly if the default format is found. -/
theorem exit_zero_format_default_iff (goes : c.GoesBy s) (number : Text.parseInt word = .ok n)
    (range : firstMilli ≤ n ∧ n ≤ lastMilli)
    (ends : (c.run asScript ["format", word]).2.ending.isUncaught = false) :
    (c.run asScript ["format", word]).2.ending = .exit 0 ↔
      ∃ F, WireFormat.ofName? s.defaultFormat = some F := by
  rw [goes.exit_zero_run_iff ends]
  refine ⟨?_, ?_⟩
  · -- Whatever the errand is, it is in the default format.
    rintro (⟨arguments, list⟩ | ⟨F, m, reaches, -⟩ | ⟨F, t, p, i, reaches, -⟩)
    · exact absurd list (by simp)
    · exact ⟨F, ((Settings.reaches_format_default_iff number).mp reaches).2⟩
    · exact ⟨F, ((Settings.reaches_format_default_iff number).mp reaches).2⟩
  · rintro ⟨F, default⟩
    have reaches := (Settings.reaches_format_default_iff (e := .write n) number).mpr ⟨rfl, default⟩
    exact .inr (.inl ⟨F, n, reaches, range⟩)

end Console.GoesBy

/-- In a fresh process whose settings pass the check, the first run reads any number of milliseconds
    of the years 1 to 9999.  It ends with the status 0 exactly if the name of the default format is
    the name of a format, and with 1 otherwise. -/
theorem format_by_default_iff (env : Environment) (console : Console) (asScript : Bool)
    (word : String)
    (n : Int) (starts : (Settings.ofEnvironment env).map Console.start = .ok console)
    (valid : console.settings.isValid = true) (number : Text.parseInt word = .ok n)
    (range : -62135596800000 ≤ n ∧ n ≤ 253402300799999) :
    ((console.run asScript ["format", word]).2.ending = .exit 0 ↔
      ∃ F, WireFormat.ofName? console.settings.defaultFormat = some F) ∧
    ((console.run asScript ["format", word]).2.ending = .exit 1 ↔
      WireFormat.ofName? console.settings.defaultFormat = none) := by
  have start := Console.eq_start starts
  generalize console.settings = s at start valid ⊢
  subst start
  have goes := Console.goesBy_start s
  have ends := goes.isUncaught_run_of_isValid valid asScript ["format", word]
  have answered := goes.exit_zero_format_default_iff number range ends
  refine ⟨answered, ?_⟩
  rw [goes.exit_one_run_iff ends, answered, not_exists, ← Option.eq_none_iff_forall_ne_some]

/-- The check passes with the default format unset, and a number with spaces around it is
    answered. -/
theorem format_by_default_unset :
    (Settings.ofEnvironment ⟨none, none, some "info"⟩).map Console.start
      = .ok (Console.start ⟨"rfc1123", 69, "info"⟩) ∧
    (⟨"rfc1123", 69, "info"⟩ : Settings).isValid = true ∧ Text.parseInt " -1 " = .ok (-1) ∧
    ((Console.start ⟨"rfc1123", 69, "info"⟩).run false ["format", " -1 "]).2.ending = .exit 0 := by
  have starts : (Settings.ofEnvironment ⟨none, none, some "info"⟩).map Console.start
      = .ok (Console.start ⟨"rfc1123", 69, "info"⟩) := rfl
  have valid : (⟨"rfc1123", 69, "info"⟩ : Settings).isValid = true := by decide +kernel
  have number : Text.parseInt " -1 " = .ok (-1) := rfl
  have default : WireFormat.ofName? "rfc1123" = some .rfc1123 := by decide +kernel
  refine ⟨starts, valid, number, ?_⟩
  exact (format_by_default_iff _ _ false " -1 " (-1) starts valid number (by decide)).1.mpr
    ⟨.rfc1123, default⟩

/-- A default format that is none passes the check all the same, and then the number 0 is not
    answered. -/
theorem check_passes_unknown_default_format :
    (Settings.ofEnvironment ⟨some "bogus", none, none⟩).map Console.start
      = .ok (Console.start ⟨"bogus", 69, "INFO"⟩) ∧
    (⟨"bogus", 69, "INFO"⟩ : Settings).isValid = true ∧ Text.parseInt "0" = .ok 0 ∧
    ((Console.start ⟨"bogus", 69, "INFO"⟩).run false ["format", "0"]).2.ending = .exit 1 :=
  ⟨rfl, by decide +kernel, rfl, rfl⟩

end CloudClient
