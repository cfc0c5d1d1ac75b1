import CloudClient.Text.Numeral
import CloudClient.Text.Uppercase

namespace CloudClient

/-!
# Settings

What a user can set through environment variables.

* `Environment` — the variables, as far as they are set;
* `Settings`, `Settings.ofEnvironment` — the settings that follow from them;
* `Settings.problems`, `Settings.isValid` — a check of the settings;
* `Settings.summary` — the settings as lines of text.
-/

/-- The variables that are looked at, as far as they are set. -/
structure Environment where
  defaultFormat : Option String
  centuryPivot : Option String
  logLevel : Option String
deriving DecidableEq

/-- The settings. -/
structure Settings where
  /-- The name of the format that is used if none is given. -/
  defaultFormat : String
  /-- Two-digit years from this one on belong to the twentieth century. -/
  centuryPivot : Int
  /-- The name of the least level that the log shows. -/
  logLevel : String
deriving DecidableEq

/-- The name in upper case. -/
def upperName (s : String) : String := String.ofList (Text.upper s.toList)

namespace Settings

/-- The settings of an environment: a variable that is not set leaves the default, and one that is
    set to nothing does not. -/
def ofEnvironment (env : Environment) : Except Text.NumeralError Settings := do
  let pivot ← Text.parseInt (env.centuryPivot.getD "69")
  return ⟨env.defaultFormat.getD "rfc1123", pivot, env.logLevel.getD "INFO"⟩

/-- The names of levels, in upper case, that pass the check. -/
def checkedLevels : List String := ["DEBUG", "INFO", "WARNING", "ERROR", "CRITICAL"]

/-- What the check finds wrong. -/
def problems (s : Settings) : List String :=
  (if 0 ≤ s.centuryPivot ∧ s.centuryPivot ≤ 99 then []
    else ["RFC822_CENTURY_PIVOT=" ++ toString s.centuryPivot ++ " (expected 0-99)"]) ++
  (if upperName s.logLevel ∈ checkedLevels then [] else ["LOG_LEVEL=" ++ s.logLevel])

/-- The check finds nothing wrong. -/
def isValid (s : Settings) : Bool := s.problems.isEmpty

/-- The lines that the check prints. -/
def checkReport (s : Settings) : List String :=
  if s.isValid then []
  else ["Invalid environment variables: " ++ ", ".intercalate s.problems]

/-- The settings as lines of text. -/
def summary (s : Settings) : List String :=
  let rule := "".pushn '=' 60
  [rule, "cloudkit - Configuration Summary", rule,
   "Default date format:  " ++ s.defaultFormat,
   "RFC 822 pivot year:   " ++ toString s.centuryPivot,
   "Log level:            " ++ s.logLevel, rule]

end Settings

/-- Lines of text, each with its end. -/
def unlines (lines : List String) : String := String.join (lines.map (· ++ "\n"))

end CloudClient
