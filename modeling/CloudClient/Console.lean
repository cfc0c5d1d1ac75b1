import CloudClient.Codec.Shared
import CloudClient.Settings

namespace CloudClient

/-!
# The command line

Conversions between milliseconds from the epoch and texts in a wire format, run one after the other
in one process.

* `Command` — what a run can be asked for;
* `Console` — the process: its settings, the threshold of its log, and the shared registry;
* `Complaint`, `Notice` — what a run writes to the error output;
* `Ending`, `Run` — how a run ends and what it writes;
* `Console.run`, `Console.runAll` — one run, and the runs of one process.
-/

/-- What a run can be asked for. -/
inductive Command where
  | format
  | parse
  | formats
deriving DecidableEq, Repr

namespace Command

/-- The commands in the order in which the usage lists them. -/
def all : List Command := [format, parse, formats]

/-- The word for a command. -/
def name : Command → String
  | format => "format"
  | parse => "parse"
  | formats => "formats"

/-- The command of a word. -/
def ofName? (word : String) : Option Command := all.find? fun c => c.name = word

end Command

/-- The levels of the log by their names, in upper case. -/
def levelRanks : List (String × Nat) :=
  [("CRITICAL", 50), ("FATAL", 50), ("ERROR", 40), ("WARN", 30), ("WARNING", 30), ("INFO", 20),
   ("DEBUG", 10), ("NOTSET", 0)]

/-- The threshold of a log for which none was set. -/
def unsetThreshold : Nat := 30

/-- A process that runs the command line. -/
structure Console where
  settings : Settings
  /-- The rank from which on the log shows events, once the log is set up. -/
  threshold : Option Nat
  shared : SharedRegistry

/-- What a run says about a request that it does not fulfil. -/
inductive Complaint where
  | usage
  | notAnInteger (text : String)
  | unknownFormat (typed : String)
  | beyondCalendar (millis : Int)
  | malformed (report : MalformedDate)

/-- The usage. -/
def usageLines : List String :=
  ["Usage:",
   "    python -m cloudkit.cli format <epoch_millis> [format]",
   "    python -m cloudkit.cli parse \"<date string>\" [format]",
   "    python -m cloudkit.cli formats"]

/-- The report on a name that no format has. -/
def unknownFormatMessage (typed : String) : String := "Unknown date format: " ++ Text.quote typed

/-- The lines of a complaint. -/
def Complaint.lines : Complaint → List String
  | usage => usageLines
  | notAnInteger text => ["Error: epoch milliseconds must be an integer, got " ++ Text.quote text]
  | unknownFormat typed => ["Error: " ++ unknownFormatMessage typed]
  | beyondCalendar millis =>
    ["Error: " ++ toString millis ++ " is outside the supported date range"]
  | malformed report => ["Error: " ++ report.message]

/-- What a run writes to the error output. -/
inductive Notice where
  | event (e : Event)
  | complaint (c : Complaint)

/-- The lines of a notice.  A line of the log starts with the time of the event, which is left out
    here, with the mark behind it. -/
def Notice.lines : Notice → List String
  | event e => [e.source ++ " - " ++ e.level.name ++ " - " ++ e.message]
  | complaint c => c.lines

/-- How a run ends. -/
inductive Ending where
  /-- With a status for the caller. -/
  | exit (status : Nat)
  /-- With an error because no level of the log has this name. -/
  | unknownLevel (name : String)
  /-- With an error in the work itself. -/
  | failure (e : DateError)

/-- The report on a level that the log does not know. -/
def unknownLevelMessage (name : String) : String := "Unknown level: " ++ Text.quote name

/-- What a run leaves to its caller. -/
structure Run where
  ending : Ending
  /-- The lines of the output. -/
  output : List String
  /-- What went to the error output, before the log's threshold is applied. -/
  notices : List Notice

namespace Run

/-- A run that says why it does not fulfil the request. -/
def refused (c : Complaint) (events : List Event) : Run :=
  ⟨.exit 1, [], events.map .event ++ [.complaint c]⟩

/-- The notices that are shown when the log has a threshold. -/
def shown (threshold : Nat) (r : Run) : List Notice :=
  r.notices.filter fun
    | .event e => threshold ≤ e.level.rank
    | .complaint _ => true

end Run

/-- The name of the thread that runs the commands. -/
def mainThread : String := "MainThread"

namespace Console

/-- The process before its first run. -/
def start (settings : Settings) : Console := ⟨settings, none, .unused settings.centuryPivot⟩

/-- The format that an argument names; the default one if the argument is missing or empty. -/
def typedFormat (c : Console) (argument : Option String) : String :=
  match argument with
  | some typed => if typed.isEmpty then c.settings.defaultFormat else typed
  | none => c.settings.defaultFormat

/-- Puts a request to the codec for the format that an argument names.  `beyond` is said of a
    request that leads outside the calendar. -/
def exchange (c : Console) (argument : Option String) (request : Except DateError CodecRequest)
    (beyond : Complaint) : Console × Run :=
  let typed := c.typedFormat argument
  match WireFormat.ofName? typed with
  | none => (c, .refused (.unknownFormat typed) [])
  | some format =>
    match c.shared.get with
    | .error e => (c, ⟨.failure e, [], []⟩)
    | .ok registry =>
      -- The registry stays, with the codec that it may have made, whatever the answer is.
      let (registry, outcome) := registry.ask mainThread format request
      let c := { c with shared := { c.shared with made := some registry } }
      match outcome.result with
      | .ok (.text t) => (c, ⟨.exit 0, [t], outcome.events.map .event⟩)
      | .ok (.instant i) => (c, ⟨.exit 0, [toString i.millis], outcome.events.map .event⟩)
      | .error .beyondCalendar => (c, .refused beyond outcome.events)
      | .error (.malformed report _) => (c, .refused (.malformed report) outcome.events)
      | .error e => (c, ⟨.failure e, [], outcome.events.map .event⟩)

/-- The arguments of a command that takes a value and perhaps a format. -/
def valueAndFormat? : List String → Option (String × Option String)
  | [value] => some (value, none)
  | [value, format] => some (value, some format)
  | _ => none

/-- Runs a command that is known. -/
def perform (c : Console) (command : Command) (arguments : List String) : Console × Run :=
  match command with
  | .formats =>
    (c, ⟨.exit 0, WireFormat.all.map fun f =>
      f.name.map Char.toLower ++ "".pushn ' ' (16 - f.name.length) ++ " " ++ f.sample, []⟩)
  | .format =>
    match valueAndFormat? arguments with
    | none => (c, .refused .usage [])
    | some (value, format) =>
      match Text.parseInt value with
      | .error _ => (c, .refused (.notAnInteger value) [])
      | .ok n =>
        c.exchange format ((TimeValue.ofMillis n).map .toText) (.beyondCalendar n)
  | .parse =>
    match valueAndFormat? arguments with
    | none => (c, .refused .usage [])
    | some (value, format) => c.exchange format (.ok (.toDate (.text value))) .usage

/-- Runs a command line: the first word names the command.  The flag tells a run as a script. -/
def dispatch (c : Console) (asScript : Bool) : List String → Console × Run
  | [] => (c, .refused .usage [])
  | word :: arguments =>
    match Command.ofName? word with
    | none => (c, .refused .usage [])
    | some command =>
      let (c, run) := c.perform command arguments
      (c, { run with notices := .event (.commandStarted asScript word arguments) :: run.notices })

/-- One run.  The first one sets up the log; if the level is unknown it ends there, and the log
    keeps the threshold that it has without a level. -/
def run (c : Console) (asScript : Bool) (arguments : List String) : Console × Run :=
  match c.threshold with
  | some _ => c.dispatch asScript arguments
  | none =>
    -- The log is set up once; a level that it does not know is reported in the first run only.
    let level := upperName c.settings.logLevel
    match levelRanks.lookup level with
    | some rank => { c with threshold := some rank }.dispatch asScript arguments
    | none => ({ c with threshold := some unsetThreshold }, ⟨.unknownLevel level, [], []⟩)

/-- The runs of one process, each with its flag and its arguments. -/
def runAll (c : Console) (runs : List (Bool × List String)) : List (Console × Run) :=
  history (fun c r => c.run r.1 r.2) c runs

/-- The lines of a run that the error output shows. -/
def errorLines (c : Console) (r : Run) : List String :=
  (r.shown (c.threshold.getD unsetThreshold)).flatMap Notice.lines

end Console

end CloudClient
