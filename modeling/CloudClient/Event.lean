import CloudClient.Codec.Label
import CloudClient.Wire.Reading

namespace CloudClient

/-!
# Events

What goes to the log.

* `Level` — how important a line of the log is;
* `Event` — what happened, with its level, its source and its message.
-/

/-- The importance of a line of the log. -/
inductive Level where
  | debug
  | info
deriving DecidableEq, Repr

namespace Level

/-- The name. -/
def name : Level → String
  | debug => "DEBUG"
  | info => "INFO"

/-- The place among all levels, the more important the higher. -/
def rank : Level → Nat
  | debug => 10
  | info => 20

end Level

/-- What goes to the log. -/
inductive Event where
  /-- A text did not follow the layout of its format. -/
  | layoutMismatch (format : WireFormat) (text : String)
  /-- A text followed the layout of its format, but stated no date and time. -/
  | fieldOutOfRange (format : WireFormat) (text : String) (fault : CalendarFault)
  /-- A thread got a delegate of its own. -/
  | delegateCreated (thread : String)
  /-- A registry made a codec for a format. -/
  | codecCreated (format : WireFormat) (codec : CodecLabel)
  /-- A command of the command line began; the flag tells a run as a script. -/
  | commandStarted (asScript : Bool) (command : String) (arguments : List String)
deriving DecidableEq, Repr

namespace Event

/-- The importance. -/
def level : Event → Level
  | codecCreated .. => .info
  | layoutMismatch .. | fieldOutOfRange .. | delegateCreated .. | commandStarted .. => .debug

/-- The name of the part of the program that reports the event. -/
def source : Event → String
  | layoutMismatch .. | fieldOutOfRange .. | delegateCreated .. => "cloudkit.date.date_service"
  | codecCreated .. => "cloudkit.date.codec_factory"
  | commandStarted asScript .. => if asScript then "__main__" else "cloudkit.cli"

/-- The report. -/
def message : Event → String
  | layoutMismatch format text => format.name ++ " grammar mismatch: " ++ Text.quote text
  | fieldOutOfRange format text fault =>
    format.name ++ " field out of range: " ++ Text.quote text ++ ": " ++ fault.message
  | delegateCreated thread => "Created " ++ ServiceKind.simple.name ++ " for thread " ++ thread
  | codecCreated format codec => "Created " ++ format.name ++ " codec: " ++ codec.text
  | commandStarted _ command arguments =>
    "Running " ++ command ++ " with " ++ (Datum.list (arguments.map Datum.text)).literal

/-- The report on a codec of the kind made for its format. -/
theorem message_codecCreated (format : WireFormat) (service : ServiceKind) :
    (codecCreated format ⟨true, format, service⟩).message
      = "Created " ++ format.name ++ " codec: " ++ format.codecName ++ "(wire_format=" ++
        format.name ++ ", date_service=" ++ service.name ++ ")" := by
  simp only [message, CodecLabel.text_dedicated, String.append_assoc]

end Event

/-- The line of the log, if any, that tells of a rejected value.  A value that is no text and an
    hour that is none are not reported. -/
def Rejection.event? (format : WireFormat) : Datum → Rejection → Option Event
  | .scalar (.text s), .layout => some (.layoutMismatch format s)
  | .scalar (.text s), .calendar fault => some (.fieldOutOfRange format s fault)
  | _, _ => none

end CloudClient
