import CloudClient.Text.Blank
import CloudClient.Text.Uppercase

namespace CloudClient

/-!
# Wire formats

The ways in which remote services write a point in time.

* `WireFormat` — the five formats;
* `WireFormat.name`, `WireFormat.pattern`, `WireFormat.sample` — how a format is shown to people;
* `WireFormat.ofName?` — the format that a typed name stands for.
-/

/-- A way to write a point in time. -/
inductive WireFormat where
  | rfc1123
  | rfc822
  | iso8601
  | iso8601Seconds
  | asctime
deriving DecidableEq, Repr

namespace WireFormat

/-- The formats in the order in which they are listed. -/
def all : List WireFormat := [rfc1123, rfc822, iso8601, iso8601Seconds, asctime]

/-- The name. -/
def name : WireFormat → String
  | rfc1123 => "RFC1123"
  | rfc822 => "RFC822"
  | iso8601 => "ISO8601"
  | iso8601Seconds => "ISO8601_SECONDS"
  | asctime => "ASCTIME"

/-- The pattern that reports on malformed texts show. -/
def pattern : WireFormat → String
  | rfc1123 => "EEE, dd MMM yyyy HH:mm:ss 'GMT'"
  | rfc822 => "EEE, dd MMM yy HH:mm:ss 'GMT'"
  | iso8601 => "yyyy-MM-dd'T'HH:mm:ss.SSS'Z'"
  | iso8601Seconds => "yyyy-MM-dd'T'HH:mm:ss'Z'"
  | asctime => "EEE MMM ppd HH:mm:ss yyyy"

/-- One text in the format. -/
def sample : WireFormat → String
  | rfc1123 => "Thu, 01 Dec 1994 16:00:00 GMT"
  | rfc822 => "Thu, 01 Dec 94 16:00:00 GMT"
  | iso8601 => "1994-12-01T16:00:00.000Z"
  | iso8601Seconds => "1994-12-01T16:00:00Z"
  | asctime => "Thu Dec  1 16:00:00 1994"

/-- A typed name in the spelling of the format names: no blanks around it, upper case, and
    underscores for hyphens. -/
def normalizeName (cs : List Char) : List Char :=
  (Text.upper (Text.trimBlank cs)).map fun c => if c = '-' then '_' else c

/-- The format that a typed name stands for. -/
def ofName? (typed : String) : Option WireFormat :=
  all.find? fun f => f.name.toList = normalizeName typed.toList

/-- A format is found exactly under its name. -/
theorem ofName?_eq_some_iff {typed : String} {f : WireFormat} :
    ofName? typed = some f ↔ normalizeName typed.toList = f.name.toList := by
  -- No two formats share a name, so the first one found is the only one.
  have names_differ : ∀ g h : WireFormat, g.name.toList = h.name.toList → g = h := by
    intro g h
    cases g <;> cases h <;> simp [name]
  constructor
  · intro found
    have := List.find?_some found
    simp only [decide_eq_true_eq] at this
    exact this.symm
  · intro same
    simp only [ofName?, same]
    cases f <;> simp [all, name]

end WireFormat

end CloudClient
