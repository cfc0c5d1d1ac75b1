import CloudClient.Service.PerThread

namespace CloudClient

/-!
# Date services

* `Service` — a date service of one of the two kinds;
* `Service.ask` — one use of an operation for one format by a thread;
* `dispatch` — the operations for the formats, by the formats;
* `Service.format`, `Service.parse` — the operations for all formats, which look the one for the
  format up;
* `Service.dispatch` — one use of these operations by a thread.
-/

/-- A date service. -/
inductive Service where
  /-- One pivot for all threads, and nothing that changes. -/
  | simple (pivot : CenturyPivot)
  /-- A delegate for each thread. -/
  | perThread (s : PerThread)

/-- The operation for a format that renders, and the one that parses. -/
def dispatch : WireFormat → (TimeValue → Request) × (Datum → Request)
  | .rfc1123 => (.render .rfc1123, .parse .rfc1123)
  | .rfc822 => (.render .rfc822, .parse .rfc822)
  | .iso8601 => (.render .iso8601, .parse .iso8601)
  | .iso8601Seconds => (.render .iso8601Seconds, .parse .iso8601Seconds)
  | .asctime => (.render .asctime, .parse .asctime)

namespace Service

/-- The kind. -/
def kind : Service → ServiceKind
  | simple _ => .simple
  | perThread _ => .perThread

/-- The service of the first kind with a pivot, by default the configured one. -/
def ofPivot (configured : Int) (pivot : Option Int) : Except DateError Service :=
  (CenturyPivot.ofInt (pivot.getD configured)).map simple

/-- One use of an operation for one format by a thread. -/
def ask (s : Service) (thread : String) (r : Request) : Service × Outcome Reply :=
  match s with
  | simple pivot => (s, pivot.answer r)
  | perThread p => (p.ask thread r).map perThread id

/-- The text of a value in a format. -/
def format (s : Service) (thread : String) (x : TimeValue) (F : WireFormat) :
    Service × Outcome Reply :=
  s.ask thread ((CloudClient.dispatch F).1 x)

/-- The instant that a value denotes in a format. -/
def parse (s : Service) (thread : String) (v : Datum) (F : WireFormat) : Service × Outcome Reply :=
  s.ask thread ((CloudClient.dispatch F).2 v)

/-- One use of the operations for all formats by a thread. -/
def dispatch (s : Service) (thread : String) : Request → Service × Outcome Reply
  | .render F x => s.format thread x F
  | .parse F v => s.parse thread v F

theorem format_eq_ask (s : Service) (thread : String) (x : TimeValue) (F : WireFormat) :
    s.format thread x F = s.ask thread (.render F x) := by
  cases F <;> rfl

theorem parse_eq_ask (s : Service) (thread : String) (v : Datum) (F : WireFormat) :
    s.parse thread v F = s.ask thread (.parse F v) := by
  cases F <;> rfl

/-- The operation for the format is the one that is asked. -/
theorem dispatch_eq_ask (s : Service) (thread : String) (r : Request) :
    s.dispatch thread r = s.ask thread r := by
  cases r with
  | render F x => exact s.format_eq_ask thread x F
  | parse F v => exact s.parse_eq_ask thread v F

end Service

end CloudClient
