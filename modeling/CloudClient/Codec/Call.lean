import CloudClient.Codec.Shared

namespace CloudClient

/-!
# Calls of a registry

A caller has the codec for a format handed out, by the operation for all formats or by the one that
the registry has for this format, or uses the codec.

* `Registry.accessor` — the operations for one format each;
* `RegistryCall`, `Registry.call` — one call of a registry;
* `Registry.call_accessor` — both operations hand out the same.
-/

/-- One call of a registry. -/
inductive RegistryCall where
  /-- Hand out the codec for a format by the operation for all formats. -/
  | codecFor (format : WireFormat)
  /-- Hand out the codec for a format by the operation that there is for this format. -/
  | accessor (format : WireFormat)
  /-- Use the codec for a format by a thread, or report why there is nothing to use it for. -/
  | use (thread : String) (format : WireFormat) (request : Except DateError CodecRequest)

namespace RegistryCall

/-- The format. -/
def format : RegistryCall → WireFormat
  | codecFor f | accessor f | use _ f _ => f

/-- The call only has the codec handed out. -/
def handsOut : RegistryCall → Bool
  | codecFor _ | accessor _ => true
  | use .. => false

end RegistryCall

namespace Registry

/-- The operation that hands out the codec for one format. -/
def accessor (r : Registry) : WireFormat → Registry × List Event × Served
  | .rfc1123 => r.codecFor .rfc1123
  | .rfc822 => r.codecFor .rfc822
  | .iso8601 => r.codecFor .iso8601
  | .iso8601Seconds => r.codecFor .iso8601Seconds
  | .asctime => r.codecFor .asctime

/-- A codec that is handed out as the answer of a call. -/
def handOut : Registry × List Event × Served → Registry × Outcome StepResult
  | (r, events, served) => (r, ⟨events, .ok (.codec served (r.label? served))⟩)

/-- One call. -/
def call (r : Registry) : RegistryCall → Registry × Outcome StepResult
  | .codecFor format => handOut (r.codecFor format)
  | .accessor format => handOut (r.accessor format)
  | .use thread format request => r.step thread (.ask format request)

/-- The operation for one format is the one for all formats at this format. -/
theorem call_accessor (r : Registry) (format : WireFormat) :
    r.call (.accessor format) = r.call (.codecFor format) := by
  cases format <;> rfl

end Registry

end CloudClient
