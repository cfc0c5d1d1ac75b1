import CloudClient.Codec.Registry

namespace CloudClient

/-!
# The shared registry

Besides the registries that a program makes for itself there is one that all its parts share.  It is
made at its first use, over a simple service with the configured pivot.

* `SharedRegistry` — the shared registry, made or not;
* `RegistryStep`, `StepResult` — one use of a registry and what it gives;
* `Registry.step` — one use of a registry;
* `Registries` — a registry of one's own beside the shared one, with `Registries.step` and
  `Registries.runAll`.
-/

/-- The registry that all parts of a program share. -/
structure SharedRegistry where
  /-- The configured pivot. -/
  configured : Int
  /-- The registry, once it is made. -/
  made : Option Registry

namespace SharedRegistry

/-- The shared registry before its first use. -/
def unused (configured : Int) : SharedRegistry := ⟨configured, none⟩

/-- The registry, made if need be.  A pivot out of range is reported at every use. -/
def get (s : SharedRegistry) : Except DateError Registry :=
  match s.made with
  | some r => .ok r
  | none => (Service.ofPivot s.configured none).map Registry.ofService

end SharedRegistry

/-- One use of a registry. -/
inductive RegistryStep where
  /-- Hand out the codec for a format. -/
  | get (format : WireFormat)
  /-- Use the codec for a format, or report why there is nothing to use it for. -/
  | ask (format : WireFormat) (request : Except DateError CodecRequest)
  /-- Tell the kind of the registry's service. -/
  | service

/-- What one use of a registry gives. -/
inductive StepResult where
  | codec (served : Served) (label : Option CodecLabel)
  | reply (r : Reply)
  | service (kind : ServiceKind)

/-- One use of a registry by a thread. -/
def Registry.step (r : Registry) (thread : String) : RegistryStep → Registry × Outcome StepResult
  | .get format =>
    let (r, events, served) := r.codecFor format
    (r, ⟨events, .ok (.codec served (r.label? served))⟩)
  | .ask format request =>
    let (r, outcome) := r.ask thread format request
    (r, ⟨outcome.events, outcome.result.map .reply⟩)
  | .service => (r, ⟨[], .ok (.service r.service.kind)⟩)

/-- A registry of one's own beside the shared one. -/
structure Registries where
  own : Registry
  shared : SharedRegistry

namespace Registries

/-- One use of one of the two registries by a thread. -/
def step (rs : Registries) (thread : String) (onShared : Bool) (s : RegistryStep) :
    Registries × Outcome StepResult :=
  if onShared then
    match rs.shared.get with
    | .error e => (rs, ⟨[], .error e⟩)
    | .ok r =>
      let (r, outcome) := r.step thread s
      ({ rs with shared := { rs.shared with made := some r } }, outcome)
  else
    let (r, outcome) := rs.own.step thread s
    ({ rs with own := r }, outcome)

/-- The formats with an entry in one of the two registries, if there is such a registry. -/
def formats (rs : Registries) (onShared : Bool) : Except DateError (List WireFormat) :=
  if onShared then rs.shared.get.map Registry.formats else .ok rs.own.formats

/-- Uses of the two registries by a thread one after the other; the flag tells the shared one. -/
def runAll (rs : Registries) (thread : String) (steps : List (Bool × RegistryStep)) :
    List (Registries × Outcome StepResult) :=
  history (fun rs s => rs.step thread s.1 s.2) rs steps

end Registries

end CloudClient
