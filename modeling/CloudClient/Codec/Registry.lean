import CloudClient.Codec.Basic

namespace CloudClient

/-!
# Codec registries

A registry hands out one codec for each format.  It makes a codec at the first request for its
format and keeps it, unless a codec was given to it beforehand.

* `ServiceRef`, `Served` — a codec that the registry hands out, and whose service it asks;
* `Registry` — the registry: its service and what it keeps, in the order in which the formats came;
* `Registry.build` — a registry with codecs given beforehand, which may be refused;
* `Registry.codecFor` — the codec for a format, made if need be;
* `Registry.ask` — one use of the codec for a format.
-/

/-- Whose the service behind a codec of a registry is. -/
inductive ServiceRef where
  /-- The codec asks the service of the registry, whatever this has come to. -/
  | registry
  /-- The codec came with a service of its own. -/
  | brought (service : Service)

/-- A codec that a registry hands out.  The serial number tells the registry's codecs apart. -/
structure Served where
  serial : Nat
  codec : Codec ServiceRef

/-- A registry of codecs, one for each format. -/
structure Registry where
  /-- The service of the codecs that the registry makes. -/
  service : Service
  /-- What is kept for each format, in the order in which the formats came; a format may have been
      given without a codec. -/
  entries : List (WireFormat × Option Served)
  /-- The serial number of the next codec. -/
  next : Nat

/-- Sets the value of a key: in its place if the key is there, otherwise at the end. -/
def putEntry {α : Type} (key : WireFormat) (value : α) :
    List (WireFormat × α) → List (WireFormat × α)
  | [] => [(key, value)]
  | (k, v) :: rest => if k = key then (k, value) :: rest else (k, v) :: putEntry key value rest

/-- The keys stay in their places, and a new one goes to the end. -/
theorem keys_putEntry {α : Type} (key : WireFormat) (value : α) (entries : List (WireFormat × α)) :
    (putEntry key value entries).map Prod.fst =
      if key ∈ entries.map Prod.fst then entries.map Prod.fst
      else entries.map Prod.fst ++ [key] := by
  induction entries with
  | nil => simp [putEntry]
  | cons entry rest ih =>
    obtain ⟨k, v⟩ := entry
    by_cases h : k = key
    · simp [putEntry, h]
    · have h' : key ≠ k := fun e => h e.symm
      simp only [putEntry, h, if_false, List.map_cons, ih, List.mem_cons, h', false_or]
      split <;> simp

@[simp] theorem lookup_putEntry_self {α : Type} (key : WireFormat) (value : α)
    (entries : List (WireFormat × α)) : (putEntry key value entries).lookup key = some value := by
  induction entries with
  | nil => simp [putEntry]
  | cons entry rest ih =>
    obtain ⟨k, v⟩ := entry
    by_cases h : k = key
    · simp [putEntry, h]
    · have h' : (key == k) = false := by simpa using fun e => h e.symm
      simp [putEntry, h, List.lookup_cons, h', ih]

theorem lookup_putEntry_of_ne {α : Type} {key other : WireFormat} (value : α)
    (entries : List (WireFormat × α)) (differ : other ≠ key) :
    (putEntry key value entries).lookup other = entries.lookup other := by
  have differ' : (other == key) = false := by simpa using differ
  induction entries with
  | nil => simp [putEntry, List.lookup_cons, differ']
  | cons entry rest ih =>
    obtain ⟨k, v⟩ := entry
    by_cases h : k = key
    · subst h
      simp [putEntry, List.lookup_cons, differ']
    · simp only [putEntry, h, if_false, List.lookup_cons]
      split
      · rfl
      · exact ih

namespace Registry

/-- A registry over a service to which nothing was given. -/
def ofService (service : Service) : Registry := ⟨service, [], 0⟩

/-- The codecs given for the formats, the last one of each format in the place of the first. -/
def collect (given : List (WireFormat × Option (Codec Service))) :
    List (WireFormat × Option (Codec Service)) :=
  given.foldl (fun entries (f, c) => putEntry f c entries) []

/-- Takes a codec given for a format; it must have no format or this one. -/
def accept (r : Registry) (format : WireFormat) :
    Option (Codec Service) → Except DateError Registry
  | none => .ok { r with entries := r.entries ++ [(format, none)] }
  | some codec =>
    let served : Served := ⟨r.next, codec.map .brought⟩
    match codec.label? with
    | some label =>
      if label.format = format then
        .ok ⟨r.service, r.entries ++ [(format, some served)], r.next + 1⟩
      else .error (.wrongFormat label format)
    | none => .ok ⟨r.service, r.entries ++ [(format, some served)], r.next + 1⟩

/-- A registry over a service with codecs given beforehand. -/
def build (service : Service) (given : List (WireFormat × Option (Codec Service))) :
    Except DateError Registry :=
  (collect given).foldlM (fun r (f, c) => r.accept f c) (ofService service)

/-- The formats with an entry, in their order. -/
def formats (r : Registry) : List WireFormat := r.entries.map Prod.fst

/-- The codec kept for a format. -/
def kept? (r : Registry) (format : WireFormat) : Option Served := (r.entries.lookup format).join

/-- The service behind a codec. -/
def behind (r : Registry) : ServiceRef → Service
  | .registry => r.service
  | .brought s => s

/-- What is shown of a codec that the registry hands out. -/
def label? (r : Registry) (served : Served) : Option CodecLabel :=
  served.codec.labelBy? fun ref => (r.behind ref).kind

/-- The codec for a format.  If none is kept, the constructor for the format makes one over the
    service of the registry, and this is reported. -/
def codecFor (r : Registry) (format : WireFormat) : Registry × List Event × Served :=
  match r.kept? format with
  | some served => (r, [], served)
  | none =>
    let codec := BoundCodec.construct format ServiceRef.registry
    let served : Served := ⟨r.next, .dated codec⟩
    (⟨r.service, putEntry format (some served) r.entries, r.next + 1⟩,
      [.codecCreated format (codec.label fun ref => (r.behind ref).kind)], served)

/-- The service behind the codec for a format has become another. -/
def putBack (r : Registry) (format : WireFormat) (serial : Nat) (codec : BoundCodec ServiceRef)
    (service : Service) : Registry :=
  match codec.service with
  | .registry => { r with service }
  | .brought _ =>
    let served : Served := ⟨serial, .dated { codec with service := .brought service }⟩
    { r with entries := putEntry format (some served) r.entries }

/-- One use of the codec for a format by a thread.  The codec is fetched first, even if there is
    nothing that it could be asked. -/
def ask (r : Registry) (thread : String) (format : WireFormat)
    (request : Except DateError CodecRequest) : Registry × Outcome Reply :=
  let (r, events, served) := r.codecFor format
  match request with
  | .error e => (r, ⟨events, .error e⟩)
  | .ok request =>
    match served.codec with
    | .plain => (r, ⟨events, plainAnswer request⟩)
    | .dated codec =>
      let (service, outcome) := (codec.map r.behind).ask thread request
      (r.putBack format served.serial codec service, ⟨events ++ outcome.events, outcome.result⟩)

end Registry

end CloudClient
