import CloudClient.Service.Basic

namespace CloudClient

/-!
# Date codecs

A codec crosses one wire format in both directions.

* `BoundCodec` — a codec over a date service, bound to a format;
* `BoundCodec.construct` — the constructors of the codecs made for one format, by the formats;
* `Codec` — any codec, with what is shown of it;
* `Codec.dedicated`, `Codec.generic` — the construction of a codec over a service, which may be
  refused;
* `Codec.ask` — one use of a codec by a thread.
-/

/-- A codec that asks a service in one format.  The service is held as a `σ`, which is the service
    itself or tells whose it is. -/
structure BoundCodec (σ : Type) where
  /-- The codec is of the kind made for its format. -/
  dedicated : Bool
  format : WireFormat
  service : σ

/-- A date codec. -/
inductive Codec (σ : Type) where
  | dated (codec : BoundCodec σ)
  /-- A codec that a caller brings along.  It is none of the library's: it has neither a format nor
      a service, and writes the milliseconds from the epoch behind a mark.  It stands for what a
      registry may be given besides the codecs over services. -/
  | plain

/-- What is asked of a codec. -/
inductive CodecRequest where
  | toDate (value : Datum)
  | toText (value : TimeValue)

/-- The mark of the plain codec. -/
def plainMark : List Char := ['p', 'l', 'a', 'i', 'n', ':']

/-- The answer of the plain codec, a caller's own. -/
def plainAnswer : CodecRequest → Except DateError Reply
  | .toText x => do
    let i ← x.instant
    return .text (String.ofList plainMark ++ toString i.millis)
  | .toDate (.scalar (.text s)) =>
    match Text.parseInt (String.ofList (s.toList.drop plainMark.length)) with
    | .error e => .error (.notANumeral e)
    | .ok n =>
      match Instant.ofMillis? n with
      | some i => .ok (.instant i)
      | none => .error .beyondCalendar
  | .toDate v => .error (.notATime v.kind)

namespace BoundCodec

variable {σ τ : Type}

/-- The constructor for a format. -/
def construct : WireFormat → σ → BoundCodec σ
  | .rfc1123 => .mk true .rfc1123
  | .rfc822 => .mk true .rfc822
  | .iso8601 => .mk true .iso8601
  | .iso8601Seconds => .mk true .iso8601Seconds
  | .asctime => .mk true .asctime

/-- Each constructor makes a codec that is bound to its format and to the service. -/
theorem construct_eq (format : WireFormat) (service : σ) :
    construct format service = ⟨true, format, service⟩ := by
  cases format <;> rfl

/-- The codec with the service held in another way. -/
def map (f : σ → τ) (c : BoundCodec σ) : BoundCodec τ := ⟨c.dedicated, c.format, f c.service⟩

/-- What is shown of the codec. -/
def label (kind : σ → ServiceKind) (c : BoundCodec σ) : CodecLabel :=
  ⟨c.dedicated, c.format, kind c.service⟩

end BoundCodec

/-- One use of a codec bound to a format, over a service: its operations for all formats are
    asked. -/
def Service.fulfil (s : Service) (thread : String) (F : WireFormat) :
    CodecRequest → Service × Outcome Reply
  | .toText x => s.format thread x F
  | .toDate v => s.parse thread v F

/-- One use of a codec that holds its service: what the service becomes, and its answer. -/
def BoundCodec.ask (c : BoundCodec Service) (thread : String) (r : CodecRequest) :
    Service × Outcome Reply :=
  c.service.fulfil thread c.format r

namespace Codec

variable {σ τ : Type}

/-- A codec of the kind made for one format. -/
def dedicated (format : WireFormat) (service : Option σ) : Except DateError (BoundCodec σ) :=
  match service with
  | none => .error .missingService
  | some s => .ok (.construct format s)

/-- A codec of the kind made for any format. -/
def generic (format : Option WireFormat) (service : Option σ) : Except DateError (BoundCodec σ) :=
  match service, format with
  | none, _ => .error .missingService
  | some _, none => .error .missingFormat
  | some s, some f => .ok ⟨false, f, s⟩

/-- The codec with its service held in another way. -/
def map (f : σ → τ) : Codec σ → Codec τ
  | dated c => dated (c.map f)
  | plain => plain

/-- What is shown of the codec, none for a plain one. -/
def labelBy? (kind : σ → ServiceKind) : Codec σ → Option CodecLabel
  | dated c => some (c.label kind)
  | plain => none

/-- What is shown of a codec that holds its service itself. -/
def label? (c : Codec Service) : Option CodecLabel := c.labelBy? Service.kind

/-- One use of the codec by a thread. -/
def ask (c : Codec Service) (thread : String) (r : CodecRequest) : Codec Service × Outcome Reply :=
  match c with
  | dated c =>
    let (service, outcome) := c.ask thread r
    (dated { c with service }, outcome)
  | plain => (plain, ⟨[], plainAnswer r⟩)

end Codec

end CloudClient
