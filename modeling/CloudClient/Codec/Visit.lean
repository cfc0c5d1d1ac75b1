import CloudClient.Codec.Basic

namespace CloudClient

/-!
# Visits to a date service

Several threads visit one date service, each by the way that it likes: by an operation of the
service or by a codec over it.

* `Route` — the ways to a date service;
* `Visit` — what a thread asks of the service, and by which way;
* `Service.visit` — one visit to a date service;
* `PerThread.visit` — one visit to a service with a delegate for each thread;
* `Service.visit_eq_ask`, `PerThread.visit_eq_ask` — by every way the same is asked.
-/

/-- The ways to a date service. -/
inductive Route where
  /-- The operation that the service has for the format. -/
  | named
  /-- The operation for all formats, which passes on to the one for the format. -/
  | dispatching
  /-- A codec for the format over the service; the flag tells the kind made for this format. -/
  | codec (dedicated : Bool)
deriving DecidableEq

/-- What a thread asks of a date service, and by which way. -/
structure Visit where
  thread : String
  route : Route
  request : Request

namespace Request

/-- The format. -/
def format : Request → WireFormat
  | parse f _ => f
  | render f _ => f

/-- What has to be asked of a codec for the format. -/
def forCodec : Request → CodecRequest
  | parse _ v => .toDate v
  | render _ x => .toText x

end Request

namespace Service

/-- A codec bound to the format of a request asks the service the request. -/
theorem fulfil_forCodec (s : Service) (thread : String) (r : Request) :
    s.fulfil thread r.format r.forCodec = s.ask thread r := by
  cases r with
  | parse F v => exact s.parse_eq_ask thread v F
  | render F x => exact s.format_eq_ask thread x F

/-- One visit to the service. -/
def visit (service : Service) (v : Visit) : Service × Outcome Reply :=
  match v.route with
  | .named => service.ask v.thread v.request
  | .dispatching => service.dispatch v.thread v.request
  | .codec dedicated =>
    let made : Except DateError (BoundCodec Service) :=
      if dedicated then Codec.dedicated v.request.format (some service)
      else Codec.generic (some v.request.format) (some service)
    match made with
    -- The codec holds the service itself, so what it holds afterwards is the service then.
    | .ok codec => codec.ask v.thread v.request.forCodec
    | .error e => (service, ⟨[], .error e⟩)

/-- By every way the service is asked the same. -/
theorem visit_eq_ask (service : Service) (v : Visit) :
    service.visit v = service.ask v.thread v.request := by
  obtain ⟨thread, route, request⟩ := v
  cases route with
  | named => rfl
  | dispatching => exact service.dispatch_eq_ask thread request
  | codec dedicated =>
    cases dedicated with
    | false => exact service.fulfil_forCodec thread request
    | true =>
      simp only [visit, if_true, Codec.dedicated, BoundCodec.construct_eq]
      exact service.fulfil_forCodec thread request

/-- The delegates, if the service is one with a delegate for each thread. -/
def perThread? : Service → Option PerThread
  | perThread s => some s
  | simple _ => none

end Service

namespace PerThread

/-- One visit to the service. -/
def visit (s : PerThread) (v : Visit) : PerThread × Outcome Reply :=
  let (service, outcome) := (Service.perThread s).visit v
  (service.perThread?.getD s, outcome)

/-- By every way the thread's delegate is asked the same. -/
theorem visit_eq_ask (s : PerThread) (v : Visit) : s.visit v = s.ask v.thread v.request := by
  rw [visit, Service.visit_eq_ask]
  rfl

end PerThread

end CloudClient
