import CloudClient.Codec.Call
import CloudClient.Proofs.Service.Visit

namespace CloudClient

/-!
# One call of a registry

* `CodecRequest.at` — what a codec bound to a format asks its service;
* `Served.own`, `Served.given` — a codec that a registry made, and one that was given to it;
* `Served.mark`, `Registry.mark?` — what tells the codecs of a registry apart;
* `Registry.made` — the registry after it made the codec for a format;
* `Registry.Alike` — two registries differ at most in what goes on inside their services;
* `Registry.alike_ask` — using a codec changes no more than this, and reports no new codec;
* `Registry.call_cases` — the two things that a call can do.
-/

/-- What a codec bound to the format asks its service. -/
def CodecRequest.at (F : WireFormat) : CodecRequest → Request
  | toDate v => .parse F v
  | toText x => .render F x

theorem Service.fulfil_eq_ask (s : Service) (thread : String) (F : WireFormat) (r : CodecRequest) :
    s.fulfil thread F r = s.ask thread (r.at F) := by
  cases r with
  | toDate v => exact s.parse_eq_ask thread v F
  | toText x => exact s.format_eq_ask thread x F

/-- What tells a codec from the others of a registry: whether the registry made it, and its serial
    number. -/
structure CodecMark where
  made : Bool
  serial : Nat
deriving DecidableEq

namespace Served

/-- The codec that a registry makes for a format: it is bound to the format and to the service of
    the registry. -/
def own (F : WireFormat) (serial : Nat) : Served := ⟨serial, .dated ⟨true, F, .registry⟩⟩

/-- A codec that was given to a registry. -/
def given (serial : Nat) (c : Codec Service) : Served := ⟨serial, c.map .brought⟩

/-- The mark of a codec that a registry hands out.  What asks the service of the registry was made
    by it. -/
def mark (served : Served) : CodecMark :=
  match served.codec with
  | .dated ⟨_, _, .registry⟩ => ⟨true, served.serial⟩
  | .dated ⟨_, _, .brought _⟩ | .plain => ⟨false, served.serial⟩

@[simp] theorem serial_mark (served : Served) : served.mark.serial = served.serial := by
  unfold mark
  split <;> rfl

@[simp] theorem mark_given (n : Nat) (c : Codec Service) : (given n c).mark = ⟨false, n⟩ := by
  cases c <;> rfl

end Served

/-- The event is that a registry made a codec. -/
def Event.isCodecCreated : Event → Bool
  | codecCreated .. => true
  | layoutMismatch .. | fieldOutOfRange .. | delegateCreated .. | commandStarted .. => false

/-- Events that are none of a registry do not matter to its reports. -/
theorem Event.filter_append_of_silent {events later : List Event}
    (silent : later.filter isCodecCreated = []) :
    (events ++ later).filter isCodecCreated = events.filter isCodecCreated := by
  rw [List.filter_append, silent, List.append_nil]

/-- The reports that a registry made a codec. -/
def Outcome.creations {α : Type} (o : Outcome α) : List Event :=
  o.events.filter Event.isCodecCreated

/-! ### Services and codecs -/

/-- A simple service makes no codec. -/
theorem CenturyPivot.creations_answer (p : CenturyPivot) (r : Request) :
    (p.answer r).creations = [] := by
  cases r with
  | parse format value =>
    simp only [Outcome.creations, answer, parse]
    cases format.read p value with
    | ok i => rfl
    | error rejection =>
      simp only [Rejection.event?]
      split <;> rfl
  | render format value => rfl

namespace Service

variable (s : Service) (thread : String) (r : Request)

/-- A service makes no codec. -/
theorem creations_ask : (s.ask thread r).2.creations = [] := by
  cases s with
  | simple p => exact p.creations_answer r
  | perThread s =>
    show (s.ask thread r).2.creations = []
    have visit := s.visit_eq_ask ⟨thread, .named, r⟩
    rcases s.visit_cases ⟨thread, .named, r⟩ with
      ⟨d, -, step⟩ | ⟨p, -, -, step⟩ | ⟨-, -, step⟩ <;> rw [← visit, step]
    · exact d.pivot.creations_answer r
    · exact p.creations_answer r
    · rfl

/-- A service stays of its kind. -/
theorem kind_ask : (s.ask thread r).1.kind = s.kind := by
  cases s <;> rfl

end Service

namespace BoundCodec

variable (c : BoundCodec Service) (thread : String) (r : CodecRequest)

theorem ask_eq : c.ask thread r = c.service.ask thread (r.at c.format) :=
  c.service.fulfil_eq_ask thread c.format r

/-- A codec makes no codec. -/
theorem creations_ask : (c.ask thread r).2.creations = [] := by
  rw [ask_eq]
  exact c.service.creations_ask thread _

/-- Its service stays of its kind. -/
theorem kind_ask : (c.ask thread r).1.kind = c.service.kind := by
  rw [ask_eq]
  exact c.service.kind_ask thread _

end BoundCodec

namespace Registry

variable {r s t : Registry} {F G : WireFormat} {k : CodecMark} {served : Served}
  {call : RegistryCall}

/-! ### What a registry keeps -/

/-- The mark of the codec kept for a format. -/
def mark? (r : Registry) (F : WireFormat) : Option CodecMark := (r.kept? F).map Served.mark

/-- The codec that is handed out for a format. -/
def codec (r : Registry) (F : WireFormat) : Served := (r.codecFor F).2.2

theorem lookup_of_kept? (kept : r.kept? F = some served) :
    r.entries.lookup F = some (some served) :=
  Option.join_eq_some_iff.mp kept

/-- A format with a codec has an entry. -/
theorem mem_formats_of_kept? (kept : r.kept? F = some served) : F ∈ r.formats := by
  have found : (r.entries.lookup F).isSome = true := by
    rw [lookup_of_kept? kept]
    rfl
  obtain ⟨entry, mem, same⟩ := List.lookup_isSome_iff.mp found
  exact List.mem_map.mpr ⟨entry, mem, (eq_of_beq same).symm⟩

/-- The registry after it made the codec for a format. -/
def made (r : Registry) (F : WireFormat) : Registry :=
  ⟨r.service, putEntry F (some (.own F r.next)) r.entries, r.next + 1⟩

theorem formats_made (r : Registry) (F : WireFormat) :
    (r.made F).formats = if F ∈ r.formats then r.formats else r.formats ++ [F] :=
  keys_putEntry F _ r.entries

theorem kept?_made_self (r : Registry) (F : WireFormat) :
    (r.made F).kept? F = some (.own F r.next) := by
  show ((putEntry F _ r.entries).lookup F).join = _
  rw [lookup_putEntry_self]
  rfl

theorem kept?_made_of_ne (r : Registry) (differ : G ≠ F) : (r.made F).kept? G = r.kept? G := by
  show ((putEntry F _ r.entries).lookup G).join = _
  rw [lookup_putEntry_of_ne _ _ differ]
  rfl

theorem mark?_made (r : Registry) (F G : WireFormat) :
    (r.made F).mark? G = if G = F then some ⟨true, r.next⟩ else r.mark? G := by
  by_cases same : G = F
  · subst same
    rw [if_pos rfl, mark?, kept?_made_self]
    rfl
  · rw [if_neg same, mark?, kept?_made_of_ne r same, mark?]

/-! ### Handing out a codec -/

theorem codecFor_of_kept (kept : r.kept? F = some served) : r.codecFor F = (r, [], served) := by
  simp only [codecFor, kept]

theorem codecFor_of_lack (lacks : r.kept? F = none) :
    r.codecFor F = (r.made F, [.codecCreated F ⟨true, F, r.service.kind⟩], .own F r.next) := by
  simp only [codecFor, lacks, BoundCodec.construct_eq]
  rfl

/-- What is handed out is kept. -/
theorem kept?_codecFor (r : Registry) (F : WireFormat) :
    (r.codecFor F).1.kept? F = some (r.codecFor F).2.2 := by
  cases kept : r.kept? F with
  | some served =>
    rw [codecFor_of_kept kept]
    exact kept
  | none =>
    rw [codecFor_of_lack kept]
    exact r.kept?_made_self F

/-- For other formats nothing changes. -/
theorem kept?_codecFor_of_ne (r : Registry) (differ : G ≠ F) :
    (r.codecFor F).1.kept? G = r.kept? G := by
  cases kept : r.kept? F with
  | some served => rw [codecFor_of_kept kept]
  | none =>
    rw [codecFor_of_lack kept]
    exact r.kept?_made_of_ne differ

/-- What is kept is handed out. -/
theorem mark_codec (has : r.mark? F = some k) : (r.codec F).mark = k := by
  obtain ⟨served, kept, rfl⟩ := Option.map_eq_some_iff.mp has
  rw [codec, codecFor_of_kept kept]

/-! ### Using a codec -/

/-- The registries have the same codecs for the same formats, whatever goes on inside the
    services. -/
structure Alike (r s : Registry) : Prop where
  formats_eq : s.formats = r.formats
  mark?_eq : s.mark? = r.mark?
  next_eq : s.next = r.next
  kind_eq : s.service.kind = r.service.kind

theorem Alike.refl (r : Registry) : r.Alike r := ⟨rfl, rfl, rfl, rfl⟩

/-- A codec that cannot be told from the one for the format takes its place. -/
theorem alike_putEntry {before after : Served} (kept : r.kept? F = some before)
    (same : after.mark = before.mark) :
    r.Alike { r with entries := putEntry F (some after) r.entries } := by
  refine ⟨?_, ?_, rfl, rfl⟩
  · exact (keys_putEntry F _ r.entries).trans (if_pos (mem_formats_of_kept? kept))
  · funext G
    show (((putEntry F _ r.entries).lookup G).join).map Served.mark = _
    by_cases here : G = F
    · subst here
      rw [lookup_putEntry_self, mark?, kept]
      exact congrArg some same
    · rw [lookup_putEntry_of_ne _ _ here]
      rfl

/-- The service behind a codec becomes another one of its kind. -/
theorem alike_putBack {serial : Nat} {c : BoundCodec ServiceRef} {service : Service}
    (kept : r.kept? F = some ⟨serial, .dated c⟩) (kind : service.kind = (r.behind c.service).kind) :
    r.Alike (r.putBack F serial c service) := by
  obtain ⟨dedicated, G, ref⟩ := c
  cases ref with
  | registry => exact ⟨rfl, rfl, rfl, kind⟩
  | brought before => exact alike_putEntry kept rfl

/-- Using a codec changes no more than handing it out, apart from what goes on inside the services,
    and reports no more codecs. -/
theorem alike_ask (r : Registry) (thread : String) (F : WireFormat)
    (request : Except DateError CodecRequest) : (r.codecFor F).1.Alike (r.ask thread F request).1 ∧
      (r.ask thread F request).2.creations = (r.codecFor F).2.1.filter Event.isCodecCreated := by
  have kept := r.kept?_codecFor F
  unfold ask
  generalize r.codecFor F = fetched at kept ⊢
  obtain ⟨s, events, served⟩ := fetched
  cases request with
  | error e => exact ⟨.refl s, rfl⟩
  | ok request =>
    obtain ⟨serial, codec⟩ := served
    cases codec with
    | dated c =>
      refine ⟨alike_putBack kept ((c.map s.behind).kind_ask thread request), ?_⟩
      exact Event.filter_append_of_silent ((c.map s.behind).creations_ask thread request)
    | plain => exact ⟨.refl s, rfl⟩

/-- A call changes no more than handing out the codec, apart from what goes on inside the services,
    and reports no more codecs. -/
theorem alike_call (r : Registry) (call : RegistryCall) :
    (r.codecFor call.format).1.Alike (r.call call).1 ∧
      (r.call call).2.creations
        = (r.codecFor call.format).2.1.filter Event.isCodecCreated := by
  cases call with
  | codecFor F => exact ⟨.refl _, rfl⟩
  | accessor F =>
    rw [call_accessor]
    exact ⟨.refl _, rfl⟩
  | use thread F request => exact r.alike_ask thread F request

/-- A call finds the codec for its format, or the registry makes it and reports this. -/
theorem call_cases (r : Registry) (call : RegistryCall) :
    (∃ served, r.kept? call.format = some served ∧ r.Alike (r.call call).1 ∧
      (r.call call).2.creations = []) ∨
    (r.kept? call.format = none ∧ (r.made call.format).Alike (r.call call).1 ∧
      (r.call call).2.creations
        = [.codecCreated call.format ⟨true, call.format, r.service.kind⟩]) := by
  obtain ⟨alike, creations⟩ := r.alike_call call
  cases kept : r.kept? call.format with
  | some served =>
    rw [codecFor_of_kept kept] at alike creations
    exact .inl ⟨served, rfl, alike, creations⟩
  | none =>
    rw [codecFor_of_lack kept] at alike creations
    exact .inr ⟨rfl, alike, creations⟩

/-! ### What a call leaves -/

/-- A format without an entry gets one at the end. -/
theorem formats_call (r : Registry) (call : RegistryCall) : (r.call call).1.formats
    = if call.format ∈ r.formats then r.formats else r.formats ++ [call.format] := by
  rcases r.call_cases call with ⟨served, kept, alike, -⟩ | ⟨-, alike, -⟩ <;> rw [alike.formats_eq]
  · rw [if_pos (mem_formats_of_kept? kept)]
  · exact r.formats_made call.format

/-- The codec that was handed out is kept. -/
theorem mark?_call_self (r : Registry) (call : RegistryCall) :
    (r.call call).1.mark? call.format = some (r.codec call.format).mark := by
  rcases r.call_cases call with ⟨served, kept, alike, -⟩ | ⟨lacks, alike, -⟩ <;>
    rw [alike.mark?_eq, codec]
  · rw [codecFor_of_kept kept, mark?, kept]
    rfl
  · rw [codecFor_of_lack lacks, mark?_made, if_pos rfl]
    rfl

/-- A codec for another format is not touched. -/
theorem mark?_call_of_ne (differ : G ≠ call.format) : (r.call call).1.mark? G = r.mark? G := by
  rcases r.call_cases call with ⟨served, kept, alike, -⟩ | ⟨lacks, alike, -⟩ <;>
    rw [alike.mark?_eq]
  rw [mark?_made, if_neg differ]

/-- A codec that is kept stays. -/
theorem mark?_call_of_some (call : RegistryCall) (has : r.mark? F = some k) :
    (r.call call).1.mark? F = some k := by
  by_cases same : F = call.format
  · subst same
    rw [mark?_call_self, mark_codec has]
  · rw [mark?_call_of_ne same, has]

/-- Afterwards there is a codec for the format of the call, and none that is new for any other. -/
theorem isSome_mark?_call_iff (r : Registry) (call : RegistryCall) (F : WireFormat) :
    ((r.call call).1.mark? F).isSome = true ↔ (r.mark? F).isSome = true ∨ F = call.format := by
  by_cases same : F = call.format
  · subst same
    rw [mark?_call_self]
    simp
  · rw [mark?_call_of_ne same]
    simp [same]

/-- A call reports a new codec exactly if there was none for its format. -/
theorem creations_call (r : Registry) (call : RegistryCall) : (r.call call).2.creations
    = if (r.mark? call.format).isSome then []
      else [.codecCreated call.format ⟨true, call.format, r.service.kind⟩] := by
  rcases r.call_cases call with ⟨served, kept, -, creations⟩ | ⟨lacks, -, creations⟩ <;>
    rw [creations, mark?]
  · rw [kept]
    rfl
  · rw [lacks]
    rfl

/-- The service stays of its kind. -/
theorem kind_call (r : Registry) (call : RegistryCall) :
    (r.call call).1.service.kind = r.service.kind := by
  rcases r.call_cases call with ⟨served, kept, alike, -⟩ | ⟨lacks, alike, -⟩ <;>
    rw [alike.kind_eq]
  rfl

/-- A call that only has a codec handed out answers with it, as the registry then shows it. -/
theorem result_call_eq (r : Registry) (handsOut : call.handsOut = true) :
    (r.call call).2.result = .ok (.codec (r.codec call.format)
      ((r.call call).1.label? (r.codec call.format))) := by
  cases call with
  | codecFor F => rfl
  | accessor F =>
    rw [call_accessor]
    rfl
  | use thread F request => exact absurd handsOut (by simp [RegistryCall.handsOut])

theorem result_call_of_handsOut (r : Registry) (handsOut : call.handsOut = true) :
    ∃ label, (r.call call).2.result = .ok (.codec (r.codec call.format) label) :=
  ⟨_, r.result_call_eq handsOut⟩

end Registry

end CloudClient
