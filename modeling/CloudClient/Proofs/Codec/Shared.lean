import CloudClient.Proofs.Codec.Binding

namespace CloudClient

/-!
# The shared registry in use

* `CenturyPivot.fulfil` — what a simple service makes of a request that may have failed already;
* `Registry.Answers` — a registry whose codecs are all over simple services;
* `Registry.Answers.codecFor`, `Registry.Answers.ask_eq` — it stays a registry of this kind, and
  answers as the service of the format does;
* `Registry.Serves` — a registry over a simple service that was given no codec;
* `SharedRegistry.Tied` — what the shared registry has made goes with the configured pivot;
* `SharedRegistry.Tied.get_eq_ok`, `SharedRegistry.Tied.get_eq_error` — there is a shared registry
  exactly if the configured pivot is one.
-/

/-- What a service with this pivot makes of a request in a format, which may have failed already. -/
def CenturyPivot.fulfil (p : CenturyPivot) (F : WireFormat) :
    Except DateError CodecRequest → Outcome Reply
  | .ok request => p.answer (request.at F)
  | .error e => ⟨[], .error e⟩

/-- A value that a key has already changes nothing. -/
theorem putEntry_of_lookup {α : Type} {key : WireFormat} {value : α}
    {entries : List (WireFormat × α)}
    (found : entries.lookup key = some value) : putEntry key value entries = entries := by
  induction entries with
  | nil => exact absurd found (by simp)
  | cons entry rest ih =>
    obtain ⟨k, v⟩ := entry
    by_cases same : k = key
    · subst same
      rw [List.lookup_cons_self, Option.some.injEq] at found
      rw [putEntry, if_pos rfl, found]
    · rw [List.lookup_cons, beq_eq_false_iff_ne.mpr (Ne.symm same)] at found
      rw [putEntry, if_neg same, ih found]

namespace Registry

variable {r : Registry} {p : CenturyPivot} {pivot : WireFormat → CenturyPivot} {F : WireFormat}

/-! ### A registry whose codecs are all over simple services -/

theorem service_codecFor (r : Registry) (F : WireFormat) :
    (r.codecFor F).1.service = r.service := by
  unfold Registry.codecFor
  split <;> rfl

/-- The service behind the codec for each format, or the one that a codec will be made over, is a
    simple service with the pivot of the format. -/
structure Answers (r : Registry) (pivot : WireFormat → CenturyPivot) : Prop where
  kept : ∀ F served, r.kept? F = some served → ∃ dedicated ref,
    served.codec = .dated ⟨dedicated, F, ref⟩ ∧ r.behind ref = .simple (pivot F)
  lacks : ∀ F, r.kept? F = none → r.service = .simple (pivot F)

theorem Answers.made (answers : r.Answers pivot) (lacks : r.kept? F = none) :
    (r.made F).Answers pivot := by
  refine ⟨?_, ?_⟩
  · intro G served kept
    by_cases same : G = F
    · subst same
      rw [kept?_made_self] at kept
      obtain rfl := Option.some.inj kept
      exact ⟨true, .registry, rfl, answers.lacks G lacks⟩
    · rw [kept?_made_of_ne r same] at kept
      exact answers.kept G served kept
  · intro G lacks'
    by_cases same : G = F
    · subst same
      exact answers.lacks G lacks
    · rw [kept?_made_of_ne r same] at lacks'
      exact answers.lacks G lacks'

/-- Handing out a codec leaves such a registry. -/
theorem Answers.codecFor (answers : r.Answers pivot) (F : WireFormat) :
    (r.codecFor F).1.Answers pivot := by
  cases kept : r.kept? F with
  | some served =>
    rw [codecFor_of_kept kept]
    exact answers
  | none =>
    rw [codecFor_of_lack kept]
    exact answers.made kept

/-- The service that is behind a codec anyway changes nothing. -/
theorem putBack_behind {serial : Nat} {c : BoundCodec ServiceRef}
    (kept : r.kept? F = some ⟨serial, .dated c⟩) :
    r.putBack F serial c (r.behind c.service) = r := by
  obtain ⟨dedicated, G, ref⟩ := c
  cases ref with
  | registry => rfl
  | brought s =>
    simp only [putBack, behind, putEntry_of_lookup (lookup_of_kept? kept)]

/-- Using a codec changes the registry no more than handing it out, and its answer is the one of the
    service with the pivot of the format. -/
theorem Answers.ask_eq (answers : r.Answers pivot) (thread : String) (F : WireFormat)
    (request : Except DateError CodecRequest) : r.ask thread F request
      = ((r.codecFor F).1,
        ⟨(r.codecFor F).2.1 ++ ((pivot F).fulfil F request).events,
          ((pivot F).fulfil F request).result⟩) := by
  have kept := r.kept?_codecFor F
  have after := answers.codecFor F
  unfold Registry.ask
  generalize r.codecFor F = fetched at kept after ⊢
  obtain ⟨s, events, serial, codec⟩ := fetched
  cases request with
  | error e => simp only [CenturyPivot.fulfil, List.append_nil]
  | ok request =>
    obtain ⟨dedicated, ref, rfl, simple⟩ := after.kept F _ kept
    -- A simple service stays as it is.
    have back := putBack_behind kept
    have asked : ((BoundCodec.mk dedicated F ref).map s.behind).ask thread request
        = (s.behind ref, (pivot F).answer (request.at F)) := by
      rw [BoundCodec.ask_eq]
      show (s.behind ref).ask thread (request.at F) = _
      rw [simple]
      rfl
    simp only [asked, back]
    rfl

/-! ### A registry over a simple service without given codecs -/

/-- The registry makes its codecs over a simple service with the pivot, and keeps no codec that was
    given to it. -/
structure Serves (r : Registry) (p : CenturyPivot) : Prop where
  service_eq : r.service = .simple p
  own : ∀ F served, r.kept? F = some served → ∃ n, served = .own F n

theorem serves_ofService (p : CenturyPivot) : (ofService (.simple p)).Serves p where
  service_eq := rfl
  own := by
    intro F served kept
    exact absurd kept (by simp [ofService, kept?])

/-- Handing out a codec leaves such a registry. -/
theorem Serves.codecFor (serves : r.Serves p) (F : WireFormat) : (r.codecFor F).1.Serves p where
  service_eq := by
    rw [service_codecFor, serves.service_eq]
  own := fun G => Owns.call (serves.own G) (.codecFor F)

/-- It reports the codec that it hands out if it makes it only now. -/
theorem Serves.events_codecFor (serves : r.Serves p) (F : WireFormat) : (r.codecFor F).2.1
    = if (r.mark? F).isSome then [] else [.codecCreated F ⟨true, F, .simple⟩] := by
  unfold mark?
  cases kept : r.kept? F with
  | some served =>
    rw [codecFor_of_kept kept]
    rfl
  | none =>
    rw [codecFor_of_lack kept, serves.service_eq]
    rfl

theorem Serves.answers (serves : r.Serves p) : r.Answers fun _ => p where
  kept := by
    intro F served kept
    obtain ⟨n, rfl⟩ := serves.own F served kept
    exact ⟨true, .registry, rfl, serves.service_eq⟩
  lacks := fun _ _ => serves.service_eq

/-- Using a codec changes the registry no more than handing it out, and its answer is the one of the
    service. -/
theorem Serves.ask_eq (serves : r.Serves p) (thread : String) (F : WireFormat)
    (request : Except DateError CodecRequest) : r.ask thread F request
      = ((r.codecFor F).1,
        ⟨(r.codecFor F).2.1 ++ (p.fulfil F request).events, (p.fulfil F request).result⟩) :=
  serves.answers.ask_eq thread F request

end Registry

/-! ### The shared registry -/

namespace SharedRegistry

variable {s : SharedRegistry} {p : CenturyPivot} {e : DateError}

/-- The shared registry is not made yet, or it was made with the configured pivot and given no
    codec. -/
def Tied (s : SharedRegistry) : Prop :=
  ∀ r, s.made = some r → ∃ p, CenturyPivot.ofInt s.configured = .ok p ∧ r.Serves p

theorem tied_unused (configured : Int) : (unused configured).Tied := by
  intro r made
  exact absurd made (by simp [unused])

/-- With a pivot that is one, the shared registry is there for everybody who asks. -/
theorem Tied.get_eq_ok (tied : s.Tied) (ok : CenturyPivot.ofInt s.configured = .ok p) :
    ∃ r, s.get = .ok r ∧ r.Serves p := by
  unfold get
  cases made : s.made with
  | some r =>
    -- It was made with some pivot, which can only be the configured one.
    obtain ⟨q, other, serves⟩ := tied r made
    obtain rfl : q = p := Except.ok.inj (other.symm.trans ok)
    exact ⟨r, rfl, serves⟩
  | none =>
    simp only [Service.ofPivot, Option.getD_none, ok]
    exact ⟨_, rfl, Registry.serves_ofService p⟩

/-- With a pivot that is none, everybody who asks gets the report on it. -/
theorem Tied.get_eq_error (tied : s.Tied) (bad : CenturyPivot.ofInt s.configured = .error e) :
    s.get = .error e := by
  unfold get
  cases made : s.made with
  | some r =>
    obtain ⟨q, other, -⟩ := tied r made
    exact absurd (other.symm.trans bad) (by simp)
  | none =>
    simp only [Service.ofPivot, Option.getD_none, bad]
    rfl

end SharedRegistry

end CloudClient
