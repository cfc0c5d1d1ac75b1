import CloudClient.Codec.Visit
import CloudClient.Proofs.Codec.Shared
import CloudClient.Proofs.Wire.Rendering
import Mathlib.Tactic.Choose

namespace CloudClient

/-!
# A registry beside the shared one

Uses of a registry of one's own and uses of the shared one come in any order.

* `SharedRegistry.step` — one use of the shared registry;
* `Registries.step_shared`, `Registries.step_own` — a use of one registry does not touch the other;
* `Registries.shown`, `Registries.shown_filter` — what the uses of one show is the same without
  those of the other;
* `Registry.answers_of_build` — a registry with given codecs over simple services answers in each
  format by the service of this format;
* `Registry.Answers.step`, `SharedRegistry.Tied.step` — it stays so from use to use;
* `registries_answer_apart` — all this together.
-/

/-- One use of the shared registry by a thread. -/
def SharedRegistry.step (s : SharedRegistry) (thread : String) (use : RegistryStep) :
    SharedRegistry × Outcome StepResult :=
  match s.get with
  | .error e => (s, ⟨[], .error e⟩)
  | .ok r => ({ s with made := some (r.step thread use).1 }, (r.step thread use).2)

namespace Registries

variable (rs : Registries) (thread : String) (use : RegistryStep)

/-! ### One use -/

theorem step_shared : rs.step thread true use
    = ({ rs with shared := (rs.shared.step thread use).1 }, (rs.shared.step thread use).2) := by
  simp only [step, SharedRegistry.step, if_true]
  cases rs.shared.get <;> rfl

theorem step_own : rs.step thread false use
    = ({ rs with own := (rs.own.step thread use).1 }, (rs.own.step thread use).2) := rfl

/-! ### What is shown -/

/-- What the uses of one registry show: the formats with an entry afterwards, what is logged, and
    the result. -/
def shown (onShared : Bool) (steps : List (Bool × RegistryStep)) :
    List (Except DateError (List WireFormat) × Outcome StepResult) :=
  ((steps.zip (rs.runAll thread steps)).filter fun x => x.1.1 = onShared).map fun x =>
    (x.2.1.formats onShared, x.2.2)

/-- Without the uses of the other registry the same is shown. -/
theorem shown_filter (onShared : Bool) (steps : List (Bool × RegistryStep)) :
    rs.shown thread onShared steps = rs.shown thread onShared (steps.filter (·.1 = onShared)) := by
  let step := fun (rs : Registries) (s : Bool × RegistryStep) => rs.step thread s.1 s.2
  let look := fun x : Registries × Outcome StepResult => (x.1.formats onShared, x.2)
  -- Two states agree that have the same registry on the side that is watched.
  cases onShared with
  | true =>
    refine observed_filter step (·.1 = true) look (motive := fun rs ts => rs.shared = ts.shared)
      ?_ ?_ rfl steps
    · rintro rs ts ⟨side, use⟩ other agree
      obtain rfl : side = false := by simpa using other
      exact agree
    · rintro rs ts ⟨side, use⟩ here agree
      obtain rfl : side = true := by simpa using here
      simp only [step, look, step_shared, agree]
      exact ⟨rfl, trivial⟩
  | false =>
    refine observed_filter step (·.1 = false) look (motive := fun rs ts => rs.own = ts.own)
      ?_ ?_ rfl steps
    · rintro rs ts ⟨side, use⟩ other agree
      obtain rfl : side = true := by simpa using other
      simp only [step, step_shared, agree]
    · rintro rs ts ⟨side, use⟩ here agree
      obtain rfl : side = false := by simpa using here
      simp only [step, look, step_own, agree]
      exact ⟨rfl, trivial⟩

end Registries

/-! ### A registry over simple services -/

/-- To read a value a codec of a simple service asks the service to parse it. -/
theorem CenturyPivot.map_reply_fulfil_toDate (q : CenturyPivot) (F : WireFormat) (v : Datum) :
    (q.fulfil F (.ok (.toDate v))).result.map StepResult.reply
      = (q.parse F v).result.map fun i => .reply (.instant i) := by
  show ((q.parse F v).result.map Reply.instant).map StepResult.reply = _
  cases (q.parse F v).result <;> rfl

/-- To write a value it asks the service to render it. -/
theorem CenturyPivot.map_reply_fulfil_toText (q : CenturyPivot) (F : WireFormat) (x : TimeValue) :
    (q.fulfil F (.ok (.toText x))).result.map StepResult.reply
      = (CenturyPivot.render F x).map fun t => .reply (.text t) := by
  show ((CenturyPivot.render F x).map Reply.text).map StepResult.reply = _
  cases CenturyPivot.render F x <;> rfl

namespace Registry

variable {r : Registry} {p : CenturyPivot} {pivot : WireFormat → CenturyPivot} {F : WireFormat}
  {given : List (WireFormat × Option (Codec Service))}

/-- A registry over a simple service that is given codecs over simple services answers in each
    format by the service behind the codec given for the format, or by its own one. -/
theorem answers_of_build (mapping : (given.map Prod.fst).Nodup)
    (built : build (.simple p) given = .ok r)
    (behind : ∀ F c, (given.lookup F).join = some c →
      ∃ dedicated G, c = .dated ⟨dedicated, G, .simple (pivot F)⟩)
    (others : ∀ F, (given.lookup F).join = none → pivot F = p) : r.Answers pivot := by
  refine ⟨?_, ?_⟩
  · intro F served kept
    cases there : (given.lookup F).join with
    | none => exact absurd ((lacks_of_build mapping built there).symm.trans kept) (by simp)
    | some c =>
      obtain ⟨k, kept'⟩ := kept?_of_build mapping built there
      obtain rfl := Option.some.inj (kept.symm.trans kept')
      obtain ⟨dedicated, G, rfl⟩ := behind F c there
      obtain rfl : G = F := format_of_given mapping built there rfl
      exact ⟨dedicated, .brought _, rfl, rfl⟩
  · intro F lacks
    cases there : (given.lookup F).join with
    | none => rw [others F there, (opens_of_build mapping built).service_eq]
    | some c =>
      obtain ⟨k, kept⟩ := kept?_of_build mapping built there
      exact absurd (lacks.symm.trans kept) (by simp)

/-- It stays so from use to use. -/
theorem Answers.step (answers : r.Answers pivot) (thread : String) (use : RegistryStep) :
    (r.step thread use).1.Answers pivot := by
  cases use with
  | get F => exact answers.codecFor F
  | ask F request =>
    simp only [Registry.step, answers.ask_eq]
    exact answers.codecFor F
  | service => exact answers

/-- What is asked is answered by the service of the format. -/
theorem Answers.result_step_ask (answers : r.Answers pivot) (thread : String)
    (request : Except DateError CodecRequest) : (r.step thread (.ask F request)).2.result
      = ((pivot F).fulfil F request).result.map .reply := by
  simp only [Registry.step, answers.ask_eq]

theorem Serves.step (serves : r.Serves p) (thread : String) (use : RegistryStep) :
    (r.step thread use).1.Serves p := by
  cases use with
  | get F => exact serves.codecFor F
  | ask F request =>
    simp only [Registry.step, serves.ask_eq]
    exact serves.codecFor F
  | service => exact serves

end Registry

/-! ### The shared registry from use to use -/

namespace SharedRegistry

variable {s : SharedRegistry} {p : CenturyPivot} {e : DateError}

theorem configured_step (s : SharedRegistry) (thread : String) (use : RegistryStep) :
    (s.step thread use).1.configured = s.configured := by
  unfold step
  cases s.get <;> rfl

/-- With a pivot that is none, a use gets the report on it and leaves nothing behind. -/
theorem Tied.step_of_error (tied : s.Tied) (bad : CenturyPivot.ofInt s.configured = .error e)
    (thread : String) (use : RegistryStep) : s.step thread use = (s, ⟨[], .error e⟩) := by
  simp only [step, tied.get_eq_error bad]

/-- With a pivot that is one, a use is one of a registry over its simple service. -/
theorem Tied.step_of_ok (tied : s.Tied) (ok : CenturyPivot.ofInt s.configured = .ok p)
    (thread : String) (use : RegistryStep) : ∃ r : Registry, r.Serves p ∧
      s.step thread use
        = ({ s with made := some (r.step thread use).1 }, (r.step thread use).2) := by
  obtain ⟨r, got, serves⟩ := tied.get_eq_ok ok
  exact ⟨r, serves, by simp only [step, got]⟩

theorem Tied.step (tied : s.Tied) (thread : String) (use : RegistryStep) :
    (s.step thread use).1.Tied := by
  cases pivot : CenturyPivot.ofInt s.configured with
  | error e =>
    rw [tied.step_of_error pivot]
    exact tied
  | ok p =>
    obtain ⟨r, serves, step⟩ := tied.step_of_ok pivot thread use
    rw [step]
    rintro _ ⟨⟩
    exact ⟨p, pivot, serves.step thread use⟩

end SharedRegistry

/-! ### Both registries from use to use -/

namespace Registries

variable {rs : Registries} {pivot : WireFormat → CenturyPivot} {configured : Int}
  {steps : List (Bool × RegistryStep)} {n : Nat} {onShared : Bool} {use : RegistryStep}

/-- The registry of one's own answers by the services of the formats, and the shared one goes with
    the configured pivot. -/
structure Keeps (rs : Registries) (pivot : WireFormat → CenturyPivot) (configured : Int) :
    Prop where
  own : rs.own.Answers pivot
  tied : rs.shared.Tied
  configured_eq : rs.shared.configured = configured

theorem Keeps.step (keeps : rs.Keeps pivot configured) (thread : String) (onShared : Bool)
    (use : RegistryStep) : (rs.step thread onShared use).1.Keeps pivot configured := by
  cases onShared with
  | true =>
    rw [step_shared]
    exact ⟨keeps.own, keeps.tied.step thread use,
      (rs.shared.configured_step thread use).trans keeps.configured_eq⟩
  | false => exact ⟨keeps.own.step thread use, keeps.tied, keeps.configured_eq⟩

/-- Each use starts from registries of this kind. -/
theorem Keeps.exists_step (keeps : rs.Keeps pivot configured) (thread : String)
    (here : steps[n]? = some (onShared, use)) : ∃ now : Registries, now.Keeps pivot configured ∧
      (rs.runAll thread steps)[n]? = some (now.step thread onShared use) := by
  refine ⟨finalState (fun rs s => rs.step thread s.1 s.2) rs (steps.take n), ?_, ?_⟩
  · exact finalState_induction (motive := fun rs : Registries => rs.Keeps pivot configured) keeps
      (fun _ s keeps => keeps.step thread s.1 s.2) _
  · rw [runAll, getElem?_history, here]
    rfl

end Registries

/-- A registry over a simple service, with codecs over simple services given for some formats, is
    used beside the shared one, in any order:

* what is asked of a codec for a format is parsed or rendered in this format, whatever came before,
  with the pivot of the service behind the codec that was given for the format, or else with that of
  the registry's own service;
* the same holds of the shared registry, whose service has the configured pivot;
* the formats with an entry, the log and the results of the uses of one registry are the same
  without the uses of the other;
* if the configured pivot is none, each use of the shared registry gets the report on this wrong
  value, and there is no shared registry afterwards. -/
theorem registries_answer_apart (p : CenturyPivot)
    (given : List (WireFormat × Option (Codec Service))) (mapping : (given.map Prod.fst).Nodup)
    (simple : ∀ F c, (F, some c) ∈ given → ∃ dedicated G q, c = .dated ⟨dedicated, G, .simple q⟩)
    (r : Registry) (built : Registry.build (.simple p) given = .ok r) (configured : Int)
    (thread : String) (steps : List (Bool × RegistryStep)) :
    let rs : Registries := ⟨r, .unused configured⟩
    let pivot (F : WireFormat) : CenturyPivot :=
      match (given.lookup F).join with
      | some (.dated ⟨_, _, .simple q⟩) => q
      | _ => p
    let answer (q : CenturyPivot) (F : WireFormat) (request : Except DateError CodecRequest) :
        Except DateError StepResult :=
      match request with
      | .error e => .error e
      | .ok (.toDate v) => (q.parse F v).result.map fun i => .reply (.instant i)
      | .ok (.toText x) => (CenturyPivot.render F x).map fun t => .reply (.text t)
    (∀ (n : Nat) (F : WireFormat) (request : Except DateError CodecRequest),
      steps[n]? = some (false, .ask F request) →
      ∃ (now : Registries) (o : Outcome StepResult), (rs.runAll thread steps)[n]? = some (now, o) ∧
        o.result = answer (pivot F) F request) ∧
    (∀ q, CenturyPivot.ofInt configured = .ok q →
      ∀ (n : Nat) (F : WireFormat) (request : Except DateError CodecRequest),
      steps[n]? = some (true, .ask F request) →
      ∃ (now : Registries) (o : Outcome StepResult), (rs.runAll thread steps)[n]? = some (now, o) ∧
        o.result = answer q F request) ∧
    (∀ onShared, rs.shown thread onShared steps
      = rs.shown thread onShared (steps.filter (·.1 = onShared))) ∧
    (¬ (0 ≤ configured ∧ configured ≤ 99) →
      (DateError.invalidPivot configured).errorClass = .value ∧
      ∀ (n : Nat) (use : RegistryStep), steps[n]? = some (true, use) →
      ∃ now : Registries,
        (rs.runAll thread steps)[n]? = some (now, ⟨[], .error (.invalidPivot configured)⟩) ∧
        now.formats true = .error (.invalidPivot configured)) := by
  intro rs pivot answer
  have answer_eq (q : CenturyPivot) (F : WireFormat) (request : Except DateError CodecRequest) :
      (q.fulfil F request).result.map StepResult.reply = answer q F request := by
    rcases request with e | v | x
    · rfl
    · exact q.map_reply_fulfil_toDate F v
    · exact q.map_reply_fulfil_toText F x
  have behind (F : WireFormat) (c : Codec Service) (there : (given.lookup F).join = some c) :
      ∃ dedicated G, c = .dated ⟨dedicated, G, .simple (pivot F)⟩ := by
    obtain ⟨dedicated, G, q, rfl⟩ := simple F c (mem_of_lookup there)
    exact ⟨dedicated, G, by simp only [pivot, there]⟩
  have others (F : WireFormat) (there : (given.lookup F).join = none) : pivot F = p := by
    simp only [pivot, there]
  have keeps : rs.Keeps pivot configured :=
    ⟨Registry.answers_of_build mapping built behind others,
      SharedRegistry.tied_unused configured, rfl⟩
  refine ⟨?_, ?_, fun onShared => rs.shown_filter thread onShared steps, ?_⟩
  · intro n F request here
    obtain ⟨now, keeps, there⟩ := keeps.exists_step thread here
    exact ⟨_, _, there, (keeps.own.result_step_ask thread request).trans (answer_eq _ F request)⟩
  · intro q ok n F request here
    obtain ⟨now, keeps, there⟩ := keeps.exists_step thread here
    obtain ⟨s, serves, step⟩ :=
      keeps.tied.step_of_ok (keeps.configured_eq ▸ ok) thread (.ask F request)
    rw [Registries.step_shared, step] at there
    exact ⟨_, _, there,
      (serves.answers.result_step_ask thread request).trans (answer_eq q F request)⟩
  · intro bad
    refine ⟨rfl, ?_⟩
    intro n use here
    obtain ⟨now, keeps, there⟩ := keeps.exists_step thread here
    have report := CenturyPivot.ofInt_eq_error_iff.mpr ⟨bad, rfl⟩
    rw [← keeps.configured_eq] at report ⊢
    rw [Registries.step_shared, keeps.tied.step_of_error report] at there
    refine ⟨_, there, ?_⟩
    simp only [Registries.formats, if_true, keeps.tied.get_eq_error report]
    rfl

/-- The codec given for a format reads a year by its own pivot 50, and the shared registry, used by
    turns, by the configured 70.  With the configured 100 the shared registry refuses the first
    use. -/
theorem registries_answer_apart_by_turns :
    let given : List (WireFormat × Option (Codec Service)) :=
      [(.iso8601, none), (.rfc822, some (.dated ⟨false, .rfc822, .simple ⟨50, by decide⟩⟩))]
    let request : Except DateError CodecRequest :=
      .ok (.toDate (.text "Fri, 01 Jan 60 00:00:00 GMT"))
    let steps : List (Bool × RegistryStep) :=
      [(true, .get .rfc822), (false, .ask .rfc822 request), (true, .ask .rfc822 request)]
    (given.map Prod.fst).Nodup ∧
    ∃ r, Registry.build (.simple ⟨69, by decide⟩) given = .ok r ∧
      (∃ (now : Registries) (o : Outcome StepResult),
        (Registries.runAll ⟨r, .unused 70⟩ "a" steps)[1]? = some (now, o) ∧
        o.result = .ok (.reply (.instant ⟨-315619200000, by decide, by decide⟩))) ∧
      (∃ (now : Registries) (o : Outcome StepResult),
        (Registries.runAll ⟨r, .unused 70⟩ "a" steps)[2]? = some (now, o) ∧
        o.result = .ok (.reply (.instant ⟨2840140800000, by decide, by decide⟩))) ∧
      ∃ now : Registries, (Registries.runAll ⟨r, .unused 100⟩ "a" steps)[0]?
        = some (now, ⟨[], .error (.invalidPivot 100)⟩) := by
  intro given request steps
  have mapping : (given.map Prod.fst).Nodup := by decide
  have simple (F : WireFormat) (c : Codec Service) (mem : (F, some c) ∈ given) :
      ∃ dedicated G q, c = .dated ⟨dedicated, G, .simple q⟩ := by
    obtain ⟨-, rfl⟩ : F = .rfc822 ∧ c = _ := by simpa [given] using mem
    exact ⟨_, _, _, rfl⟩
  have built : Registry.build (.simple ⟨69, by decide⟩) given = .ok ⟨.simple ⟨69, by decide⟩,
      [(.iso8601, none),
        (.rfc822, some (.given 0 (.dated ⟨false, .rfc822, .simple ⟨50, by decide⟩⟩)))], 1⟩ := rfl
  obtain ⟨own, shared, -, -⟩ :=
    registries_answer_apart ⟨69, by decide⟩ given mapping simple _ built 70
    "a" steps
  obtain ⟨-, -, -, refused⟩ :=
    registries_answer_apart ⟨69, by decide⟩ given mapping simple _ built 100
    "a" steps
  refine ⟨mapping, _, built, ?_, ?_, ?_⟩
  · obtain ⟨now, o, there, result⟩ := own 1 .rfc822 request rfl
    have read : (CenturyPivot.parse ⟨50, by decide⟩ .rfc822
        (.text "Fri, 01 Jan 60 00:00:00 GMT")).result
        = .ok ⟨-315619200000, by decide, by decide⟩ :=
      CenturyPivot.parse_text_eq_ok_iff.mpr (by decide +kernel)
    exact ⟨now, o, there, result.trans (congrArg (Except.map _) read)⟩
  · obtain ⟨now, o, there, result⟩ := shared ⟨70, by decide⟩ rfl 2 .rfc822 request rfl
    have read : (CenturyPivot.parse ⟨70, by decide⟩ .rfc822
        (.text "Fri, 01 Jan 60 00:00:00 GMT")).result
        = .ok ⟨2840140800000, by decide, by decide⟩ :=
      CenturyPivot.parse_text_eq_ok_iff.mpr (by decide +kernel)
    exact ⟨now, o, there, result.trans (congrArg (Except.map _) read)⟩
  · obtain ⟨-, each⟩ := refused (by decide)
    obtain ⟨now, there, -⟩ := each 0 (.get .rfc822) rfl
    exact ⟨now, there⟩

end CloudClient
