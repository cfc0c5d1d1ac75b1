import CloudClient.Codec.Visit

namespace CloudClient

/-!
# One visit to a service with delegates

* `PerThread.factory` — what the factory makes of a call;
* `PerThread.called`, `PerThread.granted` — the service after a call of the factory that failed, and
  after one that gave the thread a delegate;
* `PerThread.visit_of_owner`, `PerThread.visit_of_made`, `PerThread.visit_of_failed`,
  `PerThread.visit_cases` — the three things that a visit can do;
* `PerThread.delegate?_visit_of_some`, `PerThread.delegate?_visit_of_ne`, `PerThread.calls_visit`,
  `PerThread.pivotOfCall_visit` — what a visit keeps.
-/

/-- What the factory makes of the call with a number: a simple service with the pivot of the call,
    or a report on this pivot. -/
def PerThread.factory (s : PerThread) (call : Nat) : Except DateError Service :=
  Service.ofPivot s.configured (some (s.pivotOfCall call))

/-- The answer is a failure of the factory. -/
def Outcome.isRefusal {α : Type} (o : Outcome α) : Bool := o.result matches .error (.invalidPivot _)

namespace PerThread

variable {s : PerThread} {call : Nat} {t u : String} {v : Visit}

/-! ### The factory -/

/-- The factory's call gives a service. -/
def grants (s : PerThread) (call : Nat) : Bool := (CenturyPivot.ofInt? (s.pivotOfCall call)).isSome

theorem factory_eq_ok_iff {service : Service} : s.factory call = .ok service ↔
    ∃ p, CenturyPivot.ofInt? (s.pivotOfCall call) = some p ∧ service = .simple p := by
  unfold factory Service.ofPivot CenturyPivot.ofInt
  rw [Option.getD_some]
  cases CenturyPivot.ofInt? (s.pivotOfCall call) <;> simp [Except.map, eq_comm]

theorem factory_eq_error_iff {e : DateError} : s.factory call = .error e ↔
    s.grants call = false ∧ e = .invalidPivot (s.pivotOfCall call) := by
  unfold factory Service.ofPivot CenturyPivot.ofInt grants
  rw [Option.getD_some]
  cases CenturyPivot.ofInt? (s.pivotOfCall call) <;> simp [Except.map, eq_comm]

/-- The answer of a simple service is never a failure of the factory. -/
theorem isRefusal_answer (p : CenturyPivot) (r : Request) : (p.answer r).isRefusal = false := by
  cases r with
  | parse format value =>
    simp only [CenturyPivot.answer, CenturyPivot.parse]
    cases format.read p value with
    | ok i => rfl
    | error rejection =>
      rcases rejection.error_cases format value with ⟨report, error⟩ | ⟨fault, error⟩ <;>
        simp only [error] <;> rfl
  | render format value =>
    cases value with
    | stamp x =>
      simp only [CenturyPivot.answer, CenturyPivot.render, TimeValue.instant]
      cases x.instant? <;> rfl
    | dateOnly => rfl
    | other v => rfl

/-- A simple service does not report that a thread got a delegate. -/
theorem delegateCreated_notMem_answer (p : CenturyPivot) (r : Request) :
    Event.delegateCreated t ∉ (p.answer r).events := by
  cases r with
  | parse format value =>
    simp only [CenturyPivot.answer, CenturyPivot.parse]
    cases format.read p value with
    | ok i => simp
    | error rejection =>
      simp only [Option.mem_toList]
      unfold Rejection.event?
      split <;> simp
  | render format value => simp [CenturyPivot.answer]

/-! ### What a visit does -/

/-- The service after a call of the factory that failed. -/
def called (s : PerThread) : PerThread := { s with calls := s.calls + 1 }

/-- The service after a call of the factory that gave the thread a delegate. -/
def granted (s : PerThread) (thread : String) (p : CenturyPivot) : PerThread :=
  { s.called with delegates := (thread, ⟨s.calls, p⟩) :: s.delegates }

@[simp] theorem calls_called (s : PerThread) : s.called.calls = s.calls + 1 := rfl

@[simp] theorem calls_granted (s : PerThread) (t : String) (p : CenturyPivot) :
    (s.granted t p).calls = s.calls + 1 := rfl

@[simp] theorem delegate?_called (s : PerThread) (t : String) :
    s.called.delegate? t = s.delegate? t := rfl

theorem delegate?_granted (s : PerThread) (t u : String) (p : CenturyPivot) :
    (s.granted t p).delegate? u = if u = t then some ⟨s.calls, p⟩ else s.delegate? u := by
  show ((t, _) :: s.delegates).lookup u = _
  rw [List.lookup_cons]
  by_cases same : u = t
  · rw [if_pos same, beq_iff_eq.mpr same]
  · rw [if_neg same, beq_eq_false_iff_ne.mpr same]
    rfl

/-- A thread that has a delegate leaves the service as it is. -/
theorem visit_of_owner {d : Delegate} (has : s.delegate? v.thread = some d) :
    s.visit v = (s, d.pivot.answer v.request) := by
  rw [visit_eq_ask]
  simp only [ask, forward, acquire, has]
  rfl

/-- A call of the factory that succeeds gives the thread a delegate, which answers. -/
theorem visit_of_made {p : CenturyPivot} (lacks : s.delegate? v.thread = none)
    (made : CenturyPivot.ofInt? (s.pivotOfCall s.calls) = some p) :
    s.visit v = (s.granted v.thread p,
      ⟨.delegateCreated v.thread :: (p.answer v.request).events, (p.answer v.request).result⟩) := by
  rw [visit_eq_ask]
  simp only [ask, forward, acquire, lacks, CenturyPivot.ofInt, made]
  rfl

/-- A call of the factory that fails is all that the visit leaves behind. -/
theorem visit_of_failed (lacks : s.delegate? v.thread = none)
    (failed : s.grants s.calls = false) :
    s.visit v = (s.called, ⟨[], .error (.invalidPivot (s.pivotOfCall s.calls))⟩) := by
  have none_made := Option.isSome_eq_false_iff.mp failed
  rw [Option.isNone_iff_eq_none] at none_made
  rw [visit_eq_ask]
  simp only [ask, forward, acquire, lacks, CenturyPivot.ofInt, none_made]
  rfl

/-- A visit is answered by the thread's delegate, or by a new delegate that the factory makes, or it
    is refused because the factory fails. -/
theorem visit_cases (s : PerThread) (v : Visit) :
    (∃ d, s.delegate? v.thread = some d ∧ s.visit v = (s, d.pivot.answer v.request)) ∨
    (∃ p, s.delegate? v.thread = none ∧ CenturyPivot.ofInt? (s.pivotOfCall s.calls) = some p ∧
      s.visit v = (s.granted v.thread p,
        ⟨.delegateCreated v.thread :: (p.answer v.request).events, (p.answer v.request).result⟩)) ∨
    (s.delegate? v.thread = none ∧ s.grants s.calls = false ∧
      s.visit v = (s.called, ⟨[], .error (.invalidPivot (s.pivotOfCall s.calls))⟩)) := by
  cases has : s.delegate? v.thread with
  | some d => exact .inl ⟨d, rfl, visit_of_owner has⟩
  | none =>
    cases made : CenturyPivot.ofInt? (s.pivotOfCall s.calls) with
    | some p => exact .inr (.inl ⟨p, rfl, rfl, visit_of_made has made⟩)
    | none =>
      have failed : s.grants s.calls = false := by
        rw [grants, made]
        rfl
      exact .inr (.inr ⟨rfl, failed, visit_of_failed has failed⟩)

/-! ### What a visit keeps -/

/-- A thread keeps its delegate. -/
theorem delegate?_visit_of_some {d : Delegate} (v : Visit) (has : s.delegate? t = some d) :
    (s.visit v).1.delegate? t = some d := by
  rcases s.visit_cases v with ⟨_, -, step⟩ | ⟨p, lacks, -, step⟩ | ⟨-, -, step⟩ <;> rw [step]
  · exact has
  · rw [delegate?_granted, if_neg]
    · exact has
    · rintro rfl
      rw [lacks] at has
      exact absurd has (by simp)
  · exact has

/-- A visit of another thread does not matter to a thread. -/
theorem delegate?_visit_of_ne (other : v.thread ≠ t) :
    (s.visit v).1.delegate? t = s.delegate? t := by
  rcases s.visit_cases v with ⟨d, -, step⟩ | ⟨p, -, -, step⟩ | ⟨-, -, step⟩ <;> rw [step]
  · rw [delegate?_granted, if_neg (Ne.symm other)]
  · rw [delegate?_called]

/-- The factory is called at most once, exactly if the thread has no delegate. -/
theorem calls_visit (s : PerThread) (v : Visit) : (s.visit v).1.calls
    = s.calls + if s.delegate? v.thread = none then 1 else 0 := by
  rcases s.visit_cases v with ⟨d, has, step⟩ | ⟨p, lacks, -, step⟩ | ⟨lacks, -, step⟩ <;> rw [step]
  · rw [if_neg (by rw [has]; simp)]
    rfl
  · rw [if_pos lacks]
    rfl
  · rw [if_pos lacks]
    rfl

/-- The factory stays the same. -/
theorem pivotOfCall_visit (s : PerThread) (v : Visit) :
    (s.visit v).1.pivotOfCall = s.pivotOfCall := by
  rcases s.visit_cases v with ⟨d, -, step⟩ | ⟨p, -, -, step⟩ | ⟨-, -, step⟩ <;> rw [step] <;> rfl

end PerThread

end CloudClient
