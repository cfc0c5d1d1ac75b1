import CloudClient.Proofs.Service.Visit

namespace CloudClient

/-!
# The delegates of threads along a row of visits

Visits have numbers, from 0, and so have the calls of the factory.

* `PerThread.after` — the service after the first visits of a row;
* `PerThread.CallsAt` — a visit makes a call of the factory;
* `PerThread.Gains` — the call gives the thread a service of its own;
* `PerThread.gains_of_delegate?`, `PerThread.Gains.delegate?_after` — a thread has what it gained,
  and keeps it;
* `PerThread.CallsAt.unique`, `PerThread.Gains.unique` — a call is made by one visit, and a thread
  gains a service by one visit;
* `PerThread.result_visit_after` — what a visit is answered;
* `PerThread.outcomesOf_essential` — visits of other threads that have a delegate do not matter;
* `visits_answered_by_own_service` — all this together.
-/

namespace PerThread

/-- The service after the first visits of a row. -/
def after (s : PerThread) (visits : List Visit) (n : Nat) : PerThread :=
  finalState visit s (visits.take n)

/-- The visit with number `n` is one of the thread and makes the call with number `call`. -/
structure CallsAt (s : PerThread) (visits : List Visit) (n : Nat) (t : String) (call : Nat) :
    Prop where
  thread_eq : visits[n]?.map Visit.thread = some t
  calls_before : (s.after visits n).calls = call
  calls_after : (s.after visits (n + 1)).calls = call + 1

/-- The visit with number `n` is one of the thread, and the call that it makes gives the service. -/
structure Gains (s : PerThread) (visits : List Visit) (n : Nat) (t : String) (call : Nat)
    (service : Service) : Prop where
  callsAt : s.CallsAt visits n t call
  made : s.factory call = .ok service

variable {s : PerThread} {visits : List Visit} {m n call call' : Nat} {t u : String} {v : Visit}
  {service service' : Service}

/-! ### The service from visit to visit -/

theorem after_succ (here : visits[n]? = some v) :
    s.after visits (n + 1) = ((s.after visits n).visit v).1 :=
  finalState_take_succ visit s here

theorem after_succ_of_none (gone : visits[n]? = none) :
    s.after visits (n + 1) = s.after visits n :=
  finalState_take_succ_of_none visit s gone

/-- What each visit between two numbers keeps, holds at the second if it holds at the first. -/
theorem after_induction {motive : PerThread → Prop} (le : m ≤ n) (start : motive (s.after visits m))
    (keep : ∀ j v, m ≤ j → j < n → visits[j]? = some v → motive (s.after visits j) →
      motive ((s.after visits j).visit v).1) : motive (s.after visits n) :=
  finalState_take_induction le start keep

/-- The factory stays the same. -/
theorem pivotOfCall_after (s : PerThread) (visits : List Visit) (n : Nat) :
    (s.after visits n).pivotOfCall = s.pivotOfCall := by
  refine after_induction (motive := fun r => r.pivotOfCall = s.pivotOfCall) (Nat.zero_le n) rfl ?_
  intro j v _ _ _ same
  rw [pivotOfCall_visit, same]

/-- What the factory makes of a call is the same after any visits. -/
theorem grants_after (s : PerThread) (visits : List Visit) (n call : Nat) :
    (s.after visits n).grants call = s.grants call := by
  rw [grants, grants, pivotOfCall_after]

/-- A thread keeps its delegate. -/
theorem delegate?_after_mono {d : Delegate} (le : m ≤ n)
    (has : (s.after visits m).delegate? t = some d) : (s.after visits n).delegate? t = some d := by
  refine after_induction (motive := fun r => r.delegate? t = some d) le has ?_
  intro j v _ _ _ has
  exact delegate?_visit_of_some v has

/-- Only visits of a thread change what it has. -/
theorem delegate?_after_of_others (le : m ≤ n)
    (others : ∀ j, m ≤ j → j < n → visits[j]?.map Visit.thread ≠ some t) :
    (s.after visits n).delegate? t = (s.after visits m).delegate? t := by
  refine after_induction (motive := fun r => r.delegate? t = (s.after visits m).delegate? t)
    le rfl ?_
  intro j v from_m to_n here same
  rw [delegate?_visit_of_ne, same]
  rintro rfl
  exact others j from_m to_n (by rw [here]; rfl)

/-- The number of calls grows from visit to visit. -/
theorem calls_after_mono (s : PerThread) (visits : List Visit) (le : m ≤ n) :
    (s.after visits m).calls ≤ (s.after visits n).calls := by
  refine after_induction (motive := fun r => (s.after visits m).calls ≤ r.calls)
    le (Nat.le_refl _) ?_
  intro j v _ _ _ grown
  rw [calls_visit]
  exact Nat.le_add_right_of_le grown

/-! ### Calls of the factory -/

/-- The calls take the pivots in turn. -/
theorem pivotOfCall_of_entry {entry : Option Int} (has : s.pivots[call]? = some entry) :
    s.pivotOfCall call = entry.getD s.configured := by
  rw [pivotOfCall, has, Option.getD_some]

/-- All later calls take the last one. -/
theorem pivotOfCall_of_last {last : Option Int} (beyond : s.pivots.length ≤ call)
    (isLast : s.pivots.getLast? = some last) : s.pivotOfCall call = last.getD s.configured := by
  rw [pivotOfCall, List.getElem?_eq_none beyond, isLast, Option.getD_none, Option.getD_some]

/-- A visit makes a call exactly if its thread has no delegate by then. -/
theorem callsAt_iff : s.CallsAt visits n t call ↔ ∃ v, visits[n]? = some v ∧ v.thread = t ∧
    (s.after visits n).delegate? t = none ∧ (s.after visits n).calls = call := by
  refine ⟨?_, ?_⟩
  · rintro ⟨thread, before, later⟩
    obtain ⟨v, here, rfl⟩ := Option.map_eq_some_iff.mp thread
    rw [after_succ here, calls_visit, before] at later
    by_cases lacks : (s.after visits n).delegate? v.thread = none
    · exact ⟨v, here, rfl, lacks, before⟩
    · rw [if_neg lacks] at later
      omega
  · rintro ⟨v, here, rfl, lacks, before⟩
    refine ⟨by rw [here]; rfl, before, ?_⟩
    rw [after_succ here, calls_visit, if_pos lacks, before]

/-- A call is made only once. -/
theorem CallsAt.unique (first : s.CallsAt visits m t call) (second : s.CallsAt visits n u call) :
    m = n ∧ t = u := by
  -- After a call all later calls have higher numbers.
  have same : m = n := by
    rcases Nat.lt_trichotomy m n with lt | same | lt
    · have mono := s.calls_after_mono visits (Nat.succ_le_of_lt lt)
      rw [Nat.succ_eq_add_one, first.calls_after, second.calls_before] at mono
      omega
    · exact same
    · have mono := s.calls_after_mono visits (Nat.succ_le_of_lt lt)
      rw [Nat.succ_eq_add_one, second.calls_after, first.calls_before] at mono
      omega
  subst same
  have threads := first.thread_eq.symm.trans second.thread_eq
  exact ⟨rfl, Option.some.inj threads⟩

/-! ### What a thread gains -/

/-- A visit gains a service with a pivot exactly if its thread has no delegate by then and the next
    call of the factory has this pivot. -/
theorem gains_iff (here : visits[n]? = some v) {p : CenturyPivot} :
    s.Gains visits n t call (.simple p) ↔ v.thread = t ∧ (s.after visits n).delegate? t = none ∧
      (s.after visits n).calls = call ∧ CenturyPivot.ofInt? (s.pivotOfCall call) = some p := by
  have made : s.factory call = .ok (.simple p) ↔
      CenturyPivot.ofInt? (s.pivotOfCall call) = some p := by
    rw [factory_eq_ok_iff]
    simp
  refine ⟨?_, ?_⟩
  · rintro ⟨callsAt, factory⟩
    obtain ⟨w, there, rfl, lacks, calls⟩ := callsAt_iff.mp callsAt
    obtain rfl : v = w := Option.some.inj (here.symm.trans there)
    exact ⟨rfl, lacks, calls, made.mp factory⟩
  · rintro ⟨rfl, lacks, calls, pivot⟩
    exact ⟨callsAt_iff.mpr ⟨v, here, rfl, lacks, calls⟩, made.mpr pivot⟩

/-- A thread that has a delegate of a new service gained it by one of the visits before. -/
theorem gains_of_delegate? (fresh : s.delegates = []) {d : Delegate}
    (has : (s.after visits n).delegate? t = some d) :
    ∃ m, m < n ∧ s.Gains visits m t d.call (.simple d.pivot) := by
  induction n with
  | zero =>
    have none_yet : s.delegates.lookup t = some d := has
    rw [fresh] at none_yet
    exact absurd none_yet (by simp)
  | succ n ih =>
    by_cases before : (s.after visits n).delegate? t = some d
    · obtain ⟨m, lt, gains⟩ := ih before
      exact ⟨m, Nat.lt_succ_of_lt lt, gains⟩
    -- The last visit made the delegate, so it was one of the thread and its call succeeded.
    cases here : visits[n]? with
    | none =>
      rw [after_succ_of_none here] at has
      exact absurd has before
    | some v =>
      rw [after_succ here] at has
      rcases (s.after visits n).visit_cases v with
        ⟨e, -, step⟩ | ⟨p, lacks, made, step⟩ | ⟨-, -, step⟩ <;> rw [step] at has
      · exact absurd has before
      · rw [delegate?_granted] at has
        by_cases own : t = v.thread
        · rw [if_pos own, Option.some.injEq] at has
          rw [pivotOfCall_after] at made
          subst own has
          exact ⟨n, Nat.lt_succ_self n, (gains_iff here).mpr ⟨rfl, lacks, rfl, made⟩⟩
        · rw [if_neg own] at has
          exact absurd has before
      · exact absurd has before

/-- The report on the visit with a number, and the service after it. -/
theorem getElem?_history_visit (here : visits[n]? = some v) :
    (history visit s visits)[n]? = some ((s.after visits n).visit v) := by
  rw [getElem?_history, here]
  rfl

namespace Gains

/-- The delegate of a thread is the service that it gained. -/
theorem delegate?_after (gains : s.Gains visits m t call service) (lt : m < n) :
    ∃ d, (s.after visits n).delegate? t = some d ∧ d.call = call ∧ service = .simple d.pivot := by
  obtain ⟨p, pivot, rfl⟩ := factory_eq_ok_iff.mp gains.made
  obtain ⟨v, here, rfl, lacks, calls⟩ := callsAt_iff.mp gains.callsAt
  rw [← pivotOfCall_after s visits m, ← calls] at pivot
  refine ⟨⟨call, p⟩, delegate?_after_mono lt ?_, rfl, rfl⟩
  rw [Nat.succ_eq_add_one, after_succ here, visit_of_made lacks pivot, delegate?_granted,
    if_pos rfl, calls]

/-- After a thread has gained a service it makes no call. -/
theorem not_callsAt (gains : s.Gains visits m t call service) (lt : m < n) :
    ¬ s.CallsAt visits n t call' := by
  intro callsAt
  obtain ⟨d, has, -⟩ := gains.delegate?_after lt
  obtain ⟨v, -, rfl, lacks, -⟩ := callsAt_iff.mp callsAt
  rw [lacks] at has
  exact absurd has (by simp)

/-- A thread gains a service only once. -/
theorem unique (first : s.Gains visits m t call service)
    (second : s.Gains visits n t call' service') :
    m = n ∧ call = call' ∧ service = service' := by
  have same : m = n := by
    rcases Nat.lt_trichotomy m n with lt | same | lt
    · exact absurd second.callsAt (first.not_callsAt lt)
    · exact same
    · exact absurd first.callsAt (second.not_callsAt lt)
  subst same
  have calls : call = call' :=
    first.callsAt.calls_before.symm.trans second.callsAt.calls_before
  subst calls
  exact ⟨rfl, rfl, Except.ok.inj (first.made.symm.trans second.made)⟩

end Gains

/-- A visit is answered by the service that its thread gained by then, or it makes a call of the
    factory that fails. -/
theorem result_visit_after (fresh : s.delegates = []) (here : visits[n]? = some v) :
    (∃ m call service, m ≤ n ∧ s.Gains visits m v.thread call service ∧
      ((s.after visits n).visit v).2.result = (service.visit v).2.result) ∨
    (∃ call, (s.after visits n).delegate? v.thread = none ∧ s.CallsAt visits n v.thread call ∧
      s.factory call = .error (.invalidPivot (s.pivotOfCall call)) ∧
      ((s.after visits n).visit v).2.result = .error (.invalidPivot (s.pivotOfCall call))) := by
  rcases (s.after visits n).visit_cases v with
    ⟨d, has, step⟩ | ⟨p, lacks, made, step⟩ | ⟨lacks, failed, step⟩
  · obtain ⟨m, lt, gains⟩ := gains_of_delegate? fresh has
    refine .inl ⟨m, d.call, .simple d.pivot, Nat.le_of_lt lt, gains, ?_⟩
    rw [step, Service.visit_eq_ask]
    rfl
  · rw [pivotOfCall_after] at made
    refine .inl ⟨n, _, .simple p, Nat.le_refl n, (gains_iff here).mpr ⟨rfl, lacks, rfl, made⟩, ?_⟩
    rw [step, Service.visit_eq_ask]
    rfl
  · rw [grants_after] at failed
    refine .inr ⟨_, lacks, callsAt_iff.mpr ⟨v, here, rfl, lacks, rfl⟩,
      factory_eq_error_iff.mpr ⟨failed, rfl⟩, ?_⟩
    rw [step, pivotOfCall_after]

/-! ### What the visits of others change -/

/-- What comes of the visits of a thread, in turn. -/
def outcomesOf (t : String) (s : PerThread) (visits : List Visit) : List (Outcome Reply) :=
  ((visits.zip (history visit s visits)).filter (·.1.thread = t)).map (·.2.2)

/-- The visits that can matter to a thread: those of others that have a delegate by then are left
    out. -/
def essential (t : String) (s : PerThread) : List Visit → List Visit
  | [] => []
  | v :: rest =>
    if v.thread ≠ t ∧ (s.delegate? v.thread).isSome then essential t s rest
    else v :: essential t (s.visit v).1 rest

theorem outcomesOf_cons (t : String) (s : PerThread) (v : Visit) (rest : List Visit) :
    outcomesOf t s (v :: rest)
      = (if v.thread = t then [(s.visit v).2] else []) ++ outcomesOf t (s.visit v).1 rest := by
  show observed visit (fun v => decide (v.thread = t)) Prod.snd s (v :: rest) = _
  rw [observed_cons]
  simp only [decide_eq_true_eq]
  rfl

/-- The other visits do not matter. -/
theorem outcomesOf_essential (t : String) (s : PerThread) (visits : List Visit) :
    outcomesOf t s (essential t s visits) = outcomesOf t s visits := by
  induction visits generalizing s with
  | nil => rfl
  | cons v rest ih =>
    rw [essential]
    by_cases idle : v.thread ≠ t ∧ (s.delegate? v.thread).isSome
    · -- The visit leaves the service as it is, and its outcome is not the thread's.
      obtain ⟨d, has⟩ := Option.isSome_iff_exists.mp idle.2
      rw [if_pos idle, outcomesOf_cons, if_neg idle.1, visit_of_owner has, ih]
      rfl
    · rw [if_neg idle, outcomesOf_cons, outcomesOf_cons, ih]

end PerThread

/-- Whatever threads visit a new service, in whatever order and by whatever ways: each visit has the
    result of the same visit to the service that its thread gained by a call of the factory, then or
    earlier, or the thread has no delegate and the result is the failure of the call that the visit
    makes, which is an error of a value.  A thread gains a service only once and keeps it, each call
    is made by one visit and takes the pivot whose turn it is, the last one if there is no other
    left, and the outcomes of a thread are the same for all rows of visits that differ only in
    visits of other threads that have a delegate by then. -/
theorem visits_answered_by_own_service (pivots : List (Option Int)) (configured : Int)
    (visits : List Visit) :
    let s := PerThread.start pivots configured
    (∀ n v, visits[n]? = some v →
      ∃ o, (history PerThread.visit s visits)[n]? = some (s.after visits (n + 1), o) ∧
        ((∃ m call service, m ≤ n ∧ s.Gains visits m v.thread call service ∧
            o.result = (service.visit v).2.result) ∨
          ∃ call, (s.after visits n).delegate? v.thread = none ∧
            s.CallsAt visits n v.thread call ∧
            s.factory call = .error (.invalidPivot (s.pivotOfCall call)) ∧
            o.result = .error (.invalidPivot (s.pivotOfCall call)))) ∧
    (∀ m n t call call' service service', s.Gains visits m t call service →
      s.Gains visits n t call' service' → m = n ∧ call = call' ∧ service = service') ∧
    (∀ m n t call service, s.Gains visits m t call service → m < n →
      ∃ d, (s.after visits n).delegate? t = some d ∧ d.call = call ∧ service = .simple d.pivot) ∧
    (∀ m n t u call, s.CallsAt visits m t call → s.CallsAt visits n u call → m = n ∧ t = u) ∧
    (∀ t visits', PerThread.essential t s visits = PerThread.essential t s visits' →
      PerThread.outcomesOf t s visits = PerThread.outcomesOf t s visits') ∧
    (∀ call entry, pivots[call]? = some entry → s.pivotOfCall call = entry.getD configured) ∧
    (∀ call last, pivots.length ≤ call → pivots.getLast? = some last →
      s.pivotOfCall call = last.getD configured) ∧
    ∀ call, (DateError.invalidPivot (s.pivotOfCall call)).errorClass = .value := by
  intro s
  have fresh : s.delegates = [] := rfl
  refine ⟨?_, ?_, ?_, ?_, ?_, ?_, ?_, fun call => rfl⟩
  · intro n v here
    refine ⟨((s.after visits n).visit v).2, ?_, PerThread.result_visit_after fresh here⟩
    rw [PerThread.getElem?_history_visit here, PerThread.after_succ here]
  · intro m n t call call' service service' first second
    exact first.unique second
  · intro m n t call service gains lt
    exact gains.delegate?_after lt
  · intro m n t u call first second
    exact first.unique second
  · intro t visits' same
    rw [← PerThread.outcomesOf_essential t s visits, same, PerThread.outcomesOf_essential]
  · intro call entry has
    exact PerThread.pivotOfCall_of_entry has
  · intro call last beyond isLast
    exact PerThread.pivotOfCall_of_last beyond isLast

/-- The first call fails, the next two have pivot 0 and go to the threads that ask next; the last
    visit of the other thread does not matter. -/
theorem visits_answered_two_threads :
    let s := PerThread.start [some 100, some 0] 69
    let a : Visit := ⟨"a", .named, .parse .rfc822 (.scalar (.text "Sat, 01 Jan 00 00:00:00 GMT"))⟩
    let b : Visit := ⟨"b", .codec true, .render .iso8601 .dateOnly⟩
    (∃ o, (history PerThread.visit s [a, b, a, b])[2]? = some (s.after [a, b, a, b] 3, o) ∧
      o.result = ((Service.simple ⟨0, by decide⟩).visit a).2.result) ∧
    (∃ d, (s.after [a, b, a, b] 4).delegate? "a" = some d ∧ d.call = 2) ∧
    PerThread.outcomesOf "a" s [a, b, a, b] = PerThread.outcomesOf "a" s [a, b, a] := by
  intro s a b
  have gains : s.Gains [a, b, a, b] 2 "a" 2 (.simple ⟨0, by decide⟩) :=
    ⟨⟨rfl, rfl, rfl⟩, rfl⟩
  obtain ⟨answered, once, keeps, -, others, -⟩ :=
    visits_answered_by_own_service [some 100, some 0] 69 [a, b, a, b]
  refine ⟨?_, ?_, others "a" [a, b, a] rfl⟩
  · obtain ⟨o, there, ⟨m, call, service, -, own, result⟩ | ⟨call, -, callsAt, failed, -⟩⟩ :=
      answered 2 a rfl
    · obtain ⟨-, -, rfl⟩ := once m 2 "a" call 2 service _ own gains
      exact ⟨o, there, result⟩
    · obtain rfl : 2 = call := callsAt.calls_before
      exact absurd failed (by rw [gains.made]; simp)
  · obtain ⟨d, has, calls, -⟩ := keeps 2 4 "a" 2 _ gains (by decide)
    exact ⟨d, has, calls⟩

end CloudClient
