import CloudClient.Proofs.Service.Delegates
import Mathlib.Data.Finset.Card

namespace CloudClient

/-!
# What becomes of the calls of the factory

Every call of the factory gives a thread its delegate, or the visit that made it is refused.

* `PerThread.owners` — the threads that have a delegate;
* `PerThread.Tally` — a service with the refusals and the log that led to it: the successful calls
  are the owners, the failed calls are the refusals, and each owner has one line in the log;
* `PerThread.Tally.visit`, `PerThread.tally_after` — one visit keeps the tally, so all visits do;
* `PerThread.refused_visit`, `PerThread.gaining_visit` — a visit whose call fails, and one whose
  call succeeds;
* `countP_entries_le` — how many calls can be of one kind if the last entry is of the other;
* `calls_accounted_for` — all this together.
-/

/-- An entry of a list of pivots is one of 0 to 99; none stands for the configured pivot. -/
def validEntry (configured : Int) (entry : Option Int) : Bool :=
  0 ≤ entry.getD configured ∧ entry.getD configured ≤ 99

theorem Event.message_delegateCreated (t : String) :
    (delegateCreated t).message = "Created SimpleDateService for thread " ++ t := by
  have spelled : (delegateCreated t).message
      = "Created " ++ "SimpleDateService" ++ " for thread " ++ t := rfl
  have front : "Created " ++ "SimpleDateService" ++ " for thread "
      = "Created SimpleDateService for thread " := by decide +kernel
  rw [spelled, front]

theorem countP_range_succ (kind : Nat → Bool) (count : Nat) :
    (List.range (count + 1)).countP kind
      = (List.range count).countP kind + if kind count then 1 else 0 := by
  rw [List.range_succ, List.countP_append, List.countP_singleton]

/-- If the last entry of a list, which serves for all later numbers as well, is not of a kind, then
    at most as many numbers have an entry of this kind as the list has. -/
theorem countP_entries_le {α : Type} (kind : α → Bool) {entries : List α} {last : α}
    (no : kind last = false) (count : Nat) :
    (List.range count).countP (fun k => kind ((entries[k]?).getD last)) ≤ entries.countP kind := by
  have front : (List.range count).countP (fun k => kind ((entries[k]?).getD last))
      = (entries.take count).countP kind := by
    induction count with
    | zero => rfl
    | succ count ih =>
      rw [countP_range_succ, ih, List.take_add_one, List.countP_append]
      cases entries[count]? with
      | none => simp [no]
      | some entry => simp [List.countP_singleton]
  rw [front]
  exact (List.take_sublist count entries).countP_le

namespace PerThread

variable {s : PerThread} {visits : List Visit} {m n failures call : Nat} {t : String} {v : Visit}
  {events : List Event} {service : Service}

/-! ### The owners -/

/-- The threads that have a delegate. -/
def owners (s : PerThread) : Finset String := (s.delegates.map Prod.fst).toFinset

theorem mem_owners_iff : t ∈ s.owners ↔ (s.delegate? t).isSome := by
  rw [owners, List.mem_toFinset, delegate?, List.lookup_isSome_iff]
  simp

theorem notMem_owners (lacks : s.delegate? t = none) : t ∉ s.owners := by
  rw [mem_owners_iff, lacks]
  simp

@[simp] theorem owners_called (s : PerThread) : s.called.owners = s.owners := rfl

@[simp] theorem owners_granted (s : PerThread) (t : String) (p : CenturyPivot) :
    (s.granted t p).owners = insert t s.owners :=
  List.toFinset_cons

/-! ### The tally -/

/-- The factory stays the same. -/
theorem grants_visit (s : PerThread) (v : Visit) : (s.visit v).1.grants = s.grants := by
  funext call
  rw [grants, grants, pivotOfCall_visit]

/-- The successful calls of the factory are the owners, the failed calls are the refusals, and each
    owner has one line in the log. -/
structure Tally (s : PerThread) (failures : Nat) (events : List Event) : Prop where
  granted : s.owners.card = (List.range s.calls).countP s.grants
  refused : failures = (List.range s.calls).countP (!s.grants ·)
  created : ∀ t, events.count (.delegateCreated t) = if t ∈ s.owners then 1 else 0

/-- Every call is one of an owner or a refusal. -/
theorem Tally.calls_eq (tally : s.Tally failures events) :
    s.calls = s.owners.card + failures := by
  have split := List.length_eq_countP_add_countP s.grants (l := List.range s.calls)
  rw [List.length_range] at split
  rw [tally.granted, tally.refused]
  simpa using split

/-- A visit keeps the tally. -/
theorem Tally.visit (tally : s.Tally failures events) (v : Visit) :
    (s.visit v).1.Tally (failures + if (s.visit v).2.isRefusal then 1 else 0)
      (events ++ (s.visit v).2.events) := by
  obtain ⟨granted, refused, created⟩ := tally
  have factory := s.grants_visit v
  -- The answer of a delegate is no refusal and leaves no line about delegates.
  have answered (p : CenturyPivot) := isRefusal_answer p v.request
  have silent (p : CenturyPivot) (t : String) :=
    List.count_eq_zero.mpr (delegateCreated_notMem_answer p v.request (t := t))
  rcases s.visit_cases v with ⟨d, has, step⟩ | ⟨p, lacks, made, step⟩ | ⟨lacks, failed, step⟩ <;>
    rw [step] at factory ⊢
  · refine ⟨granted, ?_, fun t => ?_⟩
    · rw [answered, refused]
      simp
    · rw [List.count_append, silent, created]
      simp
  · have grants : s.grants s.calls = true := by
      rw [PerThread.grants, made]
      rfl
    refine ⟨?_, ?_, fun t => ?_⟩
    · rw [owners_granted, Finset.card_insert_of_notMem (notMem_owners lacks), calls_granted,
        countP_range_succ, factory, granted, if_pos grants]
    · rw [calls_granted, countP_range_succ, factory, refused, grants]
      show _ + (if (p.answer v.request).isRefusal then 1 else 0) = _
      rw [answered]
      rfl
    · show (events ++ _ :: _).count _ = _
      rw [List.count_append, List.count_cons, silent, created, owners_granted]
      by_cases same : t = v.thread
      · subst same
        simp [notMem_owners lacks]
      · simp [same, Ne.symm same]
  · refine ⟨?_, ?_, fun t => ?_⟩
    · rw [owners_called, calls_called, countP_range_succ, factory, granted, failed]
      rfl
    · rw [calls_called, countP_range_succ, factory, refused, failed]
      rfl
    · rw [List.append_nil, created, owners_called]

/-- The refusals among the first visits of a row. -/
def refusals (s : PerThread) (visits : List Visit) (n : Nat) : Nat :=
  ((history visit s visits).take n).countP (·.2.isRefusal)

/-- What goes to the log at the first visits of a row. -/
def log (s : PerThread) (visits : List Visit) (n : Nat) : List Event :=
  ((history visit s visits).take n).flatMap (·.2.events)

/-- The tally of a new service is right after any number of visits. -/
theorem tally_after (pivots : List (Option Int)) (configured : Int) (visits : List Visit)
    (n : Nat) : ((start pivots configured).after visits n).Tally
      ((start pivots configured).refusals visits n) ((start pivots configured).log visits n) := by
  induction n with
  | zero => exact ⟨rfl, rfl, fun t => rfl⟩
  | succ n ih =>
    have reports := List.take_add_one (l := history visit (start pivots configured) visits) (i := n)
    cases here : visits[n]? with
    | none =>
      rw [getElem?_history, here, Option.map_none, Option.toList_none, List.append_nil] at reports
      rw [refusals, log, reports, after_succ_of_none here]
      exact ih
    | some v =>
      rw [getElem?_history_visit here, Option.toList_some] at reports
      rw [refusals, log, reports, after_succ here, List.countP_append, List.countP_singleton,
        List.flatMap_append, List.flatMap_singleton]
      exact ih.visit v

/-! ### Visits that make a call -/

/-- A refused visit is one of a thread without a delegate, whose call fails, and nothing else
    happens. -/
theorem refused_visit (refused : (s.visit v).2.isRefusal = true) :
    s.delegate? v.thread = none ∧ s.grants s.calls = false ∧ (s.visit v).2.events = [] ∧
      ∀ t, (s.visit v).1.delegate? t = s.delegate? t := by
  rcases s.visit_cases v with ⟨d, -, step⟩ | ⟨p, -, -, step⟩ | ⟨lacks, failed, step⟩ <;>
    rw [step] at refused ⊢
  · rw [isRefusal_answer] at refused
    exact absurd refused (by decide)
  · exact absurd ((isRefusal_answer p v.request).symm.trans refused) (by decide)
  · exact ⟨lacks, failed, rfl, fun t => rfl⟩

/-- In a row of visits one is refused exactly if it makes a call that fails. -/
theorem isRefusal_visit_iff (here : visits[n]? = some v) :
    ((s.after visits n).visit v).2.isRefusal = true ↔ ∃ call, s.CallsAt visits n v.thread call ∧
      s.factory call = .error (.invalidPivot (s.pivotOfCall call)) := by
  refine ⟨?_, ?_⟩
  · intro refused
    obtain ⟨lacks, failed, -⟩ := refused_visit refused
    rw [grants_after] at failed
    exact ⟨_, callsAt_iff.mpr ⟨v, here, rfl, lacks, rfl⟩, factory_eq_error_iff.mpr ⟨failed, rfl⟩⟩
  · rintro ⟨call, callsAt, error⟩
    obtain ⟨w, there, -, lacks, calls⟩ := callsAt_iff.mp callsAt
    obtain rfl : v = w := Option.some.inj (here.symm.trans there)
    have failed := (factory_eq_error_iff.mp error).1
    rw [← grants_after s visits n, ← calls] at failed
    rw [visit_of_failed lacks failed]
    rfl

/-- After a refused visit the next one of the thread makes a call again. -/
theorem callsAt_of_refused (here : visits[m]? = some v)
    (refused : ((s.after visits m).visit v).2.isRefusal = true) (lt : m < n)
    (own : visits[n]?.map Visit.thread = some v.thread)
    (others : ∀ j, m < j → j < n → visits[j]?.map Visit.thread ≠ some v.thread) :
    ∃ call, s.CallsAt visits n v.thread call := by
  obtain ⟨lacks, -, -, keeps⟩ := refused_visit refused
  obtain ⟨w, there, thread⟩ := Option.map_eq_some_iff.mp own
  refine ⟨_, callsAt_iff.mpr ⟨w, there, thread, ?_, rfl⟩⟩
  rw [delegate?_after_of_others lt others, Nat.succ_eq_add_one, after_succ here, keeps, lacks]

/-- A visit that makes a call that succeeds logs this, and is otherwise one to the new delegate. -/
theorem gaining_visit (here : visits[n]? = some v) (gains : s.Gains visits n t call service) :
    ((s.after visits n).visit v).2.events = .delegateCreated t :: (service.visit v).2.events ∧
      ((s.after visits n).visit v).2.result = (service.visit v).2.result := by
  obtain ⟨p, pivot, rfl⟩ := factory_eq_ok_iff.mp gains.made
  obtain ⟨rfl, lacks, calls, -⟩ := (gains_iff here).mp gains
  rw [← pivotOfCall_after s visits n, ← calls] at pivot
  rw [visit_of_made lacks pivot, Service.visit_eq_ask]
  exact ⟨rfl, rfl⟩

/-- The owners are those that gained a service. -/
theorem mem_owners_after_iff (fresh : s.delegates = []) : t ∈ (s.after visits n).owners ↔
    ∃ m call service, m < n ∧ s.Gains visits m t call service := by
  rw [mem_owners_iff, Option.isSome_iff_exists]
  refine ⟨?_, ?_⟩
  · rintro ⟨d, has⟩
    obtain ⟨m, lt, gains⟩ := gains_of_delegate? fresh has
    exact ⟨m, d.call, _, lt, gains⟩
  · rintro ⟨m, call, service, lt, gains⟩
    obtain ⟨d, has, -⟩ := gains.delegate?_after lt
    exact ⟨d, has⟩

/-! ### The last pivot -/

section LastPivot

variable {pivots : List (Option Int)} {configured : Int} {last : Option Int}

/-- A call succeeds exactly if its entry is valid. -/
theorem grants_after_start (isLast : pivots.getLast? = some last) :
    ((start pivots configured).after visits n).grants
      = fun call => validEntry configured ((pivots[call]?).getD last) := by
  funext call
  rw [grants_after, Bool.eq_iff_iff, grants, CenturyPivot.ofInt?_isSome_iff, validEntry,
    decide_eq_true_eq, pivotOfCall]
  simp only [start, isLast, Option.getD_some]

/-- If the last entry is valid, each refusal takes one of the invalid ones. -/
theorem refusals_le (isLast : pivots.getLast? = some last)
    (valid : validEntry configured last = true) :
    (start pivots configured).refusals visits n ≤ pivots.countP (!validEntry configured ·) := by
  rw [(tally_after pivots configured visits n).refused, grants_after_start isLast]
  exact countP_entries_le (!validEntry configured ·) (by rw [valid]; rfl) _

/-- If the last entry is invalid, each owner takes one of the valid ones. -/
theorem card_owners_le (isLast : pivots.getLast? = some last)
    (invalid : validEntry configured last = false) :
    ((start pivots configured).after visits n).owners.card
      ≤ pivots.countP (validEntry configured) := by
  rw [(tally_after pivots configured visits n).granted, grants_after_start isLast]
  exact countP_entries_le (validEntry configured) invalid _

end LastPivot

end PerThread

/-- Whatever threads visit a new service: after any number of visits the calls of the factory are as
    many as the threads with a delegate and the refused visits.  A visit is refused exactly if it
    makes a call that fails; then it logs nothing and leaves all threads what they had, and the next
    visit of its thread makes a call again.  A thread has a delegate exactly if one visit gained it;
    this visit logs so before the delegate answers, whatever the answer is, in a line that names the
    thread, and nothing else in the log says so.  If the last pivot is valid, at most as many visits
    are refused as there are invalid pivots, and if not, at most as many threads have a delegate as
    there are valid ones. -/
theorem calls_accounted_for (pivots : List (Option Int)) (configured : Int) (visits : List Visit) :
    let s := PerThread.start pivots configured
    (∀ n, (s.after visits n).calls = (s.after visits n).owners.card + s.refusals visits n) ∧
    (∀ n v, visits[n]? = some v →
      ∃ o, (history PerThread.visit s visits)[n]? = some (s.after visits (n + 1), o) ∧
        (o.isRefusal = true ↔ ∃ call, s.CallsAt visits n v.thread call ∧
          s.factory call = .error (.invalidPivot (s.pivotOfCall call))) ∧
        (o.isRefusal = true → o.events = [] ∧
          (∀ t, (s.after visits (n + 1)).delegate? t = (s.after visits n).delegate? t) ∧
          ∀ m, n < m → visits[m]?.map Visit.thread = some v.thread →
            (∀ j, n < j → j < m → visits[j]?.map Visit.thread ≠ some v.thread) →
            ∃ call, s.CallsAt visits m v.thread call) ∧
        ∀ call service, s.Gains visits n v.thread call service →
          o.events = .delegateCreated v.thread :: (service.visit v).2.events ∧
          o.result = (service.visit v).2.result) ∧
    (∀ n t, t ∈ (s.after visits n).owners ↔
      ∃ m call service, m < n ∧ s.Gains visits m t call service) ∧
    (∀ n t, (s.log visits n).count (.delegateCreated t)
      = if t ∈ (s.after visits n).owners then 1 else 0) ∧
    (∀ t, (Event.delegateCreated t).level = .debug ∧
      (Event.delegateCreated t).source = "cloudkit.date.date_service" ∧
      (Event.delegateCreated t).message = "Created SimpleDateService for thread " ++ t) ∧
    (∀ last, pivots.getLast? = some last → validEntry configured last = true →
      ∀ n, s.refusals visits n ≤ pivots.countP (!validEntry configured ·)) ∧
    (∀ last, pivots.getLast? = some last → validEntry configured last = false →
      ∀ n, (s.after visits n).owners.card ≤ pivots.countP (validEntry configured)) := by
  intro s
  have tally := PerThread.tally_after pivots configured visits
  refine ⟨fun n => (tally n).calls_eq, ?_, fun n t => PerThread.mem_owners_after_iff rfl,
    fun n => (tally n).created, fun t => ⟨rfl, rfl, Event.message_delegateCreated t⟩, ?_, ?_⟩
  · intro n v here
    refine ⟨((s.after visits n).visit v).2, ?_, PerThread.isRefusal_visit_iff here, ?_, ?_⟩
    · rw [PerThread.getElem?_history_visit here, PerThread.after_succ here]
    · intro refused
      obtain ⟨-, -, silent, keeps⟩ := PerThread.refused_visit refused
      rw [PerThread.after_succ here]
      refine ⟨silent, keeps, ?_⟩
      intro m lt own others
      exact PerThread.callsAt_of_refused here refused lt own others
    · intro call service gains
      exact PerThread.gaining_visit here gains
  · intro last isLast valid n
    exact PerThread.refusals_le isLast valid
  · intro last isLast invalid n
    exact PerThread.card_owners_le isLast invalid

/-- The first call fails, so the thread makes another one at its next visit, which gives it a
    delegate that cannot render its value; there is one entry that can be refused. -/
theorem calls_accounted_for_second_try :
    let s := PerThread.start [some 100, some 0] 69
    let a : Visit := ⟨"a", .named, .render .iso8601 .dateOnly⟩
    (s.after [a, a] 2).calls = (s.after [a, a] 2).owners.card + s.refusals [a, a] 2 ∧
      (∃ call, s.CallsAt [a, a] 1 "a" call) ∧
      (∃ o, (history PerThread.visit s [a, a])[1]? = some (s.after [a, a] 2, o) ∧
        o.events = [.delegateCreated "a"] ∧ o.result = .error (.notATime "date")) ∧
      s.refusals [a, a] 2 ≤ 1 ∧
      ∀ n, ((PerThread.start [some 0, none] 100).after [a, a] n).owners.card ≤ 1 := by
  intro s a
  obtain ⟨balance, steps, -, -, -, refusals, -⟩ := calls_accounted_for [some 100, some 0] 69 [a, a]
  obtain ⟨-, -, -, -, -, -, owners⟩ := calls_accounted_for [some 0, none] 100 [a, a]
  refine ⟨balance 2, ?_, ?_, refusals (some 0) rfl rfl 2, owners none rfl rfl⟩
  · obtain ⟨o, -, refused, next, -⟩ := steps 0 a rfl
    exact (next (refused.mpr ⟨0, ⟨rfl, rfl, rfl⟩, rfl⟩)).2.2 1 (by decide) rfl (by omega)
  · obtain ⟨o, there, -, -, gained⟩ := steps 1 a rfl
    obtain ⟨events, result⟩ :=
      gained 1 (.simple ⟨0, by decide⟩) ⟨⟨rfl, rfl, rfl⟩, rfl⟩
    exact ⟨o, there, events, result⟩

end CloudClient
