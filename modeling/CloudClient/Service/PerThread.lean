import CloudClient.History
import CloudClient.Service.Request

namespace CloudClient

/-!
# A date service with a delegate for each thread

Every thread that uses the service gets a delegate of its own at its first use, made by a factory.
The factory may fail; then the thread has none and asks again at its next use.

* `PerThread` — the service: the pivots that the factory uses one after the other, the number of
  times it was called, and the delegates of the threads;
* `PerThread.acquire` — the delegate of a thread, made if need be;
* `PerThread.forward` — an operation passed on to the delegate of a thread;
* `PerThread.ask` — one use of the service by a thread;
* `PerThread.runAll` — the uses of the service one after the other.
-/

/-- The delegate of a thread, with the number of the factory's call that made it. -/
structure Delegate where
  call : Nat
  pivot : CenturyPivot
deriving DecidableEq

/-- A date service with a delegate for each thread. -/
structure PerThread where
  /-- The pivots of the factory's calls in turn, the last one for all later calls; none stands for
      the configured pivot. -/
  pivots : List (Option Int)
  /-- The configured pivot. -/
  configured : Int
  /-- How often the factory was called. -/
  calls : Nat
  /-- The threads that have a delegate. -/
  delegates : List (String × Delegate)

namespace PerThread

/-- The service before its first use. -/
def start (pivots : List (Option Int)) (configured : Int) : PerThread := ⟨pivots, configured, 0, []⟩

/-- The pivot of the factory's call with a number, from 0. -/
def pivotOfCall (s : PerThread) (call : Nat) : Int :=
  ((s.pivots[call]?).getD (s.pivots.getLast?.getD none)).getD s.configured

/-- The delegate that a thread has. -/
def delegate? (s : PerThread) (thread : String) : Option Delegate := s.delegates.lookup thread

/-- The delegate of a thread, made if it has none. -/
def acquire (s : PerThread) (thread : String) : PerThread × Outcome Delegate :=
  match s.delegate? thread with
  | some delegate => (s, ⟨[], .ok delegate⟩)
  | none =>
    -- The call counts even if it fails, so the next one takes the next pivot.
    let called := { s with calls := s.calls + 1 }
    match CenturyPivot.ofInt (s.pivotOfCall s.calls) with
    | .error e => (called, ⟨[], .error e⟩)
    | .ok pivot =>
      let delegate := ⟨s.calls, pivot⟩
      ({ called with delegates := (thread, delegate) :: s.delegates },
        ⟨[.delegateCreated thread], .ok delegate⟩)

/-- An operation of the service passes on to the same operation of the thread's delegate. -/
def forward {α : Type} (s : PerThread) (thread : String) (operation : Delegate → Outcome α) :
    PerThread × Outcome α :=
  match s.acquire thread with
  | (s, ⟨events, .error e⟩) => (s, ⟨events, .error e⟩)
  | (s, ⟨events, .ok delegate⟩) =>
    let outcome := operation delegate
    (s, ⟨events ++ outcome.events, outcome.result⟩)

/-- One use of the service by a thread. -/
def ask (s : PerThread) (thread : String) (r : Request) : PerThread × Outcome Reply :=
  s.forward thread fun delegate => delegate.pivot.answer r

/-- One use of the service, or the report on a request that could not be made; such a request does
    not reach the service. -/
def use (s : PerThread) : String × Except DateError Request → PerThread × Outcome Reply
  | (thread, .ok r) => s.ask thread r
  | (_, .error e) => (s, ⟨[], .error e⟩)

/-- The uses of the service one after the other. -/
def runAll (s : PerThread) (uses : List (String × Except DateError Request)) :
    List (PerThread × Outcome Reply) :=
  history use s uses

end PerThread

end CloudClient
