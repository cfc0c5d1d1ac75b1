namespace CloudClient

/-!
# Histories

What comes of a row of steps, each one starting from the state that the one before left.

* `history` — the state after each step, with its result;
* `finalState` — the state after all of them;
* `finalState_append` — a longer row is the shorter one and what follows;
* `getElem?_history`, `finalState_take_succ` — one step of a row, from the state that those before
  left;
* `finalState_induction`, `finalState_take_induction` — what the steps of a row keep;
* `observed` — what can be seen of some of the steps, with `observed_filter`: other steps that
  change nothing of it can be left out.
-/

variable {σ ι ω τ : Type}

/-- The state after each of a row of steps, with the step's result. -/
def history (step : σ → ι → σ × ω) (s : σ) : List ι → List (σ × ω)
  | [] => []
  | i :: rest => step s i :: history step (step s i).1 rest

/-- The state after a row of steps. -/
def finalState (step : σ → ι → σ × ω) (s : σ) (steps : List ι) : σ :=
  steps.foldl (fun s i => (step s i).1) s

@[simp] theorem history_nil (step : σ → ι → σ × ω) (s : σ) : history step s [] = [] := rfl

@[simp] theorem history_cons (step : σ → ι → σ × ω) (s : σ) (i : ι) (rest : List ι) :
    history step s (i :: rest) = step s i :: history step (step s i).1 rest := rfl

@[simp] theorem finalState_nil (step : σ → ι → σ × ω) (s : σ) : finalState step s [] = s := rfl

@[simp] theorem finalState_cons (step : σ → ι → σ × ω) (s : σ) (i : ι) (rest : List ι) :
    finalState step s (i :: rest) = finalState step (step s i).1 rest := rfl

theorem finalState_append (step : σ → ι → σ × ω) (s : σ) (before after : List ι) :
    finalState step s (before ++ after) = finalState step (finalState step s before) after := by
  simp [finalState]

/-- Each step starts from the state that those before it left. -/
theorem getElem?_history (step : σ → ι → σ × ω) (s : σ) (steps : List ι) (n : Nat) :
    (history step s steps)[n]? = steps[n]?.map (step (finalState step s (steps.take n))) := by
  induction steps generalizing s n with
  | nil => rfl
  | cons i rest ih =>
    cases n with
    | zero => rfl
    | succ n => simp [ih]

/-- One step further the state is the one that this step leaves. -/
theorem finalState_take_succ (step : σ → ι → σ × ω) (s : σ) {steps : List ι} {n : Nat} {i : ι}
    (here : steps[n]? = some i) : finalState step s (steps.take (n + 1))
      = (step (finalState step s (steps.take n)) i).1 := by
  rw [List.take_add_one, here, Option.toList_some, finalState_append]
  rfl

/-- After the last step nothing changes. -/
theorem finalState_take_succ_of_none (step : σ → ι → σ × ω) (s : σ) {steps : List ι} {n : Nat}
    (gone : steps[n]? = none) :
    finalState step s (steps.take (n + 1)) = finalState step s (steps.take n) := by
  rw [List.take_add_one, gone, Option.toList_none, List.append_nil]

/-- What every step keeps, a row of steps keeps. -/
theorem finalState_induction {step : σ → ι → σ × ω} {motive : σ → Prop} {s : σ} (start : motive s)
    (keep : ∀ s i, motive s → motive (step s i).1) (steps : List ι) :
    motive (finalState step s steps) := by
  induction steps generalizing s with
  | nil => exact start
  | cons i rest ih => exact ih (keep s i start)

/-- What each step between two numbers keeps, holds at the second if it holds at the first. -/
theorem finalState_take_induction {step : σ → ι → σ × ω} {motive : σ → Prop} {s : σ}
    {steps : List ι} {m n : Nat} (le : m ≤ n) (start : motive (finalState step s (steps.take m)))
    (keep : ∀ j i, m ≤ j → j < n → steps[j]? = some i →
      motive (finalState step s (steps.take j)) →
      motive (step (finalState step s (steps.take j)) i).1) :
    motive (finalState step s (steps.take n)) := by
  induction le with
  | refl => exact start
  | @step n le ih =>
    have now := ih fun j i from_m to_n => keep j i from_m (Nat.lt_succ_of_lt to_n)
    cases here : steps[n]? with
    | none => rwa [Nat.succ_eq_add_one, finalState_take_succ_of_none _ s here]
    | some i =>
      rw [Nat.succ_eq_add_one, finalState_take_succ _ s here]
      exact keep n i le (Nat.lt_succ_self n) here now

/-- What can be seen of the steps that are watched. -/
def observed (step : σ → ι → σ × ω) (watched : ι → Bool) (look : σ × ω → τ) (s : σ)
    (steps : List ι) : List τ :=
  ((steps.zip (history step s steps)).filter fun x => watched x.1).map fun x => look x.2

theorem observed_cons (step : σ → ι → σ × ω) (watched : ι → Bool) (look : σ × ω → τ) (s : σ) (i : ι)
    (rest : List ι) : observed step watched look s (i :: rest)
      = (if watched i then [look (step s i)] else []) ++
        observed step watched look (step s i).1 rest := by
  rw [observed, history_cons, List.zip_cons_cons, List.filter_cons]
  by_cases seen : watched i
  · rw [if_pos seen, if_pos seen]
    rfl
  · rw [if_neg seen, if_neg seen]
    rfl

/-- Of two states that agree the same is seen, even if all steps are left out that are not watched:
    these lead to a state that still agrees, and the others look alike and keep the agreement. -/
theorem observed_filter (step : σ → ι → σ × ω) (watched : ι → Bool) (look : σ × ω → τ)
    {motive : σ → σ → Prop}
    (unwatched : ∀ s t i, watched i = false → motive s t → motive (step s i).1 t)
    (same : ∀ s t i, watched i = true → motive s t →
      look (step s i) = look (step t i) ∧ motive (step s i).1 (step t i).1)
    {s t : σ} (start : motive s t) (steps : List ι) :
    observed step watched look s steps = observed step watched look t (steps.filter watched) := by
  induction steps generalizing s t with
  | nil => rfl
  | cons i rest ih =>
    rw [observed_cons, List.filter_cons]
    by_cases seen : watched i
    · obtain ⟨alike, next⟩ := same s t i seen start
      rw [if_pos seen, if_pos seen, observed_cons, if_pos seen, alike, ih next]
    · have next := unwatched s t i (Bool.eq_false_iff.mpr seen) start
      rw [if_neg seen, if_neg seen, List.nil_append, ih next]

end CloudClient
