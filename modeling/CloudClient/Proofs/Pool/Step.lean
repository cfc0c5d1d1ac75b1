import CloudClient.Pool.Workspace

namespace CloudClient

/-!
# Steps in a workspace of pool records

What each step answers and leaves behind, where the slots hold what it needs.

* `Workspace.makeUpdate` — making an update of seven values, in whatever way they were put together;
* `Workspace.step_update_positional`, `Workspace.step_update_named`, `Workspace.step_build`,
  `Workspace.step_pointingTo` — the ways to make one;
* `Workspace.step_toBuilder`, `Workspace.step_set`, `Workspace.step_takeOver` — the ways to fill a
  staging area;
* `PoolStep.changed?`, `Workspace.object_step_of_ne` — a step changes one slot at most.
-/

namespace Workspace

variable {w : Workspace} {slot source target : String} {o : PoolObject} {staged v : UpdateFields}

/-- Makes an update of the values and puts it into a slot, or reports what is wrong with them. -/
def makeUpdate (w : Workspace) (target : String) (values : UpdateFields) : PoolResult :=
  match RecordUpdate.ofFields values with
  | .ok update => w.store target (.update update)
  | .error fault => (w, .error (.update fault))

/-! ### Slots -/

@[simp] theorem object_put_self (w : Workspace) (slot : String) (o : PoolObject) :
    (w.put slot o).object slot = .ok o := by
  simp [object, put]

theorem object_put_of_ne (w : Workspace) {slot other : String} (o : PoolObject)
    (differ : other ≠ slot) : (w.put slot o).object other = w.object other := by
  have passed : (other == slot) = false := by simpa using differ
  simp [object, put, List.lookup_cons, passed]

/-! ### Making updates -/

/-- Once the values are known it does not matter where they came from. -/
theorem step_eq_makeUpdate {s : PoolStep}
    (made : w.perform s = do return w.store target (.update (← updateOf v))) :
    w.step s = w.makeUpdate target v := by
  rw [step, made, makeUpdate, updateOf]
  cases RecordUpdate.ofFields v <;> rfl

/-- Values in the order of the fields. -/
theorem step_update_positional (w : Workspace) (target : String) (v : UpdateFields) :
    w.step (.update target (.positional (UpdateField.all.map v.get))) = w.makeUpdate target v :=
  step_eq_makeUpdate rfl

/-- Values under the names of the fields. -/
theorem step_update_named (w : Workspace) (target : String) (v : UpdateFields) :
    w.step (.update target (.named v.fields)) = w.makeUpdate target v := by
  have zip : v.fields = RecordUpdate.signature.parameters.zip (UpdateField.all.map v.get) := rfl
  have bound : RecordUpdate.signature.bind (.named v.fields)
      = RecordUpdate.signature.bind (.positional (UpdateField.all.map v.get)) := by
    rw [zip]
    exact Signature.bind_named_zip _ (by decide) rfl
  rw [← step_update_positional, step, step, perform, perform, valuesOf, valuesOf, bound]

/-- The values of a staging area. -/
theorem step_build (holds : w.object slot = .ok (.builder staged)) (target : String) :
    w.step (.build slot target) = w.makeUpdate target staged := by
  apply step_eq_makeUpdate
  rw [perform, holds]
  rfl

/-- The values of a configuration with a new target and the priority 0. -/
theorem step_pointingTo {spec : RecordSpec} (holds : w.object source = .ok (.spec spec))
    (pointsTo : Scalar) (target : String) :
    w.step (.pointingTo source pointsTo target) = w.makeUpdate target
      ⟨pointsTo, spec.state, .int 0, spec.weight, spec.failOverDelay, spec.threshold,
        spec.ttl⟩ := by
  apply step_eq_makeUpdate
  rw [perform, holds]
  rfl

/-! ### Filling staging areas -/

/-- All values of an update. -/
theorem step_toBuilder {update : RecordUpdate} (holds : w.object slot = .ok (.update update))
    (target : String) :
    w.step (.toBuilder slot target) = w.store target (.builder update.values) := by
  rw [step, perform, holds, ← UpdateFields.apply_fromUpdate .empty update]
  rfl

/-- One value. -/
theorem step_set (holds : w.object slot = .ok (.builder staged)) (field : UpdateField)
    (value : Scalar) :
    w.step (.set slot field.name value) = w.stage slot (staged.apply (.set field value)) := by
  have performed : w.perform (.set slot field.name value)
      = .ok (w.stage slot (staged.apply (.set field value))) := by
    rw [perform, holds]
    exact congrArg (fun e => (do return w.stage slot (← e) : Except PoolFault PoolResult))
      (PoolObject.accept_builder staged field value)
  rw [step, performed]

/-- The values that another object gives. -/
theorem step_takeOver (holds : w.object slot = .ok (.builder staged))
    (given : w.object source = .ok o)
    (t : Takeover) : w.step (.takeOver t slot source) = w.fill slot staged t o := by
  rw [step, perform, holds, given]
  rfl

end Workspace

/-! ### What a step leaves as it is -/

/-- The slot that the step may change. -/
def PoolStep.changed? : PoolStep → Option String
  | spec target _ | record target _ | update target _ | builder target => some target
  | build _ target | toBuilder _ target | pointingTo _ _ target => some target
  | set slot _ _ | takeOver _ slot _ => some slot
  | compare _ _ | assign _ _ | delete _ _ | present _ => none

namespace Workspace

variable {α : Type} {w : Workspace} {slot : String} {slot? : Option String}

/-- Whatever a step comes to, the slots are as before, but for the one that was filled. -/
def Spares (w : Workspace) (slot? : Option String) (outcome : Except PoolFault PoolResult) : Prop :=
  ∀ result, outcome = .ok result →
    result.1 = w ∨ ∃ slot o, slot? = some slot ∧ result.1 = w.put slot o

theorem spares_error (fault : PoolFault) : w.Spares slot? (.error fault) := by
  rintro result ⟨⟩

theorem spares_same (answer : Except PoolFault PoolAnswer) : w.Spares slot? (.ok (w, answer)) := by
  rintro result ⟨⟩
  exact .inl rfl

theorem spares_put (slot : String) (o : PoolObject) (answer : Except PoolFault PoolAnswer) :
    w.Spares (some slot) (.ok (w.put slot o, answer)) := by
  rintro result ⟨⟩
  exact .inr ⟨slot, o, rfl, rfl⟩

/-- What is asked for first changes nothing. -/
theorem Spares.bind {e : Except PoolFault α} {next : α → Except PoolFault PoolResult}
    (spares : ∀ a, w.Spares slot? (next a)) : w.Spares slot? (e >>= next) := by
  cases e with
  | error fault => exact spares_error fault
  | ok a => exact spares a

theorem spares_perform (w : Workspace) (s : PoolStep) : w.Spares s.changed? (w.perform s) := by
  cases s with
  | spec target values | record target values => exact .bind fun _ => spares_put _ _ _
  | update target values => exact .bind fun _ => .bind fun _ => spares_put _ _ _
  | builder target => exact spares_put _ _ _
  | build slot target => exact .bind fun _ => .bind fun _ => .bind fun _ => spares_put _ _ _
  | toBuilder slot target => exact .bind fun _ => .bind fun _ => spares_put _ _ _
  | pointingTo source pointsTo target =>
    exact .bind fun _ => .bind fun _ => .bind fun _ => spares_put _ _ _
  | set slot name value => exact .bind fun _ => .bind fun _ => spares_put _ _ _
  | takeOver t slot source =>
    refine .bind fun _ => .bind fun staged => .bind fun o => ?_
    show w.Spares _ (.ok (w.fill slot staged t o))
    unfold fill
    cases o.lack? t <;> exact spares_put _ _ _
  | compare a b => exact .bind fun _ => .bind fun _ => spares_same _
  | assign slot field | delete slot field => exact .bind fun _ => spares_error _
  | present slot => exact .bind fun _ => spares_same _

/-- A step changes one slot at most. -/
theorem object_step_of_ne {s : PoolStep} (differ : s.changed? ≠ some slot) :
    (w.step s).1.object slot = w.object slot := by
  have spares := w.spares_perform s
  unfold step
  cases performed : w.perform s with
  | error fault => rfl
  | ok result =>
    rcases spares result performed with same | ⟨other, o, changed, put⟩
    · exact congrArg (object · slot) same
    · show result.1.object slot = _
      rw [put, object_put_of_ne]
      rintro rfl
      exact differ changed

end Workspace

end CloudClient
