import CloudClient.Proofs.Pool.Step
import Mathlib.Data.List.Basic

namespace CloudClient

/-!
# What a staging area holds

A staging area is filled call by call, with single values and from other objects, and updates are
made of it in between.  Of each field it holds the last value that was written into it.

* `BuilderCall` — a call, and `BuilderCall.written?`, the value that it writes into a field;
* `lastWritten?` — the value that the last call wrote into a field that writes into it at all;
* `UpdateFields.overwritten` — the values after some calls;
* `Workspace.MakesAll` — the steps of a run make the calls on the staging area in a slot;
* `Workspace.MakesAll.object_finalState` — the run leaves the last values there;
* `UpdateFields.overwritten_swap`, `UpdateFields.overwritten_of_rewritten` — calls whose order or
  presence does not matter;
* `staging_area_holds_last_values` — all this together.
-/

/-- A call of an operation of a staging area. -/
inductive BuilderCall where
  /-- Put values in. -/
  | stage (s : StagingStep)
  /-- Make an update of the values. -/
  | build

/-- The value that the call writes into a field. -/
def BuilderCall.written? (field : UpdateField) : BuilderCall → Option Scalar
  | stage (.set f value) => if f = field then some value else none
  | stage (.fromSpec spec) =>
    match field with
    | .mode => some spec.state
    | .weight => some spec.weight
    | .failOverDelay => some spec.failOverDelay
    | .threshold => some spec.threshold
    | .ttl => some spec.ttl
    | .pointsTo | .priority => none
  | stage (.fromRecord record) =>
    match field with
    | .weight => some record.weight
    | .pointsTo => some record.pointsTo
    | .priority => some record.priority
    | .mode | .failOverDelay | .threshold | .ttl => none
  | stage (.fromUpdate update) => some (update.values.get field)
  | build => none

/-- The calls that put single values in, each into its field. -/
def BuilderCall.sets (sets : List (UpdateField × Scalar)) : List BuilderCall :=
  sets.map fun (field, value) => .stage (.set field value)

/-- The value that the last of the calls that write into the field wrote there. -/
def lastWritten? (field : UpdateField) (calls : List BuilderCall) : Option Scalar :=
  calls.reverse.findSome? (BuilderCall.written? field)

/-- The values that are given for the fields. -/
def UpdateFields.ofGet (values : UpdateField → Scalar) : UpdateFields :=
  ⟨values .pointsTo, values .mode, values .priority, values .weight, values .failOverDelay,
   values .threshold, values .ttl⟩

/-- The values after some calls: of each field the last one written, or the one that it had. -/
def UpdateFields.overwritten (u : UpdateFields) (calls : List BuilderCall) : UpdateFields :=
  .ofGet fun field => (lastWritten? field calls).getD (u.get field)

/-! ### Calls one after the other -/

section

variable {u : UpdateFields} {field : UpdateField} {c d : BuilderCall}
  {calls later before between after : List BuilderCall}

@[simp] theorem lastWritten?_nil : lastWritten? field [] = none := rfl

@[simp] theorem lastWritten?_singleton : lastWritten? field [c] = c.written? field := by
  simp [lastWritten?]

theorem lastWritten?_append : lastWritten? field (calls ++ later)
    = (lastWritten? field later).or (lastWritten? field calls) := by
  rw [lastWritten?, List.reverse_append, List.findSome?_append]
  rfl

theorem lastWritten?_cons :
    lastWritten? field (c :: calls) = (lastWritten? field calls).or (c.written? field) := by
  rw [← List.singleton_append, lastWritten?_append, lastWritten?_singleton]

namespace UpdateFields

@[simp] theorem get_ofGet (values : UpdateField → Scalar) (field : UpdateField) :
    (ofGet values).get field = values field := by
  cases field <;> rfl

@[simp] theorem get_overwritten :
    (u.overwritten calls).get field = (lastWritten? field calls).getD (u.get field) :=
  get_ofGet _ field

@[simp] theorem overwritten_nil : u.overwritten [] = u := by
  apply ext_get
  intro field
  rw [get_overwritten, lastWritten?_nil, Option.getD_none]

theorem overwritten_append :
    u.overwritten (calls ++ later) = (u.overwritten calls).overwritten later := by
  apply ext_get
  intro field
  rw [get_overwritten, get_overwritten, get_overwritten, lastWritten?_append]
  cases lastWritten? field later <;> rfl

/-- Each way to fill the area writes what it is said to write. -/
theorem apply_eq_overwritten (u : UpdateFields) (s : StagingStep) :
    u.apply s = u.overwritten [.stage s] := by
  apply ext_get
  intro field
  rw [get_overwritten, lastWritten?_singleton]
  cases s with
  | set f value =>
    rw [apply_set, BuilderCall.written?]
    by_cases same : f = field
    · subst same
      rw [get_set_self, if_pos rfl]
      rfl
    · rw [get_set_of_ne u value (Ne.symm same), if_neg same]
      rfl
  | fromSpec spec => cases field <;> rfl
  | fromRecord record => cases field <;> rfl
  | fromUpdate update =>
    rw [apply_fromUpdate]
    rfl

/-- Calls that write into the same fields the same last values come to the same. -/
theorem overwritten_congr
    (same : ∀ field, lastWritten? field calls = lastWritten? field later) :
    u.overwritten calls = u.overwritten later := by
  apply ext_get
  intro field
  rw [get_overwritten, get_overwritten, same]

/-- Two calls that write into no common field may come in either order. -/
theorem overwritten_swap (apart : ∀ field, c.written? field = none ∨ d.written? field = none) :
    u.overwritten (before ++ c :: d :: after) = u.overwritten (before ++ d :: c :: after) := by
  apply overwritten_congr
  intro field
  rw [lastWritten?_append, lastWritten?_append]
  congr 1
  rw [lastWritten?_cons, lastWritten?_cons, lastWritten?_cons, lastWritten?_cons, Option.or_assoc,
    Option.or_assoc]
  congr 1
  rcases apart field with none | none <;> rw [none, Option.none_or, Option.or_none]

/-- A call may be left out if all fields that it writes into are written again. -/
theorem overwritten_of_rewritten (rewritten : ∀ field, c.written? field ≠ none →
      ∃ d ∈ between, d.written? field ≠ none) :
    u.overwritten (before ++ c :: (between ++ after))
      = u.overwritten (before ++ (between ++ after)) := by
  apply overwritten_congr
  intro field
  rw [lastWritten?_append, lastWritten?_append, lastWritten?_cons]
  congr 1
  by_cases unwritten : c.written? field = none
  · rw [unwritten, Option.or_none]
  · obtain ⟨d, mem, written⟩ := rewritten field unwritten
    -- The fields of the call are all found in the calls between.
    have found : (lastWritten? field (between ++ after)).isSome := by
      rw [lastWritten?, List.findSome?_isSome_iff]
      exact ⟨d, by simp [mem], Option.isSome_iff_ne_none.mpr written⟩
    obtain ⟨value, last⟩ := Option.isSome_iff_exists.mp found
    rw [last]
    rfl

/-- What a configuration and a record both write is the weight. -/
theorem get_overwritten_spec_record (spec : RecordSpec) (record : PoolRecord)
    (other : field ≠ .weight) :
    (u.overwritten
        (before ++ .stage (.fromSpec spec) :: .stage (.fromRecord record) :: after)).get field
      = (u.overwritten
        (before ++ .stage (.fromRecord record) :: .stage (.fromSpec spec) :: after)).get field := by
  rw [get_overwritten, get_overwritten, lastWritten?_append, lastWritten?_append]
  simp only [lastWritten?_cons]
  cases field with
  | weight => exact absurd rfl other
  | _ => simp only [BuilderCall.written?, Option.or_none, Option.or_assoc]

end UpdateFields

end

/-! ### Calls in a workspace -/

namespace Workspace

variable {w : Workspace} {slot : String} {s : PoolStep} {c : BuilderCall} {u : UpdateFields}
  {steps : List PoolStep} {calls : List BuilderCall}

/-- The step makes the call on the staging area in the slot.  What the area is filled from stands in
    another slot, and an update that is made goes to another one. -/
inductive Makes (w : Workspace) (slot : String) : PoolStep → BuilderCall → Prop where
  | set (field : UpdateField) (value : Scalar) :
      w.Makes slot (.set slot field.name value) (.stage (.set field value))
  | fromSpec {source : String} {spec : RecordSpec} (given : w.object source = .ok (.spec spec)) :
      w.Makes slot (.takeOver .spec slot source) (.stage (.fromSpec spec))
  | fromRecord {source : String} {record : PoolRecord}
      (given : w.object source = .ok (.record record)) :
      w.Makes slot (.takeOver .record slot source) (.stage (.fromRecord record))
  | fromUpdate {source : String} {update : RecordUpdate}
      (given : w.object source = .ok (.update update)) :
      w.Makes slot (.takeOver .update slot source) (.stage (.fromUpdate update))
  | build {target : String} (apart : target ≠ slot) : w.Makes slot (.build slot target) .build

/-- The steps make the calls on the staging area in the slot, in this order.  Steps between them
    leave the slot alone. -/
inductive MakesAll (slot : String) : Workspace → List PoolStep → List BuilderCall → Prop where
  | nil {w : Workspace} : MakesAll slot w [] []
  | call {w : Workspace} {s : PoolStep} {c : BuilderCall} {steps : List PoolStep}
      {calls : List BuilderCall} (makes : w.Makes slot s c)
      (later : MakesAll slot (w.step s).1 steps calls) : MakesAll slot w (s :: steps) (c :: calls)
  | other {w : Workspace} {s : PoolStep} {steps : List PoolStep} {calls : List BuilderCall}
      (apart : s.changed? ≠ some slot) (later : MakesAll slot (w.step s).1 steps calls) :
      MakesAll slot w (s :: steps) calls

/-- A call that fills the area leaves it with the values written over, and answers with it. -/
theorem Makes.step_of_stage {step : StagingStep} (holds : w.object slot = .ok (.builder u))
    (makes : w.Makes slot s (.stage step)) :
    w.step s = w.stage slot (u.overwritten [.stage step]) := by
  rw [← u.apply_eq_overwritten]
  cases makes with
  | set field value => exact step_set holds field value
  | fromSpec given => rw [step_takeOver holds given, fill_spec]
  | fromRecord given => rw [step_takeOver holds given, fill_record]
  | fromUpdate given => rw [step_takeOver holds given, fill_update]

/-- A call leaves the area with the values that it writes, if any, over those that were there. -/
theorem Makes.object_step (holds : w.object slot = .ok (.builder u)) (makes : w.Makes slot s c) :
    (w.step s).1.object slot = .ok (.builder (u.overwritten [c])) := by
  cases c with
  | stage step =>
    rw [makes.step_of_stage holds]
    exact object_put_self w slot _
  | build =>
    have apart : s.changed? ≠ some slot := by
      cases makes with
      | build apart => exact mt Option.some.inj apart
    have unwritten : u.overwritten [.build] = u := by
      apply UpdateFields.ext_get
      intro field
      rw [UpdateFields.get_overwritten, lastWritten?_singleton]
      rfl
    rw [unwritten, object_step_of_ne apart, holds]

/-- After a run of calls the area holds the last value of each field. -/
theorem MakesAll.object_finalState (makes : MakesAll slot w steps calls)
    (holds : w.object slot = .ok (.builder u)) :
    (finalState step w steps).object slot = .ok (.builder (u.overwritten calls)) := by
  induction makes generalizing u with
  | nil =>
    rw [UpdateFields.overwritten_nil]
    exact holds
  | @call w s c steps calls makes later ih =>
    rw [finalState_cons, ih (makes.object_step holds), ← UpdateFields.overwritten_append]
    rfl
  | other apart later ih =>
    rw [finalState_cons]
    exact ih ((object_step_of_ne apart).trans holds)

/-! ### Single values only -/

/-- The steps that put single values into the area in the slot. -/
def setSteps (slot : String) (sets : List (UpdateField × Scalar)) : List PoolStep :=
  sets.map fun (field, value) => .set slot field.name value

/-- They make the calls that put the values in. -/
theorem makesAll_setSteps (w : Workspace) (slot : String) (sets : List (UpdateField × Scalar)) :
    MakesAll slot w (setSteps slot sets) (BuilderCall.sets sets) := by
  induction sets generalizing w with
  | nil => exact .nil
  | cons write sets ih => exact .call (.set write.1 write.2) (ih _)

/-- They write no slot but that of the area. -/
theorem object_setSteps_of_ne {other : String} (differ : other ≠ slot)
    (sets : List (UpdateField × Scalar)) :
    (finalState step w (setSteps slot sets)).object other = w.object other := by
  induction sets generalizing w with
  | nil => rfl
  | cons write sets ih =>
    rw [setSteps, List.map_cons, finalState_cons]
    exact ih.trans (object_step_of_ne (mt Option.some.inj differ.symm))

end Workspace

/-- The last value that was put into a field. -/
theorem lastWritten?_sets (field : UpdateField) (sets : List (UpdateField × Scalar)) :
    lastWritten? field (BuilderCall.sets sets) = sets.reverse.lookup field := by
  rw [lastWritten?, BuilderCall.sets, ← List.map_reverse]
  induction sets.reverse with
  | nil => rfl
  | cons write sets ih =>
    rw [List.map_cons, List.findSome?_cons, List.lookup_cons, ih, BuilderCall.written?]
    by_cases same : write.1 = field
    · have found : (field == write.1) = true := by simpa using same.symm
      rw [if_pos same, found]
    · have passed : (field == write.1) = false := by simpa using Ne.symm same
      rw [if_neg same, passed]

/-- If each field is given its value from another update, in whatever order and however often, what
    was there before does not matter. -/
theorem UpdateFields.overwritten_all (u v : UpdateFields) {fields : List UpdateField}
    (all : ∀ field, field ∈ fields) :
    u.overwritten (BuilderCall.sets (fields.map fun field => (field, v.get field))) = v := by
  apply ext_get
  intro field
  rw [get_overwritten, lastWritten?_sets, ← List.map_reverse,
    List.lookup_graph v.get (List.mem_reverse.mpr (all field))]
  rfl

/-- Whatever calls are made on a new staging area, updates made of it among them, and whatever is
    done elsewhere in the meantime: each field holds the value that the last call wrote that writes
    into it, or else the one that it had at first, and making an update leaves the area alone and
    comes to the update of these values, or to what is wrong with them.  So for what is held
    afterwards two calls in a row that write into no common field may be exchanged, a configuration
    and a record taken over in either order differ in the weight at most, and a call of which all
    fields are written again may be left out. -/
theorem staging_area_holds_last_values :
    (∀ (w : Workspace) (slot : String) (steps : List PoolStep) (calls : List BuilderCall),
      (w.step (.builder slot)).1.MakesAll slot steps calls →
      let v := finalState Workspace.step (w.step (.builder slot)).1 steps
      let u := UpdateFields.empty.overwritten calls
      v.object slot = .ok (.builder u) ∧
      (∀ field, u.get field = (lastWritten? field calls).getD
        (if field = .pointsTo ∨ field = .mode then .null else .int 0)) ∧
      (∀ s step, v.Makes slot s (.stage step) →
        v.step s = v.stage slot (UpdateFields.empty.overwritten (calls ++ [.stage step]))) ∧
      ∀ target,
        v.step (.build slot target)
          = v.step (.update target (.positional (UpdateField.all.map u.get))) ∧
        (target ≠ slot → (v.step (.build slot target)).1.object slot = .ok (.builder u))) ∧
    (∀ u before c d after, (∀ field, c.written? field = none ∨ d.written? field = none) →
      UpdateFields.overwritten u (before ++ c :: d :: after)
        = u.overwritten (before ++ d :: c :: after)) ∧
    (∀ u before spec record after field, field ≠ .weight →
      (UpdateFields.overwritten u
          (before ++ .stage (.fromSpec spec) :: .stage (.fromRecord record) :: after)).get field
        = (u.overwritten
          (before ++ .stage (.fromRecord record) :: .stage (.fromSpec spec) :: after)).get field) ∧
    (∀ u before c between after,
      (∀ field, c.written? field ≠ none → ∃ d ∈ between, d.written? field ≠ none) →
      UpdateFields.overwritten u (before ++ c :: (between ++ after))
        = u.overwritten (before ++ (between ++ after))) := by
  refine ⟨?_, ?_, ?_, ?_⟩
  · intro w slot steps calls makes v u
    have holds : v.object slot = .ok (.builder u) :=
      makes.object_finalState (w.object_put_self slot _)
    refine ⟨holds, ?_, ?_, ?_⟩
    · intro field
      rw [UpdateFields.get_overwritten]
      cases field <;> rfl
    · intro s step makes
      rw [makes.step_of_stage holds, ← UpdateFields.overwritten_append]
    · intro target
      refine ⟨by rw [Workspace.step_build holds, Workspace.step_update_positional], ?_⟩
      intro apart
      have spared : (PoolStep.build slot target).changed? ≠ some slot := mt Option.some.inj apart
      exact (Workspace.object_step_of_ne spared).trans holds
  · intro u before c d after apart
    exact UpdateFields.overwritten_swap apart
  · intro u before spec record after field other
    exact UpdateFields.get_overwritten_spec_record spec record other
  · intro u before c between after rewritten
    exact UpdateFields.overwritten_of_rewritten rewritten

/-- A weight below zero keeps an update from being made.  After that of a configuration was taken
    over there is nothing left of it: it might have been written before the mode, or not at all. -/
theorem staging_area_holds_last_values_of_configuration :
    let spec : RecordSpec :=
      ⟨.text "", .text "Normal", .bool true, .int 2, .int 0, .int 1, .int 300⟩
    let w := ((⟨[("spec", .spec spec)]⟩ : Workspace).step (.builder "b")).1
    let steps : List PoolStep :=
      [.set "b" "points_to" (.text "a"), .set "b" "mode" (.bool false),
       .set "b" "weight" (.int (-1)), .build "b" "u", .takeOver .spec "b" "spec"]
    let mode : BuilderCall := .stage (.set .mode (.bool false))
    let weight : BuilderCall := .stage (.set .weight (.int (-1)))
    let takeOver : BuilderCall := .stage (.fromSpec spec)
    (w.runAll steps)[3]?.map Prod.snd = some (.error (.update (.negative .weight (.text "a")))) ∧
    (finalState Workspace.step w steps).object "b" = .ok (.builder
      ⟨.text "a", .text "Normal", .int 0, .int 2, .int 0, .int 1, .int 300⟩) ∧
    UpdateFields.empty.overwritten [mode, weight, .build, takeOver]
      = UpdateFields.empty.overwritten [weight, mode, .build, takeOver] ∧
    UpdateFields.empty.overwritten [mode, weight, .build, takeOver]
      = UpdateFields.empty.overwritten [mode, .build, takeOver] := by
  intro spec w steps mode weight takeOver
  obtain ⟨run, swapped, -, leftOut⟩ := staging_area_holds_last_values
  obtain ⟨holds, -⟩ := run ⟨[("spec", .spec spec)]⟩ "b" steps
    [.stage (.set .pointsTo (.text "a")), mode, weight, .build, takeOver]
    (.call (.set .pointsTo _) (.call (.set .mode _) (.call (.set .weight _)
      (.call (.build (by decide)) (.call (.fromSpec rfl) .nil)))))
  refine ⟨rfl, holds, swapped .empty [] mode weight _ ?_,
    leftOut .empty [mode] weight [.build, takeOver] [] ?_⟩
  · intro field
    cases field <;> decide
  · intro field written
    refine ⟨takeOver, by simp, ?_⟩
    cases field with
    | weight => decide
    | _ => exact absurd rfl written

end CloudClient
