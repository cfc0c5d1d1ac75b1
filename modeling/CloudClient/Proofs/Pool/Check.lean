import CloudClient.Proofs.Pool.Staging
import CloudClient.Proofs.Text.Shown
import Mathlib.Algebra.Group.Int.Defs

namespace CloudClient

/-!
# Which values make an update

A target and a mode must be there, and four fields must hold numbers not below zero.  The first
field that fails its check is the one that is reported, however the values were put together.

* `Binary64.isBelowZero_iff` — a real below zero, by its exact value;
* `Scalar.IsNumber`, `Scalar.IsBelowZero` — the numbers among the values, and those below zero;
* `UpdateField.Admits`, `UpdateFields.Acceptable` — what a field may hold, and what all of them may;
* `UpdateFields.faultAt` — the report on a field that fails its check;
* `UpdateFields.fault?_eq_none_iff`, `UpdateFields.fault?_eq_some_iff` — no field fails its check,
  or the first one that does is reported;
* `update_made_of_acceptable_values` — all this, for every way to make an update.
-/

namespace Binary64

variable {x : Binary64}

theorem units_neg_iff : x.units < 0 ↔ x.isNegative = true ∧ x.magnitude ≠ 0 := by
  unfold units
  cases x.isNegative with
  | true =>
    rw [if_pos rfl, eq_self, true_and]
    omega
  | false =>
    rw [if_neg Bool.false_ne_true]
    exact iff_of_false (by omega) (by simp)

theorem isNaN_of_isFinite (finite : x.isFinite = true) : x.isNaN = false := by
  have exponent : (x.exponentField == 0x7ff) = false := by simpa [isFinite] using finite
  rw [isNaN, exponent, Bool.false_and]

/-- The bits of an infinity or a NaN do not stand for zero. -/
theorem magnitude_ne_zero (infinite : x.isFinite = false) : x.magnitude ≠ 0 := by
  have exponent : x.exponentField = 0x7ff := by simpa [isFinite] using infinite
  have significand : 0 < Nat.pow 2 52 + x.fraction := Nat.add_pos_left (by decide) _
  have gap : 0 < x.gap := Nat.pow_pos (by decide)
  rw [magnitude, exponent, if_neg (by decide)]
  exact Nat.ne_of_gt (Nat.mul_pos significand gap)

/-- Below zero are the finite numbers with a value below zero, and minus infinity. -/
theorem isBelowZero_iff : x.isBelowZero = true ↔
    x.isFinite = true ∧ x.units < 0 ∨
      x.isFinite = false ∧ x.isNaN = false ∧ x.isNegative = true := by
  have unfolded : x.isBelowZero = true ↔
      (x.isNegative = true ∧ x.magnitude ≠ 0) ∧ x.isNaN = false := by
    simp only [isBelowZero, Bool.and_eq_true, bne_iff_ne, Bool.not_eq_true']
  cases finite : x.isFinite with
  | true =>
    rw [unfolded, ← units_neg_iff]
    simp [isNaN_of_isFinite finite]
  | false =>
    rw [unfolded]
    simp [magnitude_ne_zero finite, and_comm]

end Binary64

namespace Scalar

/-- The value is a number: a truth value, an integer or a real. -/
def IsNumber : Scalar → Prop
  | bool _ | int _ | real _ => True
  | null | text _ => False

/-- The value is a number below zero.  A truth value never is. -/
def IsBelowZero : Scalar → Prop
  | int n => n < 0
  | real x => x.isFinite = true ∧ x.units < 0 ∨
      x.isFinite = false ∧ x.isNaN = false ∧ x.isNegative = true
  | null | bool _ | text _ => False

instance : DecidablePred IsNumber
  | bool _ | int _ | real _ => .isTrue trivial
  | null | text _ => .isFalse not_false

instance : DecidablePred IsBelowZero
  | int n => inferInstanceAs (Decidable (n < 0))
  | real _ => inferInstanceAs (Decidable (_ ∧ _ ∨ _ ∧ _ ∧ _))
  | null | bool _ | text _ => .isFalse not_false

theorem isBelowZero_real_iff {x : Binary64} : (real x).IsBelowZero ↔ x.isBelowZero = true :=
  Binary64.isBelowZero_iff.symm

end Scalar

/-! ### The checks -/

/-- The value passes the check of the field. -/
def UpdateField.Admits (value : Scalar) : UpdateField → Prop
  | pointsTo | mode => value ≠ .null
  | priority => True
  | weight | failOverDelay | threshold | ttl => value.IsNumber ∧ ¬ value.IsBelowZero

instance (value : Scalar) (field : UpdateField) : Decidable (field.Admits value) :=
  match field with
  | .pointsTo | .mode => inferInstanceAs (Decidable (value ≠ .null))
  | .priority => .isTrue trivial
  | .weight | .failOverDelay | .threshold | .ttl => inferInstanceAs (Decidable (_ ∧ ¬ _))

/-- The fields that are checked, in the order of the checks. -/
def UpdateField.inCheckOrder : List UpdateField :=
  [pointsTo, mode, weight, failOverDelay, threshold, ttl]

/-- What is reported of a value for the field that is no number, or of a number below zero. -/
def UpdateField.numberFault (field : UpdateField) (pointsTo value : Scalar) : UpdateFault :=
  match value with
  | .null | .text _ => .notANumber value.kind
  | .bool _ | .int _ | .real _ => .negative field pointsTo

/-- A value that is none or a text has the wrong type, and a number below zero the wrong value. -/
theorem UpdateField.errorClass_numberFault {value : Scalar} (field : UpdateField)
    (pointsTo : Scalar) (fails : ¬ (value.IsNumber ∧ ¬ value.IsBelowZero)) :
    (value = .null ∨ ∃ s, value = .text s) ∧
        (field.numberFault pointsTo value).errorClass = .type ∨
      value.IsBelowZero ∧ (field.numberFault pointsTo value).errorClass = .value := by
  cases value with
  | null => exact .inl ⟨.inl rfl, rfl⟩
  | text s => exact .inl ⟨.inr ⟨s, rfl⟩, rfl⟩
  | bool b => exact absurd ⟨trivial, not_false⟩ fails
  | int n => exact .inr ⟨by_contra fun above => fails ⟨trivial, above⟩, pointsTo.reportClass_value⟩
  | real x => exact .inr ⟨by_contra fun above => fails ⟨trivial, above⟩, pointsTo.reportClass_value⟩

namespace UpdateFields

variable {u : UpdateFields} {field : UpdateField} {fault : UpdateFault}

/-- The values may be those of an update. -/
def Acceptable (u : UpdateFields) : Prop :=
  u.pointsTo ≠ .null ∧ u.mode ≠ .null ∧
    ∀ field ∈ [UpdateField.weight, .failOverDelay, .threshold, .ttl],
      (u.get field).IsNumber ∧ ¬ (u.get field).IsBelowZero

/-- What is reported of a field that fails its check: a field of the first two that is empty, a
    value that is no number, or else a number below zero. -/
def faultAt (u : UpdateFields) : UpdateField → UpdateFault
  | .pointsTo => .missingTarget
  | .mode => .missingMode u.pointsTo
  | field => field.numberFault u.pointsTo (u.get field)

/-- What the check of one field finds. -/
def violation? (u : UpdateFields) : UpdateField → Option UpdateFault
  | .pointsTo => if u.pointsTo = .null then some .missingTarget else none
  | .mode => if u.mode = .null then some (.missingMode u.pointsTo) else none
  | .priority => none
  | field => u.numberFault? field

/-- The fields are checked one after the other. -/
theorem fault?_eq_findSome? (u : UpdateFields) :
    u.fault? = UpdateField.inCheckOrder.findSome? u.violation? := by
  have numbers : UpdateField.checked.findSome? u.violation?
      = UpdateField.checked.findSome? u.numberFault? := rfl
  have order : UpdateField.inCheckOrder = .pointsTo :: .mode :: UpdateField.checked := rfl
  rw [fault?, order, List.findSome?_cons, List.findSome?_cons, numbers]
  simp only [violation?]
  split
  · rfl
  · split <;> rfl

/-- A value is reported if it is no number, or if it is one below zero. -/
theorem numberFault?_eq_some_iff : u.numberFault? field = some fault ↔
    ¬ ((u.get field).IsNumber ∧ ¬ (u.get field).IsBelowZero) ∧
      fault = field.numberFault u.pointsTo (u.get field) := by
  unfold numberFault?
  cases u.get field with
  | null | text s =>
    simp [Scalar.isBelowZero?, Scalar.IsNumber, UpdateField.numberFault, eq_comm]
  | bool b => simp [Scalar.isBelowZero?, Scalar.IsNumber, Scalar.IsBelowZero]
  | int n =>
    by_cases below : n < 0 <;>
      simp [Scalar.isBelowZero?, Scalar.IsNumber, Scalar.IsBelowZero, UpdateField.numberFault,
        below, eq_comm]
  | real x =>
    rw [Scalar.isBelowZero_real_iff]
    cases below : x.isBelowZero <;>
      simp [Scalar.isBelowZero?, Scalar.IsNumber, UpdateField.numberFault, below, eq_comm]

/-- The check of a field finds something exactly if the field does not admit its value. -/
theorem violation?_eq_some_iff : u.violation? field = some fault ↔
    ¬ field.Admits (u.get field) ∧ fault = u.faultAt field := by
  cases field with
  | pointsTo | mode =>
    simp only [violation?, UpdateField.Admits, get, faultAt, Option.ite_none_right_eq_some,
      Option.some.injEq, not_not]
    exact and_congr_right fun _ => eq_comm
  | priority => simp [violation?, UpdateField.Admits]
  | _ => exact numberFault?_eq_some_iff

theorem violation?_eq_none_iff : u.violation? field = none ↔ field.Admits (u.get field) := by
  refine ⟨?_, ?_⟩
  · intro passed
    by_contra fails
    rw [violation?_eq_some_iff.mpr ⟨fails, rfl⟩] at passed
    exact absurd passed (by simp)
  · intro admits
    rw [Option.eq_none_iff_forall_ne_some]
    intro fault found
    exact (violation?_eq_some_iff.mp found).1 admits

/-- Nothing is found if every field admits its value. -/
theorem fault?_eq_none_iff : u.fault? = none ↔ u.Acceptable := by
  rw [fault?_eq_findSome?, List.findSome?_eq_none_iff]
  simp only [violation?_eq_none_iff]
  simp [UpdateField.inCheckOrder, Acceptable, UpdateField.Admits, get]

/-- What is found first is the first field that does not admit its value. -/
theorem fault?_eq_some_iff : u.fault? = some fault ↔
    ∃ before field after, UpdateField.inCheckOrder = before ++ field :: after ∧
      (∀ f ∈ before, f.Admits (u.get f)) ∧ ¬ field.Admits (u.get field) ∧
      fault = u.faultAt field := by
  rw [fault?_eq_findSome?, List.findSome?_eq_some_iff]
  simp only [violation?_eq_some_iff, violation?_eq_none_iff]
  refine exists_congr fun before => exists_congr fun field => exists_congr fun after => ?_
  exact and_congr_right fun _ => and_comm

/-- What is missing, or a text in place of a number, has the wrong type, and a number below zero the
    wrong value.  But the report on a missing mode mentions the target, and if this is a long
    number, that has the wrong value. -/
theorem errorClass_faultAt (fails : ¬ field.Admits (u.get field)) :
    (field = .mode ∧ u.pointsTo.IsLong) ∧ (u.faultAt field).errorClass = .value ∨
      ¬ (field = .mode ∧ u.pointsTo.IsLong) ∧
        ((u.get field = .null ∨ ∃ s, u.get field = .text s) ∧ (u.faultAt field).errorClass = .type ∨
          (u.get field).IsBelowZero ∧ (u.faultAt field).errorClass = .value) := by
  cases field with
  | pointsTo => exact .inr ⟨by simp, .inl ⟨.inl (not_not.mp fails), rfl⟩⟩
  | mode =>
    by_cases long : u.pointsTo.IsLong
    · exact .inl ⟨⟨rfl, long⟩, Scalar.reportClass_of_isLong long .type⟩
    · refine .inr ⟨fun both => long both.2, .inl ⟨.inl (not_not.mp fails), ?_⟩⟩
      exact Scalar.reportClass_of_not_isLong long .type
  | priority => exact absurd trivial fails
  | _ => exact .inr ⟨by simp, UpdateField.errorClass_numberFault _ _ fails⟩

end UpdateFields

/-- Values that nothing is wrong with are those of an update. -/
theorem RecordUpdate.exists_ofFields_iff {u : UpdateFields} :
    (∃ r, ofFields u = .ok r ∧ r.values = u) ↔ u.fault? = none := by
  refine ⟨?_, ?_⟩
  · rintro ⟨r, -, rfl⟩
    exact r.sound
  · intro sound
    exact ⟨⟨u, sound⟩, ofFields_values ⟨u, sound⟩, rfl⟩

/-- Seven values make an update exactly if they are acceptable, and then an update with these
    values.  Otherwise the first field in the order of the checks that does not admit its value is
    reported, with the wrong type if the value is missing or a text, and with the wrong value if it
    is a number below zero; only if the mode is missing and the target is a whole number of more
    than 4300 digits, which no report can mention, the missing mode is reported with the wrong value
    as well.  It makes no difference whether the values are given in order, by their names, through
    a staging area or, where they fit it, with a configuration.  So every update that is found after
    whatever steps has acceptable values. -/
theorem update_made_of_acceptable_values (u : UpdateFields) :
    ((∃ r, RecordUpdate.ofFields u = .ok r ∧ r.values = u) ↔ u.Acceptable) ∧
    (∀ fault, RecordUpdate.ofFields u = .error fault ↔
      ∃ before field after, [.pointsTo, .mode, .weight, .failOverDelay, .threshold, .ttl]
          = before ++ field :: after ∧
        (∀ f ∈ before, f.Admits (u.get f)) ∧ ¬ field.Admits (u.get field) ∧
        fault = u.faultAt field) ∧
    (∀ field, ¬ field.Admits (u.get field) →
      (field = .mode ∧ u.pointsTo.IsLong) ∧ (u.faultAt field).errorClass = .value ∨
        ¬ (field = .mode ∧ u.pointsTo.IsLong) ∧
          ((u.get field = .null ∨ ∃ s, u.get field = .text s) ∧
              (u.faultAt field).errorClass = .type ∨
            (u.get field).IsBelowZero ∧ (u.faultAt field).errorClass = .value)) ∧
    (∀ (w : Workspace) (target : String),
      w.step (.update target (.positional (UpdateField.all.map u.get))) = w.makeUpdate target u ∧
      w.step (.update target (.named u.fields)) = w.makeUpdate target u) ∧
    (∀ (w : Workspace) (slot target : String), w.object slot = .ok (.builder u) →
      w.step (.build slot target) = w.makeUpdate target u) ∧
    (∀ (w : Workspace) (slot : String) (fields : List UpdateField), (∀ field, field ∈ fields) →
      (finalState Workspace.step (w.step (.builder slot)).1
        (Workspace.setSteps slot (fields.map fun field => (field, u.get field)))).object slot
          = .ok (.builder u)) ∧
    (∀ (w : Workspace) (source target : String) (spec : RecordSpec),
      w.object source = .ok (.spec spec) →
      u = ⟨u.pointsTo, spec.state, .int 0, spec.weight, spec.failOverDelay, spec.threshold,
        spec.ttl⟩ →
      w.step (.pointingTo source u.pointsTo target) = w.makeUpdate target u) ∧
    ∀ (steps : List PoolStep) (slot : String) (r : RecordUpdate),
      (finalState Workspace.step .empty steps).object slot = .ok (.update r) →
        r.values.Acceptable := by
  refine ⟨?_, ?_, ?_, ?_, ?_, ?_, ?_, ?_⟩
  · rw [← UpdateFields.fault?_eq_none_iff, RecordUpdate.exists_ofFields_iff]
  · intro fault
    rw [RecordUpdate.ofFields_error_iff, UpdateFields.fault?_eq_some_iff]
    rfl
  · intro field
    exact UpdateFields.errorClass_faultAt
  · intro w target
    exact ⟨w.step_update_positional target u, w.step_update_named target u⟩
  · intro w slot target holds
    exact Workspace.step_build holds target
  · intro w slot fields all
    have makes := Workspace.makesAll_setSteps (w.step (.builder slot)).1 slot
      (fields.map fun field => (field, u.get field))
    rw [makes.object_finalState (w.object_put_self slot _), UpdateFields.overwritten_all _ u all]
  · intro w source target spec holds fits
    rw [Workspace.step_pointingTo holds, ← fits]
  · intro steps slot r _
    exact UpdateFields.fault?_eq_none_iff.mp r.sound

/-- A target and a mode of any kind will do, and minus zero is not below zero.  Of the other fields
    a text comes first, before a number below zero and a missing one. -/
theorem update_made_of_acceptable_values_but_one :
    RecordUpdate.ofFields ⟨.bool false, .int 0, .null, .real ⟨0x8000000000000000⟩, .text "1",
        .int (-1), .null⟩ = .error (.notANumber "str") ∧
      (UpdateFault.notANumber "str").errorClass = .type := by
  obtain ⟨-, refused, classes, -⟩ := update_made_of_acceptable_values ⟨.bool false, .int 0, .null,
    .real ⟨0x8000000000000000⟩, .text "1", .int (-1), .null⟩
  refine ⟨?_, ?_⟩
  · exact (refused _).mpr ⟨[.pointsTo, .mode, .weight], .failOverDelay, [.threshold, .ttl], rfl,
      by decide, by decide, rfl⟩
  · rcases classes .failOverDelay (by decide) with ⟨⟨other, -⟩, -⟩ | ⟨-, ⟨-, type⟩ | ⟨below, -⟩⟩
    · exact absurd other (by decide)
    · exact type
    · exact absurd below (by decide)

/-- The first number of 4301 digits as the target of an update without a mode: the error is not one
    of a wrong type. -/
theorem missing_mode_of_long_target :
    RecordUpdate.ofFields ⟨.int (10 ^ 4300), .null, .int 0, .int 0, .int 0, .int 0, .int 0⟩
        = .error (.missingMode (.int (10 ^ 4300))) ∧
      (UpdateFault.missingMode (.int (10 ^ 4300))).errorClass = .value ∧
      (UpdateFault.missingMode (.int (10 ^ 4300))).errorClass ≠ .type := by
  have refused (n : Int) : RecordUpdate.ofFields ⟨.int n, .null, .int 0, .int 0, .int 0, .int 0,
      .int 0⟩ = .error (.missingMode (.int n)) := rfl
  have long : (Scalar.int (10 ^ 4300)).IsLong := Scalar.isLong_int_iff.mpr (by decide +kernel)
  have value : (UpdateFault.missingMode (.int (10 ^ 4300))).errorClass = .value :=
    Scalar.reportClass_of_isLong long .type
  refine ⟨refused _, value, ?_⟩
  rw [value]
  decide

end CloudClient
