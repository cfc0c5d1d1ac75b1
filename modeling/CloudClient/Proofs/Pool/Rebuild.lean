import CloudClient.Proofs.Pool.Staging

namespace CloudClient

/-!
# Updates made again

An update that was put back into a staging area passes its check again, and single values that are
put in afterwards replace its own.

* `Workspace.makeUpdate_values` — the values of an update make this update;
* `UpdateFields.replaced` — values with some of them replaced;
* `update_rebuilt` — what becomes of an update by way of a staging area.
-/

/-- The values with the last of the given ones for each field in their place. -/
def UpdateFields.replaced (u : UpdateFields) (sets : List (UpdateField × Scalar)) : UpdateFields :=
  .ofGet fun field => (sets.reverse.lookup field).getD (u.get field)

/-- Single values that are put into a staging area replace those that were there. -/
theorem UpdateFields.overwritten_sets (u : UpdateFields) (sets : List (UpdateField × Scalar)) :
    u.overwritten (BuilderCall.sets sets) = u.replaced sets := by
  apply ext_get
  intro field
  rw [get_overwritten, lastWritten?_sets, replaced, get_ofGet]

/-- The values of an update pass their check, so they make this update. -/
theorem Workspace.makeUpdate_values (w : Workspace) (target : String) (r : RecordUpdate) :
    w.makeUpdate target r.values = w.store target (.update r) := by
  rw [makeUpdate, RecordUpdate.ofFields_values]

/-- An update that is taken over into a staging area, new or used before, is made again as it was,
    each value of the same kind.  After single values were put into the new area the result is the
    same as of making an update of its values with the last ones for each field in their place, be
    it an update or a report, and the first update is still there. -/
theorem update_rebuilt (w : Workspace) (r : RecordUpdate) (slot : String)
    (holds : w.object slot = .ok (.update r)) (b target : String) :
    (w.step (.toBuilder slot b)).1.step (.build b target)
      = (w.step (.toBuilder slot b)).1.store target (.update r) ∧
    (∀ u, w.object b = .ok (.builder u) →
      let v := (w.step (.takeOver .update b slot)).1
      v.step (.build b target) = v.store target (.update r)) ∧
    ∀ sets : List (UpdateField × Scalar),
      let v := finalState Workspace.step (w.step (.toBuilder slot b)).1 (Workspace.setSteps b sets)
      v.step (.build b target) = v.step (.update target
          (.positional (UpdateField.all.map (r.values.replaced sets).get))) ∧
      (slot ≠ b → v.object slot = .ok (.update r) ∧
        (slot ≠ target → (v.step (.build b target)).1.object slot = .ok (.update r))) := by
  have staged : (w.step (.toBuilder slot b)).1.object b = .ok (.builder r.values) := by
    rw [Workspace.step_toBuilder holds]
    exact w.object_put_self b _
  refine ⟨?_, ?_, ?_⟩
  · rw [Workspace.step_build staged, Workspace.makeUpdate_values]
  · intro u area v
    have taken : v.object b = .ok (.builder r.values) := by
      show (w.step (.takeOver .update b slot)).1.object b = _
      rw [Workspace.step_takeOver area holds, Workspace.fill_update, UpdateFields.apply_fromUpdate]
      exact w.object_put_self b _
    rw [Workspace.step_build taken, Workspace.makeUpdate_values]
  · intro sets v
    have replaced : v.object b = .ok (.builder (r.values.replaced sets)) := by
      rw [← UpdateFields.overwritten_sets]
      exact (Workspace.makesAll_setSteps _ b sets).object_finalState staged
    refine ⟨?_, ?_⟩
    · rw [Workspace.step_build replaced, Workspace.step_update_positional]
    · intro other
      have kept : v.object slot = .ok (.update r) := by
        refine (Workspace.object_setSteps_of_ne other sets).trans ?_
        rw [Workspace.step_toBuilder holds]
        exact (w.object_put_of_ne _ other).trans holds
      refine ⟨kept, ?_⟩
      intro elsewhere
      have spared : (PoolStep.build b target).changed? ≠ some slot :=
        mt Option.some.inj elsewhere.symm
      exact (Workspace.object_step_of_ne spared).trans kept

/-- An update with values of all kinds, minus zero and a NaN among them.  Of the weights that
    replace its own only the last one counts, so that there is nothing to report. -/
theorem update_rebuilt_with_last_weight :
    let r : RecordUpdate := ⟨⟨.text "a", .bool true, .null, .bool false, .real ⟨0x8000000000000000⟩,
      .int 1, .real ⟨0x7ff8000000000000⟩⟩, by decide⟩
    let w : Workspace := ⟨[("r", .update r)]⟩
    ((w.step (.toBuilder "r" "b")).1.step (.build "b" "u")).2 = .ok (.object (.update r)) ∧
    ∃ u, ((finalState Workspace.step (w.step (.toBuilder "r" "b")).1 (Workspace.setSteps "b"
        [(.weight, .int (-1)), (.mode, .int 0), (.weight, .int 3)])).step (.build "b" "u")).2
          = .ok (.object (.update u)) ∧
      u.values = { r.values with mode := .int 0, weight := .int 3 } := by
  intro r w
  obtain ⟨again, -, sets⟩ := update_rebuilt w r "r" rfl "b" "u"
  refine ⟨by rw [again]; rfl, ⟨⟨.text "a", .int 0, .null, .int 3, .real ⟨0x8000000000000000⟩,
    .int 1, .real ⟨0x7ff8000000000000⟩⟩, by decide⟩, ?_, rfl⟩
  rw [(sets _).1]
  rfl

end CloudClient
