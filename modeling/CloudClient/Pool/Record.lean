import CloudClient.Pool.Signature

namespace CloudClient

/-!
# Pool records

What a provider reports on the records in a traffic-controller pool.  The values of the fields are
not looked at here.

* `RecordSpec` — the configuration of a record;
* `PoolRecord` — the record in its pool;
* `fields` — the names of the fields with their values, and `ofValues`, the way back from the
  values;
* `showFields` — how such a value is shown.
-/

/-- The configuration of a record in a pool. -/
structure RecordSpec where
  description : Scalar
  state : Scalar
  active : Scalar
  weight : Scalar
  failOverDelay : Scalar
  threshold : Scalar
  ttl : Scalar
deriving DecidableEq

/-- A record in a pool. -/
structure PoolRecord where
  id : Scalar
  poolId : Scalar
  pointsTo : Scalar
  weight : Scalar
  priority : Scalar
  type : Scalar
  forcedAnswer : Scalar
deriving DecidableEq

/-- A constructor: the kind of value that it makes, and the names of its fields. -/
def Signature.ofKind (kind : String) (fields : List String) : Signature where
  operation := kind ++ ".__init__"
  onObject := true
  parameters := fields

/-- What is made of seven values in their order. -/
def ofSeven {α β : Type} (make : α → α → α → α → α → α → α → β) (v : Vector α 7) : β :=
  make v[0] v[1] v[2] v[3] v[4] v[5] v[6]

namespace RecordSpec

/-- The name of the kind. -/
def kindName : String := "PoolRecordSpec"

/-- The names of the fields. -/
def fieldNames : List String :=
  ["description", "state", "active", "weight", "fail_over_delay", "threshold", "ttl"]

/-- The arguments that make a configuration. -/
def signature : Signature := .ofKind kindName fieldNames

/-- The names of the fields with their values. -/
def fields (s : RecordSpec) : List (String × Scalar) :=
  fieldNames.zip
    [s.description, s.state, s.active, s.weight, s.failOverDelay, s.threshold, s.ttl]

/-- The configuration with these values, in the order of the fields. -/
def ofValues (v : Vector Scalar 7) : RecordSpec := ofSeven mk v

end RecordSpec

namespace PoolRecord

/-- The name of the kind. -/
def kindName : String := "TrafficControllerPoolRecord"

/-- The names of the fields. -/
def fieldNames : List String :=
  ["id", "pool_id", "points_to", "weight", "priority", "type", "forced_answer"]

/-- The arguments that make a record. -/
def signature : Signature := .ofKind kindName fieldNames

/-- The names of the fields with their values. -/
def fields (r : PoolRecord) : List (String × Scalar) :=
  fieldNames.zip [r.id, r.poolId, r.pointsTo, r.weight, r.priority, r.type, r.forcedAnswer]

/-- The record with these values, in the order of the fields. -/
def ofValues (v : Vector Scalar 7) : PoolRecord := ofSeven mk v

end PoolRecord

/-- Seven values are the list of them. -/
theorem toList_of_seven {α : Type} (v : Vector α 7) :
    v.toList = [v[0], v[1], v[2], v[3], v[4], v[5], v[6]] := by
  apply List.ext_getElem
  · simp
  · intro i _ small
    match i, small with
    | 0, _ | 1, _ | 2, _ | 3, _ | 4, _ | 5, _ | 6, _ => simp
    | i + 7, small => exact absurd small (Nat.not_lt.2 (Nat.le_add_left 7 i))

theorem RecordSpec.fields_ofValues (v : Vector Scalar 7) :
    (ofValues v).fields = fieldNames.zip v.toList := by
  rw [toList_of_seven]
  rfl

theorem PoolRecord.fields_ofValues (v : Vector Scalar 7) :
    (ofValues v).fields = fieldNames.zip v.toList := by
  rw [toList_of_seven]
  rfl

/-- A value of a kind with named fields, as it is shown. -/
def showFields (kind : String) (fields : List (String × Scalar)) : String :=
  let shown := fields.map fun (name, value) => name ++ "=" ++ value.literal
  kind ++ "(" ++ ", ".intercalate shown ++ ")"

/-- The same values field by field, numbers compared by value. -/
def fieldsAgree (a b : List (String × Scalar)) : Bool :=
  a.length == b.length && (a.zip b).all fun (x, y) => x.2.agrees y.2

end CloudClient
