import CloudClient.Pool.Record

namespace CloudClient

/-!
# Updates of pool records

The pending updates of a record in a pool, and the staging area in which they are put together.

* `UpdateField`, `UpdateFields` — the seven fields and a value for each; as a staging area they may
  hold anything;
* `UpdateFields.fault?` — the check that values must pass to be an update, and `UpdateFault`, what
  it finds, with `UpdateFault.errorClass`, how a caller tells it;
* `RecordUpdate` — an update, checked by its type; `RecordUpdate.ofFields` makes one;
* `StagingStep`, `UpdateFields.apply` — the ways to fill the staging area;
* `Takeover` — the ways to fill it from another value, which is asked for its fields by their names,
  and `Taken`, what it gives.
-/

/-- A field of an update. -/
inductive UpdateField where
  | pointsTo
  | mode
  | priority
  | weight
  | failOverDelay
  | threshold
  | ttl
deriving DecidableEq, Repr

namespace UpdateField

/-- The fields in their order. -/
def all : List UpdateField := [pointsTo, mode, priority, weight, failOverDelay, threshold, ttl]

/-- The name. -/
def name : UpdateField → String
  | pointsTo => "points_to"
  | mode => "mode"
  | priority => "priority"
  | weight => "weight"
  | failOverDelay => "fail_over_delay"
  | threshold => "threshold"
  | ttl => "ttl"

/-- The field with a name. -/
def ofName? (name : String) : Option UpdateField := all.find? fun f => f.name = name

theorem ofName?_name (field : UpdateField) : ofName? field.name = some field := by
  cases field <;> rfl

/-- The fields that must hold a number not below zero, in the order of the check. -/
def checked : List UpdateField := [weight, failOverDelay, threshold, ttl]

end UpdateField

/-- A value for each field of an update. -/
structure UpdateFields where
  pointsTo : Scalar
  mode : Scalar
  priority : Scalar
  weight : Scalar
  failOverDelay : Scalar
  threshold : Scalar
  ttl : Scalar
deriving DecidableEq

/-- What keeps values from being an update. -/
inductive UpdateFault where
  | missingTarget
  | missingMode (pointsTo : Scalar)
  /-- A field that must hold a number holds a value of the kind named here. -/
  | notANumber (kind : String)
  | negative (field : UpdateField) (pointsTo : Scalar)
deriving DecidableEq

/-- The report in words. -/
def UpdateFault.message : UpdateFault → String
  | missingTarget => "points_to is required"
  | missingMode target => target.mention fun shown => "mode for " ++ shown ++ " is required"
  | notANumber kind => "'<' not supported between instances of '" ++ kind ++ "' and 'int'"
  | negative field target =>
    target.mention fun shown => field.name ++ " of " ++ shown ++ " must be >= 0"

/-- The class of the error.  Two reports mention the target, which has to be written for them. -/
def UpdateFault.errorClass : UpdateFault → ErrorClass
  | missingTarget | notANumber _ => .type
  | missingMode target => target.reportClass .type
  | negative _ target => target.reportClass .value

/-- The value is a number below zero; none if it is no number.  Truth values count as numbers. -/
def Scalar.isBelowZero? : Scalar → Option Bool
  | null | text _ => none
  | bool _ => some false
  | int n => some (n < 0)
  | real x => some x.isBelowZero

namespace UpdateFields

/-- The staging area before anything is put into it. -/
def empty : UpdateFields := ⟨.null, .null, .int 0, .int 0, .int 0, .int 0, .int 0⟩

/-- The value of a field. -/
def get (u : UpdateFields) : UpdateField → Scalar
  | .pointsTo => u.pointsTo
  | .mode => u.mode
  | .priority => u.priority
  | .weight => u.weight
  | .failOverDelay => u.failOverDelay
  | .threshold => u.threshold
  | .ttl => u.ttl

/-- The values with one of them replaced. -/
def set (u : UpdateFields) (field : UpdateField) (value : Scalar) : UpdateFields :=
  match field with
  | .pointsTo => { u with pointsTo := value }
  | .mode => { u with mode := value }
  | .priority => { u with priority := value }
  | .weight => { u with weight := value }
  | .failOverDelay => { u with failOverDelay := value }
  | .threshold => { u with threshold := value }
  | .ttl => { u with ttl := value }

/-- The names of the fields with their values. -/
def fields (u : UpdateFields) : List (String × Scalar) :=
  UpdateField.all.map fun f => (f.name, u.get f)

/-- The values in the order of the fields. -/
def ofValues (v : Vector Scalar 7) : UpdateFields := ofSeven mk v

/-- The values with some of them replaced, one after the other. -/
def assign (u : UpdateFields) (writes : List (UpdateField × Scalar)) : UpdateFields :=
  writes.foldl (fun u write => u.set write.1 write.2) u

/-- What is wrong with a field that must hold a number not below zero. -/
def numberFault? (u : UpdateFields) (field : UpdateField) : Option UpdateFault :=
  match (u.get field).isBelowZero? with
  | none => some (.notANumber (u.get field).kind)
  | some true => some (.negative field u.pointsTo)
  | some false => none

/-- The first thing that keeps the values from being an update: a target and a mode must be there,
    then the checked fields must hold numbers not below zero. -/
def fault? (u : UpdateFields) : Option UpdateFault :=
  if u.pointsTo = .null then some .missingTarget
  else if u.mode = .null then some (.missingMode u.pointsTo)
  else UpdateField.checked.findSome? u.numberFault?

@[simp] theorem get_set_self (u : UpdateFields) (field : UpdateField) (value : Scalar) :
    (u.set field value).get field = value := by
  cases field <;> rfl

theorem get_set_of_ne (u : UpdateFields) {field other : UpdateField} (value : Scalar)
    (differ : other ≠ field) : (u.set field value).get other = u.get other := by
  cases field <;> cases other <;> first | rfl | exact absurd rfl differ

@[simp] theorem assign_nil (u : UpdateFields) : u.assign [] = u := rfl

@[simp] theorem assign_cons (u : UpdateFields) (write : UpdateField × Scalar)
    (writes : List (UpdateField × Scalar)) :
    u.assign (write :: writes) = (u.set write.1 write.2).assign writes := rfl

theorem fields_ofValues (v : Vector Scalar 7) :
    (ofValues v).fields = (UpdateField.all.map UpdateField.name).zip v.toList := by
  rw [toList_of_seven]
  rfl

theorem ext_get {u v : UpdateFields} (same : ∀ field, u.get field = v.get field) : u = v := by
  cases u
  cases v
  have := same .pointsTo
  have := same .mode
  have := same .priority
  have := same .weight
  have := same .failOverDelay
  have := same .threshold
  have := same .ttl
  simp_all [get]

end UpdateFields

/-- The pending updates of a record in a pool. -/
structure RecordUpdate where
  values : UpdateFields
  sound : values.fault? = none
deriving DecidableEq

namespace RecordUpdate

/-- The name of the kind. -/
def kindName : String := "UpdatePoolRecord"

/-- The arguments that make an update. -/
def signature : Signature := .ofKind kindName (UpdateField.all.map UpdateField.name)

/-- The update with these values, or what is wrong with them. -/
def ofFields (u : UpdateFields) : Except UpdateFault RecordUpdate :=
  match h : u.fault? with
  | none => .ok ⟨u, h⟩
  | some fault => .error fault

theorem ofFields_values (r : RecordUpdate) : ofFields r.values = .ok r := by
  unfold ofFields
  split
  · rfl
  · rename_i fault found
    rw [r.sound] at found
    cases found

theorem ofFields_error_iff {u : UpdateFields} {fault : UpdateFault} :
    ofFields u = .error fault ↔ u.fault? = some fault := by
  unfold ofFields
  split <;> simp_all

end RecordUpdate

/-- A way to put values into the staging area. -/
inductive StagingStep where
  /-- One value. -/
  | set (field : UpdateField) (value : Scalar)
  /-- The mode, the weight and the three limits of a configuration. -/
  | fromSpec (spec : RecordSpec)
  /-- The weight, the target and the priority of a record. -/
  | fromRecord (record : PoolRecord)
  /-- All values of an update. -/
  | fromUpdate (update : RecordUpdate)

/-- The values that are put in, each with the field it goes to. -/
def StagingStep.writes : StagingStep → List (UpdateField × Scalar)
  | set field value => [(field, value)]
  | fromSpec spec =>
    [(.mode, spec.state), (.weight, spec.weight), (.failOverDelay, spec.failOverDelay),
     (.threshold, spec.threshold), (.ttl, spec.ttl)]
  | fromRecord record =>
    [(.weight, record.weight), (.pointsTo, record.pointsTo), (.priority, record.priority)]
  | fromUpdate update => UpdateField.all.map fun field => (field, update.values.get field)

namespace UpdateFields

/-- Puts values into the staging area. -/
def apply (u : UpdateFields) (s : StagingStep) : UpdateFields := u.assign s.writes

@[simp] theorem apply_set (u : UpdateFields) (field : UpdateField) (value : Scalar) :
    u.apply (.set field value) = u.set field value := rfl

@[simp] theorem apply_fromSpec (u : UpdateFields) (spec : RecordSpec) :
    u.apply (.fromSpec spec) =
      ⟨u.pointsTo, spec.state, u.priority, spec.weight, spec.failOverDelay, spec.threshold,
       spec.ttl⟩ := rfl

@[simp] theorem apply_fromRecord (u : UpdateFields) (record : PoolRecord) :
    u.apply (.fromRecord record) =
      ⟨record.pointsTo, u.mode, record.priority, record.weight, u.failOverDelay, u.threshold,
       u.ttl⟩ := rfl

@[simp] theorem apply_fromUpdate (u : UpdateFields) (update : RecordUpdate) :
    u.apply (.fromUpdate update) = update.values := by
  obtain ⟨⟨_, _, _, _, _, _, _⟩, _⟩ := update
  rfl

end UpdateFields

/-- The ways to fill the staging area from another value. -/
inductive Takeover where
  | spec
  | record
  | update
deriving DecidableEq, Repr

/-- What one value gives to a staging area. -/
structure Taken where
  /-- The values that are put in, each with the field it goes to. -/
  writes : List (UpdateField × Scalar)
  /-- The first name that is not there.  Nothing is taken over after it. -/
  missing : Option String
deriving DecidableEq

namespace Takeover

/-- The ways in their order. -/
def all : List Takeover := [spec, record, update]

/-- The name of the operation. -/
def name : Takeover → String
  | spec => "from_spec"
  | record => "from_pool_record"
  | update => "from_update"

/-- The way with a name. -/
def ofName? (name : String) : Option Takeover := all.find? fun t => t.name = name

/-- The names that the other value is asked for, in this order, and the field that each goes to. -/
def reads : Takeover → List (String × UpdateField)
  | spec =>
    [("state", .mode), ("weight", .weight), ("fail_over_delay", .failOverDelay),
     ("threshold", .threshold), ("ttl", .ttl)]
  | record => [("weight", .weight), ("points_to", .pointsTo), ("priority", .priority)]
  | update => UpdateField.all.map fun field => (field.name, field)

/-- Asks for some names one after the other, up to the first that is not there. -/
def collect (fields : List (String × Scalar)) : List (String × UpdateField) → Taken
  | [] => ⟨[], none⟩
  | (name, field) :: reads =>
    match fields.lookup name with
    | some value =>
      let later := collect fields reads
      ⟨(field, value) :: later.writes, later.missing⟩
    | none => ⟨[], some name⟩

/-- What is taken over from a value with these fields. -/
def taken (t : Takeover) (fields : List (String × Scalar)) : Taken := collect fields t.reads

theorem taken_spec (s : RecordSpec) :
    spec.taken s.fields = ⟨(StagingStep.fromSpec s).writes, none⟩ := by rfl

theorem taken_record (r : PoolRecord) :
    record.taken r.fields = ⟨(StagingStep.fromRecord r).writes, none⟩ := by rfl

theorem taken_update (u : RecordUpdate) :
    update.taken u.values.fields = ⟨(StagingStep.fromUpdate u).writes, none⟩ := by rfl

end Takeover

/-- The staging area that holds the values of an update. -/
def RecordUpdate.toBuilder (r : RecordUpdate) : UpdateFields :=
  UpdateFields.empty.apply (.fromUpdate r)

/-- The update that a configuration gives for a record with a new target. -/
def RecordUpdate.pointingTo (spec : RecordSpec) (target : Scalar) :
    Except UpdateFault RecordUpdate :=
  ofFields ((UpdateFields.empty.apply (.fromSpec spec)).apply (.set .pointsTo target))

end CloudClient
