import CloudClient.Pool.Update

namespace CloudClient

/-!
# Objects of a workspace

Configurations, records, updates and staging areas side by side, and what they answer when they are
asked for something by its name.

* `PoolObject` — one of the four kinds; `PoolObject.agrees` compares by value;
* `PoolFault` — what can go wrong in the work with them;
* `held` — the values that an object gives out under a name; `give` — those that a staging area
  takes over from it, and `lack?`, the report on the first one that is not there;
* `accept` — handing a value to the operation with a name.
-/

/-- A configuration, a record, an update or a staging area. -/
inductive PoolObject where
  | spec (s : RecordSpec)
  | record (r : PoolRecord)
  | update (u : RecordUpdate)
  | builder (staged : UpdateFields)
deriving DecidableEq

/-- What can go wrong in the work with objects. -/
inductive PoolFault where
  | update (fault : UpdateFault)
  /-- An operation with this name was given the wrong arguments. -/
  | call (operation : String) (fault : CallFault)
  /-- The slot holds nothing. -/
  | emptySlot (slot : String)
  /-- A value of this kind has nothing under the name. -/
  | noMember (kind name : String)
  /-- A value of this kind was used as an operation. -/
  | notAnOperation (kind : String)
  /-- A field of an object that does not change was to be set. -/
  | assignment (field : String)
  /-- A field of an object that does not change was to be deleted. -/
  | deletion (field : String)
deriving DecidableEq

/-- The report in words. -/
def PoolFault.message : PoolFault → String
  | update fault => fault.message
  | call operation fault => fault.message operation
  | emptySlot slot => slot
  | noMember kind name => noMemberReport kind name
  | notAnOperation kind => "'" ++ kind ++ "' object is not callable"
  | assignment field => "cannot assign to field " ++ Text.quote field
  | deletion field => "cannot delete field " ++ Text.quote field

/-- The full name of the kind of staging areas. -/
def UpdateFields.kindName : String := RecordUpdate.kindName ++ ".Builder"

namespace PoolObject

/-- The name of the kind. -/
def kindName : PoolObject → String
  | spec _ => RecordSpec.kindName
  | record _ => PoolRecord.kindName
  | update _ => RecordUpdate.kindName
  | builder _ => "Builder"

/-- The names of the fields with their values. -/
def fields : PoolObject → List (String × Scalar)
  | spec s => s.fields
  | record r => r.fields
  | update u => u.values.fields
  | builder staged => staged.fields

/-- The object as it is shown. -/
def text (o : PoolObject) : String := showFields o.kindName o.fields

/-- Equality by value of two objects that do not change; two of different kinds are never equal, and
    a staging area equals nothing else. -/
def agrees : PoolObject → PoolObject → Bool
  | spec s, spec t => fieldsAgree s.fields t.fields
  | record r, record s => fieldsAgree r.fields s.fields
  | update u, update v => fieldsAgree u.values.fields v.values.fields
  | _, _ => false

/-! ### Asking an object for something by its name -/

/-- The values that the object gives out, under their names.  The names of the fields of a staging
    area belong to the operations that fill them, so its values have names of their own. -/
def held : PoolObject → List (String × Scalar)
  | spec s => s.fields
  | record r => r.fields
  | update u => u.values.fields
  | builder staged => staged.fields.map fun (name, value) => ("_" ++ name, value)

/-- What a staging area takes over from the object. -/
def give (o : PoolObject) (t : Takeover) : Taken := t.taken o.held

/-- The report on what a staging area misses in the object. -/
def lack? (o : PoolObject) (t : Takeover) : Option PoolFault :=
  (o.give t).missing.map (.noMember o.kindName)

/-- The contents of a staging area, for an operation that no other object has. -/
def staging (operation : String) : PoolObject → Except PoolFault UpdateFields
  | builder staged => .ok staged
  | o => .error (.noMember o.kindName operation)

/-- The update, for an operation that no other object has. -/
def asUpdate (operation : String) : PoolObject → Except PoolFault RecordUpdate
  | update u => .ok u
  | o => .error (.noMember o.kindName operation)

/-- The configuration.  It is told by its state, which no other object gives out. -/
def configuration : PoolObject → Except PoolFault RecordSpec
  | spec s => .ok s
  | o => .error (.noMember o.kindName "state")

/-- The operations that cannot do with a single value, under their names. -/
def operations : PoolObject → List (String × Signature)
  | spec _ | record _ => []
  | update _ =>
    [("pointing_to", ⟨RecordUpdate.kindName ++ ".pointing_to", false, ["spec", "points_to"]⟩),
     ("builder", ⟨RecordUpdate.kindName ++ ".builder", false, []⟩),
     ("to_builder", ⟨RecordUpdate.kindName ++ ".to_builder", true, []⟩),
     ("Builder", .ofKind UpdateFields.kindName [])]
  | builder _ => [("build", ⟨UpdateFields.kindName ++ ".build", true, []⟩)]

/-- Why a value is refused under a name: an operation that wants something else, a value that is no
    operation, or nothing has this name. -/
def refusal (o : PoolObject) (name : String) (value : Scalar) : PoolFault :=
  let nothing := PoolFault.noMember o.kindName name
  match o.operations.lookup name, o.held.lookup name with
  | some signature, _ =>
    ((signature.fault? (.positional [value])).map (.call signature.operation)).getD nothing
  | none, some v => .notAnOperation v.kind
  | none, none => nothing

/-- Hands a value to the operation with a name.  The operations of a staging area with the names of
    its fields take any value; those that take over from an object find none in a scalar. -/
def accept (o : PoolObject) (name : String) (value : Scalar) : Except PoolFault UpdateFields :=
  match o with
  | builder staged =>
    match UpdateField.ofName? name, Takeover.ofName? name with
    | some field, _ => .ok (staged.apply (.set field value))
    | none, some t =>
      match t.taken [] with
      | ⟨_, some missing⟩ => .error (.noMember value.kind missing)
      | ⟨writes, none⟩ => .ok (staged.assign writes)
    | none, none => .error (o.refusal name value)
  | _ => .error (o.refusal name value)

/-- Why a field of the object cannot be deleted. -/
def deletionFault (o : PoolObject) (field : String) : PoolFault :=
  match o with
  | builder _ => .noMember o.kindName field
  | _ => .deletion field

theorem give_spec (s : RecordSpec) :
    (spec s).give .spec = ⟨(StagingStep.fromSpec s).writes, none⟩ := Takeover.taken_spec s

theorem give_record (r : PoolRecord) :
    (record r).give .record = ⟨(StagingStep.fromRecord r).writes, none⟩ := Takeover.taken_record r

theorem give_update (u : RecordUpdate) :
    (update u).give .update = ⟨(StagingStep.fromUpdate u).writes, none⟩ := Takeover.taken_update u

theorem accept_builder (staged : UpdateFields) (field : UpdateField) (value : Scalar) :
    (builder staged).accept field.name value = .ok (staged.apply (.set field value)) := by
  simp [accept, UpdateField.ofName?_name]

end PoolObject

end CloudClient
