import CloudClient.History
import CloudClient.Pool.Object

namespace CloudClient

/-!
# Workspaces of pool records

Named slots that hold configurations, records, updates and staging areas, and the work done on them
step by step.

* `Workspace` — the slots;
* `PoolStep`, `PoolAnswer` — a step, and what it answers;
* `Workspace.step`, `Workspace.runAll` — one step, and a row of them.  A step that fails leaves the
  slots as they were, but for a staging area that is filled from another slot: it keeps what it got
  before the first value that was not there.
-/

/-- A step.  Slots are given by their names, and `target` is the slot for the result. -/
inductive PoolStep where
  /-- Make a configuration from its values. -/
  | spec (target : String) (values : Arguments)
  /-- Make a record from its values. -/
  | record (target : String) (values : Arguments)
  /-- Make an update from its values. -/
  | update (target : String) (values : Arguments)
  /-- Make an empty staging area. -/
  | builder (target : String)
  /-- Make an update from a staging area. -/
  | build (slot target : String)
  /-- Make a staging area that holds the values of an update. -/
  | toBuilder (slot target : String)
  /-- Make an update from a configuration and a new target of the record. -/
  | pointingTo (source : String) (pointsTo : Scalar) (target : String)
  /-- Hand a value to the operation with a name. -/
  | set (slot name : String) (value : Scalar)
  /-- Fill a staging area from another slot. -/
  | takeOver (t : Takeover) (slot source : String)
  /-- Compare two slots. -/
  | compare (a b : String)
  /-- Try to set a field. -/
  | assign (slot field : String)
  /-- Try to delete a field. -/
  | delete (slot field : String)
  /-- Show a slot. -/
  | present (slot : String)

/-- What a step answers. -/
inductive PoolAnswer where
  | object (o : PoolObject)
  /-- The staging area that was changed. -/
  | staged (u : UpdateFields)
  | equality (equal : Bool)

/-- Slots by their names. -/
structure Workspace where
  /-- What was put into the slots, the latest first. -/
  slots : List (String × PoolObject)

/-- The slots after a step, and its answer or what went wrong. -/
abbrev PoolResult := Workspace × Except PoolFault PoolAnswer

namespace Workspace

/-- No slot holds anything. -/
def empty : Workspace := ⟨[]⟩

/-- What a slot holds. -/
def object (w : Workspace) (slot : String) : Except PoolFault PoolObject :=
  match w.slots.lookup slot with
  | some o => .ok o
  | none => .error (.emptySlot slot)

/-- Fills a slot. -/
def put (w : Workspace) (slot : String) (o : PoolObject) : Workspace := ⟨(slot, o) :: w.slots⟩

/-- The values of the arguments, each in its place. -/
def valuesOf (g : Signature) (arguments : Arguments) :
    Except PoolFault (Vector Scalar g.parameters.length) :=
  (g.bind arguments).mapError (.call g.operation)

/-- The update with these values, or what is wrong with them. -/
def updateOf (values : UpdateFields) : Except PoolFault RecordUpdate :=
  (RecordUpdate.ofFields values).mapError .update

/-- Fills a slot and answers with what it holds now. -/
def store (w : Workspace) (slot : String) (o : PoolObject) : PoolResult :=
  (w.put slot o, .ok (.object o))

/-- Changes the staging area of a slot. -/
def stage (w : Workspace) (slot : String) (staged : UpdateFields) : PoolResult :=
  (w.put slot (.builder staged), .ok (.staged staged))

/-- Fills the staging area of a slot from an object.  It keeps what it gets even if it misses
    something in the end. -/
def fill (w : Workspace) (slot : String) (staged : UpdateFields) (t : Takeover) (o : PoolObject) :
    PoolResult :=
  let result := w.stage slot (staged.assign (o.give t).writes)
  match o.lack? t with
  | none => result
  | some fault => (result.1, .error fault)

theorem fill_spec (w : Workspace) (slot : String) (staged : UpdateFields) (s : RecordSpec) :
    w.fill slot staged .spec (.spec s) = w.stage slot (staged.apply (.fromSpec s)) := by
  simp [fill, PoolObject.lack?, PoolObject.give_spec, UpdateFields.apply]

theorem fill_record (w : Workspace) (slot : String) (staged : UpdateFields) (r : PoolRecord) :
    w.fill slot staged .record (.record r) = w.stage slot (staged.apply (.fromRecord r)) := by
  simp [fill, PoolObject.lack?, PoolObject.give_record, UpdateFields.apply]

theorem fill_update (w : Workspace) (slot : String) (staged : UpdateFields) (u : RecordUpdate) :
    w.fill slot staged .update (.update u) = w.stage slot (staged.apply (.fromUpdate u)) := by
  simp [fill, PoolObject.lack?, PoolObject.give_update, UpdateFields.apply]

/-- What becomes of a step, or the fault that keeps it from doing anything. -/
def perform (w : Workspace) : PoolStep → Except PoolFault PoolResult
  | .spec target values => do
    return w.store target (.spec (.ofValues (← valuesOf RecordSpec.signature values)))
  | .record target values => do
    return w.store target (.record (.ofValues (← valuesOf PoolRecord.signature values)))
  | .update target values => do
    let values ← valuesOf RecordUpdate.signature values
    return w.store target (.update (← updateOf (.ofValues values)))
  | .builder target => return w.store target (.builder .empty)
  | .build slot target => do
    let staged ← (← w.object slot).staging "build"
    return w.store target (.update (← updateOf staged))
  | .toBuilder slot target => do
    let update ← (← w.object slot).asUpdate "to_builder"
    return w.store target (.builder update.toBuilder)
  | .pointingTo source pointsTo target => do
    let spec ← (← w.object source).configuration
    let update ← (RecordUpdate.pointingTo spec pointsTo).mapError .update
    return w.store target (.update update)
  | .set slot name value => do
    return w.stage slot (← (← w.object slot).accept name value)
  | .takeOver t slot source => do
    let staged ← (← w.object slot).staging t.name
    return w.fill slot staged t (← w.object source)
  | .compare a b => do
    let x ← w.object a
    let y ← w.object b
    -- A staging area has no value to compare: it is equal to itself only.
    return (w, .ok (.equality (a = b || x.agrees y)))
  | .assign slot field => do
    let _ ← w.object slot
    throw (.assignment field)
  | .delete slot field => do
    throw ((← w.object slot).deletionFault field)
  | .present slot => do return (w, .ok (.object (← w.object slot)))

/-- One step. -/
def step (w : Workspace) (s : PoolStep) : PoolResult :=
  match w.perform s with
  | .ok result => result
  | .error fault => (w, .error fault)

/-- The steps one after the other. -/
def runAll (w : Workspace) (steps : List PoolStep) : List PoolResult :=
  history step w steps

end Workspace

end CloudClient
