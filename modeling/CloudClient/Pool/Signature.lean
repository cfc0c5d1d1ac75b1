import CloudClient.Datum

namespace CloudClient

/-!
# Operations and their arguments

What an operation on pool records is given, and how the given values find their places.

* `Signature` — the name of an operation, and the names of the values it wants;
* `Arguments` — the values for an operation, in order or by name;
* `Signature.bind` — a value for every name, or `CallFault`, the reason why there is none;
* `Signature.bind_named_zip` — values by name and values in order come to the same.
-/

/-- The name of an operation, and the names of the values it wants. -/
structure Signature where
  operation : String
  /-- The object that the operation belongs to counts as its first argument. -/
  onObject : Bool
  parameters : List String

/-- The values for an operation. -/
inductive Arguments where
  /-- In the order of the names. -/
  | positional (values : List Scalar)
  /-- Each under its name. -/
  | named (entries : List (String × Scalar))

/-- What keeps arguments from being those of an operation. -/
inductive CallFault where
  | surplus (takes given : Nat)
  | missing (names : List String)
  | unknown (name : String)
  /-- The object of the operation is given once more under its own name. -/
  | repeated (name : String)
deriving DecidableEq

namespace CallFault

/-- Names as a report lists them. -/
def listed : List String → String
  | [] => ""
  | [a] => Text.quote a
  | [a, b] => Text.quote a ++ " and " ++ Text.quote b
  | a :: b :: c :: rest =>
    ", ".intercalate ((a :: b :: (c :: rest).dropLast).map Text.quote) ++ ", and "
      ++ Text.quote ((c :: rest).getLast (by simp))

/-- A number of arguments of some sort. -/
def counted (n : Nat) (sort : String) : String :=
  toString n ++ " " ++ sort ++ if n = 1 then " argument" else " arguments"

/-- The report in words, for an operation with this name. -/
def message (operation : String) (fault : CallFault) : String :=
  operation ++ "() " ++
    match fault with
    | surplus takes given =>
      "takes " ++ counted takes "positional" ++ " but " ++ toString given
        ++ if given = 1 then " was given" else " were given"
    | missing names =>
      "missing " ++ counted names.length "required positional" ++ ": " ++ listed names
    | unknown name => "got an unexpected keyword argument '" ++ name ++ "'"
    | repeated name => "got multiple values for argument '" ++ name ++ "'"

end CallFault

/-- The values under some names, none if one of the names is not there. -/
def valuesUnder? (entries : List (String × Scalar)) : List String → Option (List Scalar)
  | [] => some []
  | name :: names => do
    let value ← entries.lookup name
    let values ← valuesUnder? entries names
    return value :: values

theorem valuesUnder?_length {entries : List (String × Scalar)} {names : List String}
    {values : List Scalar} (found : valuesUnder? entries names = some values) :
    values.length = names.length := by
  induction names generalizing values with
  | nil => simp_all [valuesUnder?]
  | cons name names ih =>
    simp only [valuesUnder?, Option.bind_eq_bind, Option.bind_eq_some_iff, Option.pure_def,
      Option.some.injEq] at found
    obtain ⟨value, _, rest, found, rfl⟩ := found
    simp [ih found]

theorem valuesUnder?_cons_of_not_mem {name : String} {names : List String} (value : Scalar)
    (entries : List (String × Scalar)) (fresh : name ∉ names) :
    valuesUnder? ((name, value) :: entries) names = valuesUnder? entries names := by
  induction names with
  | nil => rfl
  | cons other names ih =>
    simp only [List.mem_cons, not_or] at fresh
    have passed : (other == name) = false := by simpa using fun same => fresh.1 same.symm
    simp [valuesUnder?, List.lookup_cons, passed, ih fresh.2]

theorem valuesUnder?_zip {names : List String} {values : List Scalar} (distinct : names.Nodup)
    (fits : values.length = names.length) :
    valuesUnder? (names.zip values) names = some values := by
  induction names generalizing values with
  | nil => simp_all [valuesUnder?]
  | cons name names ih =>
    obtain _ | ⟨value, values⟩ := values
    · simp at fits
    · obtain ⟨fresh, distinct⟩ := List.nodup_cons.1 distinct
      simp only [List.length_cons, Nat.add_right_cancel_iff] at fits
      simp [valuesUnder?, valuesUnder?_cons_of_not_mem _ _ fresh, ih distinct fits]

namespace Signature

/-- The name under which the object of an operation is one of its arguments. -/
def objectName : String := "self"

/-- What is wrong with a value under a name. -/
def refusal? (g : Signature) (name : String) : Option CallFault :=
  if name ∈ g.parameters then none
  else if g.onObject ∧ name = objectName then some (.repeated name)
  else some (.unknown name)

/-- A value for every parameter.  A name that is none of them is reported first. -/
def bind (g : Signature) : Arguments → Except CallFault (Vector Scalar g.parameters.length)
  | .positional values =>
    if fits : values.length = g.parameters.length then .ok ⟨values.toArray, by simp [fits]⟩
    else if g.parameters.length < values.length then
      .error (.surplus (g.onObject.toNat + g.parameters.length) (g.onObject.toNat + values.length))
    else .error (.missing (g.parameters.drop values.length))
  | .named entries =>
    match entries.findSome? fun e => g.refusal? e.1 with
    | some fault => .error fault
    | none =>
      match found : valuesUnder? entries g.parameters with
      | some values => .ok ⟨values.toArray, by simp [valuesUnder?_length found]⟩
      | none => .error (.missing (g.parameters.filter fun name => (entries.lookup name).isNone))

/-- What keeps arguments from being those of the operation. -/
def fault? (g : Signature) (arguments : Arguments) : Option CallFault :=
  match g.bind arguments with
  | .ok _ => none
  | .error fault => some fault

theorem bind_positional (g : Signature) {values : List Scalar}
    (fits : values.length = g.parameters.length) :
    g.bind (.positional values) = .ok ⟨values.toArray, by simp [fits]⟩ := by
  simp [bind, fits]

/-- Values under the names and values in their order come to the same. -/
theorem bind_named_zip (g : Signature) {values : List Scalar} (distinct : g.parameters.Nodup)
    (fits : values.length = g.parameters.length) :
    g.bind (.named (g.parameters.zip values)) = g.bind (.positional values) := by
  have known : (g.parameters.zip values).findSome? (fun e => g.refusal? e.1) = none := by
    simp only [List.findSome?_eq_none_iff, refusal?]
    intro e he
    simp [(List.of_mem_zip he).1]
  rw [bind_positional g fits]
  unfold bind
  simp only [known]
  split
  · rename_i found
    simp only [valuesUnder?_zip distinct fits, Option.some.injEq] at found
    simp [found]
  · rename_i found
    simp [valuesUnder?_zip distinct fits] at found

end Signature

end CloudClient
