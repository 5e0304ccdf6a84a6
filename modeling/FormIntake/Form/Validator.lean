import FormIntake.Form.FieldValue
import FormIntake.Failure

/-! # Validators

A validator looks at a value that is not empty and accepts it or gives the message for the
submitter, or it fails over the value.  Definitions name validators and give them options; a
`Registry` says what the names stand for.
-/

namespace FormIntake

open Definition

/-- Nothing for a value that is accepted, or the message for the submitter. -/
abbrev Validator := FieldValue → Except Failure (Option String)

/-- What validators say of a value one after the other, up to the first that gives a message or
fails. -/
def Validator.firstMessage : List Validator → FieldValue → Except Failure (Option String)
  | [], _ => .ok none
  | validator :: rest, value =>
    match validator value with
    | .ok none => firstMessage rest value
    | said => said

/-- The options that a definition gives to a validator. -/
abbrev Options := List (String × Value)

/-- How a validator is made of its options and its own message, if it is given one. -/
abbrev Factory := Options → Option String → Except Failure Validator

/-- The kinds of validator by name. -/
abbrev Registry := List (String × Factory)

namespace Registry

/-- The names in alphabetical order. -/
def names (registry : Registry) : List String :=
  (registry.map Prod.fst).mergeSort fun a b => a ≤ b

/-- The registry with one more kind of validator, or another one under its name. -/
def register (registry : Registry) (name : String) (factory : Factory) : Registry :=
  Assoc.put name factory registry

/-- The validator that a definition asks for. -/
def build (registry : Registry) (check : Check) : Except Failure Validator :=
  match registry.lookup check.type with
  | some factory => factory check.options check.message
  | none => .error (.unknownValidator check.type registry.names)

end Registry

/-- The message for a value that is not accepted: an own one that is not empty, or the usual
one. -/
def messageOr (own : Option String) (usual : String) : String :=
  match own with
  | some m => if m = "" then usual else m
  | none => usual

/-- The message for a value beyond a limit: an own one that is not empty, or the usual one with the
limit written out, for which the limit may be too long. -/
def limitMessage (own : Option String) (bound : String) (limit : Int) : Except Failure String :=
  if messageOr own "" = "" && !Number.isWritable limit then .error .unwritableNumber
  else .ok (messageOr own
    ("Value must be " ++ bound ++ " " ++ Failure.numberText limit ++ " characters"))

/-- A validator that gives one message for all values that fail a test. -/
def Validator.ofTest (message : String) (test : FieldValue → Bool) : Validator := fun value =>
  .ok (if test value then none else some message)

end FormIntake
