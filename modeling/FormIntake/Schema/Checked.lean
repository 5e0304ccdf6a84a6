import FormIntake.Value.Shown

/-! # Checked values

Reading a value as something of the domain ends in a `Checked` result: the thing itself, or every
issue that was found, each with its place.  Results are put together so that no issue is lost.
-/

namespace FormIntake.Schema

open Number

/-- What is wrong with a value. -/
inductive Fault where
  | missing
  | notText
  | notBool
  | unreadableBool
  | notInt
  | unreadableInt
  | fractionalInt
  | infiniteInt
  | oversizedInt
  | notPositive
  | negative
  | notList
  | notMapping
  | notRecord (model : String)
  | notOneOf (names : List String)
  | noTag (key : String)
  | unknownTag (key tag : String) (names : List String)
  | notTagged
  | refused (reason : String)
  deriving DecidableEq, Repr

/-- Names between single quotes with commas between them. -/
def quotedNames (names : List String) : String :=
  ", ".intercalate (names.map fun n => "'" ++ n ++ "'")

/-- Names as alternatives: the last two stand with an "or" between them. -/
def alternatives : List String → String
  | [] => ""
  | [n] => "'" ++ n ++ "'"
  | [m, n] => "'" ++ m ++ "' or '" ++ n ++ "'"
  | n :: rest => "'" ++ n ++ "', " ++ alternatives rest

def Fault.message : Fault → String
  | .missing => "Field required"
  | .notText => "Input should be a valid string"
  | .notBool => "Input should be a valid boolean"
  | .unreadableBool => "Input should be a valid boolean, unable to interpret input"
  | .notInt => "Input should be a valid integer"
  | .unreadableInt => "Input should be a valid integer, unable to parse string as an integer"
  | .fractionalInt => "Input should be a valid integer, got a number with a fractional part"
  | .infiniteInt => "Input should be a finite number"
  | .oversizedInt => "Unable to parse input string as an integer, exceeded maximum size"
  | .notPositive => "Input should be greater than 0"
  | .negative => "Input should be greater than or equal to 0"
  | .notList => "Input should be a valid tuple"
  | .notMapping => "Input should be a valid dictionary"
  | .notRecord model => "Input should be a valid dictionary or instance of " ++ model
  | .notOneOf names => "Input should be " ++ alternatives names
  | .noTag key => "Unable to extract tag using discriminator '" ++ key ++ "'"
  | .unknownTag key tag names =>
    "Input tag '" ++ tag ++ "' found using '" ++ key ++
      "' does not match any of the expected tags: " ++ quotedNames names
  | .notTagged => "Input should be a valid dictionary or object to extract fields from"
  | .refused reason => "Value error, " ++ reason

/-- A fault and the place of the value that has it. -/
structure Issue where
  place : List String
  fault : Fault
  deriving DecidableEq, Repr

/-- The issue on one line: its place, if it has one, and its message. -/
def Issue.line (issue : Issue) : String :=
  match ".".intercalate issue.place with
  | "" => issue.fault.message
  | place => place ++ ": " ++ issue.fault.message

inductive Checked (α : Type) where
  | valid (value : α)
  | invalid (issues : List Issue)
  deriving Repr

namespace Checked

variable {α β : Type}

def issues : Checked α → List Issue
  | .valid _ => []
  | .invalid issues => issues

/-- A result with one issue, at the value itself. -/
def fail (fault : Fault) : Checked α := .invalid [⟨[], fault⟩]

def map (f : α → β) : Checked α → Checked β
  | .valid value => .valid (f value)
  | .invalid issues => .invalid issues

/-- Both results, with the issues of both. -/
def seq : Checked (α → β) → Checked α → Checked β
  | .valid f, .valid value => .valid (f value)
  | .valid _, .invalid issues => .invalid issues
  | .invalid issues, rest => .invalid (issues ++ rest.issues)

instance : Applicative Checked where
  pure := .valid
  map := map
  seq f x := seq f (x ())

/-- Whether the value, if there is one, has a property. -/
def Holds (P : α → Prop) (x : Checked α) : Prop := ∀ a, x = .valid a → P a

/-- The result seen from the surroundings of the value: its issues lie under a key. -/
def within (key : String) : Checked α → Checked α
  | .valid value => .valid value
  | .invalid issues => .invalid (issues.map fun issue => { issue with place := key :: issue.place })

/-- A valid result that also passes a further test. -/
def ensure (test : α → Option Fault) : Checked α → Checked α
  | .valid value =>
    match test value with
    | none => .valid value
    | some fault => fail fault
  | .invalid issues => .invalid issues

/-- The results of a list, with all issues. -/
def all : List (Checked α) → Checked (List α)
  | [] => .valid []
  | x :: rest => seq (map List.cons x) (all rest)

end Checked
end FormIntake.Schema
