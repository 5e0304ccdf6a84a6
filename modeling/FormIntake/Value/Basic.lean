import FormIntake.Number.Binary64
import FormIntake.Assoc

/-! # Structured values

The data that forms are defined with and that submitters send: scalars, lists, and mappings that
keep the order of their entries.  A mapping holds each key once, as `Value.ofEntries` makes it.
-/

namespace FormIntake

open Number (Binary64)

/-- A value without parts.  A calendar date is kept as its text. -/
inductive Scalar where
  | null
  | bool (b : Bool)
  | int (n : Int)
  | float (x : Binary64)
  | text (s : String)
  | date (iso : String)
  deriving DecidableEq, Repr, Inhabited

inductive Value where
  | scalar (s : Scalar)
  | list (items : List Value)
  | mapping (entries : List (Scalar × Value))
  deriving Repr, Inhabited

namespace Value

@[match_pattern] abbrev null : Value := .scalar .null
@[match_pattern] abbrev bool (b : Bool) : Value := .scalar (.bool b)
@[match_pattern] abbrev int (n : Int) : Value := .scalar (.int n)
@[match_pattern] abbrev float (x : Binary64) : Value := .scalar (.float x)
@[match_pattern] abbrev text (s : String) : Value := .scalar (.text s)

/-- The mapping of a list of entries, later ones replacing earlier ones of the same key. -/
def ofEntries (entries : List (Scalar × Value)) : Value := .mapping (Assoc.ofList entries)

/-- A mapping with text keys. -/
def record (fields : List (String × Value)) : Value :=
  .mapping (fields.map fun (k, v) => (.text k, v))

/-- The value under a text key of a mapping. -/
def get? (key : String) : Value → Option Value
  | .mapping entries => entries.lookup (.text key)
  | _ => none

/-- Whether a condition on the value holds: empty and zero values do not. -/
def isTruthy : Value → Bool
  | .scalar .null => false
  | .scalar (.bool b) => b
  | .scalar (.int n) => n != 0
  | .scalar (.float x) => !x.same (.zero false)
  | .scalar (.text s) => !s.isEmpty
  | .scalar (.date _) => true
  | .list items => !items.isEmpty
  | .mapping entries => !entries.isEmpty

/-- The value as a text, if it is one. -/
def asText? : Value → Option String
  | .scalar (.text s) => some s
  | _ => none

/-- The value as a list, if it is one. -/
def asList? : Value → Option (List Value)
  | .list items => some items
  | _ => none

/-- The value as entries, if it is a mapping. -/
def asEntries? : Value → Option (List (Scalar × Value))
  | .mapping entries => some entries
  | _ => none

/-- The whole number that the value is equal to, truth values counting as zero and one. -/
def asWhole? : Value → Option Int
  | .scalar (.int n) => some n
  | .scalar (.bool b) => some (if b then 1 else 0)
  | .scalar (.float x) => x.whole?
  | _ => none

/-- The name of the value's kind. -/
def kindName : Value → String
  | .scalar .null => "NoneType"
  | .scalar (.bool _) => "bool"
  | .scalar (.int _) => "int"
  | .scalar (.float _) => "float"
  | .scalar (.text _) => "str"
  | .scalar (.date _) => "date"
  | .list _ => "list"
  | .mapping _ => "dict"

end Value

namespace Scalar

/-- Whether the value is a text, number or truth value, the kinds that are submitted. -/
def isPlain : Scalar → Bool
  | .null => false
  | .date _ => false
  | _ => true

/-- The scalar as a number, truth values counting as zero and one. -/
def asNumber? : Scalar → Option Binary64
  | .bool b => some (.ofInt (if b then 1 else 0))
  | .int n => some (.ofInt n)
  | .float x => some x
  | _ => none

end Scalar
end FormIntake
