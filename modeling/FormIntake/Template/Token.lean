import FormIntake.Assoc
import FormIntake.Text.Blank
import FormIntake.Text.Quoted

/-! # Template tokens

A token stands between braces in a template: a name and parameters, separated by bars.  A parameter
is a name with a value after a colon, or a name alone, a flag.  Names are trimmed, values are taken
as they are; a repeated parameter keeps its first place and takes its last value.
-/

namespace FormIntake.Template

open Text

/-- What a parameter of a token is given. -/
inductive Argument where
  | given (value : String)
  | flag
  deriving DecidableEq, Repr

structure Token where
  name : String
  params : List (String × Argument)
  raw : String
  deriving DecidableEq, Repr

namespace Token

/-- A parameter: the part before the first colon is its name. -/
def readParam (segment : List Char) : String × Argument :=
  match splitFirst ':' segment with
  | (name, none) => (String.ofList (trim name), .flag)
  | (name, some value) => (String.ofList (trim name), .given (String.ofList value))

/-- The token whose text between the braces is `body`. -/
def ofBody (body : List Char) (raw : String) : Token :=
  match splitOn '|' body with
  | [] => { name := "", params := [], raw }
  | name :: segments =>
    { name := String.ofList (trim name), params := Assoc.ofList (segments.map readParam), raw }

/-- The source of a token with the given text between its braces. -/
def braced (body : List Char) : List Char := '\x7b' :: body ++ ['\x7d']

/-- The value given to a parameter; a flag has none. -/
def param? (token : Token) (name : String) : Option String :=
  match token.params.lookup name with
  | some (.given value) => some value
  | _ => none

/-- Whether a parameter is given the value `true`. -/
def isOn (token : Token) (name : String) : Bool := token.param? name = some "true"

/-- The name of the first parameter. -/
def firstParam? (token : Token) : Option String := token.params.head?.map Prod.fst

/-- The name of the first parameter, or another name where there is none or it is empty. -/
def firstParamOr (token : Token) (default : String) : String :=
  match token.firstParam? with
  | none => default
  | some name => if name = "" then default else name

/-- The parameters as a mapping is shown. -/
def shownParams (params : List (String × Argument)) : List Char :=
  join [',', ' '] (params.map fun (name, argument) =>
    quoted name.toList ++ [':', ' '] ++
      match argument with
      | .given value => quoted value.toList
      | .flag => "True".toList)

/-- The token as a record is shown. -/
def shown (token : Token) : String :=
  String.ofList <|
    "TokenRef(name=".toList ++ quoted token.name.toList ++
    ", params=\x7b".toList ++ shownParams token.params ++
    "\x7d, raw=".toList ++ quoted token.raw.toList ++ [')']

end Token
end FormIntake.Template
