import FormIntake.Value.Basic
import FormIntake.Value.Shown
import FormIntake.Text.Case
import FormIntake.Text.Split
import FormIntake.Toml.Reader
import FormIntake.Installation.Environment

/-! # Settings from several places

Settings are laid over one another: later ones replace earlier ones, mappings are merged and lists
are joined.  The case of a key does not count.  A key may be a path, its parts between dots or
double underscores, so that a variable of the environment reaches inside.
-/

namespace FormIntake.Installation

open Text

/-- Whether two keys differ in nothing but case. -/
def sameKey (a b : Scalar) : Bool := lower a.shownChars == lower b.shownChars

/-- The value under a key in any case. -/
def findKey (key : Scalar) (entries : List (Scalar × Value)) : Option (Scalar × Value) :=
  entries.find? fun e => sameKey e.1 key

mutual

/-- The later value laid over the earlier one. -/
def overlay (earlier : Value) : Value → Value
  | .mapping later =>
    match earlier with
    | .mapping entries => .mapping (overlayEntries entries later)
    | _ => .mapping later
  | .list later =>
    match earlier with
    | .list items => .list (items ++ later)
    | _ => .list later
  | later => later

def overlayEntries (earlier : List (Scalar × Value)) : List (Scalar × Value) → List (Scalar × Value)
  | [] => earlier
  | (key, value) :: rest =>
    let entries :=
      match findKey key earlier with
      | some (known, old) => Assoc.put known (overlay old value) earlier
      | none => earlier ++ [(key, value)]
    overlayEntries entries rest

end

/-- The parts of a key. -/
def keyParts (key : List Char) : List (List Char) := splitOn '.' (withDots key)
where
  withDots : List Char → List Char
    | '_' :: '_' :: rest => '.' :: withDots rest
    | c :: rest => c :: withDots rest
    | [] => []

/-- A value inside mappings, one for each part of its key. -/
def nest (value : Value) : List (List Char) → Value
  | [] => value
  | part :: rest => .mapping [(.text (String.ofList part), nest value rest)]

/-- Settings with a value put under a key. -/
def setKey (settings : Value) (key : List Char) (value : Value) : Value :=
  overlay settings (nest value (keyParts key))

/-- The key with its first part in upper case, by which repeated keys are told. -/
def plainKey (key : Scalar) : List Char :=
  match keyParts key.shownChars with
  | [] => []
  | first :: rest => join ['.'] (upper first :: rest)

/-- Settings with entries put in one after another, the last of a repeated key counting. -/
def setAll (settings : Value) (entries : List (Scalar × Value)) : Value :=
  (Assoc.ofList (entries.map fun e => (plainKey e.1, (e.1.shownChars, e.2)))).foldl
    (fun acc e => setKey acc e.2.1 e.2.2) settings

mutual

/-- A value with all keys in lower case. -/
def lowerKeys : Value → Value
  | .mapping entries => .mapping (Assoc.ofList (lowerEntries entries))
  | .list items => .list (lowerItems items)
  | .scalar s => .scalar s

def lowerItems : List Value → List Value
  | [] => []
  | v :: rest => lowerKeys v :: lowerItems rest

def lowerEntries : List (Scalar × Value) → List (Scalar × Value)
  | [] => []
  | (key, v) :: rest => (.text (String.ofList (lower key.shownChars)), lowerKeys v) :: lowerEntries rest

end

/-! ### The environment -/

/-- How the variables that hold settings start. -/
def variableStart : List Char := "FORMFLOW_".toList

/-- The value of a variable: one of TOML, a truth value with a capital, or the text as it is. -/
def variableValue (text : String) : Value :=
  let spelled :=
    match String.ofList (trim text.toList) with
    | "True" => "true"
    | "False" => "false"
    | _ => text
  (Toml.read? spelled).getD (.text text)

/-- The settings that variables hold. -/
def variableSettings (env : Environment) : List (Scalar × Value) :=
  env.filterMap fun (name, text) =>
    let chars := name.toList
    if variableStart.isPrefixOf chars then
      some (.text (String.ofList (chars.drop variableStart.length)), variableValue text)
    else none

end FormIntake.Installation
