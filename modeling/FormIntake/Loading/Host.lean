import FormIntake.Definition.Form
import FormIntake.Installation.Environment
import FormIntake.Loading.Files
import FormIntake.Form.Standard

/-! # Hosts

What the machine decides that the program runs on: over what a recursion gets too deep for the
stack, what the names of characters are, and where the homes of its users are.  A path that starts with a tilde starts from the home of
the user who is named after it, or of the one who runs the program; of the latter the variable `HOME`
counts first.
-/

namespace FormIntake.Loading

open Definition

/-- What the program goes over with a recursion. -/
inductive Recursion where
  /-- Reading the text of a document. -/
  | document (content : String)
  /-- Resolving references in a value, and checking what it defines. -/
  | value (value : Value)
  /-- Building a form, and listing its elements. -/
  | definition (definition : FormDefinition)
  /-- Reading a pattern. -/
  | pattern (source : List Char)

structure Host where
  overflows : Recursion → Bool := fun _ => false
  /-- The character of a name. -/
  characterOf : String → Option Char := fun _ => none
  /-- The home of a user by name, and under no name that of the user who runs the program. -/
  homeOf : Option String → Option String := fun _ => none

/-- The end of a run over which the stack overflows. -/
def Host.guard (host : Host) (recursion : Recursion) : Except Failure Unit :=
  if host.overflows recursion then .error .stackOverflow else .ok ()

/-- What the machine has for the reading of patterns. -/
def Host.support (host : Host) : Pattern.Support where
  overflows source := host.overflows (.pattern source)
  named := host.characterOf

/-- The validators that every registry starts with. -/
def Host.registry (host : Host) : Registry := .standardOn host.support

/-- The home that a tilde and the name after it stand for; one that starts with a tilde itself is
none. -/
def Host.home? (host : Host) (env : Installation.Environment) (name : List Char) : Option String :=
  let home? :=
    if name.isEmpty then env.lookup "HOME" <|> host.homeOf none
    else host.homeOf (some (String.ofList name))
  home?.filter fun home => home.toList.head? ≠ some '~'

namespace Path

/-- The name after the tilde that a path starts with, and the parts behind it. -/
def tilde? (path : Path) : Option (List Char × List String) :=
  match path.isAbsolute, path.parts with
  | false, first :: rest =>
    match first.toList with
    | '~' :: name => some (name, rest)
    | _ => none
  | _, _ => none

/-- The path of a home, slashes at its end left out. -/
def ofHome (home : String) : Path :=
  let folder := (home.toList.reverse.dropWhile (· = '/')).reverse
  .ofText (if folder.isEmpty then "/" else String.ofList folder)

/-- The path from the home that it starts with, if it starts with a tilde. -/
def fromHome (host : Host) (env : Installation.Environment) (path : Path) : Except Failure Path :=
  match path.tilde? with
  | none => .ok path
  | some (name, rest) =>
    match host.home? env name with
    | none => .error .unknownHome
    | some home => .ok { ofHome home with parts := (ofHome home).parts ++ rest }

end Path
end FormIntake.Loading
