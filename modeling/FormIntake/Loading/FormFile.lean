import FormIntake.Loading.Host
import FormIntake.Installation.Environment
import FormIntake.Definition.Form
import FormIntake.Yaml.Document

/-! # Form definitions from a file

A file defines a form when it holds a mapping with texts as its keys.  References to variables are
resolved before the definition is checked.  A document or a value that is nested too deeply overflows
the stack of the host.
-/

namespace FormIntake.Loading

open Installation Definition

/-- The text of a file that has to be there. -/
def readFile (files : Files) (what : String) (path : Path) : Except Failure String :=
  match files.find path with
  | .text content => .ok content
  | .nothing => .error (.missingFile what path.shown)
  | .folder => .error .unreadableFile
  | .undecodable => .error .undecodableFile

def isText : Scalar → Bool
  | .text _ => true
  | _ => false

/-- The form that a file defines. -/
def loadForm (host : Host) (files : Files) (env : Environment) (path : Path) :
    Except Failure FormDefinition := do
  let content ← readFile files "Form definition" path
  host.guard (.document content)
  let document ← Yaml.readDocument .one content
  match document.value with
  | .mapping entries =>
    let value ← document.finite
    host.guard (.value value)
    if !entries.all fun e => isText e.1 then throw .nonTextKey
    Failure.ofChecked (FormDefinition.reader (expand env value))
  | other => throw (.notAMapping other.kindName path.shown)

end FormIntake.Loading
