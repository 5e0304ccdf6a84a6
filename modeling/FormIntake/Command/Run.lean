import FormIntake.Command.Invocation
import FormIntake.Command.Outline
import FormIntake.Loading.FormFile
import FormIntake.Loading.SettingsFile
import FormIntake.Form.Standard
import FormIntake.Form.Build
import FormIntake.Form.Visibility
import FormIntake.Rendering.Full
import FormIntake.Json.Reader
import FormIntake.Version

/-! # Running the program

What an invocation writes and the number it exits with: zero when it has done its work, one after a
fault that is told in words, two after a misuse.  A failure that has no words here ends the run as it
is.
-/

namespace FormIntake.Command

open Installation Loading

inductive Outcome where
  | misuse
  | help
  /-- The lines of output and of errors. -/
  | ended (code : Nat) (output errors : List String)
  | failed (cause : Failure)

/-- What the program runs with: its host, the files and variables that it can read, and what a renderer
needs beside the settings. -/
structure Surroundings where
  host : Host := {}
  files : Files
  environment : Environment := []
  now : Calendar.DateTime := Calendar.startOf2024
  draw : Number.Binary64 := .ofRatio false 1 2

/-- A fault in words, with details. -/
def tell (title message : String) (details : List String) : Outcome :=
  .ended 1 [] ((title ++ ": " ++ message) :: details.map ("  - " ++ ·))

/-- Whether a failure is one of the form's own, which its message explains. -/
def isFormError (f : Failure) : Bool :=
  ["FormConfigurationError", "UnknownValidatorError", "HookError", "ValueError",
    "UnicodeDecodeError"].contains f.kindName

/-- How a failure to load settings is told. -/
def settingsFault (path : Path) : Failure → Outcome
  | .missingFile .. => tell "File Not Found" ("Settings file does not exist: " ++ path.shown) []
  | .invalid issues =>
    tell "Configuration Validation Failed" ("Invalid settings in " ++ path.name)
      (issues.map Schema.Issue.line)
  | f => .failed f

/-- How a failure to load or build a form is told. -/
def formFault (path : Path) : Failure → Outcome
  | .unreadableDocument _ => tell "YAML Syntax Error" ("Failed to parse " ++ path.name) []
  | .missingFile .. => tell "File Not Found" ("Form definition does not exist: " ++ path.shown) []
  | .invalid issues =>
    tell "Form Validation Failed" ("Invalid form definition in " ++ path.name)
      (issues.map Schema.Issue.line)
  | f => if isFormError f then tell "Form Error" f.message [] else .failed f

/-- The result of some loading, a failure of it told. -/
def orTell {α : Type} (told : Failure → Outcome) (loaded : Except Failure α) : Except Outcome α :=
  loaded.mapError told

/-- The form that a file defines, built. -/
def readForm (s : Surroundings) (path : Path) : Except Failure Form := do
  let path ← path.fromHome s.host s.environment
  let definition ← loadForm s.host s.files s.environment path
  s.host.guard (.definition definition)
  Form.build s.host.registry definition

/-- The form that a file defines, built; a failure is told with the path as it was given. -/
def openForm (s : Surroundings) (path : Path) : Except Outcome Form :=
  orTell (formFault path) (readForm s path)

/-- The settings of a file, or those of an installation without one. -/
def openSettings (s : Surroundings) : Option Path → Except Outcome Settings
  | none => .ok {}
  | some path => orTell (settingsFault path) do
    loadSettings s.host s.files s.environment (← path.fromHome s.host s.environment)

/-- Values written as a JSON object. -/
def readValues (text : String) : Except Outcome (List (String × Value)) :=
  match Json.parse text with
  | .error fault => .error (tell "Invalid Values" ("--values is not valid JSON: " ++ fault.message) [])
  | .ok (.mapping entries) => .ok (entries.map fun e => (e.1.shown, e.2))
  | .ok _ => .error (tell "Invalid Values" "--values must be a JSON object" [])

/-- The outline of a form, told with its id, which may be too long for that. -/
def check (s : Surroundings) (path : Path) : Except Outcome Outcome := do
  let form ← openForm s path
  if !Number.isWritable form.id then return .failed .unwritableNumber
  return .ended 0 (outline form) []

def render (s : Surroundings) (settings : Option Path) (path : Path) (template values : String)
    (format : Template.Format) : Except Outcome Outcome := do
  let settings ← openSettings s settings
  let form ← openForm s path
  let values ← readValues values
  let form := (form.bind { values }).refreshVisibility
  let renderer : Renderer := { settings, now := s.now, draw := s.draw }
  match ((renderer.render template format {}).perform { form }).1 with
  | .ok text => return .ended 0 [text] []
  | .error f => return .failed f

/-- What an invocation comes to. -/
def Invocation.perform (s : Surroundings) (i : Invocation) : Outcome :=
  let done :=
    match i.work with
    | .check form => check s form
    | .render form template values format => render s i.settings form template values format
  match done with
  | .ok outcome => outcome
  | .error outcome => outcome

/-- What the program does with its arguments. -/
def run (s : Surroundings) (args : List String) : Outcome :=
  match ask args with
  | .misuse => .misuse
  | .help => .help
  | .version => .ended 0 ["formflow version " ++ version] []
  | .run invocation => invocation.perform s

/-- The files that arguments make the program look for. -/
def wanted (host : Host) (env : Environment) (args : List String) : List Path :=
  match ask args with
  | .run i =>
    let form := match i.work with
      | .check form => form
      | .render form .. => form
    let found (path : Path) : List Path := (path.fromHome host env).toOption.toList
    found form ++ (i.settings.toList.flatMap found).flatMap fun path => [path, localPath path]
  | _ => []

/-- Lines as they are written. -/
def written (lines : List String) : String := String.join (lines.map (· ++ "\n"))

end FormIntake.Command
