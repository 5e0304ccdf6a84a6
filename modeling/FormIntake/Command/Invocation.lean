import FormIntake.Command.Options
import FormIntake.Loading.Files
import FormIntake.Template.Format

/-! # Invocations

The program checks the definition of a form, or renders a template for a form with some values.
Arguments that ask for neither, nor for help or the version, are misused.
-/

namespace FormIntake.Command

open Loading Template

inductive Work where
  | check (form : Path)
  | render (form : Path) (template values : String) (format : Format)
  deriving DecidableEq, Repr

structure Invocation where
  settings : Option Path := none
  verbose : Bool := false
  jsonLogs : Bool := false
  work : Work
  deriving DecidableEq, Repr

/-- What arguments ask for. -/
inductive Asked where
  | misuse
  | help
  | version
  | run (invocation : Invocation)
  deriving DecidableEq, Repr

/-- The options before the name of a command. -/
inductive Global where
  | help
  | version
  | settings
  | verbose
  | jsonLogs
  deriving DecidableEq, Repr

def Global.known : List (Known Global) :=
  [⟨.help, "--help", none, false⟩, ⟨.version, "--version", some 'V', false⟩,
    ⟨.settings, "--settings", some 's', true⟩, ⟨.verbose, "--verbose", some 'v', false⟩,
    ⟨.jsonLogs, "--json-logs", none, false⟩]

/-- The options after the name of a command. -/
inductive Local where
  | help
  | values
  | format
  deriving DecidableEq, Repr

def Local.forCheck : List (Known Local) := [⟨.help, "--help", none, false⟩]

def Local.forRender : List (Known Local) :=
  Local.forCheck ++ [⟨.values, "--values", none, true⟩, ⟨.format, "--format", some 'f', true⟩]

/-- What a command with its arguments asks for. -/
def askCommand (make : Work → Invocation) (name : String) (args : List String) : Asked :=
  let known? :=
    match name with
    | "check" => some Local.forCheck
    | "render" => some Local.forRender
    | _ => none
  match known?.bind fun known => readArguments known true args with
  | none => .misuse
  | some given =>
    if given.has .help then .help
    else
      match name, given.others with
      | "check", [form] => .run (make (.check (.ofText form)))
      | "render", [form, template] =>
        match Format.ofName? ((given.value? .format).getD "text") with
        | some format =>
          .run (make (.render (.ofText form) template ((given.value? .values).getD "\x7b\x7d") format))
        | none => .misuse
      | _, _ => .misuse

/-- What the arguments of the program ask for; of help and the version the first one counts. -/
def ask (args : List String) : Asked :=
  match args, readArguments Global.known false args with
  | [], _ | _, none => .misuse
  | _, some given =>
    match given.options.find? fun o => o.1 = .help || o.1 = .version with
    | some (.help, _) => .help
    | some _ => .version
    | none =>
      match given.others with
      | [] => .misuse
      | name :: args =>
        let make (work : Work) : Invocation :=
          { settings := (given.value? .settings).map Path.ofText
            verbose := given.has .verbose
            jsonLogs := given.has .jsonLogs
            work }
        askCommand make name args

end FormIntake.Command
