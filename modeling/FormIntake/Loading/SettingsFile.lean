import FormIntake.Loading.Host
import FormIntake.Installation.Overlay
import FormIntake.Installation.Settings
import FormIntake.Yaml.Document

/-! # Settings from a file

The settings of an installation are those of a file with those of the environment laid over them.
Keys count in any case, references to variables are resolved last, and what is not set has its
default.
-/

namespace FormIntake.Loading

open Installation Text

/-- Whether a file may hold settings, told by the end of its name. -/
def holdsSettings (name : String) : Bool :=
  [".yaml", ".yml", ".json"].any fun ending => ending.toList.isSuffixOf name.toList

/-- The path of the file with what is set for this machine only. -/
def localPath (path : Path) : Path :=
  let parts := splitOn '.' path.name.toList
  let name := join ['.'] (parts.dropLast ++ ["local".toList] ++ parts.drop (parts.length - 1))
  ⟨path.isAbsolute, path.parts.dropLast ++ [String.ofList name]⟩

/-- Whether a file is one for this machine only. -/
def isLocal (path : Path) : Bool := occursIn ".local.".toList path.shown.toList

/-- Settings with those that a file holds. -/
def layFile (host : Host) (settings : Value) : Found → Except Failure Value
  | .text content => do
    host.guard (.document content)
    let value ← Yaml.read .two content
    if !value.isTruthy then return settings
    match value with
    | .mapping entries => return setAll settings entries
    | other => throw (.noMember other.kindName "items")
  | .undecodable => .error .undecodableFile
  | .folder | .nothing => .ok settings

/-- The settings in the file, the file for this machine and the environment, before they are
checked. -/
def rawSettings (host : Host) (files : Files) (env : Environment) (path : Path) :
    Except Failure Value := do
  let own ←
    if holdsSettings path.name then layFile host (.mapping []) (files.find path)
    else pure (.mapping [])
  let both ←
    if holdsSettings path.name && !isLocal path then layFile host own (files.find (localPath path))
    else pure own
  let value := lowerKeys (setAll both (variableSettings env))
  host.guard (.value value)
  return expand env value

/-- The settings of an installation. -/
def loadSettings (host : Host) (files : Files) (env : Environment) (path : Path) :
    Except Failure Settings := do
  if files.find path = .nothing then throw (.missingFile "Config file" path.shown)
  Failure.ofChecked (Settings.reader (← rawSettings host files env path))

end FormIntake.Loading
