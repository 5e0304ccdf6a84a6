import Std.Time.DateTime.Timestamp
import FormIntake.Command.Run

/-! # The program

Reads the files that the arguments ask for and the environment, and writes what the run comes to.
-/

namespace FormIntake.Command

open Loading

/-- What is found under a path of the machine. -/
def lookAt (path : Path) : IO Found := do
  try
    let bytes ← IO.FS.readBinFile path.shown
    return match String.fromUTF8? bytes with
      | some text => .text text
      | none => .undecodable
  catch
    | .noFileOrDirectory .. => return .nothing
    | _ => return .folder

/-- The variables of the environment. -/
def readEnvironment : IO Installation.Environment := do
  try
    let bytes ← IO.FS.readBinFile "/proc/self/environ"
    let text := (String.fromUTF8? bytes).getD ""
    return (Text.splitOn '\x00' text.toList).filterMap fun chars =>
      match Text.splitFirst '=' chars with
      | (name, some value) => some (String.ofList name, String.ofList value)
      | _ => none
  catch _ => return []

/-- The text of a file of the machine, of which there is none if it cannot be read. -/
def readText (path : String) : IO String := do
  try IO.FS.readFile path
  catch _ => return ""

/-- The parts of the lines of a text. -/
def rows (separator : Char) (text : String) : List (List String) :=
  (Text.splitOn '\n' text.toList).map fun line => (Text.splitOn separator line).map String.ofList

/-- The machine, with the homes that its list of users gives. -/
def readHost : IO Host := do
  let users := rows ':' (← readText "/etc/passwd")
  let status := rows '\t' (← readText "/proc/self/status")
  let number := (status.find? fun row => row.head? = some "Uid:").bind fun row => row[1]?
  let isUser (name : Option String) (row : List String) : Bool :=
    match name with
    | some name => row.head? = some name
    | none => row[2]? = number
  return { homeOf := fun name => (users.find? (isUser name)).bind fun row => row[5]? }

/-- The time of the machine's clock. -/
def readClock : IO Calendar.DateTime := do
  let now ← Std.Time.Timestamp.now
  let micros := now.toNanosecondsSinceUnixEpoch.toInt / 1000
  return .utc (Calendar.epoch + micros.toNat)

def surroundings (args : List String) : IO Surroundings := do
  let host ← readHost
  let environment ← readEnvironment
  let found ← (wanted host environment args).mapM fun path => return (path, ← lookAt path)
  let draw ← IO.rand 0 (Nat.pow 2 53 - 1)
  return { host, environment
           files := .ofFound found
           now := ← readClock
           draw := .ofRatio false draw (Nat.pow 2 53) }

/-- What is said of arguments that ask for nothing the program does. -/
def usage : List String :=
  ["Usage: formflow [-s PATH] [-v] [--json-logs] check FORM",
    "       formflow [-s PATH] [-v] [--json-logs] render FORM TEMPLATE [--values JSON] [-f FORMAT]",
    "       formflow --version"]

/-- Write an outcome and give the number to exit with. -/
def Outcome.report : Outcome → IO UInt32
  | .misuse => do
    IO.eprint (written usage)
    return 2
  | .help => do
    IO.print (written usage)
    return 0
  | .ended code output errors => do
    IO.print (written output)
    IO.eprint (written errors)
    return code.toUInt32
  | .failed cause => do
    IO.eprint (written [cause.kindName ++ ": " ++ cause.message])
    return 1

end FormIntake.Command

open FormIntake.Command in
def main (args : List String) : IO UInt32 := do
  (run (← surroundings args) args).report
