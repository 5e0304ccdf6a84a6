import FormIntake.Installation.Settings
import FormIntake.Value.Shown
import FormIntake.Text.Split

/-! # Log records

A record says how important it is, what has happened, and with what.  It is written with the time as
a mapping (`Record.toValue`) or as a line in which the fields follow the event (`Record.line`).
-/

namespace FormIntake.Log

open Installation (LogLevel)
open Text

/-- The name of a level in a record. -/
def levelLabel : LogLevel → String
  | .debug => "debug"
  | .info => "info"
  | .warning => "warning"
  | .error => "error"
  | .critical => "critical"

structure Record where
  level : LogLevel
  event : String
  fields : List (String × Value) := []

namespace Record

/-- The names that a field cannot have in a call. -/
def takenNames : List String := ["self", "event", "method_name"]

/-- The record as a mapping; a field of the same name as another part of the record gives way. -/
def toValue (time : String) (r : Record) : Value :=
  .record (Assoc.put "timestamp" (.text time) (Assoc.put "level" (.text (levelLabel r.level))
    (Assoc.put "event" (.text r.event) (Assoc.ofList r.fields))))

/-- The characters for which a text in a line is put between quotes. -/
def quotedFor : List Char := [' ', '\t', '=', '\r', '\n', '"', '\'']

/-- A field's value in a line. -/
def lineValue : Value → List Char
  | .text s => if s.toList.any quotedFor.contains then quoted s.toList else s.toList
  | v => v.literal

def padRight (width : Nat) (text : List Char) : List Char :=
  text ++ List.replicate (width - text.length) ' '

/-- The name of the logger, which a field may tell, in a line. -/
def lineLogger (fields : List (String × Value)) : List (List Char) :=
  ["logger", "logger_name"].filterMap fun name =>
    (fields.lookup name).map fun v => '[' :: v.shown.toList ++ [']']

/-- The fields that stand in a line with their names, in the order of the names. -/
def lineFields (fields : List (String × Value)) : List (List Char) :=
  let own := ["timestamp", "level", "event", "logger", "logger_name"]
  let named := (Assoc.ofList fields).filter fun f => !own.contains f.1
  (named.mergeSort fun a b => a.1 ≤ b.1).map fun (name, v) => name.toList ++ '=' :: lineValue v

/-- The record as a line, without blanks at its end. -/
def line (time : String) (r : Record) : String :=
  let level := '[' :: padRight 9 (levelLabel r.level).toList ++ [']']
  let parts := [time.toList, level, padRight 30 r.event.toList] ++ lineLogger r.fields ++
    lineFields r.fields
  String.ofList (dropEndWhile (· = ' ') (join [' '] (parts.filter fun part => !part.isEmpty)))

end Record
end FormIntake.Log
