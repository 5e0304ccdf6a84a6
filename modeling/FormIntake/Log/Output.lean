import FormIntake.Log.Conversion
import FormIntake.Log.Threshold
import FormIntake.Failure

/-! # What is written of a log

Loggers are called with fields or with arguments for the message.  A call becomes a record when the
threshold of its logger is reached and its message can be filled in.
-/

namespace FormIntake.Log

open Installation (LogLevel)

inductive Call where
  /-- An event with the fields that the logger carries and its own. -/
  | withFields (carried : List (String × Value)) (record : Record)
  /-- A message with arguments. -/
  | withArguments (level : LogLevel) (text : String) (arguments : List Value)

namespace Call

def level : Call → LogLevel
  | .withFields _ r => r.level
  | .withArguments level .. => level

/-- The record of a call, if its message can be filled in; own fields replace carried ones. -/
def record? : Call → Option Record
  | .withFields carried r => some { r with fields := Assoc.ofList (carried ++ r.fields) }
  | .withArguments level text arguments =>
    (message? text arguments).map fun event => ⟨level, event, []⟩

/-- A field of the call whose name is taken. -/
def takenName? : Call → Option String
  | .withFields carried r =>
    if carried.any (·.1 = "self") then some "self"
    else (r.fields.find? fun f => Record.takenNames.contains f.1).map Prod.fst
  | .withArguments .. => none

end Call

/-- The records that are written for calls of loggers, in order. -/
def written (threshold : Nat) : List (String × Call) → Except Failure (List Record)
  | [] => .ok []
  | (logger, call) :: rest =>
    match call.takenName? with
    | some name => .error (.repeatedArgument name)
    | none => do
      let others ← written threshold rest
      if admits threshold logger call.level then return call.record?.toList ++ others
      else return others

/-- The general threshold that a name stands for. -/
def threshold (name : String) : Except Failure Nat :=
  match weight? name with
  | some n => .ok n
  | none => .error (.noMember "logging" (String.ofList (Text.upper name.toList)))

end FormIntake.Log
