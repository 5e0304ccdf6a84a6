import FormIntake.Value.Basic
import FormIntake.Text.Quoted
import FormIntake.Text.Split
import FormIntake.Number.Integer
import FormIntake.Number.Shortest

/-! # The text of a value

`Scalar.shown` is the text that a submitted scalar becomes in a field: texts as they are, numbers
in their shortest form, truth values as `True` and `False`.  `Value.literal` is the text of a value
inside a list, a mapping or a message, where texts stand between quotes.  Only values without numbers
that are too long (`Value.isWritable`) have a text.
-/

namespace FormIntake

open Number Text

namespace Scalar

/-- The text that the scalar becomes in a field. -/
def shownChars : Scalar → List Char
  | .null => "None".toList
  | .bool true => "True".toList
  | .bool false => "False".toList
  | .int n => wholeText n
  | .float x => x.text
  | .text s => s.toList
  | .date iso => iso.toList

def shown (s : Scalar) : String := String.ofList s.shownChars

@[simp] theorem shown_text (s : String) : (Scalar.text s).shown = s := by
  simp [shown, shownChars]

/-- Whether the scalar has a text. -/
def isWritable : Scalar → Bool
  | .int n => Number.isWritable n
  | _ => true

/-- A distance from universal time, in seconds, inside a list. -/
def zoneLiteral (seconds : Int) : List Char :=
  let days := seconds.fdiv 86400
  let rest := seconds - days * 86400
  let part (name : String) (n : Int) : List (List Char) :=
    if n = 0 then [] else [name.toList ++ '=' :: wholeText n]
  if seconds = 0 then "datetime.timezone.utc".toList
  else
    "datetime.timezone(datetime.timedelta(".toList ++
      join [',', ' '] (part "days" days ++ part "seconds" rest) ++ [')', ')']

/-- A calendar date, perhaps with a time, inside a list. -/
def dateLiteral (iso : List Char) : List Char :=
  let number (start count : Nat) : Nat :=
    ofDigits 10 (((iso.drop start).take count).map fun c => c.toNat - 48)
  let day := [number 0 4, number 5 2, number 8 2]
  if iso.length ≤ 10 then
    "datetime.date(".toList ++ join [',', ' '] (day.map decimal) ++ [')']
  else
    let (micro, rest) := match iso.drop 19 with
      | '.' :: _ => (number 20 6, iso.drop 26)
      | rest => (0, rest)
    let second := number 17 2
    let time := [number 11 2, number 14 2] ++
      (if second = 0 && micro = 0 then [] else [second]) ++ (if micro = 0 then [] else [micro])
    let zone := match rest with
      | [] => []
      | sign :: _ =>
        let ahead := (number (iso.length - 5) 2 * 60 + number (iso.length - 2) 2) * 60
        ["tzinfo=".toList ++ zoneLiteral (signed (sign = '-') ahead)]
    "datetime.datetime(".toList ++ join [',', ' '] ((day ++ time).map decimal ++ zone) ++ [')']

/-- The scalar inside a list or a message. -/
def literal : Scalar → List Char
  | .text s => quoted s.toList
  | .date iso => dateLiteral iso.toList
  | s => s.shownChars

end Scalar

namespace Value

mutual

/-- The value inside a list or a message. -/
def literal : Value → List Char
  | .scalar s => s.literal
  | .list items => ['['] ++ literalItems items ++ [']']
  | .mapping entries => ['\x7b'] ++ literalEntries entries ++ ['\x7d']

/-- The items of a list with commas between them. -/
def literalItems : List Value → List Char
  | [] => []
  | [item] => item.literal
  | item :: rest => item.literal ++ [',', ' '] ++ literalItems rest

/-- The entries of a mapping with commas between them. -/
def literalEntries : List (Scalar × Value) → List Char
  | [] => []
  | [(key, value)] => key.literal ++ [':', ' '] ++ value.literal
  | (key, value) :: rest =>
    key.literal ++ [':', ' '] ++ value.literal ++ [',', ' '] ++ literalEntries rest

end

mutual

/-- Whether the value has a text. -/
def isWritable : Value → Bool
  | .scalar s => s.isWritable
  | .list items => allWritable items
  | .mapping entries => allEntriesWritable entries

def allWritable : List Value → Bool
  | [] => true
  | item :: rest => item.isWritable && allWritable rest

def allEntriesWritable : List (Scalar × Value) → Bool
  | [] => true
  | (key, value) :: rest => key.isWritable && value.isWritable && allEntriesWritable rest

end

/-- The value as a text of its own. -/
def shown : Value → String
  | .scalar s => s.shown
  | value => String.ofList value.literal

end Value
end FormIntake
