import FormIntake.Definition.Element
import FormIntake.Json.Printer
import FormIntake.Markup.Fragment

/-! # Values of fields

A field holds a text, a list of options, or named parts.  Whatever is submitted becomes a value of
the field's kind (`FieldKind.coerce`): scalars become texts, and what does not fit the kind becomes
the empty value.
-/

namespace FormIntake

open Text Definition
open Markup (Fragment)

inductive FieldValue where
  | text (s : String)
  | options (items : List String)
  | parts (entries : List (String × String))
  deriving DecidableEq, Repr

namespace FieldValue

def isEmpty : FieldValue → Bool
  | .text s => s = ""
  | .options items => items.isEmpty
  | .parts entries => entries.all fun e => e.2 = ""

/-- The parts that are filled in. -/
def filled (entries : List (String × String)) : List String :=
  (entries.map Prod.snd).filter (· ≠ "")

/-- The value as plain text, options and parts with a separator between them. -/
def plain (separator : String) : FieldValue → String
  | .text s => s
  | .options items => separator.intercalate items
  | .parts entries => separator.intercalate (filled entries)

/-- The text that validators look at: options and parts run together. -/
def joined : FieldValue → List Char
  | .text s => s.toList
  | .options items => items.flatMap (·.toList)
  | .parts entries => entries.flatMap (·.2.toList)

/-- Whether an option is chosen; of the other kinds, whether the text is equal. -/
def has (value : FieldValue) (candidate : String) : Bool :=
  match value with
  | .options items => items.contains candidate
  | value => value.plain ", " = candidate

/-- The value as it is kept in the store. -/
def stored : FieldValue → String
  | .text s => s
  | .options items => Json.print (.list (items.map .text))
  | .parts entries => Json.print (.record (entries.map fun (k, v) => (k, .text v)))

/-- The opening tag of a list of options. -/
def listOpening : String :=
  "<ul class=\"formflow-value-list\" style=\"margin:0;padding:0;list-style:disc inside;\">"

/-- One option in a list. -/
def optionFragments (option : String) : List Fragment :=
  [.markup "<li class=\"formflow-value-list-item\">", .text option, .markup "</li>"]

/-- The lines of a text, which end in a line feed or in a carriage return and a line feed. -/
def textLines (s : String) : List String :=
  (splitOn '\n' (joinBreaks s.toList)).map String.ofList
where
  /-- The text with a line feed for every carriage return and line feed. -/
  joinBreaks : List Char → List Char
    | '\r' :: '\n' :: rest => '\n' :: joinBreaks rest
    | c :: rest => c :: joinBreaks rest
    | [] => []

/-- The value as fragments of markup. -/
def fragments (value : FieldValue) : List Fragment :=
  if value.isEmpty then []
  else match value with
    | .text s => ((textLines s).map .text).intersperse (.markup "<br />\n")
    | .options items => .markup listOpening :: items.flatMap optionFragments ++ [.markup "</ul>"]
    | .parts entries => ((filled entries).map .text).intersperse (.markup "<br />")

/-- The value as markup. -/
def markup (value : FieldValue) : String := Markup.write value.fragments

end FieldValue

namespace Definition.FieldKind

/-- The value of a field that is not filled in. -/
def emptyValue : FieldKind → FieldValue
  | .text => .text ""
  | .multi => .options []
  | .compound => .parts []

/-- A submitted text, number or truth value as a text. -/
def plain? : Value → Option String
  | .scalar s => if s.isPlain then some s.shown else none
  | _ => none

/-- A named part with a plain value. -/
def plainEntry? (e : Scalar × Value) : Option (String × String) :=
  (plain? e.2).map (e.1.shown, ·)

/-- Whether all that becomes a text in a value of the kind has one. -/
def isCoercible : FieldKind → Value → Bool
  | .text, .scalar s => s.isWritable
  | .multi, .list items => (items.mapM plain?).isNone || items.all Value.isWritable
  | .compound, .mapping entries =>
    (entries.mapM plainEntry?).isNone || entries.all fun e => e.1.isWritable && e.2.isWritable
  | _, _ => true

/-- A submitted value as a value of the kind. -/
def coerce : FieldKind → Value → FieldValue
  | .text, v => .text ((plain? v).getD "")
  | .multi, .list items => .options ((items.mapM plain?).getD [])
  | .compound, .mapping entries =>
    .parts (Assoc.ofList ((entries.mapM plainEntry?).getD []))
  | .multi, _ => .options []
  | .compound, _ => .parts []

end Definition.FieldKind
end FormIntake
