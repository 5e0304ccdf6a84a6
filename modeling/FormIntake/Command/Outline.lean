import FormIntake.Form.Basic

/-! # Outlines

The outline of a form names its elements in reading order, one a line, each indented by its depth,
and counts what it defines.
-/

namespace FormIntake.Command

open Definition

def number (n : Int) : String := String.ofList (Number.wholeText n)

/-- A label, or a word in place of an empty one. -/
def labelOr (label : String) : String := if label.isEmpty then "(untitled)" else label

def indent (depth : Nat) : String := String.ofList (List.replicate (2 * depth) ' ')

/-- The line of a page or an element. -/
def describe (depth : Nat) : Item Validator → String
  | .page page => indent depth ++ "Page " ++ number page.id ++ ": " ++ labelOr page.heading.label
  | .group heading _ => indent depth ++ "Group " ++ number heading.id ++ ": " ++ labelOr heading.label
  | .field f =>
    indent depth ++ "Field " ++ number f.id ++ " [" ++ f.kind.name ++ "]: " ++ f.reportLabel ++
      (if f.required then " *" else "")
  | .block b => indent depth ++ "Html " ++ number b.id

mutual

/-- The lines of an element and those of the elements in it. -/
def elementLines (depth : Nat) : Element Validator → List String
  | .field f => [describe depth (.field f)]
  | .block b => [describe depth (.block b)]
  | .group heading children =>
    describe depth (.group heading children) :: childLines (depth + 1) children

def childLines (depth : Nat) : List (Element Validator) → List String
  | [] => []
  | e :: rest => elementLines depth e ++ childLines depth rest

end

/-- The lines of a page and its elements. -/
def pageLines (page : Page Validator) : List String :=
  describe 1 (.page page) :: childLines 2 page.children

/-- How much the form defines. -/
def countLine (form : Form) : String :=
  let count (n : Nat) (what : String) := number n ++ " " ++ what ++ "(s)"
  ", ".intercalate [count form.pages.length "page", count form.fields.length "field",
    count form.definition.notifications.length "notification",
    count form.definition.confirmations.length "confirmation"]

/-- The outline of a form. -/
def outline (form : Form) : List String :=
  ("Form " ++ number form.id ++ ": " ++ labelOr form.name) ::
    form.pages.flatMap pageLines ++ [countLine form]

end FormIntake.Command
