import FormIntake.Form.Basic

/-! # The desk

What extensions can see and change while a form is worked on: the form, and a list of notes that
they leave.  A `Work` is something done at the desk that can fail; what was done before it failed
stays done.
-/

namespace FormIntake

/-- A note of an extension: its label, what it has seen, and the entry of the form if it looked at
the form. -/
structure Note where
  label : String
  seen : Value
  entry : Option (Option Int) := none

structure Desk where
  form : Form
  notes : List Note := []

abbrev Work (α : Type) := ExceptT Failure (StateM Desk) α

namespace Work

/-- Something about the form on the desk. -/
def ask {α : Type} (look : Form → α) : Work α := return look (← get).form

/-- Change the form on the desk. -/
def change (update : Form → Form) : Work Unit :=
  modify fun desk => { desk with form := update desk.form }

/-- Leave a note. -/
def note (n : Note) : Work Unit := modify fun desk => { desk with notes := desk.notes ++ [n] }

/-- What comes of some work, and the desk after it. -/
def perform {α : Type} (work : Work α) (desk : Desk) : Except Failure α × Desk := work.run.run desk

end Work
end FormIntake
