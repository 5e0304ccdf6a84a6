import FormIntake.Definition.Form
import FormIntake.Form.Flags
import FormIntake.Form.Validator
import FormIntake.Submission.Request

/-! # Forms

A form is a definition with its validators built, together with what one request makes of it: the
values of its fields, which elements are hidden, the messages of the last validation, the page that
is being filled in, the submission, and the entry that it is saved as.
-/

namespace FormIntake

open Definition Number

structure Form where
  definition : FormDefinition
  pages : List (Page Validator)
  distinct : ((pages.flatMap Page.nodes).map Node.id).Nodup
  values : List (Int × FieldValue) := []
  flags : Flags := .visible
  /-- The messages for fields that were not accepted. -/
  faults : List (Int × String) := []
  /-- The index of the page that is being filled in. -/
  current : Nat := 0
  submission : Option Submission := none
  entryId : Option Int := none

namespace Form

def id (form : Form) : Int := form.definition.id

def name (form : Form) : String := form.definition.name

/-- The key under which a visitor's uploads for the form are kept. -/
def sessionKey (form : Form) : String := "formflow_" ++ String.ofList (wholeText form.id)

/-- Whether there is more than one page to go through. -/
def hasPages (form : Form) : Bool := 1 < form.pages.length

/-- A text for the submitter: the form's own one, if it has one that is not empty, or the usual
one. -/
def phrase (form : Form) (key usual : String) : String :=
  messageOr (form.definition.phrases.lookup key) usual

/-! ### Elements -/

/-- All elements in reading order. -/
def nodes (form : Form) : List (Node Validator) := form.pages.flatMap Page.nodes

/-- All fields in reading order. -/
def fields (form : Form) : List (Definition.Field Validator) := form.pages.flatMap Page.fields

/-- The element of an id. -/
def find? (form : Form) (id : Int) : Option (Node Validator) := form.nodes.find? (·.id = id)

/-- The field of an id. -/
def field? (form : Form) (id : Int) : Option (Definition.Field Validator) :=
  (form.find? id).bind fun node => node.item.field?

def page? (form : Form) (id : Int) : Option (Page Validator) := form.pages.find? (·.id = id)

def isHidden (form : Form) (id : Int) : Bool := form.flags.isHidden id

/-! ### Values -/

/-- The value of a field. -/
def value (form : Form) (field : Definition.Field Validator) : FieldValue :=
  (form.values.lookup field.id).getD field.kind.emptyValue

/-- The form with one field filled in; an earlier message for the field is withdrawn. -/
def setValue (form : Form) (field : Definition.Field Validator) (raw : Value) : Form :=
  { form with
    values := Assoc.put field.id (field.kind.coerce raw) form.values
    faults := Assoc.erase field.id form.faults }

/-- The form filled in with submitted values; what is not submitted becomes empty. -/
def setValues (form : Form) (submitted : Submission) : Form :=
  { form with
    values := form.fields.map fun f => (f.id, f.kind.coerce (submitted.valueFor f.id))
    faults := [] }

/-- The form with a submission. -/
def bind (form : Form) (submission : Submission) : Form :=
  { form.setValues submission with submission := some submission }

/-- Whether there is nothing to show of an element: its value or content is empty, or those of all
visible fields below it are. -/
def isEmpty (form : Form) (item : Item Validator) : Bool :=
  match item with
  | .field f => (form.value f).isEmpty
  | .block b => (Text.trimmed b.content).isEmpty
  | item => item.fieldsBelow.all fun f => form.isHidden f.id || (form.value f).isEmpty

/-! ### Pages -/

/-- The form on a page; an unknown one stands for the first. -/
def goTo (form : Form) (page : Option Int) : Form :=
  { form with current := (form.pages.findIdx? fun p => some p.id = page).getD 0 }

/-- The page that is being filled in. -/
def currentPage? (form : Form) : Option (Page Validator) := form.pages[form.current]?

end Form
end FormIntake
