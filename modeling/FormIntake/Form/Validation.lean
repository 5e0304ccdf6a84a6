import FormIntake.Form.Basic

/-! # Validation

A visible field is faulty when it is required and empty, or when it is not empty and one of its
validators does not accept its value; the first message counts.  Hidden fields and all fields of
hidden pages pass.  Where a validator fails, validation ends there, and the fields behind it keep the
messages that they had.
-/

namespace FormIntake

open Definition

/-- The message for a value of a field, if it is not accepted. -/
def Definition.Field.faultOf (field : Definition.Field Validator) (value : FieldValue) :
    Except Failure (Option String) :=
  if value.isEmpty then .ok (if field.required then some field.requiredMessage else none)
  else Validator.firstMessage field.validators value

namespace Form

/-- The message for a field, if it is faulty. -/
def faultOf (form : Form) (field : Definition.Field Validator) : Except Failure (Option String) :=
  if form.isHidden field.id then .ok none else field.faultOf (form.value field)

/-- Whether a field is found to be in order. -/
def passes (form : Form) (field : Definition.Field Validator) : Bool :=
  match form.faultOf field with
  | .ok none => true
  | _ => false

/-- The first failure of a validator among some fields. -/
def mishap? (form : Form) (fields : List (Definition.Field Validator)) : Option Failure :=
  fields.findSome? fun field =>
    match form.faultOf field with
    | .error failure => some failure
    | .ok _ => none

/-- The messages after some fields were validated, up to the first one over which a validator
fails. -/
def renewed (form : Form) (faults : List (Int × String)) :
    List (Definition.Field Validator) → List (Int × String)
  | [] => faults
  | field :: rest =>
    match form.faultOf field with
    | .ok (some message) => form.renewed (Assoc.put field.id message faults) rest
    | .ok none => form.renewed (Assoc.erase field.id faults) rest
    | .error _ => Assoc.erase field.id faults

/-- The form with the messages of some fields renewed. -/
def validateFields (form : Form) (fields : List (Definition.Field Validator)) : Form :=
  { form with faults := form.renewed form.faults fields }

/-- The fields that are validated with a page; a hidden page has none. -/
def checkedOn (form : Form) (page : Page Validator) : List (Definition.Field Validator) :=
  if form.isHidden page.id then [] else page.fields

/-- The fields that are validated with the whole form, page after page. -/
def checked (form : Form) : List (Definition.Field Validator) := form.pages.flatMap form.checkedOn

/-- Whether all fields that are validated with a page are in order. -/
def accepts (form : Form) (page : Page Validator) : Bool := (form.checkedOn page).all form.passes

/-- The form after a page was validated. -/
def validatePage (form : Form) (page : Page Validator) : Form :=
  form.validateFields (form.checkedOn page)

/-- The form after all pages were validated. -/
def validate (form : Form) : Form := form.validateFields form.checked

/-- The first page with a faulty field. -/
def firstFaultyPage? (form : Form) : Option (Page Validator) :=
  form.pages.find? fun page => !form.accepts page

/-- The messages that stand for visible fields among some. -/
def faultsAmong (form : Form) (fields : List (Definition.Field Validator)) : List (Int × String) :=
  fields.filterMap fun f =>
    if form.isHidden f.id then none else (form.faults.lookup f.id).map fun m => (f.id, m)

/-- The messages that stand for visible fields. -/
def errors (form : Form) : List (Int × String) := form.faultsAmong form.fields

end Form
end FormIntake
