import FormIntake.Rendering.Full
import FormIntake.Form.Visibility

/-! # Choosing and rendering a confirmation

The first confirmation of a form is the usual one.  Of the others, the first whose logic counts and
holds takes its place.  A form without confirmations has the default one.
-/

namespace FormIntake

open Definition

/-- The confirmation of a form that has none of its own. -/
def defaultConfirmation : Confirmation := { name := "Default confirmation" }

/-- The confirmation for the values of the form. -/
def Form.confirmation (form : Form) : Confirmation :=
  match form.definition.confirmations with
  | [] => defaultConfirmation
  | usual :: others =>
    (others.find? fun c => c.logic.isActive && form.appears c.logic).getD usual

/-- The confirmation as the submitter receives it. -/
def Renderer.receipt (renderer : Renderer) (request : Request) : Work Receipt := do
  let confirmation ← Work.ask Form.confirmation
  let message ← renderer.render confirmation.message .html request
  let redirectUrl ← renderer.render confirmation.redirectUrl .url request
  return {
    kind := confirmation.kind
    message, redirectUrl
    redirectDelay := confirmation.redirectDelay
    hideForm := confirmation.hideForm
    resetForm := confirmation.resetForm }

end FormIntake
