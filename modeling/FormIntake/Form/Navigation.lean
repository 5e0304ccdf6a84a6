import FormIntake.Form.Basic

/-! # Going from page to page

The neighbours of the page that is being filled in are the nearest visible pages after and before
it.
-/

namespace FormIntake

open Definition

namespace Form

/-- The first visible page of a list. -/
def firstVisible? (form : Form) (pages : List (Page Validator)) : Option Int :=
  (pages.find? fun page => !form.isHidden page.id).map Page.id

/-- The nearest visible page after the current one. -/
def nextPage? (form : Form) : Option Int := form.firstVisible? (form.pages.drop (form.current + 1))

/-- The nearest visible page before the current one. -/
def previousPage? (form : Form) : Option Int :=
  form.firstVisible? (form.pages.take form.current).reverse

end Form
end FormIntake
