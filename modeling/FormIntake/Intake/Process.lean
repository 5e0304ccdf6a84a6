import FormIntake.Intake.Gate
import FormIntake.Intake.Completion
import FormIntake.Form.Validation
import FormIntake.Form.Navigation

/-! # Processing a submission

`process` takes one submission through all stages and gives what the submitter is answered: the token
of the session, the gates, the submitted values, going from page to page, validation, and completion.
The first stage that has an answer ends the run, and nothing is kept before all values are accepted.
-/

namespace FormIntake

open Definition

namespace Intake

/-- Whether a submission carries the token of the session. -/
def tokenMatches (service : Service) (submission : Submission) : Bool :=
  service.sessionToken ≠ "" && submission.csrfToken = some service.sessionToken

/-- Refuse a submission that does not carry the token of the session. -/
def checkToken (service : Service) (submission : Submission) : Step (Option Subject) := do
  if !service.settings.csrfProtection || tokenMatches service submission then return none
  Step.log .warning "CSRF token mismatch" [("form_id", .int (← Step.ask Form.id))]
  some <$> Step.atDesk (service.bus.filter .csrfFailure
    (.reply (.refused (.ofMessage "Refresh the page and try again." "An error occurred"))))

/-- Stop a submission at the gates. -/
def checkGates (service : Service) (request : Request) : Step (Option Subject) := do
  match ← Gate.check service request with
  | .null => return none
  | answer =>
    Step.log .info "Submission stopped at gate" [("form_id", .int (← Step.ask Form.id))]
    return some answer

/-- The submission with the values from earlier pages under its own. -/
def withUploads (service : Service) (submission : Submission) : Submission :=
  { submission with values := Assoc.ofList (service.uploads ++ submission.values) }

/-- Fill in the form. -/
def bindValues (submission : Submission) : Step Unit := do
  Step.enter .mergedUploads
  Step.change (·.bind submission)
  Step.log .debug "Values bound"
    [("form_id", .int (← Step.ask Form.id)), ("field_count", .int submission.values.length)]

/-- Hide and show elements, and go to the page that was submitted. -/
def settle (submission : Submission) : Step Unit :=
  Step.change fun form => form.refreshVisibility.goTo submission.page

/-- The message over a form that was not accepted. -/
def notice (form : Form) : Notice :=
  let banner := form.definition.banner
  { enabled := banner.enabled, title := banner.title,
    content := form.phrase "errorContent" banner.content }

/-- The refusal of values, with the messages of fields and the page that they stand on. -/
def refusal (form : Form) (faults : List (Int × String)) (page : Option (Page Validator)) :
    Subject :=
  .reply (.refused { notice := notice form, faults, page := page.map Page.id })

/-- Validate fields of the form.  A validator that fails over a value ends the run. -/
def checkFields (fields : Form → List (Definition.Field Validator)) : Step Unit := do
  let fields ← Step.ask fields
  let mishap ← Step.ask (·.mishap? fields)
  Step.change (·.validateFields fields)
  (match mishap with
    | some failure => .error failure
    | none => .ok () : Except Failure Unit)

/-- Go to another page: back without a look at the values, or on if those of the page are accepted.
From the last page there is no going on. -/
def turnPage (submission : Submission) : Step (Option Subject) := do
  let form ← Step.ask id
  match form.currentPage? with
  | none => return none
  | some page =>
    if submission.isBack then
      return some (.reply (.page (form.previousPage?.getD page.id)))
    match form.nextPage? with
    | none => return none
    | some next =>
      checkFields (·.checkedOn page)
      let form ← Step.ask id
      if form.accepts page then return some (.reply (.page next))
      return some (refusal form (form.faultsAmong page.fields) (some page))

/-- Go from page to page on a form that has several. -/
def navigate (submission : Submission) : Step (Option Subject) := do
  if !(← Step.ask Form.hasPages) then return none
  match ← turnPage submission with
  | none => return none
  | some answer =>
    Step.log .debug "Page transition" [("form_id", .int (← Step.ask Form.id)),
      ("result_type", .text (typeName answer))]
    return some answer
where
  /-- The name of an answer's type. -/
  typeName : Subject → String
    | .reply r => r.typeName
    | subject => subject.kindName

/-- Refuse values that are not accepted. -/
def validateAll : Step (Option Subject) := do
  checkFields Form.checked
  let form ← Step.ask id
  match form.firstFaultyPage? with
  | none => return none
  | some page =>
    Step.log .debug "Form failed validation" [("form_id", .int form.id), ("page_id", .int page.id)]
    Step.log .info "Submission failed validation"
      [("form_id", .int form.id), ("error_count", .int form.errors.length)]
    return some (refusal form form.errors (some page))

/-- Process a submission from its values on. -/
def processValues (service : Service) (submission : Submission) (request : Request) :
    Step Subject := do
  bindValues submission
  (stage service .postSetFormValues).endsOr do
    settle submission
    (stage service .preValidate).endsOr <|
      (navigate submission).endsOr <|
      validateAll.endsOr <|
      Completion.run service submission request

/-- Process a submission. -/
def process (service : Service) (submission : Submission) (request : Request) : Step Subject :=
  (checkToken service submission).endsOr <|
  (stage service .preProcess).endsOr <|
  (checkGates service request).endsOr <|
  processValues service (withUploads service submission) request

end Intake
end FormIntake
