import FormIntake.Intake.Dispatch
import FormIntake.Intake.Confirmation

/-! # Completing a submission

What happens once all values are accepted: an entry is kept with the values, notifications are sent,
the confirmation is rendered, the submission is copied into a table of the site, and the uploads that
were kept for the visitor are let go.  Extensions can end it between these stages.
-/

namespace FormIntake

open Definition

/-- What ends a run, or else what a further part of it gives. -/
def Step.endsOr (ended : Step (Option Subject)) (further : Step Subject) : Step Subject := do
  match ← ended with
  | some subject => return subject
  | none => further

/-- Ask the extensions at a stage whether the submission ends there. -/
def stage (service : Service) (hook : Hook) : Step (Option Subject) := do
  match ← Step.atDesk (service.bus.veto hook) with
  | some r =>
    Step.log .info "Submission vetoed by extension"
      [("hook", .text hook.name), ("result_type", .text r.typeName)]
    return some (.reply r)
  | none => return none

namespace Completion

/-- The greatest lengths of an address and of a URL in an entry. -/
def maxAddress : Nat := 45
def maxUrl : Nat := 512

/-- The beginning of a text. -/
def cut (text : String) (length : Nat) : String := String.ofList (text.toList.take length)

/-- Whether submissions to the form are kept. -/
def isSaving (service : Service) (form : Form) : Bool :=
  service.settings.saveEntries && form.definition.saveEntry

/-- The entry of a submission. -/
def draft (service : Service) (form : Form) (submission : Submission) (request : Request) :
    Draft where
  formId := form.id
  address := if service.settings.saveAddresses then cut request.address maxAddress else ""
  formUrl := cut submission.formUrl maxUrl
  referringUrl := cut submission.referringUrl maxUrl
  postId := submission.numericPostId
  createdBy := request.user.map User.id
  createdAt := service.renderer.now
  updatedAt := service.renderer.now

/-- The values that are kept: those of visible fields that are meant to be kept and not empty. -/
def keptValues (form : Form) : List (Int × String) :=
  (form.fields.filter fun f =>
    f.saveToDatabase && !form.isHidden f.id && !(form.value f).isEmpty).map fun f =>
      (f.id, (form.value f).stored)

/-- The fields of the log records about one form. -/
def logFields (form : Form) : List (String × Value) :=
  ("form_id", .int form.id) :: (form.entryId.map fun id => ("entry_id", Value.int id)).toList

/-- Keep an entry of the submission. -/
def createEntry (service : Service) (submission : Submission) (request : Request) :
    Step Unit := do
  let form ← Step.ask id
  let entry ← Step.storeNew (·.createEntry (draft service form submission request))
  Step.enter (.createdEntry form.id)
  if (← get).repository.isDatabase then
    Step.log .debug "Entry stored" [("form_id", .int form.id), ("entry_id", .int entry.id)]
  Step.change fun form => { form with entryId := some entry.id }
  Step.log .info "Entry created" (logFields (← Step.ask id))

/-- Keep the values of the entry. -/
def saveValues : Step Unit := do
  let form ← Step.ask id
  match form.entryId with
  | none => return
  | some entry =>
    if entry ≤ 0 then return
    let values := keptValues form
    Step.store (·.saveValues entry values)
    Step.enter (.savedValues entry values)
    Step.log .debug "Entry data saved"
      (logFields form ++ [("value_count", .int values.length)])

/-- Send the notifications. -/
def notify (service : Service) (request : Request) : Step Unit := do
  let deliveries ← Dispatch.all service request
  Step.log .debug "Notifications processed" (logFields (← Step.ask id) ++
    [("statuses", .list (deliveries.map fun d => .text d.status.name))])

/-- The cells of a copy. -/
def copyRow (service : Service) (request : Request) (columns : List Column) :
    Work (List (String × String)) := do
  let cells ← (columns.filter (·.name ≠ "")).mapM fun column => do
    return (column.name, ← service.renderer.render column.value .text request)
  return Assoc.ofList cells

/-- Copy the submission into a table of the site, if the form asks for it. -/
def copy (service : Service) (request : Request) : Step Unit := do
  let form ← Step.ask id
  let copy := form.definition.copy
  if !copy.isActive then return
  let row ← Step.atDesk (copyRow service request copy.columns)
  if row.isEmpty then return
  let unknown ← Step.query (·.strangers copy.table row)
  if !unknown.isEmpty then
    Step.log .warning "Ignoring unknown custom storage columns"
      [("table", .text copy.table), ("columns", .list (unknown.map .text))]
  Step.store (·.insertCopy copy.table row)
  Step.enter (.copied copy.table row)
  Step.log .debug "Custom storage row written"
    [("form_id", .int form.id), ("table", .text copy.table)]

/-- Let go of the uploads that were kept for the visitor. -/
def clearUploads : Step Unit := do
  let key ← Step.ask Form.sessionKey
  if (← get).staged.contains key then
    modify fun run => { run with staged := run.staged.filter (· ≠ key) }
    Step.enter (.clearedUploads key)

/-- The confirmation as a reply. -/
def confirm (service : Service) (request : Request) : Step Receipt := do
  let receipt ← Step.atDesk (service.renderer.receipt request)
  copy service request
  clearUploads
  return receipt

/-- The last stage. -/
def finish (service : Service) (receipt : Receipt) : Step Subject :=
  (stage service .postProcess).endsOr do
    Step.log .info "Submission processed" (logFields (← Step.ask id) ++
      [("confirmation_type", .text receipt.kind.name)])
    return .reply (.accepted receipt)

/-- Complete an accepted submission. -/
def run (service : Service) (submission : Submission) (request : Request) : Step Subject :=
  (stage service .postValidate).endsOr do
    let saving ← Step.ask (isSaving service)
    if saving then createEntry service submission request
    (stage service .postSetEntryId).endsOr do
      Step.enter (.movedUploads (← Step.ask Form.entryId))
      if saving then saveValues
      (stage service .postSaveEntryData).endsOr do
        notify service request
        finish service (← confirm service request)

end Completion
end FormIntake
