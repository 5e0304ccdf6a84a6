import FormIntake.Intake.Run
import FormIntake.Rendering.Full
import FormIntake.Form.Visibility

/-! # Sending notifications

The notifications of a form are rendered and sent one by one, in the order of the definition.  One
that fails is reported and does not keep the others from being sent.
-/

namespace FormIntake

open Definition

/-- What has become of a notification. -/
inductive DeliveryStatus where
  | sent
  | disabled
  | withheld
  | failed
  deriving DecidableEq, Repr

def DeliveryStatus.name : DeliveryStatus → String
  | .sent => "sent"
  | .disabled => "disabled"
  | .withheld => "logic_failed"
  | .failed => "failed"

structure Delivery where
  name : String
  status : DeliveryStatus
  /-- Why it has failed. -/
  reason : Option String := none
  deriving DecidableEq, Repr

namespace Dispatch

/-- Whether the logic of a notification lets it be sent. -/
def isDue (form : Form) (notification : Notification) : Bool :=
  !notification.logic.isActive || form.appears notification.logic

/-- A notification as a mail. -/
def mail (service : Service) (request : Request) (notification : Notification) : Work Mail := do
  let renderer := service.renderer
  let subject ← renderer.render notification.subject .text request
  let body ← renderer.render notification.body notification.format request
  let recipients ← notification.recipients.mapM fun r => renderer.render r .text request
  return { notification := { notification with recipients }, subject, body }

/-- Hand a mail to the mail server. -/
def hand (service : Service) (mail : Mail) : Step (Except Failure Unit) := do
  modify fun run => { run with handed := run.handed ++ [mail] }
  match service.transport mail with
  | some failure => return .error failure
  | none =>
    Step.enter mail.event
    return .ok ()

/-- Render a notification and hand it to the mail server. -/
def send (service : Service) (request : Request) (notification : Notification) :
    Step (Except Failure Unit) := do
  match ← Step.attempt (mail service request notification) with
  | .ok mail => hand service mail
  | .error failure => return .error failure

/-- Try to send one notification. -/
def deliver (service : Service) (request : Request) (notification : Notification) :
    Step Delivery := do
  let form ← Step.ask id
  let fields : List (String × Value) :=
    [("form_id", .int form.id), ("notification", .text notification.name)]
  if !notification.enabled then return ⟨notification.name, .disabled, none⟩
  if !isDue form notification then
    Step.log .debug "Notification logic not satisfied" fields
    return ⟨notification.name, .withheld, none⟩
  match ← send service request notification with
  | .ok () =>
    Step.log .info "Notification sent" fields
    return ⟨notification.name, .sent, none⟩
  | .error failure =>
    Step.log .warning "Notification failed" (fields ++
      [("error", .text failure.message), ("error_type", .text failure.kindName)])
    return ⟨notification.name, .failed, some failure.message⟩

/-- Send the notifications of the form. -/
def all (service : Service) (request : Request) : Step (List Delivery) := do
  let notifications ← Step.ask fun form => form.definition.notifications
  notifications.mapM (deliver service request)

end Dispatch
end FormIntake
