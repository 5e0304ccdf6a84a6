import Mathlib.Data.List.Forall2
import FormIntake.Proofs.Intake.Step

/-! # Notifications do not hang on each other

Without extensions every notification of a form has a report, in the order of the definition, and comes
to what it would come to if the form had no other (`Dispatch.all_independent`).  A notification that is
called for and can be rendered is handed to the mail server; it is sent if the server takes it, and what
keeps it from being rendered or taken is in its report.

Sending one notification leaves the desk as it is (`Dispatch.exists_deliver`), so that what the next ones
are rendered from is the same wherever they stand in the list (`Dispatch.exists_deliverAll`). -/

namespace FormIntake

open Definition Effect

/-- Whether the mail server takes a mail. -/
def Service.takes (service : Service) (mail : Mail) : Bool := (service.transport mail).isNone

/-- Between two runs mails were handed to the mail server, and those that it takes were sent; all else is
the same, but for the log. -/
structure Service.Posts (service : Service) (run : Run) (mails : List Mail) (after : Run) : Prop where
  desk : after.desk = run.desk
  repository : after.repository = run.repository
  staged : after.staged = run.staged
  handed : after.handed = run.handed ++ mails
  journal : after.journal = run.journal ++ (mails.filter service.takes).map Mail.event

namespace Service.Posts

variable {service : Service} {run between after : Run} {mails more : List Mail}

/-- Nothing but writing records into the log. -/
theorem logging (run : Run) (log : List Log.Record) : service.Posts run [] { run with log } :=
  ⟨rfl, rfl, rfl, (List.append_nil _).symm, (List.append_nil _).symm⟩

theorem trans (h : service.Posts run mails between) (hm : service.Posts between more after) :
    service.Posts run (mails ++ more) after where
  desk := hm.desk.trans h.desk
  repository := hm.repository.trans h.repository
  staged := hm.staged.trans h.staged
  handed := by rw [hm.handed, h.handed, List.append_assoc]
  journal := by rw [hm.journal, h.journal, List.filter_append, List.map_append, List.append_assoc]

/-- A mail that the mail server refuses. -/
theorem refused {mail : Mail} {failure : Failure} (h : service.transport mail = some failure)
    (run : Run) : service.Posts run [mail] { run with handed := run.handed ++ [mail] } where
  desk := rfl
  repository := rfl
  staged := rfl
  handed := rfl
  journal := by simp [Service.takes, h]

/-- A mail that the mail server takes. -/
theorem taken {mail : Mail} (h : service.transport mail = none) (run : Run) :
    service.Posts run [mail]
      { run with handed := run.handed ++ [mail], journal := run.journal ++ [mail.event] } where
  desk := rfl
  repository := rfl
  staged := rfl
  handed := rfl
  journal := by simp [Service.takes, h]

end Service.Posts

/-- A desk whose form has other notifications. -/
def Desk.withNotifications (desk : Desk) (notifications : List Notification) : Desk :=
  { desk with form := { desk.form with definition := { desk.form.definition with notifications } } }

namespace Dispatch

/-- A notification is switched on, and its logic, if it counts, lets it be sent. -/
def IsCalledFor (form : Form) (notification : Notification) : Prop :=
  notification.enabled = true ∧
    (notification.logic.isActive = true → form.appears notification.logic = true)

instance (form : Form) (notification : Notification) : Decidable (IsCalledFor form notification) :=
  inferInstanceAs (Decidable (_ ∧ _))

section reports

variable (service : Service) (request : Request) (desk : Desk) (notification : Notification)

/-- The mail that a notification is handed to the mail server as: it has to be called for, and to be
rendered. -/
def mail? : Option Mail :=
  if IsCalledFor desk.form notification then
    ((mail service request notification).perform desk).1.toOption
  else none

/-- What is reported of a notification. -/
inductive Reports : Delivery → Prop
  | disabled (hoff : notification.enabled = false) : Reports ⟨notification.name, .disabled, none⟩
  | withheld (hon : notification.enabled = true) (hactive : notification.logic.isActive = true)
      (hfails : desk.form.appears notification.logic = false) :
    Reports ⟨notification.name, .withheld, none⟩
  | unrendered {failure : Failure} (hcalled : IsCalledFor desk.form notification)
      (hmail : ((mail service request notification).perform desk).1 = .error failure) :
    Reports ⟨notification.name, .failed, some failure.message⟩
  | refused {mail : Mail} {failure : Failure} (hcalled : IsCalledFor desk.form notification)
      (hmail : ((Dispatch.mail service request notification).perform desk).1 = .ok mail)
      (hrefused : service.transport mail = some failure) :
    Reports ⟨notification.name, .failed, some failure.message⟩
  | sent {mail : Mail} (hcalled : IsCalledFor desk.form notification)
      (hmail : ((Dispatch.mail service request notification).perform desk).1 = .ok mail)
      (htaken : service.transport mail = none) :
    Reports ⟨notification.name, .sent, none⟩

end reports

variable {service : Service} {request : Request} {desk : Desk} {notification : Notification}
  {notifications : List Notification}

theorem isDue_iff {form : Form} : isDue form notification = true ↔
    (notification.logic.isActive = true → form.appears notification.logic = true) := by
  rw [isDue]
  cases notification.logic.isActive <;> simp

/-- Two reports of a notification are the same. -/
theorem Reports.unique {delivery other : Delivery}
    (h : Reports service request desk notification delivery)
    (ho : Reports service request desk notification other) : delivery = other := by
  cases h <;> cases ho <;> grind [IsCalledFor]

/-! ### One notification -/

section idle

variable (h : service.bus.Idle) (request : Request)

include h

theorem perform_mail (notification : Notification) (desk : Desk) :
    (mail service request notification).perform desk =
      (mailFor service request notification desk.form, desk) := by
  rw [mail_of_idle h]
  rfl

/-- A notification that is called for is rendered and handed to the mail server. -/
theorem exists_send {notification : Notification} {run : Run}
    (hc : IsCalledFor run.desk.form notification) :
    ∃ result after, outcome (send service request notification) run = (.ok result, after) ∧
      service.Posts run (mail? service request run.desk notification).toList after ∧
      Reports service request run.desk notification (match result with
        | .ok () => ⟨notification.name, .sent, none⟩
        | .error failure => ⟨notification.name, .failed, some failure.message⟩) := by
  have hperform := perform_mail h request notification run.desk
  have hattempt : outcome (Step.attempt (mail service request notification)) run =
      (.ok (mailFor service request notification run.desk.form), run) := by
    rw [mail_of_idle h]
    rfl
  unfold send
  rw [outcome_bind_of_ok hattempt, mail?, if_pos hc, hperform]
  cases hm : mailFor service request notification run.desk.form with
  | error failure =>
      refine ⟨.error failure, run, rfl, .logging run run.log, .unrendered hc ?_⟩
      rw [hperform, hm]
  | ok mail =>
      have hmail : ((Dispatch.mail service request notification).perform run.desk).1 = .ok mail := by
        rw [hperform, hm]
      show ∃ result after, outcome (hand service mail) run = (.ok result, after) ∧ _
      unfold hand
      cases ht : service.transport mail with
      | some failure => exact ⟨.error failure, _, rfl, .refused ht run, .refused hc hmail ht⟩
      | none => exact ⟨.ok (), _, rfl, .taken ht run, .sent hc hmail ht⟩

/-- Whatever becomes of a notification is reported, and the next one finds the desk as it was. -/
theorem exists_deliver (notification : Notification) (run : Run) :
    ∃ delivery after, outcome (deliver service request notification) run = (.ok delivery, after) ∧
      Reports service request run.desk notification delivery ∧
      service.Posts run (mail? service request run.desk notification).toList after := by
  unfold deliver
  rw [outcome_bind_of_ok (Step.outcome_ask _ _)]
  cases he : notification.enabled with
  | false =>
      have hnone : mail? service request run.desk notification = none :=
        if_neg fun hc => Bool.false_ne_true (he.symm.trans hc.1)
      rw [hnone]
      exact ⟨_, run, rfl, .disabled he, .logging run run.log⟩
  | true =>
      cases hd : isDue run.desk.form notification with
      | false =>
          have hlogic := isDue_iff.not.mp (Bool.eq_false_iff.mp hd)
          obtain ⟨hactive, hfails⟩ := Classical.not_imp.mp hlogic
          have hnone : mail? service request run.desk notification = none :=
            if_neg fun hc => hlogic hc.2
          rw [hnone]
          simp only [id, hd]
          exact ⟨_, _, rfl, .withheld he hactive (Bool.eq_false_iff.mpr hfails), .logging run _⟩
      | true =>
          obtain ⟨result, sent, ho, hposts, hreports⟩ := exists_send h request ⟨he, isDue_iff.mp hd⟩
          simp only [id, hd, Bool.not_true, Bool.false_eq_true, if_false]
          rw [outcome_bind_of_ok ho]
          rw [← List.append_nil (mail? _ _ _ _).toList]
          cases result with
          | ok _ => exact ⟨_, _, rfl, hreports, hposts.trans (.logging sent _)⟩
          | error failure => exact ⟨_, _, rfl, hreports, hposts.trans (.logging sent _)⟩

/-! ### All notifications -/

/-- Every notification of a list is reported, and handed over if it is called for and rendered, from the
desk as it was before the first one. -/
theorem exists_deliverAll (notifications : List Notification) (run : Run) :
    ∃ deliveries after,
      outcome (notifications.mapM (deliver service request)) run = (.ok deliveries, after) ∧
      List.Forall₂ (Reports service request run.desk) notifications deliveries ∧
      service.Posts run (notifications.filterMap (mail? service request run.desk)) after := by
  induction notifications generalizing run with
  | nil => exact ⟨[], run, rfl, .nil, .logging run run.log⟩
  | cons notification rest ih =>
      obtain ⟨delivery, between, hone, hreports, hposts⟩ := exists_deliver h request notification run
      obtain ⟨deliveries, after, hrest, hall, hmore⟩ := ih between
      rw [hposts.desk] at hall hmore
      refine ⟨delivery :: deliveries, after, ?_, .cons hreports hall, ?_⟩
      · rw [List.mapM_cons, outcome_bind_of_ok hone, outcome_bind_of_ok hrest]
        rfl
      · rw [List.filterMap_eq_flatMap_toList, List.flatMap_cons, ← List.filterMap_eq_flatMap_toList]
        exact hposts.trans hmore

end idle

/-! ### Each notification alone -/

section idle

variable (h : service.bus.Idle)

include h

/-- The notifications of a form do not show in what one of them is rendered to. -/
theorem perform_mail_withNotifications :
    ((mail service request notification).perform (desk.withNotifications notifications)).1 =
      ((mail service request notification).perform desk).1 := by
  rw [perform_mail h, perform_mail h]
  rfl

theorem mail?_withNotifications :
    mail? service request (desk.withNotifications notifications) notification =
      mail? service request desk notification := by
  rw [mail?, mail?, perform_mail_withNotifications h]
  rfl

theorem Reports.of_withNotifications {delivery : Delivery}
    (hr : Reports service request (desk.withNotifications notifications) notification delivery) :
    Reports service request desk notification delivery := by
  have hmail : ((mail service request notification).perform (desk.withNotifications notifications)).1 =
      ((mail service request notification).perform desk).1 := perform_mail_withNotifications h
  cases hr with
  | disabled hoff => exact .disabled hoff
  | withheld hon hactive hfails => exact .withheld hon hactive hfails
  | unrendered hcalled hm => exact .unrendered hcalled (hmail.symm.trans hm)
  | refused hcalled hm hrefused => exact .refused hcalled (hmail.symm.trans hm) hrefused
  | sent hcalled hm htaken => exact .sent hcalled (hmail.symm.trans hm) htaken

/-- What is reported of a notification is reported of it alone, and it is handed over alone as well. -/
theorem exists_alone {delivery : Delivery} (request : Request) (run : Run)
    (hr : Reports service request run.desk notification delivery) :
    let only : Run := { run with desk := run.desk.withNotifications [notification] }
    ∃ alone, (all service request).perform only = (.ok [delivery], alone) ∧
      service.Posts only (mail? service request run.desk notification).toList alone := by
  intro only
  obtain ⟨deliveries, alone, ho, hreports, hposts⟩ := exists_deliverAll h request [notification] only
  obtain ⟨other, hother, rfl⟩ : ∃ other, Reports service request only.desk notification other ∧
      deliveries = [other] := by
    cases hreports with
    | cons hother hnil =>
        cases hnil
        exact ⟨_, hother, rfl⟩
  obtain rfl : other = delivery := (Reports.of_withNotifications h hother).unique hr
  refine ⟨alone, ho, ?_⟩
  have hmail : mail? service request only.desk notification =
      mail? service request run.desk notification := mail?_withNotifications h
  rwa [List.filterMap_eq_flatMap_toList, List.flatMap_singleton, hmail] at hposts

end idle

/-- Without extensions sending the notifications of a form never fails.  Each has a report, by whether it
is called for, can be rendered, and is taken by the mail server; those that are called for and can be
rendered are handed over, in their order.  Report and mail are those of the notification alone. -/
theorem all_independent (h : service.bus.Idle) (request : Request) (run : Run) :
    let notifications := run.desk.form.definition.notifications
    ∃ deliveries after, (all service request).perform run = (.ok deliveries, after) ∧
      List.Forall₂ (Reports service request run.desk) notifications deliveries ∧
      service.Posts run (notifications.filterMap (mail? service request run.desk)) after ∧
      List.Forall₂ (fun notification delivery =>
        let only : Run := { run with desk := run.desk.withNotifications [notification] }
        ∃ alone, (all service request).perform only = (.ok [delivery], alone) ∧
          service.Posts only (mail? service request run.desk notification).toList alone)
        notifications deliveries := by
  intro notifications
  obtain ⟨deliveries, after, ho, hreports, hposts⟩ := exists_deliverAll h request notifications run
  exact ⟨deliveries, after, ho, hreports, hposts,
    hreports.imp fun _ _ hr => exists_alone h request run hr⟩

/-- A form that was filled in with an option and an address. -/
def bulletin : Desk where
  form := {
    definition := { id := 1, name := "Bulletin", pages := [], notifications := [
      { name := "archive", enabled := false },
      { name := "absence",
        logic := { enabled := true, rules := [{ target := 2, operator := .empty }] } },
      { name := "torn", body := "\x7belement|id:2.²\x7d" },
      { name := "reader", subject := "\x7bform_name\x7d", recipients := ["\x7belement|id:3\x7d"] },
      { name := "editor", subject := "\x7belement|id:2\x7d", recipients := ["editor@example.org"] }] }
    pages := [⟨{ id := 1 }, [.field { id := 2, kind := .multi }, .field { id := 3 }]⟩]
    distinct := by decide
    values := [(2, .options ["Weekly"]), (3, .text "gone@example.org")] }

/-- A mail server on which one mailbox is full. -/
def overfull : Service where
  transport mail :=
    if mail.notification.recipients.contains "gone@example.org" then some (.raised "Mailbox full")
    else none

/-- Three notifications are kept from the mail server, for three reasons, and one is refused; the last
one is sent all the same. -/
theorem all_independent_bulletin :
    let run : Run := { desk := bulletin, repository := .ledger {} }
    overfull.bus.Idle ∧ ∃ deliveries after, (all overfull {}).perform run = (.ok deliveries, after) ∧
      List.Forall₂ (Reports overfull {} bulletin) bulletin.form.definition.notifications deliveries ∧
      deliveries.map (fun delivery => (delivery.name, delivery.status)) =
        [("archive", .disabled), ("absence", .withheld), ("torn", .failed), ("reader", .failed),
          ("editor", .sent)] ∧
      (deliveries.find? (·.name = "reader")).bind Delivery.reason = some "Mailbox full" ∧
      after.handed.map Mail.subject = ["Bulletin", "Weekly"] ∧
      after.journal = [.sent "editor" "Weekly" "" ["editor@example.org"]] := by
  intro run
  have hidle : overfull.bus.Idle := Bus.idle_empty
  obtain ⟨deliveries, after, ho, hreports, -, -⟩ := all_independent hidle {} run
  have hdeliveries : ((all overfull {}).perform run).1.toOption.map (fun deliveries =>
      (deliveries.map fun delivery => (delivery.name, delivery.status),
        (deliveries.find? (·.name = "reader")).bind Delivery.reason)) =
      some ([("archive", .disabled), ("absence", .withheld), ("torn", .failed), ("reader", .failed),
        ("editor", .sent)], some "Mailbox full") := by decide +kernel
  have hafter : ((all overfull {}).perform run).2.handed.map Mail.subject = ["Bulletin", "Weekly"] ∧
      ((all overfull {}).perform run).2.journal =
        [.sent "editor" "Weekly" "" ["editor@example.org"]] := by decide +kernel
  rw [ho] at hdeliveries hafter
  obtain ⟨hstatus, hreason⟩ := Prod.mk.inj (Option.some.inj hdeliveries)
  exact ⟨hidle, deliveries, after, ho, hreports, hstatus, hreason, hafter⟩

end Dispatch
end FormIntake
