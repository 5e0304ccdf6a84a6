import FormIntake.Definition.Element
import FormIntake.Template.Format

/-! # Notifications, confirmations and copies

What a form does once it is accepted: the mails that it sends, the confirmation that it shows, and
the copy of a submission that it writes into a table of the site.
-/

namespace FormIntake.Definition

open Schema
open Template (Format)

structure Notification where
  name : String := ""
  enabled : Bool := true
  subject : String := ""
  body : String := ""
  format : Format := .html
  recipients : List String := []
  logic : Logic := {}
  deriving DecidableEq, Repr

inductive ConfirmationKind where
  | message
  | messageRedirect
  | redirectUrl
  deriving DecidableEq, Repr

namespace ConfirmationKind

def all : List ConfirmationKind := [.message, .messageRedirect, .redirectUrl]

def name : ConfirmationKind → String
  | .message => "message"
  | .messageRedirect => "message-redirect"
  | .redirectUrl => "redirect-url"

end ConfirmationKind

structure Confirmation where
  name : String := ""
  kind : ConfirmationKind := .message
  message : String := "Your message has been sent. Thanks!"
  redirectUrl : String := ""
  redirectDelay : Int := 3
  hideForm : Bool := false
  resetForm : Bool := true
  logic : Logic := {}
  deriving DecidableEq, Repr

/-- A column of a copy: its name and the template of its value. -/
structure Column where
  name : String := ""
  value : String := ""
  deriving DecidableEq, Repr

structure CopyTable where
  enabled : Bool := false
  table : String := ""
  columns : List Column := []
  deriving DecidableEq, Repr

/-- Whether submissions are copied: it is switched on, and there are a table and columns. -/
def CopyTable.isActive (copy : CopyTable) : Bool :=
  copy.enabled && copy.table != "" && !copy.columns.isEmpty

/-- The message over a form that was not accepted. -/
structure Banner where
  enabled : Bool := true
  title : String := ""
  content : String := "There was a problem"
  deriving DecidableEq, Repr

/-! ### Reading -/

/-- The formats of a mail's body. -/
def bodyFormat : Reader Format := fun v =>
  (oneOf Format.all Format.name v).ensure fun f =>
    match f with
    | .html => none
    | .text => none
    | f => some (.refused ("Notification body format must be html or text, got '" ++ f.name ++ "'"))

def Notification.reader : Reader Notification := record "NotificationSettings" fun e =>
  Notification.mk <$> may "name" "" text e
    <*> may "enabled" true bool e
    <*> may "subject" "" text e
    <*> may "body" "" text e
    <*> may "format" .html bodyFormat e
    <*> may "recipients" [] (list text) e
    <*> may "logic" {} Logic.reader e

def Confirmation.reader : Reader Confirmation := record "ConfirmationSettings" fun e =>
  Confirmation.mk <$> may "name" "" text e
    <*> may "type" .message (oneOf ConfirmationKind.all ConfirmationKind.name) e
    <*> may "message" "Your message has been sent. Thanks!" text e
    <*> may "redirect_url" "" text e
    <*> may "redirect_delay" 3 naturalInt e
    <*> may "hide_form" false bool e
    <*> may "reset_form" true bool e
    <*> may "logic" {} Logic.reader e

def Column.reader : Reader Column := record "StorageColumnSettings" fun e =>
  Column.mk <$> may "name" "" text e <*> may "value" "" text e

def CopyTable.reader : Reader CopyTable := record "CustomStorageSettings" fun e =>
  CopyTable.mk <$> may "enabled" false bool e
    <*> may "table" "" text e
    <*> may "columns" [] (list Column.reader) e

def Banner.reader : Reader Banner := record "GlobalErrorSettings" fun e =>
  Banner.mk <$> may "enabled" true bool e
    <*> may "title" "" text e
    <*> may "content" "There was a problem" text e

/-! ### Writing -/

def texts (list : List String) : Value := .list (list.map .text)

def Notification.toValue (n : Notification) : Value :=
  .record [("name", .text n.name), ("enabled", .bool n.enabled), ("subject", .text n.subject),
    ("body", .text n.body), ("format", .text n.format.name), ("recipients", texts n.recipients),
    ("logic", n.logic.toValue)]

def Confirmation.toValue (c : Confirmation) : Value :=
  .record [("name", .text c.name), ("type", .text c.kind.name), ("message", .text c.message),
    ("redirect_url", .text c.redirectUrl), ("redirect_delay", .int c.redirectDelay),
    ("hide_form", .bool c.hideForm), ("reset_form", .bool c.resetForm),
    ("logic", c.logic.toValue)]

def Column.toValue (c : Column) : Value :=
  .record [("name", .text c.name), ("value", .text c.value)]

def CopyTable.toValue (c : CopyTable) : Value :=
  .record [("enabled", .bool c.enabled), ("table", .text c.table),
    ("columns", .list (c.columns.map Column.toValue))]

def Banner.toValue (b : Banner) : Value :=
  .record [("enabled", .bool b.enabled), ("title", .text b.title), ("content", .text b.content)]

end FormIntake.Definition
