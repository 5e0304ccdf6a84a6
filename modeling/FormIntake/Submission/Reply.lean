import FormIntake.Definition.Message
import FormIntake.Json.Printer
import FormIntake.Value.Shown

/-! # Replies

What the submitter is answered: the submission was accepted, another page is to be filled in, or
the submission was refused.  `Reply.toValue` is the body of the response.
-/

namespace FormIntake

open Definition Text Number

/-- A message above the fields of a form. -/
structure Notice where
  enabled : Bool := true
  title : String := ""
  content : String
  deriving DecidableEq, Repr

/-- A confirmation as the submitter receives it. -/
structure Receipt where
  kind : ConfirmationKind
  message : String := ""
  redirectUrl : String := ""
  redirectDelay : Int := 3
  hideForm : Bool := false
  resetForm : Bool := true
  deriving DecidableEq, Repr

/-- Why a submission is refused: a message, and the messages for single fields with the page that
they stand on. -/
structure Refusal where
  notice : Notice
  faults : List (Int × String) := []
  page : Option Int := none
  deriving DecidableEq, Repr

inductive Reply where
  | accepted (receipt : Receipt)
  | page (id : Int)
  | refused (refusal : Refusal)
  deriving DecidableEq, Repr

/-- A refusal with a message only. -/
def Refusal.ofMessage (content : String) (title : String := "") : Refusal :=
  { notice := { title, content } }

namespace Reply

/-- The name of the reply's type in a response. -/
def typeName : Reply → String
  | .accepted _ => "success"
  | .page _ => "page"
  | .refused _ => "error"

/-- The name of the reply's kind. -/
def kindName : Reply → String
  | .accepted _ => "SuccessResult"
  | .page _ => "PageTransitionResult"
  | .refused _ => "ErrorResult"

end Reply

/-! ### Response bodies -/

def Notice.toValue (notice : Notice) : Value :=
  .record [("enabled", .bool notice.enabled), ("title", .text notice.title),
    ("content", .text notice.content)]

def Receipt.toValue (receipt : Receipt) : Value :=
  .record [("type", .text receipt.kind.name), ("message", .text receipt.message),
    ("redirectUrl", .text receipt.redirectUrl), ("redirectDelay", .int receipt.redirectDelay),
    ("hideForm", .bool receipt.hideForm), ("resetForm", .bool receipt.resetForm)]

/-- The body of a refusal; it has the messages of fields and the page only where there are some. -/
def Refusal.toValue (refusal : Refusal) : Value :=
  let faults := if refusal.faults.isEmpty then [] else
    [("errors", Value.record
      (refusal.faults.map fun (id, message) => (String.ofList (wholeText id), .text message)))]
  let page := match refusal.page with
    | some id => [("page", Value.int id)]
    | none => []
  .record ([("type", .text "error"), ("error", refusal.notice.toValue)] ++ faults ++ page)

/-- The body of the response. -/
def Reply.toValue : Reply → Value
  | .accepted receipt =>
    .record [("type", .text "success"), ("confirmation", receipt.toValue)]
  | .page id => .record [("type", .text "page"), ("page", .int id)]
  | .refused refusal => refusal.toValue

/-! ### Replies as texts -/

/-- A record with named parts as a text. -/
def shownRecord (name : String) (parts : List (String × List Char)) : List Char :=
  name.toList ++ ['('] ++
    join [',', ' '] (parts.map fun (part, text) => part.toList ++ ['='] ++ text) ++ [')']

def shownFlag (b : Bool) : List Char := (Scalar.bool b).shownChars

def Notice.shown (notice : Notice) : List Char :=
  shownRecord "GlobalError" [("enabled", shownFlag notice.enabled),
    ("title", quoted notice.title.toList), ("content", quoted notice.content.toList)]

/-- A kind of confirmation with its constant name. -/
def shownKind (kind : ConfirmationKind) : List Char :=
  let constant := match kind with
    | .message => "MESSAGE"
    | .messageRedirect => "MESSAGE_REDIRECT"
    | .redirectUrl => "REDIRECT_URL"
  "<ConfirmationType.".toList ++ constant.toList ++ [':', ' '] ++ quoted kind.name.toList ++ ['>']

def Receipt.shown (receipt : Receipt) : List Char :=
  shownRecord "ConfirmationData" [("type", shownKind receipt.kind),
    ("message", quoted receipt.message.toList),
    ("redirect_url", quoted receipt.redirectUrl.toList),
    ("redirect_delay", wholeText receipt.redirectDelay),
    ("hide_form", shownFlag receipt.hideForm), ("reset_form", shownFlag receipt.resetForm)]

def Refusal.shown (refusal : Refusal) : List Char :=
  let faults := Value.mapping
    (refusal.faults.map fun (id, message) => (Scalar.int id, .text message))
  let page := match refusal.page with
    | some id => Scalar.int id
    | none => .null
  shownRecord "ErrorResult" [("error", refusal.notice.shown),
    ("errors", "mappingproxy(".toList ++ faults.literal ++ [')']), ("page_id", page.shownChars)]

/-- Whether the reply has a text, which one with a number that is too long has not. -/
def Reply.isWritable : Reply → Bool
  | .accepted receipt => Number.isWritable receipt.redirectDelay
  | .page id => Number.isWritable id
  | .refused refusal =>
    refusal.faults.all (fun fault => Number.isWritable fault.1) && refusal.page.all Number.isWritable

/-- The reply as a text. -/
def Reply.shown : Reply → String
  | .accepted receipt =>
    String.ofList (shownRecord "SuccessResult" [("confirmation", receipt.shown)])
  | .page id => String.ofList (shownRecord "PageTransitionResult" [("page_id", wholeText id)])
  | .refused refusal => String.ofList refusal.shown

end FormIntake
