import FormIntake.Value.Shown
import FormIntake.Number.Integer
import FormIntake.Failure

/-! # Submissions and requests

What a submitter sends, and what is known of the request that it came with.
-/

namespace FormIntake

open Number

/-- The button that was pressed on a form of several pages. -/
inductive Direction where
  | next
  | back
  deriving DecidableEq, Repr

namespace Direction

def name : Direction → String
  | .next => "next"
  | .back => "back"

/-- The direction of a value. -/
def ofValue (v : Value) : Except Failure Direction :=
  match v with
  | .text "next" => .ok .next
  | .text "back" => .ok .back
  | v => .error (.unknownChoice v.literal "SubmitDirection")

end Direction

structure Submission where
  /-- The submitted values under the ids of their fields, as a JSON text gives them, whose whole numbers are
  not too long to be written. -/
  values : List (String × Value) := []
  /-- The page that was submitted. -/
  page : Option Int := none
  direction : Direction := .next
  csrfToken : Option String := none
  formUrl : String := ""
  referringUrl : String := ""
  /-- The content that shows the form, as it was sent. -/
  postId : Value := .null

namespace Submission

def isBack (s : Submission) : Bool := s.direction = .back

/-- The number of the content that shows the form, if it is a positive whole number. -/
def numericPostId (s : Submission) : Option Int :=
  (readInteger? s.postId.shown.toList).filter (0 < ·)

/-- What was submitted for a field. -/
def valueFor (s : Submission) (id : Int) : Value :=
  (s.values.lookup (String.ofList (wholeText id))).getD .null

end Submission

/-- A visitor who is logged in. -/
structure User where
  id : Int
  login : String := ""
  email : String := ""
  displayName : String := ""
  /-- Further facts about the visitor. -/
  facts : List (String × Value) := []

namespace User

/-- A property by the name that templates use; an unknown one is empty. -/
def property (user : User) (name : String) : Value :=
  match name with
  | "ID" | "id" => .int user.id
  | "user_login" | "login" => .text user.login
  | "user_email" | "email" => .text user.email
  | "display_name" => .text user.displayName
  | _ => .text ""

/-- A further fact; an unknown one is empty. -/
def fact (user : User) (name : String) : Value := (user.facts.lookup name).getD (.text "")

end User

structure Request where
  address : String := ""
  url : String := ""
  agent : String := ""
  referrer : String := ""
  user : Option User := none
  /-- The content that is being viewed. -/
  postId : Option Int := none

end FormIntake
