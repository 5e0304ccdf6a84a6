import FormIntake.Failure
import FormIntake.Submission.Reply

/-! # What hooks work on

The value that a hook hands from one implementation to the next: data, a reply to the submitter, or
the unfinished run of a wrapper, which is never looked into.
-/

namespace FormIntake

inductive Subject where
  | data (value : Value)
  | reply (reply : Reply)
  | suspended

namespace Subject

@[match_pattern] abbrev null : Subject := .data .null
@[match_pattern] abbrev text (s : String) : Subject := .data (.text s)

/-- Whether a condition on the subject holds. -/
def isTruthy : Subject → Bool
  | .data value => value.isTruthy
  | _ => true

/-- The name of the subject's kind. -/
def kindName : Subject → String
  | .data value => value.kindName
  | .reply r => r.kindName
  | .suspended => "generator"

/-- The subject as a text, if it has one. -/
def shown : Subject → Except Failure String
  | .data value => if value.isWritable then .ok value.shown else .error .unwritableNumber
  | .reply r => if r.isWritable then .ok r.shown else .error .unwritableNumber
  | .suspended => .ok "<generator object>"

/-- The subject as a part of a text, which null leaves empty. -/
def plain : Subject → Except Failure String
  | .null => .ok ""
  | subject => subject.shown

@[simp] theorem plain_text (s : String) : (Subject.text s).plain = .ok s := by
  simp [plain, shown, Value.isWritable, Scalar.isWritable, Value.shown]

/-- Whether the subject is a given text. -/
def isText (subject : Subject) (s : String) : Bool :=
  match subject with
  | .text t => t = s
  | _ => false

theorem isText_text (s : String) : (Subject.text s).isText s = true := by simp [isText]

end Subject
end FormIntake
