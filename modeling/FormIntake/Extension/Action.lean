import FormIntake.Extension.Implementation
import FormIntake.Value.Arithmetic
import FormIntake.Text.Case

/-! # Ready-made implementations

Actions that an extension can be put together from without writing code of its own: to keep, replace
or reckon with the subject, to end the submission with a reply, to fail, to fill in a field, and to
leave a note.
-/

namespace FormIntake

open Text

inductive Action where
  | keep
  | replace (value : Value)
  | add (value : Value)
  | multiply (value : Value)
  | uppercase
  | negate
  /-- Another subject for tokens of certain names. -/
  | claimTokens (values : List (String × Value))
  /-- The subject with the other arguments behind it. -/
  | describe
  | answer (reply : Reply)
  /-- The refusal at hand with more text. -/
  | extend (text : String)
  | fail (message : String)
  | fill (id raw : Value)
  /-- An action for one form only. -/
  | onForm (id : Value) (action : Action)
  | note (label : String)

namespace Action

/-- The argument of a name. -/
def argument (name : String) (arguments : Arguments) : Except Failure Argument :=
  match arguments.lookup name with
  | some argument => .ok argument
  | none => .error (.missingArgument name)

/-- The subject among the arguments. -/
def subject (arguments : Arguments) : Except Failure Subject := do
  match ← argument "value" arguments with
  | .given subject => return subject
  | _ => return .null

/-- The form among the arguments. -/
def form (part : String) (arguments : Arguments) : Work Form := do
  match ← (argument "form" arguments : Except Failure _) with
  | .form => Work.ask id
  | .given subject => throw (.noMember subject.kindName part)
  | _ => throw (.noMember "object" part)

/-- The data of a subject for reckoning. -/
def reckon (op : Value → Value → Except Failure Value)
    (without : String → String → Failure) (subject : Subject) (value : Value) :
    Except Failure Subject :=
  match subject with
  | .data a => .data <$> op a value
  | subject => .error (without subject.kindName value.kindName)

/-- One argument in a description. -/
def describeOne (label name : String) (arguments : Arguments) : Work (List String) := do
  match arguments.lookup name with
  | none => return []
  | some (.given subject) =>
    if name = "form" then throw (.noMember subject.kindName "id")
    return [label ++ "=" ++ (← (subject.shown : Except Failure _))]
  | some (.token token) => return [label ++ "=" ++ token.raw]
  | some (.element id) => return [label ++ "=" ++ Failure.numberText id]
  | some .form => return [label ++ "=" ++ Failure.numberText (← Work.ask Form.id)]

/-- The arguments beside the subject in a description. -/
def describeAll (arguments : Arguments) : Work (List String) := do
  let parts ← [("fmt", "fmt"), ("sep", "separator"), ("token", "token"), ("el", "element"),
    ("form", "form"), ("empty", "show_empty_fields")].mapM fun (label, name) =>
      describeOne label name arguments
  return parts.flatten

/-- What a note shows of a subject: plain data, of all else the kind. -/
def seen : Subject → Value
  | .data (.scalar (.float x)) => .text (Value.float x).kindName
  | .data (.scalar s) => .scalar s
  | subject => .text subject.kindName

/-- The id that a value names an element by. -/
def elementId : Value → Option Int
  | .text s => Number.readInteger? s.toList
  | .float x => x.truncate?
  | value => value.asWhole?

/-- Fill in the field that a value names. -/
def fillIn (id raw : Value) : Work Unit := do
  match (elementId id).bind (← Work.ask Form.find?) with
  | some ⟨.field f, _⟩ => Work.change fun form => form.setValue f raw
  | some node => throw (.noMember (itemKind node.item) "set_value")
  | none => throw (.noMember "NoneType" "set_value")
where
  /-- The name of the kind of an element. -/
  itemKind : Definition.Item Validator → String
    | .field _ => "Field"
    | .block _ => "Html"
    | .group .. => "Group"
    | .page _ => "Page"

/-- What the action does. -/
def perform : Action → Arguments → Work Subject
  | .keep, arguments => (subject arguments : Except Failure _)
  | .replace value, _ => return .data value
  | .add value, arguments => do
    let s ← (subject arguments : Except Failure _)
    (reckon Value.add .unaddable s value : Except Failure _)
  | .multiply value, arguments => do
    let s ← (subject arguments : Except Failure _)
    (reckon Value.mul .unmultipliable s value : Except Failure _)
  | .uppercase, arguments => do
    match ← (subject arguments : Except Failure _) with
    | .text s => return .text (String.ofList (upper s.toList))
    | s => throw (.noMember s.kindName "upper")
  | .negate, arguments => do
    let s ← (subject arguments : Except Failure _)
    return .data (.bool !s.isTruthy)
  | .claimTokens values, arguments => do
    match ← (argument "token" arguments : Except Failure _) with
    | .token token =>
      match values.lookup token.name with
      | some value => return .data value
      | none => (subject arguments : Except Failure _)
    | _ => throw (.noMember "NoneType" "name")
  | .describe, arguments => do
    let s ← (subject arguments : Except Failure _)
    let parts ← describeAll arguments
    return .text ((← (s.shown : Except Failure _)) ++ "[" ++ ";".intercalate parts ++ "]")
  | .answer reply, _ => return .reply reply
  | .extend text, arguments => do
    match ← (subject arguments : Except Failure _) with
    | .reply (.refused r) =>
      return .reply (.refused (.ofMessage (r.notice.content ++ text) r.notice.title))
    | s => throw (.noMember s.kindName "error")
  | .fail message, _ => throw (.raised message)
  | .fill id raw, arguments => do
    let _ ← form "get_element_by_id" arguments
    fillIn id raw
    (subject arguments : Except Failure _)
  | .onForm id action, arguments => do
    let f ← form "id" arguments
    if id.asWhole? = some f.id then perform action arguments
    else (subject arguments : Except Failure _)
  | .note label, arguments => do
    let s ← (subject arguments : Except Failure _)
    if (arguments.lookup "form").isSome then
      let f ← form "entry_id" arguments
      Work.note ⟨label, seen s, some f.entryId⟩
    else Work.note ⟨label, seen s, none⟩
    return s

end Action

/-- An action as an implementation. -/
def Implementation.ofAction (action : Action) (arguments : List String) (mode : Mode) :
    Implementation :=
  { arguments, mode, body := action.perform }

end FormIntake
