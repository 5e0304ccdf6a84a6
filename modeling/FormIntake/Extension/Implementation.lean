import FormIntake.Extension.Subject
import FormIntake.Form.Desk
import FormIntake.Template.Token

/-! # Implementations of hooks

An implementation declares the names of the arguments that it wants, is given these and no others,
and gives the subject that the next one goes on with.  Its mode says where in the chain it stands.
-/

namespace FormIntake

/-- Something that a hook hands over beside its subject, or the subject itself. -/
inductive Argument where
  | given (subject : Subject)
  /-- The form on the desk. -/
  | form
  | token (token : Template.Token)
  /-- An element of the form by its id. -/
  | element (id : Int)

abbrev Arguments := List (String × Argument)

/-- Where an implementation stands among those of its hook. -/
inductive Mode where
  | plain
  | first
  | last
  | wrapper
  deriving DecidableEq, Repr

structure Implementation where
  arguments : List String
  mode : Mode := .plain
  body : Arguments → Work Subject

namespace Implementation

/-- The arguments of some names, or the first name that is not there. -/
def select (available : Arguments) : List String → Except Failure Arguments
  | [] => .ok []
  | name :: names =>
    match available.lookup name with
    | some argument => (select available names).map ((name, argument) :: ·)
    | none => .error (.missingArgument name)

/-- What the implementation makes of the arguments that it has asked for; a wrapper only gets
started. -/
def call (implementation : Implementation) (available : Arguments) : Work Subject := do
  let arguments ← (select available implementation.arguments : Except Failure _)
  if implementation.mode = .wrapper then return .suspended
  implementation.body arguments

end Implementation
end FormIntake
