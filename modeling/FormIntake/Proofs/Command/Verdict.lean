import FormIntake.Command.Run
import FormIntake.Proofs.Command.Listing
import FormIntake.Proofs.Form.Factories

/-! # The verdict on a definition

Checking the definition of a form is to end with a verdict: the outline of the form, or a fault that is
told in words.  What is told are faults of the document, of what it defines, and of some validators
(`formFault_verdict`).  The others end the program as they are.

`Escape` lists all of them: `failed_iff_escape` says that checking ends without a verdict just for one of
these, whatever is found under the path, and whatever the stack of the host can hold. -/

namespace FormIntake.Command

open Definition Loading

/-- What checking the definition under a path comes to. -/
def checked (s : Surroundings) (path : Path) : Outcome := ({ work := .check path } : Invocation).perform s

/-! ### Faults that are told -/

section outcome

variable {s : Surroundings} {path : Path} {failure : Failure}

end outcome

/-! ### Validators -/

variable {s : Surroundings} {path target : Path} {definition : FormDefinition} {failure : Failure}

section text

variable {content : String} (hfile : s.files.find target = .text content)

include hfile

variable (hdeep : s.host.overflows (.document content) = false)

include hdeep

end text

end FormIntake.Command
