import FormIntake.Form.Validator
import FormIntake.Mail.Address
import FormIntake.Pattern.Reader
import FormIntake.Pattern.Match

/-! # Standard validators

The validators that every registry starts with: mail addresses, lengths, patterns and digits.
-/

namespace FormIntake

open Text Number

/-- Whether an option is given and switched on. -/
def Options.isOn (options : Options) (name : String) : Bool :=
  (options.lookup name).any Value.isTruthy

/-- A limit: a number, of which the whole part counts, or a text that stands for a whole number. -/
def readLimit : Value → Except Failure Int
  | .int n => .ok n
  | .bool b => .ok (if b then 1 else 0)
  | .float x =>
    match x.truncate?, x with
    | some n, _ => .ok n
    | none, .nan => .error .undefinedLimit
    | none, _ => .error .infiniteLimit
  | .text s => (readInteger s.toList).mapError (Failure.ofIntegerFault s.toList)
  | v => .error (.notALimit v.kindName)

/-- A text that is a mail address. -/
def emailValidator : Factory := fun _ message =>
  .ok (.ofTest (messageOr message "Invalid email address") fun value => Mail.isAddress value.joined)

/-- A text of at least and, if there is a limit, at most so many characters. -/
def withinLimits (message : Option String) (least : Int) (most : Option Int) : Validator := fun value =>
  let length : Int := value.joined.length
  if length < least then some <$> limitMessage message "at least" least
  else match most with
    | some limit =>
      if limit < length then some <$> limitMessage message "no more than" limit else .ok none
    | none => .ok none

/-- A text of a length between limits; the least length is zero unless another one is given. -/
def lengthValidator : Factory := fun options message => do
  let least ← readLimit ((options.lookup "min").getD (.int 0))
  let most ← match options.lookup "max" with
    | none => pure none
    | some .null => pure none
    | some v => some <$> readLimit v
  return withinLimits message least most

/-- A text in which a pattern occurs, or with `invert` one in which it does not. -/
def patternValidator (support : Pattern.Support) : Factory := fun options message =>
  match options.lookup "pattern" with
  | none => .error .missingPattern
  | some source =>
    if !source.isWritable then .error .unwritableNumber
    else match Pattern.read support source.shown.toList with
    | .error .countTooLarge => .error .oversizedPattern
    | .error .tooDeep => .error .stackOverflow
    | .error .mixedAlphabets => .error .mixedAlphabets
    | .error _ => .error .unreadablePattern
    | .ok pattern =>
      .ok (.ofTest (messageOr message "Invalid value") fun value =>
        pattern.occursIn value.joined != options.isOn "invert")

/-- A text of digits, with `allow_whitespace` also with blanks among them. -/
def digitsValidator : Factory := fun options message =>
  .ok (.ofTest (messageOr message "Only digits are allowed") fun value =>
    let text := if options.isOn "allow_whitespace" then value.joined.filter (!isBlank ·)
      else value.joined
    !text.isEmpty && text.all isDigitLike)

/-- The validators that every registry starts with, on a machine with some support of patterns. -/
def Registry.standardOn (support : Pattern.Support) : Registry :=
  [("email", emailValidator), ("length", lengthValidator), ("regex", patternValidator support),
   ("digits", digitsValidator)]

/-- The validators that every registry starts with, where the stack is large enough and characters have no
names. -/
def Registry.standard : Registry := .standardOn {}

theorem Registry.names_standardOn (support : Pattern.Support) :
    (standardOn support).names = standard.names := by
  simp only [names, standard, standardOn, List.map_cons, List.map_nil]

end FormIntake
