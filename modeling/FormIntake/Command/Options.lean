import FormIntake.Text.Split

/-! # Options of a command line

An option is given by a name after two dashes, with its value after a sign of equality or as the next
argument, or by a letter after one dash; letters of switches may stand together, and a value may
follow its letter at once.  After two dashes alone nothing is an option.
-/

namespace FormIntake.Command

open Text

/-- An option that a command knows. -/
structure Known (κ : Type) where
  key : κ
  name : String
  letter : Option Char := none
  takesValue : Bool := false

/-- What was given: options in order, switches with an empty value, and other arguments. -/
structure Given (κ : Type) where
  options : List (κ × String) := []
  others : List String := []

namespace Given

variable {κ : Type} [DecidableEq κ]

def has (g : Given κ) (key : κ) : Bool := g.options.any fun o => o.1 = key

/-- The value that was given last. -/
def value? (g : Given κ) (key : κ) : Option String := g.options.reverse.lookup key

end Given

/-- Options that an argument gives, and whether the next argument is the value of the last one. -/
abbrev Reading (κ : Type) := Option (List (κ × String) × Bool)

variable {κ : Type}

/-- An option with its value, which may be the next argument. -/
def withNext (option : Known κ) (next : Option String) : Reading κ :=
  next.map fun value => ([(option.key, value)], true)

/-- The letters after one dash. -/
def readLetters (known : List (Known κ)) (next : Option String) : List Char → Reading κ
  | [] => some ([], false)
  | c :: rest =>
    match known.find? fun o => o.letter = some c with
    | none => none
    | some option =>
      if !option.takesValue then
        (readLetters known next rest).map fun (more, used) => ((option.key, "") :: more, used)
      else if rest.isEmpty then withNext option next
      else some ([(option.key, String.ofList rest)], false)

/-- An argument that starts with a dash. -/
def readOption (known : List (Known κ)) (next : Option String) (arg : List Char) : Reading κ :=
  let (name, value) := splitFirst '=' arg
  match known.find? fun o => o.name = String.ofList name, value with
  | some option, some value =>
    if option.takesValue then some ([(option.key, String.ofList value)], false) else none
  | some option, none =>
    if option.takesValue then withNext option next else some ([(option.key, "")], false)
  | none, _ => if arg.take 2 = ['-', '-'] then none else readLetters known next (arg.drop 1)

/-- What arguments give, or nothing if they cannot be read.  Unless `mixed`, the first argument that
is no option ends the options. -/
def readArguments (known : List (Known κ)) (mixed : Bool) : List String → Option (Given κ)
  | [] => some {}
  | arg :: rest =>
    let chars := arg.toList
    if arg = "--" then some { others := rest }
    else if chars.head? = some '-' && 1 < chars.length then
      match readOption known rest.head? chars, rest with
      | none, _ => none
      | some (options, true), _ :: more =>
        (readArguments known mixed more).map fun g => { g with options := options ++ g.options }
      | some (options, _), rest =>
        (readArguments known mixed rest).map fun g => { g with options := options ++ g.options }
    else if mixed then
      (readArguments known mixed rest).map fun g => { g with others := arg :: g.others }
    else some { others := arg :: rest }

end FormIntake.Command
