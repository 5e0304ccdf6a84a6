import FormIntake.Schema.Checked
import FormIntake.Number.Integer
import FormIntake.Text.Quoted

/-! # Failures

What can go wrong other than a submission that is turned away: faults of a definition, of an
extension, of a call, or of the store.  A failure is its cause; `Failure.kindName` is the name of
its kind and `Failure.message` its wording, as they appear in reports and in the log.
-/

namespace FormIntake

open Number Text

/-- The stage of reading a document at which its text is faulty. -/
inductive DocumentStage where
  | characters
  | tokens
  | grammar
  | anchors
  | values
  deriving DecidableEq, Repr

inductive Failure where
  /-- A form that has two elements with one id. -/
  | repeatedElement (id form : Int)
  | missingPattern
  | unreadablePattern
  | oversizedPattern
  /-- A pattern that is to keep to ASCII and not to keep to it. -/
  | mixedAlphabets
  | unknownValidator (type : String) (known : List String)
  /-- A limit that is neither a number nor a text. -/
  | notALimit (kind : String)
  | infiniteLimit
  | undefinedLimit
  | notWhole (text : List Char)
  | tooManyDigits (count : Nat)
  /-- A whole number that is too long to be written out. -/
  | unwritableNumber
  | unknownHook (name : String)
  | wrappers (hooks : List String)
  /-- An implementation that asks for arguments its hook does not have. -/
  | unfitImplementation
  | registeredTwice
  | notRegistered
  | missingArgument (name : String)
  /-- An argument that is given twice. -/
  | repeatedArgument (name : String)
  /-- A stage hook that ends on something else than a result. -/
  | noResult (hook kind : String)
  | raised (message : String)
  | unaddable (left right : String)
  | unjoinable (left right : String)
  | unmultipliable (left right : String)
  | unrepeatable (kind : String)
  | noMember (kind member : String)
  | incomparable (left right : String)
  /-- A name that is none of the choices of an enumeration. -/
  | unknownChoice (literal : List Char) (enumeration : String)
  | refusedDelivery (name : String)
  | outsideCalendar
  | negativeAdvance (shown : String)
  | unreadableTime (text : String)
  | oversizedNumber
  | oversizedFloat
  | noSubmitter
  /-- A row that breaks a rule of its table. -/
  | brokenConstraint
  | unknownColumn
  | existingTable
  | missingTable
  | unstorable
  | missingFile (what path : String)
  | notAMapping (kind path : String)
  | nonTextKey
  | unreadableDocument (stage : DocumentStage)
  /-- A number in a document that is no character. -/
  | noCharacter
  /-- A day or a time in a document that does not exist. -/
  | noSuchTime (reason : String)
  | notANumber (text : List Char)
  /-- A number in a document without any digit. -/
  | emptyNumber
  /-- A word in a document that is no truth value. -/
  | notATruthValue (word : String)
  /-- A document that contains itself. -/
  | endlessDocument
  /-- A recursion that has gone too deep for the stack. -/
  | stackOverflow
  /-- A path from the home of somebody who has none. -/
  | unknownHome
  | repeatedKey
  | undecodableFile
  | unreadableFile
  | invalid (issues : List Schema.Issue)
  deriving Repr

namespace Failure

/-- The name of the failure's kind. -/
def kindName : Failure → String
  | .repeatedElement .. | .missingPattern => "FormConfigurationError"
  | .unreadablePattern => "error"
  | .unknownValidator .. => "UnknownValidatorError"
  | .unknownHook .. => "HookError"
  | .wrappers .. | .unfitImplementation => "PluginValidationError"
  | .notRegistered => "AssertionError"
  | .missingArgument .. => "KeyError"
  | .raised .. | .unknownHome => "RuntimeError"
  | .noMember .. => "AttributeError"
  | .notALimit .. | .noResult .. | .unaddable .. | .unjoinable .. | .unmultipliable ..
  | .unrepeatable .. | .incomparable .. | .nonTextKey | .repeatedArgument .. => "TypeError"
  | .oversizedPattern | .infiniteLimit | .outsideCalendar | .oversizedNumber
  | .oversizedFloat => "OverflowError"
  | .undefinedLimit | .notWhole .. | .tooManyDigits .. | .unwritableNumber | .mixedAlphabets
  | .registeredTwice | .unknownChoice .. | .negativeAdvance .. | .unreadableTime .. | .noSubmitter | .notAMapping .. | .noCharacter
  | .noSuchTime .. | .notANumber .. => "ValueError"
  | .notATruthValue .. => "KeyError"
  | .emptyNumber => "IndexError"
  | .endlessDocument | .stackOverflow => "RecursionError"
  | .repeatedKey => "DuplicateKeyError"
  | .refusedDelivery .. => "ConnectionError"
  | .brokenConstraint => "IntegrityError"
  | .unknownColumn => "CompileError"
  | .existingTable => "OperationalError"
  | .missingTable => "NoSuchTableError"
  | .unstorable => "StatementError"
  | .missingFile .. => "FileNotFoundError"
  | .unreadableDocument .characters => "ReaderError"
  | .unreadableDocument .tokens => "ScannerError"
  | .unreadableDocument .grammar => "ParserError"
  | .unreadableDocument .anchors => "ComposerError"
  | .unreadableDocument .values => "ConstructorError"
  | .undecodableFile => "UnicodeDecodeError"
  | .unreadableFile => "IsADirectoryError"
  | .invalid .. => "ValidationError"

/-- Texts as a list is shown. -/
def shownNames (names : List String) : String :=
  "[" ++ ", ".intercalate (names.map fun n => String.ofList (quoted n.toList)) ++ "]"

def numberText (n : Int) : String := String.ofList (wholeText n)

/-- The failure in words. -/
def message : Failure → String
  | .repeatedElement id form =>
    "Duplicate element id " ++ numberText id ++ " in form " ++ numberText form
  | .missingPattern => "The regex validator needs a 'pattern' option"
  | .unreadablePattern => "bad pattern"
  | .oversizedPattern => "the repetition number is too large"
  | .mixedAlphabets => "ASCII and UNICODE flags are incompatible"
  | .unknownValidator type known =>
    "Unknown validator type '" ++ type ++ "'. Available: " ++ shownNames known
  | .notALimit kind =>
    "int() argument must be a string, a bytes-like object or a real number, not '" ++ kind ++ "'"
  | .infiniteLimit => "cannot convert float infinity to integer"
  | .undefinedLimit => "cannot convert float NaN to integer"
  | .notWhole text => "invalid literal for int() with base 10: " ++ String.ofList (quoted text)
  | .tooManyDigits count =>
    lengthLimit ++ ": value has " ++ numberText count ++
      " digits; use sys.set_int_max_str_digits() to increase the limit"
  | .unwritableNumber => writingLimit
  | .unknownHook name =>
    "Unknown hook '" ++ name ++ "'. Hooks must be declared in formflow.plugins.hookspecs"
  | .wrappers hooks => "Hook wrappers are not supported: " ++ shownNames hooks
  | .unfitImplementation => "arguments are declared in the implementation but not in the hook"
  | .registeredTwice => "already registered"
  | .notRegistered => "plugin is not registered"
  | .missingArgument name => String.ofList (quoted name.toList)
  | .repeatedArgument name => "got multiple values for argument '" ++ name ++ "'"
  | .noResult hook kind =>
    "Hook '" ++ hook ++ "' must return a SubmissionResult or None, got " ++ kind
  | .raised message => message
  | .unaddable left right =>
    "unsupported operand type(s) for +: '" ++ left ++ "' and '" ++ right ++ "'"
  | .unjoinable left right => "can only concatenate " ++ left ++ " (not \"" ++ right ++ "\") to " ++ left
  | .unmultipliable left right =>
    "unsupported operand type(s) for *: '" ++ left ++ "' and '" ++ right ++ "'"
  | .unrepeatable kind => "can't multiply sequence by non-int of type '" ++ kind ++ "'"
  | .noMember kind member => "'" ++ kind ++ "' object has no attribute '" ++ member ++ "'"
  | .incomparable left right =>
    "'>=' not supported between instances of '" ++ left ++ "' and '" ++ right ++ "'"
  | .unknownChoice literal enumeration =>
    String.ofList literal ++ " is not a valid " ++ enumeration
  | .refusedDelivery name => "SMTP refused " ++ name
  | .outsideCalendar => "date value out of range"
  | .negativeAdvance shown => "Cannot advance time by negative amount: " ++ shown
  | .unreadableTime text => "Invalid isoformat string: " ++ String.ofList (quoted text.toList)
  | .oversizedNumber => "whole number too large"
  | .oversizedFloat => "whole number too large for a fraction"
  | .noSubmitter => "entry_exists() requires created_by or ip"
  | .brokenConstraint => "constraint failed"
  | .unknownColumn => "Unconsumed column names"
  | .existingTable => "table already exists"
  | .missingTable => "no such table"
  | .unstorable => "value cannot be stored"
  | .missingFile what path => what ++ " not found: " ++ path
  | .notAMapping kind path => "Form definition must be a mapping, got " ++ kind ++ ": " ++ path
  | .nonTextKey => "keywords must be strings"
  | .unreadableDocument _ => "document cannot be read"
  | .noCharacter => "chr() arg not in range(0x110000)"
  | .noSuchTime reason => reason
  | .notANumber text => "could not convert string to float: " ++ String.ofList (quoted text)
  | .notATruthValue word => String.ofList (quoted word.toList)
  | .emptyNumber => "string index out of range"
  | .endlessDocument | .stackOverflow => "maximum recursion depth exceeded"
  | .unknownHome => "Could not determine home directory."
  | .repeatedKey => "found duplicate key"
  | .undecodableFile => "file cannot be decoded"
  | .unreadableFile => "file cannot be read"
  | .invalid issues => "\n".intercalate (issues.map Schema.Issue.line)

/-- Why a text is no whole number, as a failure. -/
def ofIntegerFault (text : List Char) : IntegerFault → Failure
  | .notWhole => .notWhole text
  | .tooLong digits => .tooManyDigits digits

/-- A checked value, its issues as a failure. -/
def ofChecked {α : Type} : Schema.Checked α → Except Failure α
  | .valid a => .ok a
  | .invalid issues => .error (.invalid issues)

end Failure
end FormIntake
