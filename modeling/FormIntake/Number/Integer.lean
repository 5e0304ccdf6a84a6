import FormIntake.Text.Blank
import FormIntake.Text.Digit
import FormIntake.Number.Natural

/-! # Reading whole numbers from text

A whole number may have blanks around it, one sign, decimal digits of any script, and single
underscores between digits.  Numbers of more than `maxDigits` digits are neither read nor written.
-/

namespace FormIntake.Number

open FormIntake.Text

/-- The digit values of a run of digits in which single underscores may stand between digits. -/
def readDigitRun : List Char → Option (List Nat)
  | [] => none
  | [c] => (digitValue? c).map ([·])
  | c :: '_' :: rest => do
    let d ← digitValue? c
    let ds ← readDigitRun rest
    return d :: ds
  | c :: rest => do
    let d ← digitValue? c
    let ds ← readDigitRun rest
    return d :: ds

/-- A sign in front of a text and the text after it. -/
def splitSign : List Char → Bool × List Char
  | '-' :: rest => (true, rest)
  | '+' :: rest => (false, rest)
  | text => (false, text)

/-- The number with a sign. -/
def signed (negative : Bool) (n : Nat) : Int := if negative then -(n : Int) else n

/-- The longest whole number that is read, in digits. -/
def maxDigits : Nat := 4300

/-- Whether a whole number is short enough to be written out. -/
def isWritable (n : Int) : Bool := (decimal n.natAbs).length ≤ maxDigits

/-- What is said of numbers that are too long. -/
def lengthLimit : String :=
  "Exceeds the limit (" ++ String.ofList (decimal maxDigits) ++ " digits) for integer string conversion"

/-- What is said of a number that is too long to be written out. -/
def writingLimit : String := lengthLimit ++ "; use sys.set_int_max_str_digits() to increase the limit"

/-- Why a text is no whole number. -/
inductive IntegerFault where
  | notWhole
  | tooLong (digits : Nat)
  deriving DecidableEq, Repr

/-- The digits that a text begins with, and what stands between them. -/
def digitHead (text : List Char) : List Char := text.takeWhile fun c => isDecimal c || c = '_'

/-- The whole number that a text stands for.  Digits are counted before what follows them is looked
at. -/
def readInteger (text : List Char) : Except IntegerFault Int :=
  let (negative, body) := splitSign (unpadded text)
  match readDigitRun (digitHead body) with
  | none => .error .notWhole
  | some values =>
    if maxDigits < values.length then .error (.tooLong values.length)
    else if digitHead body = body then .ok (signed negative (ofDigits 10 values))
    else .error .notWhole

/-- The whole number that a text stands for, if it is one. -/
def readInteger? (text : List Char) : Option Int := (readInteger text).toOption

end FormIntake.Number
