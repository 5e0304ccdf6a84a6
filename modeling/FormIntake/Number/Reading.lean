import FormIntake.Number.Binary64
import FormIntake.Number.Integer

/-! # Reading floating-point numbers from text

A number may have blanks around it and a sign; it is an infinity, the undefined number, or decimal
digits of any script with an optional point and exponent, where single underscores may stand
between digits.
-/

namespace FormIntake.Number

open FormIntake.Text

/-- The text with every digit written in ASCII. -/
def asciiDigits (text : List Char) : List Char :=
  text.map fun c =>
    match digitValue? c with
    | some d => Nat.digitChar d
    | none => c

/-- The text without underscores that stand between two digits; `none` when one stands
elsewhere. -/
def dropUnderscores : (afterDigit : Bool) → List Char → Option (List Char)
  | _, [] => some []
  | afterDigit, '_' :: d :: rest =>
    if afterDigit && isAsciiDigit d then (dropUnderscores true rest).map (d :: ·) else none
  | _, c :: rest =>
    if c = '_' then none else (dropUnderscores (isAsciiDigit c) rest).map (c :: ·)

/-- ASCII letters in lower case. -/
def lowerAscii (text : List Char) : List Char := text.map Char.toLower

/-- The exponent part after its mark: a sign and digits, nothing after them. -/
def readExponent (text : List Char) : Option Int :=
  let (negative, digits) := splitSign text
  if digits.isEmpty || !digits.all isAsciiDigit then none
  else some (signed negative (ofDigits 10 (digits.map fun c => c.toNat - 48)))

/-- Digits with an optional point and exponent, as a decimal `digits · 10 ^ exponent`. -/
def readDecimal (text : List Char) : Option (Nat × Int) :=
  let whole := text.takeWhile isAsciiDigit
  let rest := text.dropWhile isAsciiDigit
  let (fraction, rest) :=
    match rest with
    | '.' :: after => (after.takeWhile isAsciiDigit, after.dropWhile isAsciiDigit)
    | _ => ([], rest)
  if whole.isEmpty && fraction.isEmpty then none
  else
    let digits := ofDigits 10 ((whole ++ fraction).map fun c => c.toNat - 48)
    let places : Int := fraction.length
    match rest with
    | [] => some (digits, -places)
    | mark :: after =>
      if mark = 'e' || mark = 'E' then (readExponent after).map fun e => (digits, e - places)
      else none

/-- The floating-point number that a text stands for, if it is one. -/
def readBinary64? (text : List Char) : Option Binary64 :=
  match dropUnderscores false (asciiDigits (unpadded text)) with
  | none => none
  | some body =>
    let (negative, body) := splitSign body
    let word := lowerAscii body
    if word = "inf".toList || word = "infinity".toList then some (.infinite negative)
    else if word = "nan".toList then some .nan
    else (readDecimal body).map fun (digits, e) => Binary64.ofDecimal negative digits e

end FormIntake.Number
