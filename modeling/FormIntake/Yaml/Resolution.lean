import FormIntake.Yaml.Time
import FormIntake.Number.Reading
import FormIntake.Text.Ranges
import FormIntake.Text.Split

/-! # What plain texts stand for

A text without quotes stands for nothing, a truth value, a number or a time when it has the form of
one, and for itself otherwise.  The two editions of the language differ in these forms: the first
has more words for truth values, octal numbers that start with a zero, and numbers to base sixty.
-/

namespace FormIntake.Yaml

open Number Text

inductive Edition where
  /-- Edition 1.1. -/
  | one
  /-- Edition 1.2. -/
  | two
  deriving DecidableEq, Repr

/-- What a text without parts stands for. -/
inductive Kind where
  | null
  | bool
  | int
  | float
  | text
  | time
  /-- The key under which a mapping takes in others. -/
  | merge
  /-- The key of a mapping's own value. -/
  | ownValue
  deriving DecidableEq, Repr

/-! ### Words -/

def nullWords : List String := ["", "~", "null", "Null", "NULL"]

/-- The words of the truth values in lower case. -/
def truthWords : Edition → List (String × Bool)
  | .one => [("yes", true), ("no", false), ("on", true), ("off", false), ("true", true), ("false", false)]
  | .two => [("true", true), ("false", false)]

/-- A word in lower case, in upper case, and with one capital. -/
def casings (word : String) : List String := [word, word.toUpper, word.capitalize]

def isTruthWord (e : Edition) (text : String) : Bool :=
  (truthWords e).any fun w => (casings w.1).contains text

/-! ### Numbers -/

def isDigitOrJoin (c : Char) : Bool := isAsciiDigit c || c = '_'

/-- A run of characters that all pass a test. -/
def isRun (test : Char → Bool) (text : List Char) : Bool := !text.isEmpty && text.all test

/-- A sign in front of a text, and the text after it. -/
def takeSign : List Char → Option Bool × List Char
  | '-' :: rest => (some true, rest)
  | '+' :: rest => (some false, rest)
  | text => (none, text)

/-- A whole number as it is written. -/
inductive Numeral where
  | based (base : Nat) (digits : List Char)
  | sixties (parts : List (List Char))
  deriving DecidableEq, Repr

/-- One place of a number to base sixty. -/
def isSixty : List Char → Bool
  | [d] => isAsciiDigit d
  | [a, b] => '0' ≤ a && a ≤ '5' && isAsciiDigit b
  | _ => false

def isOctal (c : Char) : Bool := ('0' ≤ c && c ≤ '7') || c = '_'

/-- A number to a base that is written in front of its digits. -/
def basedNumeral? : List Char → Option Numeral
  | '0' :: 'b' :: digits =>
    if isRun (fun c => c = '0' || c = '1' || c = '_') digits then some (.based 2 digits) else none
  | '0' :: 'x' :: digits =>
    if isRun (fun c => isHexDigit c || c = '_') digits then some (.based 16 digits) else none
  | _ => none

/-- A whole number without its sign. -/
def numeral? (e : Edition) (body : List Char) : Option Numeral :=
  basedNumeral? body <|>
  match e with
  | .one =>
    match body with
    | ['0'] => some (.based 10 ['0'])
    | '0' :: digits => if isRun isOctal digits then some (.based 8 digits) else none
    | d :: _ =>
      match splitOn ':' body with
      | [digits] => if isAsciiDigit d && digits.all isDigitOrJoin then some (.based 10 digits) else none
      | first :: parts =>
        if isAsciiDigit d && first.all isDigitOrJoin && parts.all isSixty then
          some (.sixties (first :: parts))
        else none
      | [] => none
    | [] => none
  | .two =>
    match body with
    | '0' :: 'o' :: digits => if isRun isOctal digits then some (.based 8 digits) else none
    | _ => if isRun isDigitOrJoin body then some (.based 10 body) else none

def withoutJoins (text : List Char) : List Char := text.filter (· ≠ '_')

def Numeral.value (n : Numeral) : Except Failure Nat :=
  match n with
  | .based base digits =>
    let digits := withoutJoins digits
    if digits.isEmpty then .error (.notWhole [])
    else if base = 10 && maxDigits < digits.length then .error (.tooManyDigits digits.length)
    else .ok (ofDigits base (digits.map hexValue))
  | .sixties parts =>
    .ok (ofDigits 60 (parts.map fun p => ofDigits 10 ((withoutJoins p).map hexValue)))

/-- An exponent, or nothing; its sign may have to be written. -/
def isExponent (needsSign : Bool) : List Char → Bool
  | [] => true
  | mark :: rest =>
    let (sign, digits) := takeSign rest
    (mark = 'e' || mark = 'E') && (sign.isSome || !needsSign) && isRun isAsciiDigit digits

/-- Whether a text without its sign has the form of a decimal fraction. -/
def isFraction (e : Edition) (signed : Bool) (body : List Char) : Bool :=
  let after := body.dropWhile isDigitOrJoin
  match body with
  | [] => false
  | '.' :: rest =>
    let starts := match e with
      | .one => !signed && rest.head?.any isAsciiDigit
      | .two => rest.head?.any isDigitOrJoin
    starts && isExponent true (rest.dropWhile isDigitOrJoin)
  | d :: _ =>
    isAsciiDigit d &&
      match after with
      | '.' :: rest => isExponent (e = .one) (rest.dropWhile isDigitOrJoin)
      | _ => e = .two && !after.isEmpty && isExponent false after

/-- The places of a number to base sixty with a fraction. -/
def sixtyFraction? (body : List Char) : Option (List (List Char)) :=
  match splitOn ':' body with
  | first :: next :: more =>
    let parts := next :: more
    let last := parts.getLastD []
    let whole := last.takeWhile (· ≠ '.')
    let fraction := last.dropWhile (· ≠ '.')
    if first.head?.any isAsciiDigit && first.all isDigitOrJoin && parts.dropLast.all isSixty &&
        isSixty whole && !fraction.isEmpty && (fraction.drop 1).all isDigitOrJoin then
      some (first :: parts)
    else none
  | _ => none

def infinityWords : List String := [".inf", ".Inf", ".INF"]
def undefinedWords : List String := [".nan", ".NaN", ".NAN"]

/-- Whether a text has the form of a floating-point number. -/
def isFloat (e : Edition) (text : List Char) : Bool :=
  let (sign, body) := takeSign text
  infinityWords.contains (String.ofList body) || undefinedWords.contains (String.ofList text) ||
    isFraction e sign.isSome body || (e = .one && (sixtyFraction? body).isSome)

/-- The sum of places to base sixty. -/
def sixtySum (parts : List (List Char)) : Option Binary64 :=
  let rec go (base : Nat) : List (List Char) → Option Binary64
    | [] => some (.zero false)
    | p :: rest => do
      let x ← readBinary64? p
      let more ← go (base * 60) rest
      return (x.mul (.ofInt base)).add more
  go 1 parts.reverse

/-- The floating-point number that a text stands for. -/
def readFloat (text : List Char) : Except Failure Binary64 :=
  let text := lowerAscii (withoutJoins text)
  let (sign, body) := takeSign text
  let size :=
    if body = ".inf".toList then some (.infinite false)
    else if body = ".nan".toList then some .nan
    else if body.contains ':' then sixtySum (splitOn ':' body)
    else readBinary64? body
  match size with
  | some x => .ok (if sign = some true then x.mul (.ofInt (-1)) else x)
  | none => .error (if text.isEmpty then .emptyNumber else .notANumber body)

/-- The whole number that a text stands for. -/
def readInt (e : Edition) (text : List Char) : Except Failure Int :=
  let (sign, body) := takeSign text
  match numeral? e body with
  | some n => n.value.map fun (n : Nat) => if sign = some true then -(n : Int) else n
  | none =>
    let digits := withoutJoins body
    .error (if digits.isEmpty then .emptyNumber else .notWhole digits)

/-! ### Forms -/

/-- What a plain text stands for. -/
def kindOf (e : Edition) (text : String) : Kind :=
  let chars := text.toList
  if isTruthWord e text then .bool
  else if isFloat e chars then .float
  else if chars.head?.any (fun c => isAsciiDigit c || c = '-' || c = '+') &&
      (numeral? e (takeSign chars).2).isSome then .int
  else if text = "<<" then .merge
  else if nullWords.contains text then .null
  else if (Time.read? chars).isSome then .time
  else if text = "=" then .ownValue
  else .text

/-- The value of a text of a kind. -/
def scalarOf (e : Edition) (text : String) : Kind → Except Failure Scalar
  | .null => .ok .null
  | .bool =>
    match (truthWords .one).lookup text.toLower with
    | some b => .ok (.bool b)
    | none => .error (.notATruthValue text.toLower)
  | .int => (readInt e text.toList).map .int
  | .float => (readFloat text.toList).map .float
  | .text => .ok (.text text)
  | .time =>
    match Time.read? text.toList with
    | some t => t.toScalar
    | none => .error (.noMember "NoneType" "groupdict")
  | .merge | .ownValue => .error (.unreadableDocument .values)

end FormIntake.Yaml
