import FormIntake.Value.Basic
import FormIntake.Text.Ranges
import FormIntake.Text.Digit
import FormIntake.Text.Units
import FormIntake.Number.Natural

/-! # Reading JSON

`parse` reads one JSON value.  Beside the standard it knows the numbers `NaN`, `Infinity` and
`-Infinity`.  A repeated key keeps its first place and takes its last value.  Every failure has a
cause, a `Fault`, whose text is `Fault.message`.
-/

namespace FormIntake.Json

open Number Text

/-- Why a text is no JSON. -/
inductive Fault where
  | expectingValue
  | expectingName
  | expectingColon
  | expectingComma
  | extraData
  | unterminatedText
  | controlCharacter
  | badEscape
  | badHexEscape
  | byteOrderMark
  deriving DecidableEq, Repr

def Fault.message : Fault → String
  | .expectingValue => "Expecting value"
  | .expectingName => "Expecting property name enclosed in double quotes"
  | .expectingColon => "Expecting ':' delimiter"
  | .expectingComma => "Expecting ',' delimiter"
  | .extraData => "Extra data"
  | .unterminatedText => "Unterminated string starting at"
  | .controlCharacter => "Invalid control character at"
  | .badEscape => "Invalid \\escape"
  | .badHexEscape => "Invalid \\uXXXX escape"
  | .byteOrderMark => "Unexpected UTF-8 BOM (decode using utf-8-sig)"

/-- The characters between tokens. -/
def isSpace (c : Char) : Bool := c = ' ' || c = '\t' || c = '\n' || c = '\r'

/-- The text without spaces in front. -/
def skipSpace (text : List Char) : List Char := text.dropWhile isSpace

/-- The character that a one-letter escape stands for. -/
def escaped? : Char → Option Char
  | '"' => some '"'
  | '\\' => some '\\'
  | '/' => some '/'
  | 'b' => some '\x08'
  | 'f' => some '\x0c'
  | 'n' => some '\n'
  | 'r' => some '\r'
  | 't' => some '\t'
  | _ => none

/-- A text after its opening quote: its code units and what follows the closing quote. -/
def readUnits : List Char → Except Fault (List Nat × List Char)
  | [] => .error .unterminatedText
  | '"' :: rest => .ok ([], rest)
  | ['\\'] => .error .unterminatedText
  | '\\' :: 'u' :: a :: b :: c :: d :: rest =>
    if [a, b, c, d].all isHexDigit && !rest.isEmpty then
      (readUnits rest).map fun (units, after) => (readHex [a, b, c, d] :: units, after)
    else .error .badHexEscape
  | '\\' :: 'u' :: _ => .error .badHexEscape
  | '\\' :: c :: rest =>
    match escaped? c with
    | some x => (readUnits rest).map fun (units, after) => (x.toNat :: units, after)
    | none => .error .badEscape
  | c :: rest =>
    if c.toNat < 0x20 then .error .controlCharacter
    else (readUnits rest).map fun (units, after) => (c.toNat :: units, after)

/-- A text after its opening quote and what follows the closing quote. -/
def readText (text : List Char) : Except Fault (String × List Char) :=
  (readUnits text).map fun (units, after) => (String.ofList (joinUnits units), after)

/-- Digits in front of a text and what follows them. -/
def spanDigits (text : List Char) : List Char × List Char :=
  (text.takeWhile isAsciiDigit, text.dropWhile isAsciiDigit)

/-- The number that ASCII digits stand for. -/
def digitsValue (digits : List Char) : Nat := ofDigits 10 (digits.map fun c => c.toNat - 48)

/-- The whole part of a number: one zero, or digits that do not start with one. -/
def readWhole : List Char → Option (List Char × List Char)
  | '0' :: rest => some (['0'], rest)
  | text =>
    let (digits, rest) := spanDigits text
    if digits.isEmpty then none else some (digits, rest)

/-- The fraction after a whole part, if there is one. -/
def readFraction : List Char → List Char × List Char
  | '.' :: rest =>
    let (digits, after) := spanDigits rest
    if digits.isEmpty then ([], '.' :: rest) else (digits, after)
  | text => ([], text)

/-- The exponent after a number, if there is one. -/
def readExponentPart : List Char → Option Int × List Char
  | [] => (none, [])
  | mark :: rest =>
    if mark = 'e' || mark = 'E' then
      let (negative, body) :=
        match rest with
        | '-' :: r => (true, r)
        | '+' :: r => (false, r)
        | r => (false, r)
      let (digits, after) := spanDigits body
      if digits.isEmpty then (none, mark :: rest)
      else
        let n : Int := digitsValue digits
        (some (if negative then -n else n), after)
    else (none, mark :: rest)

/-- A number without its sign: whole without fraction and exponent, floating point otherwise. -/
def readNumber (negative : Bool) (text : List Char) : Option (Value × List Char) :=
  (readWhole text).map fun (whole, rest) =>
    let (fraction, rest) := readFraction rest
    let (exponent, rest) := readExponentPart rest
    if fraction.isEmpty && exponent.isNone then
      let n : Int := digitsValue whole
      (.int (if negative then -n else n), rest)
    else
      let digits := digitsValue (whole ++ fraction)
      let places : Int := fraction.length
      (.float (Binary64.ofDecimal negative digits (exponent.getD 0 - places)), rest)

/-- The text after a word that it starts with. -/
def after? (word : String) (text : List Char) : Option (List Char) :=
  if word.toList.isPrefixOf text then some (text.drop word.length) else none

/-- A value written as a word. -/
def readWord (text : List Char) : Option (Value × List Char) :=
  ((after? "null" text).map (.null, ·))
    <|> ((after? "true" text).map (.bool true, ·))
    <|> ((after? "false" text).map (.bool false, ·))
    <|> ((after? "NaN" text).map (.float .nan, ·))
    <|> ((after? "Infinity" text).map (.float (.infinite false), ·))
    <|> ((after? "-Infinity" text).map (.float (.infinite true), ·))

/-- A value without parts that is no text. -/
def readPlain (text : List Char) : Except Fault (Value × List Char) :=
  match readWord text with
  | some found => .ok found
  | none =>
    let number :=
      match text with
      | '-' :: rest => readNumber true rest
      | _ => readNumber false text
    match number with
    | some found => .ok found
    | none => .error .expectingValue

mutual

/-- A value and what follows it; `fuel` bounds the depth of reading. -/
def readValue : (fuel : Nat) → List Char → Except Fault (Value × List Char)
  | 0, _ => .error .expectingValue
  | _ + 1, '"' :: rest => do
    let (text, after) ← readText rest
    return (.text text, after)
  | fuel + 1, '[' :: rest =>
    match skipSpace rest with
    | ']' :: after => .ok (.list [], after)
    | text => do
      let (items, after) ← readItems fuel text
      return (.list items, after)
  | fuel + 1, '\x7b' :: rest =>
    match skipSpace rest with
    | '\x7d' :: after => .ok (.mapping [], after)
    | text => do
      let (entries, after) ← readEntries fuel text
      return (Value.ofEntries entries, after)
  | _ + 1, text => readPlain text

/-- The items of a list up to its closing bracket. -/
def readItems : (fuel : Nat) → List Char → Except Fault (List Value × List Char)
  | 0, _ => .error .expectingValue
  | fuel + 1, text => do
    let (item, rest) ← readValue fuel text
    match skipSpace rest with
    | ']' :: after => return ([item], after)
    | ',' :: more =>
      let (items, after) ← readItems fuel (skipSpace more)
      return (item :: items, after)
    | _ => throw .expectingComma

/-- The entries of an object up to its closing brace. -/
def readEntries : (fuel : Nat) → List Char → Except Fault (List (Scalar × Value) × List Char)
  | 0, _ => .error .expectingName
  | fuel + 1, '"' :: text => do
    let (name, rest) ← readText text
    match skipSpace rest with
    | ':' :: rest =>
      let (value, rest) ← readValue fuel (skipSpace rest)
      let entry := (Scalar.text name, value)
      match skipSpace rest with
      | '\x7d' :: after => return ([entry], after)
      | ',' :: more =>
        let (entries, after) ← readEntries fuel (skipSpace more)
        return (entry :: entries, after)
      | _ => throw .expectingComma
    | _ => throw .expectingColon
  | _ + 1, _ => .error .expectingName

end

/-- The value of a JSON text that may have spaces around it. -/
def parse (text : String) : Except Fault Value :=
  match text.toList with
  | '\ufeff' :: _ => .error .byteOrderMark
  | chars => do
    let (value, rest) ← readValue (2 * chars.length + 2) (skipSpace chars)
    if (skipSpace rest).isEmpty then return value else throw .extraData

end FormIntake.Json
