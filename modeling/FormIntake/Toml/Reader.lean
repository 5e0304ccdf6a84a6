import FormIntake.Value.Basic
import FormIntake.Number.Reading
import FormIntake.Calendar.Iso
import FormIntake.Text.Ranges

/-! # Values in TOML

A variable of the environment may hold a value as it stands after the sign of equality in a TOML
document: a truth value, a number, a time, a text in quotes, an array or a table in braces.
`Toml.read?` reads such a value; a text that is none is left to the caller.
-/

namespace FormIntake.Toml

open Number Text Calendar

/-- What is read from the front of a text, with the text after it. -/
abbrev Take (α : Type) := List Char → Option (α × List Char)

def isSpace (c : Char) : Bool := c = ' ' || c = '\t'

def skipSpace (text : List Char) : List Char := text.dropWhile isSpace

/-- Whether a character may stand in a text or a comment; controls may not. -/
def isPrintable (c : Char) : Bool := c = '\t' || (0x20 ≤ c.toNat && c.toNat ≠ 0x7f)

/-- The text after blanks, line breaks and comments. -/
def skipGaps : (fuel : Nat) → List Char → List Char
  | 0, text => text
  | fuel + 1, text =>
    match skipSpace text with
    | '\n' :: rest => skipGaps fuel rest
    | '\r' :: '\n' :: rest => skipGaps fuel rest
    | '#' :: rest =>
      let after := rest.dropWhile isPrintable
      if after.isEmpty || after.head? = some '\n' || after.head? = some '\r' then skipGaps fuel after
      else '#' :: rest
    | text => text

def skipAll (text : List Char) : List Char := skipGaps (text.length + 1) text

/-! ### Texts -/

/-- A character written by its number. -/
def readCode (count : Nat) (text : List Char) : Option (Char × List Char) :=
  let digits := text.take count
  let n := readHex digits
  if digits.length = count && digits.all isHexDigit && n.isValidChar then
    some (Char.ofNat n, text.drop count)
  else none

/-- An escape after its backslash. -/
def readEscape : Take Char
  | 'b' :: rest => some ('\x08', rest)
  | 't' :: rest => some ('\t', rest)
  | 'n' :: rest => some ('\n', rest)
  | 'f' :: rest => some ('\x0c', rest)
  | 'r' :: rest => some ('\r', rest)
  | '"' :: rest => some ('"', rest)
  | '\\' :: rest => some ('\\', rest)
  | 'u' :: rest => readCode 4 rest
  | 'U' :: rest => readCode 8 rest
  | _ => none

/-- A text with escapes up to its closing quote. -/
def readBasic : (fuel : Nat) → Take (List Char)
  | 0, _ => none
  | fuel + 1, text =>
    match text with
    | '"' :: rest => some ([], rest)
    | '\\' :: rest => do
      let (c, rest) ← readEscape rest
      let (more, after) ← readBasic fuel rest
      return (c :: more, after)
    | c :: rest =>
      if isPrintable c then (readBasic fuel rest).map fun (more, after) => (c :: more, after)
      else none
    | [] => none

/-- A text without escapes up to its closing quote. -/
def readLiteral : Take (List Char)
  | '\'' :: rest => some ([], rest)
  | c :: rest =>
    if isPrintable c then (readLiteral rest).map fun (more, after) => (c :: more, after) else none
  | [] => none

/-- A text of several lines up to three closing quotes, in front of which two more may stand. -/
def readLong (quote : Char) : (fuel : Nat) → Take (List Char)
  | 0, _ => none
  | fuel + 1, text =>
    let quotes := text.takeWhile (· = quote)
    if 3 ≤ quotes.length then
      let inside := min 2 (quotes.length - 3)
      some (List.replicate inside quote, text.drop (inside + 3))
    else
      match text with
      | '\\' :: rest =>
        if quote = '\'' then (readLong quote fuel rest).map fun (more, after) => ('\\' :: more, after)
        else
          match skipSpace rest with
          | '\n' :: after => readLong quote fuel (after.dropWhile fun c => isSpace c || c = '\n')
          | _ => do
            let (c, rest) ← readEscape rest
            let (more, after) ← readLong quote fuel rest
            return (c :: more, after)
      | c :: rest =>
        if isPrintable c || c = '\n' then
          (readLong quote fuel rest).map fun (more, after) => (c :: more, after)
        else none
      | [] => none

/-- A line break at the very start of a text of several lines does not count. -/
def dropFirstBreak : List Char → List Char
  | '\n' :: rest => rest
  | text => text

/-- A text in quotes of any of the four kinds. -/
def readQuoted (text : List Char) : Option (String × List Char) :=
  let found :=
    match text with
    | '"' :: '"' :: '"' :: rest => readLong '"' (rest.length + 1) (dropFirstBreak rest)
    | '\'' :: '\'' :: '\'' :: rest => readLong '\'' (rest.length + 1) (dropFirstBreak rest)
    | '"' :: rest => readBasic (rest.length + 1) rest
    | '\'' :: rest => readLiteral rest
    | _ => none
  found.map fun (chars, after) => (String.ofList chars, after)

/-! ### Words -/

def isWordChar (c : Char) : Bool := c.isAlphanum || ['+', '-', '_', '.', ':'].contains c

/-- Digits of a base with single underscores between them. -/
def readDigits (test : Char → Bool) : (afterDigit : Bool) → List Char → Option (List Char)
  | afterDigit, [] => if afterDigit then some [] else none
  | afterDigit, c :: rest =>
    if test c then (readDigits test true rest).map (c :: ·)
    else if c = '_' && afterDigit then readDigits test false rest
    else none

/-- The number that digits of a base give. -/
def digitsOf (base : Nat) (test : Char → Bool) (text : List Char) : Option Nat :=
  (readDigits test false text).map fun digits => ofDigits base (digits.map hexValue)

/-- Decimal digits that do not start with a needless zero. -/
def readWhole (text : List Char) : Option (List Char) :=
  match readDigits isAsciiDigit false text with
  | some digits => if digits.head? = some '0' && 1 < digits.length then none else some digits
  | none => none

/-- A floating-point number without its sign. -/
def readFraction (text : List Char) : Option (List Char) := do
  let isMark := fun c => c = 'e' || c = 'E'
  let mantissa := text.takeWhile fun c => !isMark c
  let exponent := (text.dropWhile fun c => !isMark c).drop 1
  let whole ← readWhole (mantissa.takeWhile (· ≠ '.'))
  let fraction ←
    match mantissa.dropWhile (· ≠ '.') with
    | [] => some []
    | _ :: digits => (readDigits isAsciiDigit false digits).map ('.' :: ·)
  if mantissa.length = text.length then
    if fraction.isEmpty then none else return whole ++ fraction
  else
    let (sign, digits) :=
      match exponent with
      | '-' :: digits => (['-'], digits)
      | '+' :: digits => ([], digits)
      | digits => ([], digits)
    let digits ← readDigits isAsciiDigit false digits
    return whole ++ fraction ++ 'e' :: sign ++ digits

/-- A time of day. -/
def isClock (text : List Char) : Bool :=
  match readClock text with
  | some ((hour, minute, second, _), []) =>
    8 ≤ text.length && hour < 24 && minute < 60 && second < 60
  | _ => false

/-- Whether a text is a day, a time of day, or both. -/
def isTime (text : List Char) : Bool :=
  let day := String.ofList (text.take 10)
  let rest := text.drop 10
  isClock text ||
    ((readIso? day).isSome && text.length ≥ 10 && (text.getD 4 ' ') = '-' && (text.getD 7 ' ') = '-' &&
      (rest.isEmpty || (17 < text.length && ['T', 't', ' '].contains (rest.headD 'x') &&
        (readIso? (String.ofList (text.map Char.toUpper))).isSome)))

/-- The value of a word: a truth value, a number or a time. -/
def wordValue (word : List Char) : Option Value :=
  let (sign, body) :=
    match word with
    | '-' :: rest => (some true, rest)
    | '+' :: rest => (some false, rest)
    | _ => (none, word)
  let negative := sign = some true
  let based :=
    match body with
    | '0' :: 'x' :: digits => digitsOf 16 isHexDigit digits
    | '0' :: 'o' :: digits => digitsOf 8 (fun c => '0' ≤ c && c ≤ '7') digits
    | '0' :: 'b' :: digits => digitsOf 2 (fun c => c = '0' || c = '1') digits
    | _ => none
  if word = "true".toList then some (.bool true)
  else if word = "false".toList then some (.bool false)
  else if body = "inf".toList then some (.float (.infinite negative))
  else if body = "nan".toList then some (.float .nan)
  else if isTime word then some (.scalar (.date (String.ofList word)))
  else
    match based, readWhole body, readFraction body with
    | some n, _, _ => if sign.isSome then none else some (.int n)
    | none, some digits, _ => some (.int (signed negative (ofDigits 10 (digits.map hexValue))))
    | none, none, some text =>
      (readBinary64? (if negative then '-' :: text else text)).map .float
    | none, none, none => none

/-- A word and what follows it; a day and a time may have one blank between them. -/
def readWord (text : List Char) : Option (Value × List Char) :=
  let word := text.takeWhile isWordChar
  let rest := text.dropWhile isWordChar
  let joined :=
    match rest with
    | ' ' :: more =>
      let next := more.takeWhile isWordChar
      if isTime word && (next.head?.any isAsciiDigit) then
        (wordValue (word ++ ' ' :: next)).map (·, more.dropWhile isWordChar)
      else none
    | _ => none
  joined <|> (wordValue word).map (·, rest)

/-! ### Arrays and tables -/

def isKeyChar (c : Char) : Bool := c.isAlphanum || c = '_' || c = '-'

/-- A key, of several parts if there are dots between them. -/
def readKey : (fuel : Nat) → Take (List String)
  | 0, _ => none
  | fuel + 1, text => do
    let (part, rest) ←
      match readQuoted text with
      | some found => some found
      | none =>
        let bare := text.takeWhile isKeyChar
        if bare.isEmpty then none else some (String.ofList bare, text.dropWhile isKeyChar)
    match skipSpace rest with
    | '.' :: more =>
      let (parts, after) ← readKey fuel (skipSpace more)
      return (part :: parts, after)
    | after => return ([part], after)

/-- The entries with a value put at a key of several parts; a key is given once. -/
def putPath (value : Value) : List String → List (Scalar × Value) → Option (List (Scalar × Value))
  | [], _ => none
  | [part], entries =>
    if (entries.lookup (.text part)).isSome then none else some (entries ++ [(.text part, value)])
  | part :: more, entries =>
    match entries.lookup (.text part) with
    | none => (putPath value more []).map fun inner => entries ++ [(.text part, .mapping inner)]
    | some (.mapping inner) =>
      (putPath value more inner).map fun inner => Assoc.put (.text part) (.mapping inner) entries
    | some _ => none

mutual

/-- A value. -/
def readValue : (fuel : Nat) → Take Value
  | 0, _ => none
  | fuel + 1, text =>
    match text with
    | '[' :: rest => (readItems fuel (skipAll rest)).map fun (items, after) => (.list items, after)
    | '\x7b' :: rest =>
      match skipSpace rest with
      | '\x7d' :: after => some (.mapping [], after)
      | rest => (readEntries fuel [] rest).map fun (entries, after) => (.mapping entries, after)
    | _ =>
      match readQuoted text with
      | some (s, after) => some (.text s, after)
      | none => readWord text

/-- The items of an array up to its end. -/
def readItems : (fuel : Nat) → Take (List Value)
  | 0, _ => none
  | _ + 1, ']' :: after => some ([], after)
  | fuel + 1, text => do
    let (item, rest) ← readValue fuel text
    match skipAll rest with
    | ',' :: more =>
      let (items, after) ← readItems fuel (skipAll more)
      return (item :: items, after)
    | ']' :: after => return ([item], after)
    | _ => none

/-- The entries of a table up to its end, after some others. -/
def readEntries : (fuel : Nat) → List (Scalar × Value) → Take (List (Scalar × Value))
  | 0, _, _ => none
  | fuel + 1, entries, text => do
    let (key, rest) ← readKey (text.length + 1) text
    let rest ← match rest with
      | '=' :: rest => some (skipSpace rest)
      | _ => none
    let (value, rest) ← readValue fuel rest
    let entries ← putPath value key entries
    match skipSpace rest with
    | ',' :: more => readEntries fuel entries (skipSpace more)
    | '\x7d' :: after => return (entries, after)
    | _ => none

end

/-- The value that a text is in TOML, if it is one. -/
def read? (text : String) : Option Value := do
  let chars := skipSpace text.toList
  let (value, rest) ← readValue (2 * chars.length + 2) chars
  if (skipAll rest).isEmpty then some value else none

end FormIntake.Toml
