import FormIntake.Yaml.Plain
import FormIntake.Text.Ranges
import FormIntake.Text.Units

/-! # Texts in quotes

Between single quotes only the quote is written twice; between double quotes a backslash starts an
escape.  Line breaks fold as in plain texts, with the blanks around them, and an escaped line break
is no break at all.
-/

namespace FormIntake.Yaml

open Text

/-- The character that a one-letter escape stands for. -/
def escaped? : Char → Option Char
  | '0' => some '\x00'
  | 'a' => some '\x07'
  | 'b' => some '\x08'
  | 't' => some '\t'
  | '\t' => some '\t'
  | 'n' => some '\n'
  | 'v' => some '\x0b'
  | 'f' => some '\x0c'
  | 'r' => some '\r'
  | 'e' => some '\x1b'
  | ' ' => some ' '
  | '"' => some '"'
  | '\\' => some '\\'
  | '/' => some '/'
  | 'N' => some '\x85'
  | '_' => some '\xa0'
  | 'L' => some '\u2028'
  | 'P' => some '\u2029'
  | _ => none

/-- How many hexadecimal digits follow the letter of an escape. -/
def escapeDigits? : Char → Option Nat
  | 'x' => some 2
  | 'u' => some 4
  | 'U' => some 8
  | _ => none

def isBlankChar (ch : Char) : Bool := ch = ' ' || ch = '\t'

/-- The line breaks here, past blanks; a mark between documents must not come. -/
def quotedBreaks : (fuel : Nat) → Take (List Char)
  | 0, _ => .error unreadableToken
  | fuel + 1, c =>
    if c.atDocumentMark then .error unreadableToken
    else
      let c := c.skipWhile isBlankChar
      match c.takeBreak with
      | ([], _) => .ok ([], c)
      | (lineBreak, c) => (quotedBreaks fuel c).map fun (more, c) => (lineBreak ++ more, c)

/-- The space inside a text in quotes, which the text's end must follow some time. -/
def quotedSpace : Take (List Char) := fun c =>
  let (blanks, c) := c.span isBlankChar
  if c.peek? = none then .error unreadableToken
  else
    match c.takeBreak with
    | ([], _) => .ok (blanks, c)
    | (lineBreak, c) =>
      (quotedBreaks (c.rest.length + 1) c).map fun (more, c) => (foldBreaks lineBreak more, c)

/-- An escape after its backslash, as code units. -/
def readEscape : Take (List Nat) := fun c =>
  match c.peek? with
  | none => .error unreadableToken
  | some ch =>
    match escaped? ch, escapeDigits? ch with
    | some x, _ => .ok ([x.toNat], c.advance)
    | none, some n =>
      let digits := c.advance.rest.take n
      if digits.length = n && digits.all isHexDigit then
        if readHex digits ≤ 0x10ffff then .ok ([readHex digits], c.skip (n + 1))
        else .error (if readHex digits < 0x80000000 then .noCharacter else .oversizedNumber)
      else .error unreadableToken
    | none, none =>
      if isBreak ch then
        (quotedBreaks (c.rest.length + 1) c.takeBreak.2).map fun (more, c) => (more.map Char.toNat, c)
      else .error unreadableToken

/-- The code units up to a blank or the closing quote. -/
def quotedRun (quote : Char) : (fuel : Nat) → Take (List Nat)
  | 0, _ => .error unreadableToken
  | fuel + 1, c => do
    let isPlain := fun ch => !(['\'', '"', '\\'].contains ch || endsWord (some ch))
    let (run, c) := c.span isPlain
    let run := run.map Char.toNat
    let go (units : List Nat) (c : Cursor) := do
      let (more, c) ← quotedRun quote fuel c
      return (run ++ units ++ more, c)
    match c.peek? with
    | none => return (run, c)
    | some ch =>
      if endsWord (some ch) then return (run, c)
      else if ch = quote then
        if quote = '\'' && c.ahead? 1 = some quote then go [quote.toNat] (c.skip 2)
        else return (run, c)
      else if quote = '"' && ch = '\\' then
        let (units, c) ← readEscape c.advance
        go units c
      else go [ch.toNat] c.advance

/-- The code units up to the closing quote, and the cursor after it. -/
def quotedUnits (quote : Char) : (fuel : Nat) → Take (List Nat)
  | 0, _ => .error unreadableToken
  | fuel + 1, c => do
    let (run, c) ← quotedRun quote (fuel + 1) c
    if c.peek? = some quote then return (run, c.advance)
    let (space, c) ← quotedSpace c
    let (more, c) ← quotedUnits quote fuel c
    return (run ++ space.map Char.toNat ++ more, c)

/-- A text in quotes, from its opening quote on. -/
def readQuoted (quote : Char) : Take (List Char) := fun c =>
  (quotedUnits quote (c.rest.length + 1) c.advance).map fun (units, c) => (joinUnits units, c)

end FormIntake.Yaml
