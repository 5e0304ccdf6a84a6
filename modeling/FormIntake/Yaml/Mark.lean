import FormIntake.Yaml.Token
import FormIntake.Yaml.Cursor
import FormIntake.Text.Digit
import FormIntake.Text.Ranges
import FormIntake.Text.Utf8
import FormIntake.Number.Natural

/-! # Directives, anchors and tags

The marks that carry names: directives on lines of their own in front of a document, and anchors,
references and tags in front of what they belong to.
-/

namespace FormIntake.Yaml

open Text Number

/-- A name of at least one character. -/
def readName : Take (List Char) := fun c =>
  match c.span isNameChar with
  | ([], _) => .error unreadableToken
  | found => .ok found

/-- The name of an anchor after its mark. -/
def readAnchorName : Take String := fun c => do
  let (name, c) ← readName c.advance
  let ends (ch : Option Char) :=
    endsWord ch || ch.any ['?', ':', ',', ']', '\x7d', '%', '@', '\x60'].contains
  if !ends c.peek? then throw unreadableToken
  return (String.ofList name, c)

/-! ### Tags -/

def isTagChar (ch : Char) : Bool :=
  isNameChar ch || ";/?:@&=+$,.!~*'()[]%".toList.contains ch

/-- The bytes written with percent signs at the front of a text, and how many there are. -/
def percentBytes : List Char → Option (List Nat)
  | '%' :: a :: b :: rest =>
    if isHexDigit a && isHexDigit b then (percentBytes rest).map (readHex [a, b] :: ·) else none
  | '%' :: _ => none
  | _ => some []

/-- The name of a tag, with bytes of characters written with percent signs. -/
def tagName : (fuel : Nat) → Take (List Char)
  | 0, _ => .error unreadableToken
  | fuel + 1, c => do
    let (run, c) := c.span fun ch => isTagChar ch && ch ≠ '%'
    if c.peek? ≠ some '%' then return (run, c)
    match (percentBytes c.rest).bind fun bytes => (decodeUtf8 bytes).map (·, bytes.length) with
    | none => throw unreadableToken
    | some (chars, count) =>
      let (more, c) ← tagName fuel (c.skip (3 * count))
      return (run ++ chars ++ more, c)

def readTagName : Take String := fun c => do
  let (name, c) ← tagName (c.rest.length + 1) c
  if name.isEmpty then throw unreadableToken
  return (String.ofList name, c)

/-- The handle in front of a tag's name: one mark, or a name between two marks. -/
def readHandle : Take String := fun c =>
  if c.peek? ≠ some '!' then .error unreadableToken
  else if c.ahead? 1 = some ' ' then .ok ("!", c.advance)
  else
    let (name, after) := c.advance.span isNameChar
    if after.peek? = some '!' then .ok (String.ofList ('!' :: name ++ ['!']), after.advance)
    else .error unreadableToken

/-- A tag, from its mark on. -/
def readTag : Take Token := fun c => do
  let (token, c) ←
    match c.ahead? 1 with
    | some '<' => do
      let (name, c) ← readTagName (c.skip 2)
      if c.peek? ≠ some '>' then throw unreadableToken
      pure (Token.tag none name, c.advance)
    | next =>
      if endsWord next then pure (Token.tag none "!", c.advance)
      else do
        let word := c.advance.rest.takeWhile fun ch => !endsItem (some ch)
        let (handle, c) ← if word.contains '!' then readHandle c else pure ("!", c.advance)
        let (name, c) ← readTagName c
        pure (Token.tag (some handle) name, c)
  let (_, c) ← expect endsItem c
  return (token, c)

/-! ### Directives -/

def readDirectiveNumber : Take Nat := fun c =>
  match c.span isAsciiDigit with
  | ([], _) => .error unreadableToken
  | (digits, c) => .ok (ofDigits 10 (digits.filterMap digitValue?), c)

/-- The version of a document. -/
def readVersion : Take Token := fun c => do
  let (major, c) ← readDirectiveNumber (c.skipWhile (· = ' '))
  if c.peek? ≠ some '.' then throw unreadableToken
  let (_, c) ← readDirectiveNumber c.advance
  let (_, c) ← expect endsItem c
  return (.versionDirective major, c)

/-- A handle and what it stands for. -/
def readHandleDirective : Take Token := fun c => do
  let (handle, c) ← readHandle (c.skipWhile (· = ' '))
  let (_, c) ← expect (· = some ' ') c
  let (meaning, c) ← readTagName (c.skipWhile (· = ' '))
  let (_, c) ← expect endsItem c
  return (.handleDirective handle meaning, c)

/-- A directive, from its mark to the end of its line. -/
def readDirective : Take Token := fun c => do
  let (name, c) ← readName c.advance
  let (_, c) ← expect endsItem c
  let (token, c) ←
    match String.ofList name with
    | "YAML" => readVersion c
    | "TAG" => readHandleDirective c
    | _ => pure (Token.otherDirective, c.toLineEnd)
  let (_, c) ← restOfLine c
  return (token, c)

end FormIntake.Yaml
