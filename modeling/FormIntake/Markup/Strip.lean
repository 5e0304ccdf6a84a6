import FormIntake.Markup.Entity
import FormIntake.Failure

/-! # The text of markup

`plainText` takes comments and tags out of markup, joins the words that are left by single spaces,
and puts characters in place of their references.  It has no answer for markup with a reference by a
decimal number that is too long to be read.
-/

namespace FormIntake.Markup

open Text Number

/-- The text before the first place of a part and the text after it. -/
def cutAt (part : List Char) : List Char → Option (List Char × List Char)
  | [] => if part = [] then some ([], []) else none
  | c :: rest =>
    if part.isPrefixOf (c :: rest) then some ([], (c :: rest).drop part.length)
    else (cutAt part rest).map fun (before, after) => (c :: before, after)

/-- The text without its first span from an opening mark to the next closing mark; the closing mark
may share characters with the opening mark. -/
def dropSpan (opening closing : List Char) (shared : Nat) (text : List Char) :
    Option (List Char) := do
  let (before, after) ← cutAt opening text
  let (_, rest) ← cutAt closing (opening.drop (opening.length - shared) ++ after)
  return before ++ rest

/-- The text without all spans from an opening mark to a closing mark, found one after another. -/
def dropSpans (opening closing : List Char) (shared : Nat) : (rounds : Nat) → List Char → List Char
  | 0, text => text
  | rounds + 1, text =>
    match dropSpan opening closing shared text with
    | some rest => dropSpans opening closing shared rounds rest
    | none => text

/-- The text without comments. -/
def dropComments (text : List Char) : List Char :=
  dropSpans "<!--".toList "-->".toList 2 text.length text

/-- The text without tags. -/
def dropTags (text : List Char) : List Char := dropSpans ['<'] ['>'] 0 text.length text

/-- The words between blanks. -/
def blankWords (text : List Char) : List (List Char) :=
  (splitOn ' ' (text.map fun c => if isBlank c then ' ' else c)).filter (!·.isEmpty)

/-! ### References -/

/-- The characters that the numbers 128 to 159 stand for. -/
def legacyChars : List Char :=
  ['€', '\u0081', '‚', 'ƒ', '„', '…', '†', '‡', 'ˆ', '‰', 'Š', '‹', 'Œ', '\u008d', 'Ž', '\u008f',
   '\u0090', '‘', '’', '“', '”', '•', '–', '—', '˜', '™', 'š', '›', 'œ', '\u009d', 'ž', 'Ÿ']

/-- Whether a number is that of no character of text. -/
def isNoCharacter (n : Nat) : Bool :=
  1 ≤ n && n ≤ 8 || n = 11 || 14 ≤ n && n ≤ 31 || n = 127 || 0xfdd0 ≤ n && n ≤ 0xfdef ||
    n % 0x10000 ≥ 0xfffe

/-- The text that a number stands for. -/
def numberedText (n : Nat) : List Char :=
  if n = 0 then ['\ufffd']
  else if 128 ≤ n && n ≤ 159 then [legacyChars.getD (n - 128) '\ufffd']
  else if 0xd800 ≤ n && n ≤ 0xdfff || 0x10ffff < n then ['\ufffd']
  else if isNoCharacter n then []
  else [Char.ofNat n]

/-- The longest name that a text starts with, put as its text; a name has two characters at
least. -/
def longestName (text : List Char) : (length : Nat) → Option (List Char)
  | 0 => none
  | 1 => none
  | length + 1 =>
    match namedText? (text.take (length + 1)) true with
    | some t => some (t ++ text.drop (length + 1))
    | none => longestName text length

/-- Whether a character may stand in a name. -/
def isNameChar (c : Char) : Bool :=
  !(c = '\t' || c = '\n' || c = '\x0c' || c = ' ' || c = '<' || c = '&' || c = '#' || c = ';')

/-- The semicolon that may end a reference, and the text after it. -/
def endOfReference : List Char → List Char × List Char
  | ';' :: rest => ([';'], rest)
  | text => ([], text)

/-- The number of decimal digits, of which there can be too many. -/
def decimalValue (digits : List Char) : Except Failure Nat :=
  if digits.length ≤ maxDigits then .ok (ofDigits 10 (digits.map fun c => c.toNat - 48))
  else .error (.tooManyDigits digits.length)

/-- A numbered reference after its number sign. -/
def numberedReference (text : List Char) :
    Except Failure (Option (List Char × List Char)) :=
  match text with
  | 'x' :: rest | 'X' :: rest =>
    let digits := rest.takeWhile isHexDigit
    if digits.isEmpty then .ok none
    else .ok (some (numberedText (readHex digits), (endOfReference (rest.drop digits.length)).2))
  | _ =>
    let digits := text.takeWhile isAsciiDigit
    if digits.isEmpty then .ok none
    else (decimalValue digits).map fun n =>
      some (numberedText n, (endOfReference (text.drop digits.length)).2)

/-- The name that a text starts with. -/
def nameOf (text : List Char) : List Char := (text.takeWhile isNameChar).take 32

/-- The text of a name and the semicolon behind it: of the name itself, of the longest known one that
it starts with, or what the reference is written as. -/
def nameText (name mark : List Char) : List Char :=
  match namedText? name mark.isEmpty with
  | some t => t
  | none => (longestName (name ++ mark) ((name ++ mark).length - 1)).getD ('&' :: name ++ mark)

/-- A named reference after its ampersand. -/
def namedReference (text : List Char) : Option (List Char × List Char) :=
  if (nameOf text).isEmpty then none
  else
    let ending := endOfReference (text.drop (nameOf text).length)
    some (nameText (nameOf text) ending.1, ending.2)

/-- The text of a reference after its ampersand, and the text after the reference. -/
def reference : List Char → Except Failure (Option (List Char × List Char))
  | '#' :: rest => numberedReference rest
  | text => .ok (namedReference text)

/-- The text with characters in place of their references. -/
def resolveReferences : (fuel : Nat) → List Char → Except Failure (List Char)
  | 0, text => .ok text
  | _, [] => .ok []
  | fuel + 1, c :: rest =>
    if c = '&' then do
      match ← reference rest with
      | some (t, after) => (t ++ ·) <$> resolveReferences fuel after
      | none => (c :: ·) <$> resolveReferences fuel rest
    else (c :: ·) <$> resolveReferences fuel rest

/-- The text of markup. -/
def plainText (markup : String) : Except Failure String :=
  let text := join [' '] (blankWords (dropTags (dropComments markup.toList)))
  String.ofList <$> resolveReferences text.length text

end FormIntake.Markup
