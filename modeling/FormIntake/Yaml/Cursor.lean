import FormIntake.Failure

/-! # Places in a document

Reading a document moves a cursor over its text.  The line and the column decide how the text is
nested, the index how far back a key may lie.
-/

namespace FormIntake.Yaml

/-- Whether a character ends a line. -/
def isBreak (ch : Char) : Bool := ch = '\n' || ch = '\x85' || ch = '\u2028' || ch = '\u2029'

/-- Whether a line ends here. -/
def endsLine : Option Char → Bool
  | none => true
  | some ch => isBreak ch

/-- Whether a line ends or a space stands here. -/
def endsItem (ch : Option Char) : Bool := ch = some ' ' || endsLine ch

/-- Whether a line ends or a blank stands here. -/
def endsWord (ch : Option Char) : Bool := ch = some '\t' || endsItem ch

/-- Whether a character may stand in the name of an anchor, a handle or a directive. -/
def isNameChar (ch : Char) : Bool :=
  ('0' ≤ ch && ch ≤ '9') || ('A' ≤ ch && ch ≤ 'Z') || ('a' ≤ ch && ch ≤ 'z') || ch = '-' || ch = '_'

structure Cursor where
  rest : List Char
  index : Nat := 0
  line : Nat := 0
  column : Nat := 0

namespace Cursor

def peek? (c : Cursor) : Option Char := c.rest.head?

/-- The character some places ahead. -/
def ahead? (n : Nat) (c : Cursor) : Option Char := c.rest[n]?

/-- The cursor one character on; a byte order mark takes no column. -/
def advance (c : Cursor) : Cursor :=
  match c.rest with
  | [] => c
  | ch :: rest =>
    if isBreak ch then ⟨rest, c.index + 1, c.line + 1, 0⟩
    else ⟨rest, c.index + 1, c.line, if ch = '\ufeff' then c.column else c.column + 1⟩

def skip : Nat → Cursor → Cursor
  | 0, c => c
  | n + 1, c => skip n c.advance

/-- The characters up to the first one that fails a test, and the cursor there. -/
def span (test : Char → Bool) (c : Cursor) : List Char × Cursor :=
  let taken := c.rest.takeWhile test
  (taken, c.skip taken.length)

/-- The cursor at the first character that fails a test. -/
def skipWhile (test : Char → Bool) (c : Cursor) : Cursor := (c.span test).2

/-- The cursor after the blanks in front, but for no more than a count of them. -/
def skipSpaces (limit : Nat) (c : Cursor) : Cursor :=
  c.skip (min limit (c.rest.takeWhile (· = ' ')).length)

/-- The cursor at the end of the line. -/
def toLineEnd (c : Cursor) : Cursor := c.skipWhile fun ch => !isBreak ch

/-- The cursor at the end of the line, if a comment starts here. -/
def skipComment (c : Cursor) : Cursor := if c.peek? = some '#' then c.toLineEnd else c

/-- The line break here, if there is one, and the cursor after it; the two separators of lines and
paragraphs stand for themselves, the other breaks for a line feed. -/
def takeBreak (c : Cursor) : List Char × Cursor :=
  match c.peek? with
  | some ch =>
    if ch = '\n' || ch = '\x85' then (['\n'], c.advance)
    else if isBreak ch then ([ch], c.advance)
    else ([], c)
  | none => ([], c)

/-- Whether a mark between documents stands here, at the beginning of a line. -/
def atSeparator (mark : Char) (c : Cursor) : Bool :=
  c.rest.take 3 == [mark, mark, mark] && endsWord (c.ahead? 3)

/-- Whether one of the marks between documents stands here. -/
def atDocumentMark (c : Cursor) : Bool := c.atSeparator '-' || c.atSeparator '.'

end Cursor

/-- A token cannot be read. -/
def unreadableToken : Failure := .unreadableDocument .tokens

/-- What is done at a cursor, with the cursor after it. -/
abbrev Take (α : Type) := Cursor → Except Failure (α × Cursor)

/-- A test that the character here has to pass. -/
def expect (test : Option Char → Bool) : Take Unit := fun c =>
  if test c.peek? then .ok ((), c) else .error unreadableToken

/-- The rest of a line that may hold nothing but a comment. -/
def restOfLine : Take Unit := fun c =>
  let c := (c.skipWhile (· = ' ')).skipComment
  if endsLine c.peek? then .ok ((), c.takeBreak.2) else .error unreadableToken

end FormIntake.Yaml
