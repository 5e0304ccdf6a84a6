import FormIntake.Yaml.Cursor
import FormIntake.Text.Digit

/-! # Texts in blocks

A block text follows its header on lines of their own, all indented alike.  A literal block keeps
its line breaks; a folded one turns a single break between lines that start with no blank into a
space.  The header says what becomes of the breaks at the end.
-/

namespace FormIntake.Yaml

open Text

/-- What becomes of the line breaks at the end: one of them stays, none, or all. -/
inductive Chomping where
  | clip
  | strip
  | keep
  deriving DecidableEq, Repr

structure BlockHeader where
  chomping : Chomping := .clip
  /-- How much deeper than what is around it the block is indented, if that is written. -/
  increment : Option Nat := none

def readChomping (c : Cursor) : Option Chomping × Cursor :=
  match c.peek? with
  | some '+' => (some .keep, c.advance)
  | some '-' => (some .strip, c.advance)
  | _ => (none, c)

def readIncrement : Take (Option Nat) := fun c =>
  match c.peek? with
  | some '0' => .error unreadableToken
  | some ch => if isAsciiDigit ch then .ok (some (ch.toNat - 48), c.advance) else .ok (none, c)
  | none => .ok (none, c)

/-- The header of a block, the two parts of which may come in either order. -/
def readHeader : Take BlockHeader := fun c => do
  let (before, c) := readChomping c
  let (increment, c) ← readIncrement c
  let (after, c) := if before.isNone && increment.isSome then readChomping c else (none, c)
  if !endsItem c.peek? then throw unreadableToken
  let (_, c) ← restOfLine c
  return (⟨(before.or after).getD .clip, increment⟩, c)

/-- The line breaks in front of the first line, and the deepest column that blanks reach there. -/
def leadingBreaks : (fuel : Nat) → (deepest : Nat) → Cursor → List Char × Nat × Cursor
  | 0, deepest, c => ([], deepest, c)
  | fuel + 1, deepest, c =>
    let c := c.skipWhile (· = ' ')
    let deepest := max deepest c.column
    match c.takeBreak with
    | ([], _) => ([], deepest, c)
    | (lineBreak, c) =>
      let (more, deepest, c) := leadingBreaks fuel deepest c
      (lineBreak ++ more, deepest, c)

/-- The line breaks here, past the indentation. -/
def blockBreaks (indent : Nat) : (fuel : Nat) → Cursor → List Char × Cursor
  | 0, c => ([], c)
  | fuel + 1, c =>
    let c := c.skipSpaces (indent - c.column)
    match c.takeBreak with
    | ([], _) => ([], c)
    | (lineBreak, c) =>
      let (more, c) := blockBreaks indent fuel c
      (lineBreak ++ more, c)

/-- The lines of a block, and the breaks after the last one. -/
structure BlockBody where
  text : List Char
  lineBreak : List Char
  breaks : List Char
  cursor : Cursor

def startsWithBlank (c : Cursor) : Bool := c.peek? = some ' ' || c.peek? = some '\t'

/-- Whether a line of the block starts here. -/
def startsLine (indent : Nat) (c : Cursor) : Bool := c.column = indent && c.peek?.isSome

/-- The lines of a block from some line breaks on. -/
def blockLines (folded : Bool) (indent : Nat) :
    (fuel : Nat) → (breaks : List Char) → Cursor → BlockBody
  | 0, breaks, c => ⟨[], [], breaks, c⟩
  | fuel + 1, breaks, c =>
    if !startsLine indent c then ⟨[], [], breaks, c⟩
    else
      let blank := startsWithBlank c
      let (line, c) := c.span fun ch => !isBreak ch
      let (lineBreak, c) := c.takeBreak
      let (more, c) := blockBreaks indent (c.rest.length + 1) c
      if startsLine indent c then
        let between :=
          if folded && lineBreak == ['\n'] && !blank && !startsWithBlank c then
            if more.isEmpty then [' '] else []
          else lineBreak
        let body := blockLines folded indent fuel more c
        { body with text := breaks ++ line ++ between ++ body.text }
      else ⟨breaks ++ line, lineBreak, more, c⟩

/-- A text in a block, from its mark on, inside what is indented by `indent`. -/
def readBlock (folded : Bool) (indent : Int) : Take (List Char) := fun c => do
  let (header, c) ← readHeader c.advance
  let least := max 1 (indent + 1).toNat
  let size := c.rest.length + 1
  let (breaks, depth, c) :=
    match header.increment with
    | none =>
      let (breaks, deepest, c) := leadingBreaks size 0 c
      (breaks, max least deepest, c)
    | some n =>
      let depth := least + n - 1
      let (breaks, c) := blockBreaks depth size c
      (breaks, depth, c)
  let body := blockLines folded depth size breaks c
  let ending := if header.chomping = .strip then [] else body.lineBreak
  let more := if header.chomping = .keep then body.breaks else []
  return (body.text ++ ending ++ more, body.cursor)

end FormIntake.Yaml
