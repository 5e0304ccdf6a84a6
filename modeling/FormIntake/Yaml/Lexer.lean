import FormIntake.Yaml.Mark
import FormIntake.Yaml.Block
import FormIntake.Yaml.Quoted

/-! # From text to tokens

A lexer goes over the text once.  Outside brackets the column of a token decides which levels it
opens and closes.  A key is recognised by the colon after it, on the same line and not far away, so
the lexer remembers where one may have started and puts the mark of a key there afterwards.
`tokens` gives the tokens up to the first one that cannot be read.
-/

namespace FormIntake.Yaml

/-- A place where a key may have started. -/
structure KeyStart where
  /-- How many tokens stand before it. -/
  number : Nat
  /-- Whether nothing but a key can stand there. -/
  required : Bool
  index : Nat
  line : Nat
  column : Nat

structure Lexer where
  cursor : Cursor
  tokens : Array Token := #[]
  /-- How many brackets are open. -/
  flow : Nat := 0
  indent : Int := -1
  /-- The indentations of the levels around, the innermost first. -/
  outer : List Int := []
  /-- Whether a key may start here. -/
  mayKey : Bool := true
  /-- Where a key may have started, by the number of brackets open there. -/
  starts : List (Nat × KeyStart) := []
  done : Bool := false

abbrev Lexing (α : Type) := StateT Lexer (Except Failure) α

namespace Lexing

def fail {α : Type} : Lexing α := throw unreadableToken

def emit (token : Token) : Lexing Unit :=
  modify fun l => { l with tokens := l.tokens.push token }

/-- Read something at the cursor. -/
def take {α : Type} (read : Take α) : Lexing α := do
  let (result, cursor) ← (read (← get).cursor : Except Failure _)
  modify fun l => { l with cursor }
  return result

def skip (n : Nat) : Lexing Unit := modify fun l => { l with cursor := l.cursor.skip n }

def allowKey (allowed : Bool) : Lexing Unit := modify fun l => { l with mayKey := allowed }

def inFlow : Lexing Bool := return (← get).flow ≠ 0

/-! ### Levels -/

/-- Close the levels that are indented deeper than a column. -/
def closeLevels (column : Int) : Lexing Unit := modify fun l =>
  if l.flow ≠ 0 then l
  else
    let rec go (indent : Int) (tokens : Array Token) : List Int → Lexer
      | [] => { l with indent, tokens, outer := [] }
      | next :: outer =>
        if column < indent then go next (tokens.push .blockEnd) outer
        else { l with indent, tokens, outer := next :: outer }
    go l.indent l.tokens l.outer

/-- Open a level at a column unless it is open already, and tell whether it was opened. -/
def openLevel (column : Nat) : Lexing Bool := do
  let l ← get
  if l.indent < column then
    set { l with outer := l.indent :: l.outer, indent := (column : Int) }
    return true
  else return false

/-! ### Keys -/

/-- The longest distance between the start of a key and its colon. -/
def keyReach : Nat := 1024

/-- Whether a place lies too far back for a key that ends here. -/
def isStale (l : Lexer) (start : KeyStart) : Bool :=
  start.line ≠ l.cursor.line || l.cursor.index - start.index > keyReach

/-- Give up the places that lie too far back. -/
def dropStale : Lexing Unit := do
  let l ← get
  let (stale, kept) := l.starts.partition fun s => isStale l s.2
  if stale.any fun s => s.2.required then fail
  set { l with starts := kept }

/-- Give up the place on this level. -/
def dropStart : Lexing Unit := do
  let l ← get
  if (l.starts.lookup l.flow).any (·.required) then fail
  set { l with starts := Assoc.erase l.flow l.starts }

/-- Remember that a key may start here. -/
def saveStart : Lexing Unit := do
  let l ← get
  if l.mayKey then
    dropStart
    let c := l.cursor
    let required := l.flow = 0 && l.indent = (c.column : Int)
    let start : KeyStart := ⟨l.tokens.size, required, c.index, c.line, c.column⟩
    modify fun l => { l with starts := Assoc.put l.flow start l.starts }

/-! ### Tokens -/

/-- The cursor at the next token, past blanks, comments and line breaks, and whether it lies on a
later line. -/
def nextPlace : (fuel : Nat) → Cursor → Cursor × Bool
  | 0, c => (c, false)
  | fuel + 1, c =>
    let c := (c.skipWhile (· = ' ')).skipComment
    match c.takeBreak with
    | ([], _) => (c, false)
    | (_, c) => ((nextPlace fuel c).1, true)

def toNextToken : Lexing Unit := modify fun l =>
  let c := if l.cursor.index = 0 && l.cursor.peek? = some '\ufeff' then l.cursor.advance else l.cursor
  let (cursor, crossed) := nextPlace (c.rest.length + 1) c
  { l with cursor, mayKey := l.mayKey || (crossed && l.flow = 0) }

/-- The end of the stream. -/
def streamEnd : Lexing Unit := do
  closeLevels (-1)
  dropStart
  emit .streamEnd
  modify fun l => { l with mayKey := false, starts := [], done := true }

/-- A directive, or a mark between documents. -/
def topLevel (read : Take Token) : Lexing Unit := do
  closeLevels (-1)
  dropStart
  allowKey false
  emit (← take read)

def openBracket (token : Token) : Lexing Unit := do
  saveStart
  modify fun l => { l with flow := l.flow + 1 }
  allowKey true
  skip 1
  emit token

def closeBracket (token : Token) : Lexing Unit := do
  dropStart
  modify fun l => { l with flow := l.flow - 1 }
  allowKey false
  skip 1
  emit token

def comma : Lexing Unit := do
  allowKey true
  dropStart
  skip 1
  emit .comma

/-- Open a level here, outside brackets, where one may start. -/
def startLevel (token : Token) : Lexing Unit := do
  let l ← get
  if l.flow = 0 then
    if !l.mayKey then fail
    if ← openLevel l.cursor.column then emit token

/-- The mark of an item. -/
def item : Lexing Unit := do
  startLevel .blockSequence
  allowKey true
  dropStart
  skip 1
  emit .item

/-- The mark of a key. -/
def key : Lexing Unit := do
  startLevel .blockMapping
  allowKey (!(← inFlow))
  dropStart
  skip 1
  emit .key

/-- Put the mark of a key, and of a new level if need be, where the key has started. -/
def insertKey (start : KeyStart) : Lexing Unit := do
  modify fun l => { l with
    starts := Assoc.erase l.flow l.starts
    tokens := l.tokens.insertIdxIfInBounds start.number .key }
  if !(← inFlow) then
    if ← openLevel start.column then
      modify fun l => { l with
        tokens := l.tokens.insertIdxIfInBounds start.number .blockMapping }
  allowKey false

/-- The colon after a key. -/
def value : Lexing Unit := do
  let l ← get
  match l.starts.lookup l.flow with
  | some start => insertKey start
  | none =>
    startLevel .blockMapping
    allowKey (l.flow = 0)
    dropStart
  skip 1
  emit .value

/-- A token with which a key may start. -/
def keyable (read : Take Token) : Lexing Unit := do
  saveStart
  allowKey false
  emit (← take read)

def plain : Lexing Unit := do
  saveStart
  let l ← get
  let (text, crossed, cursor) := readPlain (l.flow ≠ 0) (l.indent + 1).toNat l.cursor
  set { l with cursor, mayKey := crossed }
  emit (.scalar (String.ofList text) true)

def quoted (quote : Char) : Lexing Unit :=
  keyable fun c => (readQuoted quote c).map fun (text, c) => (.scalar (String.ofList text) false, c)

def block (folded : Bool) : Lexing Unit := do
  allowKey true
  dropStart
  let text ← take (readBlock folded (← get).indent)
  emit (.scalar (String.ofList text) false)

/-- Whether a plain text may start here. -/
def startsPlain (inFlow : Bool) (c : Cursor) : Bool :=
  match c.peek? with
  | none => false
  | some ch =>
    !(endsWord (some ch) || "-?:,[]\x7b\x7d#&*!|>'\"%@\x60".toList.contains ch) ||
      (!endsWord (c.ahead? 1) && (ch = '-' || (!inFlow && (ch = '?' || ch = ':'))))

/-- The next token, with the marks of the levels that it opens and closes. -/
def step : Lexing Unit := do
  toNextToken
  dropStale
  closeLevels (← get).cursor.column
  let l ← get
  let c := l.cursor
  let inFlow : Bool := l.flow ≠ 0
  let free := endsWord (c.ahead? 1)
  match c.peek? with
  | none => streamEnd
  | some ch =>
    if ch = '%' && c.column = 0 then topLevel readDirective
    else if c.column = 0 && c.atSeparator '-' then
      topLevel fun c => .ok (.documentStart, c.skip 3)
    else if c.column = 0 && c.atSeparator '.' then topLevel fun c => .ok (.documentEnd, c.skip 3)
    else if ch = '[' then openBracket .flowSequence
    else if ch = '\x7b' then openBracket .flowMapping
    else if ch = ']' then closeBracket .flowSequenceEnd
    else if ch = '\x7d' then closeBracket .flowMappingEnd
    else if ch = ',' then comma
    else if ch = '-' && free then item
    else if ch = '?' && (inFlow || free) then key
    else if ch = ':' && (inFlow || free) then value
    else if ch = '*' then
      keyable fun c => (readAnchorName c).map fun (name, c) => (.reference name, c)
    else if ch = '&' then keyable fun c => (readAnchorName c).map fun (name, c) => (.anchor name, c)
    else if ch = '!' then keyable readTag
    else if ch = '|' && !inFlow then block false
    else if ch = '>' && !inFlow then block true
    else if ch = '\'' || ch = '"' then quoted ch
    else if startsPlain inFlow c then plain
    else fail

end Lexing

/-- The tokens of a text up to the first one that cannot be read, and why it cannot. -/
structure Tokens where
  list : List Token
  fault : Option Failure

/-- The tokens before the first place of which it is open whether a key starts there. -/
def Lexer.settled (l : Lexer) : List Token :=
  let isOpen := fun (s : KeyStart) => s.required || !Lexing.isStale l s
  let pending := (l.starts.map (·.2)).filter isOpen |>.map (·.number)
  l.tokens.toList.take (pending.foldl min l.tokens.size)

/-- Read on to the end; each step goes at least one character on or ends. -/
def Lexer.run : (fuel : Nat) → Lexer → Tokens
  | 0, l => ⟨l.settled, some unreadableToken⟩
  | fuel + 1, l =>
    if l.done then ⟨l.tokens.toList, none⟩
    else
      match Lexing.step.run l with
      | .ok (_, next) => run fuel next
      | .error fault => ⟨l.settled, some fault⟩

def tokens (text : List Char) : Tokens := Lexer.run (text.length + 3) { cursor := ⟨text, 0, 0, 0⟩ }

end FormIntake.Yaml
