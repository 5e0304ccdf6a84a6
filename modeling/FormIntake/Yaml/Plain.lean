import FormIntake.Yaml.Cursor

/-! # Texts without quotes

A plain text ends at a colon or a comment that stands free, inside brackets also at the marks of
the brackets, and where a line is indented too little.  A single line break in it becomes a space;
of more line breaks the first is dropped.
-/

namespace FormIntake.Yaml

/-- The marks that structure what stands between brackets. -/
def isFlowMark (ch : Char) : Bool := [',', '[', ']', '\x7b', '\x7d'].contains ch

/-- How many characters belong to a plain text before a blank or its end. -/
def plainLength (inFlow : Bool) : List Char → Nat
  | [] => 0
  | ch :: rest =>
    let free := endsWord rest.head? || (inFlow && rest.head?.any isFlowMark)
    if endsWord (some ch) || (ch = ':' && free) || (inFlow && (ch = '?' || isFlowMark ch)) then 0
    else plainLength inFlow rest + 1

/-- The line breaks here, past blanks; none before a mark between documents. -/
def plainBreaks : (fuel : Nat) → Cursor → Option (List Char) × Cursor
  | 0, c => (some [], c)
  | fuel + 1, c =>
    let c := c.skipWhile (· = ' ')
    match c.takeBreak with
    | ([], _) => (some [], c)
    | (lineBreak, c) =>
      if c.atDocumentMark then (none, c)
      else
        let (more, c) := plainBreaks fuel c
        (more.map (lineBreak ++ ·), c)

/-- A line break and those after it, folded. -/
def foldBreaks (lineBreak more : List Char) : List Char :=
  (if lineBreak ≠ ['\n'] then lineBreak else if more.isEmpty then [' '] else []) ++ more

/-- The space between two parts of a plain text, and whether it goes over a line break. -/
def plainSpace (c : Cursor) : List Char × Bool × Cursor :=
  let (blanks, c) := c.span (· = ' ')
  match c.takeBreak with
  | ([], _) => (blanks, false, c)
  | (lineBreak, c) =>
    if c.atDocumentMark then ([], true, c)
    else
      match plainBreaks (c.rest.length + 1) c with
      | (none, c) => ([], true, c)
      | (some more, c) => (foldBreaks lineBreak more, true, c)

/-- The parts of a plain text after some space, and whether it ends on a later line. -/
def plainParts (inFlow : Bool) (indent : Nat) :
    (fuel : Nat) → (space : List Char) → (crossed : Bool) → Cursor → List Char × Bool × Cursor
  | 0, _, crossed, c => ([], crossed, c)
  | fuel + 1, space, crossed, c =>
    match if c.peek? = some '#' then 0 else plainLength inFlow c.rest with
    | 0 => ([], crossed, c)
    | n =>
      let part := space ++ c.rest.take n
      let (next, crossed, c) := plainSpace (c.skip n)
      if next.isEmpty || c.peek? = some '#' || (!inFlow && c.column < indent) then
        (part, crossed, c)
      else
        let (more, crossed, c) := plainParts inFlow indent fuel next crossed c
        (part ++ more, crossed, c)

/-- A plain text, and whether it ends on a later line. -/
def readPlain (inFlow : Bool) (indent : Nat) (c : Cursor) : List Char × Bool × Cursor :=
  plainParts inFlow indent (c.rest.length + 1) [] false c

end FormIntake.Yaml
