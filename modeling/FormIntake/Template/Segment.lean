import FormIntake.Template.Token

/-! # Templates as segments

A template is literal text with tokens embedded.  A token runs from an opening brace to the first
closing brace that leaves at least one character between them, with no line feed on the way; all
else is literal text.  `render` writes segments down again, and `render (parse text) = text`
(`render_parse`).
-/

namespace FormIntake.Template

/-- A piece of a template: literal text, or the text between the braces of a token. -/
inductive Piece where
  | literal (text : List Char)
  | token (body : List Char)
  deriving DecidableEq, Repr

/-- The text up to the first closing brace and the text after it. -/
def untilBrace : List Char → Option (List Char × List Char)
  | [] => none
  | c :: rest =>
    if c = '\x7d' then some ([], rest)
    else if c = '\n' then none
    else (untilBrace rest).map fun (body, after) => (c :: body, after)

/-- The body of a token after its opening brace, of at least one character, and the text after the
closing brace. -/
def readBody : List Char → Option (List Char × List Char)
  | [] => none
  | c :: rest =>
    if c = '\n' then none
    else (untilBrace rest).map fun (body, after) => (c :: body, after)

theorem untilBrace_eq {text body after : List Char} (h : untilBrace text = some (body, after)) :
    text = body ++ '\x7d' :: after := by
  induction text generalizing body after with
  | nil => simp [untilBrace] at h
  | cons c rest ih =>
    simp only [untilBrace] at h
    split at h
    · next hc => simp only [Option.some.injEq, Prod.mk.injEq] at h; simp [← h.1, ← h.2, hc]
    · split at h
      · simp at h
      · simp only [Option.map_eq_some_iff] at h
        obtain ⟨⟨b, a⟩, hb, he⟩ := h
        simp only [Prod.mk.injEq] at he
        rw [ih hb, ← he.1, ← he.2]; simp

theorem readBody_eq {text body after : List Char} (h : readBody text = some (body, after)) :
    text = body ++ '\x7d' :: after := by
  cases text with
  | nil => simp [readBody] at h
  | cons c rest =>
    simp only [readBody] at h
    split at h
    · simp at h
    · simp only [Option.map_eq_some_iff] at h
      obtain ⟨⟨b, a⟩, hb, he⟩ := h
      simp only [Prod.mk.injEq] at he
      rw [untilBrace_eq hb, ← he.1, ← he.2]; simp

theorem length_lt_of_readBody {text body after : List Char}
    (h : readBody text = some (body, after)) : after.length < text.length := by
  rw [readBody_eq h]; simp; omega

/-- The pieces with one more literal character in front. -/
def prependChar (c : Char) : List Piece → List Piece
  | .literal text :: pieces => .literal (c :: text) :: pieces
  | pieces => .literal [c] :: pieces

/-- The pieces of a template. -/
def scan : List Char → List Piece
  | [] => []
  | c :: rest =>
    if c = '\x7b' then
      match _h : readBody rest with
      | some (body, after) => .token body :: scan after
      | none => prependChar c (scan rest)
    else prependChar c (scan rest)
  termination_by text => text.length
  decreasing_by
    · have := length_lt_of_readBody ‹_›; simp; omega
    · simp
    · simp

/-- The source of a piece. -/
def Piece.source : Piece → List Char
  | .literal text => text
  | .token body => Token.braced body

theorem source_prependChar (c : Char) (pieces : List Piece) :
    (prependChar c pieces).flatMap Piece.source = c :: pieces.flatMap Piece.source := by
  unfold prependChar
  split <;> simp [Piece.source]

/-- Scanning loses nothing. -/
theorem source_scan (text : List Char) : (scan text).flatMap Piece.source = text := by
  fun_induction scan text with
  | case1 => rfl
  | case2 rest body after h ih =>
    rw [List.flatMap_cons, ih, Piece.source, Token.braced, readBody_eq h]; simp
  | case3 rest h ih => rw [source_prependChar, ih]
  | case4 c rest hc ih => rw [source_prependChar, ih]

/-- A segment of a template. -/
inductive Segment where
  | literal (text : String)
  | token (token : Token)
  deriving DecidableEq, Repr

namespace Segment

def ofPiece : Piece → Segment
  | .literal text => .literal (String.ofList text)
  | .token body => .token (Token.ofBody body (String.ofList (Token.braced body)))

/-- The source of a segment. -/
def source : Segment → String
  | .literal text => text
  | .token t => t.raw

end Segment

/-- The segments of a template. -/
def parse (text : String) : List Segment := (scan text.toList).map Segment.ofPiece

/-- Segments written down again. -/
def render (segments : List Segment) : String :=
  String.ofList (segments.flatMap fun s => s.source.toList)

/-- Whether a text can hold tokens at all. -/
def hasTokens (text : String) : Bool := text.toList.contains '\x7b'

theorem ofPiece_source (piece : Piece) : (Segment.ofPiece piece).source.toList = piece.source := by
  cases piece with
  | literal text => simp [Segment.ofPiece, Segment.source, Piece.source]
  | token body =>
    simp only [Segment.ofPiece, Segment.source, Piece.source, Token.ofBody]
    split <;> simp

/-- Writing the segments of a text gives the text. -/
theorem render_parse (text : String) : render (parse text) = text := by
  simp only [render, parse, List.flatMap_map, ofPiece_source, source_scan, String.ofList_toList]

end FormIntake.Template
