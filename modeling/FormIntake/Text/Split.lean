/-! # Cutting text at separators

Text is cut as a list of characters.  `splitOn sep` cuts at every separator and never yields an
empty list; `splitFirst sep` cuts once, at the first separator; `lines` cuts at every line feed, a
carriage return directly before it included.
-/

namespace FormIntake.Text

/-- The pieces between the separators, empty ones kept. -/
def splitOn (sep : Char) : List Char → List (List Char)
  | [] => [[]]
  | c :: rest =>
    if c = sep then [] :: splitOn sep rest
    else
      match splitOn sep rest with
      | [] => [[c]]
      | piece :: pieces => (c :: piece) :: pieces

/-- The pieces written one after the other with `between` between two of them. -/
def join (between : List Char) : List (List Char) → List Char
  | [] => []
  | [piece] => piece
  | piece :: next :: pieces => piece ++ between ++ join between (next :: pieces)

/-- The text before the first separator and, if there is one, the text after it. -/
def splitFirst (sep : Char) : List Char → List Char × Option (List Char)
  | [] => ([], none)
  | c :: rest =>
    if c = sep then ([], some rest)
    else
      let (before, after) := splitFirst sep rest
      (c :: before, after)

/-- The lines of a text; a line ends at a line feed, and a carriage return before it belongs to
the line end. -/
def lines : List Char → List (List Char)
  | [] => [[]]
  | '\r' :: '\n' :: rest => [] :: lines rest
  | '\n' :: rest => [] :: lines rest
  | c :: rest =>
    match lines rest with
    | [] => [[c]]
    | line :: more => (c :: line) :: more

/-- Whether `part` stands somewhere in the text. -/
def occursIn (part : List Char) : List Char → Bool
  | [] => part.isEmpty
  | c :: rest => part.isPrefixOf (c :: rest) || occursIn part rest

/-- The text without its longest head of characters that satisfy `p`, read from the end. -/
def dropEndWhile (p : Char → Bool) (text : List Char) : List Char :=
  (text.reverse.dropWhile p).reverse

/-- The longest end of the text whose characters satisfy `p`. -/
def takeEndWhile (p : Char → Bool) (text : List Char) : List Char :=
  (text.reverse.takeWhile p).reverse

theorem dropEndWhile_append (p : Char → Bool) (text : List Char) :
    dropEndWhile p text ++ takeEndWhile p text = text := by
  rw [dropEndWhile, takeEndWhile, ← List.reverse_append, List.takeWhile_append_dropWhile,
    List.reverse_reverse]

theorem not_of_head?_dropWhile {p : Char → Bool} {text : List Char} {c : Char}
    (h : (text.dropWhile p).head? = some c) : p c = false := by
  induction text with
  | nil => simp at h
  | cons d rest ih =>
    rw [List.dropWhile_cons] at h
    split at h
    · exact ih h
    · simp_all

theorem dropWhile_eq_self {p : Char → Bool} {text : List Char}
    (h : ∀ c, text.head? = some c → p c = false) : text.dropWhile p = text := by
  cases text with
  | nil => rfl
  | cons c rest => rw [List.dropWhile_cons, h c rfl]; rfl

theorem dropEndWhile_dropEndWhile (p : Char → Bool) (text : List Char) :
    dropEndWhile p (dropEndWhile p text) = dropEndWhile p text := by
  rw [dropEndWhile, dropEndWhile, List.reverse_reverse,
    dropWhile_eq_self fun _ h => not_of_head?_dropWhile h]

/-- Taking characters off the end leaves the first one or nothing. -/
theorem head?_of_head?_dropEndWhile {p : Char → Bool} {text : List Char} {c : Char}
    (h : (dropEndWhile p text).head? = some c) : text.head? = some c := by
  rw [← dropEndWhile_append p text, List.head?_append, h]
  rfl

end FormIntake.Text
