import FormIntake.Text.Split

/-! # Blank characters and trimming

The characters that count as white space, and `trim`, which takes them off both ends of a text.
A trimmed text neither starts nor ends with a blank one (`trim_trim`).
-/

namespace FormIntake.Text

/-- The code points of white space: the controls from tab to carriage return, the four separators
below the space, the space itself, and the spaces and line ends beyond ASCII. -/
def blankPoints : List Nat :=
  [0x09, 0x0a, 0x0b, 0x0c, 0x0d, 0x1c, 0x1d, 0x1e, 0x1f, 0x20, 0x85, 0xa0, 0x1680,
   0x2000, 0x2001, 0x2002, 0x2003, 0x2004, 0x2005, 0x2006, 0x2007, 0x2008, 0x2009, 0x200a,
   0x2028, 0x2029, 0x202f, 0x205f, 0x3000]

def isBlank (c : Char) : Bool := blankPoints.contains c.toNat

/-- Without the blanks at both ends. -/
def trim (text : List Char) : List Char := dropEndWhile isBlank (text.dropWhile isBlank)

/-- Without the blanks at both ends. -/
def trimmed (text : String) : String := String.ofList (trim text.toList)

theorem trim_trim (text : List Char) : trim (trim text) = trim text := by
  have h : (trim text).dropWhile isBlank = trim text :=
    dropWhile_eq_self fun _ h => not_of_head?_dropWhile (head?_of_head?_dropEndWhile h)
  rw [trim, h, trim, dropEndWhile_dropEndWhile]

/-- A blank that may surround a written number: all of them but the four separators. -/
def isPadding (c : Char) : Bool := isBlank c && !(0x1c ≤ c.toNat && c.toNat ≤ 0x1f)

/-- Without the blanks that may surround a written number. -/
def unpadded (text : List Char) : List Char := dropEndWhile isPadding (text.dropWhile isPadding)

example : trimmed " \ta b\u2003\n" = "a b" := by decide +kernel

end FormIntake.Text
