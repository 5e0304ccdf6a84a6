/-! # Numbers as digits

Numbers are written with the fewest digits of a base; `padLeft` fills a text up in front to a
width.  `ofDigits` reads digit values, most significant first.
-/

namespace FormIntake.Number

/-- The number that digit values stand for. -/
def ofDigits (base : Nat) (values : List Nat) : Nat :=
  values.foldl (fun n d => n * base + d) 0

theorem ofDigits_append_one (base : Nat) (values : List Nat) (d : Nat) :
    ofDigits base (values ++ [d]) = ofDigits base values * base + d := by
  simp [ofDigits]

/-- A number in decimal. -/
def decimal (n : Nat) : List Char := Nat.toDigits 10 n

/-- A number in lower-case hexadecimal. -/
def hexadecimal (n : Nat) : List Char := Nat.toDigits 16 n

/-- A text filled up in front to a width. -/
def padLeft (fill : Char) (width : Nat) (text : List Char) : List Char :=
  List.replicate (width - text.length) fill ++ text

theorem length_padLeft (fill : Char) (width : Nat) (text : List Char) :
    (padLeft fill width text).length = max width text.length := by
  simp [padLeft]; omega

/-- A decimal number of at least `width` digits. -/
def padded (width n : Nat) : List Char := padLeft '0' width (decimal n)

/-- A hexadecimal number of at least `width` digits. -/
def paddedHex (width n : Nat) : List Char := padLeft '0' width (hexadecimal n)

/-- A whole number in decimal, with a minus sign when negative. -/
def wholeText : Int → List Char
  | .ofNat n => decimal n
  | .negSucc n => '-' :: decimal (n + 1)

end FormIntake.Number
