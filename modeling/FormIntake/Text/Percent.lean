import FormIntake.Text.Utf8

/-! # Percent-encoding

Letters, digits and `_.-~` of ASCII stand for themselves; every other character is written as its
UTF-8 bytes, each as a percent sign and two upper-case hexadecimal digits.  In the form encoding a
space is a plus sign.
-/

namespace FormIntake.Text

/-- The characters that need no encoding. -/
def isUnreserved (c : Char) : Bool :=
  c.isAlphanum || c = '_' || c = '.' || c = '-' || c = '~'

/-- An upper-case hexadecimal digit. -/
def upperHexDigit (d : Nat) : Char :=
  if d < 10 then Char.ofNat (48 + d) else Char.ofNat (55 + d)

/-- A byte as a percent sign and two digits. -/
def percentByte (b : Nat) : List Char := ['%', upperHexDigit (b / 16), upperHexDigit (b % 16)]

/-- The encoding of one character. -/
def percentChar (c : Char) : List Char :=
  if isUnreserved c then [c] else (utf8Bytes c).flatMap percentByte

/-- Percent-encoding. -/
def percentEncode (text : List Char) : List Char := text.flatMap percentChar

/-- Percent-encoding with a plus sign for each space. -/
def formEncode (text : List Char) : List Char :=
  text.flatMap fun c => if c = ' ' then ['+'] else percentChar c

theorem percentEncode_append (a b : List Char) :
    percentEncode (a ++ b) = percentEncode a ++ percentEncode b := by
  simp [percentEncode]

theorem formEncode_append (a b : List Char) :
    formEncode (a ++ b) = formEncode a ++ formEncode b := by
  simp [formEncode]

end FormIntake.Text
