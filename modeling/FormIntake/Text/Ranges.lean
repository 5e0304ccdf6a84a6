import FormIntake.Text.Split

/-! # Sets of code points

A set of code points is a list of inclusive ranges.  The large tables are kept as text, each range
written in hexadecimal as `first-last`, or as the one code point alone, with spaces between them;
`Ranges.read` reads such a text.
-/

namespace FormIntake.Text

/-- The value of a hexadecimal digit; other characters count as zero. -/
def hexValue (c : Char) : Nat :=
  let n := c.toNat
  if 48 ≤ n && n ≤ 57 then n - 48
  else if 97 ≤ n && n ≤ 102 then n - 87
  else if 65 ≤ n && n ≤ 70 then n - 55
  else 0

/-- Whether the character is a hexadecimal digit of either case. -/
def isHexDigit (c : Char) : Bool :=
  let n := c.toNat
  48 ≤ n && n ≤ 57 || 97 ≤ n && n ≤ 102 || 65 ≤ n && n ≤ 70

/-- The number that a text of hexadecimal digits stands for. -/
def readHex (digits : List Char) : Nat :=
  digits.foldl (fun n c => n * 16 + hexValue c) 0

/-- The words of a text between spaces and line ends. -/
def words (text : String) : List (List Char) :=
  (splitOn ' ' (text.toList.map fun c => if c = '\n' then ' ' else c)).filter (!·.isEmpty)

/-- A set of code points: inclusive ranges. -/
abbrev Ranges := List (Nat × Nat)

namespace Ranges

/-- One range, `first-last` or a single code point. -/
def readRange (word : List Char) : Nat × Nat :=
  match splitFirst '-' word with
  | (first, none) => (readHex first, readHex first)
  | (first, some last) => (readHex first, readHex last)

/-- The ranges of a table text. -/
def read (text : String) : Ranges := (words text).map readRange

/-- Whether a code point lies in one of the ranges. -/
def has (set : Ranges) (n : Nat) : Bool := set.any fun r => r.1 ≤ n && n ≤ r.2

end Ranges
end FormIntake.Text
