import FormIntake.Failure
import FormIntake.Number.Reading

/-! # Tables of the site

Tables that submissions are copied into: text columns beside a column of row numbers.  A row takes
the cells of columns that the table has; a row number that is not given is one more than the
largest.
-/

namespace FormIntake

open Number Text

/-- The largest number that the store can keep. -/
def largestNumber : Int := 9223372036854775807

/-- Whether a number is small enough for the store. -/
def fitsStore (n : Int) : Bool := -largestNumber - 1 ≤ n && n ≤ largestNumber

/-- The number after the largest of some, or one. -/
def nextNumber (numbers : List Int) : Int :=
  match numbers.max? with
  | some n => n + 1
  | none => 1

/-- Whether two names of tables are the same but for the case of letters. -/
def sameName (a b : String) : Bool := a.toLower = b.toLower

structure Row where
  id : Int
  cells : List (String × String)
  deriving DecidableEq, Repr

structure Table where
  name : String
  columns : List String
  rows : List Row := []
  deriving DecidableEq, Repr

/-- The columns of a row that are unknown, in alphabetical order. -/
def unknownColumns (row : List (String × String)) (isKnown : String → Bool) : List String :=
  ((row.map Prod.fst).filter fun column => !isKnown column).mergeSort fun a b => a ≤ b

namespace Table

/-- The name of the column of row numbers. -/
def idColumn : String := "id"

def hasColumn (table : Table) (column : String) : Bool :=
  column = idColumn || table.columns.contains column

/-- The blanks that may surround a number in a column of numbers. -/
def isPadding (c : Char) : Bool := c = ' ' || (0x09 ≤ c.toNat && c.toNat ≤ 0x0d)

/-- The whole number that a text stands for in a column of numbers.  A number with a fraction or an
exponent is rounded to double precision and has to be whole and inside the bounds then. -/
def numberOf? (text : String) : Option Int :=
  let (negative, digits) := splitSign (dropEndWhile isPadding (text.toList.dropWhile isPadding))
  if !digits.isEmpty && digits.all isAsciiDigit then
    let n := signed negative (ofDigits 10 (digits.map fun c => c.toNat - 48))
    if fitsStore n then some n else none
  else do
    let (n, exponent) ← readDecimal digits
    let whole ← (Binary64.ofDecimal negative n exponent).whole?
    if whole.natAbs < largestNumber.natAbs then some whole else none

/-- The number of a new row: the one that is given, or the next. -/
def numberFor (table : Table) (known : List (String × String)) : Except Failure Int :=
  match known.lookup idColumn with
  | none => .ok (nextNumber (table.rows.map Row.id))
  | some text =>
    match numberOf? text with
    | some id =>
      if table.rows.any (·.id = id) then .error .brokenConstraint else .ok id
    | none => .error .brokenConstraint

/-- The table with one more row; nothing is added where none of the cells has a column. -/
def insert (table : Table) (row : List (String × String)) : Except Failure Table := do
  let known := row.filter fun cell => table.hasColumn cell.1
  if known.isEmpty then return table
  let id ← table.numberFor known
  return { table with rows := table.rows ++ [⟨id, Assoc.erase idColumn known⟩] }

/-- The rows in the order of their numbers. -/
def sorted (table : Table) : List Row := table.rows.mergeSort fun a b => a.id ≤ b.id

end Table
end FormIntake
