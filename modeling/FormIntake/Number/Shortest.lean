import FormIntake.Number.Binary64
import FormIntake.Number.Natural

/-! # The shortest decimal text of a floating-point number

`shortest` finds the fewest decimal digits that read back as the number, and among those the
nearest.  It tries one digit, two digits, and so on to seventeen; on each decimal grid only the two
neighbours of the number can read back if any point does.  `Binary64.text` writes the digits
positionally when the exponent lies between -4 and 15, and with an exponent otherwise.
-/

namespace FormIntake.Number

/-- Whether `num / den` is at least `10 ^ e`. -/
def atLeastPower (num den : Nat) (e : Int) : Bool :=
  let (a, b) := scale 10 1 e
  a * den ≤ num * b

/-- The number of digits in front of the point: the least `p` with `num / den < 10 ^ p`. -/
def magnitude (num den : Nat) : Int :=
  let guess : Int := (decimal num).length - (decimal den).length
  if atLeastPower num den guess then guess + 1 else guess

/-- The two neighbours of `num / den` on the grid of `10 ^ e`, the nearer one first and of two
equally near ones the even. -/
def neighbours (num den : Nat) (e : Int) : List Nat :=
  let (a, b) := scale 10 1 e
  let q := num * b / (den * a)
  if roundDiv (num * b) (den * a) = q then [q, q + 1] else [q + 1, q]

/-- The fewest digits, at least `digits` and at most `digits + more`, that read back. -/
def fewestDigits (x : Binary64) (num den : Nat) (digits : Nat) : Nat → Nat × Int
  | 0 =>
    let e := magnitude num den - digits
    ((neighbours num den e).headD 0, e)
  | more + 1 =>
    let e := magnitude num den - digits
    match (neighbours num den e).find? fun c => Binary64.ofDecimal x.isNegative c e == x with
    | some c => (c, e)
    | none => fewestDigits x num den (digits + 1) more

/-- The shortest decimal `c · 10 ^ e` that reads back as a finite number. -/
def shortest (x : Binary64) : Nat × Int :=
  match x.ratio? with
  | some (num, den) => if num = 0 then (0, 0) else fewestDigits x num den 1 16
  | none => (0, 0)

/-- The digits of a decimal without zeros at the end, and how many stand before the point. -/
def significant (c : Nat) (e : Int) : List Char × Int :=
  let digits := decimal c
  let kept := (digits.reverse.dropWhile (· == '0')).reverse
  (kept, digits.length + e)

/-- Digits with the point after the first `point` of them, zeros added as needed. -/
def positional (digits : List Char) (point : Int) : List Char :=
  if point ≤ 0 then
    ['0', '.'] ++ List.replicate (-point).toNat '0' ++ digits
  else
    let n := point.toNat
    let whole := digits.take n ++ List.replicate (n - digits.length) '0'
    let fraction := digits.drop n
    whole ++ ['.'] ++ (if fraction.isEmpty then ['0'] else fraction)

/-- Digits with the point after the first one and an exponent of at least two digits. -/
def scientific (digits : List Char) (point : Int) : List Char :=
  let exponent := point - 1
  let sign := if exponent < 0 then '-' else '+'
  let fraction := digits.drop 1
  digits.take 1 ++ (if fraction.isEmpty then [] else '.' :: fraction) ++
    ['e', sign] ++ padded 2 exponent.natAbs

/-- The text of a number: the shortest digits that read back. -/
def Binary64.text (x : Binary64) : List Char :=
  match x with
  | .nan => "nan".toList
  | .infinite false => "inf".toList
  | .infinite true => "-inf".toList
  | .finite negative m _ =>
    let sign := if negative then ['-'] else []
    if m = 0 then sign ++ ['0', '.', '0']
    else
      let (c, e) := shortest x
      let (digits, point) := significant c e
      sign ++ (if -4 < point && point ≤ 16 then positional digits point
        else scientific digits point)

/-- A number with a fixed count of places after the point, the exact value rounded. -/
def Binary64.fixed (places : Nat) (x : Binary64) : List Char :=
  match x.ratio? with
  | none => x.text
  | some (num, den) =>
    let n := roundDiv (num * Nat.pow 10 places) den
    let digits := padded (places + 1) n
    let whole := digits.take (digits.length - places)
    (if x.isNegative then ['-'] else []) ++ whole ++
      (if places = 0 then [] else '.' :: digits.drop (digits.length - places))

end FormIntake.Number
