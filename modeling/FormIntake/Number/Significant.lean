import FormIntake.Number.Shortest

/-! # Numbers to a count of digits

A floating-point number rounded to so many digits, a half going to the even neighbour, and its texts
with an exponent (`Binary64.exponential`) and in the shorter of the two styles (`Binary64.general`).
-/

namespace FormIntake.Number

/-- The first `count` digits of `num / den`, rounded, and how many stand before the point. -/
def leading (count num den : Nat) : List Char × Int :=
  if num = 0 then (List.replicate count '0', 1)
  else
    let point := magnitude num den
    let (a, b) := scale 10 1 (point - count)
    let n := roundDiv (num * b) (den * a)
    if n = Nat.pow 10 count then (decimal (Nat.pow 10 (count - 1)), point + 1) else (decimal n, point)

/-- Digits with an exponent; the point is left out when nothing follows it, unless asked for. -/
def withExponent (digits : List Char) (point : Int) (keepPoint : Bool) : List Char :=
  let exponent := point - 1
  let fraction := digits.drop 1
  digits.take 1 ++ (if fraction.isEmpty && !keepPoint then [] else '.' :: fraction) ++
    ['e', if exponent < 0 then '-' else '+'] ++ padded 2 exponent.natAbs

/-- Digits with a point, zeros put where there are none; the point is left out when nothing follows
it, unless asked for. -/
def withPoint (digits : List Char) (point : Int) (keepPoint : Bool) : List Char :=
  let digits := List.replicate (1 - point).toNat '0' ++ digits
  let before := max 1 point.toNat
  let whole := digits.take before ++ List.replicate (before - digits.length) '0'
  let fraction := digits.drop before
  whole ++ (if fraction.isEmpty && !keepPoint then [] else '.' :: fraction)

/-- The size of a number with an exponent and `places` digits after the point. -/
def Binary64.exponential (places : Nat) (keepPoint : Bool) (x : Binary64) : List Char :=
  match x.ratio? with
  | none => if x == .nan then "nan".toList else "inf".toList
  | some (num, den) =>
    let (digits, point) := leading (places + 1) num den
    withExponent digits point keepPoint

/-- The size of a number to `count` digits, with an exponent when it is small or large; zeros at the
end of the fraction are left out, unless asked for. -/
def Binary64.general (count : Nat) (keepZeros : Bool) (x : Binary64) : List Char :=
  match x.ratio? with
  | none => if x == .nan then "nan".toList else "inf".toList
  | some (num, den) =>
    let (digits, point) := leading count num den
    let kept := if keepZeros then digits
      else (digits.reverse.dropWhile (· == '0')).reverse
    let kept := if kept.isEmpty then ['0'] else kept
    if -4 < point && point ≤ count then withPoint kept point keepZeros
    else withExponent kept point keepZeros

end FormIntake.Number
