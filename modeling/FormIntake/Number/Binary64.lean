import FormIntake.Number.Rounding

/-! # Binary floating point of 64 bits

A finite number is `± mantissa · 2 ^ exponent` with a mantissa below `2 ^ 53` and an exponent from
-1074; it is kept in normal form, the mantissa at least `2 ^ 52` unless the exponent is the least
one.  `ofRatio` rounds a quotient to the nearest such number, a half to the even mantissa, and
overflows to infinity; everything is exact arithmetic on natural numbers.
-/

namespace FormIntake.Number

inductive Binary64 where
  | finite (negative : Bool) (mantissa : Nat) (exponent : Int)
  | infinite (negative : Bool)
  | nan
  deriving DecidableEq, Repr, Inhabited

namespace Binary64

/-- The least exponent. -/
def minExponent : Int := -1074

/-- The largest exponent. -/
def maxExponent : Int := 971

def zero (negative : Bool) : Binary64 := .finite negative 0 minExponent

/-- The number nearest to `± num / den`. -/
def ofRatio (negative : Bool) (num den : Nat) : Binary64 :=
  if num = 0 then zero negative
  else
    let guess : Int := (num.log2 : Int) - den.log2 - 52
    let quotient (e : Int) : Nat × Nat :=
      match e with
      | .ofNat k => (num, den * Nat.pow 2 k)
      | .negSucc k => (num * Nat.pow 2 (k + 1), den)
    let small := (quotient guess).1 < Nat.pow 2 52 * (quotient guess).2
    let e := max (if small then guess - 1 else guess) minExponent
    let m := roundDiv (quotient e).1 (quotient e).2
    let (m, e) := if m = Nat.pow 2 53 then (Nat.pow 2 52, e + 1) else (m, e)
    if maxExponent < e then .infinite negative else .finite negative m e

/-- The number nearest to `± digits · 10 ^ exponent`. -/
def ofDecimal (negative : Bool) (digits : Nat) (exponent : Int) : Binary64 :=
  if digits = 0 then zero negative
  else if 400 < exponent then .infinite negative
  else if exponent + (digits.log2 : Int) < -1500 then zero negative
  else
    let (num, den) := scale 10 digits exponent
    ofRatio negative num den

/-- A whole number, rounded. -/
def ofInt (n : Int) : Binary64 := ofRatio (n < 0) n.natAbs 1

/-- The absolute value as a quotient; infinity and the undefined number have none. -/
def ratio? : Binary64 → Option (Nat × Nat)
  | .finite _ m e => some (scale 2 m e)
  | _ => none

/-- The sign bit. -/
def isNegative : Binary64 → Bool
  | .finite s _ _ => s
  | .infinite s => s
  | .nan => false

/-- The number as a multiple of the least positive one; none for the infinite and undefined. -/
def units? : Binary64 → Option Int
  | .finite s m e =>
    let n := m * Nat.pow 2 (e - minExponent).toNat
    some (if s then -(n : Int) else n)
  | _ => none

/-- Strictly smaller; never holds of the undefined number. -/
def lt : Binary64 → Binary64 → Bool
  | .nan, _ => false
  | _, .nan => false
  | .infinite s, .infinite t => s && !t
  | .infinite s, _ => s
  | _, .infinite t => !t
  | x, y =>
    match x.units?, y.units? with
    | some a, some b => a < b
    | _, _ => false

/-- Equal as numbers: the two zeros are equal and the undefined number equals nothing. -/
def same : Binary64 → Binary64 → Bool
  | .infinite s, .infinite t => s == t
  | x, y =>
    match x.units?, y.units? with
    | some a, some b => a == b
    | _, _ => false

theorem lt_irrefl (x : Binary64) : lt x x = false := by
  cases x with
  | finite s m e => simp [lt, units?]
  | infinite s => simp [lt]
  | nan => rfl

/-- The product, rounded. -/
def mul : Binary64 → Binary64 → Binary64
  | .nan, _ => .nan
  | _, .nan => .nan
  | .infinite s, .finite t m _ => if m = 0 then .nan else .infinite (s != t)
  | .finite s m _, .infinite t => if m = 0 then .nan else .infinite (s != t)
  | .infinite s, .infinite t => .infinite (s != t)
  | .finite s m e, .finite t n f =>
    let (num, den) := scale 2 (m * n) (e + f)
    ofRatio (s != t) num den

/-- The sum, rounded. -/
def add : Binary64 → Binary64 → Binary64
  | .nan, _ => .nan
  | _, .nan => .nan
  | .infinite s, .infinite t => if s = t then .infinite s else .nan
  | .infinite s, _ => .infinite s
  | _, .infinite t => .infinite t
  | .finite s m e, .finite t n f =>
    match units? (.finite s m e), units? (.finite t n f) with
    | some a, some b =>
      if a + b = 0 then zero (s && t)
      else
        let (num, den) := scale 2 (a + b).natAbs minExponent
        ofRatio (a + b < 0) num den
    | _, _ => .nan

/-- The whole part, toward zero; none for the infinite and undefined. -/
def truncate? (x : Binary64) : Option Int :=
  x.ratio?.map fun (num, den) =>
    let n := num / den
    if x.isNegative then -(n : Int) else n

/-- The whole number that the number is, if it is one. -/
def whole? (x : Binary64) : Option Int :=
  match x.ratio? with
  | some (num, den) => if num % den = 0 then x.truncate? else none
  | none => none

end Binary64
end FormIntake.Number
