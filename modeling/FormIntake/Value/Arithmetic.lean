import FormIntake.Value.Basic
import FormIntake.Failure

/-! # Sums and products of values

Numbers are added and multiplied, truth values counting as zero and one; texts and lists are joined
to their own kind and repeated a whole number of times.  All other pairs have no sum and no
product.
-/

namespace FormIntake

open Number (Binary64)

namespace Value

/-- A number as a value: a whole one or a fraction. -/
inductive Numeric where
  | whole (n : Int)
  | fraction (x : Binary64)

namespace Numeric

def of? : Value → Option Numeric
  | .int n => some (.whole n)
  | .bool b => some (.whole (if b then 1 else 0))
  | .float x => some (.fraction x)
  | _ => none

/-- The number as a fraction; a whole one may be too large. -/
def asFraction : Numeric → Except Failure Binary64
  | .fraction x => .ok x
  | .whole n =>
    match Binary64.ofInt n with
    | .infinite _ => .error .oversizedFloat
    | x => .ok x

/-- Two numbers joined by one operation on whole numbers and one on fractions. -/
def join (onWhole : Int → Int → Int) (onFractions : Binary64 → Binary64 → Binary64)
    (a b : Numeric) : Except Failure Value :=
  match a, b with
  | .whole m, .whole n => .ok (.int (onWhole m n))
  | a, b => return .float (onFractions (← a.asFraction) (← b.asFraction))

end Numeric

/-- The sum of two values; the names of their kinds are for the failure. -/
def add (a b : Value) : Except Failure Value :=
  match Numeric.of? a, Numeric.of? b with
  | some x, some y => x.join (· + ·) Binary64.add y
  | _, _ =>
    match a, b with
    | .text s, .text t => .ok (.text (s ++ t))
    | .text _, b => .error (.unjoinable a.kindName b.kindName)
    | .list xs, .list ys => .ok (.list (xs ++ ys))
    | .list _, b => .error (.unjoinable a.kindName b.kindName)
    | a, b => .error (.unaddable a.kindName b.kindName)

/-- A text repeated; nothing for a count that is not positive. -/
def repeatText (s : String) (count : Int) : String :=
  String.ofList (List.replicate count.toNat s.toList).flatten

/-- A list repeated; nothing for a count that is not positive. -/
def repeatList (items : List Value) (count : Int) : List Value :=
  (List.replicate count.toNat items).flatten

/-- A text or list times another value. -/
def timesSequence (repeated : Int → Value) (other : Value) : Except Failure Value :=
  match Numeric.of? other with
  | some (.whole n) => .ok (repeated n)
  | _ => .error (.unrepeatable other.kindName)

/-- The product of two values. -/
def mul (a b : Value) : Except Failure Value :=
  match Numeric.of? a, Numeric.of? b with
  | some x, some y => x.join (· * ·) Binary64.mul y
  | _, _ =>
    match a, b with
    | .text s, b => timesSequence (fun n => .text (repeatText s n)) b
    | .list xs, b => timesSequence (fun n => .list (repeatList xs n)) b
    | a, .text s => if (Numeric.of? a).isSome then timesSequence (fun n => .text (repeatText s n)) a
      else .error (.unrepeatable a.kindName)
    | a, .list xs => if (Numeric.of? a).isSome then timesSequence (fun n => .list (repeatList xs n)) a
      else .error (.unrepeatable a.kindName)
    | a, b => .error (.unmultipliable a.kindName b.kindName)

end Value
end FormIntake
