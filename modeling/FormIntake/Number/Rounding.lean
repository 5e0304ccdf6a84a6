/-! # Rounding quotients

`roundDiv num den` is the whole number nearest to `num / den`, a half going to the even neighbour.
The result is within half a unit of the quotient (`roundDiv_le`, `le_roundDiv`).
-/

namespace FormIntake.Number

/-- The whole number nearest to a quotient, a half going to the even neighbour. -/
def roundDiv (num den : Nat) : Nat :=
  let q := num / den
  let twice := 2 * (num % den)
  if twice < den then q
  else if den < twice then q + 1
  else if q % 2 = 0 then q else q + 1

theorem roundDiv_le (num den : Nat) (h : 0 < den) :
    2 * den * roundDiv num den ≤ 2 * num + den := by
  have hdm := Nat.div_add_mod num den
  have hlt := Nat.mod_lt num h
  have e1 : 2 * den * (num / den) = 2 * (den * (num / den)) := by rw [Nat.mul_assoc]
  have e2 : 2 * den * (num / den + 1) = 2 * (den * (num / den)) + 2 * den := by
    rw [Nat.mul_add, e1, Nat.mul_one]
  simp only [roundDiv]
  split
  · omega
  · split
    · omega
    · split <;> omega

theorem le_roundDiv (num den : Nat) (h : 0 < den) :
    2 * num ≤ 2 * den * roundDiv num den + den := by
  have hdm := Nat.div_add_mod num den
  have hlt := Nat.mod_lt num h
  have e1 : 2 * den * (num / den) = 2 * (den * (num / den)) := by rw [Nat.mul_assoc]
  have e2 : 2 * den * (num / den + 1) = 2 * (den * (num / den)) + 2 * den := by
    rw [Nat.mul_add, e1, Nat.mul_one]
  simp only [roundDiv]
  split
  · omega
  · split
    · omega
    · split <;> omega

/-- A whole number scaled by a power, as a numerator and a denominator. -/
def scale (base : Nat) (n : Nat) (exponent : Int) : Nat × Nat :=
  match exponent with
  | .ofNat k => (n * Nat.pow base k, 1)
  | .negSucc k => (n, Nat.pow base (k + 1))

end FormIntake.Number
