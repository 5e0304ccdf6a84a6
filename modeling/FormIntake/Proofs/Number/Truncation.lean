import Mathlib.Order.Lattice
import Mathlib.Tactic.Ring
import FormIntake.Number.Binary64

/-! # Whole parts of rounded quotients

A quotient of which the numerator has at most 52 binary digits is rounded to a fraction that is finer than
its denominator (`Binary64.exists_ofRatio`).  Rounding then never takes it to the next whole number
(`roundDiv_div_eq`), and the whole part of what is rounded is that of the quotient
(`Binary64.truncate?_ofRatio`). -/

namespace FormIntake.Number

/-- A quotient that is rounded to a fraction finer than its denominator stays between the same whole
numbers. -/
theorem roundDiv_div_eq {num den scale : Nat} (hden : 0 < den) (hscale : den < scale) :
    roundDiv (num * scale) den / scale = num / den := by
  have hsplit := Nat.div_add_mod num den
  have hrest := Nat.mod_lt num hden
  have hlow := le_roundDiv (num * scale) den hden
  have hhigh := roundDiv_le (num * scale) den hden
  generalize roundDiv (num * scale) den = m at hlow hhigh ⊢
  generalize num / den = q at hsplit ⊢
  have hnum : num * scale = den * (q * scale) + num % den * scale := by
    calc
      num * scale = (den * q + num % den) * scale := by rw [hsplit]
      _ = den * (q * scale) + num % den * scale := by ring
  refine Nat.div_eq_of_lt_le ?_ ?_
  · by_contra hlt
    have hstep : 2 * den * (m + 1) ≤ 2 * den * (q * scale) :=
      Nat.mul_le_mul_left (2 * den) (Nat.lt_of_not_le hlt)
    have hexp : 2 * den * (m + 1) = 2 * den * m + 2 * den := by ring
    have hq : 2 * den * (q * scale) = 2 * (den * (q * scale)) := by ring
    omega
  · by_contra hge
    have hstep := Nat.mul_le_mul_left (2 * den) (Nat.le_of_not_lt hge)
    have hexp : 2 * den * ((q + 1) * scale) = 2 * (den * (q * scale)) + 2 * (den * scale) := by ring
    have hstay : (num % den + 1) * scale ≤ den * scale := Nat.mul_le_mul_right scale hrest
    rw [Nat.add_mul, Nat.one_mul] at hstay
    omega

namespace Binary64

/-- A quotient is rounded to a fraction finer than its denominator, where the numerator has at most 52
digits. -/
theorem exists_ofRatio {num den : Nat} (negative : Bool) (hpos : num ≠ 0) (hnum : num < 2 ^ 52)
    (hsmall : den.log2 < 1074) :
    ∃ j : Nat, den < 2 ^ (j + 1) ∧ ofRatio negative num den =
      if roundDiv (num * 2 ^ (j + 1)) den = 2 ^ 53 then .finite negative (2 ^ 52) (Int.negSucc j + 1)
      else .finite negative (roundDiv (num * 2 ^ (j + 1)) den) (Int.negSucc j) := by
  have hl : num.log2 < 52 := (Nat.log2_lt hpos).mpr hnum
  generalize hx : ofRatio negative num den = x
  rw [ofRatio, if_neg hpos] at hx
  extract_lets guess quotient small e m at hx
  have hguess : (if small then guess - 1 else guess) ≤ guess := by split <;> omega
  have he : e ≤ -1 - (den.log2 : Int) := by
    refine max_le (hguess.trans ?_) ?_
    · omega
    · simp only [minExponent]
      omega
  obtain ⟨j, hj⟩ := Int.exists_eq_neg_ofNat (a := e + 1) (by omega)
  have hej : e = .negSucc j := by omega
  have hm : m = roundDiv (num * 2 ^ (j + 1)) den := by rw [show m = roundDiv _ _ from rfl, hej]; rfl
  have hmax : ¬ maxExponent < e + 1 := by
    simp only [maxExponent]
    omega
  refine ⟨j, ?_, ?_⟩
  · calc
      den < 2 ^ (den.log2 + 1) := Nat.lt_log2_self
      _ ≤ 2 ^ (j + 1) := Nat.pow_le_pow_right (by decide) (by omega)
  · rw [← hx, ← hm, ← hej]
    change _ = if m = Nat.pow 2 53 then _ else _
    by_cases hcarry : m = Nat.pow 2 53
    · rw [if_pos hcarry, if_pos hcarry]
      exact if_neg hmax
    · rw [if_neg hcarry, if_neg hcarry]
      exact if_neg (by omega)

theorem truncate?_negSucc (m j : Nat) :
    (finite false m (.negSucc j)).truncate? = some ((m / 2 ^ (j + 1) : Nat) : Int) := rfl

/-- The whole part of a quotient is that of its rounding, where the numerator has at most 52 digits. -/
theorem truncate?_ofRatio {num den : Nat} (hnum : num < 2 ^ 52) (hden : 0 < den)
    (hsmall : den.log2 < 1074) : (ofRatio false num den).truncate? = some ((num / den : Nat) : Int) := by
  by_cases hpos : num = 0
  · have hzero : ofRatio false 0 den = .finite false 0 (.negSucc 1073) := if_pos rfl
    rw [hpos, hzero, truncate?_negSucc, Nat.zero_div, Nat.zero_div]
  · obtain ⟨j, hscale, hround⟩ := exists_ofRatio false hpos hnum hsmall
    have hwhole : roundDiv (num * 2 ^ (j + 1)) den / 2 ^ (j + 1) = num / den := roundDiv_div_eq hden hscale
    rw [hround, ← hwhole]
    split
    · next hcarry =>
      rw [hcarry]
      cases j with
      | zero => rfl
      | succ j =>
          have hhalf : 2 ^ 53 / 2 ^ (j + 1 + 1) = 2 ^ 52 / 2 ^ (j + 1) := by
            rw [pow_succ 2 52, pow_succ 2 (j + 1), Nat.mul_div_mul_right _ _ (by decide)]
          rw [hhalf]
          exact truncate?_negSucc _ j
    · exact truncate?_negSucc _ j

end Binary64
end FormIntake.Number
