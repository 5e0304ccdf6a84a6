import Mathlib.Data.List.TakeWhile
import FormIntake.Number.Integer

/-! # Reading digits

Not every text of digits is a whole number that can be read: its digits have to be decimal ones, and
there must not be too many of them (`exists_readInteger_iff`). -/

namespace FormIntake.Number

open Text

variable {c : Char} {text : List Char}

/-! ### Digits beside other characters -/

theorem isBlank_of_isDigitLike (h : isDigitLike c = true) : isBlank c = false := by
  have hall : ∀ n ∈ blankPoints, (decimalZeros.find? fun z => z ≤ n && n < z + 10) = none ∧
      otherDigits.has n = false := by decide
  rw [← Bool.not_eq_true, isBlank, List.contains_iff_mem]
  intro hb
  obtain ⟨hz, ho⟩ := hall c.toNat hb
  rw [isDigitLike, isDecimal, digitValue?, hz, ho] at h
  cases h

theorem unpadded_of_isDigitLike (h : ∀ c ∈ text, isDigitLike c = true) : unpadded text = text := by
  have hp : ∀ c ∈ text, isPadding c = false := by
    intro c hc
    rw [isPadding, isBlank_of_isDigitLike (h c hc), Bool.false_and]
  rw [unpadded, dropWhile_eq_self fun c hc => hp c (List.mem_of_mem_head? hc), dropEndWhile,
    dropWhile_eq_self, List.reverse_reverse]
  intro c hc
  exact hp c (List.mem_reverse.mp (List.mem_of_mem_head? hc))

theorem splitSign_of_isDigitLike (h : ∀ c ∈ text, isDigitLike c = true) :
    splitSign text = (false, text) := by
  unfold splitSign
  split
  · exact absurd (h '-' List.mem_cons_self) (by decide)
  · exact absurd (h '+' List.mem_cons_self) (by decide)
  · rfl

/-- The head of digits is the whole text if all digits are decimal ones. -/
theorem digitHead_eq_self_iff (h : ∀ c ∈ text, isDigitLike c = true) :
    digitHead text = text ↔ ∀ c ∈ text, isDecimal c = true := by
  rw [digitHead, List.takeWhile_eq_self_iff]
  refine forall₂_congr fun c hc => ?_
  have hu : c ≠ '_' := by
    rintro rfl
    exact absurd (h '_' hc) (by decide)
  rw [decide_eq_false hu, Bool.or_false]

/-! ### Runs of digits -/

theorem exists_readDigitRun (hn : text ≠ []) (h : ∀ c ∈ text, isDecimal c = true) :
    ∃ values, readDigitRun text = some values ∧ values.length = text.length := by
  induction text with
  | nil => exact absurd rfl hn
  | cons c rest ih =>
      obtain ⟨hc, hrest⟩ := List.forall_mem_cons.mp h
      obtain ⟨d, hd⟩ := Option.isSome_iff_exists.mp hc
      cases rest with
      | nil => exact ⟨[d], by rw [readDigitRun, hd, Option.map_some], rfl⟩
      | cons next more =>
          obtain ⟨values, hv, hl⟩ := ih (List.cons_ne_nil next more) hrest
          have hu : next ≠ '_' := by
            rintro rfl
            exact absurd (hrest '_' List.mem_cons_self) (by decide)
          refine ⟨d :: values, ?_, congrArg (· + 1) hl⟩
          rw [readDigitRun, hd, hv]
          · rfl
          · exact List.cons_ne_nil next more
          · rintro rest ⟨⟩
            exact hu rfl

/-- Digits of any kind are a whole number if all of them are decimal ones and there are not too
many. -/
theorem exists_readInteger_iff (hn : text ≠ []) (h : ∀ c ∈ text, isDigitLike c = true) :
    (∃ n, readInteger text = .ok n) ↔
      (∀ c ∈ text, isDecimal c = true) ∧ text.length ≤ maxDigits := by
  rw [readInteger, unpadded_of_isDigitLike h, splitSign_of_isDigitLike h]
  dsimp only
  by_cases hd : ∀ c ∈ text, isDecimal c = true
  · obtain ⟨values, hv, hl⟩ := exists_readDigitRun hn hd
    rw [(digitHead_eq_self_iff h).mpr hd, hv, ← hl]
    dsimp only
    by_cases hm : maxDigits < values.length
    · rw [if_pos hm]
      simp [hm]
    · rw [if_neg hm, if_pos rfl]
      exact iff_of_true ⟨_, rfl⟩ ⟨hd, Nat.le_of_not_lt hm⟩
  · have hh : digitHead text ≠ text := mt (digitHead_eq_self_iff h).mp hd
    refine iff_of_false ?_ fun hall => hd hall.1
    rintro ⟨n, hr⟩
    split at hr
    · cases hr
    · rw [if_neg hh] at hr
      split at hr <;> cases hr

example : readInteger "१²".toList = .error .notWhole := by decide

end FormIntake.Number
