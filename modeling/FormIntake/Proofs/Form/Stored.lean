import Mathlib.Data.Set.Operations
import FormIntake.Form.Basic
import FormIntake.Proofs.Json.Texts

/-! # Stored values

What is kept of a value stands for it: `FieldKind.decode` reads a text of the store as a value of a
kind, and reads what was stored as the value that it was made of (`FieldKind.decode_stored`), for
every value that a field of the kind can have (`FieldKind.Holds`, `FieldKind.holds_coerce`).

What is stored can also be filled in again: as what a field of the kind is filled in with
(`FieldKind.unstored`) it makes the value that it was made of (`Form.setValue_unstored`). -/

namespace FormIntake

open Definition

/-- What a field is filled in with to have the value: a text, a list of texts, or texts under names,
in their order. -/
def FieldValue.content : FieldValue → Value
  | .text s => .text s
  | .options items => .list (items.map .text)
  | .parts entries => .record (entries.map fun (name, part) => (name, .text part))

namespace Definition.FieldKind

/-- The value that a text of the store stands for: the text itself, or for options and parts the
texts of a JSON list or mapping. -/
def decode : FieldKind → String → Option FieldValue
  | .text, s => some (.text s)
  | .multi, s =>
    match Json.parse s with
    | .ok (.list items) => (items.mapM Value.asText?).map .options
    | _ => none
  | .compound, s =>
    match Json.parse s with
    | .ok (.mapping entries) => (entries.mapM named?).map .parts
    | _ => none
where
  /-- A text under a text key. -/
  named? : Scalar × Value → Option (String × String)
    | (.text key, .text s) => some (key, s)
    | _ => none

/-- A field of the kind can have the value: it is of the kind's shape, and no two parts share a
name. -/
def Holds : FieldKind → FieldValue → Prop
  | .text, .text _ => True
  | .multi, .options _ => True
  | .compound, .parts entries => (entries.map Prod.fst).Nodup
  | _, _ => False

/-- Whatever is submitted becomes a value that the field can have. -/
theorem holds_coerce (kind : FieldKind) (raw : Value) : kind.Holds (kind.coerce raw) := by
  cases kind with
  | text => trivial
  | multi => cases raw <;> trivial
  | compound =>
      cases raw with
      | scalar s => exact List.nodup_nil
      | list items => exact List.nodup_nil
      | mapping entries => exact Assoc.nodup_keys_ofList _

/-- A list is read as it was written if each of its elements is. -/
theorem mapM_map {α β : Type} {read : β → Option α} {write : α → β}
    (h : ∀ a, read (write a) = some a) (as : List α) : (as.map write).mapM read = some as := by
  induction as with
  | nil => rfl
  | cons a rest ih => simp [h a, ih]

/-- Named parts as a value are a mapping of texts under texts. -/
theorem content_parts (entries : List (String × String)) :
    (FieldValue.parts entries).content = .mapping (entries.map Json.textEntry) := by
  rw [FieldValue.content, Value.record, List.map_map]
  rfl

/-- What is stored of a value is read as the value. -/
theorem decode_stored : ∀ {kind : FieldKind} {value : FieldValue}, kind.Holds value →
    kind.decode value.stored = some value
  | .text, .text s, _ => rfl
  | .multi, .options items, _ => by
    have htext : ∀ s, (Value.text s).asText? = some s := fun _ => rfl
    simp only [decode, FieldValue.stored, Json.parse_print_texts, mapM_map htext, Option.map_some]
  | .compound, .parts entries, h => by
    have hstored : (FieldValue.parts entries).stored =
        Json.print (.mapping (entries.map Json.textEntry)) := congrArg Json.print (content_parts entries)
    have hnamed : ∀ entry, decode.named? (Json.textEntry entry) = some entry := fun _ => rfl
    simp only [decode, hstored, Json.parse_print_entries h, mapM_map hnamed, Option.map_some]

/-- Values of a kind that are stored alike are the same. -/
theorem injOn_stored (kind : FieldKind) : Set.InjOn FieldValue.stored (Set.range kind.coerce) := by
  rintro _ ⟨raw, rfl⟩ _ ⟨other, rfl⟩ h
  have hraw := decode_stored (holds_coerce kind raw)
  have hother := decode_stored (holds_coerce kind other)
  rw [h, hother] at hraw
  exact (Option.some.inj hraw).symm

/-! ### Filling in again -/

/-- A text of the store as what a field is filled in with: the text itself, or for options and parts
the JSON that it is. -/
def unstored : FieldKind → String → Except Json.Fault Value
  | .text, s => .ok (.text s)
  | .multi, s => Json.parse s
  | .compound, s => Json.parse s

theorem unstored_stored : ∀ {kind : FieldKind} {value : FieldValue}, kind.Holds value →
    kind.unstored value.stored = .ok value.content
  | .text, .text s, _ => rfl
  | .multi, .options items, _ => Json.parse_print_texts items
  | .compound, .parts entries, h => by
    show Json.parse (Json.print (FieldValue.parts entries).content) = _
    rw [content_parts]
    exact Json.parse_print_entries h

theorem plain?_text (s : String) : plain? (.text s) = some s := by simp [plain?, Scalar.isPlain]

theorem plainEntry?_textEntry (entry : String × String) :
    plainEntry? (Json.textEntry entry) = some entry := by
  rw [Json.textEntry, plainEntry?, plain?_text, Option.map_some, Scalar.shown_text]

/-- A field that is filled in with the content of a value of its kind has the value. -/
theorem coerce_content : ∀ {kind : FieldKind} {value : FieldValue}, kind.Holds value →
    kind.coerce value.content = value
  | .text, .text s, _ => by rw [FieldValue.content, coerce, plain?_text, Option.getD_some]
  | .multi, .options items, _ => by
    rw [FieldValue.content, coerce, mapM_map plain?_text, Option.getD_some]
  | .compound, .parts entries, h => by
    rw [content_parts, coerce, mapM_map plainEntry?_textEntry, Option.getD_some,
      Assoc.ofList_eq_self h]

end Definition.FieldKind

namespace Form

theorem value_setValue (form : Form) (field : Definition.Field Validator) (raw : Value) :
    (form.setValue field raw).value field = field.kind.coerce raw := by
  rw [value, setValue, Assoc.lookup_put, if_pos rfl, Option.getD_some]

/-- What is stored of a field that was filled in is read as the content of its value, with which the
field gets the value again, and no other value of its kind is stored as the same text. -/
theorem setValue_unstored (form : Form) (field : Definition.Field Validator) (raw : Value) :
    let value := (form.setValue field raw).value field
    field.kind.unstored value.stored = .ok value.content ∧
      (∀ other : Form, (other.setValue field value.content).value field = value) ∧
      value ∈ Set.range field.kind.coerce ∧
      Set.InjOn FieldValue.stored (Set.range field.kind.coerce) := by
  intro value
  have hvalue : value = field.kind.coerce raw := form.value_setValue field raw
  have hholds : field.kind.Holds value := hvalue ▸ FieldKind.holds_coerce field.kind raw
  refine ⟨FieldKind.unstored_stored hholds, fun other => ?_, ⟨raw, hvalue.symm⟩,
    FieldKind.injOn_stored field.kind⟩
  rw [value_setValue, FieldKind.coerce_content hholds]

end Form
end FormIntake
