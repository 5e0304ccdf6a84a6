import FormIntake.Form.Validation
import FormIntake.Proofs.Visibility.Pass

/-! # Filling in and validating

After `Form.bind` a field has what was submitted for it as a value of its kind (`Form.value_bind`).
Validation writes messages and nothing else (`Form.filling_validateFields`), and where it finds no faulty
page, every visible field takes the value that it has (`Form.takes_of_firstFaultyPage?_eq_none`). -/

namespace FormIntake

open Definition

/-- What a form was made of and filled in with: its pages, the values of its fields, and which
elements are hidden. -/
structure Filling where
  pages : List (Page Validator)
  values : List (Int × FieldValue)
  flags : Flags

/-- A field takes a value: it is not empty if the field is required, and if it is not empty all
validators of the field accept it. -/
structure Definition.Field.Takes (field : Definition.Field Validator) (value : FieldValue) :
    Prop where
  present : field.required = true → value.isEmpty = false
  accepted : value.isEmpty = false → ∀ validator ∈ field.validators, validator value = .ok none

/-- Validators have nothing to say of a value that all of them accept. -/
theorem Validator.firstMessage_eq_none_iff {value : FieldValue} : ∀ {validators : List Validator},
    firstMessage validators value = .ok none ↔ ∀ validator ∈ validators, validator value = .ok none
  | [] => by simp [firstMessage]
  | validator :: rest => by
    rw [List.forall_mem_cons, ← firstMessage_eq_none_iff, firstMessage]
    split
    · next hs => rw [and_iff_right hs]
    · next hs => exact ⟨fun h => absurd h hs, fun h => absurd h.1 hs⟩

theorem Definition.Field.takes_of_faultOf_eq_none {field : Definition.Field Validator}
    {value : FieldValue} (h : field.faultOf value = .ok none) : field.Takes value := by
  unfold faultOf at h
  cases he : value.isEmpty with
  | true =>
      rw [he, if_pos rfl] at h
      constructor
      · intro hr
        rw [hr, if_pos rfl] at h
        cases h
      · intro hn
        cases he.symm.trans hn
  | false =>
      rw [he, if_neg Bool.false_ne_true, Validator.firstMessage_eq_none_iff] at h
      constructor
      · exact fun _ => he
      · exact fun _ => h

theorem Definition.Field.Takes.faultOf_eq_none {field : Definition.Field Validator}
    {value : FieldValue} (h : field.Takes value) : field.faultOf value = .ok none := by
  unfold faultOf
  cases he : value.isEmpty with
  | true =>
      have hr : field.required = false := by
        by_contra hr
        rw [h.present (by simpa using hr)] at he
        cases he
      rw [hr, if_pos rfl, if_neg Bool.false_ne_true]
  | false =>
      rw [if_neg Bool.false_ne_true, Validator.firstMessage_eq_none_iff]
      exact h.accepted he

theorem Definition.Field.faultOf_eq_none_iff {field : Definition.Field Validator}
    {value : FieldValue} : field.faultOf value = .ok none ↔ field.Takes value :=
  ⟨takes_of_faultOf_eq_none, Takes.faultOf_eq_none⟩

instance (said : Except Failure (Option String)) : Decidable (said = .ok none) :=
  match said with
  | .ok none => .isTrue rfl
  | .ok (some _) => .isFalse (by rintro ⟨⟩)
  | .error _ => .isFalse (by rintro ⟨⟩)

instance (field : Definition.Field Validator) (value : FieldValue) : Decidable (field.Takes value) :=
  decidable_of_iff _ Definition.Field.faultOf_eq_none_iff

namespace Form

variable {form other : Form}

/-! ### Values -/

theorem field_ext {f g : Definition.Field Validator} (hf : f ∈ form.fields) (hg : g ∈ form.fields)
    (h : f.id = g.id) : f = g := by
  have hsome : form.field? f.id = some f := form.field?_eq_some_iff.mpr ⟨hf, rfl⟩
  rw [h, form.field?_eq_some_iff.mpr ⟨hg, rfl⟩] at hsome
  exact (Option.some.inj hsome).symm

/-- What is found of the fields' values under an id hangs on the fields with this id only. -/
theorem lookup_map_congr {v w : Definition.Field Validator → FieldValue} {id : Int} :
    ∀ {fields : List (Definition.Field Validator)}, (∀ f ∈ fields, f.id = id → v f = w f) →
      (fields.map fun f => (f.id, v f)).lookup id = (fields.map fun f => (f.id, w f)).lookup id
  | [], _ => rfl
  | f :: rest, h => by
    simp only [List.map_cons, List.lookup_cons]
    by_cases hf : id = f.id
    · rw [hf, beq_self_eq_true, h f List.mem_cons_self hf.symm]
    · rw [beq_false_of_ne hf, lookup_map_congr fun g hg => h g (List.mem_cons_of_mem _ hg)]

theorem lookup_map_const {value : FieldValue} {id : Int} :
    ∀ {fields : List (Definition.Field Validator)}, id ∈ fields.map (·.id) →
      (fields.map fun f => (f.id, value)).lookup id = some value
  | [], h => by cases h
  | f :: rest, h => by
    simp only [List.map_cons, List.lookup_cons]
    by_cases hf : id = f.id
    · rw [hf, beq_self_eq_true]
    · rw [beq_false_of_ne hf]
      exact lookup_map_const ((List.mem_cons.mp h).resolve_left hf)

/-- A field that was filled in has what was submitted for it, as a value of its kind. -/
theorem value_bind {field : Definition.Field Validator} (h : field ∈ form.fields)
    (submission : Submission) :
    (form.bind submission).value field = field.kind.coerce (submission.valueFor field.id) := by
  show (List.lookup field.id (form.fields.map fun f =>
    (f.id, f.kind.coerce (submission.valueFor f.id)))).getD _ = _
  have hc : ∀ f ∈ form.fields, f.id = field.id → f.kind.coerce (submission.valueFor f.id) =
      field.kind.coerce (submission.valueFor field.id) := fun f hf he => by rw [field_ext hf h he]
  rw [lookup_map_congr hc, lookup_map_const (List.mem_map_of_mem h), Option.getD_some]

/-! ### Validation -/

def filling (form : Form) : Filling where
  pages := form.pages
  values := form.values
  flags := form.flags

/-- Validation changes nothing of a form but its messages. -/
theorem filling_validateFields (form : Form) (fields : List (Definition.Field Validator)) :
    (form.validateFields fields).filling = form.filling := rfl

theorem passes_iff {field : Definition.Field Validator} :
    form.passes field = true ↔ form.faultOf field = .ok none := by
  unfold passes
  split
  · next h => simp [h]
  · next h => simpa using h

/-- No validator fails over the fields of a page that is accepted. -/
theorem mishap?_of_accepts {page : Page Validator} (h : form.accepts page = true) :
    form.mishap? (form.checkedOn page) = none := by
  rw [accepts, List.all_eq_true] at h
  rw [mishap?, List.findSome?_eq_none_iff]
  intro field hf
  rw [passes_iff.mp (h field hf)]

section filling

variable (h : other.filling = form.filling)

include h

theorem isHidden_of_filling (id : Int) : other.isHidden id = form.isHidden id :=
  congrArg (fun filling => filling.flags.isHidden id) h

theorem fields_of_filling : other.fields = form.fields :=
  congrArg (fun filling => filling.pages.flatMap Page.fields) h

theorem value_of_filling (field : Definition.Field Validator) :
    other.value field = form.value field :=
  congrArg (fun filling => (filling.values.lookup field.id).getD field.kind.emptyValue) h

theorem faultOf_of_filling (field : Definition.Field Validator) :
    other.faultOf field = form.faultOf field := by
  simp only [faultOf, isHidden_of_filling h, value_of_filling h]

theorem passes_of_filling : other.passes = form.passes := by
  funext field
  simp only [passes, faultOf_of_filling h]

theorem accepts_of_filling (page : Page Validator) : other.accepts page = form.accepts page := by
  simp only [accepts, checkedOn, passes_of_filling h, isHidden_of_filling h]

theorem mishap?_checked_of_filling : other.mishap? other.checked = form.mishap? form.checked := by
  have hpages : other.pages = form.pages := congrArg Filling.pages h
  have hchecked : other.checkedOn = form.checkedOn := by
    funext page
    simp only [checkedOn, isHidden_of_filling h]
  simp only [mishap?, checked, hpages, hchecked, faultOf_of_filling h]

theorem firstFaultyPage?_of_filling : other.firstFaultyPage? = form.firstFaultyPage? := by
  have hpages : other.pages = form.pages := congrArg Filling.pages h
  simp only [firstFaultyPage?, hpages, accepts_of_filling h]

theorem HidesBelow.of_filling (hf : form.HidesBelow) : other.HidesBelow := by
  have hnodes : other.nodes = form.nodes := congrArg (fun filling => filling.pages.flatMap Page.nodes) h
  intro node hn hh below hb
  rw [isHidden_of_filling h] at hh ⊢
  exact hf node (hnodes ▸ hn) hh below hb

end filling

/-- A page has the fields that are validated with it. -/
theorem checkedOn_subset (form : Form) (page : Page Validator) : form.checkedOn page ⊆ page.fields := by
  unfold checkedOn
  split
  · exact List.nil_subset _
  · exact List.Subset.refl _

theorem checked_subset (form : Form) : form.checked ⊆ form.fields := by
  intro field hf
  obtain ⟨page, hp, hf⟩ := List.mem_flatMap.mp hf
  exact List.mem_flatMap_of_mem hp (form.checkedOn_subset page hf)

/-- A page with a visible field is visible where hidden pages hide their fields. -/
theorem isHidden_page_eq_false (hb : form.HidesBelow) {page : Page Validator}
    (hp : page ∈ form.pages) {field : Definition.Field Validator} (hf : field ∈ page.fields)
    (hv : form.isHidden field.id = false) : form.isHidden page.id = false := by
  rw [← Bool.not_eq_true]
  intro hh
  obtain ⟨node, hn, hi⟩ := mem_page_fields_iff.mp hf
  have hbelow := hb _ (form.page_mem_nodes hp) hh node hn
  have hid : node.id = field.id := Item.id_of_field? hi
  rw [hid, hv] at hbelow
  cases hbelow

/-- Where no page is faulty every visible field takes its value. -/
theorem takes_of_firstFaultyPage?_eq_none (hb : form.HidesBelow)
    (h : form.firstFaultyPage? = none) {field : Definition.Field Validator}
    (hf : field ∈ form.fields) (hv : form.isHidden field.id = false) : field.Takes (form.value field) := by
  obtain ⟨page, hp, hf⟩ := List.mem_flatMap.mp hf
  have ha : form.accepts page = true := by simpa using List.find?_eq_none.mp h page hp
  rw [accepts, checkedOn, isHidden_page_eq_false hb hp hf hv, if_neg Bool.false_ne_true,
    List.all_eq_true] at ha
  have hnone : form.faultOf field = .ok none := passes_iff.mp (ha field hf)
  rw [faultOf, hv, if_neg Bool.false_ne_true] at hnone
  exact Field.takes_of_faultOf_eq_none hnone

section takes

variable (h : ∀ field ∈ form.fields, form.isHidden field.id = false → field.Takes (form.value field))

include h

/-- Where every visible field takes its value there is nothing to say of any field. -/
theorem faultOf_eq_none_of_takes {field : Definition.Field Validator} (hf : field ∈ form.fields) :
    form.faultOf field = .ok none := by
  rw [faultOf]
  split
  · rfl
  · next hv => exact (h field hf (by simpa using hv)).faultOf_eq_none

theorem mishap?_eq_none_of_takes {fields : List (Definition.Field Validator)}
    (hs : fields ⊆ form.fields) : form.mishap? fields = none := by
  rw [mishap?, List.findSome?_eq_none_iff]
  intro field hf
  rw [faultOf_eq_none_of_takes h (hs hf)]

/-- Where every visible field takes its value no page is faulty. -/
theorem accepts_of_takes {page : Page Validator} (hp : page ∈ form.pages) :
    form.accepts page = true := by
  rw [accepts, List.all_eq_true]
  intro field hf
  exact passes_iff.mpr (faultOf_eq_none_of_takes h
    (List.mem_flatMap_of_mem hp (form.checkedOn_subset page hf)))

theorem firstFaultyPage?_eq_none_of_takes : form.firstFaultyPage? = none := by
  rw [firstFaultyPage?, List.find?_eq_none]
  intro page hp
  simp [accepts_of_takes h hp]

end takes

end Form
end FormIntake
