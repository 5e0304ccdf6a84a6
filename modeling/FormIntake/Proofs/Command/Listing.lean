import FormIntake.Command.Outline
import FormIntake.Form.Standard
import FormIntake.Proofs.Form.Building

/-! # Forms and their outlines

What a sound definition describes is found again in the form that is built of it, and in the outline that
is printed of the form: the same elements in the same order (`Form.Mirrors`).  The outline has one line
for each element (`Command.tells_elementLines`).

Building such a definition fails only for the first field that cannot be built
(`Form.mirrors_or_fault`). -/

namespace FormIntake

open Definition

/-! ### Lines -/

namespace Command

/-- The line is that of the element, at whatever depth. -/
def Tells (line : String) (node : Node Validator) : Prop := ∃ depth, line = describe depth node.item

mutual

theorem tells_elementLines (depth : Nat) (parent : Int) : ∀ element : Element Validator,
    List.Forall₂ Tells (elementLines depth element) (element.nodes parent)
  | .field _ => .cons ⟨depth, rfl⟩ .nil
  | .block _ => .cons ⟨depth, rfl⟩ .nil
  | .group heading children => by
    rw [elementLines, Element.nodes]
    exact .cons ⟨depth, rfl⟩ (tells_childLines (depth + 1) heading.id children)

theorem tells_childLines (depth : Nat) (parent : Int) : ∀ elements : List (Element Validator),
    List.Forall₂ Tells (childLines depth elements) (Element.nodesOf parent elements)
  | [] => .nil
  | element :: rest => by
    rw [childLines, Element.nodesOf]
    exact List.rel_append (tells_elementLines depth parent element) (tells_childLines depth parent rest)

end

theorem tells_pageLines (page : Page Validator) : List.Forall₂ Tells (pageLines page) page.nodes :=
  .cons ⟨1, rfl⟩ (tells_childLines 2 page.id page.children)

/-- The lines of some pages are those of their elements in reading order. -/
theorem tells_flatMap_pageLines : ∀ pages : List (Page Validator),
    List.Forall₂ Tells (pages.flatMap pageLines) (pages.flatMap Page.nodes)
  | [] => .nil
  | page :: rest => by
    rw [List.flatMap_cons, List.flatMap_cons]
    exact List.rel_append (tells_pageLines page) (tells_flatMap_pageLines rest)

end Command

/-! ### Forms -/

namespace Form

open Command

/-- Every element that a rule of the logic looks at is found. -/
def FindsTargets (form : Form) (logic : Logic) : Prop :=
  ∀ rule ∈ logic.rules, ∃ node ∈ form.nodes, form.find? rule.target = some node

/-- The form is the tree that its definition describes.  Beside being made of the counterparts of what is
defined, it has the ids of the definition in their order, and its outline has a line for each of them;
whatever is no page is listed by its parent, and whatever is listed has its lister as its parent; elements
are found by their ids, and so are those that rules look at. -/
structure Mirrors (registry : Registry) (definition : FormDefinition) (form : Form) : Prop
    extends form.Realizes registry definition where
  ids_eq : form.nodes.map Node.id = definition.ids
  outline_eq : ∃ title lines, outline form = title :: lines ++ [countLine form] ∧
    List.Forall₂ Tells lines form.nodes
  listed : ∀ node ∈ form.nodes, (∃ page ∈ form.pages, node = ⟨.page page, none⟩) ∨
    ∃ holder ∈ form.nodes, holder.Lists node
  mem_of_listed : ∀ holder ∈ form.nodes, ∀ element ∈ holder.item.children,
    ⟨element.item, some holder.id⟩ ∈ form.nodes
  find?_id : ∀ node ∈ form.nodes, form.find? node.id = some node
  find?_eq_none : ∀ id ∉ definition.ids, form.find? id = none
  find?_target : ∀ node ∈ form.nodes, form.FindsTargets node.item.logic
  find?_target_notification : ∀ notification ∈ definition.notifications,
    form.FindsTargets notification.logic
  find?_target_confirmation : ∀ confirmation ∈ definition.confirmations,
    form.FindsTargets confirmation.logic

variable {registry : Registry} {definition : FormDefinition}

theorem findsTargets_of_mem {form : Form} (h : form.Realizes registry definition)
    (hsound : definition.Sound) {owned : String × Logic} (ho : owned ∈ definition.logics) :
    form.FindsTargets owned.2 := by
  intro rule hr
  have hid := hsound.rules_known owned ho rule hr
  rw [FormDefinition.ids, ← map_id_of_realizes h.nodes] at hid
  obtain ⟨node, hn, hsame⟩ := List.mem_map.mp hid
  exact ⟨node, hn, hsame ▸ form.find?_id hn⟩

theorem Realizes.mirrors {form : Form} (h : form.Realizes registry definition)
    (hsound : definition.Sound) : form.Mirrors registry definition where
  toRealizes := h
  ids_eq := map_id_of_realizes h.nodes
  outline_eq := ⟨_, _, rfl, tells_flatMap_pageLines form.pages⟩
  listed _ := form.listed_of_mem
  mem_of_listed _ hh _ := form.mem_of_listed hh
  find?_id _ := form.find?_id
  find?_eq_none id hid := by
    rw [FormDefinition.ids, ← map_id_of_realizes h.nodes] at hid
    exact List.find?_eq_none.mpr fun node hn hsame =>
      hid (List.mem_map.mpr ⟨node, hn, of_decide_eq_true hsame⟩)
  find?_target node hn := by
    obtain ⟨defined, hd, hnode⟩ := exists_of_forall₂ h.nodes.flip node hn
    rw [hnode.item.logic_eq]
    exact findsTargets_of_mem h hsound
      (List.mem_append_left _ (List.mem_append_left _ (List.mem_map_of_mem hd)))
  find?_target_notification _ hn := findsTargets_of_mem h hsound
    (List.mem_append_left _ (List.mem_append_right _ (List.mem_map_of_mem hn)))
  find?_target_confirmation _ hc := findsTargets_of_mem h hsound
    (List.mem_append_right _ (List.mem_map_of_mem hc))

/-- A sound definition always builds the tree that it describes, but for a field with a validator that
cannot be made, or with a default that has no text.  Building ends with the failure of the first of these,
in reading order. -/
theorem mirrors_or_fault (registry : Registry) (h : definition.Sound) :
    (∃ form, build registry definition = .ok form ∧ form.Mirrors registry definition) ∨
    ∃ failure, build registry definition = .error failure ∧
      FirstFault registry (fieldsAmong definition.nodes) failure := by
  rcases realizes_or_fault registry h with ⟨form, hform, hreal⟩ | hfault
  · exact .inl ⟨form, hform, hreal.mirrors h⟩
  · exact .inr hfault

/-- A field with a limit. -/
def nameField : Definition.Field Check where
  id := 3
  label := "Name"
  required := true
  default := .text "Ann"
  validators := [{ type := "length", options := [("min", .int 2)] }]

/-- A page with a group that has the field, and with a block of which a rule looks at it. -/
def petition : FormDefinition where
  id := 1
  pages := [⟨{ id := 1 }, [.group { id := 2, label := "You" } [.field nameField],
    .block { id := 4, logic := { enabled := true, rules := [{ target := 3 }] } }]⟩]

theorem sound_petition : petition.Sound :=
  ⟨by decide, by decide, by decide, by decide⟩

theorem mirrors_petition :
    petition.Sound ∧ ∃ form, build .standard petition = .ok form ∧ form.Mirrors .standard petition := by
  refine ⟨sound_petition, ?_⟩
  rcases mirrors_or_fault .standard sound_petition with hform | ⟨failure, hfailure, -⟩
  · exact hform
  · have hok : (build .standard petition).toOption.isSome = true := by decide +kernel
    rw [hfailure] at hok
    cases hok

/-- A field without validators whose default is a number that is too long for a text. -/
def overlongField : Definition.Field Check where
  id := 2
  default := .int (.ofNat (Nat.pow 16 4000 - 1))

def overlong : FormDefinition where
  id := 1
  pages := [⟨{ id := 1 }, [.field overlongField]⟩]

theorem fieldsAmong_overlong : fieldsAmong overlong.nodes = [overlongField] := rfl

/-- Building can fail without any validator. -/
theorem build_overlong :
    overlong.Sound ∧ (∀ field ∈ fieldsAmong overlong.nodes, field.validators = []) ∧
      build .standard overlong = .error .unwritableNumber := by
  have hsound : overlong.Sound := ⟨by decide, by decide, by decide, by decide⟩
  have hdefault : overlongField.kind.isCoercible overlongField.default = false := by decide +kernel
  refine ⟨hsound, fun field hf => ?_, ?_⟩
  · rw [fieldsAmong_overlong, List.mem_singleton] at hf
    rw [hf]
    rfl
  · rw [build_eq_error_iff .standard hsound, fieldsAmong_overlong]
    exact ⟨[], overlongField, [], rfl, List.forall_mem_nil _,
      .default (List.forall_mem_nil _) hdefault⟩

end Form
end FormIntake
