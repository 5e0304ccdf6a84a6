import FormIntake.Form.Navigation
import FormIntake.Proofs.Form.Filling
import FormIntake.Proofs.Rendering.Plain
import FormIntake.Proofs.Visibility.Solution

/-! # Forms that differ in hidden values

Two forms are alike if they differ at most in the values of hidden elements (`Form.Alike`).  Nothing
that is asked of a form tells it from one that is like it: rules, reports and tokens
(`Form.Alike.rendered`), neighbouring pages, and validation (`Form.Alike.validate`).

Where no element depends on itself, a form filled in with two submissions that differ in hidden
values only is alike both times (`Form.alike_of_hidden`): the flags that the first submission leads
to are consistent with the second, and there is one consistent choice of flags. -/

namespace FormIntake

open Definition Template

/-- A submission with no values. -/
def Submission.withoutValues (submission : Submission) : Submission :=
  { submission with values := [] }

namespace Form

/-- Two forms differ at most in the values of hidden elements, and in those of the submissions that
they were filled in with. -/
structure Alike (form other : Form) : Prop where
  definition : form.definition = other.definition
  pages : form.pages = other.pages
  isHidden : ∀ id, form.isHidden id = other.isHidden id
  lookup : ∀ id, form.isHidden id = false → form.values.lookup id = other.values.lookup id
  faults : form.faults = other.faults
  current : form.current = other.current
  entryId : form.entryId = other.entryId
  submission :
    form.submission.map Submission.withoutValues = other.submission.map Submission.withoutValues

namespace Alike

variable {form other : Form} (h : form.Alike other)

include h

theorem value {field : Definition.Field Validator} (hv : form.isHidden field.id = false) :
    form.value field = other.value field := by
  rw [Form.value, Form.value, h.lookup field.id hv]

theorem nodes : form.nodes = other.nodes := by
  rw [Form.nodes, Form.nodes, h.pages]

theorem fields : form.fields = other.fields := by
  rw [Form.fields, Form.fields, h.pages]

theorem field? (id : Int) : form.field? id = other.field? id := by
  rw [Form.field?, Form.field?, Form.find?, Form.find?, h.nodes]

theorem phrase (key usual : String) : form.phrase key usual = other.phrase key usual := by
  rw [Form.phrase, Form.phrase, h.definition]

/-! ### Rules and reports -/

theorem ruleHolds (rule : Rule) :
    form.ruleHolds form.flags rule = other.ruleHolds other.flags rule := by
  rw [Form.ruleHolds, Form.ruleHolds, h.field?]
  cases other.field? rule.target with
  | none => rfl
  | some field =>
      have hid : form.flags.isHidden field.id = other.flags.isHidden field.id := h.isHidden field.id
      dsimp only
      rw [← hid]
      cases hv : form.flags.isHidden field.id with
      | true => rfl
      | false => rw [h.value hv]

theorem appears (logic : Logic) : form.appears logic = other.appears logic := by
  rw [Form.appears, Form.appears, funext h.ruleHolds]

theorem isEmpty {node : Node Validator} (hv : form.isHidden node.id = false) :
    form.isEmpty node.item = other.isEmpty node.item := by
  have hbelow : (node.item.fieldsBelow.all fun f => form.isHidden f.id || (form.value f).isEmpty) =
      node.item.fieldsBelow.all fun f => other.isHidden f.id || (other.value f).isEmpty := by
    congr 1
    funext f
    rw [← h.isHidden]
    cases hf : form.isHidden f.id with
    | true => rfl
    | false => rw [h.value hf]
  obtain ⟨item, parent⟩ := node
  cases item with
  | field f => exact congrArg FieldValue.isEmpty (h.value hv)
  | block b => rfl
  | page p => exact hbelow
  | group heading children => exact hbelow

theorem reportRow? {node : Node Validator} (hv : form.isHidden node.id = false) :
    form.reportRow? node.item = other.reportRow? node.item := by
  obtain ⟨item, parent⟩ := node
  cases item with
  | field f =>
      have hf : form.value f = other.value f := h.value hv
      simp only [Form.reportRow?, hf]
  | block b => rfl
  | page p => rfl
  | group heading children => rfl

theorem reportRows (showEmpty : Bool) : form.reportRows showEmpty = other.reportRows showEmpty := by
  rw [Form.reportRows, Form.reportRows, h.nodes]
  congr 1
  funext node
  rw [← h.isHidden]
  cases hv : form.isHidden node.id with
  | true => rfl
  | false => rw [h.isEmpty hv, h.reportRow? hv]

theorem reportText (format : Format) (token : Token) :
    Renderer.reportText form format token = Renderer.reportText other format token := by
  simp only [Renderer.reportText, Form.plainReport, Form.markupReport, Form.reportFragments,
    h.reportRows]

/-! ### Tokens -/

theorem fieldReference (reference : String) :
    Renderer.fieldReference form reference = Renderer.fieldReference other reference := by
  rw [Renderer.fieldReference, Renderer.fieldReference, funext h.field?]

theorem elementText (format : Format) (token : Token) :
    Renderer.elementText form format token = Renderer.elementText other format token := by
  unfold Renderer.elementText
  rw [funext h.fieldReference]
  cases token.param? "id" with
  | none => rfl
  | some reference =>
      dsimp only
      rcases Renderer.fieldReference other reference with ⟨_ | field, part⟩
      · rfl
      · dsimp only
        rw [← h.isHidden]
        cases hv : form.isHidden field.id with
        | true => rfl
        | false => rw [h.value hv]

theorem submission_bind : form.submission.bind Submission.numericPostId =
    other.submission.bind Submission.numericPostId := by
  have hbind : ∀ submission : Option Submission, submission.bind Submission.numericPostId =
      (submission.map Submission.withoutValues).bind Submission.numericPostId := by
    rintro (_ | submission) <;> rfl
  rw [hbind, h.submission, ← hbind]

theorem submission_map : form.submission.map Submission.referringUrl =
    other.submission.map Submission.referringUrl := by
  have hmap : ∀ submission : Option Submission, submission.map Submission.referringUrl =
      (submission.map Submission.withoutValues).map Submission.referringUrl := by
    rintro (_ | submission) <;> rfl
  rw [hmap, h.submission, ← hmap]

variable (renderer : Renderer) (format : Format) (request : Request)

theorem resolved (token : Token) :
    renderer.resolved form format token = renderer.resolved other format token := by
  simp only [Renderer.resolved, Form.name, h.definition, h.entryId, h.submission_bind,
    h.submission_map, h.elementText, h.reportText]

theorem ambientText (token : Token) :
    renderer.ambientText form format request token =
      renderer.ambientText other format request token := by
  simp only [Renderer.ambientText, Renderer.ambient?, h.definition]

theorem tokenText (token : Token) :
    renderer.tokenText form format request token =
      renderer.tokenText other format request token := by
  simp only [Renderer.tokenText, h.resolved, h.ambientText]

/-- Hidden values do not show in what is rendered. -/
theorem rendered (text : String) :
    renderer.rendered form format request text = renderer.rendered other format request text := by
  simp only [Renderer.rendered, h.tokenText]

omit renderer format request

/-! ### Pages and validation -/

theorem firstVisible? (pages : List (Page Validator)) :
    form.firstVisible? pages = other.firstVisible? pages := by
  rw [Form.firstVisible?, Form.firstVisible?, funext h.isHidden]

theorem nextPage? : form.nextPage? = other.nextPage? := by
  rw [Form.nextPage?, Form.nextPage?, h.pages, h.current, h.firstVisible?]

theorem previousPage? : form.previousPage? = other.previousPage? := by
  rw [Form.previousPage?, Form.previousPage?, h.pages, h.current, h.firstVisible?]

theorem currentPage? : form.currentPage? = other.currentPage? := by
  rw [Form.currentPage?, Form.currentPage?, h.pages, h.current]

theorem faultOf (field : Definition.Field Validator) :
    form.faultOf field = other.faultOf field := by
  rw [Form.faultOf, Form.faultOf, ← h.isHidden]
  cases hv : form.isHidden field.id with
  | true => rfl
  | false => rw [h.value hv]

theorem passes : form.passes = other.passes := by
  funext field
  rw [Form.passes, Form.passes, h.faultOf]

theorem checkedOn (page : Page Validator) : form.checkedOn page = other.checkedOn page := by
  rw [Form.checkedOn, Form.checkedOn, h.isHidden]

theorem checked : form.checked = other.checked := by
  rw [Form.checked, Form.checked, h.pages, funext h.checkedOn]

theorem mishap? (fields : List (Definition.Field Validator)) :
    form.mishap? fields = other.mishap? fields := by
  rw [Form.mishap?, Form.mishap?, funext h.faultOf]

theorem accepts (page : Page Validator) : form.accepts page = other.accepts page := by
  rw [Form.accepts, Form.accepts, h.checkedOn, h.passes]

theorem firstFaultyPage? : form.firstFaultyPage? = other.firstFaultyPage? := by
  rw [Form.firstFaultyPage?, Form.firstFaultyPage?, h.pages, funext h.accepts]

theorem faultsAmong (fields : List (Definition.Field Validator)) :
    form.faultsAmong fields = other.faultsAmong fields := by
  rw [Form.faultsAmong, Form.faultsAmong, funext h.isHidden, h.faults]

theorem errors : form.errors = other.errors := by
  rw [Form.errors, Form.errors, h.fields, h.faultsAmong]

theorem renewed (fields : List (Definition.Field Validator)) (faults : List (Int × String)) :
    form.renewed faults fields = other.renewed faults fields := by
  induction fields generalizing faults with
  | nil => rfl
  | cons field rest ih =>
      rw [Form.renewed, Form.renewed, h.faultOf]
      cases other.faultOf field with
      | error failure => rfl
      | ok message =>
          cases message with
          | none => exact ih _
          | some message => exact ih _

theorem validateFields (fields : List (Definition.Field Validator)) :
    (form.validateFields fields).Alike (other.validateFields fields) := by
  refine { h with faults := ?_ }
  show form.renewed form.faults fields = other.renewed other.faults fields
  rw [h.faults, h.renewed]

end Alike

/-! ### Submissions that differ in hidden values -/

section hidden

variable {form : Form} {first second : Submission}

/-- Flags that hide all fields for which the submissions differ mean the same for both. -/
theorem hides_bind {flags : Flags}
    (h : ∀ field ∈ form.fields, flags.isHidden field.id = false →
      first.valueFor field.id = second.valueFor field.id) (node : Node Validator) :
    (form.bind first).hides flags node = (form.bind second).hides flags node := by
  have hholds : ∀ rule, (form.bind first).ruleHolds flags rule =
      (form.bind second).ruleHolds flags rule := by
    intro rule
    have hfield : ∀ submission, (form.bind submission).field? rule.target =
      form.field? rule.target := fun _ => rfl
    rw [ruleHolds, ruleHolds, hfield, hfield]
    cases hf : form.field? rule.target with
    | none => rfl
    | some field =>
        have hm := (form.field?_eq_some_iff.mp hf).1
        dsimp only
        cases hv : flags.isHidden field.id with
        | true => rfl
        | false => rw [value_bind hm, value_bind hm, h field hm hv]
  rw [hides, hides, funext hholds]

/-- Filled in with submissions that differ in hidden values only, a form without cycles is alike. -/
theorem alike_of_hidden (hc : form.Acyclic) (hs : first.withoutValues = second.withoutValues)
    (hv : ∀ field ∈ form.fields, (form.bind first).refreshVisibility.isHidden field.id = false →
      first.valueFor field.id = second.valueFor field.id) :
    ((form.bind first).refreshVisibility.goTo first.page).Alike
      ((form.bind second).refreshVisibility.goTo second.page) := by
  have hone : (form.bind first).Acyclic := hc
  have htwo : (form.bind second).Acyclic := hc
  have hconsistent : (form.bind second).Consistent (form.bind first).refreshVisibility.flags := by
    rw [consistent_iff]
    intro node hn
    rw [← hides_bind hv]
    exact (consistent_iff _).mp hone.consistent node hn
  have hhidden : ∀ id, (form.bind first).refreshVisibility.isHidden id =
      (form.bind second).refreshVisibility.isHidden id := by
    intro id
    by_cases hid : id ∈ form.nodes.map Node.id
    · exact htwo.isHidden_eq hconsistent hid
    · rw [(form.bind first).isHidden_refreshVisibility_of_notMem hid,
        (form.bind second).isHidden_refreshVisibility_of_notMem hid]
  refine ⟨rfl, rfl, hhidden, ?_, rfl, ?_, rfl, congrArg some hs⟩
  · intro id hid
    apply lookup_map_congr
    intro field hf he
    subst he
    rw [hv field hf hid]
  · have hpage : first.page = second.page :=
      congrArg (fun submission => submission.page) hs
    rw [hpage]
    rfl

end hidden

end Form
end FormIntake
