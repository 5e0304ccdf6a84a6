import FormIntake.Proofs.Intake.Acceptance
import FormIntake.Proofs.Intake.Keeping
import FormIntake.Proofs.Form.Stored

/-! # What a run adds to the repository

Without extensions a run that changes the repository, or accepts its submission, has come to
completion with the form as it was submitted (`Intake.exists_reaches`).  An accepted submission to a
form that is not copied adds one entry with the values of its visible fields, and nothing else
(`Intake.gains_of_process`).

This is about numbered repositories, in which the number of the next entry is positive and free.
Empty ones are numbered, and every run, whatever comes of it, leaves a numbered repository numbered
(`Intake.numbered_of_process`). -/

namespace FormIntake

open Definition Effect

/-! ### The way to completion -/

/-- The definition of a run's form. -/
def Run.definition (run : Run) : FormDefinition := run.desk.form.definition

theorem fixes_definition_change {update : Form → Form}
    (h : ∀ form, (update form).definition = form.definition) :
    Fixes Run.definition (Step.change update) := fun run => ⟨h run.desk.form, fun _ _ => trivial⟩

namespace Intake

theorem fixes_definition_navigate (submission : Submission) :
    Fixes Run.definition (navigate submission) := by
  have hfields : ∀ fields, Fixes Run.definition (Step.change (·.validateFields fields)) :=
    fun _ => fixes_definition_change fun _ => rfl
  have hlog : ∀ level event fields, Fixes Run.definition (Step.log level event fields) := fun _ _ _ =>
    (Step.fixes_log _ _ _).comp fun standing => standing.1.form.definition
  exact (keeps_view_navigate hfields hlog submission).mono fun _ _ => trivial

/-- A run has been let in at the gates and comes to completion with the form filled in, its elements
hidden and shown, and nothing stored. -/
structure Reaches (service : Service) (submission : Submission) (request : Request)
    (run checked : Run) : Prop where
  checkGates_eq : ∃ known admitted, known.standing = run.standing ∧
    outcome (checkGates service request) known = (.ok none, admitted)
  repository_eq : checked.repository = run.repository
  definition_eq : checked.desk.form.definition = run.desk.form.definition
  filling_eq : checked.desk.form.filling =
    (run.desk.form.bind (withUploads service submission)).refreshVisibility.filling
  outcome_eq : outcome (process service submission request) run =
    outcome (Completion.conclude service (withUploads service submission) request) checked

section idle

variable {service : Service} (hs : service.bus.Idle)

include hs

/-- A run that accepts a submission or changes the repository comes to completion. -/
theorem exists_reaches (submission : Submission) (request : Request) (run : Run)
    (h : HasEffect run ((process service submission request).perform run)) :
    ∃ checked, Reaches service submission request run checked := by
  let whole := withUploads service submission
  have hgate : ∀ {step : Step (Option Subject)},
      Keeps Run.standing (fun ended => ∀ subject ∈ ended, subject.IsRefusal) step →
      Keeps Run.matter (fun ended => ∀ subject ∈ ended, ¬ subject.IsAcceptance) step :=
    fun hk => fixes_matter_of_standing (hk.mono fun _ hr subject hm =>
      (hr subject hm).not_isAcceptance)
  rw [process_of_idle hs] at h
  obtain ⟨known, hknow, -, he₁, h⟩ := exists_of_endsOr (hgate (keeps_checkToken hs submission)) h
  obtain ⟨admitted, hadmit, -, he₂, h⟩ := exists_of_endsOr (hgate (keeps_checkGates hs request)) h
  obtain ⟨filled, hform, hrepository, -, -, he₃⟩ :=
    perform_processValues hs whole request admitted
  rw [he₃, HasEffect, ← hrepository] at h
  obtain ⟨stayed, hstay, hstayed, he₄, h⟩ := exists_of_endsOr (keeps_navigate whole) h
  obtain ⟨checked, hcheck, hchecked, he₅, -⟩ := exists_of_endsOr keeps_validateAll h
  have hknown : known.standing = run.standing := (keeps_checkToken hs submission).view_eq hknow
  have hadmitted : admitted.standing = run.standing :=
    ((keeps_checkGates hs request).view_eq hadmit).trans hknown
  have hdesk : admitted.desk = run.desk := congrArg Prod.fst hadmitted
  have hpassed : checked.matter = filled.matter := hchecked.trans hstayed
  have hfilled : filled.desk.form.filling = (run.desk.form.bind whole).refreshVisibility.filling := by
    rw [hform, hdesk]
    rfl
  refine ⟨checked, ⟨known, admitted, hknown, hadmit⟩, ?_, ?_, ?_, ?_⟩
  · have hr : checked.repository = filled.repository := congrArg Prod.snd hpassed
    rw [hr, hrepository]
    exact congrArg Prod.snd hadmitted
  · have hdefinition : stayed.definition = filled.definition :=
      (fixes_definition_navigate whole).view_eq hstay
    rw [(of_outcome_validateAll hcheck).1]
    refine hdefinition.trans ?_
    rw [Run.definition, hform, hdesk]
    rfl
  · exact (congrArg Prod.fst hpassed).trans hfilled
  · rw [process_of_idle hs, ← Completion.run_eq_conclude hs]
    exact he₁.trans (he₂.trans (he₃.trans (he₄.trans he₅)))

end idle

/-- Whatever comes of a run, numbers of later entries are free after it if they were before it. -/
theorem numbered_of_process (service : Service) (hs : service.bus.Idle) (submission : Submission)
    (request : Request) (run : Run) (hr : run.repository.Numbered) :
    ((process service submission request).perform run).2.repository.Numbered := by
  by_cases h : HasEffect run ((process service submission request).perform run)
  · obtain ⟨checked, hreach⟩ := exists_reaches hs submission request run h
    obtain ⟨result, kept, hk, -, hcopies, -⟩ :=
      Completion.exists_kept hs (withUploads service submission) request checked
    have hchecked : checked.repository.Numbered := hreach.repository_eq ▸ hr
    rw [← hreach.outcome_eq] at hcopies
    exact (hk.numbered hchecked).copies hcopies
  · have hsame := not_not.mp (not_or.mp h).2
    rwa [hsame]

/-! ### What is kept -/

/-- The fields of a form that was filled in have what was submitted for them. -/
theorem value_of_bind {form other : Form} {submission : Submission}
    (h : other.filling = (form.bind submission).refreshVisibility.filling) :
    ∀ field ∈ other.fields,
      other.value field = field.kind.coerce (submission.valueFor field.id) := by
  intro field hf
  rw [Form.fields_of_filling h] at hf
  rw [Form.value_of_filling h]
  exact Form.value_bind hf submission

/-- What is kept of a field is read as the value of the field. -/
theorem decode_of_mem_keptValues {form : Form} {field : Definition.Field Validator}
    (hf : field ∈ form.fields) (hholds : field.kind.Holds (form.value field)) {text : String}
    (h : (field.id, text) ∈ Completion.keptValues form) :
    field.kind.decode text = some (form.value field) := by
  obtain ⟨other, ho, he⟩ := List.mem_map.mp h
  have hother : other = field :=
    Form.field_ext (List.mem_filter.mp ho).1 hf (congrArg Prod.fst he)
  have htext : (form.value other).stored = text := congrArg Prod.snd he
  rw [← htext, hother]
  exact FieldKind.decode_stored hholds

/-- A repository has gained the entry of a form, with the values of those of its fields that are to be
kept, are visible and are not empty, and nothing else. -/
structure Gains (before : Repository) (form : Form) (entry : Entry) (after : Repository) : Prop where
  entryId_eq : form.entryId = some entry.id
  formId_eq : entry.formId = form.id
  entries_eq : after.entries = before.entries ++ [entry]
  id_ne : ∀ other ∈ before.entries, other.id ≠ entry.id
  keys_eq : (after.fieldValues entry.id).map Prod.fst = (form.fields.filter fun field =>
    field.saveToDatabase && !form.isHidden field.id && !(form.value field).isEmpty).map (·.id)
  decode_eq : ∀ field ∈ form.fields, ∀ text, (field.id, text) ∈ after.fieldValues entry.id →
    field.kind.decode text = some (form.value field)
  fieldValues_of_ne : ∀ id, id ≠ entry.id → after.fieldValues id = before.fieldValues id

theorem gains_of_filed {form : Form} {entry : Entry} {draft : Draft} {before made after : Repository}
    (hr : before.Numbered) (he : before.Enters draft entry made) (hformId : draft.formId = form.id)
    (hf : made.Files entry.id (Completion.keptValues form) after)
    (hholds : ∀ field ∈ form.fields, field.kind.Holds (form.value field)) :
    Gains before { form with entryId := some entry.id } entry after := by
  have hid : before.nextId ≤ entry.id := by
    have hid := he.id_eq
    omega
  have hnone : made.fieldValues entry.id = [] := by
    rw [he.fieldValues_eq]
    exact hr.fieldValues_eq_nil entry.id hid
  have hvalues : after.fieldValues entry.id = Completion.keptValues form := hf.fieldValues_eq hnone
  refine ⟨rfl, he.formId_eq.trans hformId, ?_, hr.id_ne hid, ?_, ?_, ?_⟩
  · rw [hf.entries_eq, he.entries_eq]
  · rw [hvalues, Completion.keptValues, List.map_map]
    rfl
  · intro field hfield text htext
    rw [hvalues] at htext
    exact decode_of_mem_keptValues hfield (hholds field hfield) htext
  · intro id hne
    rw [hf.fieldValues_of_ne id hne, he.fieldValues_eq]

/-- Without extensions and copies, what an accepted submission adds to the repository is one entry
with what is visible of it, where entries of the form are kept, and nothing where they are not. -/
theorem gains_of_process (service : Service) (hs : service.bus.Idle) (submission : Submission)
    (request : Request) (run : Run) (hr : run.repository.Numbered)
    (hc : run.desk.form.definition.copy.isActive = false)
    (h : IsAccepted ((process service submission request).perform run).1) :
    let after := ((process service submission request).perform run).2
    let form := after.desk.form
    form.fields = run.desk.form.fields ∧
    (∀ field ∈ form.fields, form.value field =
      field.kind.coerce ((withUploads service submission).valueFor field.id)) ∧
    (Completion.isSaving service run.desk.form = true →
      ∃ entry, Gains run.repository form entry after.repository) ∧
    (Completion.isSaving service run.desk.form = false →
      after.repository = run.repository) := by
  intro after form
  obtain ⟨checked, hreach⟩ := exists_reaches hs submission request run (.inl h)
  obtain ⟨result, kept, hk, hdesk, -, hsame, hresult⟩ :=
    Completion.exists_kept hs (withUploads service submission) request checked
  rw [← hreach.outcome_eq] at hdesk hsame hresult
  have hvalue := value_of_bind hreach.filling_eq
  have hfields : checked.desk.form.fields = run.desk.form.fields :=
    (Form.fields_of_filling hreach.filling_eq).trans rfl
  have hsaving : Completion.isSaving service run.desk.form =
      Completion.isSaving service checked.desk.form := by
    rw [Completion.isSaving, Completion.isSaving, hreach.definition_eq]
  have hform : form = kept.desk.form := congrArg Desk.form hdesk
  obtain rfl : result = .ok none := hresult h
  rw [hform, hsaving, ← hreach.repository_eq, ← hfields]
  cases hk with
  | off hoff hkept hstored =>
      have hinactive : kept.desk.form.definition.copy.isActive = false := by
        rw [hkept, hreach.definition_eq, hc]
      have hafter : after.repository = kept.repository := hsame hinactive
      rw [hkept, hoff, hafter, hstored]
      exact ⟨rfl, hvalue, fun hon => (by cases hon), fun _ => rfl⟩
  | @filed _ entry made hon hentry hkept hvalues hnone =>
      have hinactive : kept.desk.form.definition.copy.isActive = false := by
        rw [hkept, hreach.definition_eq, hc]
      have hafter : after.repository = kept.repository := hsame hinactive
      have hnumbered : checked.repository.Numbered := hreach.repository_eq ▸ hr
      have henters := Repository.enters_createEntry rfl hentry
      have hpos : 0 < entry.id := by
        have hid := henters.id_eq
        have hnext := hnumbered.next_pos
        omega
      have hfiles := Repository.files_saveValues (hvalues hpos)
      have hholds : ∀ field ∈ checked.desk.form.fields,
          field.kind.Holds (checked.desk.form.value field) := by
        intro field hf
        rw [hvalue field hf]
        exact FieldKind.holds_coerce _ _
      rw [hkept, hon, hafter]
      refine ⟨rfl, hvalue, fun _ => ⟨entry, ?_⟩, fun hoff => by cases hoff⟩
      exact gains_of_filed hnumbered henters rfl hfiles hholds

/-- A form with fields of each kind, a field that appears only while the first one is empty, and one
that is not kept. -/
def enrolment : Form where
  definition := { id := 1, pages := [] }
  pages := [
    { heading := { id := 1 }
      children := [
        .field { id := 2 }, .field { id := 3, kind := .multi }, .field { id := 4, kind := .compound },
        .field { id := 5, logic := .whenEmpty .appear .all [2] },
        .field { id := 6, saveToDatabase := false }] }]
  distinct := by decide

/-- A submission with values for all of its fields. -/
def enrolled : Submission where
  values := [("2", .text "Ann"), ("3", .list [.text "tea", .text "\"jam\""]),
    ("4", .record [("city", .text "Rome")]), ("5", .text "hidden"), ("6", .text "not kept")]
  csrfToken := some "token"

/-- What comes of the submission with this repository. -/
def enrol (repository : Repository) : Except Failure Subject × Run :=
  (process { sessionToken := "token" } enrolled {}).perform
    { desk := { form := enrolment }, repository }

/-- The second one of two submissions adds an entry with three values. -/
theorem gains_of_process_enrolled :
    IsAccepted (enrol (enrol (.database {})).2.repository).1 ∧
    (∃ entry, Gains (enrol (.database {})).2.repository
      (enrol (enrol (.database {})).2.repository).2.desk.form entry
      (enrol (enrol (.database {})).2.repository).2.repository) ∧
    (enrol (enrol (.database {})).2.repository).2.repository.fieldValues 2 =
      [(2, "Ann"), (3, "[\"tea\", \"\\\"jam\\\"\"]"), (4, "\x7b\"city\": \"Rome\"\x7d")] := by
  have h : IsAccepted (enrol (enrol (.database {})).2.repository).1 := by decide +kernel
  have hv : (enrol (enrol (.database {})).2.repository).2.repository.fieldValues 2 =
      [(2, "Ann"), (3, "[\"tea\", \"\\\"jam\\\"\"]"), (4, "\x7b\"city\": \"Rome\"\x7d")] := by
    decide +kernel
  have hr : (enrol (.database {})).2.repository.Numbered := by
    unfold enrol
    exact numbered_of_process { sessionToken := "token" } Bus.idle_empty enrolled {}
      { desk := { form := enrolment }, repository := .database {} } (Repository.numbered_database [])
  generalize (enrol (.database {})).2.repository = before at h hv hr ⊢
  refine ⟨h, ?_, hv⟩
  unfold enrol at h ⊢
  have ht := gains_of_process { sessionToken := "token" } Bus.idle_empty enrolled {}
    { desk := { form := enrolment }, repository := before } hr rfl h
  exact ht.2.2.1 rfl

end Intake
end FormIntake
