import FormIntake.Proofs.Intake.Frame

/-! # What is accepted is valid

Whatever page a submission names as its own, whatever button was pressed and whatever is hidden:
if it is accepted, or anything of it is kept, every field that is visible in the end takes what was
submitted for it (`Intake.takes_of_process`).

A run that accepts or keeps something has passed each of its stages (`Intake.exists_of_endsOr`), and
so it has come to completion with a form on which no page is faulty. -/

namespace FormIntake

open Definition Effect

namespace Intake

/-- A run has accepted its submission or changed the repository. -/
def HasEffect (before : Run) (result : Except Failure Subject × Run) : Prop :=
  IsAccepted result.1 ∨ result.2.repository ≠ before.repository

/-- A run with an effect has passed a stage that has none. -/
theorem exists_of_endsOr {ended : Step (Option Subject)} {further : Step Subject} {run : Run}
    (hk : Keeps Run.matter (fun ended => ∀ subject ∈ ended, ¬ subject.IsAcceptance) ended)
    (h : HasEffect run ((ended.endsOr further).perform run)) :
    ∃ after, ended.perform run = (.ok none, after) ∧ after.matter = run.matter ∧
      (ended.endsOr further).perform run = further.perform after ∧
      HasEffect after (further.perform after) := by
  obtain ⟨hm, hp⟩ := hk run
  cases ho : outcome ended run with
  | mk result after =>
      rw [ho] at hm hp
      have hrepository : after.repository = run.repository := congrArg Prod.snd hm
      cases result with
      | error failure =>
          rw [Step.perform_endsOr_of_error further ho] at h
          rcases h with ⟨receipt, ⟨⟩⟩ | hr
          exact absurd hrepository hr
      | ok answer =>
          cases answer with
          | some subject =>
              rw [Step.perform_endsOr_of_some further ho] at h
              rcases h with ⟨receipt, ⟨⟩⟩ | hr
              · exact absurd ⟨receipt, rfl⟩ (hp _ rfl _ rfl)
              · exact absurd hrepository hr
          | none =>
              have he := Step.perform_endsOr_of_none further ho
              refine ⟨after, ho, hm, he, ?_⟩
              rw [he] at h
              exact h.imp_right fun hr => hrepository ▸ hr

section idle

variable {service : Service} (hs : service.bus.Idle)

include hs

/-- Behind the gates a run with an effect has filled in the form and found no faulty page. -/
theorem takes_of_processValues {submission : Submission} {request : Request} {run : Run}
    (h : HasEffect run ((processValues service submission request).perform run))
    {field : Definition.Field Validator} (hf : field ∈ run.desk.form.fields) :
    let form := ((processValues service submission request).perform run).2.desk.form
    form.isHidden field.id = false →
      form.value field = field.kind.coerce (submission.valueFor field.id) ∧
      field.Takes (form.value field) := by
  obtain ⟨filled, hform, hrepository, -, -, he⟩ := perform_processValues hs submission request run
  rw [he, HasEffect, ← hrepository] at h
  rw [he]
  obtain ⟨stayed, -, hstayed, he, h⟩ := exists_of_endsOr (keeps_navigate submission) h
  rw [he]
  obtain ⟨checked, hnone, hchecked, he, -⟩ := exists_of_endsOr keeps_validateAll h
  rw [he]
  intro form hv
  have hpassed : checked.desk.form.filling = filled.desk.form.filling :=
    congrArg Prod.fst (hchecked.trans hstayed)
  have hfilled : checked.desk.form.filling =
      (run.desk.form.bind submission).refreshVisibility.filling := by
    rw [hpassed, hform]
    rfl
  have hend : form.filling = checked.desk.form.filling :=
    (Completion.fixes_run hs submission request checked).1
  have hbelow : checked.desk.form.HidesBelow :=
    .of_filling hfilled (Form.hidesBelow_refreshVisibility _)
  rw [Form.value_of_filling hend]
  rw [Form.isHidden_of_filling hend] at hv
  constructor
  · rw [Form.value_of_filling hfilled]
    exact Form.value_bind hf submission
  · refine Form.takes_of_firstFaultyPage?_eq_none hbelow (of_outcome_validateAll hnone).2 ?_ hv
    rw [Form.fields_of_filling hfilled]
    exact hf

end idle

/-- Without extensions every visible field of a submission that is accepted, or of which anything is
kept, has the value that was submitted for it and takes it. -/
theorem takes_of_process (service : Service) (hs : service.bus.Idle) (submission : Submission)
    (request : Request) (run : Run)
    (h : HasEffect run ((process service submission request).perform run)) :
    let form := ((process service submission request).perform run).2.desk.form
    ∀ field ∈ run.desk.form.fields, form.isHidden field.id = false →
      form.value field =
        field.kind.coerce ((withUploads service submission).valueFor field.id) ∧
      field.Takes (form.value field) := by
  have hgate : ∀ {step : Step (Option Subject)},
      Keeps Run.standing (fun ended => ∀ subject ∈ ended, subject.IsRefusal) step →
      Keeps Run.matter (fun ended => ∀ subject ∈ ended, ¬ subject.IsAcceptance) step :=
    fun hk => fixes_matter_of_standing (hk.mono fun _ hr subject hm =>
      (hr subject hm).not_isAcceptance)
  rw [process_of_idle hs] at h ⊢
  obtain ⟨known, -, hknown, he, h⟩ := exists_of_endsOr (hgate (keeps_checkToken hs submission)) h
  rw [he]
  obtain ⟨admitted, -, hadmitted, he, h⟩ := exists_of_endsOr (hgate (keeps_checkGates hs request)) h
  rw [he]
  have hfilling : admitted.desk.form.filling = run.desk.form.filling :=
    congrArg Prod.fst (hadmitted.trans hknown)
  intro form field hf
  exact takes_of_processValues hs h (Form.fields_of_filling hfilling ▸ hf)

/-- A form whose second page has a required field, but appears only while the field of the first one
is empty. -/
def pageAside : Form where
  definition := { id := 1, pages := [] }
  pages := [
    { heading := { id := 1 }
      children := [.field
        { id := 2, required := true
          validators := [.ofTest "Too long" fun value => value.joined.length ≤ 3] }] },
    { heading := { id := 3, logic := .whenEmpty .appear .all [2] }
      children := [.field { id := 4, required := true }] }]
  distinct := by decide

/-- A submission to it from a page that it does not have. -/
def astray : Submission where
  values := [("2", .text "Ann")]
  page := some 7
  csrfToken := some "token"

/-- What comes of it. -/
def astrayResult : Except Failure Subject × Run :=
  (process { sessionToken := "token" } astray {}).perform
    { desk := { form := pageAside }, repository := .ledger {} }

theorem takes_of_process_astray :
    IsAccepted astrayResult.1 ∧ astrayResult.2.desk.form.hiddenIds = [3, 4] ∧
    ∀ field ∈ pageAside.fields, astrayResult.2.desk.form.isHidden field.id = false →
      astrayResult.2.desk.form.value field =
        field.kind.coerce ((withUploads { sessionToken := "token" } astray).valueFor field.id) ∧
      field.Takes (astrayResult.2.desk.form.value field) := by
  have h : IsAccepted astrayResult.1 := by decide +kernel
  have hh : astrayResult.2.desk.form.hiddenIds = [3, 4] := by decide +kernel
  unfold astrayResult at h hh ⊢
  have ht := takes_of_process { sessionToken := "token" } Bus.idle_empty astray {}
    { desk := { form := pageAside }, repository := .ledger {} } (.inl h)
  exact ⟨h, hh, ht⟩

end Intake
end FormIntake
