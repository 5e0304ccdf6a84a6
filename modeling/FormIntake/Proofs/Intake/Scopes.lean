import FormIntake.Proofs.Form.Faults
import FormIntake.Proofs.Intake.Turns

/-! # Errors of a page and errors of the form

What the submitter of a form with several pages is answered once the token and the gates have let the
submission in (`Intake.scoped_of_process`).  Going on looks at the page that the form stands on: its
failing fields are reported, and with none of them the answer is the next visible page.  From a page
without a visible one behind it the whole form is looked at, and all its failing fields are reported on
the first page that has one.  Going back looks at no field. -/

namespace FormIntake

open Definition Effect

namespace Form

/-- The fields among some that are visible and do not take their values. -/
def failingAmong (form : Form) (fields : List (Definition.Field Validator)) :
    List (Definition.Field Validator) :=
  fields.filter fun field => form.isHidden field.id = false ∧ ¬ field.Takes (form.value field)

/-- The messages are those of the fields, one for each of them and in the same order. -/
def Reports (form : Form) (fields : List (Definition.Field Validator))
    (messages : List (Int × String)) : Prop :=
  List.Forall₂ (fun field message => message.1 = field.id ∧
    field.Refuses (form.value field) message.2) fields messages

/-- The visible pages after the one that is being filled in. -/
def further (form : Form) : List (Page Validator) :=
  form.visible (form.pages.drop (form.current + 1))

variable {form : Form} {page : Page Validator}

theorem Reports.ids_eq {fields : List (Definition.Field Validator)} {messages : List (Int × String)}
    (h : form.Reports fields messages) : messages.map Prod.fst = fields.map (·.id) := by
  induction h with
  | nil => rfl
  | cons hhead _ ih => rw [List.map_cons, List.map_cons, hhead.1, ih]

/-- On a page that is not accepted the messages after validating it are those of its failing fields. -/
theorem reports_validatePage (hp : page ∈ form.pages) (hv : form.isHidden page.id = false)
    (hn : form.mishap? page.fields = none) :
    form.Reports (form.failingAmong page.fields)
      ((form.validatePage page).faultsAmong page.fields) := by
  have hsubset : page.fields ⊆ form.fields := fun _ hf => List.mem_flatMap_of_mem hp hf
  rw [validatePage, checkedOn, hv, if_neg Bool.false_ne_true,
    faultsAmong_validateFields hsubset hn fun _ hf _ => hf]
  exact forall₂_message? hn

/-- After validation the messages are those of all failing fields. -/
theorem reports_validate (hb : form.HidesBelow) (hn : form.mishap? form.fields = none) :
    form.Reports form.failing form.validate.errors := by
  rw [errors_validate_eq hb ((mishap?_checked hb).trans hn)]
  exact forall₂_message? hn

theorem failingAmong_ne_nil_iff (hp : page ∈ form.pages) :
    form.failingAmong page.fields ≠ [] ↔ ∃ field ∈ page.fields, field ∈ form.failing := by
  have hfails : ∀ field, field ∈ form.failingAmong page.fields ↔
      field ∈ page.fields ∧ field ∈ form.failing := by
    intro field
    rw [failingAmong, List.mem_filter, decide_eq_true_eq, mem_failing_iff]
    exact ⟨fun h => ⟨h.1, List.mem_flatMap_of_mem hp h.1, h.2⟩, fun h => ⟨h.1, h.2.2⟩⟩
  rw [← List.isEmpty_eq_false_iff, List.isEmpty_eq_false_iff_exists_mem]
  exact exists_congr hfails

theorem accepts_eq_false_iff_failingAmong (hb : form.HidesBelow) (hp : page ∈ form.pages) :
    form.accepts page = false ↔ form.failingAmong page.fields ≠ [] := by
  rw [accepts_eq_false_iff hb hp, failingAmong_ne_nil_iff hp]

/-- Where a field fails, the first faulty page is the first one with such a field, and it is visible. -/
theorem exists_firstFaultyPage? (hb : form.HidesBelow) (hf : form.failing ≠ []) :
    ∃ before page after, form.firstFaultyPage? = some page ∧ form.pages = before ++ page :: after ∧
      form.isHidden page.id = false ∧ form.failingAmong page.fields ≠ [] ∧
      ∀ other ∈ before, form.failingAmong other.fields = [] := by
  obtain ⟨page, hpage⟩ := Option.ne_none_iff_exists'.mp fun hnone =>
    hf ((firstFaultyPage?_eq_none_iff hb).mp hnone)
  obtain ⟨before, after, hs, hv, hfailing, hearlier⟩ := (firstFaultyPage?_eq_some_iff hb).mp hpage
  have hmem : page ∈ form.pages := hs ▸ List.mem_append_right _ List.mem_cons_self
  refine ⟨before, page, after, hpage, hs, hv, (failingAmong_ne_nil_iff hmem).mpr hfailing, ?_⟩
  intro other ho
  have hother : other ∈ form.pages := hs ▸ List.mem_append_left _ ho
  rw [← not_not (a := form.failingAmong other.fields = []), ← Ne, failingAmong_ne_nil_iff hother]
  rintro ⟨field, hfield, hfails⟩
  exact hearlier other ho field hfield hfails

theorem nextPage?_eq_head? (form : Form) : form.nextPage? = form.further.head?.map Page.id := by
  rw [nextPage?, firstVisible?, further, visible, List.head?_filter]

end Form

namespace Intake

/-! ### Going from page to page, and validation -/

section turned

variable (submission : Submission) {run : Run} {page : Page Validator}
  (hseveral : run.desk.form.hasPages = true) (hp : run.desk.form.currentPage? = some page)

include hseveral hp

/-- Going back leads to a page and leaves the form as it is. -/
theorem outcome_of_back (hback : submission.isBack = true) :
    ∃ id after, outcome ((navigate submission).otherwise validateAll) run =
      (.ok (some (.reply (.page id))), after) ∧ after.desk = run.desk := by
  have hturn := outcome_turnPage submission hp
  rw [hback, if_pos rfl] at hturn
  obtain ⟨after, hnavigate, hdesk⟩ := exists_navigate_of_turnPage hseveral hturn
  exact ⟨_, after, Step.outcome_otherwise_of_some _ hnavigate, hdesk⟩

variable (hb : run.desk.form.HidesBelow) (hback : submission.isBack = false)

include hb hback

/-- Going on leads to the next page, or is refused with the failing fields of the page that is left, or
fails as a validator does over one of them. -/
theorem outcome_of_next {next : Page Validator} {rest : List (Page Validator)}
    (hfurther : run.desk.form.further = next :: rest) :
    (run.desk.form.failingAmong page.fields = [] →
      ∃ after, outcome ((navigate submission).otherwise validateAll) run =
        (.ok (some (.reply (.page next.id))), after)) ∧
    (run.desk.form.failingAmong page.fields ≠ [] → run.desk.form.mishap? page.fields = none →
      ∃ refusal after, outcome ((navigate submission).otherwise validateAll) run =
        (.ok (some (.reply (.refused refusal))), after) ∧ refusal.page = some page.id ∧
        run.desk.form.Reports (run.desk.form.failingAmong page.fields) refusal.faults) ∧
    ∀ failure, run.desk.form.mishap? page.fields = some failure →
      ∃ after, outcome ((navigate submission).otherwise validateAll) run = (.error failure, after) := by
  have hmem : page ∈ run.desk.form.pages := List.mem_of_getElem? hp
  have hnext : run.desk.form.nextPage? = some next.id := by
    rw [Form.nextPage?_eq_head?, hfurther]
    rfl
  have hturn := outcome_turnPage submission hp
  rw [hback, if_neg Bool.false_ne_true, hnext] at hturn
  obtain ⟨after, hnavigate, -⟩ := exists_navigate_of_turnPage hseveral hturn
  rw [Form.mishap?_checkedOn hb hmem] at hnavigate
  have haccepts := Form.accepts_eq_false_iff_failingAmong hb hmem
  refine ⟨fun hnone => ?_, fun hsome hn => ?_, fun failure hfails => ?_⟩
  · have hpass : run.desk.form.accepts page = true := by
      rw [← Bool.not_eq_false, haccepts, not_not]
      exact hnone
    have hn : run.desk.form.mishap? page.fields = none :=
      (Form.mishap?_checkedOn hb hmem).symm.trans (Form.mishap?_of_accepts hpass)
    rw [hn, if_pos hpass] at hnavigate
    exact ⟨after, Step.outcome_otherwise_of_some _ hnavigate⟩
  · have hfaulty : run.desk.form.accepts page = false := haccepts.mpr hsome
    rw [hn, if_neg (by rw [hfaulty]; exact Bool.false_ne_true)] at hnavigate
    exact ⟨_, after, Step.outcome_otherwise_of_some _ hnavigate, rfl,
      Form.reports_validatePage hmem (isHidden_of_accepts_eq_false hfaulty) hn⟩
  · rw [hfails] at hnavigate
    exact ⟨after, Step.outcome_otherwise_of_error _ hnavigate⟩

/-- Going on from a page without a visible one behind it is refused with all failing fields of the form,
on the first page that has one, or fails as a validator does over one of them. -/
theorem outcome_of_last (hfurther : run.desk.form.further = []) :
    (run.desk.form.failing ≠ [] → run.desk.form.mishap? run.desk.form.fields = none →
      ∃ refusal after, outcome ((navigate submission).otherwise validateAll) run =
        (.ok (some (.reply (.refused refusal))), after) ∧
        run.desk.form.Reports run.desk.form.failing refusal.faults ∧
        ∃ earlier first later, run.desk.form.pages = earlier ++ first :: later ∧
          refusal.page = some first.id ∧ run.desk.form.isHidden first.id = false ∧
          run.desk.form.failingAmong first.fields ≠ [] ∧
          ∀ other ∈ earlier, run.desk.form.failingAmong other.fields = []) ∧
    ∀ failure, run.desk.form.mishap? run.desk.form.fields = some failure →
      ∃ after, outcome ((navigate submission).otherwise validateAll) run = (.error failure, after) := by
  have hnext : run.desk.form.nextPage? = none := by
    rw [Form.nextPage?_eq_head?, hfurther]
    rfl
  have hturn := outcome_turnPage submission hp
  rw [hback, if_neg Bool.false_ne_true, hnext] at hturn
  obtain ⟨stayed, hlast, hdesk⟩ := exists_navigate_of_turnPage hseveral hturn
  obtain ⟨after, hchecked⟩ := outcome_validateAll stayed
  rw [hdesk, Form.mishap?_checked hb] at hchecked
  have hwhole := Step.outcome_otherwise_of_none validateAll hlast
  refine ⟨fun hfailing hn => ?_, fun failure hfails => ?_⟩
  · obtain ⟨earlier, first, later, hfirst, hsplit, hv, hsome, hnone⟩ :=
      Form.exists_firstFaultyPage? hb hfailing
    rw [hn, hfirst, Option.map_some] at hchecked
    exact ⟨_, after, hwhole.trans hchecked, Form.reports_validate hb hn,
      earlier, first, later, hsplit, rfl, hv, hsome, hnone⟩
  · rw [hfails] at hchecked
    exact ⟨after, hwhole.trans hchecked⟩

end turned

/-! ### Answers -/

section answers

variable {service : Service} {submission : Submission} {request : Request} {run : Run}

/-- What the stages before completion answer is the answer of the run, and nothing is written. -/
theorem perform_process_of_hurdles {subject : Subject} {after : Run}
    (h : outcome (Step.firstAnswer (hurdles service submission request)) run =
      (.ok (some subject), after)) :
    (process service submission request).perform run = (.ok subject, after) ∧
      after.outside = run.outside := by
  rw [process_eq]
  exact ⟨Step.perform_endsOr_of_some _ h,
    (Step.quiet_firstAnswer (quiet_hurdles service submission request)).view_eq h⟩

theorem perform_process_of_hurdles_error {failure : Failure} {after : Run}
    (h : outcome (Step.firstAnswer (hurdles service submission request)) run = (.error failure, after)) :
    (process service submission request).perform run = (.error failure, after) := by
  rw [process_eq]
  exact Step.perform_endsOr_of_error _ h

end answers

/-- Without extensions a submission to a form of several pages that the token and the gates let in is
answered by its direction and by the page that it stands on.  Back leads to a page, with no message and
nothing written.  On leads to the next visible page if no field of the page fails, and is otherwise
refused with the failing fields of that page.  On from a page without a visible one behind it is refused
with all failing fields of the form, if there are any, on the first page that has one.  Where a validator
fails over one of the fields in question there is no answer, but its failure. -/
theorem scoped_of_process (service : Service) (hs : service.bus.Idle) (submission : Submission)
    (request : Request) (run : Run) (hseveral : run.desk.form.hasPages = true)
    (hlet : (outcome (letIn service submission request) run).1 = .ok none) :
    let form := (run.desk.form.bind (withUploads service submission)).refreshVisibility.goTo
      submission.page
    let result := (process service submission request).perform run
    ∃ page, form.currentPage? = some page ∧
      (submission.isBack = true →
        (∃ id, result.1 = .ok (.reply (.page id))) ∧ result.2.desk.form.faults = [] ∧
          result.2.outside = run.outside) ∧
      (submission.isBack = false → ∀ next rest, form.further = next :: rest →
        (form.failingAmong page.fields = [] → result.1 = .ok (.reply (.page next.id))) ∧
        (form.failingAmong page.fields ≠ [] → form.mishap? page.fields = none →
          ∃ refusal, result.1 = .ok (.reply (.refused refusal)) ∧ refusal.page = some page.id ∧
            form.Reports (form.failingAmong page.fields) refusal.faults) ∧
        ∀ failure, form.mishap? page.fields = some failure → result.1 = .error failure) ∧
      (submission.isBack = false → form.further = [] →
        (form.failing ≠ [] → form.mishap? form.fields = none →
          ∃ refusal, result.1 = .ok (.reply (.refused refusal)) ∧
            form.Reports form.failing refusal.faults ∧
            ∃ earlier first later, form.pages = earlier ++ first :: later ∧
              refusal.page = some first.id ∧ form.isHidden first.id = false ∧
              form.failingAmong first.fields ≠ [] ∧
              ∀ other ∈ earlier, form.failingAmong other.fields = []) ∧
        ∀ failure, form.mishap? form.fields = some failure → result.1 = .error failure) := by
  intro form result
  have hb : form.HidesBelow := .of_filling rfl
    (Form.hidesBelow_refreshVisibility (run.desk.form.bind (withUploads service submission)))
  have hne : form.pages ≠ [] := by
    intro hnil
    rw [Form.hasPages, show run.desk.form.pages = [] from hnil] at hseveral
    cases hseveral
  obtain ⟨before, page, behind, hstands⟩ := Form.exists_stands_goTo hne submission.page
  have hcurrent : form.currentPage? = some page := hstands.currentPage?_eq
  obtain ⟨filled, hform, hhurdles⟩ := exists_filled_of_letIn hs submission hlet
  have hfilled : form = filled.desk.form := hform.symm
  have hpages : filled.desk.form.hasPages = true := hfilled ▸ hseveral
  have hanswered : ∀ {subject : Subject} {after : Run},
      outcome ((navigate (withUploads service submission)).otherwise validateAll) filled =
        (.ok (some subject), after) → result = (.ok subject, after) ∧ after.outside = run.outside :=
    fun ho => perform_process_of_hurdles (hhurdles.trans ho)
  have hblank : filled.desk.form.faults = [] := by
    rw [hform]
    rfl
  rw [hfilled] at hb hcurrent ⊢
  have hfailed : ∀ {failure : Failure} {after : Run},
      outcome ((navigate (withUploads service submission)).otherwise validateAll) filled =
        (.error failure, after) → result.1 = .error failure :=
    fun ho => congrArg Prod.fst (perform_process_of_hurdles_error (hhurdles.trans ho))
  refine ⟨page, hcurrent, fun hback => ?_, fun hback next rest hfurther => ?_,
    fun hback hfurther => ?_⟩
  · obtain ⟨id, after, ho, hdesk⟩ :=
      outcome_of_back (withUploads service submission) hpages hcurrent hback
    obtain ⟨hresult, houtside⟩ := hanswered ho
    rw [hresult]
    refine ⟨⟨id, rfl⟩, ?_, houtside⟩
    show after.desk.form.faults = []
    rw [hdesk, hblank]
  · obtain ⟨honward, hheld, hmishap⟩ :=
      outcome_of_next (withUploads service submission) hpages hcurrent hb hback hfurther
    refine ⟨fun hnone => ?_, fun hsome hn => ?_, fun failure hfails => ?_⟩
    · obtain ⟨after, ho⟩ := honward hnone
      exact congrArg Prod.fst (hanswered ho).1
    · obtain ⟨refusal, after, ho, hreports⟩ := hheld hsome hn
      exact ⟨refusal, congrArg Prod.fst (hanswered ho).1, hreports⟩
    · obtain ⟨after, ho⟩ := hmishap failure hfails
      exact hfailed ho
  · obtain ⟨hrefused, hmishap⟩ :=
      outcome_of_last (withUploads service submission) hpages hcurrent hb hback hfurther
    refine ⟨fun hfailing hn => ?_, fun failure hfails => ?_⟩
    · obtain ⟨refusal, after, ho, hreports⟩ := hrefused hfailing hn
      exact ⟨refusal, congrArg Prod.fst (hanswered ho).1, hreports⟩
    · obtain ⟨after, ho⟩ := hmishap failure hfails
      exact hfailed ho

/-- A form of four pages, of which the second appears only while the field of the first is empty, and
the third only while it is not. -/
def tour : Form where
  definition := { id := 1, pages := [] }
  pages := [
    { heading := { id := 1 }, children := [.field { id := 2, required := true }, .field { id := 3 }] },
    { heading := { id := 4, logic := .whenEmpty .appear .all [2] }
      children := [.field { id := 5, required := true }] },
    { heading := { id := 6, logic := .whenEmpty .vanish .all [2] }
      children := [.field { id := 7, required := true }] },
    { heading := { id := 8 }, children := [.field { id := 9, required := true }] }]
  distinct := by decide

/-- A submission to it without values. -/
def bareTour (page : Int) (direction : Direction) : Submission where
  page := some page
  direction := direction
  csrfToken := some "token"

/-- What comes of it. -/
def tourResult (page : Int) (direction : Direction) : Except Failure Subject × Run :=
  (process { sessionToken := "token" } (bareTour page direction) {}).perform
    { desk := { form := tour }, repository := .ledger {} }

/-- The form as it is filled in then. -/
def touring (page : Int) (direction : Direction) : Form :=
  (tour.bind (withUploads { sessionToken := "token" } (bareTour page direction))).refreshVisibility.goTo
    (some page)

/-- On from the first page is refused with its field that is missing, on from the last page with the three
that are missing of the form, on the first page; and back looks at none of them. -/
theorem scoped_of_process_tour :
    (∃ refusal, (tourResult 1 .next).1 = .ok (.reply (.refused refusal)) ∧
      refusal.page = some 1 ∧ refusal.faults.map Prod.fst = [2]) ∧
    (∃ refusal, (tourResult 8 .next).1 = .ok (.reply (.refused refusal)) ∧
      refusal.faults.map Prod.fst = [2, 5, 9]) ∧
    (∃ id, (tourResult 8 .back).1 = .ok (.reply (.page id))) ∧
    (tourResult 8 .back).2.desk.form.faults = [] := by
  have h := fun page direction => scoped_of_process { sessionToken := "token" } Bus.idle_empty
    (bareTour page direction) {} { desk := { form := tour }, repository := .ledger {} } rfl rfl
  refine ⟨?_, ?_, ?_⟩
  · obtain ⟨page, hpage, -, hnext, -⟩ := h 1 .next
    have hpage : (touring 1 .next).currentPage? = some page := hpage
    have hids : (touring 1 .next).currentPage?.map (fun page =>
        (page.id, ((touring 1 .next).failingAmong page.fields).map (·.id))) = some (1, [2]) := by
      decide +kernel
    have hfurther : (touring 1 .next).further.map Page.id = [4, 8] := by decide +kernel
    rw [hpage, Option.map_some, Option.some.injEq, Prod.mk.injEq] at hids
    obtain ⟨next, rest, hcons, -⟩ := List.map_eq_cons_iff.mp hfurther
    have hfailing : (touring 1 .next).failingAmong page.fields ≠ [] := by
      intro hnil
      rw [hnil] at hids
      cases hids.2
    have hmishap : (touring 1 .next).mishap? page.fields = none := by
      have hall : (touring 1 .next).currentPage?.all (fun page =>
          ((touring 1 .next).mishap? page.fields).isNone) = true := by decide +kernel
      rw [hpage] at hall
      exact Option.isNone_iff_eq_none.mp hall
    obtain ⟨refusal, hresult, hnamed, hreports⟩ := (hnext rfl next rest hcons).2.1 hfailing hmishap
    exact ⟨refusal, hresult, hids.1 ▸ hnamed, hreports.ids_eq.trans hids.2⟩
  · obtain ⟨page, -, -, -, hlast⟩ := h 8 .next
    have hfurther : (touring 8 .next).further.map Page.id = [] := by decide +kernel
    have hids : (touring 8 .next).failing.map (·.id) = [2, 5, 9] := by decide +kernel
    have hfailing : (touring 8 .next).failing ≠ [] := by
      intro hnil
      rw [hnil] at hids
      cases hids
    have hmishap : (touring 8 .next).mishap? (touring 8 .next).fields = none := by decide +kernel
    obtain ⟨refusal, hresult, hreports, -⟩ :=
      (hlast rfl (List.map_eq_nil_iff.mp hfurther)).1 hfailing hmishap
    exact ⟨refusal, hresult, hreports.ids_eq.trans hids⟩
  · obtain ⟨page, -, hback, -⟩ := h 8 .back
    exact ⟨(hback rfl).1, (hback rfl).2.1⟩

end Intake
end FormIntake
