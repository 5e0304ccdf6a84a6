import FormIntake.Proofs.Form.Pages
import FormIntake.Proofs.Intake.Stages

/-! # Turning pages

What going from page to page answers on a form that stands on a page (`Intake.Turn`), and which page
an answer names.  Without extensions the answers of the token and the gates name none, and the page
that any other answer names is visible, with one exception: who goes back from a hidden page without a
visible one before it is kept on that page (`Intake.named_of_process`). -/

namespace FormIntake

open Definition Effect

/-- The page that a reply sends the submitter to, or on which values were refused. -/
def Reply.page? : Reply → Option Int
  | .accepted _ => none
  | .page id => some id
  | .refused refusal => refusal.page

/-- A form without its messages. -/
def Form.sheet (form : Form) : Form := { form with faults := [] }

/-- The page that the answer of a run names. -/
def Intake.page? (result : Except Failure Subject) : Option Int :=
  match result with
  | .ok (.reply reply) => reply.page?
  | _ => none

/-- The form of a run without its messages. -/
def Run.sheet (run : Run) : Form := run.desk.form.sheet

theorem fixes_sheet_change {update : Form → Form}
    (h : ∀ form, ∃ faults, update form = { form with faults }) :
    Fixes Run.sheet (Step.change update) := by
  refine fun run => ⟨?_, fun _ _ => trivial⟩
  obtain ⟨faults, hu⟩ := h run.desk.form
  show (update run.desk.form).sheet = _
  rw [hu]
  rfl

theorem fixes_sheet_log (level : Installation.LogLevel) (event : String)
    (fields : List (String × Value)) : Fixes Run.sheet (Step.log level event fields) :=
  (Step.fixes_log level event fields).comp fun standing => standing.1.form.sheet

/-- What ends with an answer has it from a stage that can end it, or from what follows. -/
theorem Step.of_endsOr_eq_ok {ended : Step (Option Subject)} {further : Step Subject}
    {run after : Run} {subject : Subject}
    (h : outcome (ended.endsOr further) run = (.ok subject, after)) :
    outcome ended run = (.ok (some subject), after) ∨
      ∃ middle, outcome ended run = (.ok none, middle) ∧
        outcome further middle = (.ok subject, after) := by
  obtain ⟨answer, middle, hended, h⟩ := exists_of_outcome_bind h
  cases answer with
  | some other =>
      cases h
      exact .inl hended
  | none => exact .inr ⟨middle, hended, h⟩

namespace Intake

/-! ### Letting a submission in -/

section idle

variable {service : Service} (hs : service.bus.Idle)

include hs

theorem process_eq_letIn (submission : Submission) (request : Request) :
    process service submission request = (letIn service submission request).endsOr
      (processValues service (withUploads service submission) request) := by
  rw [process_of_idle hs, letIn, Step.firstAnswer_endsOr]
  rfl

/-- What is answered to a submission that is not let in is a message. -/
theorem keeps_letIn {P : Subject → Prop}
    (hp : ∀ content title, P (.reply (.refused (.ofMessage content title))))
    (submission : Submission) (request : Request) :
    Keeps Run.standing (fun answer => ∀ subject ∈ answer, P subject)
      (letIn service submission request) := by
  have hparts := Gate.parts_of_messages hs hp
  refine Step.keeps_firstAnswer fun stage h => ?_
  simp only [List.mem_cons, List.not_mem_nil, or_false] at h
  rcases h with rfl | rfl
  · exact hparts.keeps_checkToken submission
  · exact hparts.keeps_checkGates request

/-- A submission that is let in goes from page to page with the form filled in. -/
theorem exists_filled_of_letIn (submission : Submission) {request : Request} {run : Run}
    (hlet : (outcome (letIn service submission request) run).1 = .ok none) :
    let merged := withUploads service submission
    ∃ filled : Run,
      filled.desk.form = (run.desk.form.bind merged).refreshVisibility.goTo submission.page ∧
      outcome (Step.firstAnswer (hurdles service submission request)) run =
        outcome ((navigate merged).otherwise validateAll) filled := by
  intro merged
  have hpassed : outcome (letIn service submission request) run =
      (.ok none, (outcome (letIn service submission request) run).2) := Prod.ext hlet rfl
  have hstanding : (outcome (letIn service submission request) run).2.standing = run.standing :=
    (keeps_letIn (P := fun _ => True) hs (fun _ _ => trivial) submission request).view_eq hpassed
  have hdesk : (outcome (letIn service submission request) run).2.desk = run.desk :=
    congrArg Prod.fst hstanding
  obtain ⟨filled, hform, -, -, -, ho⟩ :=
    outcome_settled merged ((navigate merged).otherwise validateAll)
      (outcome (letIn service submission request) run).2
  refine ⟨filled, ?_, ?_⟩
  · rw [hform, hdesk]
    rfl
  · rw [firstAnswer_hurdles_of_idle hs, Step.outcome_otherwise_of_none _ hpassed, ho]

end idle

/-! ### Going from page to page -/

/-- What going from page to page comes to on a form that stands on a page: back goes to the neighbour
before it, if there is one; on goes to the neighbour after it, if the values of the page are accepted,
and fails if a validator does; and the last page has no answer. -/
inductive Turn (submission : Submission) (form : Form) (page : Page Validator) :
    Except Failure (Option Subject) → Prop
  | back (hback : submission.isBack = true) :
      Turn submission form page (.ok (some (.reply (.page (form.previousPage?.getD page.id)))))
  | last (hback : submission.isBack = false) (hnext : form.nextPage? = none) :
      Turn submission form page (.ok none)
  | onward {next : Int} (hback : submission.isBack = false) (hnext : form.nextPage? = some next)
      (haccepts : form.accepts page = true) :
      Turn submission form page (.ok (some (.reply (.page next))))
  | held {next : Int} {refusal : Refusal} (hback : submission.isBack = false)
      (hnext : form.nextPage? = some next) (hfaulty : form.accepts page = false)
      (hpage : refusal.page = some page.id) :
      Turn submission form page (.ok (some (.reply (.refused refusal))))
  | mishap {next : Int} {failure : Failure} (hback : submission.isBack = false)
      (hnext : form.nextPage? = some next)
      (hfails : form.mishap? (form.checkedOn page) = some failure) :
      Turn submission form page (.error failure)

/-- The run with a page of its form validated. -/
def validated (run : Run) (page : Page Validator) : Run :=
  { run with desk := { run.desk with form := run.desk.form.validatePage page } }

/-- What turning the page comes to. -/
theorem outcome_turnPage (submission : Submission) {run : Run} {page : Page Validator}
    (hp : run.desk.form.currentPage? = some page) :
    outcome (turnPage submission) run =
      if submission.isBack then
        (.ok (some (.reply (.page (run.desk.form.previousPage?.getD page.id)))), run)
      else match run.desk.form.nextPage? with
        | none => (.ok none, run)
        | some next =>
          (match run.desk.form.mishap? (run.desk.form.checkedOn page) with
            | some failure => .error failure
            | none => .ok (some (if run.desk.form.accepts page then .reply (.page next)
              else refusal (run.desk.form.validatePage page)
                ((run.desk.form.validatePage page).faultsAmong page.fields) (some page))),
            validated run page) := by
  unfold turnPage
  rw [outcome_bind_of_ok (Step.outcome_ask _ _)]
  dsimp only [id]
  rw [hp]
  dsimp only
  cases submission.isBack with
  | true => rfl
  | false =>
      rw [if_neg Bool.false_ne_true, if_neg Bool.false_ne_true]
      cases run.desk.form.nextPage? with
      | none => rfl
      | some next =>
          dsimp only
          cases hm : run.desk.form.mishap? (run.desk.form.checkedOn page) with
          | some failure => exact outcome_bind_of_error (outcome_checkFields_of_some hm)
          | none =>
              rw [outcome_bind_of_ok (outcome_checkFields_of_none hm),
                outcome_bind_of_ok (Step.outcome_ask _ _)]
              dsimp only [id]
              have hsame := Form.accepts_of_filling (run.desk.form.filling_validateFields
                (run.desk.form.checkedOn page)) page
              cases haccepts : run.desk.form.accepts page with
              | true =>
                  rw [if_pos (hsame.trans haccepts)]
                  rfl
              | false =>
                  rw [if_neg (by rw [hsame, haccepts]; exact Bool.false_ne_true)]
                  rfl

theorem turn_turnPage (submission : Submission) {run : Run} {page : Page Validator}
    (hp : run.desk.form.currentPage? = some page) :
    ∃ result after, outcome (turnPage submission) run = (result, after) ∧
      Turn submission run.desk.form page result := by
  have hturn := outcome_turnPage submission hp
  cases hback : submission.isBack with
  | true =>
      rw [hback, if_pos rfl] at hturn
      exact ⟨_, _, hturn, .back hback⟩
  | false =>
      rw [hback, if_neg Bool.false_ne_true] at hturn
      cases hnext : run.desk.form.nextPage? with
      | none =>
          rw [hnext] at hturn
          exact ⟨_, _, hturn, .last hback hnext⟩
      | some next =>
          rw [hnext] at hturn
          refine ⟨_, _, hturn, ?_⟩
          cases hm : run.desk.form.mishap? (run.desk.form.checkedOn page) with
          | some failure => exact .mishap hback hnext hm
          | none =>
              cases haccepts : run.desk.form.accepts page with
              | true => exact .onward hback hnext haccepts
              | false => exact .held hback hnext haccepts rfl

/-- On a form of several pages going from page to page comes to what turning the page comes to. -/
theorem exists_navigate_of_turnPage {submission : Submission} {run after : Run}
    {result : Except Failure (Option Subject)} (hseveral : run.desk.form.hasPages = true)
    (h : outcome (turnPage submission) run = (result, after)) :
    ∃ last, outcome (navigate submission) run = (result, last) ∧ last.desk = after.desk := by
  unfold navigate
  rw [outcome_bind_of_ok (Step.outcome_ask _ _), hseveral, Bool.not_true, if_neg Bool.false_ne_true]
  match result with
  | .error failure => exact ⟨after, outcome_bind_of_error h, rfl⟩
  | .ok none =>
      rw [outcome_bind_of_ok h]
      exact ⟨after, rfl, rfl⟩
  | .ok (some subject) =>
      rw [outcome_bind_of_ok h]
      exact ⟨_, rfl, rfl⟩

theorem turn_navigate (submission : Submission) {run : Run} {page : Page Validator}
    (hseveral : run.desk.form.hasPages = true) (hp : run.desk.form.currentPage? = some page) :
    ∃ result after, outcome (navigate submission) run = (result, after) ∧
      Turn submission run.desk.form page result := by
  obtain ⟨result, after, ho, hturn⟩ := turn_turnPage submission hp
  obtain ⟨last, hlast, -⟩ := exists_navigate_of_turnPage hseveral ho
  exact ⟨result, last, hlast, hturn⟩

theorem navigate_of_single {submission : Submission} {run : Run}
    (h : run.desk.form.hasPages = false) : outcome (navigate submission) run = (.ok none, run) := by
  unfold navigate
  rw [outcome_bind_of_ok (Step.outcome_ask _ _), h, Bool.not_false, if_pos rfl]
  rfl

theorem fixes_sheet_validateFields (fields : List (Definition.Field Validator)) :
    Fixes Run.sheet (Step.change (·.validateFields fields)) :=
  fixes_sheet_change fun _ => ⟨_, rfl⟩

theorem fixes_sheet_navigate (submission : Submission) : Fixes Run.sheet (navigate submission) :=
  (keeps_view_navigate fixes_sheet_validateFields fixes_sheet_log submission).mono fun _ _ => trivial

theorem fixes_sheet_validateAll : Fixes Run.sheet validateAll :=
  (keeps_view_validateAll fixes_sheet_validateFields fixes_sheet_log).mono fun _ _ => trivial

/-- Validation fails if a validator does, and refuses values with the first faulty page. -/
theorem outcome_validateAll (run : Run) :
    ∃ after, outcome validateAll run =
      (match run.desk.form.mishap? run.desk.form.checked with
        | some failure => .error failure
        | none => .ok (run.desk.form.firstFaultyPage?.map fun page =>
          refusal run.desk.form.validate run.desk.form.validate.errors (some page)), after) := by
  unfold validateAll
  cases hm : run.desk.form.mishap? run.desk.form.checked with
  | some failure => exact ⟨_, outcome_bind_of_error (outcome_checkFields_of_some hm)⟩
  | none =>
      rw [outcome_bind_of_ok (outcome_checkFields_of_none hm),
        outcome_bind_of_ok (Step.outcome_ask _ _)]
      dsimp only [id]
      rw [Form.firstFaultyPage?_of_filling
        (run.desk.form.filling_validateFields run.desk.form.checked)]
      cases run.desk.form.firstFaultyPage? with
      | none => exact ⟨_, rfl⟩
      | some page => exact ⟨_, rfl⟩

end Intake

/-- Without extensions a completion that does not fail accepts. -/
theorem Completion.isAcceptance_of_run {service : Service} (hs : service.bus.Idle)
    {submission : Submission} {request : Request} {run after : Run} {subject : Subject}
    (h : outcome (Completion.run service submission request) run = (.ok subject, after)) :
    subject.IsAcceptance := by
  rw [run_of_idle hs] at h
  obtain ⟨saving, _, -, h⟩ := exists_of_outcome_bind h
  obtain ⟨_, _, -, h⟩ := exists_of_outcome_bind h
  obtain ⟨entry, _, -, h⟩ := exists_of_outcome_bind h
  obtain ⟨_, _, -, h⟩ := exists_of_outcome_bind h
  obtain ⟨_, _, -, h⟩ := exists_of_outcome_bind h
  obtain ⟨_, _, -, h⟩ := exists_of_outcome_bind h
  obtain ⟨receipt, _, -, h⟩ := exists_of_outcome_bind h
  obtain ⟨form, _, -, h⟩ := exists_of_outcome_bind h
  obtain ⟨_, _, -, h⟩ := exists_of_outcome_bind h
  cases h
  exact ⟨receipt, rfl⟩

namespace Intake

/-! ### The page that an answer names -/

/-- The id is that of a page of the form; the page is visible, but for a submission that goes back
from a hidden page without a visible one before it. -/
def Named (submission : Submission) (form : Form) (id : Int) : Prop :=
  (∃ page ∈ form.pages, page.id = id) ∧
    (form.isHidden id = true ↔
      form.hasPages = true ∧ submission.isBack = true ∧ form.IsStranded)

theorem named_of_visible {submission : Submission} {form : Form} {page : Page Validator}
    (hp : page ∈ form.pages) (hv : form.isHidden page.id = false)
    (h : ¬ (form.hasPages = true ∧ submission.isBack = true ∧ form.IsStranded)) :
    Named submission form page.id := by
  refine ⟨⟨page, hp, rfl⟩, iff_of_false ?_ h⟩
  rw [hv]
  exact Bool.false_ne_true

theorem isHidden_of_accepts_eq_false {form : Form} {page : Page Validator}
    (h : form.accepts page = false) : form.isHidden page.id = false := by
  rw [← Bool.not_eq_true]
  intro hh
  rw [Form.accepts, Form.checkedOn, hh, if_pos rfl] at h
  cases h

theorem named_of_firstFaultyPage? {submission : Submission} {form : Form} {page : Page Validator}
    (hf : form.firstFaultyPage? = some page)
    (h : ¬ (form.hasPages = true ∧ submission.isBack = true ∧ form.IsStranded)) :
    Named submission form page.id := by
  have hfaulty : form.accepts page = false := by simpa using List.find?_some hf
  exact named_of_visible (List.mem_of_find?_eq_some hf) (isHidden_of_accepts_eq_false hfaulty) h

/-- A page that is found among others by its being visible is named. -/
theorem named_of_firstVisible? {submission : Submission} {form : Form}
    {pages : List (Page Validator)} {id : Int} (hf : form.firstVisible? pages = some id)
    (hp : pages ⊆ form.pages)
    (h : ¬ (form.hasPages = true ∧ submission.isBack = true ∧ form.IsStranded)) :
    Named submission form id := by
  obtain ⟨skipped, page, rest, rfl, rfl, hv, -⟩ := Form.exists_of_firstVisible? hf
  exact named_of_visible (hp (List.mem_append_right _ List.mem_cons_self)) hv h

/-- Turning pages names a page. -/
theorem Turn.named {submission : Submission} {form : Form} {before after : List (Page Validator)}
    {page : Page Validator} {reply : Reply} {id : Int} (hseveral : form.hasPages = true)
    (hstands : form.Stands before page after)
    (hturn : Turn submission form page (.ok (some (.reply reply)))) (hid : reply.page? = some id) :
    Named submission form id := by
  have hmem : page ∈ form.pages := hstands.mem
  cases hturn with
  | back hback =>
      obtain rfl : form.previousPage?.getD page.id = id := Option.some.inj hid
      cases hprevious : form.previousPage? with
      | none =>
          refine ⟨⟨page, hmem, rfl⟩, ?_⟩
          rw [hstands.isStranded_iff, hprevious]
          exact ⟨fun hh => ⟨hseveral, hback, rfl, hh⟩, fun hh => hh.2.2.2⟩
      | some previous =>
          refine named_of_firstVisible? hprevious ?_ ?_
          · exact List.reverse_subset.mpr (List.take_subset _ _)
          · rintro ⟨-, -, hstranded⟩
            rw [hstands.isStranded_iff, hprevious] at hstranded
            cases hstranded.1
  | onward hback hnext haccepts =>
      obtain rfl := Option.some.inj hid
      refine named_of_firstVisible? hnext (List.drop_subset _ _) ?_
      rintro ⟨-, hb, -⟩
      cases hback.symm.trans hb
  | held hback hnext hfaulty hpage =>
      obtain rfl : page.id = id := Option.some.inj (hpage.symm.trans hid)
      refine named_of_visible hmem (isHidden_of_accepts_eq_false hfaulty) ?_
      rintro ⟨-, hb, -⟩
      cases hback.symm.trans hb

section idle

variable {service : Service} (hs : service.bus.Idle) {submission : Submission} {request : Request}
  {run after : Run} {reply : Reply} {id : Int}

include hs

/-- Validation and completion name a page only where going back did not come to an answer. -/
theorem named_of_validateAll
    (h : outcome (validateAll.endsOr (Completion.run service submission request)) run =
      (.ok (.reply reply), after)) (hid : reply.page? = some id)
    (hb : ¬ (run.desk.form.hasPages = true ∧ submission.isBack = true ∧
      run.desk.form.IsStranded)) :
    Named submission run.desk.form id ∧ after.sheet = run.sheet := by
  obtain ⟨checked, hcheck⟩ := outcome_validateAll run
  rcases Step.of_endsOr_eq_ok h with hended | ⟨middle, -, hrun⟩
  · have hsheet : after.sheet = run.sheet := fixes_sheet_validateAll.view_eq hended
    rw [hcheck] at hended
    split at hended
    · cases congrArg Prod.fst hended
    obtain ⟨page, hfaulty, hrefusal⟩ : ∃ page, run.desk.form.firstFaultyPage? = some page ∧
        refusal run.desk.form.validate run.desk.form.validate.errors (some page) = .reply reply := by
      simpa using congrArg Prod.fst hended
    cases hrefusal
    obtain rfl : page.id = id := Option.some.inj hid
    exact ⟨named_of_firstFaultyPage? hfaulty hb, hsheet⟩
  · obtain ⟨receipt, ⟨⟩⟩ := Completion.isAcceptance_of_run hs hrun
    cases hid

/-- Behind the gates an answer that names a page names it as the form asks for that was filled in and
sent to the submitted page. -/
theorem named_of_processValues
    (h : outcome (processValues service submission request) run = (.ok (.reply reply), after))
    (hid : reply.page? = some id) :
    let form := (run.desk.form.bind submission).refreshVisibility.goTo submission.page
    Named submission form id ∧ after.sheet = form.sheet := by
  intro form
  obtain ⟨filled, hform, -, -, -, he⟩ := perform_processValues hs submission request run
  rw [show form = filled.desk.form from hform.symm]
  replace h := he.symm.trans h
  cases hseveral : filled.desk.form.hasPages with
  | false =>
      rw [Step.perform_endsOr_of_none _ (navigate_of_single hseveral)] at h
      refine named_of_validateAll hs h hid ?_
      rintro ⟨hs, -, -⟩
      cases hseveral.symm.trans hs
  | true =>
      have hne : filled.desk.form.pages ≠ [] := by
        rintro hnil
        rw [Form.hasPages, hnil] at hseveral
        cases hseveral
      obtain ⟨before, page, behind, hstands⟩ :
          ∃ before page behind, filled.desk.form.Stands before page behind := by
        rw [hform] at hne ⊢
        exact Form.exists_stands_goTo hne _
      obtain ⟨result, turned, ho, hturn⟩ :=
        turn_navigate submission hseveral hstands.currentPage?_eq
      have hturned : turned.sheet = filled.sheet := (fixes_sheet_navigate submission).view_eq ho
      rcases Step.of_endsOr_eq_ok h with hended | ⟨middle, hpassed, hrest⟩
      · rw [ho] at hended
        cases hended
        exact ⟨hturn.named hseveral hstands hid, hturned⟩
      · rw [ho] at hpassed
        cases hpassed
        cases hturn with
        | last hback hnext =>
            have hb : ¬ (turned.sheet.hasPages = true ∧ submission.isBack = true ∧
                turned.sheet.IsStranded) := by
              rintro ⟨-, hb, -⟩
              cases hback.symm.trans hb
            obtain ⟨hnamed, hsame⟩ := named_of_validateAll hs hrest hid hb
            have hnamed : Named submission turned.sheet id := hnamed
            rw [hturned] at hnamed
            exact ⟨hnamed, hsame.trans hturned⟩

end idle

/-- Without extensions a page that an answer names is one of the form's.  Under the flags that the
submitted values ask for it is visible, unless the submission goes back on a form of several pages from
a hidden page with hidden pages only before it; then it is hidden. -/
theorem named_of_process (service : Service) (hs : service.bus.Idle) (submission : Submission)
    (request : Request) (run : Run) (id : Int)
    (h : page? ((process service submission request).perform run).1 = some id) :
    let form := ((process service submission request).perform run).2.desk.form
    form.pages = run.desk.form.pages ∧
    form.flags = (run.desk.form.bind (withUploads service submission)).refreshVisibility.flags ∧
    (∃ page ∈ form.pages, page.id = id) ∧
    (form.isHidden id = true ↔
      form.hasPages = true ∧ submission.isBack = true ∧ form.IsStranded) := by
  have hmessage : ∀ content title other,
      Subject.reply (.refused (.ofMessage content title)) = .reply other → other.page? = none := by
    rintro content title _ ⟨⟩
    rfl
  have hlet := keeps_letIn (P := fun subject => ∀ other, subject = .reply other →
    other.page? = none) hs hmessage submission request
  intro form
  obtain ⟨reply, hreply, hid⟩ : ∃ reply,
      ((process service submission request).perform run).1 = .ok (.reply reply) ∧
        reply.page? = some id := by
    match hr : ((process service submission request).perform run).1 with
    | .ok (.reply reply) => exact ⟨reply, rfl, by rwa [hr] at h⟩
    | .ok (.data _) | .ok .suspended | .error _ => rw [hr] at h; cases h
  let after := ((process service submission request).perform run).2
  have hends : outcome ((letIn service submission request).endsOr
      (processValues service (withUploads service submission) request)) run =
        (.ok (.reply reply), after) := by
    rw [← process_eq_letIn hs]
    exact Prod.ext hreply rfl
  rcases Step.of_endsOr_eq_ok hends with hended | ⟨admitted, hpassed, hrest⟩
  · have hnone := hlet.of_eq_ok hended _ rfl reply rfl
    rw [hnone] at hid
    cases hid
  · have hdesk : admitted.desk = run.desk := congrArg Prod.fst (hlet.view_eq hpassed)
    obtain ⟨hnamed, hsheet⟩ := named_of_processValues hs hrest hid
    rw [hdesk] at hnamed hsheet
    have hpages : after.sheet.pages = run.desk.form.pages := by
      rw [hsheet]
      rfl
    have hflags : after.sheet.flags =
        (run.desk.form.bind (withUploads service submission)).refreshVisibility.flags := by
      rw [hsheet]
      rfl
    have hafter : Named submission after.sheet id := by
      rw [hsheet]
      exact hnamed
    exact ⟨hpages, hflags, hafter⟩

/-- A form whose first page appears only once the field of the second one is filled in. -/
def lateStart : Form where
  definition := { id := 1, pages := [] }
  pages := [
    { heading := { id := 1, logic := {
        enabled := true, rules := [{ target := 4, operator := .notEmpty }] } }
      children := [.field { id := 2 }] },
    { heading := { id := 3 }, children := [.field { id := 4 }] }]
  distinct := by decide

/-- A submission to it without values, from its first page. -/
def emptyHanded (direction : Direction) : Submission where
  direction := direction
  csrfToken := some "token"

/-- What comes of it. -/
def lateResult (direction : Direction) : Except Failure Subject × Run :=
  (process { sessionToken := "token" } (emptyHanded direction) {}).perform
    { desk := { form := lateStart }, repository := .ledger {} }

theorem named_of_process_lateStart :
    page? (lateResult .next).1 = some 3 ∧ (lateResult .next).2.desk.form.isHidden 3 = false ∧
    page? (lateResult .back).1 = some 1 ∧ (lateResult .back).2.desk.form.IsStranded := by
  have hnext : page? (lateResult .next).1 = some 3 := by decide +kernel
  have hback : page? (lateResult .back).1 = some 1 := by decide +kernel
  have hhidden : (lateResult .back).2.desk.form.isHidden 1 = true := by decide +kernel
  have hon := named_of_process { sessionToken := "token" } Bus.idle_empty (emptyHanded .next) {}
    { desk := { form := lateStart }, repository := .ledger {} } 3 hnext
  have hoff := named_of_process { sessionToken := "token" } Bus.idle_empty (emptyHanded .back) {}
    { desk := { form := lateStart }, repository := .ledger {} } 1 hback
  refine ⟨hnext, ?_, hback, (hoff.2.2.2.mp hhidden).2.2⟩
  rw [← Bool.not_eq_true, lateResult, hon.2.2.2]
  rintro ⟨-, ⟨⟩, -⟩

/-- Going back from the hidden first page leads to that page. -/
theorem isHidden_lateStart :
    page? (lateResult .back).1 = some 1 ∧ (lateResult .back).2.desk.form.isHidden 1 = true := by
  decide +kernel

end Intake
end FormIntake
