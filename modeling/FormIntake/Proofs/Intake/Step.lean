import FormIntake.Intake.Process
import FormIntake.Proofs.Effect
import FormIntake.Proofs.Rendering.Plain

/-! # Parts of a run

What the parts that a run is put together from do to it, and how a run goes on behind a stage that
can end it (`Step.perform_endsOr_of_none`).

Without extensions the stages at which they are asked do nothing (`stage_of_idle`), so that a run is
its own stages only (`Intake.process_of_idle`, `Intake.processValues_of_idle`,
`Completion.run_of_idle`), and what is rendered in it, the confirmation, the notifications and the
copy, is a look at the form (`Renderer.receipt_of_idle`, `Dispatch.mail_of_idle`,
`Completion.copyRow_of_idle`). -/

namespace FormIntake

open Definition Effect

namespace Step

variable {α β : Type}

@[simp] theorem outcome_ask (look : Form → α) (run : Run) :
    outcome (Step.ask look) run = (.ok (look run.desk.form), run) := rfl

@[simp] theorem outcome_query (question : Repository → Except Failure α) (run : Run) :
    outcome (Step.query question) run = (question run.repository, run) := rfl

section store

variable {run : Run}

theorem outcome_store_of_ok {change : Repository → Except Failure Repository}
    {repository : Repository} (h : change run.repository = .ok repository) :
    outcome (Step.store change) run = (.ok (), { run with repository }) := by
  unfold Step.store
  rw [outcome_bind_of_ok (show outcome (get : Step Run) run = (.ok run, run) from rfl), h]
  rfl

theorem outcome_store_of_error {change : Repository → Except Failure Repository}
    {failure : Failure} (h : change run.repository = .error failure) :
    outcome (Step.store change) run = (.error failure, run) := by
  unfold Step.store
  rw [outcome_bind_of_ok (show outcome (get : Step Run) run = (.ok run, run) from rfl), h]
  rfl

theorem outcome_storeNew_of_ok {change : Repository → Except Failure (α × Repository)} {a : α}
    {repository : Repository} (h : change run.repository = .ok (a, repository)) :
    outcome (Step.storeNew change) run = (.ok a, { run with repository }) := by
  unfold Step.storeNew
  rw [outcome_bind_of_ok (show outcome (get : Step Run) run = (.ok run, run) from rfl), h]
  rfl

theorem outcome_storeNew_of_error {change : Repository → Except Failure (α × Repository)}
    {failure : Failure} (h : change run.repository = .error failure) :
    outcome (Step.storeNew change) run = (.error failure, run) := by
  unfold Step.storeNew
  rw [outcome_bind_of_ok (show outcome (get : Step Run) run = (.ok run, run) from rfl), h]
  rfl

end store

/-! ### Stages that can end a run -/

theorem pure_none_endsOr (further : Step Subject) : (pure none : Step _).endsOr further = further :=
  rfl

section endsOr

variable {ended : Step (Option Subject)} {run after : Run} (further : Step Subject)

theorem perform_endsOr_of_none (h : ended.perform run = (.ok none, after)) :
    (ended.endsOr further).perform run = further.perform after :=
  outcome_bind_of_ok h

theorem perform_endsOr_of_some {subject : Subject}
    (h : ended.perform run = (.ok (some subject), after)) :
    (ended.endsOr further).perform run = (.ok subject, after) :=
  outcome_bind_of_ok h

theorem perform_endsOr_of_error {failure : Failure}
    (h : ended.perform run = (.error failure, after)) :
    (ended.endsOr further).perform run = (.error failure, after) :=
  outcome_bind_of_error h

end endsOr

end Step

/-! ### What the smallest parts leave as it is -/

/-- The desk and the repository of a run. -/
def Run.standing (run : Run) : Desk × Repository := (run.desk, run.repository)

namespace Step

variable {α γ : Type} {view : Run → γ}

theorem fixes_ask (look : Form → α) : Fixes view (Step.ask look) :=
  fun _ => ⟨rfl, fun _ _ => trivial⟩

theorem fixes_query (question : Repository → Except Failure α) :
    Fixes view (Step.query question) := fixes_get.bind fun _ _ => fixes_lift _

theorem fixes_atDesk_reading (look : Form → Except Failure α) :
    Fixes view (Step.atDesk (Work.reading look)) := fun _ => ⟨rfl, fun _ _ => trivial⟩

theorem fixes_attempt_reading (look : Form → Except Failure α) :
    Fixes view (Step.attempt (Work.reading look)) := fun _ => ⟨rfl, fun _ _ => trivial⟩

theorem fixes_enter (event : Event) : Fixes Run.standing (Step.enter event) :=
  fixes_modify fun _ => rfl

theorem fixes_log (level : Installation.LogLevel) (event : String)
    (fields : List (String × Value)) : Fixes Run.standing (Step.log level event fields) := fixes_modify fun _ => rfl

theorem fixes_store (change : Repository → Except Failure Repository) :
    Fixes Run.desk (Step.store change) :=
  fixes_get.bind fun _ _ => (fixes_lift _).bind fun _ _ => fixes_modify fun _ => rfl

theorem fixes_storeNew (change : Repository → Except Failure (α × Repository)) :
    Fixes Run.desk (Step.storeNew change) := by
  refine fixes_get.bind fun run _ => (fixes_lift _).bind fun made _ => ?_
  refine Keeps.bind (fixes_modify ?_) fun _ _ => fixes_pure _
  exact fun _ => rfl

end Step

/-! ### Runs without extensions -/

section idle

variable {service : Service} (h : service.bus.Idle)

include h

theorem filter_atDesk_of_idle (hook : Hook) (subject : Subject) :
    Step.atDesk (service.bus.filter hook subject) = pure subject := by
  rw [h.filter]
  rfl

theorem stage_of_idle (hook : Hook) : stage service hook = pure none := by
  rw [stage, h.veto]
  rfl

theorem Completion.run_of_idle (submission : Submission) (request : Request) :
    Completion.run service submission request = (do
      let saving ← Step.ask (isSaving service)
      (if saving then createEntry service submission request else pure ())
      let entry ← Step.ask Form.entryId
      Step.enter (.movedUploads entry)
      (if saving then saveValues else pure ())
      notify service request
      let receipt ← confirm service request
      let form ← Step.ask id
      Step.log .info "Submission processed" (logFields form ++
        [("confirmation_type", .text receipt.kind.name)])
      return .reply (.accepted receipt)) := by
  simp only [Completion.run, finish, stage_of_idle h, Step.pure_none_endsOr]
  apply bind_congr
  intro saving
  cases saving <;> rfl

theorem Intake.processValues_of_idle (submission : Submission) (request : Request) :
    Intake.processValues service submission request = (do
      bindValues submission
      settle submission
      (navigate submission).endsOr <| validateAll.endsOr <|
        Completion.run service submission request) := by
  simp only [processValues, stage_of_idle h, Step.pure_none_endsOr]

omit h in
/-- Filling in a form and settling which of its elements are hidden do not fail, and change nothing
but the form. -/
theorem Intake.outcome_settled {α : Type} (submission : Submission) (further : Step α) (run : Run) :
    ∃ filled : Run,
      filled.desk.form = (run.desk.form.bind submission).refreshVisibility.goTo submission.page ∧
      filled.repository = run.repository ∧ filled.staged = run.staged ∧
      filled.journal = run.journal ++ [.mergedUploads] ∧
      outcome (do bindValues submission; settle submission; further) run = outcome further filled :=
  ⟨(outcome (bindValues submission >>= fun _ => settle submission) run).2,
    rfl, rfl, rfl, rfl, rfl⟩

/-- With its values filled in and its elements hidden and shown a form goes through its pages. -/
theorem Intake.perform_processValues (submission : Submission) (request : Request) (run : Run) :
    ∃ filled : Run,
      filled.desk.form = (run.desk.form.bind submission).refreshVisibility.goTo submission.page ∧
      filled.repository = run.repository ∧ filled.staged = run.staged ∧
      filled.journal = run.journal ++ [.mergedUploads] ∧
      (processValues service submission request).perform run =
        ((navigate submission).endsOr <| validateAll.endsOr <|
          Completion.run service submission request).perform filled := by
  rw [Intake.processValues_of_idle h]
  exact outcome_settled submission _ run

theorem Intake.process_of_idle (submission : Submission) (request : Request) :
    Intake.process service submission request =
      (checkToken service submission).endsOr ((checkGates service request).endsOr
        (processValues service (withUploads service submission) request)) := by
  rw [process, stage_of_idle h, Step.pure_none_endsOr]

end idle

/-! ### What is rendered -/

/-- The confirmation as the submitter of a form receives it. -/
def Renderer.receiptFor (renderer : Renderer) (request : Request) (form : Form) :
    Except Failure Receipt := do
  let confirmation := form.confirmation
  let message ← renderer.rendered form .html request confirmation.message
  let redirectUrl ← renderer.rendered form .url request confirmation.redirectUrl
  return {
    kind := confirmation.kind
    message, redirectUrl
    redirectDelay := confirmation.redirectDelay
    hideForm := confirmation.hideForm
    resetForm := confirmation.resetForm }

/-- A notification of a form as a mail. -/
def Dispatch.mailFor (service : Service) (request : Request) (notification : Notification)
    (form : Form) : Except Failure Mail := do
  let renderer := service.renderer
  let subject ← renderer.rendered form .text request notification.subject
  let body ← renderer.rendered form notification.format request notification.body
  let recipients ← notification.recipients.mapM (renderer.rendered form .text request)
  return { notification := { notification with recipients }, subject, body }

/-- The cells of a copy of a form. -/
def Completion.copyRowFor (service : Service) (request : Request) (columns : List Column)
    (form : Form) : Except Failure (List (String × String)) := do
  let cells ← (columns.filter (·.name ≠ "")).mapM fun column => do
    return (column.name, ← service.renderer.rendered form .text request column.value)
  return Assoc.ofList cells

theorem Renderer.receipt_of_idle {renderer : Renderer} (h : renderer.bus.Idle) (request : Request) :
    renderer.receipt request = Work.reading (renderer.receiptFor request) := by
  unfold receipt receiptFor
  apply Work.ask_bind
  intro desk
  simp only [render_of_idle h]
  apply Work.reading_bind_apply
  intro message
  exact Work.reading_bind_apply fun redirectUrl => rfl

theorem Dispatch.mail_of_idle {service : Service} (h : service.bus.Idle) (request : Request)
    (notification : Notification) :
    Dispatch.mail service request notification =
      Work.reading (mailFor service request notification) := by
  unfold mail mailFor
  simp only [Renderer.render_of_idle h]
  funext desk
  apply Work.reading_bind_apply
  intro subject
  apply Work.reading_bind_apply
  intro body
  rw [Work.mapM_reading fun _ => rfl]
  exact Work.reading_bind_apply fun recipients => rfl

theorem Completion.copyRow_of_idle {service : Service} (h : service.bus.Idle) (request : Request)
    (columns : List Column) :
    copyRow service request columns = Work.reading (copyRowFor service request columns) := by
  unfold copyRow copyRowFor
  simp only [Renderer.render_of_idle h]
  funext desk
  rw [Work.mapM_reading fun _ => Work.reading_bind fun _ => Work.pure_eq_reading _]
  exact Work.reading_bind_apply fun cells => rfl

end FormIntake
