import FormIntake.Form.Build
import FormIntake.Form.Standard
import FormIntake.Proofs.Intake.Gain
import FormIntake.Proofs.Intake.Turns

/-! # Answering every submission

Without extensions the stages before completion do not fail, whatever is submitted: the gates ask the
database for numbers that it takes, and all else looks at the form (`Intake.gives_hurdles`).  What
completion keeps has numbers of its own: that of the content that shows the form, as it was sent, and
those of the elements.  A run over a database fails if it comes to keeping one of them that does not fit
the store, and in no other way (`Intake.answers_of_process`). -/

namespace FormIntake

open Definition Effect

/-- A reply to the submitter. -/
def Subject.IsReply (subject : Subject) : Prop := ∃ reply, subject = .reply reply

/-- The definition of a run's form, and the repository. -/
def Run.ground (run : Run) : FormDefinition × Repository := (run.definition, run.repository)

namespace Step

variable {α β γ : Type} {ground : FormDefinition × Repository} {Q : α → Prop} {R : β → Prop}

/-- From every run on this ground a part of a run gives a result with the property, and leaves the
ground as it is. -/
def Gives (ground : FormDefinition × Repository) (Q : α → Prop) (step : Step α) : Prop :=
  ∀ run, run.ground = ground →
    ∃ a after, outcome step run = (.ok a, after) ∧ after.ground = ground ∧ Q a

theorem gives_pure {a : α} (h : Q a) : Gives ground Q (pure a : Step α) :=
  fun run hr => ⟨a, run, rfl, hr, h⟩

theorem Gives.bind {step : Step α} {next : α → Step β} (h : Gives ground Q step)
    (hn : ∀ a, Q a → Gives ground R (next a)) : Gives ground R (step >>= next) := by
  intro run hr
  obtain ⟨a, middle, ho, hm, ha⟩ := h run hr
  obtain ⟨b, after, hb, hafter, hrb⟩ := hn a ha middle hm
  exact ⟨b, after, (outcome_bind_of_ok ho).trans hb, hafter, hrb⟩

theorem Gives.map {step : Step α} {f : α → β} (h : Gives ground Q step)
    (hf : ∀ a, Q a → R (f a)) : Gives ground R (f <$> step) := by
  rw [map_eq_pure_bind]
  exact h.bind fun a ha => gives_pure (hf a ha)

/-- What always gives a result gives one with a property that it cannot but have. -/
theorem Gives.of_keeps {view : Run → γ} {P : α → Prop} {step : Step α} (h : Gives ground Q step)
    (hk : Keeps view P step) : Gives ground P step := by
  intro run hr
  obtain ⟨a, after, ho, hafter, -⟩ := h run hr
  exact ⟨a, after, ho, hafter, hk.of_eq_ok ho⟩

theorem Gives.mono {P : α → Prop} {step : Step α} (h : Gives ground Q step)
    (hp : ∀ a, Q a → P a) : Gives ground P step := by
  intro run hr
  obtain ⟨a, after, ho, hafter, ha⟩ := h run hr
  exact ⟨a, after, ho, hafter, hp a ha⟩

theorem gives_ask_bind {look : Form → α} {next : α → Step β}
    (h : ∀ form : Form, form.definition = ground.1 → Gives ground R (next (look form))) :
    Gives ground R (Step.ask look >>= next) := by
  intro run hr
  exact h run.desk.form (congrArg Prod.fst hr) run hr

theorem gives_query_bind {question : Repository → Except Failure α} {a : α} {next : α → Step β}
    (hq : question ground.2 = .ok a) (h : Gives ground R (next a)) :
    Gives ground R (Step.query question >>= next) := by
  intro run hr
  have hrepository : run.repository = ground.2 := congrArg Prod.snd hr
  have ho : outcome (Step.query question) run = (.ok a, run) := by
    rw [outcome_query, hrepository, hq]
  rw [outcome_bind_of_ok ho]
  exact h run hr

theorem gives_lift {a : α} {result : Except Failure α} (h : result = .ok a) :
    Gives ground (· = a) (liftM result : Step α) := by
  rw [h]
  exact fun run hr => ⟨a, run, rfl, hr, rfl⟩

theorem gives_filter {service : Service} (hs : service.bus.Idle) (hook : Hook) (subject : Subject) :
    Gives ground (· = subject) (Step.atDesk (service.bus.filter hook subject)) := by
  rw [filter_atDesk_of_idle hs]
  exact gives_pure rfl

theorem gives_log (level : Installation.LogLevel) (event : String)
    (fields : List (String × Value)) :
    Gives ground (fun _ => True) (Step.log level event fields) :=
  fun _ hr => ⟨(), _, rfl, hr, trivial⟩

theorem gives_modify {update : Run → Run} (h : ∀ run, (update run).ground = run.ground) :
    Gives ground (fun _ => True) (modify update : Step Unit) :=
  fun run hr => ⟨(), _, rfl, (h run).trans hr, trivial⟩

theorem gives_enter (event : Event) : Gives ground (fun _ => True) (Step.enter event) :=
  fun _ hr => ⟨(), _, rfl, hr, trivial⟩

theorem gives_attempt_reading (look : Form → Except Failure α) :
    Gives ground (fun _ => True) (Step.attempt (Work.reading look)) :=
  fun _ hr => ⟨_, _, rfl, hr, trivial⟩

theorem gives_reading {look : Form → Except Failure α}
    (h : ∀ form : Form, form.definition = ground.1 → ∃ a, look form = .ok a) :
    Gives ground (fun _ => True) (Step.atDesk (Work.reading look)) := by
  intro run hr
  obtain ⟨a, ha⟩ := h run.desk.form (congrArg Prod.fst hr)
  refine ⟨a, run, ?_, hr, trivial⟩
  show (look run.desk.form, run) = _
  rw [ha]

theorem gives_mapM {f : α → Step β} (h : ∀ a, Gives ground (fun _ => True) (f a)) :
    ∀ as : List α, Gives ground (fun _ => True) (as.mapM f)
  | [] => gives_pure trivial
  | a :: as => by
    rw [List.mapM_cons]
    exact (h a).bind fun _ _ => (gives_mapM h as).bind fun _ _ => gives_pure trivial

theorem gives_otherwise {P : Subject → Prop} {first second : Step (Option Subject)}
    (hf : Gives ground (fun answer => ∀ subject ∈ answer, P subject) first)
    (hs : Gives ground (fun answer => ∀ subject ∈ answer, P subject) second) :
    Gives ground (fun answer => ∀ subject ∈ answer, P subject) (first.otherwise second) := by
  refine hf.bind fun answer ha => ?_
  cases answer with
  | some subject => exact gives_pure ha
  | none => exact hs

end Step

open Step

/-! ### The token and the gates -/

section gates

variable {service : Service} (hs : service.bus.Idle) {ground : FormDefinition × Repository}

include hs

theorem Intake.gives_checkToken (submission : Submission) :
    Gives ground (fun _ => True) (checkToken service submission) := by
  unfold checkToken
  split
  · exact gives_pure trivial
  · refine gives_ask_bind fun form _ => (gives_log _ _ _).bind fun _ _ => ?_
    exact (gives_filter hs _ _).map fun _ _ => trivial

namespace Gate

theorem gives_refuse (hook : Hook) (key usual : String) :
    Gives ground (fun _ => True) (refuse service hook key usual) := by
  unfold refuse
  exact gives_ask_bind fun form _ => (gives_filter hs _ _).mono fun _ _ => trivial

theorem gives_isOpen (hook : Hook) : Gives ground (fun _ => True) (isOpen service hook) := by
  rw [isOpen_of_idle hs]
  exact gives_pure trivial

omit hs in
theorem gives_bound? (text : String) : Gives ground (fun _ => True) (bound? text) := by
  unfold bound?
  split
  · exact gives_pure trivial
  · split
    · exact gives_pure trivial
    · exact (gives_log _ _ _).bind fun _ _ => gives_pure trivial

theorem gives_checkSchedule : Gives ground (fun _ => True) (checkSchedule service) := by
  unfold checkSchedule
  refine gives_ask_bind fun form _ => ?_
  dsimp only
  split
  · exact gives_pure trivial
  · split
    · exact gives_pure trivial
    · refine (gives_isOpen hs _).bind fun bypassed _ => ?_
      split
      · exact gives_pure trivial
      · refine (gives_bound? _).bind fun start _ => ?_
        split
        · exact (gives_log _ _ _).bind fun _ _ => gives_refuse hs _ _ _
        · refine (gives_bound? _).bind fun stop _ => ?_
          split
          · exact (gives_log _ _ _).bind fun _ _ => gives_refuse hs _ _ _
          · exact gives_pure trivial

variable {db : Database} (hdb : ground.2 = .database db) (hform : fitsStore ground.1.id = true)

include hdb hform

theorem gives_refuseSurplus (limit : Int) :
    Gives ground (fun _ => True) (refuseSurplus service limit) := by
  unfold refuseSurplus
  refine gives_ask_bind fun form hf => (gives_enter _).bind fun _ _ => ?_
  have hid : fitsStore form.id = true := by
    rw [Form.id, hf]
    exact hform
  refine gives_query_bind (by rw [hdb]; exact Repository.countEntries_of_fits db hid) ?_
  refine (gives_filter hs _ _).bind fun count hc => ?_
  rw [hc]
  refine (gives_lift rfl).bind fun reached _ => ?_
  split
  · exact gives_pure trivial
  · exact (gives_log _ _ _).bind fun _ _ => gives_refuse hs _ _ _

variable {request : Request}
  (huser : ∀ user, request.user = some user → fitsStore user.id = true)

include huser

theorem gives_hasEntry : Gives ground (fun _ => True) (hasEntry service request) := by
  unfold hasEntry
  refine gives_ask_bind fun form hf => ?_
  have hid : fitsStore form.id = true := by
    rw [Form.id, hf]
    exact hform
  split
  · exact (gives_filter hs _ _).bind fun _ _ => gives_pure trivial
  · next submitter hw =>
    have hsubmitter : ∀ user, submitter = .user user → fitsStore user = true := by
      rintro user rfl
      unfold submitter? at hw
      split at hw
      · obtain ⟨visitor, hv, hu⟩ := Option.map_eq_some_iff.mp hw
        cases hu
        exact huser visitor hv
      · cases hw
    refine (gives_enter _).bind fun _ _ =>
      gives_query_bind (by rw [hdb]; exact Repository.entryExists_of_fits db hid hsubmitter) ?_
    exact (gives_filter hs _ _).bind fun _ _ => gives_pure trivial

theorem gives_refuseRepeated : Gives ground (fun _ => True) (refuseRepeated service request) := by
  unfold refuseRepeated
  refine gives_ask_bind fun form _ => ?_
  split
  · exact gives_pure trivial
  · refine (gives_hasEntry hs hdb hform huser).bind fun found _ => ?_
    split
    · exact gives_pure trivial
    · refine (gives_log _ _ _).bind fun _ _ => ?_
      exact (gives_refuse hs _ _ _).map fun _ _ => trivial

theorem gives_checkLimits : Gives ground (fun _ => True) (checkLimits service request) := by
  unfold checkLimits
  refine gives_ask_bind fun form _ => ?_
  split
  · exact gives_pure trivial
  · refine (gives_isOpen hs _).bind fun bypassed _ => ?_
    split
    · exact gives_pure trivial
    · refine (gives_refuseRepeated hs hdb hform huser).bind fun ended _ => ?_
      cases ended with
      | some refusal => exact gives_pure trivial
      | none =>
          dsimp only
          split
          · split
            · exact gives_refuseSurplus hs hdb hform _
            · exact gives_pure trivial
          · exact gives_pure trivial

theorem gives_check : Gives ground (fun _ => True) (check service request) := by
  unfold check
  refine (gives_checkLimits hs hdb hform huser).bind fun limits _ => ?_
  split
  · exact gives_pure trivial
  · exact gives_checkSchedule hs

end Gate

end gates

/-! ### The stages before completion -/

theorem Subject.IsRefusal.isReply {subject : Subject} (h : subject.IsRefusal) : subject.IsReply := by
  obtain ⟨refusal, rfl⟩ := h
  exact ⟨.refused refusal, rfl⟩

/-- The fields that are validated when a submission comes from the page that a form stands on: those of
the page if there is one to go on to, all of them if there is none, and none on the way back. -/
def Form.examined (form : Form) (submission : Submission) : List (Definition.Field Validator) :=
  if !form.hasPages then form.checked
  else match form.currentPage? with
    | none => form.checked
    | some page =>
      if submission.isBack then []
      else match form.nextPage? with
        | none => form.checked
        | some _ => form.checkedOn page

namespace Intake

section pages

/-- What going from page to page and validation come to: the failure of a validator over the fields that
are looked at, or an answer that is a reply, or none. -/
def Ends (mishap : Option Failure) (result : Except Failure (Option Subject)) : Prop :=
  match mishap with
  | some failure => result = .error failure
  | none => ∃ answer, result = .ok answer ∧ ∀ subject ∈ answer, subject.IsReply

theorem ends_validateAll (run : Run) :
    Ends (run.desk.form.mishap? run.desk.form.checked) (outcome validateAll run).1 := by
  obtain ⟨after, ho⟩ := outcome_validateAll run
  rw [ho]
  cases run.desk.form.mishap? run.desk.form.checked with
  | some failure => exact rfl
  | none =>
      refine ⟨_, rfl, fun subject hs => ?_⟩
      obtain ⟨page, -, rfl⟩ := Option.map_eq_some_iff.mp hs
      exact ⟨_, rfl⟩

/-- Behind pages without an answer the whole form is validated. -/
theorem ends_of_navigate {submission : Submission} {run after : Run}
    (h : outcome (navigate submission) run = (.ok none, after)) (hdesk : after.desk = run.desk) :
    Ends (run.desk.form.mishap? run.desk.form.checked)
      (outcome ((navigate submission).otherwise validateAll) run).1 := by
  rw [Step.outcome_otherwise_of_none _ h, ← hdesk]
  exact ends_validateAll after

theorem ends_pages (submission : Submission) (run : Run) :
    Ends (run.desk.form.mishap? (run.desk.form.examined submission))
      (outcome ((navigate submission).otherwise validateAll) run).1 := by
  unfold Form.examined
  cases hseveral : run.desk.form.hasPages with
  | false => exact ends_of_navigate (navigate_of_single hseveral) rfl
  | true =>
      rw [Bool.not_true, if_neg Bool.false_ne_true]
      cases hp : run.desk.form.currentPage? with
      | none =>
          have hturn : outcome (turnPage submission) run = (.ok none, run) := by
            unfold turnPage
            rw [outcome_bind_of_ok (Step.outcome_ask _ _)]
            dsimp only [id]
            rw [hp]
            rfl
          obtain ⟨after, hnavigate, hdesk⟩ := exists_navigate_of_turnPage hseveral hturn
          exact ends_of_navigate hnavigate hdesk
      | some page =>
          have hturn := outcome_turnPage submission hp
          dsimp only
          cases hback : submission.isBack with
          | true =>
              rw [hback, if_pos rfl] at hturn
              obtain ⟨after, hnavigate, -⟩ := exists_navigate_of_turnPage hseveral hturn
              rw [Step.outcome_otherwise_of_some _ hnavigate]
              refine ⟨_, rfl, ?_⟩
              rintro _ ⟨⟩
              exact ⟨_, rfl⟩
          | false =>
              rw [hback, if_neg Bool.false_ne_true] at hturn
              rw [if_neg Bool.false_ne_true]
              cases hnext : run.desk.form.nextPage? with
              | none =>
                  rw [hnext] at hturn
                  obtain ⟨after, hnavigate, hdesk⟩ := exists_navigate_of_turnPage hseveral hturn
                  exact ends_of_navigate hnavigate hdesk
              | some next =>
                  rw [hnext] at hturn
                  obtain ⟨after, hnavigate, -⟩ := exists_navigate_of_turnPage hseveral hturn
                  dsimp only at hnavigate ⊢
                  cases hm : run.desk.form.mishap? (run.desk.form.checkedOn page) with
                  | some failure =>
                      rw [hm] at hnavigate
                      rw [Step.outcome_otherwise_of_error _ hnavigate]
                      exact rfl
                  | none =>
                      rw [hm] at hnavigate
                      rw [Step.outcome_otherwise_of_some _ hnavigate]
                      refine ⟨_, rfl, ?_⟩
                      rintro _ ⟨⟩
                      split
                      · exact ⟨_, rfl⟩
                      · exact ⟨_, rfl⟩

theorem fixes_definition_pages (submission : Submission) :
    Fixes Run.definition ((navigate submission).otherwise validateAll) := by
  have hfields : ∀ fields, Fixes Run.definition (Step.change (·.validateFields fields)) :=
    fun _ => fixes_definition_change fun _ => rfl
  have hlog : ∀ level event fields, Fixes Run.definition (Step.log level event fields) :=
    fun _ _ _ _ => ⟨rfl, fun _ _ => trivial⟩
  have hboth := Step.keeps_otherwise (keeps_view_navigate hfields hlog submission)
    (keeps_view_validateAll hfields hlog)
  exact hboth.mono fun _ _ => trivial

end pages

/-- The failure of the first validator that fails over the fields that are validated for a submission, if
it is let in. -/
def mishap? (service : Service) (submission : Submission) (request : Request) (run : Run) :
    Option Failure :=
  match (outcome (letIn service submission request) run).1 with
  | .ok none =>
    let merged := withUploads service submission
    let form := (run.desk.form.bind merged).refreshVisibility.goTo submission.page
    form.mishap? (form.examined merged)
  | _ => none

section idle

variable {service : Service} (hs : service.bus.Idle) {ground : FormDefinition × Repository}
  {db : Database} (hdb : ground.2 = .database db) (hform : fitsStore ground.1.id = true)
  {request : Request} (huser : ∀ user, request.user = some user → fitsStore user.id = true)

include hs hdb hform huser

theorem gives_checkGates : Gives ground (fun _ => True) (checkGates service request) := by
  unfold checkGates
  refine (Gate.gives_check hs hdb hform huser).bind fun answer _ => ?_
  split
  · exact gives_pure trivial
  · exact gives_ask_bind fun form _ => (gives_log _ _ _).bind fun _ _ => gives_pure trivial

theorem gives_letIn (submission : Submission) :
    Gives ground (fun answer => ∀ subject ∈ answer, subject.IsReply)
      (letIn service submission request) := by
  have hgate : ∀ {step : Step (Option Subject)}, Gives ground (fun _ => True) step →
      Keeps Run.standing (fun ended => ∀ subject ∈ ended, subject.IsRefusal) step →
      Gives ground (fun answer => ∀ subject ∈ answer, subject.IsReply) step :=
    fun hg hk => (hg.of_keeps hk).mono fun _ ha subject hm => (ha subject hm).isReply
  unfold letIn
  refine gives_otherwise (hgate (gives_checkToken hs submission) (keeps_checkToken hs submission)) ?_
  refine gives_otherwise (hgate (gives_checkGates hs hdb hform huser) (keeps_checkGates hs request)) ?_
  exact gives_pure (by rintro _ ⟨⟩)

/-- Over a database that the numbers of the form and of the user fit, a submission is let in or answered
with a reply; and if it is let in, the stages before completion fail as the first validator does that
fails over the fields that are looked at, and an answer of theirs is a reply. -/
theorem ends_hurdles (submission : Submission) {run : Run} (hr : run.ground = ground) :
    let hurdled := outcome (Step.firstAnswer (hurdles service submission request)) run
    hurdled.2.ground = ground ∧
      Ends (mishap? service submission request run) hurdled.1 := by
  intro hurdled
  obtain ⟨answer, entered, hlet, hentered, hanswer⟩ := gives_letIn hs hdb hform huser submission run hr
  cases answer with
  | some subject =>
      have ho : hurdled = (.ok (some subject), entered) := by
        show outcome _ run = _
        rw [firstAnswer_hurdles_of_idle hs, Step.outcome_otherwise_of_some _ hlet]
      rw [ho, mishap?, hlet]
      exact ⟨hentered, _, rfl, hanswer⟩
  | none =>
      have hnone : (outcome (letIn service submission request) run).1 = .ok none := congrArg Prod.fst hlet
      obtain ⟨filled, hfilled, ho⟩ := exists_filled_of_letIn hs submission hnone
      have hmishap : mishap? service submission request run = filled.desk.form.mishap?
          (filled.desk.form.examined (withUploads service submission)) := by
        rw [mishap?, hnone, hfilled]
      rw [hmishap]
      have hends := ends_pages (withUploads service submission) filled
      rw [← ho] at hends
      have hdefinition : hurdled.2.definition = filled.definition := by
        rw [show hurdled = _ from ho]
        exact (fixes_definition_pages _ filled).1
      have hkept : hurdled.2.repository = run.repository := congrArg (·.2.1)
        ((Step.quiet_firstAnswer (quiet_hurdles service submission request)) run).1
      refine ⟨?_, hends⟩
      rw [← hr, Run.ground, Run.ground, hkept, hdefinition, Run.definition, hfilled]
      rfl

end idle

end Intake

/-! ### Completion -/

/-- The confirmations of a form have no tokens in them. -/
def Definition.FormDefinition.HasPlainConfirmations (definition : FormDefinition) : Prop :=
  ∀ confirmation ∈ definition.confirmations, Template.hasTokens confirmation.message = false ∧
    Template.hasTokens confirmation.redirectUrl = false

/-- The confirmation of a form is one of its own, or the default one. -/
theorem Form.confirmation_mem (form : Form) :
    form.confirmation = defaultConfirmation ∨ form.confirmation ∈ form.definition.confirmations := by
  unfold confirmation
  split
  · exact .inl rfl
  · next usual others hc =>
    refine .inr ?_
    rw [hc]
    cases hf : others.find? fun c => c.logic.isActive && form.appears c.logic with
    | none => exact List.mem_cons_self
    | some other => exact List.mem_cons_of_mem _ (List.mem_of_find?_eq_some hf)

/-- A confirmation without tokens can be rendered. -/
theorem Form.exists_receiptFor (form : Form) (h : form.definition.HasPlainConfirmations)
    {renderer : Renderer} {request : Request} :
    ∃ receipt, renderer.receiptFor request form = .ok receipt := by
  have hplain : Template.hasTokens form.confirmation.message = false ∧
      Template.hasTokens form.confirmation.redirectUrl = false := by
    rcases form.confirmation_mem with hd | hm
    · rw [hd]
      decide
    · exact h _ hm
  unfold Renderer.receiptFor
  dsimp only
  rw [Renderer.rendered_of_hasTokens_eq_false _ _ _ _ hplain.1,
    Renderer.rendered_of_hasTokens_eq_false _ _ _ _ hplain.2]
  exact ⟨_, rfl⟩

namespace Completion

section answer

variable {service : Service} (hs : service.bus.Idle) {ground : FormDefinition × Repository}

theorem gives_clearUploads : Gives ground (fun _ => True) clearUploads := by
  unfold clearUploads
  refine gives_ask_bind fun form _ => fun run hr => ?_
  show ∃ a after, outcome (if run.staged.contains form.sessionKey then _ else _) run = _ ∧ _
  split
  · exact ⟨(), _, rfl, hr, trivial⟩
  · exact ⟨(), _, rfl, hr, trivial⟩

include hs

theorem gives_send (request : Request) (notification : Notification) :
    Gives ground (fun _ => True) (Dispatch.send service request notification) := by
  unfold Dispatch.send
  rw [Dispatch.mail_of_idle hs]
  refine (gives_attempt_reading _).bind fun result _ => ?_
  cases result with
  | error failure => exact gives_pure trivial
  | ok mail =>
      show Gives ground _ (Dispatch.hand service mail)
      unfold Dispatch.hand
      refine Gives.bind (gives_modify fun _ => rfl) fun _ _ => ?_
      split
      · exact gives_pure trivial
      · exact (gives_enter _).bind fun _ _ => gives_pure trivial

theorem gives_deliver (request : Request) (notification : Notification) :
    Gives ground (fun _ => True) (Dispatch.deliver service request notification) := by
  unfold Dispatch.deliver
  refine gives_ask_bind fun form _ => ?_
  dsimp only
  split
  · exact gives_pure trivial
  · split
    · exact (gives_log _ _ _).bind fun _ _ => gives_pure trivial
    · refine (gives_send hs request notification).bind fun result _ => ?_
      split
      · exact (gives_log _ _ _).bind fun _ _ => gives_pure trivial
      · exact (gives_log _ _ _).bind fun _ _ => gives_pure trivial

theorem gives_notify (request : Request) :
    Gives ground (fun _ => True) (notify service request) := by
  have hall : Gives ground (fun _ => True) (Dispatch.all service request) :=
    gives_ask_bind fun form _ => gives_mapM (gives_deliver hs request) _
  unfold notify
  exact hall.bind fun deliveries _ => gives_ask_bind fun form _ => gives_log _ _ _

theorem gives_finish (receipt : Receipt) :
    Gives ground Subject.IsReply (finish service receipt) := by
  unfold finish
  rw [stage_of_idle hs, Step.pure_none_endsOr]
  exact gives_ask_bind fun form _ => (gives_log _ _ _).bind fun _ _ => gives_pure ⟨_, rfl⟩

omit hs in
theorem gives_copy_of_inactive (hcopy : ground.1.copy.isActive = false) (request : Request) :
    Gives ground (fun _ => True) (copy service request) := by
  unfold copy
  refine gives_ask_bind fun form hf => ?_
  dsimp only [id]
  rw [hf, hcopy]
  exact gives_pure trivial

/-- A completion that has come to its notifications goes on to an answer. -/
theorem gives_answer (hcopy : ground.1.copy.isActive = false)
    (hplain : ground.1.HasPlainConfirmations) (request : Request) :
    Gives ground Subject.IsReply (answer service request) := by
  have hreceipt : Gives ground (fun _ => True) (Step.atDesk (service.renderer.receipt request)) := by
    rw [Renderer.receipt_of_idle hs]
    exact gives_reading fun form hf => form.exists_receiptFor (hf ▸ hplain)
  unfold answer tell
  rw [bind_assoc]
  refine (gives_notify hs request).bind fun _ _ => hreceipt.bind fun receipt _ => ?_
  refine (gives_copy_of_inactive hcopy request).bind fun _ _ => ?_
  exact gives_clearUploads.bind fun _ _ => gives_finish hs receipt

end answer

/-! ### What completion keeps in a database -/

/-- The numbers that are kept of a submission beside those of the form and of the user: that of the
content that shows the form, and those of the elements. -/
def numbers (submission : Submission) (form : Form) : List Int :=
  submission.numericPostId.toList ++ (keptValues form).map Prod.fst

theorem nodup_keptValues (form : Form) : ((keptValues form).map Prod.fst).Nodup := by
  rw [keptValues, List.map_map]
  exact (List.filter_sublist.map _).nodup form.nodup_fieldIds

/-- The entry of a submission is kept if the number of the content fits. -/
theorem createEntry_of_numericPostId (service : Service) (submission : Submission)
    {request : Request} {run : Run} {db : Database} (hdb : run.repository = .database db)
    (hform : fitsStore run.desk.form.id = true)
    (huser : ∀ user, request.user = some user → fitsStore user.id = true) :
    (submission.numericPostId.toList.all fitsStore = true → ∃ entry made,
      run.repository.createEntry (draft service run.desk.form submission request) =
        .ok (entry, .database made)) ∧
    (submission.numericPostId.toList.all fitsStore = false →
      run.repository.createEntry (draft service run.desk.form submission request) =
        .error .oversizedNumber) := by
  have huser : (request.user.map User.id).toList.all fitsStore = true := by
    cases hu : request.user with
    | none => rfl
    | some user => simpa using huser user hu
  have hall : (Database.draftNumbers (draft service run.desk.form submission request)).all fitsStore =
      submission.numericPostId.toList.all fitsStore := by
    simp only [Database.draftNumbers, draft, Option.toList_none, List.nil_append, List.all_append,
      List.all_cons, List.all_nil, hform, huser, Bool.true_and, Bool.and_true]
  rw [hdb]
  constructor
  · intro h
    obtain ⟨created, hc⟩ :
        ∃ created, db.createEntry (draft service run.desk.form submission request) = .ok created :=
      Database.createEntry_of_fits rfl (hall.trans h)
    refine ⟨created.1, created.2, ?_⟩
    show (db.createEntry _).map _ = _
    rw [hc]
    rfl
  · intro h
    show (db.createEntry _).map _ = _
    rw [Database.createEntry_of_oversized (hall.trans h)]
    rfl

section keep

variable {service : Service} (hs : service.bus.Idle) {submission : Submission} {request : Request}
  {run : Run} {db : Database} (hdb : run.repository = .database db) (hr : run.repository.Numbered)
  (hnext : fitsStore run.repository.nextId = true)
  (hform : fitsStore run.desk.form.id = true)
  (huser : ∀ user, request.user = some user → fitsStore user.id = true)

include hs hr hnext in
/-- The values of an entry that is kept are kept if the numbers of their elements fit. -/
theorem file_of_database {entry : Entry} {made : Database} {entered : Run}
    (hentry : run.repository.createEntry (draft service run.desk.form submission request) =
      .ok (entry, .database made))
    (hmade : entered.repository = .database made)
    (hentered : entered.desk.form = { run.desk.form with entryId := some entry.id }) :
    ∃ kept, outcome (file service true) entered =
        (if ((keptValues run.desk.form).map Prod.fst).all fitsStore then .ok none
          else .error .oversizedNumber, kept) ∧
      kept.definition = run.definition := by
  let moved : Run :=
    { entered with journal := entered.journal ++ [.movedUploads entered.desk.form.entryId] }
  have hmoved : moved.desk.form.entryId = some entry.id := congrArg Form.entryId hentered
  have hvalues : keptValues moved.desk.form = keptValues run.desk.form :=
    (congrArg keptValues hentered).trans rfl
  have hdefinition : moved.definition = run.definition := by
    show entered.desk.form.definition = _
    rw [hentered]
    rfl
  have henters := Repository.enters_createEntry rfl hentry
  have hid := henters.id_eq
  have hpos : 0 < entry.id := hid ▸ hr.next_pos
  have hthere : ∃ other ∈ made.entries, other.id = entry.id := by
    have hentries : made.entries = run.repository.entries ++ [entry] := henters.entries_eq
    exact ⟨entry, hentries ▸ List.mem_append_right _ (List.mem_singleton_self _), rfl⟩
  have hnone : (Repository.database made).fieldValues entry.id = [] := by
    rw [henters.fieldValues_eq, hid]
    exact hr.fieldValues_eq_nil _ (Int.le_refl _)
  have hsave := Repository.saveValues_database (hid ▸ hnext) hthere hnone
    (nodup_keptValues moved.desk.form)
  rw [outcome_file hs, ← hvalues]
  cases hkeys : ((keptValues moved.desk.form).map Prod.fst).all fitsStore with
  | true =>
      rw [hkeys, if_pos rfl, ← hmade] at hsave
      obtain ⟨last, hl, -, hdesk⟩ := saveValues_of_ok hmoved hpos hsave
      rw [outcome_bind_of_ok hl]
      refine ⟨last, rfl, ?_⟩
      rw [Run.definition, hdesk]
      exact hdefinition
  | false =>
      rw [hkeys, if_neg Bool.false_ne_true, ← hmade] at hsave
      rw [outcome_bind_of_error (saveValues_of_error hmoved hpos hsave)]
      exact ⟨moved, rfl, hdefinition⟩

variable (submission)

include hs hdb hr hnext hform huser

/-- Where entries are kept, completion keeps what there is to keep if all its numbers fit the store, and
fails if one does not. -/
theorem keep_of_database :
    ∃ kept, outcome (keep service submission request) run =
        (if isSaving service run.desk.form && !(numbers submission run.desk.form).all fitsStore then
          .error .oversizedNumber else .ok none, kept) ∧
      kept.definition = run.definition := by
  rw [outcome_keep hs]
  cases hsaving : isSaving service run.desk.form with
  | false =>
      rw [if_neg Bool.false_ne_true, file, stage_of_idle hs]
      exact ⟨_, rfl, rfl⟩
  | true =>
      obtain ⟨hfits, hover⟩ :=
        createEntry_of_numericPostId service submission hdb hform huser
      rw [if_pos rfl, Bool.true_and, numbers, List.all_append]
      cases hpost : submission.numericPostId.toList.all fitsStore with
      | false =>
          rw [outcome_bind_of_error (createEntry_of_error (hover hpost))]
          exact ⟨run, rfl, rfl⟩
      | true =>
          obtain ⟨entry, made, hentry⟩ := hfits hpost
          obtain ⟨entered, ho, hmade, hentered⟩ := createEntry_of_ok hentry
          obtain ⟨kept, hfile, hdefinition⟩ := file_of_database hs hr hnext hentry hmade hentered
          rw [outcome_bind_of_ok ho, hfile, Bool.true_and]
          refine ⟨kept, ?_, hdefinition⟩
          cases ((keptValues run.desk.form).map Prod.fst).all fitsStore <;> rfl

/-- Over a database a completion without copies answers if all numbers that it keeps fit the store, and
fails if one does not. -/
theorem conclude_of_database (hcopy : run.definition.copy.isActive = false)
    (hplain : run.definition.HasPlainConfirmations) :
    let overflows := isSaving service run.desk.form && !(numbers submission run.desk.form).all fitsStore
    let result := (outcome (conclude service submission request) run).1
    (overflows = false → ∃ subject, result = .ok subject ∧ subject.IsReply) ∧
      (overflows = true → result = .error .oversizedNumber) := by
  intro overflows result
  obtain ⟨kept, hkeep, hdefinition⟩ :=
    keep_of_database hs submission hdb hr hnext hform huser
  constructor
  · intro hfits
    rw [show (isSaving service run.desk.form && _) = false from hfits, if_neg Bool.false_ne_true] at hkeep
    have hinactive : kept.ground.1.copy.isActive = false := by
      rw [Run.ground, hdefinition]
      exact hcopy
    have htokens : kept.ground.1.HasPlainConfirmations := by
      rw [Run.ground, hdefinition]
      exact hplain
    obtain ⟨subject, after, ho, -, hreply⟩ := gives_answer hs hinactive htokens request kept rfl
    have hresult : result = .ok subject :=
      congrArg Prod.fst ((Step.perform_endsOr_of_none _ hkeep).trans ho)
    exact ⟨subject, hresult, hreply⟩
  · intro hover
    rw [show (isSaving service run.desk.form && _) = true from hover, if_pos rfl] at hkeep
    exact congrArg Prod.fst (Step.perform_endsOr_of_error _ hkeep)

end keep

end Completion

namespace Intake

/-- A run comes to completion, and is to keep a number that does not fit the store. -/
def Overflows (service : Service) (submission : Submission) (request : Request) (run : Run) : Prop :=
  let passed := outcome (Step.firstAnswer (hurdles service submission request)) run
  passed.1 = .ok none ∧ Completion.isSaving service run.desk.form = true ∧
    ∃ n ∈ Completion.numbers submission passed.2.desk.form, fitsStore n = false

instance (result : Except Failure (Option Subject)) : Decidable (result = .ok none) :=
  match result with
  | .ok none => .isTrue rfl
  | .ok (some _) => .isFalse (by rintro ⟨⟩)
  | .error _ => .isFalse (by rintro ⟨⟩)

instance (service : Service) (submission : Submission) (request : Request) (run : Run) :
    Decidable (Overflows service submission request run) := by
  unfold Overflows
  infer_instance

/-- A run that passes all that may stop it before completion answers with a reply, unless it is to keep a
number that does not fit the store. -/
theorem oversized_or_reply_of_passed {service : Service} (hs : service.bus.Idle)
    {submission : Submission} {request : Request} {run passed : Run} {db : Database}
    (hdb : run.repository = .database db) (hr : run.repository.Numbered)
    (hnext : fitsStore run.repository.nextId = true) (hform : fitsStore run.desk.form.id = true)
    (huser : ∀ user, request.user = some user → fitsStore user.id = true)
    (hcopy : run.definition.copy.isActive = false) (hplain : run.definition.HasPlainConfirmations)
    (ho : outcome (Step.firstAnswer (hurdles service submission request)) run = (.ok none, passed))
    (hground : passed.ground = run.ground) :
    let result := ((process service submission request).perform run).1
    (Overflows service submission request run → result = .error .oversizedNumber) ∧
      (¬ Overflows service submission request run → ∃ reply, result = .ok (.reply reply)) := by
  intro result
  have hresult : result = (outcome (Completion.conclude service
      (withUploads service submission) request) passed).1 := by
    show ((process service submission request).perform run).1 = _
    rw [process_eq]
    exact congrArg Prod.fst (Step.perform_endsOr_of_none _ ho)
  have hdefinition : passed.definition = run.definition := congrArg Prod.fst hground
  have hrepository : passed.repository = run.repository := congrArg Prod.snd hground
  have hsaving : Completion.isSaving service passed.desk.form =
      Completion.isSaving service run.desk.form :=
    congrArg (fun definition : FormDefinition =>
      service.settings.saveEntries && definition.saveEntry) hdefinition
  obtain ⟨hfits, hfails⟩ := Completion.conclude_of_database hs (withUploads service submission)
    (hrepository.trans hdb) (hrepository ▸ hr) (hrepository ▸ hnext)
    (by rw [Form.id, show passed.desk.form.definition = _ from hdefinition]; exact hform)
    huser (hdefinition ▸ hcopy) (hdefinition ▸ hplain)
  have hiff : Overflows service submission request run ↔
      (Completion.isSaving service passed.desk.form &&
        !(Completion.numbers (withUploads service submission) passed.desk.form).all
          fitsStore) = true := by
    rw [hsaving, Bool.and_eq_true, Bool.not_eq_true', List.all_eq_false]
    simp only [Overflows, ho, true_and, Bool.not_eq_true]
    rfl
  rw [hresult]
  constructor
  · exact fun hover => hfails (hiff.mp hover)
  · intro hno
    obtain ⟨subject, hsubject, reply, rfl⟩ := hfits (Bool.eq_false_iff.mpr (hno ∘ hiff.mpr))
    exact ⟨reply, hsubject⟩

/-- Without extensions and copies, over a database that numbers of entries, of the form and of the user
fit, a run of a form whose confirmations have no tokens answers with a reply, unless a validator fails
over a value that is looked at, or the run is to keep another number, of the content that shows the form
or of an element, that does not fit the store.  Then it fails with that. -/
theorem answers_of_process (service : Service) (hs : service.bus.Idle) (submission : Submission)
    (request : Request) (run : Run) (db : Database) (hdb : run.repository = .database db)
    (hr : run.repository.Numbered) (hnext : fitsStore run.repository.nextId = true)
    (hform : fitsStore run.desk.form.id = true)
    (huser : ∀ user, request.user = some user → fitsStore user.id = true)
    (hcopy : run.definition.copy.isActive = false)
    (hplain : run.definition.HasPlainConfirmations) :
    let result := ((process service submission request).perform run).1
    let mishap := mishap? service submission request run
    (∀ failure, mishap = some failure → result = .error failure) ∧
      (Overflows service submission request run → result = .error .oversizedNumber) ∧
      (mishap = none → ¬ Overflows service submission request run →
        ∃ reply, result = .ok (.reply reply)) := by
  intro result mishap
  obtain ⟨hground, hends⟩ := ends_hurdles hs hdb hform huser submission (show run.ground = run.ground from rfl)
  have hprocess : (process service submission request).perform run =
      ((Step.firstAnswer (hurdles service submission request)).endsOr (Completion.conclude service
        (withUploads service submission) request)).perform run := by rw [process_eq]
  match ho : outcome (Step.firstAnswer (hurdles service submission request)) run with
  | (ended, passed) =>
  rw [ho] at hground hends
  have hover : Overflows service submission request run → ended = .ok none := by
    intro hover
    have hnone := hover.1
    rwa [ho] at hnone
  cases hm : mishap with
  | some failure =>
      rw [show mishap? service submission request run = some failure from hm] at hends
      obtain rfl : ended = .error failure := hends
      have hresult : result = .error failure :=
        congrArg Prod.fst (hprocess.trans (Step.perform_endsOr_of_error _ ho))
      refine ⟨?_, fun h => ?_, ?_⟩
      · rintro _ ⟨⟩
        exact hresult
      · cases hover h
      · rintro ⟨⟩
  | none =>
      rw [show mishap? service submission request run = none from hm] at hends
      obtain ⟨answer, rfl, hanswer⟩ := hends
      cases answer with
      | some subject =>
          have hresult : result = .ok subject :=
            congrArg Prod.fst (hprocess.trans (Step.perform_endsOr_of_some _ ho))
          refine ⟨by rintro _ ⟨⟩, fun h => ?_, fun _ _ => ?_⟩
          · cases hover h
          · obtain ⟨reply, rfl⟩ := hanswer subject rfl
            exact ⟨reply, hresult⟩
      | none =>
          obtain ⟨hoversized, hreply⟩ := oversized_or_reply_of_passed hs hdb hr hnext hform huser
            hcopy hplain ho hground
          exact ⟨by rintro _ ⟨⟩, hoversized, fun _ => hreply⟩

/-- A form with one field. -/
def note (field : Int) (h : field ≠ 1) : Form where
  definition := { id := 1, pages := [] }
  pages := [{ heading := { id := 1 }, children := [.field { id := field }] }]
  distinct := by
    show [1, field].Nodup
    simpa using h.symm

/-- A value for the field, sent from a content. -/
def jotted (field : Int) (postId : String) : Submission where
  values := [(String.ofList (Number.wholeText field), .text "Ann")]
  csrfToken := some "token"
  postId := .text postId

/-- The run that it is processed in. -/
def noteRun (field : Int) (h : field ≠ 1) : Run where
  desk := { form := note field h }
  repository := .database {}

/-- What comes of it. -/
def noteResult (field : Int) (h : field ≠ 1) (postId : String) : Except Failure Subject :=
  ((process { sessionToken := "token" } (jotted field postId) {}).perform (noteRun field h)).1

/-- The numbers that a 64-bit store takes end below this one. -/
def tooLarge : Int := 9223372036854775808

/-- A form whose field asks for a text of a length that is too long to be written. -/
def strict : FormDefinition where
  id := 1
  pages := [⟨{ id := 1 }, [.field
    { id := 2
      validators := [{ type := "length", options := [("min", .int (Int.ofNat (Nat.pow 10 4300)))] }] }]⟩]

/-- What comes of a value for it. -/
def strictResult (form : Form) : Except Failure Subject :=
  ((process { sessionToken := "token" } (jotted 2 "7") {}).perform
    { desk := { form }, repository := .database {} }).1

theorem answers_of_process_note :
    (∃ reply, noteResult 2 (by decide) "7" = .ok (.reply reply)) ∧
    noteResult 2 (by decide) "9223372036854775808" = .error .oversizedNumber ∧
    noteResult tooLarge (by decide) "7" = .error .oversizedNumber ∧
    ∃ form, Form.build .standard strict = .ok form ∧
      ∃ failure, strictResult form = .error failure ∧ failure.kindName = "ValueError" := by
  have hnext : fitsStore (Repository.database {}).nextId = true := by decide
  have hone : fitsStore 1 = true := by decide
  have h := fun field hf postId => answers_of_process { sessionToken := "token" } Bus.idle_empty
    (jotted field postId) {} (noteRun field hf) {} rfl (Repository.numbered_database []) hnext
    hone (by rintro _ ⟨⟩) rfl (by rintro _ ⟨⟩)
  refine ⟨(h 2 (by decide) "7").2.2 (by decide +kernel) (by decide +kernel),
    (h 2 (by decide) "9223372036854775808").2.1 (by decide +kernel),
    (h tooLarge (by decide) "7").2.1 (by decide +kernel), ?_⟩
  have hbuilt : (Form.build .standard strict).map (fun form =>
      (mishap? { sessionToken := "token" } (jotted 2 "7") {}
        { desk := { form }, repository := .database {} }).map Failure.kindName) =
      .ok (some "ValueError") := by decide +kernel
  obtain ⟨form, hform, hkinds⟩ := exists_of_map_eq_ok hbuilt
  have hdefinition : form.definition = strict := Form.definition_of_build hform
  obtain ⟨failure, hmishap, hkind⟩ := Option.map_eq_some_iff.mp hkinds
  have hstrict := answers_of_process { sessionToken := "token" } Bus.idle_empty (jotted 2 "7") {}
    { desk := { form }, repository := .database {} } {} rfl (Repository.numbered_database []) hnext
    (by rw [Form.id, hdefinition]; exact hone) (by rintro _ ⟨⟩)
    (by rw [Run.definition, hdefinition]; rfl)
    (by rw [Run.definition, hdefinition]; rintro _ ⟨⟩)
  exact ⟨form, hform, failure, hstrict.1 failure hmishap, hkind⟩

/-- A submission from a content with a number that is too large has no answer, and so has one to a form
with such a number. -/
theorem isOk_noteResult :
    (noteResult 2 (by decide) "9223372036854775808").isOk = false ∧
    (noteResult tooLarge (by decide) "7").isOk = false := by decide +kernel

end Intake

end FormIntake
