import FormIntake.Proofs.Form.Filling
import FormIntake.Proofs.Intake.Step
import FormIntake.Proofs.Store.Holdings

/-! # What stages leave as it is

The token and the gates leave what a view shows as soon as the parts they are put together from do
(`Gate.Parts`), and without extensions these parts leave everything but the journal: the gates look
at the form and the repository and answer with a refusal or not at all (`Intake.keeps_checkToken`,
`Intake.keeps_checkGates`).  Going from page to page and validation change neither the values nor
the flags nor the repository, and do not accept (`Intake.keeps_navigate`,
`Intake.keeps_validateAll`).  Completion changes neither the values nor the flags
(`Completion.fixes_run`), and of what follows the saving only the copy writes to the repository:
the desk stays as it is, and the repository is related to what it was (`Step.Moves`,
`Completion.moves_copy`). -/

namespace FormIntake

open Definition Effect

namespace Subject

/-- A refusal. -/
def IsRefusal (subject : Subject) : Prop := ∃ refusal, subject = .reply (.refused refusal)

/-- The answer to an accepted submission. -/
def IsAcceptance (subject : Subject) : Prop := ∃ receipt, subject = .reply (.accepted receipt)

theorem IsRefusal.not_isAcceptance {subject : Subject} (h : subject.IsRefusal) :
    ¬ subject.IsAcceptance := by
  obtain ⟨refusal, rfl⟩ := h
  rintro ⟨receipt, ⟨⟩⟩

end Subject

/-- A run has ended with the answer to an accepted submission. -/
def Intake.IsAccepted (result : Except Failure Subject) : Prop :=
  ∃ receipt, result = .ok (.reply (.accepted receipt))

instance (result : Except Failure Subject) : Decidable (Intake.IsAccepted result) :=
  match result with
  | .ok (.reply (.accepted receipt)) => .isTrue ⟨receipt, rfl⟩
  | .ok (.reply (.page _)) => .isFalse (by rintro ⟨_, ⟨⟩⟩)
  | .ok (.reply (.refused _)) => .isFalse (by rintro ⟨_, ⟨⟩⟩)
  | .ok (.data _) => .isFalse (by rintro ⟨_, ⟨⟩⟩)
  | .ok .suspended => .isFalse (by rintro ⟨_, ⟨⟩⟩)
  | .error _ => .isFalse (by rintro ⟨_, ⟨⟩⟩)

/-! ### The token and the gates -/

/-- Whether an event changes something outside; looking at the repository, and merging uploads into
submitted values, does not. -/
def Event.isWrite : Event → Bool
  | .soughtEntry .. | .countedEntries _ | .mergedUploads => false
  | _ => true

namespace Gate

/-- What the gates are put together from leaves what the view shows, and a refusal with a message that
extensions were asked about is of the kind. -/
structure Parts {γ : Type} (service : Service) (view : Run → γ) (P : Subject → Prop) : Prop where
  log : ∀ level event fields, Fixes view (Step.log level event fields)
  enter : ∀ event, event.isWrite = false → Fixes view (Step.enter event)
  filter : ∀ hook subject, Fixes view (Step.atDesk (service.bus.filter hook subject))
  filter_refused : ∀ hook content title, Keeps view P
    (Step.atDesk (service.bus.filter hook (.reply (.refused (.ofMessage content title)))))

theorem parts_of_messages {service : Service} (h : service.bus.Idle) {P : Subject → Prop}
    (hp : ∀ content title, P (.reply (.refused (.ofMessage content title)))) :
    Parts service Run.standing P where
  log := Step.fixes_log
  enter event _ := Step.fixes_enter event
  filter hook subject := by
    rw [filter_atDesk_of_idle h]
    exact fixes_pure _
  filter_refused hook content title := by
    rw [filter_atDesk_of_idle h]
    exact keeps_pure (hp content title)

theorem parts_of_idle {service : Service} (h : service.bus.Idle) :
    Parts service Run.standing Subject.IsRefusal :=
  parts_of_messages h fun content title => ⟨.ofMessage content title, rfl⟩

theorem isOpen_of_idle {service : Service} (h : service.bus.Idle) (hook : Hook) :
    isOpen service hook = pure service.mayBypass := by
  rw [isOpen, filter_atDesk_of_idle h]
  rfl

namespace Parts

variable {γ : Type} {service : Service} {view : Run → γ} {P : Subject → Prop}
  (h : Parts service view P)

include h

theorem keeps_refuse (hook : Hook) (key usual : String) :
    Keeps view P (refuse service hook key usual) := by
  unfold refuse
  exact (Step.fixes_ask _).bind fun message _ => h.filter_refused _ _ _

theorem fixes_isOpen (hook : Hook) : Fixes view (isOpen service hook) := by
  unfold isOpen
  exact (h.filter _ _).bind fun answer _ => fixes_pure _

theorem fixes_hasEntry (request : Request) : Fixes view (hasEntry service request) := by
  unfold hasEntry
  refine (Step.fixes_ask _).bind fun form _ => ?_
  split
  · refine (fixes_pure _).bind fun found _ => ?_
    exact (h.filter _ _).bind fun answer _ => fixes_pure _
  · refine (h.enter _ rfl).bind fun _ _ => (Step.fixes_query _).bind fun found _ => ?_
    exact (h.filter _ _).bind fun answer _ => fixes_pure _

theorem keeps_refuseRepeated (request : Request) :
    Keeps view (fun ended => ∀ subject ∈ ended, P subject) (refuseRepeated service request) := by
  unfold refuseRepeated
  refine (Step.fixes_ask _).bind fun form _ => ?_
  split
  · exact keeps_pure (by rintro _ ⟨⟩)
  · refine (h.fixes_hasEntry request).bind fun found _ => ?_
    split
    · exact keeps_pure (by rintro _ ⟨⟩)
    · refine (h.log _ _ _).bind fun _ _ => ?_
      refine (h.keeps_refuse _ _ _).map fun subject hs => ?_
      rintro _ ⟨⟩
      exact hs

theorem keeps_refuseSurplus (limit : Int) :
    Keeps view (fun subject => subject = .null ∨ P subject) (refuseSurplus service limit) := by
  unfold refuseSurplus
  refine (Step.fixes_ask _).bind fun form _ => ?_
  refine (h.enter _ rfl).bind fun _ _ => ?_
  refine (Step.fixes_query _).bind fun stored _ => ?_
  refine (h.filter _ _).bind fun count _ => ?_
  refine (fixes_lift _).bind fun reached _ => ?_
  split
  · exact keeps_pure (.inl rfl)
  · refine (h.log _ _ _).bind fun _ _ => ?_
    exact (h.keeps_refuse _ _ _).mono fun _ => .inr

theorem keeps_checkLimits (request : Request) :
    Keeps view (fun subject => subject = .null ∨ P subject) (checkLimits service request) := by
  unfold checkLimits
  refine (Step.fixes_ask _).bind fun form _ => ?_
  split
  · exact keeps_pure (.inl rfl)
  · refine (h.fixes_isOpen _).bind fun bypassed _ => ?_
    split
    · exact keeps_pure (.inl rfl)
    · refine (h.keeps_refuseRepeated request).bind fun ended he => ?_
      cases ended with
      | some refusal => exact keeps_pure (.inr (he refusal rfl))
      | none =>
          dsimp only
          split
          · split
            · exact h.keeps_refuseSurplus _
            · exact keeps_pure (.inl rfl)
          · exact keeps_pure (.inl rfl)

theorem fixes_bound? (text : String) : Fixes view (bound? text) := by
  unfold bound?
  split
  · exact fixes_pure _
  · split
    · exact fixes_pure _
    · exact (h.log _ _ _).bind fun _ _ => fixes_pure _

theorem keeps_checkSchedule :
    Keeps view (fun subject => subject = .null ∨ P subject) (checkSchedule service) := by
  have hrefuse : ∀ hook key usual, Keeps view (fun subject => subject = .null ∨ P subject)
      (refuse service hook key usual) :=
    fun hook key usual => (h.keeps_refuse hook key usual).mono fun _ => .inr
  unfold checkSchedule
  refine (Step.fixes_ask _).bind fun form _ => ?_
  dsimp only
  split
  · exact keeps_pure (.inl rfl)
  · split
    · exact keeps_pure (.inl rfl)
    · refine (h.fixes_isOpen _).bind fun bypassed _ => ?_
      split
      · exact keeps_pure (.inl rfl)
      · refine (h.fixes_bound? _).bind fun start _ => ?_
        split
        · exact (h.log _ _ _).bind fun _ _ => hrefuse _ _ _
        · refine (h.fixes_bound? _).bind fun stop _ => ?_
          split
          · exact (h.log _ _ _).bind fun _ _ => hrefuse _ _ _
          · exact keeps_pure (.inl rfl)

theorem keeps_check (request : Request) :
    Keeps view (fun subject => subject = .null ∨ P subject) (check service request) := by
  unfold check
  refine (h.keeps_checkLimits request).bind fun limits hl => ?_
  split
  · exact keeps_pure hl
  · exact h.keeps_checkSchedule

theorem keeps_checkToken (submission : Submission) :
    Keeps view (fun ended => ∀ subject ∈ ended, P subject)
      (Intake.checkToken service submission) := by
  unfold Intake.checkToken
  split
  · exact keeps_pure (by rintro _ ⟨⟩)
  · refine (Step.fixes_ask _).bind fun form _ => (h.log _ _ _).bind fun _ _ => ?_
    refine (h.filter_refused _ _ _).map fun subject hs => ?_
    rintro _ ⟨⟩
    exact hs

theorem keeps_checkGates (request : Request) :
    Keeps view (fun ended => ∀ subject ∈ ended, P subject)
      (Intake.checkGates service request) := by
  unfold Intake.checkGates
  refine (h.keeps_check request).bind fun answer ha => ?_
  split
  · exact keeps_pure (by rintro _ ⟨⟩)
  · next hn =>
    refine (Step.fixes_ask _).bind fun form _ => (h.log _ _ _).bind fun _ _ => ?_
    apply keeps_pure
    rintro _ ⟨⟩
    exact ha.resolve_left hn

end Parts
end Gate

namespace Intake

variable {service : Service} (h : service.bus.Idle)

include h

theorem keeps_checkToken (submission : Submission) :
    Keeps Run.standing (fun ended => ∀ subject ∈ ended, subject.IsRefusal)
      (checkToken service submission) := (Gate.parts_of_idle h).keeps_checkToken submission

theorem keeps_checkGates (request : Request) :
    Keeps Run.standing (fun ended => ∀ subject ∈ ended, subject.IsRefusal)
      (checkGates service request) := (Gate.parts_of_idle h).keeps_checkGates request

end Intake

/-! ### Pages and validation -/

/-- What the form of a run was made of and filled in with. -/
def Run.filling (run : Run) : Filling := run.desk.form.filling

/-- What the form of a run was made of and filled in with, and the repository. -/
def Run.matter (run : Run) : Filling × Repository := (run.filling, run.repository)

theorem fixes_matter_of_standing {α : Type} {P : α → Prop} {step : Step α}
    (h : Keeps Run.standing P step) : Keeps Run.matter P step :=
  h.comp fun standing => (standing.1.form.filling, standing.2)

theorem fixes_matter_change {update : Form → Form}
    (h : ∀ form, (update form).filling = form.filling) : Fixes Run.matter (Step.change update) :=
  fun run => ⟨congrArg (·, run.repository) (h run.desk.form), fun _ _ => trivial⟩

namespace Intake

section pages

variable {γ : Type} {view : Run → γ}
  (hfields : ∀ fields, Fixes view (Step.change (·.validateFields fields)))

include hfields

/-- Validating fields leaves what writing messages into the form leaves. -/
theorem fixes_checkFields (pick : Form → List (Definition.Field Validator)) :
    Fixes view (checkFields pick) := by
  unfold checkFields
  refine (Step.fixes_ask _).bind fun fields _ => (Step.fixes_ask _).bind fun mishap _ => ?_
  exact (hfields fields).bind fun _ _ => fixes_lift _

theorem keeps_turnPage (submission : Submission) :
    Keeps view (fun ended => ∀ subject ∈ ended, ¬ subject.IsAcceptance) (turnPage submission) := by
  unfold turnPage
  refine (Step.fixes_ask _).bind fun form _ => ?_
  split
  · exact keeps_pure (by rintro _ ⟨⟩)
  · split
    · apply keeps_pure
      rintro _ ⟨⟩ ⟨receipt, ⟨⟩⟩
    · split
      · exact keeps_pure (by rintro _ ⟨⟩)
      · refine (fixes_checkFields hfields _).bind fun _ _ => ?_
        refine (Step.fixes_ask _).bind fun form _ => ?_
        split
        · apply keeps_pure
          rintro _ ⟨⟩ ⟨receipt, ⟨⟩⟩
        · apply keeps_pure
          rintro _ ⟨⟩ ⟨receipt, ⟨⟩⟩

/-- Going from page to page does not accept, and leaves what writing messages into the form leaves. -/
theorem keeps_view_navigate (hlog : ∀ level event fields, Fixes view (Step.log level event fields))
    (submission : Submission) :
    Keeps view (fun ended => ∀ subject ∈ ended, ¬ subject.IsAcceptance) (navigate submission) := by
  unfold navigate
  refine (Step.fixes_ask _).bind fun several _ => ?_
  split
  · exact keeps_pure (by rintro _ ⟨⟩)
  · refine (keeps_turnPage hfields submission).bind fun ended he => ?_
    split
    · exact keeps_pure (by rintro _ ⟨⟩)
    · refine (Step.fixes_ask _).bind fun form _ => ?_
      exact (hlog _ _ _).bind fun _ _ => keeps_pure he

/-- Validation does not accept, and leaves what writing messages into the form leaves. -/
theorem keeps_view_validateAll
    (hlog : ∀ level event fields, Fixes view (Step.log level event fields)) :
    Keeps view (fun ended => ∀ subject ∈ ended, ¬ subject.IsAcceptance) validateAll := by
  unfold validateAll
  refine (fixes_checkFields hfields _).bind fun _ _ => (Step.fixes_ask _).bind fun form _ => ?_
  split
  · exact keeps_pure (by rintro _ ⟨⟩)
  · refine (hlog _ _ _).bind fun _ _ => (hlog _ _ _).bind fun _ _ => ?_
    apply keeps_pure
    rintro _ ⟨⟩ ⟨receipt, ⟨⟩⟩

end pages

theorem fixes_matter_validateFields (fields : List (Definition.Field Validator)) :
    Fixes Run.matter (Step.change (·.validateFields fields)) :=
  fixes_matter_change fun form => form.filling_validateFields fields

theorem keeps_navigate (submission : Submission) :
    Keeps Run.matter (fun ended => ∀ subject ∈ ended, ¬ subject.IsAcceptance)
      (navigate submission) :=
  keeps_view_navigate fixes_matter_validateFields
    (fun _ _ _ => fixes_matter_of_standing (Step.fixes_log _ _ _)) submission

theorem keeps_validateAll :
    Keeps Run.matter (fun ended => ∀ subject ∈ ended, ¬ subject.IsAcceptance) validateAll :=
  keeps_view_validateAll fixes_matter_validateFields
    fun _ _ _ => fixes_matter_of_standing (Step.fixes_log _ _ _)

/-- What comes of validating fields. -/
theorem outcome_checkFields (pick : Form → List (Definition.Field Validator)) (run : Run) :
    outcome (checkFields pick) run =
      (match run.desk.form.mishap? (pick run.desk.form) with
        | some failure => .error failure
        | none => .ok (),
      { run with
        desk := { run.desk with form := run.desk.form.validateFields (pick run.desk.form) } }) := rfl

theorem outcome_checkFields_of_none {pick : Form → List (Definition.Field Validator)} {run : Run}
    (h : run.desk.form.mishap? (pick run.desk.form) = none) :
    outcome (checkFields pick) run = (.ok (), { run with
      desk := { run.desk with form := run.desk.form.validateFields (pick run.desk.form) } }) := by
  rw [outcome_checkFields, h]

theorem outcome_checkFields_of_some {pick : Form → List (Definition.Field Validator)} {run : Run}
    {failure : Failure} (h : run.desk.form.mishap? (pick run.desk.form) = some failure) :
    outcome (checkFields pick) run = (.error failure, { run with
      desk := { run.desk with form := run.desk.form.validateFields (pick run.desk.form) } }) := by
  rw [outcome_checkFields, h]

/-- Validation lets a form pass over which no validator fails and that has no faulty page, and changes
its messages only. -/
theorem of_outcome_validateAll {run after : Run} (h : outcome validateAll run = (.ok none, after)) :
    after.desk.form = run.desk.form.validate ∧ after.desk.form.firstFaultyPage? = none := by
  unfold validateAll at h
  obtain ⟨_, checked, hc, h⟩ := exists_of_outcome_bind h
  have hchecked : checked.desk.form = run.desk.form.validate := by
    rw [outcome_checkFields] at hc
    rw [← (Prod.mk.inj hc).2]
    rfl
  rw [outcome_bind_of_ok (Step.outcome_ask _ _)] at h
  dsimp only [id] at h
  split at h
  · next hn =>
    cases h
    exact ⟨hchecked, hn⟩
  · cases h

end Intake

/-! ### Parts that leave the desk as it is -/

namespace Step

variable {α β : Type} {R : Repository → Repository → Prop} {P : Desk → Prop}

/-- Whatever comes of a part of a run, from a desk of this kind it leaves the desk as it was, and
the repository before it and after it are related. -/
def Moves (R : Repository → Repository → Prop) (P : Desk → Prop) (step : Step α) : Prop :=
  ∀ run, P run.desk →
    (outcome step run).2.desk = run.desk ∧ R run.repository (outcome step run).2.repository

section preorder

variable [IsPreorder Repository R]

theorem moves_of_standing {step : Step α} (h : Fixes Run.standing step) : Moves R P step := by
  intro run _
  have hr : (outcome step run).2.repository = run.repository := congrArg Prod.snd (h run).1
  refine ⟨congrArg Prod.fst (h run).1, ?_⟩
  rw [hr]
  exact refl_of R run.repository

theorem Moves.bind {step : Step α} {next : α → Step β} (h : Moves R P step)
    (hn : ∀ a, Moves R P (next a)) : Moves R P (step >>= next) := by
  intro run hp
  obtain ⟨hd, hr⟩ := h run hp
  cases ho : outcome step run with
  | mk result after =>
      rw [ho] at hd hr
      cases result with
      | error failure =>
          rw [outcome_bind_of_error ho]
          exact ⟨hd, hr⟩
      | ok a =>
          obtain ⟨hd', hr'⟩ := hn a after (hd ▸ hp)
          rw [outcome_bind_of_ok ho]
          exact ⟨hd'.trans hd, trans_of R hr hr'⟩

theorem moves_store {change : Repository → Except Failure Repository}
    (h : ∀ before after, change before = .ok after → R before after) :
    Moves R P (Step.store change) := by
  intro run _
  cases hc : change run.repository with
  | error failure =>
      rw [outcome_store_of_error hc]
      exact ⟨rfl, refl_of R run.repository⟩
  | ok after =>
      rw [outcome_store_of_ok hc]
      exact ⟨rfl, h _ _ hc⟩

end preorder

theorem Moves.fixes_desk {step : Step α} (h : Moves R (fun _ => True) step) : Fixes Run.desk step :=
  fun run => ⟨(h run trivial).1, fun _ _ => trivial⟩

end Step

/-! ### Completion -/

namespace Completion

theorem fixes_of_standing {α : Type} {step : Step α} (h : Fixes Run.standing step) :
    Fixes Run.filling step := h.comp fun standing => standing.1.form.filling

theorem fixes_of_desk {α : Type} {step : Step α} (h : Fixes Run.desk step) : Fixes Run.filling step :=
  h.comp fun desk => desk.form.filling

theorem fixes_change {update : Form → Form} (h : ∀ form, (update form).filling = form.filling) :
    Fixes Run.filling (Step.change update) := fun run => ⟨h run.desk.form, fun _ _ => trivial⟩

theorem fixes_createEntry (service : Service) (submission : Submission) (request : Request) :
    Fixes Run.filling (createEntry service submission request) := by
  unfold createEntry
  refine (Step.fixes_ask _).bind fun form _ => ?_
  refine (fixes_of_desk (Step.fixes_storeNew _)).bind fun entry _ => ?_
  refine (fixes_of_standing (Step.fixes_enter _)).bind fun _ _ => ?_
  refine fixes_get.bind fun run _ => ?_
  have hrest : Fixes Run.filling (do
      Step.change fun form => { form with entryId := some entry.id }
      Step.log .info "Entry created" (logFields (← Step.ask id))) := by
    refine Keeps.bind (fixes_change ?_) fun _ _ => ?_
    · exact fun _ => rfl
    · exact (Step.fixes_ask _).bind fun _ _ => fixes_of_standing (Step.fixes_log _ _ _)
  split
  · exact (fixes_of_standing (Step.fixes_log _ _ _)).bind fun _ _ => hrest
  · exact hrest

theorem fixes_saveValues : Fixes Run.filling saveValues := by
  unfold saveValues
  refine (Step.fixes_ask _).bind fun form _ => ?_
  split
  · exact fixes_pure _
  · split
    · exact fixes_pure _
    · refine (fixes_of_desk (Step.fixes_store _)).bind fun _ _ => ?_
      refine (fixes_of_standing (Step.fixes_enter _)).bind fun _ _ => ?_
      exact fixes_of_standing (Step.fixes_log _ _ _)

theorem fixes_standing_clearUploads : Fixes Run.standing clearUploads := by
  unfold clearUploads
  refine (Step.fixes_ask _).bind fun key _ => fixes_get.bind fun run _ => ?_
  split
  · refine (fixes_modify ?_).bind fun _ _ => Step.fixes_enter _
    exact fun _ => rfl
  · exact fixes_pure _

theorem fixes_standing_hand (service : Service) (mail : Mail) :
    Fixes Run.standing (Dispatch.hand service mail) := by
  unfold Dispatch.hand
  refine Keeps.bind (fixes_modify fun _ => rfl) fun _ _ => ?_
  split
  · exact fixes_pure _
  · exact (Step.fixes_enter _).bind fun _ _ => fixes_pure _

section notify

variable {γ : Type} {view : Run → γ} {service : Service} {request : Request}
  (hlog : ∀ level event fields, Fixes view (Step.log level event fields))
  (hsend : ∀ notification, Fixes view (Dispatch.send service request notification))

include hlog hsend

theorem fixes_view_deliver (notification : Notification) :
    Fixes view (Dispatch.deliver service request notification) := by
  unfold Dispatch.deliver
  refine (Step.fixes_ask _).bind fun form _ => ?_
  dsimp only
  split
  · exact fixes_pure _
  · split
    · exact (hlog _ _ _).bind fun _ _ => fixes_pure _
    · refine (hsend notification).bind fun result _ => ?_
      split
      · exact (hlog _ _ _).bind fun _ _ => fixes_pure _
      · exact (hlog _ _ _).bind fun _ _ => fixes_pure _

/-- The notifications leave what sending one of them leaves. -/
theorem fixes_view_notify : Fixes view (notify service request) := by
  have hall : Fixes view (Dispatch.all service request) :=
    (Step.fixes_ask _).bind fun _ _ => fixes_mapM (fixes_view_deliver hlog hsend) _
  unfold notify
  refine hall.bind fun deliveries _ => ?_
  exact (Step.fixes_ask _).bind fun _ _ => hlog _ _ _

end notify

section idle

variable {service : Service} (h : service.bus.Idle)

include h

theorem fixes_standing_send (request : Request) (notification : Notification) :
    Fixes Run.standing (Dispatch.send service request notification) := by
  unfold Dispatch.send
  rw [Dispatch.mail_of_idle h]
  refine (Step.fixes_attempt_reading _).bind fun result _ => ?_
  cases result with
  | error failure => exact fixes_pure _
  | ok mail => exact fixes_standing_hand service mail

theorem fixes_standing_notify (request : Request) : Fixes Run.standing (notify service request) :=
  fixes_view_notify Step.fixes_log (fixes_standing_send h request)

/-- The copy changes tables of the site, and values of entries that there are. -/
theorem moves_copy (P : Desk → Prop) (request : Request) :
    Step.Moves Repository.Copies P (copy service request) := by
  have hlog : ∀ level event fields,
      Step.Moves Repository.Copies P (Step.log level event fields) :=
    fun level event fields => Step.moves_of_standing (Step.fixes_log level event fields)
  have hnone : Step.Moves Repository.Copies P (pure () : Step Unit) :=
    Step.moves_of_standing (fixes_pure ())
  unfold copy
  refine (Step.moves_of_standing (Step.fixes_ask _)).bind fun form => ?_
  dsimp only
  split
  · exact hnone
  · rw [copyRow_of_idle h]
    refine (Step.moves_of_standing (Step.fixes_atDesk_reading _)).bind fun row => ?_
    split
    · exact hnone
    · have hrest : Step.Moves Repository.Copies P (do
          Step.store (·.insertCopy form.definition.copy.table row)
          Step.enter (.copied form.definition.copy.table row)
          Step.log .debug "Custom storage row written"
            [("form_id", .int form.id), ("table", .text form.definition.copy.table)]) := by
        refine (Step.moves_store (R := Repository.Copies)
          fun _ _ => Repository.copies_insertCopy).bind fun _ => ?_
        exact (Step.moves_of_standing (Step.fixes_enter _)).bind fun _ => hlog _ _ _
      refine (Step.moves_of_standing (Step.fixes_query _)).bind fun unknown => ?_
      split
      · exact (hlog _ _ _).bind fun _ => hrest
      · exact hrest

theorem fixes_confirm (request : Request) : Fixes Run.filling (confirm service request) := by
  unfold confirm
  rw [Renderer.receipt_of_idle h]
  refine (Step.fixes_atDesk_reading _).bind fun receipt _ => ?_
  refine (fixes_of_desk (moves_copy h _ request).fixes_desk).bind fun _ _ => ?_
  exact (fixes_of_standing fixes_standing_clearUploads).bind fun _ _ => fixes_pure _

theorem fixes_run (submission : Submission) (request : Request) :
    Fixes Run.filling (run service submission request) := by
  rw [run_of_idle h]
  refine (Step.fixes_ask _).bind fun saving _ => ?_
  refine Keeps.bind (P := fun _ => True) ?_ fun _ _ => ?_
  · split
    · exact fixes_createEntry service submission request
    · exact fixes_pure ()
  refine (Step.fixes_ask _).bind fun entry _ => ?_
  refine (fixes_of_standing (Step.fixes_enter _)).bind fun _ _ => ?_
  refine Keeps.bind (P := fun _ => True) ?_ fun _ _ => ?_
  · split
    · exact fixes_saveValues
    · exact fixes_pure ()
  refine (fixes_of_standing (fixes_standing_notify h request)).bind fun _ _ => ?_
  refine (fixes_confirm h request).bind fun receipt _ => ?_
  refine (Step.fixes_ask _).bind fun form _ => ?_
  exact (fixes_of_standing (Step.fixes_log _ _ _)).bind fun _ _ => fixes_pure _

end idle

end Completion
end FormIntake
