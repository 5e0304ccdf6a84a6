import FormIntake.Proofs.Form.Alike
import FormIntake.Proofs.Intake.Frame

/-! # Hidden values change nothing

Two submissions that differ only in what they give for hidden fields come to the same
(`Intake.process_eq_of_hidden`): the same answer or failure, the same flags, and the same dealings
with the outside.

From the moment that the form is filled in, both runs are alike (`Run.Alike`), and every further
part of them agrees: it comes to the same from alike runs and leaves them alike. -/

namespace FormIntake

open Definition Effect

/-- Two runs have alike forms and the same dealings with the outside; the logs can differ. -/
structure Run.Alike (run other : Run) : Prop where
  form : run.desk.form.Alike other.desk.form
  repository : run.repository = other.repository
  staged : run.staged = other.staged
  journal : run.journal = other.journal

/-! ### The smallest parts -/

namespace Step

variable {α β : Type}

theorem agree_ask {look : Form → α}
    (h : ∀ {form other : Form}, form.Alike other → look form = look other) :
    Agree Run.Alike (Step.ask look) (Step.ask look) :=
  fun _ _ ha => ⟨congrArg Except.ok (h ha.form), ha⟩

/-- What goes on with something about the form agrees if it does for alike forms. -/
theorem agree_ask_bind {look : Form → α} {next others : α → Step β}
    (h : ∀ form other : Form, form.Alike other →
      Agree Run.Alike (next (look form)) (others (look other))) :
    Agree Run.Alike (Step.ask look >>= next) (Step.ask look >>= others) :=
  fun run other ha => h run.desk.form other.desk.form ha.form run other ha

theorem agree_change {update : Form → Form}
    (h : ∀ {form other : Form}, form.Alike other → (update form).Alike (update other)) :
    Agree Run.Alike (Step.change update) (Step.change update) :=
  fun _ _ ha => ⟨rfl, { ha with form := h ha.form }⟩

theorem agree_enter (event : Event) : Agree Run.Alike (Step.enter event) (Step.enter event) :=
  agree_modify fun _ _ ha => { ha with journal := congrArg (· ++ [event]) ha.journal }

theorem agree_log (level : Installation.LogLevel) (event : String)
    (fields others : List (String × Value)) :
    Agree Run.Alike (Step.log level event fields) (Step.log level event others) :=
  agree_modify fun _ _ ha => { ha with }

theorem agree_query (question : Repository → Except Failure α) :
    Agree Run.Alike (Step.query question) (Step.query question) :=
  agree_get_bind fun run other ha => by
    rw [ha.repository]
    exact agree_lift _

theorem agree_store (change : Repository → Except Failure Repository) :
    Agree Run.Alike (Step.store change) (Step.store change) :=
  agree_get_bind fun run other ha => by
    rw [ha.repository]
    exact (agree_lift _).bind fun _ => agree_modify fun _ _ ha => { ha with repository := rfl }

theorem agree_storeNew (change : Repository → Except Failure (α × Repository)) :
    Agree Run.Alike (Step.storeNew change) (Step.storeNew change) :=
  agree_get_bind fun run other ha => by
    rw [ha.repository]
    refine (agree_lift _).bind fun made => Agree.bind (agree_modify ?_) fun _ => agree_pure _
    exact fun _ _ ha => { ha with repository := rfl }

theorem agree_atDesk_reading {look : Form → Except Failure α}
    (h : ∀ {form other : Form}, form.Alike other → look form = look other) :
    Agree Run.Alike (Step.atDesk (Work.reading look)) (Step.atDesk (Work.reading look)) :=
  fun _ _ ha => ⟨h ha.form, ha⟩

theorem agree_attempt_reading {look : Form → Except Failure α}
    (h : ∀ {form other : Form}, form.Alike other → look form = look other) :
    Agree Run.Alike (Step.attempt (Work.reading look)) (Step.attempt (Work.reading look)) :=
  fun _ _ ha => ⟨congrArg Except.ok (h ha.form), ha⟩

theorem agree_endsOr {ended others : Step (Option Subject)} {further rest : Step Subject}
    (h : Agree Run.Alike ended others) (hf : Agree Run.Alike further rest) :
    Agree Run.Alike (ended.endsOr further) (others.endsOr rest) := by
  unfold Step.endsOr
  refine h.bind fun answer => ?_
  cases answer with
  | some subject => exact agree_pure subject
  | none => exact hf

end Step

/-! ### Going from page to page -/

namespace Intake

variable {first second : Submission} (hs : first.withoutValues = second.withoutValues)

theorem refusal_of_alike {form other : Form} (h : form.Alike other) (faults : List (Int × String))
    (page : Option (Page Validator)) : refusal form faults page = refusal other faults page := by
  simp only [refusal, notice, h.definition, h.phrase]

theorem agree_checkFields {pick : Form → List (Definition.Field Validator)}
    (h : ∀ {form other : Form}, form.Alike other → pick form = pick other) :
    Agree Run.Alike (checkFields pick) (checkFields pick) := by
  unfold checkFields
  refine (Step.agree_ask h).bind fun fields => ?_
  refine (Step.agree_ask fun h => h.mishap? fields).bind fun mishap => ?_
  exact (Step.agree_change fun h => h.validateFields fields).bind fun _ => agree_lift _

include hs

theorem agree_turnPage : Agree Run.Alike (turnPage first) (turnPage second) := by
  have hback : first.isBack = second.isBack := congrArg (fun submission => submission.isBack) hs
  unfold turnPage
  refine Step.agree_ask_bind fun form other h => ?_
  dsimp only [id]
  rw [h.currentPage?, h.previousPage?, h.nextPage?, hback]
  cases other.currentPage? with
  | none => exact agree_pure none
  | some page =>
      dsimp only
      split
      · exact agree_pure _
      · cases other.nextPage? with
        | none => exact agree_pure none
        | some next =>
            dsimp only
            refine (agree_checkFields fun h => h.checkedOn page).bind fun _ => ?_
            refine Step.agree_ask_bind fun form other h => ?_
            dsimp only [id]
            rw [h.accepts, h.faultsAmong, refusal_of_alike h]
            split
            · exact agree_pure _
            · exact agree_pure _

theorem agree_navigate : Agree Run.Alike (navigate first) (navigate second) := by
  unfold navigate
  refine Step.agree_ask_bind fun form other h => ?_
  rw [Form.hasPages, Form.hasPages, h.pages]
  split
  · exact agree_pure none
  · refine (agree_turnPage hs).bind fun ended => ?_
    cases ended with
    | none => exact agree_pure none
    | some answer =>
        refine Step.agree_ask_bind fun form other h => ?_
        exact (Step.agree_log _ _ _ _).bind fun _ => agree_pure _

omit hs

theorem agree_validateAll : Agree Run.Alike validateAll validateAll := by
  unfold validateAll
  refine (agree_checkFields Form.Alike.checked).bind fun _ => ?_
  refine Step.agree_ask_bind fun form other h => ?_
  dsimp only [id]
  rw [h.firstFaultyPage?, h.errors]
  cases other.firstFaultyPage? with
  | none => exact agree_pure none
  | some page =>
      dsimp only
      rw [refusal_of_alike h]
      refine (Step.agree_log _ _ _ _).bind fun _ => ?_
      exact (Step.agree_log _ _ _ _).bind fun _ => agree_pure _

end Intake

/-! ### What completion makes of a form -/

namespace Form.Alike

variable {form other : Form} (h : form.Alike other)

include h

theorem confirmation : form.confirmation = other.confirmation := by
  rw [Form.confirmation, Form.confirmation, h.definition]
  simp only [h.appears]

theorem receiptFor (renderer : Renderer) (request : Request) :
    renderer.receiptFor request form = renderer.receiptFor request other := by
  simp only [Renderer.receiptFor, h.confirmation, h.rendered]

theorem isDue (notification : Notification) :
    Dispatch.isDue form notification = Dispatch.isDue other notification := by
  rw [Dispatch.isDue, Dispatch.isDue, h.appears]

theorem mailFor (service : Service) (request : Request) (notification : Notification) :
    Dispatch.mailFor service request notification form =
      Dispatch.mailFor service request notification other := by
  simp only [Dispatch.mailFor, h.rendered, funext (h.rendered service.renderer .text request)]

theorem copyRowFor (service : Service) (request : Request) (columns : List Column) :
    Completion.copyRowFor service request columns form =
      Completion.copyRowFor service request columns other := by
  simp only [Completion.copyRowFor, h.rendered]

theorem isSaving (service : Service) :
    Completion.isSaving service form = Completion.isSaving service other := by
  rw [Completion.isSaving, Completion.isSaving, h.definition]

theorem keptValues : Completion.keptValues form = Completion.keptValues other := by
  have hkept : ∀ f : Definition.Field Validator,
      (f.saveToDatabase && !form.isHidden f.id && !(form.value f).isEmpty) =
        (f.saveToDatabase && !other.isHidden f.id && !(other.value f).isEmpty) := by
    intro f
    rw [← h.isHidden]
    cases hv : form.isHidden f.id with
    | true => simp
    | false => rw [h.value hv]
  rw [Completion.keptValues, Completion.keptValues, h.fields, funext hkept]
  refine List.map_congr_left fun f hf => ?_
  have hv : form.isHidden f.id = false := by
    rw [h.isHidden]
    simpa using (Bool.and_eq_true_iff.mp (Bool.and_eq_true_iff.mp (List.mem_filter.mp hf).2).1).2
  rw [h.value hv]

theorem draft (service : Service) (request : Request) {first second : Submission}
    (hs : first.withoutValues = second.withoutValues) :
    Completion.draft service form first request =
      Completion.draft service other second request := by
  have hf : first.formUrl = second.formUrl := congrArg (fun submission => submission.formUrl) hs
  have hr : first.referringUrl = second.referringUrl :=
    congrArg (fun submission => submission.referringUrl) hs
  have hp : first.numericPostId = second.numericPostId :=
    congrArg (fun submission => submission.numericPostId) hs
  simp only [Completion.draft, Form.id, h.definition, hf, hr, hp]

end Form.Alike

/-! ### Completion -/

namespace Completion

theorem agree_createEntry (service : Service) (request : Request) {first second : Submission}
    (hs : first.withoutValues = second.withoutValues) :
    Agree Run.Alike (createEntry service first request) (createEntry service second request) := by
  unfold createEntry
  refine Step.agree_ask_bind fun form other h => ?_
  dsimp only [id]
  rw [h.draft service request hs, Form.id, Form.id, h.definition]
  refine (Step.agree_storeNew _).bind fun entry => (Step.agree_enter _).bind fun _ => ?_
  have hrest : Agree Run.Alike
      (do
        Step.change fun form => { form with entryId := some entry.id }
        Step.log .info "Entry created" (logFields (← Step.ask id)))
      (do
        Step.change fun form => { form with entryId := some entry.id }
        Step.log .info "Entry created" (logFields (← Step.ask id))) := by
    refine Agree.bind (Step.agree_change ?_) fun _ => ?_
    · exact fun h => { h with entryId := rfl }
    · exact Step.agree_ask_bind fun _ _ _ => Step.agree_log _ _ _ _
  refine agree_get_bind fun run other ha => ?_
  rw [ha.repository]
  split
  · exact (Step.agree_log _ _ _ _).bind fun _ => hrest
  · exact hrest

theorem agree_saveValues : Agree Run.Alike saveValues saveValues := by
  unfold saveValues
  refine Step.agree_ask_bind fun form other h => ?_
  dsimp only [id]
  rw [h.entryId, h.keptValues]
  cases other.entryId with
  | none => exact agree_pure ()
  | some entry =>
      dsimp only
      split
      · exact agree_pure ()
      · refine (Step.agree_store _).bind fun _ => (Step.agree_enter _).bind fun _ => ?_
        exact Step.agree_log _ _ _ _

theorem agree_clearUploads : Agree Run.Alike clearUploads clearUploads := by
  unfold clearUploads
  refine Step.agree_ask_bind fun form other h => ?_
  rw [Form.sessionKey, Form.sessionKey, Form.id, Form.id, h.definition]
  refine agree_get_bind fun run other ha => ?_
  rw [ha.staged]
  split
  · refine Agree.bind (agree_modify ?_) fun _ => Step.agree_enter _
    exact fun _ _ ha => { ha with staged := congrArg (List.filter _) ha.staged }
  · exact agree_pure ()

section idle

variable {service : Service} (h : service.bus.Idle) (request : Request)

include h

theorem agree_send (notification : Notification) :
    Agree Run.Alike (Dispatch.send service request notification)
      (Dispatch.send service request notification) := by
  unfold Dispatch.send
  rw [Dispatch.mail_of_idle h]
  refine (Step.agree_attempt_reading fun hf => hf.mailFor _ _ _).bind fun result => ?_
  cases result with
  | error failure => exact agree_pure _
  | ok mail =>
      refine Agree.bind (agree_modify fun _ _ ha => { ha with }) fun _ => ?_
      split
      · exact agree_pure _
      · exact (Step.agree_enter _).bind fun _ => agree_pure _

theorem agree_deliver (notification : Notification) :
    Agree Run.Alike (Dispatch.deliver service request notification)
      (Dispatch.deliver service request notification) := by
  unfold Dispatch.deliver
  refine Step.agree_ask_bind fun form other hf => ?_
  dsimp only [id]
  rw [hf.isDue]
  split
  · exact agree_pure _
  · split
    · exact (Step.agree_log _ _ _ _).bind fun _ => agree_pure _
    · refine (agree_send h request notification).bind fun result => ?_
      cases result with
      | ok sent => exact (Step.agree_log _ _ _ _).bind fun _ => agree_pure _
      | error failure => exact (Step.agree_log _ _ _ _).bind fun _ => agree_pure _

theorem agree_notify : Agree Run.Alike (notify service request) (notify service request) := by
  have hall : Agree Run.Alike (Dispatch.all service request) (Dispatch.all service request) := by
    unfold Dispatch.all
    refine Step.agree_ask_bind fun form other hf => ?_
    rw [hf.definition]
    exact agree_mapM (agree_deliver h request) _
  unfold notify
  refine hall.bind fun deliveries => ?_
  exact Step.agree_ask_bind fun _ _ _ => Step.agree_log _ _ _ _

theorem agree_copy : Agree Run.Alike (copy service request) (copy service request) := by
  unfold copy
  refine Step.agree_ask_bind fun form other hf => ?_
  dsimp only [id]
  rw [hf.definition]
  split
  · exact agree_pure ()
  · rw [copyRow_of_idle h]
    refine (Step.agree_atDesk_reading fun hf => hf.copyRowFor _ _ _).bind fun row => ?_
    split
    · exact agree_pure ()
    · have hrest : ∀ table : String, ∀ fields others : List (String × Value), Agree Run.Alike
          (do
            Step.store (·.insertCopy table row)
            Step.enter (.copied table row)
            Step.log .debug "Custom storage row written" fields)
          (do
            Step.store (·.insertCopy table row)
            Step.enter (.copied table row)
            Step.log .debug "Custom storage row written" others) := by
        intro table fields others
        refine (Step.agree_store _).bind fun _ => (Step.agree_enter _).bind fun _ => ?_
        exact Step.agree_log _ _ _ _
      refine (Step.agree_query _).bind fun unknown => ?_
      split
      · exact (Step.agree_log _ _ _ _).bind fun _ => hrest _ _ _
      · exact hrest _ _ _

theorem agree_confirm : Agree Run.Alike (confirm service request) (confirm service request) := by
  unfold confirm
  rw [Renderer.receipt_of_idle h]
  refine (Step.agree_atDesk_reading fun hf => hf.receiptFor _ _).bind fun receipt => ?_
  refine (agree_copy h request).bind fun _ => ?_
  exact agree_clearUploads.bind fun _ => agree_pure receipt

theorem agree_run {first second : Submission} (hs : first.withoutValues = second.withoutValues) :
    Agree Run.Alike (run service first request) (run service second request) := by
  rw [run_of_idle h, run_of_idle h]
  refine (Step.agree_ask fun hf => hf.isSaving service).bind fun saving => ?_
  refine Agree.bind ?_ fun _ => ?_
  · split
    · exact agree_createEntry service request hs
    · exact agree_pure ()
  refine (Step.agree_ask Form.Alike.entryId).bind fun entry => ?_
  refine (Step.agree_enter _).bind fun _ => ?_
  refine Agree.bind ?_ fun _ => ?_
  · split
    · exact agree_saveValues
    · exact agree_pure ()
  refine (agree_notify h request).bind fun _ => ?_
  refine (agree_confirm h request).bind fun receipt => ?_
  refine Step.agree_ask_bind fun _ _ _ => ?_
  exact (Step.agree_log _ _ _ _).bind fun _ => agree_pure _

end idle

end Completion

/-! ### Runs -/

theorem Run.Alike.refl (run : Run) : run.Alike run :=
  ⟨⟨rfl, rfl, fun _ => rfl, fun _ _ => rfl, rfl, rfl, rfl, rfl⟩, rfl, rfl, rfl⟩

/-- Behind a stage that leaves the desk as it is, what agrees from this desk on agrees. -/
theorem Step.agree_endsOr_of_standing {P : Option Subject → Prop} {ended : Step (Option Subject)}
    {further rest : Step Subject} {run : Run} (hk : Keeps Run.standing P ended)
    (h : ∀ after : Run, after.desk = run.desk →
      (further.perform after).1 = (rest.perform after).1 ∧
        (further.perform after).2.Alike (rest.perform after).2) :
    ((ended.endsOr further).perform run).1 = ((ended.endsOr rest).perform run).1 ∧
      ((ended.endsOr further).perform run).2.Alike ((ended.endsOr rest).perform run).2 := by
  cases ho : outcome ended run with
  | mk result after =>
      cases result with
      | error failure =>
          rw [Step.perform_endsOr_of_error further ho, Step.perform_endsOr_of_error rest ho]
          exact ⟨rfl, .refl after⟩
      | ok answer =>
          cases answer with
          | some subject =>
              rw [Step.perform_endsOr_of_some further ho, Step.perform_endsOr_of_some rest ho]
              exact ⟨rfl, .refl after⟩
          | none =>
              rw [Step.perform_endsOr_of_none further ho, Step.perform_endsOr_of_none rest ho]
              have hstanding := (hk run).1
              rw [ho] at hstanding
              exact h after (congrArg Prod.fst hstanding)

namespace Intake

section idle

variable {service : Service} (h : service.bus.Idle) (request : Request)
  {first second : Submission} (hs : first.withoutValues = second.withoutValues)

include h hs

/-- Filled in with submissions that differ in hidden values only, a form goes the same way. -/
theorem processValues_of_hidden {run : Run} (hc : run.desk.form.Acyclic)
    (hv : ∀ field ∈ run.desk.form.fields,
      (run.desk.form.bind first).refreshVisibility.isHidden field.id = false →
        first.valueFor field.id = second.valueFor field.id) :
    ((processValues service first request).perform run).1 =
        ((processValues service second request).perform run).1 ∧
      ((processValues service first request).perform run).2.Alike
        ((processValues service second request).perform run).2 := by
  obtain ⟨one, hone, hr, hst, hj, he⟩ := perform_processValues h first request run
  obtain ⟨two, htwo, hr', hst', hj', he'⟩ := perform_processValues h second request run
  have hform := Form.alike_of_hidden hc hs hv
  rw [← hone, ← htwo] at hform
  have halike : one.Alike two :=
    ⟨hform, hr.trans hr'.symm, hst.trans hst'.symm, hj.trans hj'.symm⟩
  rw [he, he']
  exact Step.agree_endsOr (agree_navigate hs)
    (Step.agree_endsOr agree_validateAll (Completion.agree_run h request hs)) one two halike

end idle

/-- Two submissions that differ only in what they give for fields that the first one hides come to
the same: without extensions and without cycles in the form, they are answered alike, leave the same
elements hidden and the same entry behind, and deal with the outside in the same way. -/
theorem process_eq_of_hidden (service : Service) (h : service.bus.Idle) (request : Request)
    (run : Run) (hc : run.desk.form.Acyclic) (first second : Submission)
    (hs : first.withoutValues = second.withoutValues)
    (hv : ∀ field ∈ run.desk.form.fields,
      (run.desk.form.bind (withUploads service first)).refreshVisibility.isHidden field.id = false →
        (withUploads service first).valueFor field.id =
          (withUploads service second).valueFor field.id) :
    let one := (process service first request).perform run
    let two := (process service second request).perform run
    one.1 = two.1 ∧
    (∀ id, one.2.desk.form.isHidden id = two.2.desk.form.isHidden id) ∧
    one.2.desk.form.entryId = two.2.desk.form.entryId ∧
    one.2.repository = two.2.repository ∧
    one.2.journal = two.2.journal ∧
    one.2.staged = two.2.staged := by
  have htoken : checkToken service first = checkToken service second := by
    have ht : first.csrfToken = second.csrfToken :=
      congrArg (fun submission => submission.csrfToken) hs
    rw [checkToken, checkToken, tokenMatches, tokenMatches, ht]
  have hvalues : (withUploads service first).withoutValues =
      (withUploads service second).withoutValues := hs
  have hsame : ((process service first request).perform run).1 =
        ((process service second request).perform run).1 ∧
      ((process service first request).perform run).2.Alike
        ((process service second request).perform run).2 := by
    rw [process_of_idle h, process_of_idle h, htoken]
    refine Step.agree_endsOr_of_standing (keeps_checkToken h second) fun known hk => ?_
    refine Step.agree_endsOr_of_standing (keeps_checkGates h request) fun admitted ha => ?_
    rw [← hk, ← ha] at hc hv
    exact processValues_of_hidden h request hvalues hc hv
  obtain ⟨hresult, halike⟩ := hsame
  exact ⟨hresult, halike.form.isHidden, halike.form.entryId, halike.repository, halike.journal,
    halike.staged⟩

/-- A form whose second field appears while the first is empty; its mail and its confirmation ask
for both. -/
def discreet : Form where
  definition := {
    id := 1, pages := []
    notifications := [{ name := "office", body := "\x7ball_form_data\x7d" }]
    confirmations := [{ name := "thanks", message := "\x7belement|id:2\x7d\x7belement|id:3\x7d" }] }
  pages := [
    { heading := { id := 1 }
      children := [.field { id := 2 },
        .field { id := 3, logic := .whenEmpty .appear .all [2] }] }]
  distinct := by decide

theorem acyclic_discreet : discreet.Acyclic :=
  discreet.acyclic_of_rank (fun id => if id = 3 then 2 else if id = 2 then 1 else 0) (by decide)

/-- A submission to it with something for the hidden field. -/
def whispering (secret : String) : Submission where
  values := [("2", .text "Ann"), ("3", .text secret)]
  csrfToken := some "token"

/-- What comes of it. -/
def whisperingResult (secret : String) : Except Failure Subject × Run :=
  (process { sessionToken := "token" } (whispering secret) {}).perform
    { desk := { form := discreet }, repository := .ledger {} }

theorem process_eq_of_hidden_whispering :
    IsAccepted (whisperingResult "tea").1 ∧
    (whisperingResult "tea").2.desk.form.hiddenIds = [3] ∧
    (whisperingResult "tea").1 = (whisperingResult "rum").1 ∧
    (whisperingResult "tea").2.repository = (whisperingResult "rum").2.repository ∧
    (whisperingResult "tea").2.journal = (whisperingResult "rum").2.journal := by
  have haccepted : IsAccepted (whisperingResult "tea").1 := by decide +kernel
  have hhidden : (whisperingResult "tea").2.desk.form.hiddenIds = [3] := by decide +kernel
  have hvisible : ∀ field ∈ discreet.fields,
      (discreet.bind (withUploads { sessionToken := "token" } (whispering "tea"))
        ).refreshVisibility.isHidden field.id = false → field.id = 2 := by
    decide +kernel
  have hs : (whispering "tea").withoutValues = (whispering "rum").withoutValues := rfl
  have h := process_eq_of_hidden { sessionToken := "token" } Bus.idle_empty {}
    { desk := { form := discreet }, repository := .ledger {} } acyclic_discreet
    (whispering "tea") (whispering "rum") hs fun field hf hv => by
      rw [hvisible field hf hv]
      rfl
  unfold whisperingResult at *
  exact ⟨haccepted, hhidden, h.1, h.2.2.2.1, h.2.2.2.2.1⟩

end Intake
end FormIntake
