import FormIntake.Proofs.Intake.Frame

/-! # Stages that a submission has to pass

Processing asks one stage after the other for an answer, and completes the submission when none of
them has one (`Intake.process_eq`).  These stages, `Intake.hurdles`, are quiet, whatever extensions
are registered: they change neither the repository nor the uploads that are kept for the visitor,
and they write nothing (`Intake.quiet_hurdles`). -/

namespace FormIntake

open Definition Effect

/-! ### One stage after the other -/

namespace Step

/-- The answer of one stage, or else that of another. -/
def otherwise (first second : Step (Option Subject)) : Step (Option Subject) := do
  match ← first with
  | some subject => return some subject
  | none => second

/-- The answer of the first of some stages that has one. -/
def firstAnswer (stages : List (Step (Option Subject))) : Step (Option Subject) :=
  stages.foldr otherwise (pure none)

theorem otherwise_endsOr (first second : Step (Option Subject)) (further : Step Subject) :
    (first.otherwise second).endsOr further = first.endsOr (second.endsOr further) := by
  unfold endsOr otherwise
  rw [bind_assoc]
  apply bind_congr
  intro answer
  cases answer <;> rfl

theorem otherwise_assoc (first second third : Step (Option Subject)) :
    (first.otherwise second).otherwise third = first.otherwise (second.otherwise third) := by
  unfold otherwise
  rw [bind_assoc]
  apply bind_congr
  intro answer
  cases answer <;> rfl

theorem none_otherwise (second : Step (Option Subject)) : (pure none : Step _).otherwise second = second :=
  rfl

theorem otherwise_none (first : Step (Option Subject)) : first.otherwise (pure none) = first := by
  have hsame : first.otherwise (pure none) = first >>= pure := by
    unfold otherwise
    apply bind_congr
    intro answer
    cases answer <;> rfl
  rw [hsame, bind_pure]

theorem bind_otherwise {α : Type} (first : Step α) (ended : α → Step (Option Subject))
    (second : Step (Option Subject)) :
    otherwise (first >>= ended) second = first >>= fun a => (ended a).otherwise second := by
  unfold otherwise
  rw [bind_assoc]

section outcome

variable {first : Step (Option Subject)} {run after : Run} (second : Step (Option Subject))

theorem outcome_otherwise_of_none (h : outcome first run = (.ok none, after)) :
    outcome (first.otherwise second) run = outcome second after :=
  outcome_bind_of_ok h

theorem outcome_otherwise_of_some {subject : Subject}
    (h : outcome first run = (.ok (some subject), after)) :
    outcome (first.otherwise second) run = (.ok (some subject), after) :=
  outcome_bind_of_ok h

theorem outcome_otherwise_of_error {failure : Failure}
    (h : outcome first run = (.error failure, after)) :
    outcome (first.otherwise second) run = (.error failure, after) :=
  outcome_bind_of_error h

end outcome

theorem bind_endsOr {α : Type} (first : Step α) (ended : α → Step (Option Subject))
    (further : Step Subject) :
    endsOr (first >>= ended) further = first >>= fun a => (ended a).endsOr further := by
  unfold endsOr
  rw [bind_assoc]

theorem firstAnswer_endsOr (stages : List (Step (Option Subject))) (further : Step Subject) :
    (firstAnswer stages).endsOr further = stages.foldr endsOr further := by
  induction stages with
  | nil => rfl
  | cons stage rest ih =>
      rw [List.foldr_cons, ← ih, ← otherwise_endsOr]
      rfl

section keeps

variable {γ : Type} {view : Run → γ} {P : Subject → Prop}

theorem keeps_otherwise {first second : Step (Option Subject)}
    (hf : Keeps view (fun answer => ∀ subject ∈ answer, P subject) first)
    (hs : Keeps view (fun answer => ∀ subject ∈ answer, P subject) second) :
    Keeps view (fun answer => ∀ subject ∈ answer, P subject) (first.otherwise second) := by
  refine hf.bind fun answer ha => ?_
  cases answer with
  | some subject => exact keeps_pure ha
  | none => exact hs

theorem keeps_firstAnswer : ∀ {stages : List (Step (Option Subject))},
    (∀ stage ∈ stages, Keeps view (fun answer => ∀ subject ∈ answer, P subject) stage) →
      Keeps view (fun answer => ∀ subject ∈ answer, P subject) (firstAnswer stages)
  | [], _ => keeps_pure (by rintro _ ⟨⟩)
  | _ :: _, h => keeps_otherwise (h _ List.mem_cons_self)
      (keeps_firstAnswer fun stage hs => h stage (List.mem_cons_of_mem _ hs))

theorem fixes_endsOr {ended : Step (Option Subject)} {further : Step Subject}
    (h : Fixes view ended) (hf : Fixes view further) : Fixes view (ended.endsOr further) := by
  refine h.bind fun answer _ => ?_
  cases answer with
  | some subject => exact fixes_pure subject
  | none => exact hf

/-- Where the first stage leaves what the view shows, so does the whole, or the further part takes
over from there. -/
theorem endsOr_of_fixes {ended : Step (Option Subject)} (h : Fixes view ended)
    (further : Step Subject) (run : Run) :
    view (outcome (ended.endsOr further) run).2 = view run ∨
    ∃ middle, view middle = view run ∧
      outcome (ended.endsOr further) run = outcome further middle := by
  have hview := (h run).1
  match ho : outcome ended run with
  | (.error failure, after) =>
      rw [ho] at hview
      have hend : outcome (ended.endsOr further) run = (.error failure, after) :=
        perform_endsOr_of_error further ho
      exact .inl (hend ▸ hview)
  | (.ok (some subject), after) =>
      rw [ho] at hview
      have hend : outcome (ended.endsOr further) run = (.ok subject, after) :=
        perform_endsOr_of_some further ho
      exact .inl (hend ▸ hview)
  | (.ok none, middle) =>
      rw [ho] at hview
      exact .inr ⟨middle, hview, perform_endsOr_of_none further ho⟩

end keeps

end Step

/-! ### The course of processing -/

namespace Completion

/-- Uploads are moved, and the values kept where an entry is. -/
def file (service : Service) (saving : Bool) : Step (Option Subject) := do
  Step.enter (.movedUploads (← Step.ask Form.entryId))
  if saving then saveValues
  stage service .postSaveEntryData

/-- Completion up to the point where entry and values are kept. -/
def keep (service : Service) (submission : Submission) (request : Request) :
    Step (Option Subject) := do
  let saving ← Step.ask (isSaving service)
  if saving then createEntry service submission request
  (stage service .postSetEntryId).otherwise (file service saving)

/-- Notifications are sent and the confirmation is rendered. -/
def tell (service : Service) (request : Request) : Step Receipt := do
  notify service request
  Step.atDesk (service.renderer.receipt request)

/-- Completion from the point where entry and values are kept. -/
def answer (service : Service) (request : Request) : Step Subject := do
  let receipt ← tell service request
  copy service request
  clearUploads
  finish service receipt

/-- Completion of a submission that has passed every stage. -/
def conclude (service : Service) (submission : Submission) (request : Request) : Step Subject :=
  (keep service submission request).endsOr (answer service request)

theorem run_eq (service : Service) (submission : Submission) (request : Request) :
    run service submission request =
      (stage service .postValidate).endsOr (conclude service submission request) := by
  have hanswer : (do notify service request; finish service (← confirm service request)) =
      answer service request := by
    simp only [answer, tell, confirm, bind_assoc, pure_bind]
  unfold run conclude keep
  rw [← hanswer, Step.bind_endsOr]
  congr 1
  apply bind_congr
  intro saving
  cases saving <;>
    simp only [file, Bool.false_eq_true, if_true, if_false, Step.bind_endsOr,
      Step.otherwise_endsOr]

theorem run_eq_conclude {service : Service} (hs : service.bus.Idle) (submission : Submission)
    (request : Request) : run service submission request = conclude service submission request := by
  rw [run_eq, stage_of_idle hs, Step.pure_none_endsOr]

end Completion

namespace Intake

/-- The stages that can end the processing of a submission before it is completed, in order. -/
def hurdles (service : Service) (submission : Submission) (request : Request) :
    List (Step (Option Subject)) :=
  let merged := withUploads service submission
  [checkToken service submission,
   stage service .preProcess,
   checkGates service request,
   do bindValues merged; stage service .postSetFormValues,
   do settle merged; stage service .preValidate,
   navigate merged,
   validateAll,
   stage service .postValidate]

/-- A submission is completed if no stage has an answer. -/
theorem process_eq (service : Service) (submission : Submission) (request : Request) :
    process service submission request =
      (Step.firstAnswer (hurdles service submission request)).endsOr
        (Completion.conclude service (withUploads service submission) request) := by
  rw [Step.firstAnswer_endsOr]
  simp only [hurdles, List.foldr_cons, List.foldr_nil, process, processValues, Completion.run_eq,
    Step.bind_endsOr]

/-- The token and the gates. -/
def letIn (service : Service) (submission : Submission) (request : Request) :
    Step (Option Subject) :=
  Step.firstAnswer [checkToken service submission, checkGates service request]

/-- Without extensions the stages are the token and the gates, and then, on the form filled in, going
from page to page and validation. -/
theorem firstAnswer_hurdles_of_idle {service : Service} (hs : service.bus.Idle)
    (submission : Submission) (request : Request) :
    Step.firstAnswer (hurdles service submission request) =
      (letIn service submission request).otherwise (do
        bindValues (withUploads service submission)
        settle (withUploads service submission)
        (navigate (withUploads service submission)).otherwise validateAll) := by
  simp only [Step.firstAnswer, letIn, hurdles, stage_of_idle hs, List.foldr_cons, List.foldr_nil,
    Step.otherwise_assoc, Step.bind_otherwise, Step.none_otherwise, Step.otherwise_none]

end Intake

/-! ### Quiet parts of a run -/

/-- What a run has written, in order. -/
def Run.writes (run : Run) : List Event := run.journal.filter Event.isWrite

/-- All that a run can change outside: what it has written, the repository, and the uploads that
are kept for the visitor. -/
def Run.outside (run : Run) : List Event × Repository × List String :=
  (run.writes, run.repository, run.staged)

/-- A part of a run changes nothing outside. -/
abbrev Step.Quiet {α : Type} (step : Step α) : Prop := Fixes Run.outside step

namespace Step

variable {α : Type}

theorem quiet_atDesk (work : Work α) : Quiet (Step.atDesk work) := fun _ => ⟨rfl, fun _ _ => trivial⟩

theorem quiet_change (update : Form → Form) : Quiet (Step.change update) := quiet_atDesk _

theorem quiet_log (level : Installation.LogLevel) (event : String)
    (fields : List (String × Value)) : Quiet (Step.log level event fields) :=
  fixes_modify fun _ => rfl

theorem writes_append (run : Run) (event : Event) :
    { run with journal := run.journal ++ [event] : Run }.writes =
      run.writes ++ [event].filter Event.isWrite := List.filter_append ..

theorem quiet_enter {event : Event} (h : event.isWrite = false) : Quiet (Step.enter event) :=
  fixes_modify fun run => by
    have hw := writes_append run event
    rw [List.filter_cons_of_neg (by simp [h]), List.filter_nil, List.append_nil] at hw
    exact congrArg (·, run.repository, run.staged) hw

theorem quiet_firstAnswer {stages : List (Step (Option Subject))}
    (h : ∀ stage ∈ stages, Quiet stage) : Quiet (firstAnswer stages) := by
  have hk := keeps_firstAnswer (P := fun _ => True) fun stage hs =>
    (h stage hs).mono fun _ _ _ _ => trivial
  exact hk.mono fun _ _ => trivial

end Step

open Step

variable (service : Service)

theorem quiet_stage (hook : Hook) : Quiet (stage service hook) := by
  unfold stage
  refine (quiet_atDesk _).bind fun answer _ => ?_
  split
  · exact (quiet_log _ _ _).bind fun _ _ => fixes_pure _
  · exact fixes_pure _

theorem Gate.quiet_parts : Gate.Parts service Run.outside fun _ => True where
  log := quiet_log
  enter _ h := quiet_enter h
  filter _ _ := quiet_atDesk _
  filter_refused _ _ _ := quiet_atDesk _

namespace Intake

theorem quiet_bindValues (submission : Submission) : Quiet (bindValues submission) := by
  unfold bindValues
  refine (quiet_enter rfl).bind fun _ _ => (quiet_change _).bind fun _ _ => ?_
  exact (fixes_ask _).bind fun form _ => quiet_log _ _ _

theorem quiet_navigate (submission : Submission) : Quiet (navigate submission) :=
  (keeps_view_navigate (fun _ => quiet_change _) quiet_log submission).mono fun _ _ => trivial

theorem quiet_validateAll : Quiet validateAll :=
  (keeps_view_validateAll (fun _ => quiet_change _) quiet_log).mono fun _ _ => trivial

/-- Whatever extensions do, the stages before completion change nothing outside. -/
theorem quiet_hurdles (submission : Submission) (request : Request) :
    ∀ hurdle ∈ hurdles service submission request, Quiet hurdle := by
  intro hurdle h
  simp only [hurdles, List.mem_cons, List.not_mem_nil, or_false] at h
  rcases h with rfl | rfl | rfl | rfl | rfl | rfl | rfl | rfl
  · exact ((Gate.quiet_parts service).keeps_checkToken submission).mono fun _ _ => trivial
  · exact quiet_stage service _
  · exact ((Gate.quiet_parts service).keeps_checkGates request).mono fun _ _ => trivial
  · exact (quiet_bindValues _).bind fun _ _ => quiet_stage service _
  · exact (quiet_change _).bind fun _ _ => quiet_stage service _
  · exact quiet_navigate _
  · exact quiet_validateAll
  · exact quiet_stage service _

end Intake
end FormIntake
