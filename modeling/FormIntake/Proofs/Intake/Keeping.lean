import FormIntake.Proofs.Intake.Frame
import FormIntake.Proofs.Intake.Stages

/-! # What a completion keeps

Without extensions keeping a submission can come to four things (`Completion.Kept`): nothing is to be
kept, the entry is refused, the entry is kept and its values are refused, or all is kept.  What comes
after that, the notifications, the confirmation and the copy, leaves the desk as it is, and adds no
entry (`Completion.exists_kept`). -/

namespace FormIntake

open Definition Effect

namespace Completion

/-- What keeping a submission can come to without extensions, and the run after it: nothing is to be
kept, the entry is refused, its values are refused, or all is kept. -/
inductive Kept (service : Service) (submission : Submission) (request : Request) (run : Run) :
    Except Failure (Option Subject) → Run → Prop
  | off {after : Run} (hsaving : isSaving service run.desk.form = false)
      (hdesk : after.desk = run.desk) (hrepository : after.repository = run.repository) :
      Kept service submission request run (.ok none) after
  | refused {failure : Failure} {after : Run} (hrepository : after.repository = run.repository) :
      Kept service submission request run (.error failure) after
  | entered {failure : Failure} {after : Run} {entry : Entry}
      (hsaving : isSaving service run.desk.form = true)
      (hentry : run.repository.createEntry (draft service run.desk.form submission request) =
        .ok (entry, after.repository)) :
      Kept service submission request run (.error failure) after
  | filed {after : Run} {entry : Entry} {made : Repository}
      (hsaving : isSaving service run.desk.form = true)
      (hentry : run.repository.createEntry (draft service run.desk.form submission request) =
        .ok (entry, made))
      (hform : after.desk.form = { run.desk.form with entryId := some entry.id })
      (hvalues : 0 < entry.id →
        made.saveValues entry.id (keptValues run.desk.form) = .ok after.repository)
      (hnone : entry.id ≤ 0 → after.repository = made) :
      Kept service submission request run (.ok none) after

section kept

variable {service : Service} {submission : Submission} {request : Request} {run after : Run}
  {result : Except Failure (Option Subject)}

theorem Kept.numbered (h : Kept service submission request run result after)
    (hr : run.repository.Numbered) : after.repository.Numbered := by
  cases h with
  | off _ _ hrepository => rwa [hrepository]
  | refused hrepository => rwa [hrepository]
  | entered _ hentry => exact hr.enters (Repository.enters_createEntry rfl hentry)
  | filed _ hentry _ hvalues hnone =>
      have henters := Repository.enters_createEntry rfl hentry
      have hmade := hr.enters henters
      have hid := henters.id_eq
      have hnext := henters.nextId_eq
      have hpos := hr.next_pos
      have hfiles := Repository.files_saveValues (hvalues (by omega))
      exact hmade.files (by omega) hfiles

/-- At most one entry more is kept, and only if entries of the form are. -/
theorem Kept.enters (h : Kept service submission request run result after) :
    (after.repository.entries = run.repository.entries ∧
      after.repository.countEntries = run.repository.countEntries) ∨
    isSaving service run.desk.form = true ∧ ∃ entry made,
      run.repository.Enters (draft service run.desk.form submission request) entry made ∧
      after.repository.entries = made.entries ∧
      after.repository.countEntries = made.countEntries := by
  cases h with
  | off _ _ hrepository => exact .inl (by rw [hrepository]; exact ⟨rfl, rfl⟩)
  | refused hrepository => exact .inl (by rw [hrepository]; exact ⟨rfl, rfl⟩)
  | entered hsaving hentry =>
      exact .inr ⟨hsaving, _, _, Repository.enters_createEntry rfl hentry, rfl, rfl⟩
  | @filed _ entry made hsaving hentry _ hvalues hnone =>
      refine .inr ⟨hsaving, entry, made, Repository.enters_createEntry rfl hentry, ?_⟩
      by_cases hp : 0 < entry.id
      · have hfiles := Repository.files_saveValues (hvalues hp)
        exact ⟨hfiles.entries_eq, hfiles.count_eq⟩
      · rw [hnone (by omega)]
        exact ⟨rfl, rfl⟩

end kept

/-! ### Entry and values -/

theorem createEntry_of_ok {service : Service} {submission : Submission} {request : Request}
    {run : Run} {entry : Entry} {made : Repository}
    (h : run.repository.createEntry (draft service run.desk.form submission request) =
      .ok (entry, made)) :
    ∃ after, outcome (createEntry service submission request) run = (.ok (), after) ∧
      after.repository = made ∧
      after.desk.form = { run.desk.form with entryId := some entry.id } := by
  unfold createEntry
  rw [outcome_bind_of_ok (Step.outcome_ask _ _)]
  dsimp only [id]
  rw [outcome_bind_of_ok (Step.outcome_storeNew_of_ok h)]
  cases made with
  | ledger l => exact ⟨_, rfl, rfl, rfl⟩
  | database db => exact ⟨_, rfl, rfl, rfl⟩

theorem createEntry_of_error {service : Service} {submission : Submission} {request : Request}
    {run : Run} {failure : Failure}
    (h : run.repository.createEntry (draft service run.desk.form submission request) =
      .error failure) :
    outcome (createEntry service submission request) run = (.error failure, run) := by
  unfold createEntry
  rw [outcome_bind_of_ok (Step.outcome_ask _ _)]
  exact outcome_bind_of_error (Step.outcome_storeNew_of_error h)

/-- Values are kept under positive numbers of entries only. -/
theorem outcome_saveValues {run : Run} {entry : Int} (he : run.desk.form.entryId = some entry) :
    outcome saveValues run = if entry ≤ 0 then (.ok (), run) else outcome (do
      Step.store (·.saveValues entry (keptValues run.desk.form))
      Step.enter (.savedValues entry (keptValues run.desk.form))
      Step.log .debug "Entry data saved" (logFields run.desk.form ++
        [("value_count", .int (keptValues run.desk.form).length)])) run := by
  unfold saveValues
  rw [outcome_bind_of_ok (Step.outcome_ask _ _)]
  dsimp only [id]
  rw [he]
  dsimp only
  split <;> rfl

theorem saveValues_of_ok {run : Run} {entry : Int} {made : Repository}
    (he : run.desk.form.entryId = some entry) (hp : 0 < entry)
    (h : run.repository.saveValues entry (keptValues run.desk.form) = .ok made) :
    ∃ after, outcome saveValues run = (.ok (), after) ∧ after.repository = made ∧
      after.desk = run.desk := by
  rw [outcome_saveValues he, if_neg (by omega), outcome_bind_of_ok (Step.outcome_store_of_ok h)]
  exact ⟨_, rfl, rfl, rfl⟩

theorem saveValues_of_error {run : Run} {entry : Int} {failure : Failure}
    (he : run.desk.form.entryId = some entry) (hp : 0 < entry)
    (h : run.repository.saveValues entry (keptValues run.desk.form) = .error failure) :
    outcome saveValues run = (.error failure, run) := by
  rw [outcome_saveValues he, if_neg (by omega)]
  exact outcome_bind_of_error (Step.outcome_store_of_error h)

section idle

variable {service : Service} (hs : service.bus.Idle)

include hs

theorem outcome_keep (submission : Submission) (request : Request) (run : Run) :
    outcome (keep service submission request) run = outcome
      (if isSaving service run.desk.form then
        createEntry service submission request >>= fun _ => file service true
      else file service false) run := by
  unfold keep
  rw [outcome_bind_of_ok (Step.outcome_ask _ _), stage_of_idle hs]
  cases isSaving service run.desk.form <;> rfl

/-- Where entries are kept, the values are saved once the uploads have been moved. -/
theorem outcome_file (run : Run) :
    outcome (file service true) run = outcome (saveValues >>= fun _ => pure none)
      { run with journal := run.journal ++ [.movedUploads run.desk.form.entryId] } := by
  unfold file
  rw [stage_of_idle hs]
  rfl

/-- What becomes of the values of an entry that was kept. -/
theorem kept_file {submission : Submission} {request : Request} {run entered : Run} {entry : Entry}
    (hsaving : isSaving service run.desk.form = true)
    (hentry : run.repository.createEntry (draft service run.desk.form submission request) =
      .ok (entry, entered.repository))
    (hform : entered.desk.form = { run.desk.form with entryId := some entry.id }) :
    Kept service submission request run (outcome (file service true) entered).1
      (outcome (file service true) entered).2 := by
  let moved : Run :=
    { entered with journal := entered.journal ++ [.movedUploads entered.desk.form.entryId] }
  have hid : moved.desk.form.entryId = some entry.id := congrArg Form.entryId hform
  have hvalues : keptValues moved.desk.form = keptValues run.desk.form :=
    (congrArg keptValues hform).trans rfl
  rw [outcome_file hs]
  by_cases hp : 0 < entry.id
  · cases hk : moved.repository.saveValues entry.id (keptValues moved.desk.form) with
    | error failure =>
        rw [outcome_bind_of_error (saveValues_of_error hid hp hk)]
        exact .entered hsaving hentry
    | ok filled =>
        obtain ⟨last, hl, hstored, hdesk⟩ := saveValues_of_ok hid hp hk
        rw [outcome_bind_of_ok hl]
        rw [hvalues, ← hstored] at hk
        have hlast : last.desk.form = { run.desk.form with entryId := some entry.id } :=
          (congrArg Desk.form hdesk).trans hform
        exact .filed hsaving hentry hlast (fun _ => hk) fun hn => absurd hp (by omega)
  · have hsame : outcome saveValues moved = (.ok (), moved) := by
      rw [outcome_saveValues hid, if_pos (by omega)]
    rw [outcome_bind_of_ok hsame]
    exact .filed hsaving hentry hform (fun hpos => absurd hpos hp) fun _ => rfl

theorem kept_keep (submission : Submission) (request : Request) (run : Run) :
    Kept service submission request run (outcome (keep service submission request) run).1
      (outcome (keep service submission request) run).2 := by
  rw [outcome_keep hs]
  cases hsaving : isSaving service run.desk.form with
  | false =>
      unfold file
      rw [stage_of_idle hs]
      exact .off hsaving rfl rfl
  | true =>
      rw [if_pos rfl]
      cases hc : run.repository.createEntry (draft service run.desk.form submission request) with
      | error failure =>
          rw [outcome_bind_of_error (createEntry_of_error hc)]
          exact .refused rfl
      | ok created =>
          obtain ⟨entry, made⟩ := created
          obtain ⟨entered, ho, rfl, hform⟩ := createEntry_of_ok hc
          rw [outcome_bind_of_ok ho]
          exact kept_file hs hsaving hc hform

/-! ### What comes after -/

theorem fixes_standing_tell (request : Request) : Fixes Run.standing (tell service request) := by
  unfold tell
  rw [Renderer.receipt_of_idle hs]
  exact (fixes_standing_notify hs request).bind fun _ _ => Step.fixes_atDesk_reading _

omit hs in
theorem moves_copy_of_inactive (request : Request) :
    Step.Moves Eq (fun desk => desk.form.definition.copy.isActive = false)
      (copy service request) := by
  intro run h
  unfold copy
  rw [outcome_bind_of_ok (Step.outcome_ask _ _)]
  dsimp only [id]
  rw [h]
  exact ⟨rfl, rfl⟩

theorem fixes_standing_finish (receipt : Receipt) : Fixes Run.standing (finish service receipt) := by
  unfold finish
  rw [stage_of_idle hs, Step.pure_none_endsOr]
  exact (Step.fixes_ask _).bind fun _ _ => (Step.fixes_log _ _ _).bind fun _ _ => fixes_pure _

theorem moves_answer {R : Repository → Repository → Prop} [IsPreorder Repository R]
    {P : Desk → Prop} {request : Request} (hc : Step.Moves R P (copy service request)) :
    Step.Moves R P (answer service request) := by
  unfold answer
  refine (Step.moves_of_standing (fixes_standing_tell hs request)).bind fun receipt => ?_
  refine hc.bind fun _ => ?_
  refine (Step.moves_of_standing fixes_standing_clearUploads).bind fun _ => ?_
  exact Step.moves_of_standing (fixes_standing_finish hs receipt)

/-- What a completion can come to without extensions. -/
theorem exists_kept (submission : Submission) (request : Request) (run : Run) :
    let after := outcome (conclude service submission request) run
    ∃ result kept, Kept service submission request run result kept ∧
      after.2.desk = kept.desk ∧
      kept.repository.Copies after.2.repository ∧
      (kept.desk.form.definition.copy.isActive = false → after.2.repository = kept.repository) ∧
      (Intake.IsAccepted after.1 → result = .ok none) := by
  intro after
  have hk := kept_keep hs submission request run
  cases ho : outcome (keep service submission request) run with
  | mk result kept =>
      rw [ho] at hk
      refine ⟨result, kept, hk, ?_⟩
      match result, ho, hk with
      | .error failure, ho, _ =>
          have hafter : after = (.error failure, kept) := Step.perform_endsOr_of_error _ ho
          rw [hafter]
          refine ⟨rfl, Repository.copies_refl _, fun _ => rfl, ?_⟩
          rintro ⟨receipt, ⟨⟩⟩
      | .ok none, ho, _ =>
          have hafter : after = outcome (answer service request) kept :=
            Step.perform_endsOr_of_none _ ho
          obtain ⟨hdesk, hcopies⟩ := moves_answer hs (moves_copy hs (fun _ => True) request) kept trivial
          rw [hafter]
          refine ⟨hdesk, hcopies, fun hc => ?_, fun _ => rfl⟩
          exact (moves_answer hs (moves_copy_of_inactive request) kept hc).2.symm

end idle

end Completion
end FormIntake
