import Mathlib.Data.List.Induction
import FormIntake.Calendar.Clock
import FormIntake.Proofs.Intake.Keeping
import FormIntake.Proofs.Store.History

/-! # The times of entries

A clock is advanced and set (`Calendar.Adjustment`), and stays at the place of the time that it was set to
last (`Calendar.DateTime.place_adjusted`).  So its offset is the one of that time, unless the place is in a
zone with clocks that are put forward and back (`Calendar.DateTime.offset_adjusted`).

A run over a database leaves its entries as they are, or has the database create one from the draft of
the submission, which says what the clock shows, whatever extensions are registered
(`Intake.enters_of_process`).  The database keeps what the wall clock shows and reads it as universal
time, so that the instant of an entry is that of the clock, moved by the offset that the clock has in this
run: it is kept exactly if the clock shows universal time (`Intake.instants_of_process`). -/

namespace FormIntake

open Calendar Definition Effect

/-! ### Clocks -/

namespace Calendar

/-- Something that is done with a clock. -/
inductive Adjustment where
  | advance (amount : Duration)
  | set (time : DateTime)

/-- The time that a clock is set to. -/
def Adjustment.time? : Adjustment → Option DateTime
  | .advance _ => none
  | .set time => some time

namespace DateTime

/-- What a clock shows after an adjustment; an amount that is refused leaves it as it is. -/
def adjust (shown : DateTime) : Adjustment → DateTime
  | .advance amount => (shown.advance amount).toOption.getD shown
  | .set time => time

/-- What a clock shows after some adjustments, one after the other. -/
def adjusted (start : DateTime) (history : List Adjustment) : DateTime := history.foldl adjust start

/-- The time that a clock was set to last, or the one that it started with. -/
def lastSet (start : DateTime) (history : List Adjustment) : DateTime :=
  (history.filterMap Adjustment.time?).getLastD start

theorem lastSet_append_advance (start : DateTime) (before : List Adjustment) (amount : Duration) :
    start.lastSet (before ++ [.advance amount]) = start.lastSet before := by
  simp [lastSet, Adjustment.time?]

theorem lastSet_append_set (start : DateTime) (before : List Adjustment) (time : DateTime) :
    start.lastSet (before ++ [.set time]) = time := by
  simp [lastSet, Adjustment.time?]

theorem place_adjust_advance (shown : DateTime) (amount : Duration) :
    (shown.adjust (.advance amount)).place = shown.place := by
  rw [adjust]
  cases h : shown.advance amount with
  | error failure => rfl
  | ok later => exact place_of_advance h

/-- A clock stays at the place of the time that it was set to. -/
theorem place_adjusted (start : DateTime) (history : List Adjustment) :
    (start.adjusted history).place = (start.lastSet history).place := by
  induction history using List.reverseRecOn with
  | nil => rfl
  | append_singleton before last ih =>
      rw [adjusted, List.foldl_append, List.foldl_cons, List.foldl_nil]
      cases last with
      | advance amount =>
          rw [place_adjust_advance, lastSet_append_advance]
          exact ih
      | set time => rw [lastSet_append_set, adjust]

/-- At a place with a steady distance from universal time a clock keeps the offset that it was set to. -/
theorem offset_adjusted {start : DateTime} {history : List Adjustment}
    (h : (start.lastSet history).place.IsSteady) :
    (start.adjusted history).offset = (start.lastSet history).offset :=
  offset_eq_of_isSteady h (place_adjusted start history)

end DateTime
end Calendar

/-! ### What a database keeps of a time -/

namespace Database

/-- A time that is read back is as much later as the wall clock was ahead of universal time. -/
theorem instant_keptTime (time : DateTime) : (keptTime time).instant = time.instant + time.offset := by
  have hoffset : (DateTime.utc time.wall).offset = 0 := rfl
  rw [keptTime, DateTime.instant, DateTime.instant, hoffset, Int.sub_zero, Int.sub_add_cancel]
  rfl

variable {db after : Database}

/-- Whatever is done with a database, the entries that it has stay. -/
theorem prefix_perform {operation : Operation} {answer : Answer}
    (h : db.perform operation = .ok (answer, after)) : db.entries <+: after.entries := by
  cases operation with
  | create record =>
      obtain ⟨draft, -, h⟩ := exists_of_bind_eq_ok h
      obtain ⟨⟨entry, made⟩, hc, h⟩ := exists_of_bind_eq_ok h
      cases h
      rw [(createEntry_eq_ok hc).2.1]
      exact List.prefix_append _ _
  | save entry values =>
      obtain ⟨made, hs, h⟩ := exists_of_bind_eq_ok h
      cases h
      have hsame : after.entries = db.entries := by rw [of_saveValues hs]
      exact ⟨[], by rw [hsame, List.append_nil]⟩
  | copy table row =>
      obtain ⟨made, hc, h⟩ := exists_of_bind_eq_ok h
      cases h
      have hcopy : (Repository.database db).insertCopy table row = .ok (.database after) := by
        rw [Repository.insertCopy, hc]
        rfl
      have hsame : after.entries = db.entries := (Repository.copies_insertCopy hcopy).entries_eq
      exact ⟨[], by rw [hsame, List.append_nil]⟩
  | read query =>
      obtain ⟨given, -, h⟩ := exists_of_bind_eq_ok h
      cases h
      exact List.prefix_rfl

theorem prefix_work (db : Database) (operations : List Operation) :
    db.entries <+: (db.work operations).2.entries := by
  induction operations generalizing db with
  | nil => exact List.prefix_rfl
  | cons operation rest ih =>
      cases h : db.perform operation with
      | error failure =>
          rw [work_cons_error h]
          exact ih db
      | ok result =>
          rw [work_cons_ok h]
          exact (prefix_perform h).trans (ih result.2)

/-- An entry is found under its number as soon as it is created, and from then on. -/
theorem getEntry_work_of_createEntry {draft : Draft} {entry : Entry}
    (h : db.createEntry draft = .ok (entry, after)) (hf : fitsStore entry.id = true)
    {later : Database} (hl : later.entries = after.entries) (operations : List Operation) :
    (later.work operations).2.getEntry entry.id = .ok (some entry) := by
  obtain ⟨-, rfl, hnew⟩ := createEntry_eq_ok h
  obtain ⟨added, hadded⟩ := prefix_work later operations
  have hnone : db.entries.find? (·.id = entry.id) = none := by
    rw [List.find?_eq_none]
    exact fun other ho hid => hnew (List.mem_map.mpr ⟨other, ho, by simpa using hid⟩)
  rw [getEntry_of_fits _ hf, find?, ← hadded, hl]
  simp [hnone]

end Database

/-! ### Parts of a run that leave the entries as they are -/

/-- The entries of a run, and whether they stand in a database. -/
def Run.shelf (run : Run) : Bool × List Entry := (run.repository.isDatabase, run.repository.entries)

theorem Run.exists_database_of_shelf {run : Run} {entries : List Entry}
    (h : run.shelf = (true, entries)) :
    ∃ db, run.repository = .database db ∧ db.entries = entries := by
  obtain ⟨hdatabase, hentries⟩ := Prod.mk.inj h
  cases hr : run.repository with
  | ledger l =>
      rw [hr] at hdatabase
      cases hdatabase
  | database db =>
      rw [hr] at hentries
      exact ⟨db, rfl, hentries⟩

namespace Step

variable {α : Type} {step : Step α}

theorem fixes_shelf_of_quiet (h : Quiet step) : Fixes Run.shelf step :=
  h.comp fun outside => (outside.2.1.isDatabase, outside.2.1.entries)

theorem fixes_shelf_of_standing (h : Fixes Run.standing step) : Fixes Run.shelf step :=
  h.comp fun standing => (standing.2.isDatabase, standing.2.entries)

theorem fixes_shelf_log (level : Installation.LogLevel) (event : String)
    (fields : List (String × Value)) : Fixes Run.shelf (Step.log level event fields) :=
  fixes_shelf_of_standing (fixes_log level event fields)

theorem fixes_shelf_enter (event : Event) : Fixes Run.shelf (Step.enter event) :=
  fixes_shelf_of_standing (fixes_enter event)

theorem fixes_shelf_store {change : Repository → Except Failure Repository}
    (h : ∀ before after, change before = .ok after →
      after.isDatabase = before.isDatabase ∧ after.entries = before.entries) :
    Fixes Run.shelf (Step.store change) := by
  intro run
  refine ⟨?_, fun _ _ => trivial⟩
  cases hc : change run.repository with
  | error failure => rw [outcome_store_of_error hc]
  | ok after =>
      rw [outcome_store_of_ok hc]
      exact Prod.ext (h _ _ hc).1 (h _ _ hc).2

end Step

namespace Repository

variable {repository after : Repository}

theorem isDatabase_saveValues {entry : Int} {values : List (Int × String)}
    (h : repository.saveValues entry values = .ok after) :
    after.isDatabase = repository.isDatabase := by
  cases repository with
  | ledger l =>
      cases h
      rfl
  | database db =>
      obtain ⟨made, -, rfl⟩ := exists_of_map_eq_ok h
      rfl

theorem isDatabase_insertCopy {table : String} {row : List (String × String)}
    (h : repository.insertCopy table row = .ok after) :
    after.isDatabase = repository.isDatabase := by
  cases repository with
  | ledger l =>
      cases h
      rfl
  | database db =>
      obtain ⟨made, -, rfl⟩ := exists_of_map_eq_ok h
      rfl

end Repository

namespace Completion

open Step

variable (service : Service)

theorem fixes_shelf_stage (hook : Hook) : Fixes Run.shelf (stage service hook) :=
  fixes_shelf_of_quiet (quiet_stage service hook)

theorem fixes_shelf_saveValues : Fixes Run.shelf saveValues := by
  unfold saveValues
  refine (fixes_ask _).bind fun form _ => ?_
  split
  · exact fixes_pure _
  · split
    · exact fixes_pure _
    · refine Keeps.bind (fixes_shelf_store fun before after h => ?_) fun _ _ => ?_
      · exact ⟨Repository.isDatabase_saveValues h, (Repository.files_saveValues h).entries_eq⟩
      · exact (fixes_shelf_enter _).bind fun _ _ => fixes_shelf_log _ _ _

theorem fixes_shelf_file (saving : Bool) : Fixes Run.shelf (file service saving) := by
  unfold file
  refine (fixes_ask _).bind fun entry _ => (fixes_shelf_enter _).bind fun _ _ => ?_
  cases saving with
  | false => exact fixes_shelf_stage service _
  | true => exact fixes_shelf_saveValues.bind fun _ _ => fixes_shelf_stage service _

theorem fixes_shelf_send (request : Request) (notification : Notification) :
    Fixes Run.shelf (Dispatch.send service request notification) := by
  unfold Dispatch.send
  refine Keeps.bind (P := fun _ => True) (fun _ => ⟨rfl, fun _ _ => trivial⟩) fun result _ => ?_
  cases result with
  | error failure => exact fixes_pure _
  | ok mail => exact fixes_shelf_of_standing (fixes_standing_hand service mail)

theorem fixes_shelf_tell (request : Request) : Fixes Run.shelf (tell service request) := by
  unfold tell
  refine (fixes_view_notify fixes_shelf_log (fixes_shelf_send service request)).bind fun _ _ => ?_
  exact fixes_shelf_of_quiet (quiet_atDesk _)

theorem fixes_shelf_copy (request : Request) : Fixes Run.shelf (copy service request) := by
  have hlast : ∀ table row fields, Fixes Run.shelf (do
      Step.store (·.insertCopy table row)
      Step.enter (.copied table row)
      Step.log .debug "Custom storage row written" fields) := fun table row fields => by
    refine Keeps.bind (fixes_shelf_store fun before after h => ?_) fun _ _ => ?_
    · exact ⟨Repository.isDatabase_insertCopy h, (Repository.copies_insertCopy h).entries_eq⟩
    · exact (fixes_shelf_enter _).bind fun _ _ => fixes_shelf_log _ _ _
  unfold copy
  refine (fixes_ask _).bind fun form _ => ?_
  dsimp only
  split
  · exact fixes_pure _
  · refine Keeps.bind (fixes_shelf_of_quiet (quiet_atDesk _)) fun row _ => ?_
    split
    · exact fixes_pure _
    · refine (fixes_query _).bind fun unknown _ => ?_
      split
      · exact (fixes_shelf_log _ _ _).bind fun _ _ => hlast _ _ _
      · exact hlast _ _ _

/-- What follows once an entry was created leaves the entries as they are. -/
theorem fixes_shelf_answer (request : Request) : Fixes Run.shelf (answer service request) := by
  unfold answer finish
  refine (fixes_shelf_tell service request).bind fun receipt _ => ?_
  refine (fixes_shelf_copy service request).bind fun _ _ => ?_
  refine (fixes_shelf_of_standing fixes_standing_clearUploads).bind fun _ _ => ?_
  refine (fixes_shelf_stage service _).bind fun ended _ => ?_
  split
  · exact fixes_pure _
  · exact (fixes_ask _).bind fun form _ => (fixes_shelf_log _ _ _).bind fun _ _ => fixes_pure _

/-- Completion from the point where an entry has been created, if one is to be. -/
def proceed (request : Request) (saving : Bool) : Step Subject :=
  ((stage service .postSetEntryId).otherwise (file service saving)).endsOr (answer service request)

theorem fixes_shelf_proceed (request : Request) (saving : Bool) :
    Fixes Run.shelf (proceed service request saving) := by
  unfold proceed
  rw [otherwise_endsOr]
  exact fixes_endsOr (fixes_shelf_stage service _)
    (fixes_endsOr (fixes_shelf_file service saving) (fixes_shelf_answer service request))

theorem outcome_conclude (submission : Submission) (request : Request) (run : Run) :
    outcome (conclude service submission request) run =
      outcome (if isSaving service run.desk.form then
        createEntry service submission request >>= fun _ => proceed service request true
      else proceed service request false) run := by
  unfold conclude keep
  rw [bind_endsOr, outcome_bind_of_ok (outcome_ask _ run)]
  cases isSaving service run.desk.form with
  | false => rfl
  | true => exact congrArg (fun step => outcome step run) (bind_endsOr _ _ _)

/-- A completion over a database leaves the entries as they are, or has the database create one from
the draft of the submission. -/
theorem enters_of_conclude (submission : Submission) (request : Request) {run : Run} {db : Database}
    (hdb : run.repository = .database db) :
    let after := (outcome (conclude service submission request) run).2
    after.shelf = run.shelf ∨ ∃ entry made,
      db.createEntry (draft service run.desk.form submission request) = .ok (entry, made) ∧
      after.shelf = (true, made.entries) := by
  intro after
  have hafter : after = (outcome _ run).2 :=
    congrArg Prod.snd (outcome_conclude service submission request run)
  rw [hafter]
  cases isSaving service run.desk.form with
  | false => exact .inl (fixes_shelf_proceed service request false run).1
  | true =>
      rw [if_pos rfl]
      cases hc : db.createEntry (draft service run.desk.form submission request) with
      | error failure =>
          have hrefused : run.repository.createEntry (draft service run.desk.form submission request) =
              .error failure := by
            rw [hdb, Repository.createEntry, hc]
            rfl
          rw [outcome_bind_of_error (createEntry_of_error hrefused)]
          exact .inl rfl
      | ok created =>
          obtain ⟨entry, made⟩ := created
          have hentered : run.repository.createEntry (draft service run.desk.form submission request) =
              .ok (entry, .database made) := by
            rw [hdb, Repository.createEntry, hc]
            rfl
          obtain ⟨entered, ho, hmade, -⟩ := createEntry_of_ok hentered
          have hshelf : entered.shelf = (true, made.entries) := by
            rw [Run.shelf, hmade]
            rfl
          rw [outcome_bind_of_ok ho]
          exact .inr ⟨entry, made, rfl,
            (fixes_shelf_proceed service request true entered).1.trans hshelf⟩

end Completion

namespace Intake

/-- Whatever extensions do, a run over a database leaves the entries as they are, or has the database
create one from the draft of the submission. -/
theorem enters_of_process (service : Service) (submission : Submission) (request : Request)
    {run : Run} {db : Database} (hdb : run.repository = .database db) :
    let after := (outcome (process service submission request) run).2
    after.shelf = run.shelf ∨ ∃ form entry made,
      db.createEntry (Completion.draft service form (withUploads service submission) request) =
        .ok (entry, made) ∧ after.shelf = (true, made.entries) := by
  intro after
  have hquiet : Step.Quiet (Step.firstAnswer (hurdles service submission request)) :=
    Step.quiet_firstAnswer (quiet_hurdles service submission request)
  have hafter : after = (outcome ((Step.firstAnswer (hurdles service submission request)).endsOr
      (Completion.conclude service (withUploads service submission) request)) run).2 := by
    rw [← process_eq]
  have hlook : ∀ middle : Run, middle.outside = run.outside →
      middle.repository = run.repository := fun middle h => congrArg (·.2.1) h
  rw [hafter]
  rcases Step.endsOr_of_fixes hquiet
    (Completion.conclude service (withUploads service submission) request) run with
    hsame | ⟨middle, hmiddle, ho⟩
  · refine .inl ?_
    rw [Run.shelf, hlook _ hsame]
    rfl
  · have hrepository := hlook middle hmiddle
    have hshelf : middle.shelf = run.shelf := by
      rw [Run.shelf, hrepository]
      rfl
    rw [ho]
    rcases Completion.enters_of_conclude service (withUploads service submission) request
      (hrepository.trans hdb) with hsame | ⟨entry, made, hc, hmade⟩
    · exact .inl (hsame.trans hshelf)
    · exact .inr ⟨_, entry, made, hc, hmade⟩

/-- A run over a database adds one entry at most, which the database has created from a draft with the
time that the clock shows, and gives under its number from then on.  The times of the entry are later
than that of the clock by the offset that the clock has then, so that they denote the same instant exactly
if it shows universal time.  At a place with a steady distance from universal time that is so exactly if
the time that the clock was set to last was one of universal time. -/
theorem instants_of_process (service : Service) (submission : Submission) (request : Request)
    (start : DateTime) (history : List Adjustment)
    (hnow : service.renderer.now = start.adjusted history) (run : Run) (db : Database)
    (hdb : run.repository = .database db) :
    ∃ (after : Database) (added : Option Entry),
      (outcome (process service submission request) run).2.repository = .database after ∧
      after.entries = db.entries ++ added.toList ∧
      ∀ entry ∈ added,
        (∃ draft made, draft.createdAt = start.adjusted history ∧
          draft.updatedAt = start.adjusted history ∧ db.createEntry draft = .ok (entry, made)) ∧
        (fitsStore entry.id = true → ∀ operations,
          (after.work operations).2.getEntry entry.id = .ok (some entry)) ∧
        ∀ time ∈ [entry.createdAt, entry.updatedAt],
          time.instant = (start.adjusted history).instant + (start.adjusted history).offset ∧
          (time.instant = (start.adjusted history).instant ↔ (start.adjusted history).offset = 0) ∧
          ((start.lastSet history).place.IsSteady →
            (time.instant = (start.adjusted history).instant ↔
              (start.lastSet history).offset = 0)) := by
  have hshelf : run.shelf = (true, db.entries) := by
    rw [Run.shelf, hdb]
    rfl
  rcases enters_of_process service submission request hdb with
    hsame | ⟨form, entry, made, hc, hmade⟩
  · obtain ⟨after, hafter, hentries⟩ := Run.exists_database_of_shelf (hsame.trans hshelf)
    refine ⟨after, none, hafter, ?_, ?_⟩
    · rw [hentries, Option.toList_none, List.append_nil]
    · rintro _ ⟨⟩
  · obtain ⟨after, hafter, hentries⟩ := Run.exists_database_of_shelf hmade
    obtain ⟨hentry, hrows, -⟩ := Database.createEntry_eq_ok hc
    have hcreated : entry.createdAt = Database.keptTime (start.adjusted history) := by
      rw [hentry, ← hnow]
      rfl
    have hupdated : entry.updatedAt = Database.keptTime (start.adjusted history) := by
      rw [hentry, ← hnow]
      rfl
    refine ⟨after, some entry, hafter, ?_, ?_⟩
    · rw [hentries, hrows, Option.toList_some]
    · rintro _ ⟨⟩
      refine ⟨⟨_, made, hnow, hnow, hc⟩, fun hf operations => ?_, fun time ht => ?_⟩
      · exact Database.getEntry_work_of_createEntry hc hf hentries operations
      · have htime : time = Database.keptTime (start.adjusted history) := by
          rw [hcreated, hupdated] at ht
          simpa using ht
        have hsame : time.instant = (start.adjusted history).instant ↔
            (start.adjusted history).offset = 0 := by
          rw [htime, Database.instant_keptTime]
          omega
        refine ⟨?_, hsame, fun hsteady => ?_⟩
        · rw [htime, Database.instant_keptTime]
        · rw [hsame, DateTime.offset_adjusted hsteady]

/-- A service whose clock shows a time. -/
def doorkeeper (shown : DateTime) : Service :=
  { renderer := { now := shown }, sessionToken := "token" }

theorem now_doorkeeper (shown : DateTime) : (doorkeeper shown).renderer.now = shown := rfl

/-- A list that nobody is put down on. -/
def blankList : Run :=
  let form : Form := {
    definition := { id := 1, pages := [] }
    pages := [{ heading := { id := 1 }, children := [.field { id := 2, label := "Attending" }] }]
    distinct := by decide }
  { desk := { form }, repository := .database {} }

/-- Somebody who wants to be put down. -/
def arrival : Submission := { values := [("2", .text "Ann")], csrfToken := some "token" }

/-- The list once somebody was put down on it. -/
def attend (shown : DateTime) : Run :=
  (outcome (process (doorkeeper shown) arrival {}) blankList).2

/-- A clock that was moved on by a day, could not be moved back, and was set to half past two in the
afternoon of the fifteenth of March 2024. -/
def afternoon : List Adjustment :=
  [.advance microsPerDay, .advance (-1), .set (.utc (WallTime.toMicros ⟨⟨2024, 3, 15⟩, 14, 30, 0, 0⟩))]

theorem instants_of_process_attendance :
    ∃ db entry, (attend (startOf2024.adjusted afternoon)).repository = .database db ∧
      (∀ operations, (db.work operations).2.getEntry 1 = .ok (some entry)) ∧
      entry.createdAt.instant = (startOf2024.adjusted afternoon).instant ∧
      entry.updatedAt.instant = (startOf2024.adjusted afternoon).instant := by
  obtain ⟨db, added, hdb, hentries, hadded⟩ :=
    instants_of_process (doorkeeper (startOf2024.adjusted afternoon)) arrival {} startOf2024 afternoon
      (now_doorkeeper _) blankList {} rfl
  rw [← attend] at hdb
  have hids : (attend (startOf2024.adjusted afternoon)).repository.entries.map Entry.id = [1] := by
    decide +kernel
  have hid : added.toList.map Entry.id = [1] := by
    rwa [hdb, Repository.entries, hentries, List.nil_append] at hids
  cases added with
  | none => cases hid
  | some entry =>
      obtain ⟨-, hfound, htimes⟩ := hadded entry rfl
      have hone : entry.id = 1 := by simpa using hid
      have hcreated := htimes entry.createdAt (by simp)
      have hupdated := htimes entry.updatedAt (by simp)
      have hsteady : (startOf2024.lastSet afternoon).place.IsSteady := Place.isSteady_fixed 0
      have hoffset : (startOf2024.lastSet afternoon).offset = 0 := by decide +kernel
      rw [hone] at hfound
      exact ⟨db, entry, hdb, hfound (by decide), (hcreated.2.2 hsteady).mpr hoffset,
        (hupdated.2.2 hsteady).mpr hoffset⟩

/-- A clock two hours ahead of universal time, five seconds after half past two. -/
def ahead : DateTime :=
  .ahead (7200 * second) (WallTime.toMicros ⟨⟨2024, 3, 15⟩, 14, 30, 5, 0⟩)

/-- The entry of the one who is put down on the list. -/
def attendance (time : DateTime) : Entry where
  id := 1
  formId := 1
  address := ""
  formUrl := ""
  referringUrl := ""
  postId := none
  createdBy := none
  createdAt := time
  updatedAt := time

/-- An entry that is created at half past two by a clock that is two hours ahead is read as one of half
past two in universal time, which is two hours later. -/
theorem instant_attendance_ahead :
    ∃ db, (attend ahead).repository = .database db ∧
      db.getEntry 1 = .ok (some (attendance (.utc ahead.wall))) ∧
      (attendance (.utc ahead.wall)).createdAt.instant ≠ ahead.instant ∧
      (attendance (.utc ahead.wall)).updatedAt.instant ≠ ahead.instant := by
  have hshelf : (attend ahead).shelf = (true, [attendance (.utc ahead.wall)]) := by decide +kernel
  obtain ⟨db, hdb, hentries⟩ := Run.exists_database_of_shelf hshelf
  refine ⟨db, hdb, ?_, by decide +kernel, by decide +kernel⟩
  rw [Database.getEntry_of_fits db rfl, Database.find?, hentries]
  rfl

/-- London, where the clocks are put forward at one in the morning on the last Sunday of March. -/
def london : Zone where
  name := "Europe/London"
  first := ⟨"GMT", 0⟩
  changes := []
  rule := ⟨⟨"GMT", 0⟩, some ⟨⟨"BST", 3600⟩, ⟨.weekday 3 5 0, 3600⟩, ⟨.weekday 10 5 0, 7200⟩⟩⟩

/-- A time in London on the last Sunday of March 2024. -/
def sunday (hour minute : Nat) : DateTime where
  wall := WallTime.toMicros ⟨⟨2024, 3, 31⟩, hour, minute, 0, 0⟩
  place := .within london

/-- A clock that shows universal time when it is started need not do so later. -/
theorem instant_attendance_sunday :
    let shown := (sunday 0 30).adjusted [.advance (7200 * second : Nat)]
    (sunday 0 30).offset = 0 ∧ (attend shown).shelf = (true, [attendance (.utc shown.wall)]) ∧
      (DateTime.utc shown.wall).instant ≠ shown.instant := by decide +kernel

end Intake
end FormIntake
