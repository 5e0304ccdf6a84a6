import Mathlib.Computability.Language
import FormIntake.Proofs.Intake.Stages
import FormIntake.Proofs.Json.Texts

/-! # What a run writes, and in which order

Whatever extensions are registered, a run that ends before its submission is completed changes
nothing outside, and what a completion writes is the beginning of a sequence in the order of its
stages (`Completion.course`): it creates the entry, moves uploads, saves values, sends notifications
in the order of the definition, adds the copy, and lets go of uploads, each of these once at most
(`Intake.writes_of_process`).

The sequences that a part of a run can write are a language; of parts one after the other they are
the product of the languages (`Step.Adds.bind`). -/

namespace FormIntake

open Definition Effect

/-! ### What parts of a run write -/

/-- What a run has written, and the uploads that are kept for the visitor. -/
def Run.trail (run : Run) : List Event × List String := (run.writes, run.staged)

namespace Step

variable {α β : Type}

/-- A part of a run writes nothing and lets go of no uploads. -/
abbrev Silent (step : Step α) : Prop := Fixes Run.trail step

theorem silent_of_quiet {step : Step α} (h : Quiet step) : Silent step :=
  h.comp fun outside => (outside.1, outside.2.2)

theorem silent_store (change : Repository → Except Failure Repository) :
    Silent (Step.store change) :=
  fixes_get.bind fun _ _ => (fixes_lift _).bind fun _ _ => fixes_modify fun _ => rfl

theorem silent_storeNew (change : Repository → Except Failure (α × Repository)) :
    Silent (Step.storeNew change) := by
  refine fixes_get.bind fun run _ => (fixes_lift _).bind fun made _ => ?_
  refine Keeps.bind (fixes_modify ?_) fun _ _ => fixes_pure _
  exact fun _ => rfl

/-- From a run on, a part of it writes a sequence of the language, and lets go of no uploads.  Where
the part fails, or does not let the run go on, it has written the beginning of one. -/
def Adds (writes : Language Event) (goesOn : α → Prop) (step : Step α) (run : Run) : Prop :=
  ∃ added, (outcome step run).2.writes = run.writes ++ added ∧
    (∃ all ∈ writes, added <+: all) ∧
    ∀ a, (outcome step run).1 = .ok a → goesOn a →
      added ∈ writes ∧ (outcome step run).2.staged = run.staged

/-- The part lets the run go on whatever it gives. -/
abbrev Writes (writes : Language Event) (step : Step α) (run : Run) : Prop :=
  Adds writes (fun _ => True) step run

/-- The part is the last one. -/
abbrev Begins (writes : Language Event) (step : Step α) (run : Run) : Prop :=
  Adds writes (fun _ => False) step run

section adds

variable {V W : Language Event} {run : Run}

theorem adds_one {goesOn : α → Prop} {step : Step α} (h : Silent step) (run : Run) :
    Adds 1 goesOn step run := by
  have hw : (outcome step run).2.writes = run.writes := congrArg Prod.fst (h run).1
  have hs : (outcome step run).2.staged = run.staged := congrArg Prod.snd (h run).1
  refine ⟨[], ?_, ⟨[], rfl, List.prefix_rfl⟩, fun _ _ _ => ⟨rfl, hs⟩⟩
  rw [hw, List.append_nil]

theorem writes_enter {event : Event} (h : event.isWrite = true) (run : Run) :
    Writes {[event]} (Step.enter event) run := by
  refine ⟨[event], ?_, ⟨[event], rfl, List.prefix_rfl⟩, fun _ _ _ => ⟨rfl, rfl⟩⟩
  have hw := writes_append run event
  rwa [List.filter_cons_of_pos (by simp [h]), List.filter_nil] at hw

theorem Adds.mono {goesOn : α → Prop} {step : Step α} (h : Adds V goesOn step run)
    (hvw : ∀ writes ∈ V, writes ∈ W) : Adds W goesOn step run := by
  obtain ⟨added, hw, ⟨all, ha, hp⟩, hok⟩ := h
  refine ⟨added, hw, ⟨all, hvw all ha, hp⟩, fun a hr hg => ?_⟩
  obtain ⟨hm, hs⟩ := hok a hr hg
  exact ⟨hvw added hm, hs⟩

/-- Parts one after the other write sequences one after the other. -/
theorem Adds.bind {goesOn : β → Prop} {step : Step α} {next : α → Step β} (h : Writes V step run)
    (hn : ∀ a after, outcome step run = (.ok a, after) → after.staged = run.staged →
      Adds W goesOn (next a) after)
    (hW : ∃ w, w ∈ W) : Adds (V * W) goesOn (step >>= next) run := by
  obtain ⟨added, hw, ⟨all, ha, hp⟩, hok⟩ := h
  cases ho : outcome step run with
  | mk result after =>
      rw [ho] at hw hok
      cases result with
      | error failure =>
          rw [Adds, outcome_bind_of_error ho]
          obtain ⟨w, hm⟩ := hW
          refine ⟨added, hw, ⟨all ++ w, Language.append_mem_mul ha hm, ?_⟩, ?_⟩
          · exact hp.trans (List.prefix_append _ _)
          · rintro _ ⟨⟩
      | ok a =>
          obtain ⟨hadded, hs⟩ := hok a rfl trivial
          obtain ⟨more, hm, ⟨rest, hr, hq⟩, hgo⟩ := hn a after ho hs
          rw [Adds, outcome_bind_of_ok ho]
          refine ⟨added ++ more, ?_, ⟨added ++ rest, Language.append_mem_mul hadded hr, ?_⟩, ?_⟩
          · rw [hm, hw, List.append_assoc]
          · exact (List.prefix_append_right_inj added).mpr hq
          · intro b hb hg
            obtain ⟨hmore, hst⟩ := hgo b hb hg
            exact ⟨Language.append_mem_mul hadded hmore, hst.trans hs⟩

/-- A silent part in front. -/
theorem Adds.behind {goesOn : β → Prop} {step : Step α} {next : α → Step β} (h : Silent step)
    (hn : ∀ a after, outcome step run = (.ok a, after) → after.staged = run.staged →
      Adds W goesOn (next a) after)
    (hW : ∃ w, w ∈ W) : Adds W goesOn (step >>= next) run := by
  have hb := Adds.bind (adds_one h run) hn hW
  rwa [one_mul] at hb

/-- A silent part at the end. -/
theorem Adds.before {goesOn : β → Prop} {step : Step α} {next : α → Step β}
    (h : Writes V step run) (hn : ∀ a, Silent (next a)) : Adds V goesOn (step >>= next) run := by
  have hone : ∀ a after, Adds 1 goesOn (next a) after := fun a => adds_one (hn a)
  have hb := Adds.bind h (fun a after _ _ => hone a after) ⟨[], rfl⟩
  rwa [mul_one] at hb

/-- What goes on with something about the form. -/
theorem adds_ask_bind {goesOn : β → Prop} {look : Form → α} {next : α → Step β}
    (h : Adds W goesOn (next (look run.desk.form)) run) :
    Adds W goesOn (Step.ask look >>= next) run := by
  rwa [Adds, outcome_bind_of_ok (outcome_ask look run)]

theorem adds_otherwise {first second : Step (Option Subject)} (h : Silent first)
    (hs : ∀ after, Adds W (· = none) second after) (hW : ∃ w, w ∈ W) :
    Adds W (· = none) (first.otherwise second) run := by
  refine Adds.behind h (fun answer after _ _ => ?_) hW
  cases answer with
  | none => exact hs after
  | some subject =>
      obtain ⟨w, hm⟩ := hW
      refine ⟨[], (List.append_nil _).symm, ⟨w, hm, List.nil_prefix⟩, ?_⟩
      rintro _ ⟨⟩ ⟨⟩

/-- What ends a run, an answer or a failure, is what comes of it. -/
theorem outcome_endsOr_of_ended {ended : Step (Option Subject)} (further : Step Subject)
    {result : Except Failure Subject} (h : (outcome ended run).1 = result.map some) :
    outcome (ended.endsOr further) run = (result, (outcome ended run).2) := by
  have ho : outcome ended run = (result.map some, (outcome ended run).2) := Prod.ext h rfl
  cases result with
  | error failure => exact outcome_bind_of_error ho
  | ok subject =>
      rw [Step.endsOr, outcome_bind_of_ok ho]
      rfl

/-- What a run that is not ended goes on with comes behind. -/
theorem Adds.endsOr {ended : Step (Option Subject)} {further : Step Subject}
    (h : Adds V (· = none) ended run)
    (hf : ∀ after, outcome ended run = (.ok none, after) → after.staged = run.staged →
      Begins W further after)
    (hW : ∃ w, w ∈ W) : Begins (V * W) (ended.endsOr further) run := by
  obtain ⟨added, hw, ⟨all, ha, hp⟩, hok⟩ := h
  have hend : ∃ whole ∈ V * W, added <+: whole := by
    obtain ⟨w, hm⟩ := hW
    exact ⟨all ++ w, Language.append_mem_mul ha hm, hp.trans (List.prefix_append _ _)⟩
  cases ho : outcome ended run with
  | mk result after =>
      rw [ho] at hw hok
      match result, ho, hok with
      | .error failure, ho, _ =>
          rw [Begins, Adds, Step.endsOr, outcome_bind_of_error ho]
          exact ⟨added, hw, hend, fun _ _ hg => hg.elim⟩
      | .ok (some subject), ho, _ =>
          rw [Begins, Adds, Step.endsOr, outcome_bind_of_ok ho]
          exact ⟨added, hw, hend, fun _ _ hg => hg.elim⟩
      | .ok none, ho, hok =>
          obtain ⟨hadded, hs⟩ := hok none rfl rfl
          obtain ⟨more, hm, ⟨rest, hr, hq⟩, -⟩ := hf after ho hs
          rw [Begins, Adds, Step.endsOr, outcome_bind_of_ok ho]
          refine ⟨added ++ more, ?_, ⟨added ++ rest, Language.append_mem_mul hadded hr, ?_⟩, ?_⟩
          · rw [hm, hw, List.append_assoc]
          · exact (List.prefix_append_right_inj added).mpr hq
          · exact fun _ _ hg => hg.elim

end adds

end Step

/-! ### The course of a completion -/

namespace Completion

/-- One event of a family. -/
def anyOf {ι : Type} (event : ι → Event) : Language Event := {writes | ∃ i, writes = [event i]}

/-- The entry, if entries of the form are kept. -/
def creating (service : Service) (form : Form) : Language Event :=
  if isSaving service form then {[.createdEntry form.id]} else 1

/-- The uploads that are moved to where they stay. -/
def moving : Language Event := anyOf .movedUploads

/-- The values of the entry, which there are only where an entry is kept. -/
def saving (isSaving : Bool) : Language Event :=
  if isSaving then 1 + anyOf fun kept : Int × List (Int × String) => .savedValues kept.1 kept.2
  else 1

/-- One notification.  Its logic, or the mail server, can keep it from being sent. -/
def mailing (notification : Notification) : Language Event :=
  if notification.enabled then
    1 + anyOf fun mail : String × String × List String =>
      .sent notification.name mail.1 mail.2.1 mail.2.2
  else 1

/-- Notifications in their order, each once at most. -/
def sending (notifications : List Notification) : Language Event :=
  (notifications.map mailing).prod

/-- Whether there is anything to copy: copies are asked for, and a column has a name. -/
def hasCopy (copy : CopyTable) : Bool := copy.isActive && copy.columns.any (·.name ≠ "")

/-- The row of the copy. -/
def copying (copy : CopyTable) : Language Event :=
  if hasCopy copy then anyOf (.copied copy.table) else 1

/-- Uploads that are kept for the visitor, and are let go of. -/
def clearing (staged : List String) : Language Event :=
  1 + anyOf fun key : {key // key ∈ staged} => .clearedUploads key

/-- All that a completion writes, in order.  Extensions can change the form between the stages, so
each of them goes by the form as it is by then: `accepted` when every stage before completion is
passed, `kept` when entry and values are kept, `told` when the confirmation is rendered. -/
def course (service : Service) (staged : List String) (accepted kept told : Form) :
    Language Event :=
  creating service accepted * (moving * saving (isSaving service accepted)) *
    (sending kept.definition.notifications * (copying told.definition.copy * clearing staged))

/-! ### Sequences that there are -/

theorem nil_mem_one_add (W : Language Event) : [] ∈ 1 + W := .inl rfl

theorem nil_mem_saving (isSaving : Bool) : [] ∈ saving isSaving := by
  unfold saving
  split
  · exact nil_mem_one_add _
  · rfl

theorem nil_mem_mailing (notification : Notification) : [] ∈ mailing notification := by
  unfold mailing
  split
  · exact nil_mem_one_add _
  · rfl

theorem nil_mem_sending : ∀ notifications : List Notification, [] ∈ sending notifications
  | [] => rfl
  | notification :: rest =>
    Language.append_mem_mul (nil_mem_mailing notification) (nil_mem_sending rest)

theorem exists_mem_copying (copy : CopyTable) : ∃ writes, writes ∈ copying copy := by
  unfold copying
  split
  · exact ⟨_, [], rfl⟩
  · exact ⟨[], rfl⟩

theorem exists_mem_mul {V W : Language Event} (hV : ∃ w, w ∈ V) (hW : ∃ w, w ∈ W) :
    ∃ w, w ∈ V * W := by
  obtain ⟨v, hv⟩ := hV
  obtain ⟨w, hw⟩ := hW
  exact ⟨v ++ w, Language.append_mem_mul hv hw⟩

theorem exists_mem_filing (isSaving : Bool) : ∃ writes, writes ∈ moving * saving isSaving :=
  exists_mem_mul ⟨_, none, rfl⟩ ⟨[], nil_mem_saving isSaving⟩

theorem exists_mem_copying_mul_clearing (copy : CopyTable) (staged : List String) :
    ∃ writes, writes ∈ copying copy * clearing staged :=
  exists_mem_mul (exists_mem_copying copy) ⟨[], nil_mem_one_add _⟩

theorem exists_mem_telling (kept told : Form) (staged : List String) :
    ∃ writes, writes ∈ sending kept.definition.notifications *
      (copying told.definition.copy * clearing staged) :=
  exists_mem_mul ⟨[], nil_mem_sending _⟩ (exists_mem_copying_mul_clearing _ _)

/-! ### What the stages write -/

open Step

variable (service : Service)

theorem writes_createEntry (submission : Submission) (request : Request) (run : Run) :
    Writes {[.createdEntry run.desk.form.id]} (createEntry service submission request) run := by
  unfold createEntry
  refine adds_ask_bind (Adds.behind (silent_storeNew _) (fun entry after _ _ => ?_) ⟨_, rfl⟩)
  refine Adds.before (writes_enter rfl after) fun _ => ?_
  have hrest : Silent (do
      Step.change fun form => { form with entryId := some entry.id }
      Step.log .info "Entry created" (logFields (← Step.ask id))) := by
    refine (silent_of_quiet (quiet_change _)).bind fun _ _ => ?_
    exact (fixes_ask _).bind fun _ _ => silent_of_quiet (quiet_log _ _ _)
  refine fixes_get.bind fun run _ => ?_
  split
  · exact (silent_of_quiet (quiet_log _ _ _)).bind fun _ _ => hrest
  · exact hrest

theorem writes_saveValues (run : Run) : Writes (saving true) saveValues run := by
  unfold saveValues
  refine adds_ask_bind ?_
  split
  · exact (adds_one (fixes_pure _) run).mono fun _ => .inl
  · next entry _ =>
    split
    · exact (adds_one (fixes_pure _) run).mono fun _ => .inl
    · refine Adds.behind (silent_store _) (fun _ after _ _ => ?_) ⟨[], nil_mem_saving true⟩
      refine Adds.before ((writes_enter rfl after).mono ?_) fun _ => silent_of_quiet (quiet_log _ _ _)
      rintro _ rfl
      exact .inr ⟨(entry, _), rfl⟩

theorem adds_file (isSaving : Bool) (run : Run) :
    Adds (moving * saving isSaving) (· = none) (file service isSaving) run := by
  unfold file
  refine adds_ask_bind (Adds.bind ((writes_enter rfl run).mono ?_) (fun _ moved _ _ => ?_)
    ⟨[], nil_mem_saving isSaving⟩)
  · rintro _ rfl
    exact ⟨_, rfl⟩
  · cases isSaving with
    | true =>
        exact Adds.before (writes_saveValues moved) fun _ => silent_of_quiet (quiet_stage service _)
    | false => exact adds_one (silent_of_quiet (quiet_stage service _)) moved

theorem adds_keep (submission : Submission) (request : Request) (run : Run) :
    Adds (creating service run.desk.form * (moving * saving (isSaving service run.desk.form)))
      (· = none) (keep service submission request) run := by
  have hrest : ∀ isSaving after, Adds (moving * saving isSaving) (· = none)
      ((stage service .postSetEntryId).otherwise (file service isSaving)) after := fun isSaving _ =>
    adds_otherwise (silent_of_quiet (quiet_stage service _)) (adds_file service isSaving)
      (exists_mem_filing isSaving)
  unfold keep
  refine adds_ask_bind ?_
  unfold creating
  cases isSaving service run.desk.form with
  | true =>
      refine Adds.bind (writes_createEntry service submission request run) ?_ (exists_mem_filing true)
      exact fun _ after _ _ => hrest true after
  | false =>
      have h := hrest false run
      rwa [← one_mul (moving * saving false)] at h

/-- Rendering leaves the name of a notification as it is. -/
theorem keeps_mail (request : Request) (notification : Notification) :
    Keeps (fun _ => ()) (fun mail => mail.notification.name = notification.name)
      (Dispatch.mail service request notification) := by
  have hany : ∀ {α : Type} (work : Work α), Fixes (fun _ => ()) work :=
    fun _ _ => ⟨rfl, fun _ _ => trivial⟩
  unfold Dispatch.mail
  refine (hany _).bind fun subject _ => (hany _).bind fun body _ => ?_
  exact (hany _).bind fun recipients _ => keeps_pure rfl

theorem keeps_attempt {α : Type} {P : α → Prop} {work : Work α} (h : Keeps (fun _ => ()) P work) :
    Keeps Run.trail (fun result => ∀ a, result = .ok a → P a) (Step.attempt work) := by
  intro run
  refine ⟨rfl, ?_⟩
  rintro _ ⟨⟩ a ha
  exact (h run.desk).2 a ha

theorem keeps_atDesk {α : Type} {P : α → Prop} {work : Work α} (h : Keeps (fun _ => ()) P work) :
    Keeps Run.trail P (Step.atDesk work) := fun run => ⟨rfl, fun a ha => (h run.desk).2 a ha⟩

/-- A notification can write nothing. -/
theorem writes_of_silent {α : Type} {step : Step α} (h : Silent step) (notification : Notification)
    (run : Run) : Writes (mailing notification) step run :=
  (adds_one h run).mono (by rintro _ rfl; exact nil_mem_mailing notification)

theorem writes_send (request : Request) {notification : Notification}
    (he : notification.enabled = true) (run : Run) :
    Writes (mailing notification) (Dispatch.send service request notification) run := by
  have hmail := keeps_attempt (keeps_mail service request notification)
  unfold Dispatch.send
  refine Adds.behind (hmail.mono fun _ _ => trivial) (fun result after ho _ => ?_)
    ⟨[], nil_mem_mailing notification⟩
  have hr := (hmail run).2 result (by rw [ho])
  cases result with
  | error failure => exact writes_of_silent (fixes_pure _) notification after
  | ok mail =>
      have hname : mail.notification.name = notification.name := hr mail rfl
      unfold Dispatch.hand
      refine Adds.behind (fixes_modify fun _ => rfl) (fun _ handed _ _ => ?_)
        ⟨[], nil_mem_mailing notification⟩
      split
      · exact writes_of_silent (fixes_pure _) notification handed
      · refine Adds.before ((writes_enter rfl handed).mono ?_) fun _ => fixes_pure _
        rintro _ rfl
        rw [mailing, if_pos he]
        exact .inr ⟨(mail.subject, mail.body, mail.notification.recipients), by
          rw [Mail.event, hname]⟩

theorem writes_deliver (request : Request) (notification : Notification) (run : Run) :
    Writes (mailing notification) (Dispatch.deliver service request notification) run := by
  have hlog := fun level event fields => silent_of_quiet (quiet_log level event fields)
  unfold Dispatch.deliver
  refine adds_ask_bind ?_
  by_cases he : notification.enabled
  · simp only [he, Bool.not_true, Bool.false_eq_true, if_false]
    split
    · exact writes_of_silent ((hlog _ _ _).bind fun _ _ => fixes_pure _) notification run
    · refine Adds.before (writes_send service request he run) fun result => ?_
      split
      · exact (hlog _ _ _).bind fun _ _ => fixes_pure _
      · exact (hlog _ _ _).bind fun _ _ => fixes_pure _
  · simp only [he]
    exact writes_of_silent (fixes_pure _) notification run

theorem writes_deliverAll (request : Request) (notifications : List Notification) (run : Run) :
    Writes (sending notifications) (notifications.mapM (Dispatch.deliver service request)) run := by
  induction notifications generalizing run with
  | nil => exact adds_one (fixes_pure []) run
  | cons notification rest ih =>
      rw [List.mapM_cons]
      refine Adds.bind (writes_deliver service request notification run) (fun _ after _ _ => ?_)
        ⟨[], nil_mem_sending rest⟩
      exact Adds.before (ih after) fun _ => fixes_pure _

theorem writes_tell (request : Request) (run : Run) :
    Writes (sending run.desk.form.definition.notifications) (tell service request) run := by
  unfold tell notify Dispatch.all
  rw [bind_assoc, bind_assoc]
  refine adds_ask_bind (Adds.before (writes_deliverAll service request _ run) fun _ => ?_)
  refine Keeps.bind ((fixes_ask _).bind fun _ _ => silent_of_quiet (quiet_log _ _ _)) fun _ _ => ?_
  exact silent_of_quiet (quiet_atDesk _)

/-! ### The copy, and what is let go of -/

/-- A copied row has cells exactly if a column has a name. -/
theorem keeps_copyRow (request : Request) (columns : List Column) :
    Keeps (fun _ => ()) (fun row => row.isEmpty = !columns.any (·.name ≠ ""))
      (copyRow service request columns) := by
  unfold copyRow
  refine (keeps_length_mapM (fun _ _ => ⟨rfl, fun _ _ => trivial⟩) _).bind fun cells hc => ?_
  refine keeps_pure ?_
  have hcells : cells = [] ↔ columns.filter (·.name ≠ "") = [] := by
    rw [← List.length_eq_zero_iff, hc, List.length_eq_zero_iff]
  rw [Bool.eq_iff_iff, List.isEmpty_iff, Assoc.ofList_eq_nil, hcells, List.filter_eq_nil_iff]
  simp

theorem writes_copy (request : Request) (run : Run) :
    Writes (copying run.desk.form.definition.copy) (copy service request) run := by
  have hlog := fun level event fields => silent_of_quiet (quiet_log level event fields)
  unfold copy
  refine adds_ask_bind ?_
  dsimp only [id]
  generalize run.desk.form.definition.copy = target
  by_cases ha : target.isActive
  · have hrow := keeps_atDesk (keeps_copyRow service request target.columns)
    simp only [ha, Bool.not_true, Bool.false_eq_true, if_false]
    refine Adds.behind (hrow.mono fun _ _ => trivial) (fun row after ho _ => ?_)
      (exists_mem_copying target)
    have hr : row.isEmpty = !target.columns.any (·.name ≠ "") := (hrow run).2 row (by rw [ho])
    have hcopy : hasCopy target = !row.isEmpty := by rw [hasCopy, ha, hr, Bool.not_not, Bool.true_and]
    by_cases he : row.isEmpty
    · rw [if_pos he, copying, hcopy, he]
      exact adds_one (fixes_pure _) after
    · have hin : [.copied target.table row] ∈ copying target := by
        rw [copying, hcopy, if_pos (by simp [he])]
        exact ⟨row, rfl⟩
      have hlast : ∀ fields after, Writes (copying target) (do
          Step.store (·.insertCopy target.table row)
          Step.enter (.copied target.table row)
          Step.log .debug "Custom storage row written" fields) after := fun fields after =>
        Adds.behind (silent_store _) (fun _ stored _ _ => Adds.before
          ((writes_enter rfl stored).mono (by rintro _ rfl; exact hin))
          fun _ => hlog _ _ _) ⟨_, hin⟩
      rw [if_neg he]
      refine Adds.behind (fixes_query _) (fun unknown asked _ _ => ?_) ⟨_, hin⟩
      split
      · exact Adds.behind (hlog _ _ _) (fun _ logged _ _ => hlast _ logged) ⟨_, hin⟩
      · exact hlast _ asked
  · have hcopy : hasCopy target = false := by rw [hasCopy, eq_false_of_ne_true ha, Bool.false_and]
    simp only [ha, copying, hcopy]
    exact adds_one (fixes_pure _) run

theorem outcome_clearUploads (run : Run) :
    outcome clearUploads run = (.ok (), if run.staged.contains run.desk.form.sessionKey then
      { run with
        staged := run.staged.filter (· ≠ run.desk.form.sessionKey)
        journal := run.journal ++ [.clearedUploads run.desk.form.sessionKey] } else run) := by
  unfold clearUploads
  rw [outcome_bind_of_ok (outcome_ask _ run),
    outcome_bind_of_ok (show outcome (get : Step Run) run = (.ok run, run) from rfl)]
  split <;> rfl

theorem begins_clearUploads {α : Type} {last : Step α} (h : Silent last) (run : Run) :
    Begins (clearing run.staged) (do clearUploads; last) run := by
  have ho := outcome_clearUploads run
  by_cases hc : run.staged.contains run.desk.form.sessionKey
  · rw [if_pos hc] at ho
    rw [Begins, Adds, outcome_bind_of_ok ho]
    have hm : [.clearedUploads run.desk.form.sessionKey] ∈ clearing run.staged :=
      .inr ⟨⟨_, List.contains_iff_mem.mp hc⟩, rfl⟩
    refine ⟨_, (congrArg Prod.fst (h _).1).trans (writes_append run _), ⟨_, hm, List.prefix_rfl⟩, ?_⟩
    exact fun _ _ hg => hg.elim
  · rw [if_neg hc] at ho
    rw [Begins, Adds, outcome_bind_of_ok ho]
    exact (adds_one h run).mono fun _ => .inl

theorem silent_finish (receipt : Receipt) : Silent (finish service receipt) := by
  refine (silent_of_quiet (quiet_stage service _)).bind fun ended _ => ?_
  split
  · exact fixes_pure _
  · refine (fixes_ask _).bind fun form _ => ?_
    exact (silent_of_quiet (quiet_log _ _ _)).bind fun _ _ => fixes_pure _

/-- Whatever extensions do, a completion writes the beginning of its course. -/
theorem begins_conclude (submission : Submission) (request : Request) (run : Run) :
    let kept := (outcome (keep service submission request) run).2
    let told := (outcome (tell service request) kept).2
    Begins (course service run.staged run.desk.form kept.desk.form told.desk.form)
      (conclude service submission request) run := by
  intro kept told
  unfold conclude answer course
  refine Adds.endsOr (adds_keep service submission request run) (fun after ho hs => ?_)
    (exists_mem_telling _ _ _)
  have hkept : kept = after := congrArg Prod.snd ho
  rw [← hs, hkept]
  refine Adds.bind (writes_tell service request after) (fun receipt delivered ht hd => ?_)
    (exists_mem_copying_mul_clearing _ _)
  have htold : told = delivered := by
    rw [← hkept] at ht
    exact congrArg Prod.snd ht
  rw [← hd, htold]
  refine Adds.bind (writes_copy service request delivered) (fun _ copied _ hc => ?_)
    ⟨_, nil_mem_one_add _⟩
  rw [← hc]
  exact begins_clearUploads (silent_finish service receipt) copied

end Completion

namespace Intake

/-- What a run has written after it is the beginning of the course of a completion.  Where a stage
before completion has ended the run, with an answer or with a failure, nothing is written, and neither
the repository nor the uploads that are kept for the visitor are changed. -/
theorem writes_of_process (service : Service) (submission : Submission) (request : Request)
    (run : Run) :
    let whole := withUploads service submission
    let result := outcome (process service submission request) run
    let admitted := outcome (Step.firstAnswer (hurdles service submission request)) run
    let kept := (outcome (Completion.keep service whole request) admitted.2).2
    let told := (outcome (Completion.tell service request) kept).2
    ∃ writes, result.2.writes = run.writes ++ writes ∧
      (∃ course ∈ Completion.course service run.staged admitted.2.desk.form kept.desk.form
        told.desk.form, writes <+: course) ∧
      ∀ ended : Except Failure Subject, admitted.1 = ended.map some →
        result.1 = ended ∧ writes = [] ∧
          result.2.repository = run.repository ∧ result.2.staged = run.staged := by
  intro whole result admitted kept told
  have hquiet : Step.Quiet (Step.firstAnswer (hurdles service submission request)) :=
    Step.quiet_firstAnswer (quiet_hurdles service submission request)
  have hout : admitted.2.outside = run.outside := (hquiet run).1
  have hw : admitted.2.writes = run.writes := congrArg Prod.fst hout
  have hr : admitted.2.repository = run.repository := congrArg (·.2.1) hout
  have hs : admitted.2.staged = run.staged := congrArg (·.2.2) hout
  have hresult : result = outcome ((Step.firstAnswer (hurdles service submission request)).endsOr
      (Completion.conclude service whole request)) run := by
    rw [← process_eq]
  obtain ⟨writes, hwrites, hcourse, -⟩ :=
    Completion.begins_conclude service whole request admitted.2
  rw [hs] at hcourse
  by_cases hnone : admitted.1 = .ok none
  · have ho : outcome (Step.firstAnswer (hurdles service submission request)) run =
        (.ok none, admitted.2) := Prod.ext hnone rfl
    refine ⟨writes, ?_, hcourse, fun ended he => ?_⟩
    · rw [hresult, Step.endsOr, outcome_bind_of_ok ho, ← hw]
      exact hwrites
    · rw [hnone] at he
      cases ended <;> cases he
  · have hended : ∀ ended : Except Failure Subject, admitted.1 = ended.map some →
        result = (ended, admitted.2) := fun ended he => by
      rw [hresult, Step.outcome_endsOr_of_ended _ he]
    obtain ⟨ended, he⟩ : ∃ ended : Except Failure Subject, admitted.1 = ended.map some := by
      match ha : admitted.1 with
      | .error failure => exact ⟨.error failure, rfl⟩
      | .ok (some subject) => exact ⟨.ok subject, rfl⟩
      | .ok none => exact absurd ha hnone
    obtain ⟨course, hm, -⟩ := hcourse
    refine ⟨[], ?_, ⟨course, hm, List.nil_prefix⟩, fun other ho => ?_⟩
    · rw [hended ended he, List.append_nil]
      exact hw
    · rw [hended other ho]
      exact ⟨rfl, rfl, hr, hs⟩

/-- A form that is accepted is written down in the order of the course. -/
example :
    let form : Form := {
      definition := {
        id := 1, pages := []
        notifications := [{ name := "office" }, { name := "archive", enabled := false }] }
      pages := [{ heading := { id := 1 }, children := [.field { id := 2 }] }]
      distinct := by decide }
    (outcome (process { sessionToken := "token" }
        { values := [("2", .text "Ann")], csrfToken := some "token" } {})
      { desk := { form }, repository := .ledger {}, staged := ["formflow_1"] }).2.writes =
        [.createdEntry 1, .movedUploads (some 1), .savedValues 1 [(2, "Ann")],
          .sent "office" "" "" [], .clearedUploads "formflow_1"] := by decide +kernel

end Intake
end FormIntake
