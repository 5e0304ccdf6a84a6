import FormIntake.Proofs.Intake.Admission
import FormIntake.Proofs.Intake.Gain

/-! # Calls one after the other

Many submissions are processed against one repository, one after the other: to one form and to
others, by any visitors, whatever comes of each.  What one call adds is at most one entry, and only
if its form has room for it (`Call.Plain.enters_of_serve`).  So the count of a form's entries stays
below its limit (`Call.count_serveAll_le`), and a form that takes one entry from each user has one
of each at most (`Call.countP_serveAll_le_one`). -/

namespace FormIntake

open Definition Effect

/-- A call to process a submission: all that it depends on beside the repository. -/
structure Call where
  service : Service
  form : Form
  submission : Submission
  request : Request
  /-- The keys under which uploads are kept for the visitor. -/
  staged : List String := []

namespace Call

/-- What an entry of a call would keep of the address that it came from. -/
def keptAddress (call : Call) : String :=
  if call.service.settings.saveAddresses then
    Completion.cut call.request.address Completion.maxAddress
  else ""

/-- The repository after a call. -/
def serve (repository : Repository) (call : Call) : Repository :=
  ((Intake.process call.service call.submission call.request).perform
    { desk := { form := call.form }, repository, staged := call.staged }).2.repository

/-- The repository after some calls, one after the other. -/
def serveAll (repository : Repository) (calls : List Call) : Repository :=
  calls.foldl serve repository

/-- There are no extensions, and the visitor may not bypass the gates. -/
structure Plain (call : Call) : Prop where
  idle : call.service.bus.Idle
  mayBypass_eq_false : call.service.mayBypass = false

/-! ### One call -/

/-- One call adds one entry at most, and only if its form has room for it. -/
theorem Plain.enters_of_serve {call : Call} (h : call.Plain) (repository : Repository) :
    ((serve repository call).entries = repository.entries ∧
      (serve repository call).countEntries = repository.countEntries) ∨
    ∃ draft entry made,
      draft.formId = call.form.id ∧ draft.createdBy = call.request.user.map User.id ∧
      draft.address = call.keptAddress ∧ repository.Enters draft entry made ∧
      (serve repository call).entries = made.entries ∧
      (serve repository call).countEntries = made.countEntries ∧
      Gate.Admits repository call.form call.request := by
  let run : Run := { desk := { form := call.form }, repository, staged := call.staged }
  by_cases heffect : Intake.HasEffect run
      ((Intake.process call.service call.submission call.request).perform run)
  · obtain ⟨checked, hreach⟩ :=
      Intake.exists_reaches h.idle call.submission call.request run heffect
    obtain ⟨known, admitted, hknown, hadmit⟩ := hreach.checkGates_eq
    obtain ⟨result, kept, hk, -, hcopies, -⟩ := Completion.exists_kept h.idle
      (Intake.withUploads call.service call.submission) call.request checked
    rw [← hreach.outcome_eq] at hcopies
    have hentries : (serve repository call).entries = kept.repository.entries := hcopies.entries_eq
    have hcount : (serve repository call).countEntries = kept.repository.countEntries :=
      hcopies.count_eq
    rw [hentries, hcount]
    rcases hk.enters with hsame | ⟨hsaving, entry, made, henters, hmade⟩
    · rw [hreach.repository_eq] at hsame
      exact .inl hsame
    · have hid : checked.desk.form.id = call.form.id := congrArg FormDefinition.id hreach.definition_eq
      have hdesk : known.desk = run.desk := congrArg Prod.fst hknown
      have hstored : known.repository = repository := congrArg Prod.snd hknown
      have hknowing : Completion.isSaving call.service known.desk.form = true := by
        rw [← hsaving, Completion.isSaving, Completion.isSaving, hreach.definition_eq, hdesk]
      have hadmits := Intake.admits_of_checkGates h.idle h.mayBypass_eq_false hknowing hadmit
      rw [hreach.repository_eq] at henters
      rw [hdesk, hstored] at hadmits
      exact .inr ⟨_, entry, made, hid, rfl, rfl, henters, hmade.1, hmade.2, hadmits⟩
  · have hsame : serve repository call = repository := not_not.mp (not_or.mp heffect).2
    rw [hsame]
    exact .inl ⟨rfl, rfl⟩

/-- A call does not take a form's count of entries above its limit. -/
theorem Plain.count_serve_le {call : Call} (h : call.Plain) {form limit : Int} (hpos : 0 < limit)
    (hlimit : call.form.id = form → call.form.definition.entryLimit = some limit)
    {repository : Repository} {count : Int} (hc : repository.countEntries form = .ok count) :
    ∃ next, (serve repository call).countEntries form = .ok next ∧ next ≤ max limit count := by
  rcases h.enters_of_serve repository with
    ⟨-, hcount⟩ | ⟨draft, entry, made, hid, -, -, henters, -, hcount, hadmits⟩
  · refine ⟨count, ?_, by omega⟩
    rw [hcount, hc]
  · rw [hcount]
    by_cases hform : call.form.id = form
    · obtain ⟨n, hn, hlt⟩ := hadmits.count_lt limit (hlimit hform) hpos
      obtain ⟨next, hnext, hle⟩ := henters.count_le form n (hform ▸ hn)
      exact ⟨next, hnext, by omega⟩
    · have hne : entry.formId ≠ form := by
        rw [henters.formId_eq, hid]
        exact hform
      refine ⟨count, ?_, by omega⟩
      rw [henters.count_of_ne form hne, hc]

/-- A call to a form that takes one entry from each user does not add a second one of a user. -/
theorem Plain.countP_serve_le_one {call : Call} (h : call.Plain) {form user : Int}
    (hone : call.form.id = form → call.form.definition.onePerSubmitter = true ∧
      call.form.definition.submitterKey = .user)
    {repository : Repository}
    (hc : repository.entries.countP (·.isOf form (.user user)) ≤ 1) :
    (serve repository call).entries.countP (·.isOf form (.user user)) ≤ 1 := by
  rcases h.enters_of_serve repository with
    ⟨hentries, -⟩ | ⟨draft, entry, made, hid, hby, -, henters, hentries, -, hadmits⟩
  · rw [hentries]
    exact hc
  · rw [hentries, henters.entries_eq, List.countP_append]
    by_cases hof : entry.isOf form (.user user)
    · have hisOf : entry.formId = form ∧ entry.createdBy = some user := by
        simpa [Entry.isOf] using hof
      have hform : call.form.id = form := by rw [← hid, ← henters.formId_eq, hisOf.1]
      have huser : call.request.user.map User.id = some user := by
        rw [← hby, ← henters.createdBy_eq, hisOf.2]
      have hsubmitter : Gate.submitter? call.form call.request = some (.user user) := by
        obtain ⟨visitor, hv, rfl⟩ := Option.map_eq_some_iff.mp huser
        rw [Gate.submitter?, (hone hform).2, hv]
        rfl
      have hnone : repository.entries.countP (·.isOf form (.user user)) = 0 := by
        rw [List.countP_eq_zero]
        intro other ho
        have hother := hadmits.isOf_eq_false (hone hform).1 (.user user) hsubmitter other ho
        rw [← hform, hother]
        exact Bool.false_ne_true
      have hle : [entry].countP (·.isOf form (.user user)) ≤ 1 := List.countP_le_length
      omega
    · have hnone : [entry].countP (·.isOf form (.user user)) = 0 := by simp [hof]
      omega

/-! ### Many calls -/

/-- What every call preserves is preserved by all of them. -/
theorem serveAll_induction {P : Repository → Prop} {calls : List Call}
    (hstep : ∀ call ∈ calls, ∀ repository, P repository → P (serve repository call))
    {repository : Repository} (h : P repository) : P (serveAll repository calls) := by
  induction calls generalizing repository with
  | nil => exact h
  | cons call rest ih =>
      have hfirst : P (serve repository call) := hstep call List.mem_cons_self repository h
      exact ih (fun later hl => hstep later (List.mem_cons_of_mem _ hl)) hfirst

/-- Whatever is sent to a form with a limit of entries and to others, the count of the form's entries
stays below the limit, or where it was if it was above it. -/
theorem count_serveAll_le (calls : List Call) (hplain : ∀ call ∈ calls, call.Plain)
    (form limit : Int) (hpos : 0 < limit)
    (hlimit : ∀ call ∈ calls, call.form.id = form →
      call.form.definition.entryLimit = some limit)
    (repository : Repository) (earlier : Int) (hc : repository.countEntries form = .ok earlier) :
    ∃ count, (serveAll repository calls).countEntries form = .ok count ∧
      count ≤ max limit earlier := by
  refine serveAll_induction (P := fun repository => ∃ count,
    repository.countEntries form = .ok count ∧ count ≤ max limit earlier) ?_ ⟨earlier, hc, by omega⟩
  intro call hcall repository hbelow
  obtain ⟨count, hcount, hle⟩ := hbelow
  obtain ⟨next, hnext, hstep⟩ :=
    (hplain call hcall).count_serve_le hpos (hlimit call hcall) hcount
  exact ⟨next, hnext, by omega⟩

/-- A call to a form that takes two entries, one from each user. -/
def signing (user : Option User) : Call where
  service := { sessionToken := "token" }
  form := {
    definition := { id := 1, pages := [], onePerSubmitter := true, entryLimit := some 2 }
    pages := [{ heading := { id := 1 }, children := [.field { id := 2 }] }]
    distinct := by decide }
  submission := { values := [("2", .text "Ann")], csrfToken := some "token" }
  request := { user }

theorem plain_signing (user : Option User) : (signing user).Plain := ⟨Bus.idle_empty, rfl⟩

/-- A user signs twice, and two visitors who are not logged in sign after that. -/
def signings : List Call := [some { id := 7 }, some { id := 7 }, none, none].map signing

theorem count_serveAll_signings :
    (serveAll (.database {}) signings).entries.length = 2 ∧
    ∃ count, (serveAll (.database {}) signings).countEntries 1 = .ok count ∧ count ≤ max 2 0 := by
  refine ⟨by decide +kernel, ?_⟩
  have hplain : ∀ call ∈ signings, call.Plain :=
    List.forall_mem_map.mpr fun user _ => plain_signing user
  have hlimit : ∀ call ∈ signings, call.form.id = 1 → call.form.definition.entryLimit = some 2 :=
    List.forall_mem_map.mpr fun _ _ _ => rfl
  exact count_serveAll_le signings hplain 1 2 (by decide) hlimit (.database {}) 0 rfl

/-- Whatever is sent to a form that takes one entry from each user and to others, an empty repository
never comes to hold two entries of the form by one user. -/
theorem countP_serveAll_le_one (calls : List Call) (hplain : ∀ call ∈ calls, call.Plain) (form : Int)
    (hone : ∀ call ∈ calls, call.form.id = form → call.form.definition.onePerSubmitter = true ∧
      call.form.definition.submitterKey = .user)
    (repository : Repository) (hempty : repository.entries = []) (user : Int) :
    (serveAll repository calls).entries.countP (·.isOf form (.user user)) ≤ 1 := by
  refine serveAll_induction (P := fun repository =>
    repository.entries.countP (·.isOf form (.user user)) ≤ 1) ?_ ?_
  · intro call hcall repository hbefore
    exact (hplain call hcall).countP_serve_le_one (hone call hcall) hbefore
  · rw [hempty, List.countP_nil]
    omega

theorem countP_serveAll_signings :
    (serveAll (.database {}) signings).entries.map Entry.createdBy = [some 7, none] ∧
    (serveAll (.database {}) signings).entries.countP (·.isOf 1 (.user 7)) ≤ 1 := by
  refine ⟨by decide +kernel, ?_⟩
  have hplain : ∀ call ∈ signings, call.Plain :=
    List.forall_mem_map.mpr fun user _ => plain_signing user
  have hone : ∀ call ∈ signings, call.form.id = 1 →
      call.form.definition.onePerSubmitter = true ∧ call.form.definition.submitterKey = .user :=
    List.forall_mem_map.mpr fun _ _ _ => ⟨rfl, rfl⟩
  exact countP_serveAll_le_one signings hplain 1 hone (.database {}) rfl 7

end Call
end FormIntake
