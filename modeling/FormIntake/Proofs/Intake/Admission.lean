import FormIntake.Proofs.Intake.Frame
import FormIntake.Proofs.Store.Holdings

/-! # Who is let in

Without extensions a submission passes the gates only if the form has room for it: its submitter has
no entry yet, where the form takes one from each, and the limit of entries is not reached
(`Gate.admits_of_checkGates`). -/

namespace FormIntake

open Definition Effect

namespace Gate

/-- The form has room for an entry of the request's submitter. -/
structure Admits (repository : Repository) (form : Form) (request : Request) : Prop where
  isOf_eq_false : form.definition.onePerSubmitter = true →
    ∀ submitter, submitter? form request = some submitter →
      ∀ entry ∈ repository.entries, entry.isOf form.id submitter = false
  count_lt : ∀ limit, form.definition.entryLimit = some limit → 0 < limit →
    ∃ count, repository.countEntries form.id = .ok count ∧ count < limit

variable {service : Service} (hs : service.bus.Idle) {request : Request} {run after : Run}

include hs

theorem eq_of_hasEntry {found : Bool} {submitter : Submitter}
    (h : outcome (hasEntry service request) run = (.ok found, after))
    (hw : submitter? run.desk.form request = some submitter) :
    found = run.repository.entries.any (·.isOf run.desk.form.id submitter) := by
  unfold hasEntry at h
  rw [outcome_bind_of_ok (Step.outcome_ask _ _)] at h
  simp only [id, hw, filter_atDesk_of_idle hs] at h
  obtain ⟨_, entered, henter, h⟩ := exists_of_outcome_bind h
  obtain ⟨sought, asked, hquery, h⟩ := exists_of_outcome_bind h
  have hentered : entered.standing = run.standing := (Step.fixes_enter _).view_eq henter
  have hrepository : entered.repository = run.repository := congrArg Prod.snd hentered
  have hsought : entered.repository.entryExists run.desk.form.id submitter = .ok sought :=
    congrArg Prod.fst hquery
  rw [hrepository] at hsought
  have hfound : found = sought := by
    cases h
    rfl
  rw [hfound]
  exact Repository.eq_of_entryExists hsought

theorem isOf_eq_false_of_refuseRepeated {submitter : Submitter}
    (h : outcome (refuseRepeated service request) run = (.ok none, after))
    (hone : run.desk.form.definition.onePerSubmitter = true)
    (hw : submitter? run.desk.form request = some submitter) :
    ∀ entry ∈ run.repository.entries, entry.isOf run.desk.form.id submitter = false := by
  unfold refuseRepeated at h
  rw [outcome_bind_of_ok (Step.outcome_ask _ _)] at h
  simp only [id, hone, Bool.not_true, Bool.false_eq_true, if_false] at h
  obtain ⟨found, sought, hfound, h⟩ := exists_of_outcome_bind h
  have hany := eq_of_hasEntry hs hfound hw
  cases found with
  | true =>
      obtain ⟨_, logged, -, h⟩ := exists_of_outcome_bind h
      rw [map_eq_pure_bind] at h
      obtain ⟨refusal, refused, -, h⟩ := exists_of_outcome_bind h
      cases h
  | false =>
      intro entry he
      have hnone := List.any_eq_false.mp hany.symm entry he
      simpa using hnone

theorem lt_of_refuseSurplus {limit : Int}
    (h : outcome (refuseSurplus service limit) run = (.ok .null, after)) :
    ∃ count, run.repository.countEntries run.desk.form.id = .ok count ∧ count < limit := by
  unfold refuseSurplus at h
  rw [outcome_bind_of_ok (Step.outcome_ask _ _)] at h
  simp only [id, filter_atDesk_of_idle hs] at h
  obtain ⟨_, entered, henter, h⟩ := exists_of_outcome_bind h
  obtain ⟨count, asked, hquery, h⟩ := exists_of_outcome_bind h
  have hentered : entered.standing = run.standing := (Step.fixes_enter _).view_eq henter
  have hrepository : entered.repository = run.repository := congrArg Prod.snd hentered
  have hcount : entered.repository.countEntries run.desk.form.id = .ok count :=
    congrArg Prod.fst hquery
  rw [hrepository] at hcount
  refine ⟨count, hcount, ?_⟩
  by_cases hreached : limit ≤ count
  · have hreaches : reaches (.data (.int count)) limit = .ok true := by simp [reaches, hreached]
    have hlift : outcome (liftM (.ok true : Except Failure Bool) : Step Bool) asked =
      (.ok true, asked) := rfl
    rw [pure_bind, hreaches, outcome_bind_of_ok hlift] at h
    simp only [Bool.not_true, Bool.false_eq_true, if_false] at h
    obtain ⟨_, logged, -, h⟩ := exists_of_outcome_bind h
    obtain ⟨refusal, hr⟩ := ((parts_of_idle hs).keeps_refuse _ _ _).of_eq_ok h
    cases hr
  · omega

/-- Where entries of the form are kept and the visitor may not bypass the gates, the first gate lets
in whom the form has room for. -/
theorem admits_of_checkLimits (hb : service.mayBypass = false)
    (hsaving : Completion.isSaving service run.desk.form = true)
    (h : outcome (checkLimits service request) run = (.ok .null, after)) :
    Admits run.repository run.desk.form request := by
  unfold checkLimits at h
  rw [outcome_bind_of_ok (Step.outcome_ask _ _), isOpen_of_idle hs, hb] at h
  unfold Completion.isSaving at hsaving
  simp only [id, hsaving, Bool.not_true, Bool.false_eq_true, if_false, pure_bind] at h
  obtain ⟨ended, asked, hrepeated, h⟩ := exists_of_outcome_bind h
  have hasked : asked.standing = run.standing :=
    ((parts_of_idle hs).keeps_refuseRepeated request).view_eq hrepeated
  have hdesk : asked.desk = run.desk := congrArg Prod.fst hasked
  have hrepository : asked.repository = run.repository := congrArg Prod.snd hasked
  cases ended with
  | some refusal =>
      obtain ⟨_, rfl⟩ := ((parts_of_idle hs).keeps_refuseRepeated request).of_eq_ok hrepeated refusal rfl
      cases h
  | none =>
      constructor
      · intro hone submitter hw
        exact isOf_eq_false_of_refuseRepeated hs hrepeated hone hw
      · intro limit hlimit hpos
        simp only [hlimit, hpos, if_true] at h
        rw [← hrepository, ← hdesk]
        exact lt_of_refuseSurplus hs h

theorem admits_of_check (hb : service.mayBypass = false)
    (hsaving : Completion.isSaving service run.desk.form = true)
    (h : outcome (check service request) run = (.ok .null, after)) :
    Admits run.repository run.desk.form request := by
  unfold check at h
  obtain ⟨limits, limited, hlimits, h⟩ := exists_of_outcome_bind h
  have hnull : limits = .null := by
    rcases ((parts_of_idle hs).keeps_checkLimits request).of_eq_ok hlimits with hn | ⟨refusal, rfl⟩
    · exact hn
    · cases h
  rw [hnull] at hlimits
  exact admits_of_checkLimits hs hb hsaving hlimits

end Gate

/-- Where entries of the form are kept and the visitor may not bypass the gates, a submission that
goes on behind them is one that the form has room for. -/
theorem Intake.admits_of_checkGates {service : Service} (hs : service.bus.Idle) {request : Request}
    {run after : Run} (hb : service.mayBypass = false)
    (hsaving : Completion.isSaving service run.desk.form = true)
    (h : outcome (checkGates service request) run = (.ok none, after)) :
    Gate.Admits run.repository run.desk.form request := by
  unfold checkGates at h
  obtain ⟨answer, checked, hcheck, h⟩ := exists_of_outcome_bind h
  have hnull : answer = .null := by
    rcases ((Gate.parts_of_idle hs).keeps_check request).of_eq_ok hcheck with hn | ⟨refusal, rfl⟩
    · exact hn
    · cases h
  rw [hnull] at hcheck
  exact Gate.admits_of_check hs hb hsaving hcheck

end FormIntake
