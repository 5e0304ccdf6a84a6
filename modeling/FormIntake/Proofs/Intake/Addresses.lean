import Mathlib.Data.List.TakeDrop
import FormIntake.Proofs.Intake.Traffic

/-! # Calls from one address

A form that takes one entry from each address looks for an entry with the address that a request came
from, and its entries keep the beginning of an address, or nothing of it (`Call.keptAddress`).  Where
all of an address is kept there is one entry of it at most.  An address that is not kept as it is,
`Call.LosesAddress`, is not found again, and stops no later call that comes from it
(`Call.pairwise_creators`). -/

namespace FormIntake

open Definition

theorem Completion.cut_eq_self_iff (text : String) (length : Nat) :
    cut text length = text ↔ text.length ≤ length := by
  rw [cut, ← String.toList_inj, String.toList_ofList, List.take_eq_self_iff, String.length_toList]

namespace Call

/-- What an entry keeps of the address of a call is not that address. -/
def LosesAddress (call : Call) : Prop :=
  if call.service.settings.saveAddresses then
    Completion.maxAddress < call.request.address.length
  else call.request.address ≠ ""

instance (call : Call) : Decidable call.LosesAddress := by
  unfold LosesAddress
  infer_instance

theorem keptAddress_eq_iff (call : Call) :
    call.keptAddress = call.request.address ↔ ¬ call.LosesAddress := by
  unfold keptAddress LosesAddress
  split
  · rw [Completion.cut_eq_self_iff, Nat.not_lt]
  · rw [not_not, eq_comm]

/-- The calls after which there is one entry of a form more, in order. -/
def creators (form : Int) : Repository → List Call → List Call
  | _, [] => []
  | repository, call :: rest =>
    let served := serve repository call
    if call.form.id = form ∧ repository.entries.length < served.entries.length then
      call :: creators form served rest
    else creators form served rest

/-- A call that creates no entry of a form leaves those that there are; one that does was let in, and
adds one with what is kept of its address. -/
theorem Plain.creates_or_not {call : Call} (h : call.Plain) (form : Int) (repository : Repository) :
    (∀ rest, creators form repository (call :: rest) = creators form (serve repository call) rest) ∧
      (∀ submitter, (serve repository call).entries.any (·.isOf form submitter) =
        repository.entries.any (·.isOf form submitter)) ∨
    (∀ rest, creators form repository (call :: rest) =
        call :: creators form (serve repository call) rest) ∧
      call.form.id = form ∧ Gate.Admits repository call.form call.request ∧
      ∀ address, (serve repository call).entries.any (·.isOf form (.address address)) =
        (repository.entries.any (·.isOf form (.address address)) ||
          decide (call.keptAddress = address)) := by
  rcases h.enters_of_serve repository with
    ⟨hentries, -⟩ | ⟨draft, entry, made, hid, -, haddress, henters, hentries, -, hadmits⟩
  · refine .inl ⟨fun rest => ?_, fun submitter => by rw [hentries]⟩
    rw [creators, hentries, if_neg fun hc => Nat.lt_irrefl _ hc.2]
  · have hformId : entry.formId = call.form.id := henters.formId_eq.trans hid
    have hnew : (serve repository call).entries = repository.entries ++ [entry] :=
      hentries.trans henters.entries_eq
    by_cases hform : call.form.id = form
    · refine .inr ⟨fun rest => ?_, hform, hadmits, fun address => ?_⟩
      · rw [creators, hnew, if_pos ⟨hform, by simp⟩]
      · have hkept : entry.address = call.keptAddress := henters.address_eq.trans haddress
        have hof : entry.isOf form (.address address) = decide (call.keptAddress = address) := by
          rw [Entry.isOf, hformId, hform, hkept, decide_eq_true rfl, Bool.true_and]
        rw [hnew, List.any_append, List.any_cons, List.any_nil, Bool.or_false, hof]
    · refine .inl ⟨fun rest => ?_, fun submitter => ?_⟩
      · rw [creators, if_neg fun hc => hform hc.1]
      · have hof : entry.isOf form submitter = false := by
          unfold Entry.isOf
          rw [hformId, decide_eq_false hform, Bool.false_and]
        rw [hnew, List.any_append, List.any_cons, List.any_nil, Bool.or_false, hof, Bool.or_false]

section traffic

variable {form : Int} {calls : List Call} (hplain : ∀ call ∈ calls, call.Plain)

include hplain

/-- What is found of an address are the entries that there were and those of the calls that created
one and kept it. -/
theorem any_isOf_address_serveAll (repository : Repository) (address : String) :
    (serveAll repository calls).entries.any (·.isOf form (.address address)) =
      (repository.entries.any (·.isOf form (.address address)) ||
        (creators form repository calls).any fun call => call.keptAddress = address) := by
  induction calls generalizing repository with
  | nil => exact (Bool.or_false _).symm
  | cons call rest ih =>
      have hrest := ih (fun later hl => hplain later (List.mem_cons_of_mem _ hl))
        (serve repository call)
      have hall : serveAll repository (call :: rest) = serveAll (serve repository call) rest := rfl
      rcases (hplain call List.mem_cons_self).creates_or_not form repository with
        ⟨hcreators, hsame⟩ | ⟨hcreators, -, -, hmore⟩
      · rw [hall, hrest, hsame, hcreators]
      · rw [hall, hrest, hmore, hcreators, List.any_cons, Bool.or_assoc]

variable (hone : ∀ call ∈ calls, call.form.id = form →
  call.form.definition.onePerSubmitter = true ∧ call.form.definition.submitterKey = .address)

include hone

/-- Where a form takes one entry from each address, no call that creates one comes from an address
that is found in the repository, or that an earlier one has kept. -/
theorem keptAddress_ne_of_creators (repository : Repository) :
    (∀ call ∈ creators form repository calls,
      repository.entries.any (·.isOf form (.address call.request.address)) = false) ∧
    (creators form repository calls).Pairwise fun earlier later =>
      earlier.keptAddress ≠ later.request.address := by
  induction calls generalizing repository with
  | nil => exact ⟨List.forall_mem_nil _, .nil⟩
  | cons call rest ih =>
      obtain ⟨hfound, hpairs⟩ := ih (fun later hl => hplain later (List.mem_cons_of_mem _ hl))
        (fun later hl => hone later (List.mem_cons_of_mem _ hl)) (serve repository call)
      rcases (hplain call List.mem_cons_self).creates_or_not form repository with
        ⟨hcreators, hsame⟩ | ⟨hcreators, hform, hadmits, hmore⟩
      · rw [hcreators]
        refine ⟨fun later hl => ?_, hpairs⟩
        rw [← hsame]
        exact hfound later hl
      · rw [hcreators]
        have hlater : ∀ later ∈ creators form (serve repository call) rest,
            repository.entries.any (·.isOf form (.address later.request.address)) = false ∧
              call.keptAddress ≠ later.request.address := by
          intro later hl
          have hnone := hfound later hl
          rwa [hmore, Bool.or_eq_false_iff, decide_eq_false_iff_not] at hnone
        refine ⟨?_, .cons (fun later hl => (hlater later hl).2) hpairs⟩
        intro other ho
        rcases List.mem_cons.mp ho with rfl | ho
        · obtain ⟨hpolicy, hkey⟩ := hone other List.mem_cons_self hform
          have hwho : Gate.submitter? other.form other.request =
              some (.address other.request.address) := by
            rw [Gate.submitter?, hkey]
          rw [← hform, List.any_eq_false]
          intro entry he
          rw [hadmits.isOf_eq_false hpolicy _ hwho entry he]
          exact Bool.false_ne_true
        · exact (hlater other ho).1

end traffic

/-- Whatever is sent to a form that takes one entry from each address and to others, two of the calls
that create an entry of the form in an empty repository come from the same address only if the earlier
one loses it; and what is found of an address after all are the calls that created an entry and kept
it. -/
theorem pairwise_creators (calls : List Call) (hplain : ∀ call ∈ calls, call.Plain) (form : Int)
    (hone : ∀ call ∈ calls, call.form.id = form → call.form.definition.onePerSubmitter = true ∧
      call.form.definition.submitterKey = .address)
    (repository : Repository) (hempty : repository.entries = []) :
    ((creators form repository calls).Pairwise fun earlier later =>
      earlier.request.address = later.request.address → earlier.LosesAddress) ∧
    ∀ address, (serveAll repository calls).entries.any (·.isOf form (.address address)) =
      (creators form repository calls).any fun call => call.keptAddress = address := by
  constructor
  · refine (keptAddress_ne_of_creators hplain hone repository).2.imp ?_
    intro earlier later hne hsame
    by_contra hkeeps
    exact hne (((keptAddress_eq_iff earlier).mpr hkeeps).trans hsame)
  · intro address
    rw [any_isOf_address_serveAll hplain, hempty, List.any_nil, Bool.false_or]

/-- A call to a form that takes one entry from each address. -/
def knock (saveAddresses : Bool) (address : String) : Call where
  service := { sessionToken := "token", renderer := { settings := { saveAddresses } } }
  form := {
    definition := { id := 1, pages := [], onePerSubmitter := true, submitterKey := .address }
    pages := [{ heading := { id := 1 }, children := [.field { id := 2 }] }]
    distinct := (signing none).form.distinct }
  submission := { values := [("2", .text "Ann")], csrfToken := some "token" }
  request := { address }

theorem plain_knock (saveAddresses : Bool) (address : String) :
    (knock saveAddresses address).Plain := ⟨Bus.idle_empty, rfl⟩

/-- An address with the name of a network interface, which is too long to be kept. -/
def linkAddress : String := "fe80:0000:0000:0000:0202:b3ff:fe1e:8329%enp0s31f6"

/-- Two calls from each of three addresses: one that is not to be kept, one that is too long to be
kept, and one that is kept. -/
def knocks : List Call :=
  [knock false "203.0.113.9", knock false "203.0.113.9", knock true linkAddress,
    knock true linkAddress, knock true "198.51.100.4", knock true "198.51.100.4"]

theorem plain_knocks : ∀ call ∈ knocks, call.Plain ∧
    (call.form.id = 1 → call.form.definition.onePerSubmitter = true ∧
      call.form.definition.submitterKey = .address) := by
  intro call h
  simp only [knocks, List.mem_cons, List.not_mem_nil, or_false] at h
  rcases h with rfl | rfl | rfl | rfl | rfl | rfl <;>
    exact ⟨plain_knock _ _, fun _ => ⟨rfl, rfl⟩⟩

/-- Two entries each are created from the addresses that are not kept, and one from the last. -/
theorem addresses_knocks :
    (creators 1 (.database {}) knocks).map (·.request.address) =
      ["203.0.113.9", "203.0.113.9", linkAddress, linkAddress, "198.51.100.4"] ∧
    (creators 1 (.database {}) knocks).map (·.keptAddress) =
      ["", "", "fe80:0000:0000:0000:0202:b3ff:fe1e:8329%enp0s",
        "fe80:0000:0000:0000:0202:b3ff:fe1e:8329%enp0s", "198.51.100.4"] := by decide +kernel

/-- Of the last address an entry is found; its second call has found it too. -/
theorem pairwise_creators_knocks :
    ((creators 1 (.database {}) knocks).Pairwise fun earlier later =>
      earlier.request.address = later.request.address → earlier.LosesAddress) ∧
    (serveAll (.database {}) knocks).entries.any (·.isOf 1 (.address "198.51.100.4")) = true ∧
    (serveAll (.database {}) knocks).entries.any (·.isOf 1 (.address linkAddress)) = false := by
  have h := pairwise_creators knocks (fun call hc => (plain_knocks call hc).1) 1
    (fun call hc => (plain_knocks call hc).2) (.database {}) rfl
  have hkept : ∀ address, ((creators 1 (.database {}) knocks).any fun call =>
      call.keptAddress = address) =
        ((creators 1 (.database {}) knocks).map (·.keptAddress)).any (· = address) := by
    simp only [List.any_map, Function.comp_def, implies_true]
  rw [h.2, h.2, hkept, hkept, addresses_knocks.2]
  exact ⟨h.1, by decide, by decide⟩

/-- The addresses of the calls that create an entry are not all different. -/
theorem creators_knocks :
    (∀ call ∈ knocks, call.Plain ∧ (call.form.id = 1 →
      call.form.definition.onePerSubmitter = true ∧
        call.form.definition.submitterKey = .address)) ∧
    (creators 1 (.database {}) knocks).map (·.request.address) =
      ["203.0.113.9", "203.0.113.9", linkAddress, linkAddress, "198.51.100.4"] ∧
    ¬ (creators 1 (.database {}) knocks).Pairwise fun earlier later =>
      earlier.request.address ≠ later.request.address := by
  refine ⟨plain_knocks, addresses_knocks.1, ?_⟩
  intro hp
  have hnodup : ((creators 1 (.database {}) knocks).map (·.request.address)).Nodup :=
    List.pairwise_map.mpr hp
  rw [addresses_knocks.1] at hnodup
  exact (List.nodup_cons.mp hnodup).1 List.mem_cons_self

end Call
end FormIntake
