import FormIntake.Proofs.Visibility.Solution

/-! # When passes settle

Passes over elements whose rules form cycles can settle, but need not do so within as many passes as
there are elements.  `Form.refreshVisibility` leaves the settled flags behind exactly where they are
reached within that number, and these are the forms whose flags are left consistent
(`Form.refreshVisibility_eq_settled_iff`).  `Form.countdown` settles one pass later
(`Form.refreshVisibility_countdown`). -/

namespace FormIntake

open Definition

namespace Form

variable (form : Form)

/-- After so many passes from the state in which all is visible there are flags that a further pass
leaves as they are. -/
def SettlesAt (rounds : Nat) (flags : Flags) : Prop :=
  form.passed^[rounds] .visible = flags ∧ form.passed flags = flags

instance (rounds : Nat) (flags : Flags) : Decidable (form.SettlesAt rounds flags) :=
  inferInstanceAs (Decidable (_ ∧ _))

variable {form} {rounds : Nat} {flags : Flags}

theorem SettlesAt.later (h : form.SettlesAt rounds flags) {more : Nat} (hm : rounds ≤ more) :
    form.SettlesAt more flags := by
  obtain ⟨hr, hf⟩ := h
  obtain ⟨extra, rfl⟩ := Nat.exists_eq_add_of_le hm
  refine ⟨?_, hf⟩
  rw [Nat.add_comm, Function.iterate_add_apply, hr, Function.iterate_fixed hf]

theorem SettlesAt.unique (h : form.SettlesAt rounds flags) {more : Nat} {others : Flags}
    (ho : form.SettlesAt more others) : flags = others := by
  have h₁ := h.later (Nat.le_max_left rounds more)
  have h₂ := ho.later (Nat.le_max_right rounds more)
  rw [← h₁.1, h₂.1]

theorem SettlesAt.consistent (h : form.SettlesAt rounds flags) : form.Consistent flags :=
  form.consistent_of_passed fun node _ => by rw [h.2]

/-- Where passes settle at all, the settled flags are left behind exactly when as many passes as
there are elements reach them, and exactly when what is left behind is consistent. -/
theorem refreshVisibility_eq_settled_iff (h : form.SettlesAt rounds flags) :
    (form.refreshVisibility.flags = flags ↔
      ∃ few ≤ form.nodes.length, form.SettlesAt few flags) ∧
    (form.refreshVisibility.flags = flags ↔ form.Consistent form.refreshVisibility.flags) := by
  have hiff : form.refreshVisibility.flags = flags ↔ form.SettlesAt form.nodes.length flags := by
    rw [flags_refreshVisibility]
    exact (and_iff_left h.2).symm
  refine ⟨⟨fun he => ⟨_, Nat.le_refl _, hiff.mp he⟩, fun ⟨few, hle, hs⟩ => hiff.mpr (hs.later hle)⟩,
    fun he => he ▸ h.consistent, fun hc => ?_⟩
  have hs : form.SettlesAt form.nodes.length form.refreshVisibility.flags :=
    ⟨form.flags_refreshVisibility.symm, hc.passed⟩
  exact hs.unique h

/-- Three fields in a cycle, of which the last appears when the first does not. -/
def roundabout : Form where
  definition := { id := 1, pages := [] }
  pages := [
    { heading := { id := 1 }
      children := [
        .field { id := 2, logic := .whenEmpty .appear .all [3] },
        .field { id := 3, logic := .whenEmpty .appear .all [2, 4] },
        .field { id := 4, logic := .whenEmpty .vanish .all [2] }] }]
  distinct := by decide

theorem refreshVisibility_roundabout : roundabout.SettlesAt 3 ⟨[2, 3]⟩ ∧
    roundabout.refreshVisibility.flags = ⟨[2, 3]⟩ := by
  have h : roundabout.SettlesAt 3 ⟨[2, 3]⟩ := by decide
  exact ⟨h, (refreshVisibility_eq_settled_iff h).1.mpr ⟨3, by decide, h⟩⟩

/-- Four fields in a cycle whose passes settle, but only at the sixth. -/
def countdown : Form where
  definition := { id := 1, pages := [] }
  pages := [
    { heading := { id := 1 }
      children := [
        .field { id := 2, logic := .whenEmpty .appear .all [3] },
        .field { id := 3, logic := .whenEmpty .vanish .all [4] },
        .field { id := 4, logic := .whenEmpty .appear .all [5] },
        .field { id := 5, logic := .whenEmpty .vanish .any [2, 3] }] }]
  distinct := by decide

/-- The settled flags hide the last two fields; those that are left behind hide the first as
well. -/
theorem refreshVisibility_countdown : countdown.SettlesAt 6 ⟨[4, 5]⟩ ∧
    countdown.refreshVisibility.flags ≠ ⟨[4, 5]⟩ ∧
    countdown.refreshVisibility.hiddenIds = [2, 4, 5] := by
  decide +kernel

end Form
end FormIntake
