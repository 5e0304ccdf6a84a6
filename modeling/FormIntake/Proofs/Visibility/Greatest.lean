import Mathlib.Order.Iterate
import FormIntake.Proofs.Visibility.Settling

/-! # Rules that only let elements appear

Rules that form cycles can have many solutions.  Where no logic makes its owner disappear, one of them
shows as much as any other, and that is what `Form.refreshVisibility` leaves behind
(`Form.refreshVisibility_greatest`).

Such rules are monotone: the more is hidden, the fewer rules hold, and the more has to be hidden
(`Form.hides_mono`).  Passes from the state in which all is visible therefore only ever hide more, and
never more than a solution does.  A pass that changes anything hides one more element at least
(`Form.passed_eq_or_countP_lt`), so that as many passes as there are elements settle, whatever the
cycles (`Form.OnlyReveals.settlesAt`). -/

namespace FormIntake

open Definition

/-- Flags stand before those that hide as much or more. -/
instance : Preorder Flags where
  le f g := ∀ id, f.isHidden id = true → g.isHidden id = true
  le_refl _ _ h := h
  le_trans _ _ _ hf hg id h := hg id (hf id h)

theorem Flags.visible_le (flags : Flags) : Flags.visible ≤ flags := by
  rintro id ⟨⟩

theorem Flags.set_mono {f g : Flags} (h : f ≤ g) {id : Int} {one two : Bool}
    (ht : one = true → two = true) : f.set id one ≤ g.set id two := by
  intro other ho
  rw [isHidden_set] at ho ⊢
  split at ho
  · next he =>
    rw [if_pos he]
    exact ht ho
  · next he =>
    rw [if_neg he]
    exact h other ho

/-- Where rules that hold make the owner appear, more of them do not make it disappear. -/
theorem Definition.Logic.verdict_mono {logic : Logic} (ha : logic.action = .appear)
    {p q : Rule → Bool} (h : ∀ rule, p rule = true → q rule = true) (hp : logic.verdict p = true) :
    logic.verdict q = true := by
  unfold Logic.verdict at *
  rw [ha] at *
  cases hq : logic.quorum with
  | all =>
      simp only [hq, List.all_eq_true] at hp ⊢
      exact fun rule hr => h rule (hp rule hr)
  | any =>
      simp only [hq, List.any_eq_true] at hp ⊢
      obtain ⟨rule, hr, hp⟩ := hp
      exact ⟨rule, hr, h rule hp⟩

/-- A logic whose rules ask that fields are filled in. -/
def Definition.Logic.whenFilled (quorum : LogicMatch) (targets : List Int) : Logic where
  enabled := true
  quorum := quorum
  rules := targets.map fun target => { target, operator := .notEmpty }

namespace Form

variable (form : Form)

/-- Every logic that counts makes its owner appear when its rules hold. -/
def OnlyReveals : Prop :=
  ∀ node ∈ form.nodes, node.item.logic.isActive = true → node.item.logic.action = .appear

instance : Decidable form.OnlyReveals := inferInstanceAs (Decidable (∀ _ ∈ _, _))

/-! ### More flags, fewer rules -/

/-- A rule that holds does so where less is hidden. -/
theorem ruleHolds_of_le {f g : Flags} (h : f ≤ g) {rule : Rule} (hr : form.ruleHolds g rule = true) :
    form.ruleHolds f rule = true := by
  unfold ruleHolds at *
  cases hf : form.field? rule.target with
  | none =>
      rw [hf] at hr
      cases hr
  | some field =>
      simp only [hf, Bool.and_eq_true, Bool.not_eq_true'] at hr ⊢
      refine ⟨?_, hr.2⟩
      by_contra hh
      have hhidden : g.isHidden field.id = true := h field.id (by simpa using hh)
      rw [hr.1] at hhidden
      cases hhidden

theorem passed_eq_or_countP_lt {flags : Flags} (h : flags ≤ form.passed flags) :
    form.passed flags = flags ∨
      form.nodes.countP (flags.isHidden ·.id) <
        form.nodes.countP ((form.passed flags).isHidden ·.id) := by
  have hmono : ∀ node : Node Validator, flags.isHidden node.id = true →
      (form.passed flags).isHidden node.id = true := fun node => h node.id
  rcases (List.countP_mono_left fun node _ => hmono node).lt_or_eq with hlt | heq
  · exact .inr hlt
  · rw [List.countP_eq_length_filter, List.countP_eq_length_filter] at heq
    have hsame := (List.monotone_filter_right form.nodes hmono).eq_of_length heq
    refine .inl (Consistent.passed form (form.consistent_of_passed fun node hn => ?_))
    rw [Bool.eq_iff_iff]
    refine ⟨fun hh => ?_, hmono node⟩
    have hm : node ∈ form.nodes.filter (flags.isHidden ·.id) := hsame ▸ List.mem_filter.mpr ⟨hn, hh⟩
    exact (List.mem_filter.mp hm).2

namespace OnlyReveals

variable {form} (h : form.OnlyReveals)

include h

/-- What has to be hidden has to be so where more is hidden. -/
theorem hides_mono {f g : Flags} (hle : f ≤ g) {node : Node Validator} (hn : node ∈ form.nodes)
    (hf : form.hides f node = true) : form.hides g node = true := by
  rw [hides_eq_true_iff] at hf ⊢
  rcases hf with ⟨parent, hp, hf⟩ | ⟨ha, hf⟩
  · exact .inl ⟨parent, hp, hle parent hf⟩
  · refine .inr ⟨ha, ?_⟩
    rw [← Bool.not_eq_true] at hf ⊢
    exact fun hg => hf (Logic.verdict_mono (h node hn ha) (fun _ => form.ruleHolds_of_le hle) hg)

theorem sweep_mono : ∀ {nodes : List (Node Validator)} {f g : Flags}, nodes ⊆ form.nodes → f ≤ g →
    form.sweep nodes f ≤ form.sweep nodes g
  | [], _, _, _, hle => hle
  | node :: rest, _, _, hs, hle => by
    rw [sweep_cons, sweep_cons]
    exact sweep_mono (List.subset_of_cons_subset hs)
      (Flags.set_mono hle (h.hides_mono hle (hs List.mem_cons_self)))

theorem passed_mono : Monotone form.passed :=
  fun _ _ hle => h.sweep_mono (List.Subset.refl _) hle

/-- Passes from the state in which all is visible hide more and more. -/
theorem iterate_mono : Monotone fun rounds => form.passed^[rounds] .visible :=
  h.passed_mono.monotone_iterate_of_le_map (Flags.visible_le _)

/-- They do not hide more than a solution does. -/
theorem iterate_le {flags : Flags} (hf : form.Consistent flags) (rounds : Nat) :
    form.passed^[rounds] .visible ≤ flags := by
  have hle := h.passed_mono.iterate rounds (Flags.visible_le flags)
  rwa [Function.iterate_fixed hf.passed] at hle

/-- After so many passes nothing changes any more, or the next one leaves more elements hidden than
that. -/
theorem settlesAt_or_lt (rounds : Nat) :
    form.SettlesAt rounds (form.passed^[rounds] .visible) ∨
      rounds < form.nodes.countP ((form.passed^[rounds + 1] .visible).isHidden ·.id) := by
  have hstep : ∀ rounds, form.passed (form.passed^[rounds] .visible) = form.passed^[rounds] .visible ∨
      form.nodes.countP ((form.passed^[rounds] .visible).isHidden ·.id) <
        form.nodes.countP ((form.passed^[rounds + 1] .visible).isHidden ·.id) := by
    intro rounds
    have hle := h.iterate_mono (Nat.le_succ rounds)
    simp only [Function.iterate_succ_apply'] at hle ⊢
    exact form.passed_eq_or_countP_lt hle
  induction rounds with
  | zero => exact (hstep 0).imp (⟨rfl, ·⟩) (Nat.lt_of_le_of_lt (Nat.zero_le _))
  | succ rounds ih =>
      rcases ih with hsettled | hlt
      · have hlater := hsettled.later (Nat.le_succ rounds)
        exact .inl (hlater.1.symm ▸ hlater)
      · exact (hstep (rounds + 1)).imp (⟨rfl, ·⟩) (Nat.lt_of_le_of_lt hlt)

/-- As many passes as there are elements settle. -/
theorem settlesAt : form.SettlesAt form.nodes.length form.refreshVisibility.flags := by
  rw [flags_refreshVisibility]
  refine (h.settlesAt_or_lt form.nodes.length).resolve_right ?_
  exact Nat.not_lt.mpr List.countP_le_length

end OnlyReveals

/-- Where no logic makes its owner disappear, the flags that are left behind are a solution of the rules,
and every solution hides what they hide. -/
theorem refreshVisibility_greatest (form : Form) (h : form.OnlyReveals) :
    form.Consistent form.refreshVisibility.flags ∧
    ∀ flags, form.Consistent flags → ∀ id,
      form.refreshVisibility.isHidden id = true → flags.isHidden id = true := by
  refine ⟨h.settlesAt.consistent, fun flags hf => ?_⟩
  have hle := h.iterate_le hf form.nodes.length
  rwa [← flags_refreshVisibility] at hle

/-- Two fields that each appear when the other is filled in, the first also when it is itself, and a
third that appears when a fourth is filled in, which is not. -/
def companions : Form where
  definition := { id := 1, pages := [] }
  pages := [
    { heading := { id := 1 }
      children := [
        .field { id := 2, logic := .whenFilled .any [2, 3] },
        .field { id := 3, logic := .whenFilled .all [2] },
        .group { id := 4, logic := .whenFilled .all [3, 6] } [.field { id := 5 }],
        .field { id := 6, logic := .whenFilled .any [5, 6] }] }]
  distinct := by decide
  values := [(2, .text "Ann"), (3, .text "Bob"), (5, .text "Cy")]

/-- Hiding the first two fields as well is another solution, which shows less. -/
theorem refreshVisibility_companions : companions.OnlyReveals ∧
    companions.refreshVisibility.hiddenIds = [4, 5, 6] ∧
    companions.Consistent companions.refreshVisibility.flags ∧
    companions.Consistent ⟨[2, 3, 4, 5, 6]⟩ ∧
    ∀ flags, companions.Consistent flags → ∀ id,
      companions.refreshVisibility.isHidden id = true → flags.isHidden id = true := by
  have hreveals : companions.OnlyReveals := by decide
  have h := refreshVisibility_greatest companions hreveals
  exact ⟨hreveals, by decide, h.1, companions.consistent_of_passed (by decide), h.2⟩

end Form
end FormIntake
