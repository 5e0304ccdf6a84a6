import Mathlib.Data.List.Perm.Subperm
import Mathlib.Logic.Relation
import FormIntake.Proofs.Visibility.Pass

/-! # Visibility as the solution of the rules

Where no element depends on itself, not even through others, the rules have one solution, and it is
what `Form.refreshVisibility` leaves behind (`Form.refreshVisibility_unique`): every element is hidden
exactly when what lists it is hidden or its own logic counts and does not let it appear.  As the
solution is unique, it is the same in whatever order the elements are listed.

The argument goes by depth.  `Form.Within k` holds of an element if no chain of dependencies from it
has more than `k` elements.  After `k` passes the flags of these elements do not hang on the flags
that the passes started from (`Form.isHidden_iterate_passed`), and without a cycle all elements are
within the number of elements (`Form.within_of_acyclic`). -/

namespace FormIntake

open Definition Relation

namespace Form

variable (form : Form)

/-- The flags are what the rules ask for: an element is hidden exactly when the page or group that
lists it is, or when its logic counts and, under these flags, does not let it appear. -/
def Consistent (flags : Flags) : Prop :=
  ∀ node ∈ form.nodes, flags.isHidden node.id = true ↔
    (∃ parent, node.parent = some parent ∧ flags.isHidden parent = true) ∨
      node.item.logic.isActive = true ∧
        Form.appears { form with flags } node.item.logic = false

/-- No element depends on itself, be it through others. -/
def Acyclic : Prop := ∀ id, ¬ TransGen form.DependsOn id id

theorem hides_eq_true_iff {flags : Flags} {node : Node Validator} :
    form.hides flags node = true ↔
      (∃ parent, node.parent = some parent ∧ flags.isHidden parent = true) ∨
        node.item.logic.isActive = true ∧
          Form.appears { form with flags } node.item.logic = false := by
  have ha : Form.appears { form with flags } node.item.logic =
      node.item.logic.verdict (form.ruleHolds flags) := rfl
  rw [ha, hides, Bool.or_eq_true, Option.any_eq_true, Bool.and_eq_true, Bool.not_eq_true']

theorem consistent_iff {flags : Flags} :
    form.Consistent flags ↔ ∀ node ∈ form.nodes, flags.isHidden node.id = form.hides flags node :=
  forall₂_congr fun _ _ => by rw [← hides_eq_true_iff, ← Bool.eq_iff_iff]

theorem Consistent.passed {flags : Flags} (h : form.Consistent flags) : form.passed flags = flags :=
  form.sweep_eq_self (form.consistent_iff.mp h)

/-- Flags that a pass leaves as they are are consistent. -/
theorem consistent_of_passed {flags : Flags}
    (h : ∀ node ∈ form.nodes, (form.passed flags).isHidden node.id = flags.isHidden node.id) :
    form.Consistent flags := by
  rw [consistent_iff]
  intro node hn
  obtain ⟨before, after, hs⟩ := List.append_of_mem hn
  rw [← h node hn, form.isHidden_passed hs]
  apply form.hides_congr hn
  intro other ho
  by_cases hb : other ∈ before.map Node.id
  · obtain ⟨n, hnm, rfl⟩ := List.mem_map.mp (form.mem_ids_of_dependsOn ho)
    rw [← form.isHidden_passed_of_mem hs hb, h n hnm]
  · exact form.isHidden_sweep_of_notMem hb

/-! ### Depth -/

/-- No chain of dependencies that starts at an element has more elements than this. -/
def Within : Nat → Int → Prop
  | 0, _ => False
  | depth + 1, id => ∀ other, form.DependsOn id other → Within depth other

theorem Within.succ : ∀ {depth : Nat} {id : Int}, form.Within depth id → form.Within (depth + 1) id
  | 0, _, h => h.elim
  | _ + 1, _, h => fun other ho => Within.succ (h other ho)

/-- Below an element that is not within a depth there are as many others, each of which depends on
those behind it. -/
theorem exists_below_of_not_within : ∀ {depth : Nat} {id : Int}, ¬ form.Within (depth + 1) id →
    ∃ below : List Int, below.length = depth + 1 ∧ below.Pairwise (TransGen form.DependsOn) ∧
      ∀ other ∈ below, TransGen form.DependsOn id other ∧ other ∈ form.nodes.map Node.id
  | 0, id, h => by
    simp only [Within, not_forall] at h
    obtain ⟨other, ho, -⟩ := h
    refine ⟨[other], rfl, List.pairwise_singleton _ _, fun x hx => ?_⟩
    rw [List.mem_singleton.mp hx]
    exact ⟨.single ho, form.mem_ids_of_dependsOn ho⟩
  | depth + 1, id, h => by
    rw [Within, not_forall] at h
    obtain ⟨other, h⟩ := h
    rw [Classical.not_imp] at h
    obtain ⟨below, hl, hp, hb⟩ := exists_below_of_not_within h.2
    refine ⟨other :: below, by rw [List.length_cons, hl],
      List.pairwise_cons.mpr ⟨fun x hx => (hb x hx).1, hp⟩, fun x hx => ?_⟩
    rcases List.mem_cons.mp hx with rfl | hx
    · exact ⟨.single h.1, form.mem_ids_of_dependsOn h.1⟩
    · exact ⟨.head h.1 (hb x hx).1, (hb x hx).2⟩

theorem within_of_acyclic (h : form.Acyclic) {id : Int} (hid : id ∈ form.nodes.map Node.id) :
    form.Within form.nodes.length id := by
  by_contra hw
  cases hn : form.nodes.length with
  | zero =>
      rw [List.eq_nil_of_length_eq_zero hn] at hid
      cases hid
  | succ depth =>
      rw [hn] at hw
      obtain ⟨below, hl, hp, hb⟩ := form.exists_below_of_not_within hw
      have hnodup : (id :: below).Nodup := by
        refine List.nodup_cons.mpr ⟨fun hm => h id (hb id hm).1, hp.imp ?_⟩
        rintro a _ hab rfl
        exact h a hab
      have hsub : id :: below ⊆ form.nodes.map Node.id :=
        List.cons_subset.mpr ⟨hid, fun x hx => (hb x hx).2⟩
      have := (List.subperm_of_subset hnodup hsub).length_le
      rw [List.length_cons, hl, List.length_map, hn] at this
      omega

/-! ### What hangs on the start -/

/-- From flags that agree on all elements within a depth, a pass makes flags that agree on those,
and on the elements that it has looked at within one more. -/
theorem isHidden_sweep_congr {depth : Nat} : ∀ {nodes : List (Node Validator)} (done : List Int)
    {f g : Flags}, nodes ⊆ form.nodes →
    (∀ id, id ∈ form.nodes.map Node.id →
      form.Within depth id ∨ form.Within (depth + 1) id ∧ id ∈ done →
        f.isHidden id = g.isHidden id) →
    ∀ id, id ∈ form.nodes.map Node.id →
      form.Within (depth + 1) id ∧ (id ∈ done ∨ id ∈ nodes.map Node.id) →
        (form.sweep nodes f).isHidden id = (form.sweep nodes g).isHidden id
  | [], _, _, _, _, h => by
    intro id hid hw
    rcases hw.2 with hd | hn
    · exact h id hid (.inr ⟨hw.1, hd⟩)
    · cases hn
  | node :: rest, done, f, g, hs, h => by
    intro id hid hw
    rw [sweep_cons, sweep_cons]
    refine isHidden_sweep_congr (node.id :: done) (List.subset_of_cons_subset hs) ?_ id hid
      ⟨hw.1, ?_⟩
    · intro other ho hor
      rw [Flags.isHidden_set, Flags.isHidden_set]
      have hwithin : form.Within (depth + 1) other := hor.elim (Within.succ form) And.left
      split
      · next heq =>
        subst heq
        apply form.hides_congr (hs List.mem_cons_self)
        intro x hx
        exact h x (form.mem_ids_of_dependsOn hx) (.inl (hwithin x hx))
      · next hne =>
        refine h other ho (hor.imp_right fun ⟨hi, hd⟩ => ⟨hi, ?_⟩)
        exact (List.mem_cons.mp hd).resolve_left hne
    · rcases hw.2 with hd | hn
      · exact .inl (List.mem_cons_of_mem _ hd)
      · rcases List.mem_cons.mp hn with rfl | hn
        · exact .inl List.mem_cons_self
        · exact .inr hn

/-- After as many passes as its depth the flag of an element does not hang on the flags that the
passes started from. -/
theorem isHidden_iterate_passed (f g : Flags) : ∀ (depth : Nat) {id : Int},
    id ∈ form.nodes.map Node.id → form.Within depth id →
      (form.passed^[depth] f).isHidden id = (form.passed^[depth] g).isHidden id
  | 0, _, _, h => h.elim
  | depth + 1, id, hid, h => by
    rw [Function.iterate_succ_apply', Function.iterate_succ_apply']
    refine form.isHidden_sweep_congr [] (List.Subset.refl _) ?_ id hid ⟨h, .inr hid⟩
    rintro other ho (hw | ⟨-, hd⟩)
    · exact isHidden_iterate_passed f g depth ho hw
    · cases hd

variable {form}

theorem Acyclic.consistent (h : form.Acyclic) : form.Consistent form.refreshVisibility.flags := by
  apply form.consistent_of_passed
  intro node hn
  have hid : node.id ∈ form.nodes.map Node.id := List.mem_map_of_mem hn
  rw [flags_refreshVisibility, ← Function.iterate_succ_apply' form.passed,
    Function.iterate_succ_apply]
  exact form.isHidden_iterate_passed _ _ _ hid (form.within_of_acyclic h hid)

theorem Acyclic.isHidden_eq (h : form.Acyclic) {flags : Flags} (hf : form.Consistent flags)
    {id : Int} (hid : id ∈ form.nodes.map Node.id) :
    flags.isHidden id = form.refreshVisibility.isHidden id := by
  rw [isHidden, flags_refreshVisibility,
    form.isHidden_iterate_passed _ flags _ hid (form.within_of_acyclic h hid),
    Function.iterate_fixed hf.passed]

/-! ### The order of the elements -/

/-- What visibility sees of an element: its id, what lists it, its logic, and the field that it is. -/
def outline (node : Node Validator) :
    Int × Option Int × Logic × Option (Definition.Field Validator) :=
  (node.id, node.parent, node.item.logic, node.item.field?)

/-- A form has the elements of another one, each listed by the same page or group and with the same
value, in whatever order. -/
structure Rearranges (other form : Form) : Prop where
  outlines : (other.nodes.map outline).Perm (form.nodes.map outline)
  values : ∀ field ∈ form.fields, other.value field = form.value field

namespace Rearranges

variable {other : Form} (h : other.Rearranges form)

include h

theorem exists_outline {node : Node Validator} (hn : node ∈ other.nodes) :
    ∃ same ∈ form.nodes, outline same = outline node :=
  List.mem_map.mp (h.outlines.mem_iff.mp (List.mem_map_of_mem hn))

theorem mem_fields_iff {field : Definition.Field Validator} :
    field ∈ other.fields ↔ field ∈ form.fields := by
  have hmem : ∀ f : Form, field ∈ f.fields ↔ some field ∈ (f.nodes.map outline).map (·.2.2.2) := by
    intro f
    simp [f.mem_fields_iff, outline]
  rw [hmem, hmem, (h.outlines.map _).mem_iff]

theorem field?_eq (id : Int) : other.field? id = form.field? id := by
  apply Option.ext
  intro field
  rw [other.field?_eq_some_iff, form.field?_eq_some_iff, h.mem_fields_iff]

theorem ruleHolds_eq (flags : Flags) (rule : Rule) :
    other.ruleHolds flags rule = form.ruleHolds flags rule := by
  unfold ruleHolds
  rw [h.field?_eq]
  cases hf : form.field? rule.target with
  | none => rfl
  | some field => simp only [h.values field (form.field?_eq_some_iff.mp hf).1]

theorem hides_eq {flags : Flags} {node same : Node Validator} (ho : outline same = outline node) :
    other.hides flags node = form.hides flags same := by
  simp only [outline, Prod.mk.injEq] at ho
  unfold hides
  rw [ho.2.1, ho.2.2.1, funext (h.ruleHolds_eq flags)]

theorem dependsOn : other.DependsOn ≤ form.DependsOn := by
  rintro _ target ⟨node, hn, rfl, hd⟩
  obtain ⟨same, hs, ho⟩ := h.exists_outline hn
  rw [h.field?_eq] at hd
  simp only [outline, Prod.mk.injEq] at ho
  refine ⟨same, hs, ho.1, ?_⟩
  rwa [ho.2.1, ho.2.2.1]

theorem acyclic (hf : form.Acyclic) : other.Acyclic :=
  fun id hc => hf id (TransGen.mono h.dependsOn id id hc)

theorem mem_ids_iff {id : Int} : id ∈ other.nodes.map Node.id ↔ id ∈ form.nodes.map Node.id := by
  have hids : ∀ f : Form, f.nodes.map Node.id = (f.nodes.map outline).map Prod.fst := by
    intro f
    simp [outline]
  rw [hids, hids, (h.outlines.map _).mem_iff]

theorem consistent {flags : Flags} (hf : form.Consistent flags) : other.Consistent flags := by
  rw [consistent_iff]
  intro node hn
  obtain ⟨same, hs, ho⟩ := h.exists_outline hn
  have hid : same.id = node.id := congrArg Prod.fst ho
  rw [h.hides_eq ho, ← form.consistent_iff.mp hf same hs, hid]

end Rearranges

/-- Without cycles the rules have one solution, which is what a form's elements are set to, and which
does not hang on the order in which they are listed. -/
theorem refreshVisibility_unique (form : Form) (h : form.Acyclic) :
    form.Consistent form.refreshVisibility.flags ∧
    (∀ flags, form.Consistent flags → ∀ node ∈ form.nodes,
      flags.isHidden node.id = form.refreshVisibility.isHidden node.id) ∧
    (∀ other : Form, other.Rearranges form → ∀ id,
      other.refreshVisibility.isHidden id = form.refreshVisibility.isHidden id) := by
  refine ⟨h.consistent, fun flags hf node hn => h.isHidden_eq hf (List.mem_map_of_mem hn), ?_⟩
  intro other hr id
  by_cases hid : id ∈ other.nodes.map Node.id
  · exact ((hr.acyclic h).isHidden_eq (hr.consistent h.consistent) hid).symm
  · rw [other.isHidden_refreshVisibility_of_notMem hid,
      form.isHidden_refreshVisibility_of_notMem (mt hr.mem_ids_iff.mpr hid)]

/-! ### Rules that look ahead -/

theorem acyclic_of_rank (rank : Int → Nat)
    (h : ∀ node ∈ form.nodes, (∀ parent ∈ node.parent, rank parent < rank node.id) ∧
      (node.item.logic.isActive = true → ∀ rule ∈ node.item.logic.rules,
        (form.field? rule.target).isSome → rank rule.target < rank node.id)) : form.Acyclic := by
  have hstep : ∀ {id other}, form.DependsOn id other → rank other < rank id := by
    rintro _ other ⟨node, hn, rfl, hp | ⟨ha, rule, hr, rfl, hf⟩⟩
    · exact (h node hn).1 other hp
    · exact (h node hn).2 ha rule hr hf
  intro id hc
  have hlt : ∀ {other}, TransGen form.DependsOn id other → rank other < rank id := by
    intro other ht
    induction ht with
    | single hd => exact hstep hd
    | tail _ hd ih => exact Nat.lt_trans (hstep hd) ih
  exact Nat.lt_irrefl _ (hlt hc)

/-- Each element hangs on one further down: a field on one of the next page, which stands in a
group that hangs on the last field. -/
def lookingAhead : Form where
  definition := { id := 1, pages := [] }
  pages := [
    { heading := { id := 1 }
      children := [.field { id := 2, logic := .whenEmpty .appear .all [5] }] },
    { heading := { id := 3 }
      children := [
        .group { id := 4, logic := .whenEmpty .vanish .any [6] } [.field { id := 5 }],
        .field { id := 6 }] }]
  distinct := by decide

theorem acyclic_lookingAhead : lookingAhead.Acyclic :=
  lookingAhead.acyclic_of_rank (fun id => if id = 2 then 4 else if id = 5 then 3 else
    if id = 4 then 2 else if id = 6 then 1 else 0) (by decide)

theorem refreshVisibility_lookingAhead : lookingAhead.Acyclic ∧
    lookingAhead.refreshVisibility.hiddenIds = [2, 4, 5] ∧
    lookingAhead.Consistent lookingAhead.refreshVisibility.flags ∧
    (∀ flags, lookingAhead.Consistent flags → ∀ node ∈ lookingAhead.nodes,
      flags.isHidden node.id = lookingAhead.refreshVisibility.isHidden node.id) :=
  have h := refreshVisibility_unique lookingAhead acyclic_lookingAhead
  ⟨acyclic_lookingAhead, by decide, h.1, h.2.1⟩

end Form
end FormIntake
