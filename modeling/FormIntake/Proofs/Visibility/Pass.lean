import Mathlib.Logic.Function.Iterate
import FormIntake.Form.Visibility
import FormIntake.Proofs.Form.Order

/-! # Passes

What one pass over the elements does.  A pass gives every element the flag that it has to have when
the elements before it have their new flags and those behind it their old ones
(`Form.isHidden_pass`).  The flags of a form after `Form.refreshVisibility` are those after as many
passes as it has elements, from the state in which all is visible
(`Form.flags_refreshVisibility`): a pass that changes nothing can be left out or repeated.

After a pass, whatever the rules say, what is below a hidden element is hidden
(`Form.isHidden_of_mem_descendants`), and so it is in the end
(`Form.hidesBelow_refreshVisibility`). -/

namespace FormIntake

open Definition

/-! ### What an element looks at -/

theorem Definition.Logic.verdict_congr {logic : Logic} {p q : Rule → Bool}
    (h : ∀ rule ∈ logic.rules, p rule = q rule) : logic.verdict p = logic.verdict q := by
  have hall : logic.rules.all p = logic.rules.all q := by
    rw [Bool.eq_iff_iff, List.all_eq_true, List.all_eq_true]
    exact forall₂_congr fun rule hr => by rw [h rule hr]
  have hany : logic.rules.any p = logic.rules.any q := by
    rw [Bool.eq_iff_iff, List.any_eq_true, List.any_eq_true]
    exact exists_congr fun rule => and_congr_right fun hr => by rw [h rule hr]
  simp only [Logic.verdict, hall, hany]

/-- A logic whose rules ask that fields are empty. -/
def Definition.Logic.whenEmpty (action : LogicAction) (quorum : LogicMatch) (targets : List Int) :
    Logic where
  enabled := true
  action := action
  quorum := quorum
  rules := targets.map fun target => { target, operator := .empty }

namespace Form

variable (form : Form)

/-- Whether the flag of an element hangs on that of another one: on the page or group that lists it
and, where its logic counts, on every field that one of its rules names. -/
def DependsOn (id other : Int) : Prop :=
  ∃ node ∈ form.nodes, node.id = id ∧
    (node.parent = some other ∨
      node.item.logic.isActive = true ∧
        ∃ rule ∈ node.item.logic.rules, rule.target = other ∧ (form.field? other).isSome)

theorem mem_ids_of_dependsOn {id other : Int} (h : form.DependsOn id other) :
    other ∈ form.nodes.map Node.id := by
  obtain ⟨node, hn, -, hp | ⟨-, -, -, -, hf⟩⟩ := h
  · exact form.parent_mem_ids hn hp
  · obtain ⟨field, hf⟩ := Option.isSome_iff_exists.mp hf
    obtain ⟨hm, rfl⟩ := form.field?_eq_some_iff.mp hf
    obtain ⟨node, hn, hi⟩ := form.mem_fields_iff.mp hm
    exact Item.id_of_field? hi ▸ List.mem_map_of_mem hn

theorem ruleHolds_congr {f g : Flags} {rule : Rule}
    (h : (form.field? rule.target).isSome → f.isHidden rule.target = g.isHidden rule.target) :
    form.ruleHolds f rule = form.ruleHolds g rule := by
  unfold ruleHolds
  cases hf : form.field? rule.target with
  | none => rfl
  | some field =>
      have hid : field.id = rule.target := (form.field?_eq_some_iff.mp hf).2
      rw [hf] at h
      simp only [hid, h rfl]

/-- Whether an element has to be hidden hangs on the flags of what it depends on only. -/
theorem hides_congr {f g : Flags} {node : Node Validator} (hn : node ∈ form.nodes)
    (h : ∀ other, form.DependsOn node.id other → f.isHidden other = g.isHidden other) :
    form.hides f node = form.hides g node := by
  have hp : node.parent.any f.isHidden = node.parent.any g.isHidden := by
    cases hparent : node.parent with
    | none => rfl
    | some parent => exact h parent ⟨node, hn, rfl, .inl hparent⟩
  unfold hides
  cases ha : node.item.logic.isActive with
  | false => simp [hp]
  | true =>
      rw [hp, Logic.verdict_congr fun rule hr => form.ruleHolds_congr fun hf =>
        h rule.target ⟨node, hn, rfl, .inr ⟨ha, rule, hr, rfl, hf⟩⟩]

/-! ### One pass -/

/-- The flags after some elements were looked at. -/
def sweep (nodes : List (Node Validator)) (flags : Flags) : Flags :=
  nodes.foldl (fun flags node => flags.set node.id (form.hides flags node)) flags

@[simp] theorem sweep_cons (node : Node Validator) (rest : List (Node Validator)) (flags : Flags) :
    form.sweep (node :: rest) flags = form.sweep rest (flags.set node.id (form.hides flags node)) :=
  rfl

theorem sweep_append (before after : List (Node Validator)) (flags : Flags) :
    form.sweep (before ++ after) flags = form.sweep after (form.sweep before flags) :=
  List.foldl_append

theorem isHidden_sweep_of_notMem {id : Int} : ∀ {nodes : List (Node Validator)} {flags : Flags},
    id ∉ nodes.map Node.id → (form.sweep nodes flags).isHidden id = flags.isHidden id
  | [], _, _ => rfl
  | node :: rest, flags, h => by
    rw [List.map_cons, List.mem_cons, not_or] at h
    rw [sweep_cons, isHidden_sweep_of_notMem h.2, Flags.isHidden_set, if_neg h.1]

theorem sweep_eq_self {flags : Flags} : ∀ {nodes : List (Node Validator)},
    (∀ node ∈ nodes, flags.isHidden node.id = form.hides flags node) →
      form.sweep nodes flags = flags
  | [], _ => rfl
  | node :: rest, h => by
    rw [sweep_cons, ← h node List.mem_cons_self, Flags.set_isHidden]
    exact sweep_eq_self fun other ho => h other (List.mem_cons_of_mem _ ho)

/-- The flags after one pass over all elements. -/
def passed (flags : Flags) : Flags := form.sweep form.nodes flags

theorem fst_foldl_look : ∀ (nodes : List (Node Validator)) (state : Flags × Bool),
    (nodes.foldl form.look state).1 = form.sweep nodes state.1
  | [], _ => rfl
  | node :: rest, (flags, changed) => by
    rw [List.foldl_cons, fst_foldl_look rest, sweep_cons]
    by_cases h : form.hides flags node = flags.isHidden node.id <;> simp [look, h]

theorem foldl_look_of_changed : ∀ (nodes : List (Node Validator)) (flags : Flags),
    (nodes.foldl form.look (flags, true)).2 = true
  | [], _ => rfl
  | node :: rest, flags => by
    rw [List.foldl_cons]
    by_cases h : form.hides flags node = flags.isHidden node.id
    · simp only [look, h, if_true, foldl_look_of_changed rest flags]
    · simp only [look, h, if_false, foldl_look_of_changed rest]

theorem sweep_eq_of_unchanged : ∀ {nodes : List (Node Validator)} {flags : Flags},
    (nodes.foldl form.look (flags, false)).2 = false → form.sweep nodes flags = flags
  | [], _, _ => rfl
  | node :: rest, flags, h => by
    rw [List.foldl_cons] at h
    by_cases hn : form.hides flags node = flags.isHidden node.id
    · simp only [look, hn, if_true] at h
      rw [sweep_cons, hn, Flags.set_isHidden, sweep_eq_of_unchanged h]
    · simp only [look, hn, if_false, foldl_look_of_changed] at h
      cases h

/-- Passes until one changes nothing come to the same as all the passes. -/
theorem settle_eq_iterate : ∀ (rounds : Nat) (flags : Flags),
    form.settle rounds flags = form.passed^[rounds] flags
  | 0, _ => rfl
  | rounds + 1, flags => by
    have hfst : (form.pass flags).1 = form.passed flags := form.fst_foldl_look _ _
    rw [settle, Function.iterate_succ_apply, ← hfst]
    cases hc : (form.pass flags).2 with
    | true => simp [hc, settle_eq_iterate rounds]
    | false =>
        have hfix : form.passed flags = flags := form.sweep_eq_of_unchanged hc
        rw [hfst, hfix, Function.iterate_fixed hfix]
        simp [hc, hfst, hfix]

theorem flags_refreshVisibility :
    form.refreshVisibility.flags = form.passed^[form.nodes.length] .visible :=
  form.settle_eq_iterate _ _

/-- A form with an element is left as the last pass leaves it. -/
theorem flags_refreshVisibility_of_mem {node : Node Validator} (hn : node ∈ form.nodes) :
    form.refreshVisibility.flags =
      form.passed (form.settle (form.nodes.length - 1) .visible) := by
  have hlength : form.nodes.length = (form.nodes.length - 1).succ :=
    (Nat.succ_pred_eq_of_pos (List.length_pos_of_mem hn)).symm
  rw [settle_eq_iterate, ← Function.iterate_succ_apply' form.passed, ← hlength,
    flags_refreshVisibility]

theorem isHidden_refreshVisibility_of_notMem {id : Int} (h : id ∉ form.nodes.map Node.id) :
    form.refreshVisibility.isHidden id = false := by
  have hk : ∀ rounds, (form.passed^[rounds] .visible).isHidden id = false := by
    intro rounds
    induction rounds with
    | zero => rfl
    | succ rounds ih =>
        rw [Function.iterate_succ_apply', passed, form.isHidden_sweep_of_notMem h, ih]
  rw [isHidden, flags_refreshVisibility, hk]

/-! ### The flags after a pass -/

section position

variable {before after : List (Node Validator)} {node : Node Validator}

theorem isHidden_passed_of_mem (h : form.nodes = before ++ node :: after) {id : Int}
    (hid : id ∈ before.map Node.id) (flags : Flags) :
    (form.passed flags).isHidden id = (form.sweep before flags).isHidden id := by
  have hd : (form.nodes.map Node.id).Nodup := form.distinct
  rw [h, List.map_append, List.nodup_append] at hd
  rw [passed, h, sweep_append, isHidden_sweep_of_notMem]
  exact fun ha => hd.2.2 id hid id ha rfl

theorem isHidden_passed (h : form.nodes = before ++ node :: after) (flags : Flags) :
    (form.passed flags).isHidden node.id = form.hides (form.sweep before flags) node := by
  have hd : (form.nodes.map Node.id).Nodup := form.distinct
  rw [h, List.map_append, List.map_cons, List.nodup_append, List.nodup_cons] at hd
  rw [passed, h, sweep_append, sweep_cons, isHidden_sweep_of_notMem _ hd.2.1.1,
    Flags.isHidden_set, if_pos rfl]

end position

/-- After a pass an element is hidden if the page or group that lists it is. -/
theorem isHidden_of_parent {node : Node Validator} {parent : Int} (hn : node ∈ form.nodes)
    (hp : node.parent = some parent) {flags : Flags}
    (h : (form.passed flags).isHidden parent = true) :
    (form.passed flags).isHidden node.id = true := by
  obtain ⟨before, after, hs⟩ := List.append_of_mem hn
  have hb := form.mem_of_parent hs hp
  rw [form.isHidden_passed_of_mem hs hb] at h
  rw [form.isHidden_passed hs, hides, hp, Option.any_some, h, Bool.true_or]

/-- After a pass all that is below a hidden element is hidden. -/
theorem isHidden_of_mem_descendants {node below : Node Validator} (hn : node ∈ form.nodes)
    {flags : Flags} (h : (form.passed flags).isHidden node.id = true)
    (hb : below ∈ node.item.descendants) : (form.passed flags).isHidden below.id = true := by
  have hall : ∀ below ∈ node.item.descendants,
      below ∈ form.nodes ∧ (form.passed flags).isHidden below.id = true := by
    refine forall_mem_descendants ?_ ⟨hn, h⟩
    rintro holder listed hl ⟨hm, hh⟩
    have hlisted : listed ∈ form.nodes := form.mem_of_lists hm hl
    exact ⟨hlisted, form.isHidden_of_parent hlisted hl.1 hh⟩
  exact (hall below hb).2

/-- What is below a hidden element is hidden. -/
def HidesBelow : Prop :=
  ∀ node ∈ form.nodes, form.isHidden node.id = true →
    ∀ below ∈ node.item.descendants, form.isHidden below.id = true

theorem hidesBelow_refreshVisibility : form.refreshVisibility.HidesBelow := by
  intro node hn h below hb
  rw [isHidden, form.flags_refreshVisibility_of_mem hn] at h ⊢
  exact form.isHidden_of_mem_descendants hn h hb

end Form
end FormIntake
