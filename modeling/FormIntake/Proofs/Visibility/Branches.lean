import FormIntake.Proofs.Visibility.Settling

/-! # Hidden branches

Elements are hidden branch by branch, also where the rules never settle and the flags that are left
behind solve nothing (`Form.refreshVisibility_branches`).

What makes this so holds of every single pass, whatever flags it starts from.  A pass comes to the page
or group that lists an element before it comes to the element, so it leaves the element hidden exactly when
it has left hidden what lists it or turns the element away by its own rules
(`Form.isHidden_passed_iff`).  Hidden are therefore the elements that the pass turns away and what is
below them, and no others (`Form.isHidden_passed_iff_exists`). -/

namespace FormIntake

open Definition

namespace Form

variable (form : Form)

/-! ### What a pass turns away -/

/-- The flags as they are when a pass comes to an element: new for the elements before it, and for all
others those that the pass has started from. -/
def flagsAt (flags : Flags) (node : Node Validator) : Flags :=
  form.sweep (form.nodes.takeWhile (·.id ≠ node.id)) flags

/-- A pass turns an element away by its own rules: they count, and do not let it appear when the pass
comes to it. -/
def TurnsAway (flags : Flags) (node : Node Validator) : Prop :=
  node.item.logic.isActive = true ∧
    Form.appears { form with flags := form.flagsAt flags node } node.item.logic = false

instance (flags : Flags) (node : Node Validator) : Decidable (form.TurnsAway flags node) :=
  inferInstanceAs (Decidable (_ ∧ _))

variable {form}

theorem flagsAt_eq {before after : List (Node Validator)} {node : Node Validator}
    (h : form.nodes = before ++ node :: after) (flags : Flags) :
    form.flagsAt flags node = form.sweep before flags := by
  have hd : (form.nodes.map Node.id).Nodup := form.distinct
  rw [h, List.map_append, List.map_cons, List.nodup_append] at hd
  have hbefore : ∀ other ∈ before, decide (other.id ≠ node.id) = true := fun other ho =>
    decide_eq_true (hd.2.2 other.id (List.mem_map_of_mem ho) node.id List.mem_cons_self)
  rw [flagsAt, h, List.takeWhile_append_of_pos hbefore, List.takeWhile_cons_of_neg (by simp),
    List.append_nil]

/-- A pass leaves an element hidden exactly when it leaves hidden what lists it or turns it away. -/
theorem isHidden_passed_iff {flags : Flags} {node : Node Validator} (hn : node ∈ form.nodes) :
    (form.passed flags).isHidden node.id = true ↔
      (∃ parent, node.parent = some parent ∧ (form.passed flags).isHidden parent = true) ∨
        form.TurnsAway flags node := by
  obtain ⟨before, after, hs⟩ := List.append_of_mem hn
  rw [form.isHidden_passed hs, hides_eq_true_iff, TurnsAway, flagsAt_eq hs]
  refine or_congr_left (exists_congr fun parent => and_congr_right fun hp => ?_)
  rw [form.isHidden_passed_of_mem hs (form.mem_of_parent hs hp)]

/-- A pass leaves hidden what it turns away and all below it, and nothing else. -/
theorem isHidden_passed_iff_exists {flags : Flags} {node : Node Validator} (hn : node ∈ form.nodes) :
    (form.passed flags).isHidden node.id = true ↔
      ∃ top ∈ form.nodes, form.TurnsAway flags top ∧
        (node = top ∨ node ∈ top.item.descendants) := by
  constructor
  · refine form.nodes_induction ?_ ?_ hn
    · intro page hp hh
      have hm := form.page_mem_nodes hp
      rcases (isHidden_passed_iff hm).mp hh with ⟨_, hnone, _⟩ | ht
      · cases hnone
      · exact ⟨_, hm, ht, .inl rfl⟩
    · intro holder hm node hl ih hh
      have hnode := form.mem_of_lists hm hl
      rcases (isHidden_passed_iff hnode).mp hh with ⟨parent, hp, hh⟩ | ht
      · obtain rfl : holder.id = parent := Option.some.inj (hl.1.symm.trans hp)
        obtain ⟨top, htop, ht, rfl | hbelow⟩ := ih hh
        · exact ⟨holder, htop, ht, .inr hl.mem_descendants⟩
        · exact ⟨top, htop, ht, .inr (descendants_subset_descendants hbelow hl.mem_descendants)⟩
      · exact ⟨node, hnode, ht, .inl rfl⟩
  · rintro ⟨top, htop, ht, hbelow⟩
    have hh : (form.passed flags).isHidden top.id = true := (isHidden_passed_iff htop).mpr (.inr ht)
    rcases hbelow with rfl | hbelow
    · exact hh
    · exact form.isHidden_of_mem_descendants htop hh hbelow

/-! ### What is left behind -/

theorem not_turnsAway {node : Node Validator} (h : node.item.logic.isActive = false)
    (flags : Flags) : ¬ form.TurnsAway flags node := by
  rintro ⟨ha, -⟩
  rw [h] at ha
  cases ha

/-- An element without rules that count is left hidden exactly when what lists it is. -/
theorem isHidden_refreshVisibility_iff {node : Node Validator} (hn : node ∈ form.nodes)
    (h : node.item.logic.isActive = false) :
    form.refreshVisibility.isHidden node.id = true ↔
      ∃ parent, node.parent = some parent ∧ form.refreshVisibility.isHidden parent = true := by
  simp only [isHidden, form.flags_refreshVisibility_of_mem hn]
  rw [isHidden_passed_iff hn, or_iff_left (not_turnsAway h _)]

/-- Whatever its rules, its values and the flags that it had before, a form is left with all hidden that is
below something hidden.  An element without rules that count is hidden exactly when what lists it is, and
such a page is visible.  Hidden in all are the elements that the last pass turned away and what is
below them. -/
theorem refreshVisibility_branches (form : Form) :
    form.refreshVisibility.HidesBelow ∧
    (∀ node ∈ form.nodes, node.item.logic.isActive = false →
      (form.refreshVisibility.isHidden node.id = true ↔
        ∃ parent, node.parent = some parent ∧ form.refreshVisibility.isHidden parent = true)) ∧
    (∀ page ∈ form.pages, page.heading.logic.isActive = false →
      form.refreshVisibility.isHidden page.id = false) ∧
    (∀ node ∈ form.nodes, form.refreshVisibility.isHidden node.id = true ↔
      ∃ top ∈ form.nodes, form.TurnsAway (form.settle (form.nodes.length - 1) .visible) top ∧
        (node = top ∨ node ∈ top.item.descendants)) := by
  refine ⟨form.hidesBelow_refreshVisibility, fun node => isHidden_refreshVisibility_iff, ?_, ?_⟩
  · intro page hp ha
    rw [← Bool.not_eq_true]
    intro hh
    obtain ⟨_, hnone, _⟩ := (isHidden_refreshVisibility_iff (form.page_mem_nodes hp) ha).mp hh
    cases hnone
  · intro node hn
    rw [isHidden, form.flags_refreshVisibility_of_mem hn, isHidden_passed_iff_exists hn]

/-! ### Rules that never settle -/

/-- Passes that come back to the state in which all is visible, and leave it again, never settle. -/
theorem not_settlesAt_of_returns {period : Nat} (hp : 0 < period)
    (hr : form.passed^[period] .visible = .visible) (hc : form.passed .visible ≠ .visible)
    (rounds : Nat) (flags : Flags) : ¬ form.SettlesAt rounds flags := by
  intro h
  have hlater := h.later (Nat.le_mul_of_pos_left rounds hp)
  have hflags : flags = .visible := by
    rw [← hlater.1, Function.iterate_mul, Function.iterate_fixed hr]
  exact hc (hflags ▸ h.2)

/-- A group that disappears while the field in it is empty, and so takes away what it looks at. -/
def blinker : Form where
  definition := { id := 1, pages := [] }
  pages := [
    { heading := { id := 1 }
      children := [
        .group { id := 2, logic := .whenEmpty .vanish .all [4] } [
          .group { id := 3 } [.field { id := 4 }]],
        .field { id := 5 }] },
    { heading := { id := 6 }
      children := [.block { id := 7 }] }]
  distinct := by decide
  flags := ⟨[5, 6]⟩

/-- Only the group with the rule is turned away; the group and the field below it are hidden with it. -/
theorem refreshVisibility_blinker :
    (∀ rounds flags, ¬ blinker.SettlesAt rounds flags) ∧
    ¬ blinker.Consistent blinker.refreshVisibility.flags ∧
    blinker.refreshVisibility.hiddenIds = [2, 3, 4] ∧
    (blinker.nodes.filter fun node => blinker.TurnsAway (blinker.settle 6 .visible) node).map Node.id =
      [2] ∧
    blinker.refreshVisibility.HidesBelow ∧
    (blinker.refreshVisibility.isHidden 4 = true ↔
      ∃ parent, some 3 = some parent ∧ blinker.refreshVisibility.isHidden parent = true) ∧
    blinker.refreshVisibility.isHidden 6 = false := by
  obtain ⟨hbelow, hinherits, hpages, -⟩ := refreshVisibility_branches blinker
  refine ⟨not_settlesAt_of_returns Nat.two_pos (by decide) (by decide), ?_, by decide, by decide,
    hbelow, ?_, ?_⟩
  · intro h
    exact absurd h.passed (by decide)
  · have hlength : 3 < blinker.nodes.length := by decide
    exact hinherits blinker.nodes[3] (List.getElem_mem hlength) rfl
  · have hlength : 1 < blinker.pages.length := by decide
    exact hpages blinker.pages[1] (List.getElem_mem hlength) rfl

end Form
end FormIntake
