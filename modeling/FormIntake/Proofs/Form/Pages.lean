import FormIntake.Form.Navigation
import FormIntake.Form.Validation
import FormIntake.Proofs.Form.Filling

/-! # Standing on a page

A form that stands on a page has pages before it and after it (`Form.Stands`).  The neighbours of the
page are the first visible ones on either side, and what is skipped on the way to a neighbour is
hidden (`Form.exists_of_firstVisible?`).  So from the next visible page the way back leads to where
one came from, if that is visible (`Form.Stands.goTo_next`). -/

namespace FormIntake

open Definition

namespace Form

/-- The form stands on a page, with these pages before it and those after it. -/
structure Stands (form : Form) (before : List (Page Validator)) (page : Page Validator)
    (after : List (Page Validator)) : Prop where
  pages_eq : form.pages = before ++ page :: after
  current_eq : form.current = before.length

/-- The visible pages among some. -/
def visible (form : Form) (pages : List (Page Validator)) : List (Page Validator) :=
  pages.filter fun page => !form.isHidden page.id

/-- The page that is being filled in is hidden, and so are all pages before it. -/
def IsStranded (form : Form) : Prop :=
  ∀ page ∈ form.pages.take (form.current + 1), form.isHidden page.id = true

variable {form : Form} {before after : List (Page Validator)} {page : Page Validator}

/-! ### The first visible page -/

theorem firstVisible?_eq_none {pages : List (Page Validator)}
    (h : form.firstVisible? pages = none) : ∀ page ∈ pages, form.isHidden page.id = true := by
  intro page hp
  rw [firstVisible?, Option.map_eq_none_iff, List.find?_eq_none] at h
  simpa using h page hp

/-- What stands before the first visible page is hidden. -/
theorem exists_of_firstVisible? {pages : List (Page Validator)} {id : Int}
    (h : form.firstVisible? pages = some id) :
    ∃ skipped page rest, pages = skipped ++ page :: rest ∧ page.id = id ∧
      form.isHidden page.id = false ∧ ∀ other ∈ skipped, form.isHidden other.id = true := by
  obtain ⟨page, hfind, rfl⟩ := Option.map_eq_some_iff.mp h
  obtain ⟨hv, skipped, rest, rfl, hs⟩ := List.find?_eq_some_iff_append.mp hfind
  exact ⟨skipped, page, rest, rfl, rfl, by simpa using hv, fun other ho => by simpa using hs other ho⟩

theorem firstVisible?_append {skipped rest : List (Page Validator)}
    (hs : ∀ other ∈ skipped, form.isHidden other.id = true)
    (hv : form.isHidden page.id = false) :
    form.firstVisible? (skipped ++ page :: rest) = some page.id := by
  have hfind : (skipped ++ page :: rest).find? (fun page => !form.isHidden page.id) = some page := by
    rw [List.find?_eq_some_iff_append]
    exact ⟨by simp [hv], skipped, rest, rfl, fun other ho => by simp [hs other ho]⟩
  rw [firstVisible?, hfind, Option.map_some]

theorem visible_append {skipped rest : List (Page Validator)}
    (hs : ∀ other ∈ skipped, form.isHidden other.id = true)
    (hv : form.isHidden page.id = false) :
    form.visible (skipped ++ page :: rest) = page :: form.visible rest := by
  have hnone : skipped.filter (fun page => !form.isHidden page.id) = [] := by
    rw [List.filter_eq_nil_iff]
    intro other ho
    simp [hs other ho]
  rw [visible, List.filter_append, hnone, List.nil_append, List.filter_cons_of_pos (by simp [hv])]
  rfl

theorem visible_eq_nil_iff {pages : List (Page Validator)} :
    form.visible pages = [] ↔ form.firstVisible? pages = none := by
  rw [visible, List.filter_eq_nil_iff, firstVisible?, Option.map_eq_none_iff, List.find?_eq_none]

/-! ### The neighbours of a page -/

namespace Stands

variable (h : form.Stands before page after)

include h

theorem mem : page ∈ form.pages := by
  rw [h.pages_eq]
  exact List.mem_append_right _ List.mem_cons_self

theorem currentPage?_eq : form.currentPage? = some page := by
  rw [currentPage?, h.pages_eq, h.current_eq, List.getElem?_append_right (Nat.le_refl _),
    Nat.sub_self, List.getElem?_cons_zero]

theorem pages_eq_append : form.pages = (before ++ [page]) ++ after := by
  rw [h.pages_eq, List.append_cons]

theorem succ_current_eq : form.current + 1 = (before ++ [page]).length := by
  rw [h.current_eq, List.length_append, List.length_singleton]

theorem nextPage?_eq : form.nextPage? = form.firstVisible? after := by
  rw [nextPage?, h.pages_eq_append, h.succ_current_eq, List.drop_left]

theorem previousPage?_eq : form.previousPage? = form.firstVisible? before.reverse := by
  rw [previousPage?, h.pages_eq, h.current_eq, List.take_left]

/-- A form is stranded on a page that is hidden and has no visible one before it. -/
theorem isStranded_iff :
    form.IsStranded ↔ form.previousPage? = none ∧ form.isHidden page.id = true := by
  rw [IsStranded, h.pages_eq_append, h.succ_current_eq, List.take_left, h.previousPage?_eq]
  constructor
  · intro hall
    refine ⟨?_, hall page (List.mem_append_right _ (List.mem_singleton_self _))⟩
    rw [firstVisible?, Option.map_eq_none_iff, List.find?_eq_none]
    intro other ho
    simp [hall other (List.mem_append_left _ (List.mem_reverse.mp ho))]
  · rintro ⟨hnone, hhidden⟩ other ho
    rcases List.mem_append.mp ho with ho | ho
    · exact firstVisible?_eq_none hnone other (List.mem_reverse.mpr ho)
    · rwa [List.mem_singleton.mp ho]

end Stands

/-! ### Going to a page -/

theorem ids_sublist_nodes : ∀ pages : List (Page Validator),
    (pages.map Page.id).Sublist ((pages.flatMap Page.nodes).map Node.id)
  | [] => .slnil
  | page :: rest => by
    rw [List.flatMap_cons, List.map_append, List.map_cons]
    exact .cons_cons _ ((ids_sublist_nodes rest).trans (List.sublist_append_right _ _))

theorem nodup_pageIds (form : Form) : (form.pages.map Page.id).Nodup :=
  (ids_sublist_nodes form.pages).nodup form.distinct

theorem stands_goTo (h : form.pages = before ++ page :: after) :
    (form.goTo (some page.id)).Stands before page after := by
  refine ⟨h, ?_⟩
  have hd := form.nodup_pageIds
  rw [h, List.map_append, List.map_cons, List.nodup_append] at hd
  have hnone : before.findIdx? (fun other => some other.id = some page.id) = none := by
    rw [List.findIdx?_eq_none_iff]
    intro other ho
    have hne := hd.2.2 other.id (List.mem_map_of_mem ho) page.id List.mem_cons_self
    simpa using hne
  show (form.pages.findIdx? fun other => some other.id = some page.id).getD 0 = _
  rw [h, List.findIdx?_append, hnone, List.findIdx?_cons, if_pos (decide_eq_true rfl)]
  simp

/-- A page that the form does not have stands for the first one. -/
theorem stands_goTo_of_unknown {unknown : Option Int} (h : form.pages = page :: after)
    (hu : ∀ other ∈ form.pages, some other.id ≠ unknown) :
    (form.goTo unknown).Stands [] page after := by
  refine ⟨h, ?_⟩
  have hnone : form.pages.findIdx? (fun other => some other.id = unknown) = none := by
    rw [List.findIdx?_eq_none_iff]
    intro other ho
    simpa using hu other ho
  show (form.pages.findIdx? fun other => some other.id = unknown).getD 0 = 0
  rw [hnone, Option.getD_none]

/-- Wherever a form that has pages is sent, it stands on one of them. -/
theorem exists_stands_goTo (hp : form.pages ≠ []) (sent : Option Int) :
    ∃ before page after, (form.goTo sent).Stands before page after := by
  by_cases hknown : ∃ page ∈ form.pages, some page.id = sent
  · obtain ⟨page, hm, rfl⟩ := hknown
    obtain ⟨before, after, h⟩ := List.append_of_mem hm
    exact ⟨before, page, after, stands_goTo h⟩
  · obtain ⟨page, after, h⟩ := List.exists_cons_of_ne_nil hp
    exact ⟨[], page, after, stands_goTo_of_unknown h fun other ho he => hknown ⟨other, ho, he⟩⟩

/-- The next visible page has the one that was left behind as its visible neighbour before it. -/
theorem Stands.goTo_next (h : form.Stands before page after) {next : Int}
    (hn : form.nextPage? = some next) :
    ∃ skipped landing rest, after = skipped ++ landing :: rest ∧ landing.id = next ∧
      (form.goTo (some next)).Stands (before ++ page :: skipped) landing rest ∧
      form.visible after = landing :: form.visible rest ∧
      (form.isHidden page.id = false →
        (form.goTo (some next)).previousPage? = some page.id) := by
  rw [h.nextPage?_eq] at hn
  obtain ⟨skipped, landing, rest, rfl, rfl, hv, hs⟩ := exists_of_firstVisible? hn
  have hpages : form.pages = (before ++ page :: skipped) ++ landing :: rest := by
    rw [h.pages_eq, List.append_assoc, List.cons_append]
  have hstands := stands_goTo hpages
  refine ⟨skipped, landing, rest, rfl, rfl, hstands, visible_append hs hv, fun hpage => ?_⟩
  rw [hstands.previousPage?_eq, List.reverse_append, List.reverse_cons, List.append_assoc]
  exact firstVisible?_append (fun other ho => hs other (List.mem_reverse.mp ho)) hpage

end Form
end FormIntake
