import FormIntake.Form.Build
import FormIntake.Form.Standard
import FormIntake.Proofs.Form.Faults
import FormIntake.Proofs.Result

/-! # Forms that are used again

A form that submissions were tried on is as good as a newly built one for the next submission
(`Form.receive_after`).  Whatever is done with a form leaves its blank alone (`Form.blank_after`): its
definition, its pages and the entry that it is saved as.  And what taking in a submission comes to hangs
on the blank only (`Form.receive_blank`), as filling in withdraws all values and messages, the flags are
found from none, and the page is looked up anew.  So no message of a page that is hidden by then, and
that validation passes over, can come from an earlier submission. -/

namespace FormIntake

open Definition

namespace Form

/-- Something that is done with a form. -/
inductive Handling where
  | bind (submission : Submission)
  | setValue (field : Int) (raw : Value)
  | refreshVisibility
  | goTo (page : Option Int)
  | validatePage (page : Int)
  | validate

variable (form : Form)

/-- The form after something was done with it; what names no field or page of the form does nothing. -/
def handle : Handling → Form
  | .bind submission => form.bind submission
  | .setValue field raw => ((form.field? field).map fun f => form.setValue f raw).getD form
  | .refreshVisibility => form.refreshVisibility
  | .goTo page => form.goTo page
  | .validatePage page => ((form.page? page).map form.validatePage).getD form
  | .validate => form.validate

/-- The form after one thing after the other was done with it. -/
def after (history : List Handling) : Form := history.foldl handle form

/-- The form with a submission taken in, validated from the page that it came from, and the first page
that is not accepted, unless a validator has failed. -/
def receive (submission : Submission) : Form × Except Failure (Option (Page Validator)) :=
  let turned := (form.bind submission).refreshVisibility.goTo submission.page
  (turned.validate,
    match turned.mishap? turned.checked with
    | some failure => .error failure
    | none => .ok turned.validate.firstFaultyPage?)

/-! ### Filling in -/

/-- Filling in a form is setting one field after the other: each field gets the same value and loses its
message. -/
theorem value_foldl_setValue (submission : Submission) {field : Definition.Field Validator}
    (hf : field ∈ form.fields) :
    let each := form.fields.foldl (fun form f => form.setValue f (submission.valueFor f.id)) form
    each.value field = (form.bind submission).value field ∧ each.faults.lookup field.id = none := by
  have hset : ∀ fields ⊆ form.fields, field ∈ fields →
      let each := fields.foldl (fun form f => form.setValue f (submission.valueFor f.id)) form
      each.values.lookup field.id = some (field.kind.coerce (submission.valueFor field.id)) ∧
        each.faults.lookup field.id = none := by
    intro fields
    induction fields using List.reverseRecOn with
    | nil => exact fun _ h => absurd h List.not_mem_nil
    | append_singleton before last ih =>
        intro hs hm
        have hb : before ⊆ form.fields := fun _ h => hs (List.mem_append_left _ h)
        have hl : last ∈ form.fields := hs (List.mem_append_right _ (List.mem_singleton_self last))
        rw [List.foldl_append, List.foldl_cons, List.foldl_nil]
        simp only [setValue, Assoc.lookup_put, Assoc.lookup_erase]
        by_cases he : field.id = last.id
        · rw [if_pos he, if_pos he, field_ext hf hl he]
          exact ⟨rfl, rfl⟩
        · have hne : field ≠ last := fun h => he (h ▸ rfl)
          rw [if_neg he, if_neg he]
          exact ih hb ((List.mem_append.mp hm).resolve_right fun h => hne (List.mem_singleton.mp h))
  obtain ⟨hv, hn⟩ := hset form.fields (List.Subset.refl _) hf
  refine ⟨?_, hn⟩
  rw [value_bind hf, value, hv, Option.getD_some]

/-! ### Blank forms -/

/-- What is left of a form without anything that submissions have made of it. -/
def blank : Form :=
  { form with values := [], flags := .visible, faults := [], current := 0, submission := none }

/-- Nothing that is done with a form changes more of it than submissions do. -/
theorem blank_handle (handling : Handling) : (form.handle handling).blank = form.blank := by
  cases handling with
  | bind submission => rfl
  | setValue field raw =>
      rw [handle]
      cases form.field? field with
      | none => rfl
      | some f => rfl
  | refreshVisibility => rfl
  | goTo page => rfl
  | validatePage page =>
      rw [handle]
      cases form.page? page with
      | none => rfl
      | some p => rfl
  | validate => rfl

theorem blank_after (history : List Handling) : (form.after history).blank = form.blank := by
  induction history generalizing form with
  | nil => rfl
  | cons handling rest ih =>
      rw [after, List.foldl_cons]
      exact (ih (form.handle handling)).trans (form.blank_handle handling)

/-- What a submission finds in a form does not count. -/
theorem receive_blank (submission : Submission) :
    form.blank.receive submission = form.receive submission := by
  have hflags : (form.blank.bind submission).refreshVisibility.flags =
      (form.bind submission).refreshVisibility.flags := by
    rw [flags_refreshVisibility, flags_refreshVisibility]
    rfl
  have hturned : (form.blank.bind submission).refreshVisibility.goTo submission.page =
      (form.bind submission).refreshVisibility.goTo submission.page := by
    have hblank : (form.blank.bind submission).refreshVisibility =
        { form.bind submission with
          flags := (form.blank.bind submission).refreshVisibility.flags, current := 0 } := rfl
    rw [hblank, hflags]
    rfl
  simp only [receive, hturned]

/-! ### Using a form again -/

/-- A submission makes of a form that much was done with what it makes of a newly built one: the same
values, hidden elements, page, messages and outcome. -/
theorem receive_after {registry : Registry} {definition : FormDefinition} {used fresh : Form}
    (hu : build registry definition = .ok used) (hf : build registry definition = .ok fresh)
    (history : List Handling) (submission : Submission) :
    (used.after history).receive submission = fresh.receive submission := by
  obtain rfl : used = fresh := Except.ok.inj (hu.symm.trans hf)
  rw [← receive_blank, blank_after, receive_blank]

/-- A form with a second page for those who come along. -/
def outing : FormDefinition where
  id := 1
  pages := [
    ⟨{ id := 1 }, [.field { id := 2, label := "Coming along" }]⟩,
    ⟨{ id := 3, logic := { enabled := true, rules := [{ target := 2, value := "yes" }] } },
      [.field { id := 4, label := "Seat", required := true }]⟩]

/-- Somebody comes along without choosing a seat. -/
def seatless : List Form.Handling :=
  [.bind { values := [("2", .text "yes")] }, .refreshVisibility, .goTo (some 3), .validatePage 3]

/-- The message for the seat that was not chosen does not show for the next one, who stays at home. -/
theorem receive_after_seatless :
    ∃ form, build .standard outing = .ok form ∧
      (form.after seatless).errors = [(4, "This field is required")] ∧
      (form.after seatless).receive { values := [("2", .text "no")], page := some 1 } =
        form.receive { values := [("2", .text "no")], page := some 1 } := by
  have herrors : (build .standard outing).map (fun form => (form.after seatless).errors) =
      .ok [(4, "This field is required")] := by decide +kernel
  obtain ⟨form, hform, he⟩ := exists_of_map_eq_ok herrors
  exact ⟨form, hform, he, receive_after hform hform seatless _⟩

end Form
end FormIntake
