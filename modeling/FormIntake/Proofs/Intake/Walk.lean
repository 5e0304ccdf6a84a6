import FormIntake.Proofs.Intake.Keeping
import FormIntake.Proofs.Intake.Turns

/-! # Walking through a form

A visitor submits the same values again and again, each time from the page that the last answer has
named (`Intake.walk`).  Where every visible field takes its value, the walk leads to each visible page
behind the first one, in order, and writes nothing until it has come to the last one; and from each
page that it leads to, the way back leads to the page before it (`Intake.walk_of_takes`). -/

namespace FormIntake

open Definition Effect

/-- The form filled in with values, its elements hidden and shown as they ask for. -/
def Form.filled (form : Form) (values : List (String × Value)) : Form :=
  (form.bind { values }).refreshVisibility

/-- The visible pages behind the first one. -/
def Form.ahead (form : Form) : List (Page Validator) := form.visible (form.pages.drop 1)

/-- Where a form whose values are accepted leads to in a direction. -/
def Form.neighbour? (form : Form) : Direction → Option Int
  | .next => form.nextPage?
  | .back => form.currentPage?.map fun page => form.previousPage?.getD page.id

/-- A submission changes a form by its values only, beside standing in it. -/
theorem Form.refreshVisibility_bind (form : Form) {submission : Submission}
    {values : List (String × Value)} (h : submission.values = values) :
    (form.bind submission).refreshVisibility =
      { form.filled values with submission := some submission } := by
  have hbind : form.bind submission =
      { form.bind { values } with submission := some submission } := by
    unfold bind setValues Submission.valueFor
    rw [h]
  have hflags : (form.bind submission).refreshVisibility.flags = (form.filled values).flags := by
    rw [filled, flags_refreshVisibility, flags_refreshVisibility, hbind]
    rfl
  have hsame : (form.bind submission).refreshVisibility =
      { form.bind submission with flags := (form.bind submission).refreshVisibility.flags } := rfl
  rw [hsame, hflags, hbind]
  rfl

namespace Intake

/-! ### Rounds -/

/-- A submission that is sent more than once, from one page or another. -/
structure Round where
  service : Service
  submission : Submission
  request : Request

namespace Round

/-- What is sent from a page in a direction. -/
def submissionFrom (round : Round) (page : Option Int) (direction : Direction) : Submission :=
  { round.submission with page, direction }

/-- What comes of sending it to the form. -/
def send (round : Round) (form : Form) (page : Option Int) (direction : Direction)
    (repository : Repository) (staged : List String) : Except Failure Subject × Run :=
  (process round.service (round.submissionFrom page direction) round.request).perform
    { desk := { form }, repository, staged }

/-- There are no extensions, these values are submitted, and the token and the gates let them in. -/
structure Fits (round : Round) (form : Form) (values : List (String × Value))
    (repository : Repository) (staged : List String) : Prop where
  idle : round.service.bus.Idle
  values_eq : (withUploads round.service round.submission).values = values
  letIn_eq : (outcome (letIn round.service round.submission round.request)
    { desk := { form }, repository, staged }).1 = .ok none

/-- Completion does not fail from where the stages before it lead to. -/
def Completes (round : Round) (form : Form) (page : Option Int) (repository : Repository)
    (staged : List String) : Prop :=
  let submission := round.submissionFrom page .next
  let passed := outcome (Step.firstAnswer (hurdles round.service submission round.request))
    { desk := { form }, repository, staged }
  (outcome (Completion.conclude round.service (withUploads round.service submission)
    round.request) passed.2).1.isOk = true

variable {round : Round} {form : Form} {values : List (String × Value)} {repository : Repository}
  {staged : List String}

/-- What is let in goes from page to page with the form filled in. -/
theorem Fits.exists_filled (h : round.Fits form values repository staged) (page : Option Int)
    (direction : Direction) :
    let submission := withUploads round.service (round.submissionFrom page direction)
    ∃ run : Run, run.desk.form =
        { (form.filled values).goTo page with submission := some submission } ∧
      outcome (Step.firstAnswer (hurdles round.service (round.submissionFrom page direction)
        round.request)) { desk := { form }, repository, staged } =
          outcome ((navigate submission).otherwise validateAll) run := by
  intro submission
  have hvalues : submission.values = values := h.values_eq
  obtain ⟨run, hform, ho⟩ := exists_filled_of_letIn h.idle (round.submissionFrom page direction) h.letIn_eq
  refine ⟨run, hform.trans ?_, ho⟩
  exact congrArg (·.goTo page) (form.refreshVisibility_bind hvalues)

end Round

section turns

variable {round : Round} {form : Form} {values : List (String × Value)} {repository : Repository}
  {staged : List String} (h : round.Fits form values repository staged)
  (hseveral : form.hasPages = true)
  (htakes : ∀ field ∈ form.fields, (form.filled values).isHidden field.id = false →
    field.Takes ((form.filled values).value field))

include h hseveral htakes

/-- Where every visible field takes its value the stages answer with the neighbour of the page in the
direction, and have no answer if there is none. -/
theorem Round.Fits.outcome_hurdles {page : Option Int} {before after : List (Page Validator)}
    {current : Page Validator}
    (hstands : ((form.filled values).goTo page).Stands before current after)
    (direction : Direction) :
    ∃ ended, outcome (Step.firstAnswer (hurdles round.service (round.submissionFrom page direction)
        round.request)) { desk := { form }, repository, staged } =
          (.ok ((((form.filled values).goTo page).neighbour? direction).map
            fun id => .reply (.page id)), ended) ∧
      ended.outside = ([], repository, staged) := by
  let turned := (form.filled values).goTo page
  obtain ⟨run, hform, ho⟩ := h.exists_filled page direction
  suffices hended : ∃ ended, outcome ((navigate (withUploads round.service
      (round.submissionFrom page direction))).otherwise validateAll) run =
        (.ok ((turned.neighbour? direction).map fun id => .reply (.page id)), ended) by
    obtain ⟨ended, he⟩ := hended
    rw [ho]
    exact ⟨ended, he, (Step.quiet_firstAnswer (quiet_hurdles _ _ _)).view_eq (ho.trans he)⟩
  have hcurrent : turned.currentPage? = some current := hstands.currentPage?_eq
  have haccepts : turned.accepts current = true :=
    Form.accepts_of_takes htakes hstands.mem
  have hpages : run.desk.form.hasPages = true := by rw [hform]; exact hseveral
  have hpage : run.desk.form.currentPage? = some current := by rw [hform]; exact hcurrent
  obtain ⟨answer, stayed, hnavigate, hturn⟩ := turn_navigate
    (withUploads round.service (round.submissionFrom page direction)) hpages hpage
  rw [hform] at hturn
  cases hturn with
  | back hback =>
      obtain rfl : direction = .back := of_decide_eq_true hback
      rw [Step.outcome_otherwise_of_some _ hnavigate, Form.neighbour?, hcurrent]
      exact ⟨stayed, rfl⟩
  | onward hback hnext _ =>
      obtain rfl : direction = .next := by cases direction <;> first | rfl | cases hback
      rw [Step.outcome_otherwise_of_some _ hnavigate, Form.neighbour?,
        show turned.nextPage? = some _ from hnext]
      exact ⟨stayed, rfl⟩
  | held hback hnext hfaulty _ => cases haccepts.symm.trans hfaulty
  | mishap hback hnext hfails => cases (Form.mishap?_of_accepts haccepts).symm.trans hfails
  | last hback hnext =>
      obtain rfl : direction = .next := by cases direction <;> first | rfl | cases hback
      obtain ⟨checked, hcheck⟩ := outcome_validateAll stayed
      have hsheet : stayed.sheet = run.sheet := (fixes_sheet_navigate _).view_eq hnavigate
      have hfilling : stayed.desk.form.filling = turned.filling := by
        have hrun : run.desk.form.filling = turned.filling := by
          rw [hform]
          rfl
        exact (congrArg Form.filling hsheet).trans hrun
      have hfaultless : turned.firstFaultyPage? = none :=
        Form.firstFaultyPage?_eq_none_of_takes htakes
      have hnone : stayed.desk.form.firstFaultyPage? = none := by
        rw [Form.firstFaultyPage?_of_filling hfilling]
        exact hfaultless
      have hsound : stayed.desk.form.mishap? stayed.desk.form.checked = none := by
        rw [Form.mishap?_checked_of_filling hfilling]
        exact Form.mishap?_eq_none_of_takes htakes turned.checked_subset
      rw [hsound, hnone] at hcheck
      rw [Step.outcome_otherwise_of_none _ hnavigate, hcheck, Form.neighbour?,
        show turned.nextPage? = none from hnext]
      exact ⟨checked, rfl⟩

section send

variable {page : Option Int} {before after : List (Page Validator)} {current : Page Validator}
  (hstands : ((form.filled values).goTo page).Stands before current after)

include hstands

/-- What is sent in a direction in which there is a neighbour is answered with it, and nothing is
written. -/
theorem Round.Fits.send_of_neighbour? {direction : Direction} {next : Int}
    (hnext : ((form.filled values).goTo page).neighbour? direction = some next) :
    ∃ ended, round.send form page direction repository staged = (.ok (.reply (.page next)), ended) ∧
      ended.outside = ([], repository, staged) := by
  obtain ⟨ended, ho, houtside⟩ := h.outcome_hurdles hseveral htakes hstands direction
  rw [hnext] at ho
  refine ⟨ended, ?_, houtside⟩
  rw [Round.send, process_eq]
  exact Step.perform_endsOr_of_some _ ho

/-- What is sent on from a page without a visible one behind it is accepted, if completion does not
fail. -/
theorem Round.Fits.send_of_last
    (hnext : ((form.filled values).goTo page).nextPage? = none)
    (hcompletes : round.Completes form page repository staged) :
    ∃ receipt, (round.send form page .next repository staged).1 = .ok (.reply (.accepted receipt)) := by
  obtain ⟨ended, ho, -⟩ := h.outcome_hurdles hseveral htakes hstands .next
  rw [Form.neighbour?, hnext] at ho
  unfold Completes at hcompletes
  dsimp only at hcompletes
  rw [ho, ← Completion.run_eq_conclude h.idle] at hcompletes
  rw [Round.send, process_eq, Step.perform_endsOr_of_none _ ho, ← Completion.run_eq_conclude h.idle]
  cases hrun : outcome (Completion.run round.service (withUploads round.service
      (round.submissionFrom page .next)) round.request) ended with
  | mk result completed =>
      rw [hrun] at hcompletes
      cases result with
      | error failure => cases hcompletes
      | ok subject =>
          obtain ⟨receipt, rfl⟩ := Completion.isAcceptance_of_run h.idle hrun
          exact ⟨receipt, congrArg Prod.fst hrun⟩

/-- What is answered with a page was sent from the visible page before it. -/
theorem Round.Fits.nextPage?_of_send {next : Int}
    (hsend : (round.send form page .next repository staged).1 = .ok (.reply (.page next))) :
    ((form.filled values).goTo page).nextPage? = some next := by
  cases hnext : ((form.filled values).goTo page).nextPage? with
  | none =>
      obtain ⟨ended, ho, -⟩ := h.outcome_hurdles hseveral htakes hstands .next
      rw [Form.neighbour?, hnext] at ho
      rw [Round.send, process_eq, Step.perform_endsOr_of_none _ ho,
        ← Completion.run_eq_conclude h.idle] at hsend
      obtain ⟨receipt, ⟨⟩⟩ := Completion.isAcceptance_of_run h.idle (Prod.ext hsend rfl)
  | some other =>
      have hto : ((form.filled values).goTo page).neighbour? .next = some other := hnext
      obtain ⟨ended, ho, -⟩ := h.send_of_neighbour? hseveral htakes hstands hto
      rw [ho] at hsend
      cases hsend
      rfl

end send

/-- Back from the page that a visible page leads to is back to that page. -/
theorem Round.Fits.send_back {back : Round} (hback : back.Fits form values repository staged)
    {page : Option Int} {current : Page Validator} {next : Int}
    (hcurrent : ((form.filled values).goTo page).currentPage? = some current)
    (hv : (form.filled values).isHidden current.id = false)
    (hsend : (round.send form page .next repository staged).1 = .ok (.reply (.page next))) :
    (back.send form (some next) .back repository staged).1 = .ok (.reply (.page current.id)) := by
  have hne : (form.filled values).pages ≠ [] := by
    intro hnil
    rw [Form.currentPage?, show ((form.filled values).goTo page).pages = [] from hnil] at hcurrent
    cases hcurrent
  obtain ⟨before, other, after, hstands⟩ := Form.exists_stands_goTo hne page
  obtain rfl : other = current := Option.some.inj (hstands.currentPage?_eq.symm.trans hcurrent)
  have hnext := h.nextPage?_of_send hseveral htakes hstands hsend
  obtain ⟨skipped, landing, rest, -, -, hlanding, -, hprevious⟩ := hstands.goTo_next hnext
  have hto : ((form.filled values).goTo (some next)).neighbour? .back = some other.id := by
    have hp : ((form.filled values).goTo (some next)).previousPage? = some other.id := hprevious hv
    have hc : ((form.filled values).goTo (some next)).currentPage? = some landing :=
      hlanding.currentPage?_eq
    rw [Form.neighbour?, hc, hp, Option.map_some, Option.getD_some]
  obtain ⟨ended, ho, -⟩ := hback.send_of_neighbour? hseveral htakes hlanding hto
  exact congrArg Prod.fst ho

end turns

/-! ### From the first page to the last -/

/-- What comes of submitting again and again, each time from the page that the last answer has
named. -/
def walk (form : Form) :
    List Round → Option Int → Repository → List String → List (Except Failure Subject × Run)
  | [], _, _, _ => []
  | round :: rest, page, repository, staged =>
    let result := round.send form page .next repository staged
    result :: walk form rest (page? result.1) result.2.repository result.2.staged

/-- The page from which is submitted after answers have named some pages. -/
def reached (page : Option Int) (named : List (Page Validator)) : Option Int :=
  (named.map fun other => some other.id).getLastD page

theorem reached_cons (page : Option Int) (first : Page Validator) (rest : List (Page Validator)) :
    reached page (first :: rest) = reached (some first.id) rest := List.getLastD_cons ..

section walk

variable {form : Form} {values : List (String × Value)} {repository : Repository}
  {staged : List String} (hseveral : form.hasPages = true)
  (htakes : ∀ field ∈ form.fields, (form.filled values).isHidden field.id = false →
    field.Takes ((form.filled values).value field))

include hseveral htakes

/-- From any page a walk of so many rounds leads to the visible pages behind it, in order, and writes
nothing; what comes after it is sent from the last of them. -/
theorem walk_append (further : List Round) {rounds : List Round}
    (hfits : ∀ round ∈ rounds, round.Fits form values repository staged) {page : Option Int}
    {before after : List (Page Validator)} {current : Page Validator}
    (hstands : ((form.filled values).goTo page).Stands before current after)
    (hlength : rounds.length = ((form.filled values).visible after).length) :
    let ahead := (form.filled values).visible after
    let last := reached page ahead
    ∃ results, walk form (rounds ++ further) page repository staged =
        results ++ walk form further last repository staged ∧
      results.map Prod.fst = ahead.map (fun page => .ok (.reply (.page page.id))) ∧
      (∀ result ∈ results, result.2.outside = ([], repository, staged)) ∧
      ∃ before current after, ((form.filled values).goTo last).Stands before current after ∧
        ((form.filled values).goTo last).nextPage? = none := by
  induction rounds generalizing page before after current with
  | nil =>
      have hnil : (form.filled values).visible after = [] := List.length_eq_zero_iff.mp hlength.symm
      rw [hnil]
      refine ⟨[], rfl, rfl, List.forall_mem_nil _, before, current, after, hstands, ?_⟩
      have hnext : ((form.filled values).goTo page).nextPage? = (form.filled values).firstVisible? after :=
        hstands.nextPage?_eq
      rw [reached, List.map_nil, List.getLastD_nil, hnext]
      exact Form.visible_eq_nil_iff.mp hnil
  | cons round rest ih =>
      have hsome : ((form.filled values).goTo page).nextPage? ≠ none := by
        rw [hstands.nextPage?_eq]
        intro hnone
        have hnil : (form.filled values).visible after = [] := Form.visible_eq_nil_iff.mpr hnone
        rw [hnil] at hlength
        cases hlength
      obtain ⟨next, hnext⟩ := Option.ne_none_iff_exists'.mp hsome
      obtain ⟨skipped, landing, behind, rfl, rfl, hlanding, hvisible, -⟩ := hstands.goTo_next hnext
      have hto : ((form.filled values).goTo page).neighbour? .next = some landing.id := hnext
      obtain ⟨ended, hsend, houtside⟩ :=
        (hfits round List.mem_cons_self).send_of_neighbour? hseveral htakes hstands hto
      have hahead : (form.filled values).visible (skipped ++ landing :: behind) =
          landing :: (form.filled values).visible behind := hvisible
      rw [hahead, List.length_cons, List.length_cons, Nat.add_right_cancel_iff] at hlength
      obtain ⟨results, hwalk, hanswers, hquiet, hlast⟩ :=
        ih (fun other ho => hfits other (List.mem_cons_of_mem _ ho)) hlanding hlength
      rw [hahead]
      dsimp only
      rw [reached_cons]
      refine ⟨(.ok (.reply (.page landing.id)), ended) :: results, ?_, ?_, ?_, hlast⟩
      · have hrepository : ended.repository = repository := congrArg (·.2.1) houtside
        have hstaged : ended.staged = staged := congrArg (·.2.2) houtside
        rw [List.cons_append, walk, hsend, List.cons_append, ← hwalk]
        dsimp only
        rw [hrepository, hstaged]
        rfl
      · rw [List.map_cons, hanswers, List.map_cons]
      · exact List.forall_mem_cons.mpr ⟨houtside, hquiet⟩

end walk

/-- Where every visible field takes its value, a visitor who starts from a page that the form does not
have, and submits the same values from each page that is named, is led to the visible pages behind the
first one, in order and each once; then the submission is accepted, if completion does not fail.  Until
then nothing is written.  And back from a page that a visible one has led to is back to that one. -/
theorem walk_of_takes (form : Form) (hseveral : form.hasPages = true)
    (values : List (String × Value))
    (htakes : ∀ field ∈ form.fields, (form.filled values).isHidden field.id = false →
      field.Takes ((form.filled values).value field))
    (start : Option Int) (hunknown : ∀ page ∈ form.pages, some page.id ≠ start)
    (repository : Repository) (staged : List String) (rounds : List Round) (last : Round)
    (hfits : ∀ round ∈ rounds ++ [last], round.Fits form values repository staged)
    (hlength : rounds.length = (form.filled values).ahead.length)
    (hcompletes : last.Completes form (reached start (form.filled values).ahead) repository staged) :
    let results := walk form (rounds ++ [last]) start repository staged
    let ahead := (form.filled values).ahead
    (∃ receipt, results.map Prod.fst =
      ahead.map (fun page => .ok (.reply (.page page.id))) ++ [.ok (.reply (.accepted receipt))]) ∧
    (ahead.map Page.id).Nodup ∧
    (∀ result ∈ results.dropLast, result.2.outside = ([], repository, staged)) ∧
    ∀ there ∈ rounds ++ [last], ∀ back ∈ rounds ++ [last], ∀ page current next,
      ((form.filled values).goTo page).currentPage? = some current →
      (form.filled values).isHidden current.id = false →
      (there.send form page .next repository staged).1 = .ok (.reply (.page next)) →
      (back.send form (some next) .back repository staged).1 =
        .ok (.reply (.page current.id)) := by
  intro results ahead
  obtain ⟨first, after, hpages⟩ : ∃ first after, form.pages = first :: after := by
    refine List.exists_cons_of_ne_nil ?_
    intro hnil
    rw [Form.hasPages, hnil] at hseveral
    cases hseveral
  have hstands : ((form.filled values).goTo start).Stands [] first after :=
    Form.stands_goTo_of_unknown hpages hunknown
  have hahead : (form.filled values).visible after = ahead := by
    have hdrop : (form.filled values).pages.drop 1 = after := by
      rw [show (form.filled values).pages = first :: after from hpages, List.drop_one, List.tail_cons]
    show _ = (form.filled values).visible ((form.filled values).pages.drop 1)
    rw [hdrop]
  have hlast : last.Fits form values repository staged :=
    hfits last (List.mem_append_right _ (List.mem_singleton_self _))
  obtain ⟨earlier, hwalk, hanswers, hquiet, before, current, behind, hend, hnext⟩ :=
    walk_append hseveral htakes [last]
      (fun round hr => hfits round (List.mem_append_left _ hr)) hstands (by rw [hahead]; exact hlength)
  rw [hahead] at hwalk hanswers hend hnext
  obtain ⟨receipt, hreceipt⟩ := hlast.send_of_last hseveral htakes hend hnext hcompletes
  have hresults : results =
      earlier ++ [last.send form (reached start ahead) .next repository staged] := hwalk
  refine ⟨⟨receipt, ?_⟩, ?_, ?_, ?_⟩
  · rw [hresults, List.map_append, hanswers, List.map_singleton, hreceipt]
  · have hsub : (ahead.map Page.id).Sublist (form.pages.map Page.id) :=
      (List.filter_sublist.trans (List.drop_sublist 1 _)).map _
    exact hsub.nodup form.nodup_pageIds
  · rw [hresults, List.dropLast_concat]
    exact hquiet
  · intro there hthere back hback page current next hcurrent hv hsend
    exact (hfits there hthere).send_back hseveral htakes (hfits back hback) hcurrent hv hsend

/-- A form of four pages, of which the second appears only while the field of the first is empty. -/
def journey : Form where
  definition := { id := 1, pages := [] }
  pages := [
    { heading := { id := 1 }, children := [.field { id := 2, required := true }] },
    { heading := { id := 3, logic := .whenEmpty .appear .all [2] }
      children := [.field { id := 4, required := true }] },
    { heading := { id := 5 }, children := [.field { id := 6 }] },
    { heading := { id := 7 }, children := [.field { id := 8, required := true }] }]
  distinct := by decide

/-- Values for its visible fields. -/
def luggage : List (String × Value) := [("2", .text "Ann"), ("6", .text "tea"), ("8", .text "Rome")]

/-- A submission of these values. -/
def leg : Round where
  service := { sessionToken := "token" }
  submission := { values := luggage, csrfToken := some "token" }
  request := {}

theorem fits_leg : leg.Fits journey luggage (.ledger {}) [] where
  idle := Bus.idle_empty
  values_eq := rfl
  letIn_eq := rfl

theorem walk_of_takes_journey :
    (journey.filled luggage).ahead.map Page.id = [5, 7] ∧
    ∃ receipt, (walk journey [leg, leg, leg] (some 9) (.ledger {}) []).map Prod.fst =
      [.ok (.reply (.page 5)), .ok (.reply (.page 7)), .ok (.reply (.accepted receipt))] := by
  have hahead : (journey.filled luggage).ahead.map Page.id = [5, 7] := by decide +kernel
  have htakes : ∀ field ∈ journey.fields, (journey.filled luggage).isHidden field.id = false →
      field.Takes ((journey.filled luggage).value field) := by
    intro field hf hv
    have hall : journey.fields.all (fun field => (journey.filled luggage).isHidden field.id ||
        decide (field.Takes ((journey.filled luggage).value field))) = true := by decide +kernel
    have hfield := List.all_eq_true.mp hall field hf
    rw [hv, Bool.false_or, decide_eq_true_eq] at hfield
    exact hfield
  have hunknown : ∀ page ∈ journey.pages, some page.id ≠ some 9 := by decide +kernel
  have hfits : ∀ round ∈ [leg, leg] ++ [leg], round.Fits journey luggage (.ledger {}) [] := by
    intro round hr
    simp only [List.cons_append, List.nil_append, List.mem_cons, List.not_mem_nil, or_false,
      or_self] at hr
    rw [hr]
    exact fits_leg
  have hlength : [leg, leg].length = (journey.filled luggage).ahead.length := by decide +kernel
  have hcompletes : leg.Completes journey (reached (some 9) (journey.filled luggage).ahead)
      (.ledger {}) [] := by
    unfold Round.Completes
    decide +kernel
  obtain ⟨⟨receipt, hanswers⟩, -⟩ := walk_of_takes journey rfl luggage htakes (some 9) hunknown
    (.ledger {}) [] [leg, leg] leg hfits hlength hcompletes
  have hpages : (journey.filled luggage).ahead.map
      (fun page => (.ok (.reply (.page page.id)) : Except Failure Subject)) =
        [.ok (.reply (.page 5)), .ok (.reply (.page 7))] := by
    have hids := congrArg (List.map fun id => (.ok (.reply (.page id)) : Except Failure Subject)) hahead
    rwa [List.map_map] at hids
  rw [hpages] at hanswers
  exact ⟨hahead, receipt, hanswers⟩

end Intake
end FormIntake
