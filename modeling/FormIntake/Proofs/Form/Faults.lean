import Mathlib.Data.List.Forall2
import Mathlib.Data.List.Induction
import FormIntake.Proofs.Form.Filling
import FormIntake.Proofs.Form.Pages

/-! # What validation reports

A form is filled in, its elements are hidden and shown, and all its pages are validated: then the
messages that stand for visible fields are those of the visible fields that do not take their values,
one for each of them and in reading order, and the first faulty page is the first page with such a
field.  Validation ends without this just where a validator of a visible field fails over a value
(`Form.errors_validate`).

Validation leaves every field that it comes to with its own message or with none
(`Form.lookup_faults_of_mem`).  Fields of hidden pages are passed over, but they are hidden
themselves, so that no validator fails over them, and no earlier message of theirs shows. -/

namespace FormIntake

open Definition

/-- After the entries of a key were taken out it has none, and all other keys have what they had. -/
theorem Assoc.lookup_erase {α β : Type} [DecidableEq α] (key other : α) (entries : List (α × β)) :
    (erase key entries).lookup other = if other = key then none else entries.lookup other := by
  by_cases ho : other = key
  · rw [if_pos ho, ho, lookup_erase_self]
  · rw [if_neg ho]
    induction entries with
    | nil => rfl
    | cons e rest ih =>
        by_cases he : e.1 = key
        · have hne : (other == e.1) = false := beq_false_of_ne (he ▸ ho)
          rw [List.lookup_cons, hne, ← ih]
          simp [erase, he]
        · have hk : erase key (e :: rest) = e :: erase key rest := by simp [erase, he]
          rw [hk, List.lookup_cons, List.lookup_cons, ih]

/-! ### Single fields -/

namespace Definition.Field

/-- A field turns a value down with a message: its own one for a value that is missing, or that of
the first validator that does not accept the value. -/
inductive Refuses (field : Definition.Field Validator) (value : FieldValue) : String → Prop
  | missing (required : field.required = true) (empty : value.isEmpty = true) :
    field.Refuses value field.requiredMessage
  | unfit {before after : List Validator} {validator : Validator} {message : String}
    (filled : value.isEmpty = false) (validators_eq : field.validators = before ++ validator :: after)
    (passed : ∀ earlier ∈ before, earlier value = .ok none)
    (failed : validator value = .ok (some message)) :
    field.Refuses value message

/-- A validator of a field fails over a value that is not empty, and those before it accept it. -/
structure FailsOver (field : Definition.Field Validator) (value : FieldValue) (failure : Failure) :
    Prop where
  filled : value.isEmpty = false
  validator : ∃ before validator after, field.validators = before ++ validator :: after ∧
    (∀ earlier ∈ before, earlier value = .ok none) ∧ validator value = .error failure

variable {field : Definition.Field Validator} {value : FieldValue}

/-- What is said of a value is said by a validator that the value comes to. -/
theorem firstMessage_eq_iff {said : Except Failure (Option String)} (hs : said ≠ .ok none) :
    ∀ {validators : List Validator}, Validator.firstMessage validators value = said ↔
      ∃ before validator after, validators = before ++ validator :: after ∧
        (∀ earlier ∈ before, earlier value = .ok none) ∧ validator value = said
  | [] => by simp [Validator.firstMessage, hs.symm]
  | first :: rest => by
    rw [Validator.firstMessage]
    split
    · next hn =>
      rw [firstMessage_eq_iff hs]
      constructor
      · rintro ⟨before, validator, after, rfl, hb, hv⟩
        exact ⟨first :: before, validator, after, rfl, List.forall_mem_cons.mpr ⟨hn, hb⟩, hv⟩
      · rintro ⟨before, validator, after, hsplit, hb, hv⟩
        cases before with
        | nil =>
            cases hsplit
            exact absurd (hv.symm.trans hn) hs
        | cons other before =>
            cases hsplit
            exact ⟨before, validator, after, rfl, fun e he => hb e (List.mem_cons_of_mem _ he), hv⟩
    · next hn =>
      constructor
      · exact fun h => ⟨[], first, rest, rfl, List.forall_mem_nil _, h⟩
      · rintro ⟨before, validator, after, hsplit, hb, hv⟩
        cases before with
        | nil =>
            cases hsplit
            exact hv
        | cons other before =>
            cases hsplit
            exact absurd (hb first List.mem_cons_self) hn

theorem refuses_of_faultOf {message : String} (h : field.faultOf value = .ok (some message)) :
    field.Refuses value message := by
  unfold faultOf at h
  cases he : value.isEmpty with
  | true =>
      cases hr : field.required with
      | true =>
          rw [he, hr, if_pos rfl, if_pos rfl, Except.ok.injEq, Option.some.injEq] at h
          exact h ▸ .missing hr he
      | false =>
          rw [he, hr, if_pos rfl, if_neg Bool.false_ne_true] at h
          cases h
  | false =>
      rw [he, if_neg Bool.false_ne_true, firstMessage_eq_iff (by simp)] at h
      obtain ⟨before, validator, after, hv, hb, hm⟩ := h
      exact .unfit he hv hb hm

theorem faultOf_eq_error_iff {failure : Failure} :
    field.faultOf value = .error failure ↔ field.FailsOver value failure := by
  unfold faultOf
  cases he : value.isEmpty with
  | true =>
      rw [if_pos rfl]
      constructor
      · rintro ⟨⟩
      · intro h
        cases he.symm.trans h.filled
  | false =>
      rw [if_neg Bool.false_ne_true, firstMessage_eq_iff (by simp)]
      exact ⟨fun h => ⟨he, h⟩, FailsOver.validator⟩

end Definition.Field

namespace Form

variable {form : Form} {field : Definition.Field Validator}

/-- The visible fields that do not take their values, in reading order. -/
def failing (form : Form) : List (Definition.Field Validator) :=
  form.fields.filter fun field =>
    form.isHidden field.id = false ∧ ¬ field.Takes (form.value field)

theorem mem_failing_iff : field ∈ form.failing ↔
    field ∈ form.fields ∧ form.isHidden field.id = false ∧ ¬ field.Takes (form.value field) := by
  rw [failing, List.mem_filter, decide_eq_true_eq]

theorem faultOf_eq_none_iff : form.faultOf field = .ok none ↔
    ¬ (form.isHidden field.id = false ∧ ¬ field.Takes (form.value field)) := by
  rw [faultOf]
  cases form.isHidden field.id with
  | true => simp
  | false => simp [Field.faultOf_eq_none_iff]

theorem refuses_of_faultOf {message : String} (h : form.faultOf field = .ok (some message)) :
    field.Refuses (form.value field) message := by
  rw [faultOf] at h
  split at h
  · cases h
  · exact Field.refuses_of_faultOf h

theorem faultOf_eq_error_iff {failure : Failure} : form.faultOf field = .error failure ↔
    form.isHidden field.id = false ∧ field.FailsOver (form.value field) failure := by
  rw [faultOf]
  cases form.isHidden field.id with
  | true => simp
  | false => simp [Field.faultOf_eq_error_iff]

/-! ### Validators that fail -/

theorem mishap?_append (first second : List (Definition.Field Validator)) :
    form.mishap? (first ++ second) = (form.mishap? first).or (form.mishap? second) :=
  List.findSome?_append

theorem mishap?_flatMap_congr {fields others : Page Validator → List (Definition.Field Validator)} :
    ∀ {pages : List (Page Validator)},
      (∀ page ∈ pages, form.mishap? (fields page) = form.mishap? (others page)) →
        form.mishap? (pages.flatMap fields) = form.mishap? (pages.flatMap others)
  | [], _ => rfl
  | page :: rest, h => by
    obtain ⟨hfirst, hrest⟩ := List.forall_mem_cons.mp h
    rw [List.flatMap_cons, List.flatMap_cons, mishap?_append, mishap?_append, hfirst,
      mishap?_flatMap_congr hrest]

theorem mishap?_eq_none_iff {fields : List (Definition.Field Validator)} :
    form.mishap? fields = none ↔ ∀ field ∈ fields, ∃ message, form.faultOf field = .ok message := by
  rw [mishap?, List.findSome?_eq_none_iff]
  refine forall₂_congr fun field _ => ?_
  cases form.faultOf field <;> simp

theorem mishap?_eq_some_iff {fields : List (Definition.Field Validator)} {failure : Failure} :
    form.mishap? fields = some failure ↔ ∃ before field after, fields = before ++ field :: after ∧
      form.isHidden field.id = false ∧ field.FailsOver (form.value field) failure ∧
      ∀ earlier ∈ before, form.isHidden earlier.id = false →
        ∀ other, ¬ earlier.FailsOver (form.value earlier) other := by
  rw [mishap?, List.findSome?_eq_some_iff]
  refine exists_congr fun before => exists_congr fun field => exists_congr fun after => ?_
  refine and_congr Iff.rfl ?_
  rw [← and_assoc]
  refine and_congr ?_ (forall₂_congr fun earlier _ => ?_)
  · rw [← faultOf_eq_error_iff]
    cases form.faultOf field <;> simp
  · cases he : form.faultOf earlier with
    | ok message =>
        refine iff_of_true rfl fun hv other ho => ?_
        rw [faultOf_eq_error_iff.mpr ⟨hv, ho⟩] at he
        cases he
    | error other =>
        obtain ⟨hv, ho⟩ := faultOf_eq_error_iff.mp he
        exact iff_of_false (by rintro ⟨⟩) fun h => h hv other ho

/-- Where hidden pages hide their fields no validator fails over what is passed over. -/
theorem mishap?_checkedOn (hb : form.HidesBelow) {page : Page Validator} (hp : page ∈ form.pages) :
    form.mishap? (form.checkedOn page) = form.mishap? page.fields := by
  rw [checkedOn]
  split
  · next hh =>
    refine (mishap?_eq_none_iff.mpr fun field hf => ⟨none, ?_⟩).symm
    rw [faultOf_eq_none_iff]
    rintro ⟨hv, -⟩
    rw [isHidden_page_eq_false hb hp hf hv] at hh
    cases hh
  · rfl

theorem mishap?_checked (hb : form.HidesBelow) : form.mishap? form.checked = form.mishap? form.fields :=
  mishap?_flatMap_congr fun _ hp => mishap?_checkedOn hb hp

/-! ### Messages -/

theorem renewed_append {first : List (Definition.Field Validator)} (h : form.mishap? first = none)
    (second : List (Definition.Field Validator)) (faults : List (Int × String)) :
    form.renewed faults (first ++ second) = form.renewed (form.renewed faults first) second := by
  rw [mishap?_eq_none_iff] at h
  induction first generalizing faults with
  | nil => rfl
  | cons field rest ih =>
      obtain ⟨⟨message, hm⟩, hrest⟩ := List.forall_mem_cons.mp h
      rw [List.cons_append, renewed, renewed, hm]
      cases message with
      | none => exact ih hrest _
      | some message => exact ih hrest _

/-- A field over which no validator fails is left with what its value calls for. -/
theorem lookup_renewed_singleton {message : Option String} (h : form.faultOf field = .ok message)
    (faults : List (Int × String)) (id : Int) : (form.renewed faults [field]).lookup id =
      if id = field.id then message else faults.lookup id := by
  rw [renewed, h]
  cases message with
  | none => exact Assoc.lookup_erase _ _ _
  | some message => exact Assoc.lookup_put _ _ _ _

/-- Fields that were validated have the messages that their values call for. -/
theorem lookup_faults_of_mem {fields : List (Definition.Field Validator)} (hs : fields ⊆ form.fields)
    (hn : form.mishap? fields = none) (hf : field ∈ fields) :
    form.faultOf field = .ok ((form.validateFields fields).faults.lookup field.id) := by
  show _ = Except.ok ((form.renewed form.faults fields).lookup field.id)
  induction fields using List.reverseRecOn with
  | nil => cases hf
  | append_singleton before last ih =>
      have hb : before ⊆ form.fields := fun _ hm => hs (List.mem_append_left _ hm)
      have hl : last ∈ form.fields := hs (List.mem_append_right _ (List.mem_singleton_self last))
      rw [mishap?_eq_none_iff, List.forall_mem_append, ← mishap?_eq_none_iff] at hn
      obtain ⟨message, hm⟩ := hn.2 last (List.mem_singleton_self last)
      rw [renewed_append hn.1, lookup_renewed_singleton hm]
      by_cases he : field.id = last.id
      · rw [if_pos he, field_ext (hs hf) hl he, hm]
      · have hne : field ≠ last := fun h => he (h ▸ rfl)
        rw [if_neg he]
        exact ih hb hn.1 ((List.mem_append.mp hf).resolve_right fun h => hne (List.mem_singleton.mp h))

/-- The message for a field over which no validator fails. -/
def message? (form : Form) (field : Definition.Field Validator) : Option String :=
  (form.faultOf field).toOption.join

/-- Once all visible ones among some fields were validated, the messages that stand for them are those of
the faulty ones. -/
theorem faultsAmong_validateFields {validated fields : List (Definition.Field Validator)}
    (hs : validated ⊆ form.fields) (hn : form.mishap? validated = none)
    (hv : ∀ field ∈ fields, form.isHidden field.id = false → field ∈ validated) :
    (form.validateFields validated).faultsAmong fields =
      fields.filterMap fun field => (form.message? field).map fun m => (field.id, m) := by
  rw [faultsAmong]
  refine List.filterMap_congr fun field hf => ?_
  have hsame : (form.validateFields validated).isHidden field.id = form.isHidden field.id := rfl
  rw [hsame, message?]
  cases hh : form.isHidden field.id with
  | true =>
      rw [if_pos rfl, faultOf, hh, if_pos rfl]
      rfl
  | false =>
      rw [if_neg Bool.false_ne_true, lookup_faults_of_mem hs hn (hv field hf hh)]
      rfl

/-- Where hidden pages hide their fields, all visible fields are validated. -/
theorem mem_checked (hb : form.HidesBelow) (hf : field ∈ form.fields)
    (hv : form.isHidden field.id = false) : field ∈ form.checked := by
  obtain ⟨page, hp, hm⟩ := List.mem_flatMap.mp hf
  refine List.mem_flatMap_of_mem hp ?_
  rw [checkedOn, isHidden_page_eq_false hb hp hm hv, if_neg Bool.false_ne_true]
  exact hm

/-- Where hidden pages hide their fields, the messages that stand after validation are those of all
faulty fields. -/
theorem errors_validate_eq (hb : form.HidesBelow) (hn : form.mishap? form.checked = none) :
    form.validate.errors =
      form.fields.filterMap fun field => (form.message? field).map fun m => (field.id, m) :=
  faultsAmong_validateFields form.checked_subset hn fun _ hf hv => mem_checked hb hf hv

/-- Picking some of a list and making one thing of each is picking by what can be made. -/
theorem forall₂_filter_filterMap {α β : Type} {p : α → Bool} {make : α → Option β}
    {R : α → β → Prop} : ∀ {as : List α}, (∀ a ∈ as, make a = none ↔ p a = false) →
      (∀ a ∈ as, ∀ b, make a = some b → R a b) → List.Forall₂ R (as.filter p) (as.filterMap make)
  | [], _, _ => .nil
  | a :: as, hn, hr => by
    obtain ⟨hna, hnas⟩ := List.forall_mem_cons.mp hn
    obtain ⟨hra, hras⟩ := List.forall_mem_cons.mp hr
    cases hm : make a with
    | none =>
        have hp := hna.mp hm
        rw [List.filterMap_cons_none hm, List.filter_cons_of_neg (by simp [hp])]
        exact forall₂_filter_filterMap hnas hras
    | some b =>
        have hp : p a = true := by
          by_contra hp
          rw [hna.mpr (by simpa using hp)] at hm
          cases hm
        rw [List.filterMap_cons_some hm, List.filter_cons_of_pos hp]
        exact .cons (hra b hm) (forall₂_filter_filterMap hnas hras)

/-- Where no validator fails, the messages of the fields that do not take their values are all there
are. -/
theorem forall₂_message? {fields : List (Definition.Field Validator)}
    (hn : form.mishap? fields = none) :
    List.Forall₂ (fun field error => error.1 = field.id ∧ field.Refuses (form.value field) error.2)
      (fields.filter fun field =>
        form.isHidden field.id = false ∧ ¬ field.Takes (form.value field))
      (fields.filterMap fun field => (form.message? field).map fun m => (field.id, m)) := by
  rw [mishap?_eq_none_iff] at hn
  refine forall₂_filter_filterMap (fun field hf => ?_) fun field hf error he => ?_
  · obtain ⟨message, hm⟩ := hn field hf
    rw [Option.map_eq_none_iff, decide_eq_false_iff_not, ← faultOf_eq_none_iff, message?, hm]
    cases message <;> simp [Except.toOption]
  · obtain ⟨message, hm⟩ := hn field hf
    rw [message?, hm] at he
    obtain ⟨text, ht, rfl⟩ := Option.map_eq_some_iff.mp he
    obtain rfl : message = some text := ht
    exact ⟨rfl, refuses_of_faultOf hm⟩

/-! ### Faulty pages -/

/-- A page is not accepted when it has a visible field that does not take its value. -/
theorem accepts_eq_false_iff (hb : form.HidesBelow) {page : Page Validator} (hp : page ∈ form.pages) :
    form.accepts page = false ↔ ∃ field ∈ page.fields, field ∈ form.failing := by
  have hfaulty : ∀ field ∈ page.fields, form.passes field = false ↔ field ∈ form.failing := by
    intro field hf
    have hm : field ∈ form.fields := List.mem_flatMap_of_mem hp hf
    rw [← Bool.not_eq_true, passes_iff, faultOf_eq_none_iff, not_not, mem_failing_iff,
      and_iff_right hm]
  rw [accepts, List.all_eq_false]
  constructor
  · rintro ⟨field, hf, hfault⟩
    have hmem := form.checkedOn_subset page hf
    exact ⟨field, hmem, (hfaulty field hmem).mp (by simpa using hfault)⟩
  · rintro ⟨field, hf, hfail⟩
    refine ⟨field, ?_, by simpa using (hfaulty field hf).mpr hfail⟩
    rw [checkedOn, isHidden_page_eq_false hb hp hf (mem_failing_iff.mp hfail).2.1,
      if_neg Bool.false_ne_true]
    exact hf

/-- The first faulty page is the first one with a visible field that does not take its value. -/
theorem firstFaultyPage?_eq_some_iff (hb : form.HidesBelow) {page : Page Validator} :
    form.firstFaultyPage? = some page ↔ ∃ before after, form.pages = before ++ page :: after ∧
      form.isHidden page.id = false ∧ (∃ field ∈ page.fields, field ∈ form.failing) ∧
      ∀ earlier ∈ before, ∀ field ∈ earlier.fields, field ∉ form.failing := by
  rw [firstFaultyPage?, List.find?_eq_some_iff_append]
  constructor
  · rintro ⟨hp, before, after, hs, he⟩
    have hpage : page ∈ form.pages := hs ▸ List.mem_append_right _ List.mem_cons_self
    obtain ⟨field, hf, hfail⟩ := (accepts_eq_false_iff hb hpage).mp (by simpa using hp)
    refine ⟨before, after, hs, isHidden_page_eq_false hb hpage hf (mem_failing_iff.mp hfail).2.1,
      ⟨field, hf, hfail⟩, ?_⟩
    intro earlier hm other ho hfail
    have hfalse := (accepts_eq_false_iff hb (hs ▸ List.mem_append_left _ hm)).mpr ⟨other, ho, hfail⟩
    have htrue := he earlier hm
    simp [hfalse] at htrue
  · rintro ⟨before, after, hs, -, hfail, he⟩
    have hpage : page ∈ form.pages := hs ▸ List.mem_append_right _ List.mem_cons_self
    refine ⟨by rw [(accepts_eq_false_iff hb hpage).mpr hfail]; rfl, before, after, hs, ?_⟩
    intro earlier hm
    rw [Bool.not_not]
    by_contra hfalse
    obtain ⟨other, ho, hfail⟩ := (accepts_eq_false_iff hb (hs ▸ List.mem_append_left _ hm)).mp
      (by simpa using hfalse)
    exact he earlier hm other ho hfail

theorem firstFaultyPage?_eq_none_iff (hb : form.HidesBelow) :
    form.firstFaultyPage? = none ↔ form.failing = [] := by
  constructor
  · intro h
    rw [List.eq_nil_iff_forall_not_mem]
    intro field hf
    obtain ⟨hm, hv, ht⟩ := mem_failing_iff.mp hf
    exact ht (takes_of_firstFaultyPage?_eq_none hb h hm hv)
  · intro h
    refine firstFaultyPage?_eq_none_of_takes fun field hf hv => ?_
    by_contra ht
    have hm := mem_failing_iff.mpr ⟨hf, hv, ht⟩
    rw [h] at hm
    cases hm

/-- Validation reports exactly the visible fields that do not take what was submitted for them, in
reading order, each with its own message if its value is missing and otherwise with the message of
the first validator that turns the value down.  It passes just where there is nothing to report; else
the first faulty page is the first page with such a field, and is visible.  Nothing below a hidden
element is reported.  Only a validator that fails over the value of a visible field keeps validation
from its end. -/
theorem errors_validate (form : Form) (submission : Submission) :
    let filled := (form.bind submission).refreshVisibility
    let checked := filled.validate
    (∀ failure, filled.mishap? filled.checked = some failure ↔
      ∃ before field after, filled.fields = before ++ field :: after ∧
        filled.isHidden field.id = false ∧ field.FailsOver (filled.value field) failure ∧
        ∀ earlier ∈ before, filled.isHidden earlier.id = false →
          ∀ other, ¬ earlier.FailsOver (filled.value earlier) other) ∧
    (filled.mishap? filled.checked = none →
      (checked.firstFaultyPage? = none ↔ checked.errors = []) ∧
      List.Forall₂ (fun field error => error.1 = field.id ∧ field.Refuses (filled.value field) error.2)
        filled.failing checked.errors) ∧
    (∀ page, checked.firstFaultyPage? = some page ↔
      ∃ before after, filled.pages = before ++ page :: after ∧ filled.isHidden page.id = false ∧
        (∃ field ∈ page.fields, field ∈ filled.failing) ∧
        ∀ earlier ∈ before, ∀ field ∈ earlier.fields, field ∉ filled.failing) ∧
    ∀ node ∈ filled.nodes, filled.isHidden node.id = true →
      ∀ field ∈ node.item.fieldsBelow, field.id ∉ checked.errors.map Prod.fst := by
  intro filled checked
  have hb : filled.HidesBelow := hidesBelow_refreshVisibility _
  have hfirst : checked.firstFaultyPage? = filled.firstFaultyPage? :=
    firstFaultyPage?_of_filling (filled.filling_validateFields filled.checked)
  refine ⟨fun failure => ?_, fun hn => ?_, fun page => hfirst ▸ firstFaultyPage?_eq_some_iff hb, ?_⟩
  · rw [mishap?_checked hb, mishap?_eq_some_iff]
  · have hreported : List.Forall₂ (fun field error => error.1 = field.id ∧
        field.Refuses (filled.value field) error.2) filled.failing checked.errors := by
      rw [show checked.errors = _ from errors_validate_eq hb hn]
      exact forall₂_message? (mishap?_checked hb ▸ hn)
    refine ⟨?_, hreported⟩
    rw [hfirst, firstFaultyPage?_eq_none_iff hb, ← List.length_eq_zero_iff, hreported.length_eq,
      List.length_eq_zero_iff]
  · intro node hn hh field hf hr
    obtain ⟨below, hd, hi⟩ := List.mem_filterMap.mp hf
    have hv : filled.isHidden field.id = true :=
      (show below.id = field.id from Item.id_of_field? hi) ▸ hb node hn hh below hd
    obtain ⟨error, he, hid⟩ := List.mem_map.mp hr
    obtain ⟨other, -, ho⟩ := List.mem_filterMap.mp he
    have hhidden : checked.isHidden other.id = filled.isHidden other.id := rfl
    split at ho
    · cases ho
    · next hshown =>
      obtain ⟨message, -, rfl⟩ := Option.map_eq_some_iff.mp ho
      rw [hhidden, show other.id = field.id from hid, hv] at hshown
      exact hshown rfl

end Form
end FormIntake
