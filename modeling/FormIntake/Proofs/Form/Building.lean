import FormIntake.Form.Build
import FormIntake.Proofs.Form.Order
import FormIntake.Proofs.Result
import Mathlib.Data.List.Forall2
import Mathlib.Data.List.Nodup

/-! # What building comes to

Building a form goes through its definition once.  It either gives every element of the definition its
counterpart in the form (`Node.Realizes`), or ends at the first field that cannot be built, for what is
wrong with it (`FirstFault`).  Which of the two it is shows at each element (`Builds`), and is put together
from the parts of an element (`Builds.bind`).

No id is found in use as long as those of the definition differ, so nothing else can fail
(`Form.build_eq_error_iff`). -/

namespace FormIntake

open Definition

/-! ### Counterparts -/

namespace Definition

variable (registry : Registry)

/-- A field as its definition has it, with the validators that the definition names. -/
structure Field.Realizes (field : Field Check) (made : Field Validator) : Prop where
  eq : made = { field with validators := made.validators }
  validators : List.Forall₂ (fun check validator => registry.build check = .ok validator)
    field.validators made.validators
  isCoercible : field.kind.isCoercible field.default = true

/-- A page or an element as its definition has it; what it lists is not looked at. -/
inductive Item.Realizes : Item Check → Item Validator → Prop
  | page (heading : Heading) (children : List (Element Check)) (made : List (Element Validator)) :
    Realizes (.page ⟨heading, children⟩) (.page ⟨heading, made⟩)
  | group (heading : Heading) (children : List (Element Check)) (made : List (Element Validator)) :
    Realizes (.group heading children) (.group heading made)
  | field {field : Field Check} {made : Field Validator} (h : field.Realizes registry made) :
    Realizes (.field field) (.field made)
  | block (block : Block) : Realizes (.block block) (.block block)

/-- The counterpart of an element in the same place. -/
structure Node.Realizes (node : Node Check) (made : Node Validator) : Prop where
  item : node.item.Realizes registry made.item
  parent_eq : made.parent = node.parent

/-- Why a field cannot be built: for a validator, or after all of these for its default. -/
inductive Field.Fault (field : Field Check) : Failure → Prop
  | validator {before after : List Check} {check : Check} {failure : Failure}
    (split : field.validators = before ++ check :: after)
    (hbefore : ∀ other ∈ before, ∃ validator, registry.build other = .ok validator)
    (hcheck : registry.build check = .error failure) : Fault field failure
  | default (hall : ∀ check ∈ field.validators, ∃ validator, registry.build check = .ok validator)
    (hdefault : field.kind.isCoercible field.default = false) : Fault field .unwritableNumber

/-- Some fields can be built up to one, which fails. -/
def FirstFault (fields : List (Field Check)) (failure : Failure) : Prop :=
  ∃ before field after, fields = before ++ field :: after ∧
    (∀ other ∈ before, ∃ made, other.Realizes registry made) ∧ field.Fault registry failure

/-- The fields among some elements. -/
def fieldsAmong {V : Type} (nodes : List (Node V)) : List (Field V) :=
  nodes.filterMap fun node => node.item.field?

theorem fieldsAmong_append {V : Type} (before after : List (Node V)) :
    fieldsAmong (before ++ after) = fieldsAmong before ++ fieldsAmong after :=
  List.filterMap_append ..

variable {registry}

theorem Item.Realizes.id_eq {item : Item Check} {made : Item Validator}
    (h : item.Realizes registry made) : made.id = item.id := by
  cases h with
  | page => rfl
  | group => rfl
  | field h => rw [Item.id, Item.id, h.eq]
  | block => rfl

theorem Item.Realizes.logic_eq {item : Item Check} {made : Item Validator}
    (h : item.Realizes registry made) : made.logic = item.logic := by
  cases h with
  | page => rfl
  | group => rfl
  | field h => rw [Item.logic, Item.logic, h.eq]
  | block => rfl

theorem map_id_of_realizes {nodes : List (Node Check)} {mades : List (Node Validator)}
    (h : List.Forall₂ (Node.Realizes registry) nodes mades) :
    mades.map Node.id = nodes.map Node.id := by
  induction h with
  | nil => rfl
  | cons hnode _ ih => exact congrArg₂ List.cons hnode.item.id_eq ih

theorem forall₂_fieldsAmong {nodes : List (Node Check)} {mades : List (Node Validator)}
    (h : List.Forall₂ (Node.Realizes registry) nodes mades) :
    List.Forall₂ (Field.Realizes registry) (fieldsAmong nodes) (fieldsAmong mades) := by
  induction h with
  | nil => exact .nil
  | @cons node made _ _ hnode _ ih =>
      unfold fieldsAmong at ih ⊢
      rw [List.filterMap_cons, List.filterMap_cons]
      obtain ⟨item, parent⟩ := node
      obtain ⟨madeItem, madeParent⟩ := made
      cases hnode.item with
      | page => exact ih
      | group => exact ih
      | field hfield => exact .cons hfield ih
      | block => exact ih

/-- Elements with counterparts have fields that can be built. -/
theorem exists_realizes {nodes : List (Node Check)} {mades : List (Node Validator)}
    (h : List.Forall₂ (Node.Realizes registry) nodes mades) :
    ∀ field ∈ fieldsAmong nodes, ∃ made, field.Realizes registry made := by
  intro field hf
  obtain ⟨made, -, hmade⟩ := exists_of_forall₂ (forall₂_fieldsAmong h) field hf
  exact ⟨made, hmade⟩

theorem Field.Fault.not_realizes {field : Field Check} {failure : Failure}
    (h : field.Fault registry failure) : ¬ ∃ made, field.Realizes registry made := by
  rintro ⟨made, hmade⟩
  cases h with
  | validator hsplit _ hcheck =>
      obtain ⟨validator, -, hok⟩ := exists_of_forall₂ hmade.validators _
        (hsplit ▸ List.mem_append_right _ List.mem_cons_self)
      rw [hcheck] at hok
      cases hok
  | default _ hdefault =>
      rw [hmade.isCoercible] at hdefault
      cases hdefault

/-- A field fails for one fault only. -/
theorem Field.Fault.unique {field : Field Check} {failure other : Failure}
    (h : field.Fault registry failure) (h' : field.Fault registry other) : failure = other := by
  have hok : ∀ {check : Check} {failure : Failure}, registry.build check = .error failure →
      ¬ ∃ validator, registry.build check = .ok validator := by
    rintro check failure hcheck ⟨validator, hv⟩
    rw [hcheck] at hv
    cases hv
  cases h with
  | @validator _ _ check _ hsplit hbefore hcheck =>
      cases h' with
      | validator hsplit' hbefore' hcheck' =>
          have hsame := eq_of_append_cons_eq (hsplit.symm.trans hsplit') hbefore (hok hcheck) hbefore'
            (hok hcheck')
          rw [hsame, hcheck'] at hcheck
          cases hcheck
          rfl
      | default hall =>
          exact absurd (hall check (hsplit ▸ List.mem_append_right _ List.mem_cons_self)) (hok hcheck)
  | default hall =>
      cases h' with
      | @validator _ _ check _ hsplit _ hcheck =>
          exact absurd (hall check (hsplit ▸ List.mem_append_right _ List.mem_cons_self)) (hok hcheck)
      | default => rfl

/-- Some fields fail for one fault only. -/
theorem FirstFault.unique {fields : List (Field Check)} {failure other : Failure}
    (h : FirstFault registry fields failure) (h' : FirstFault registry fields other) :
    failure = other := by
  obtain ⟨before, field, after, hsplit, hbefore, hfault⟩ := h
  obtain ⟨before', field', after', hsplit', hbefore', hfault'⟩ := h'
  have hsame := eq_of_append_cons_eq (hsplit.symm.trans hsplit') hbefore hfault.not_realizes hbefore'
    hfault'.not_realizes
  subst hsame
  exact hfault.unique hfault'

theorem FirstFault.exists_not_realizes {fields : List (Field Check)} {failure : Failure}
    (h : FirstFault registry fields failure) :
    ∃ field ∈ fields, ¬ ∃ made, field.Realizes registry made := by
  obtain ⟨before, field, after, rfl, -, hfault⟩ := h
  exact ⟨field, List.mem_append_right _ List.mem_cons_self, hfault.not_realizes⟩

theorem FirstFault.append_right {before fields : List (Field Check)} {failure : Failure}
    (hbefore : ∀ field ∈ before, ∃ made, field.Realizes registry made)
    (h : FirstFault registry fields failure) : FirstFault registry (before ++ fields) failure := by
  obtain ⟨first, field, after, rfl, hfirst, hfault⟩ := h
  refine ⟨before ++ first, field, after, (List.append_assoc ..).symm, fun other ho => ?_, hfault⟩
  rcases List.mem_append.mp ho with ho | ho
  · exact hbefore other ho
  · exact hfirst other ho

theorem FirstFault.append_left {fields : List (Field Check)} {failure : Failure}
    (h : FirstFault registry fields failure) (after : List (Field Check)) :
    FirstFault registry (fields ++ after) failure := by
  obtain ⟨first, field, last, rfl, hfirst, hfault⟩ := h
  exact ⟨first, field, last ++ after, by rw [List.append_assoc, List.cons_append], hfirst, hfault⟩

end Definition

/-! ### Building -/

namespace Form

variable {registry : Registry} {α β : Type} {used : List Int}

/-- Work on some fields puts ids to use and gives a result, or ends at the first of the fields that cannot
be built. -/
def Builds (registry : Registry) (fields : List (Definition.Field Check)) (ids used : List Int)
    (Good : α → Prop) (work : Building α) : Prop :=
  (∃ a, work.run used = .ok (a, ids.reverse ++ used) ∧ Good a) ∨
    ∃ failure, work.run used = .error failure ∧ FirstFault registry fields failure

theorem builds_pure {Good : α → Prop} {a : α} (h : Good a) :
    Builds registry [] [] used Good (pure a) := .inl ⟨a, rfl, h⟩

/-- Work after work: what is good about the first result includes that its fields can be built. -/
theorem Builds.bind {fields more : List (Definition.Field Check)} {ids moreIds : List Int}
    {Good : α → Prop} {Better : β → Prop} {work : Building α} {next : α → Building β}
    (h : Builds registry fields ids used Good work)
    (hgood : ∀ a, Good a → ∀ field ∈ fields, ∃ made, field.Realizes registry made)
    (hnext : ∀ a, Good a → Builds registry more moreIds (ids.reverse ++ used) Better (next a)) :
    Builds registry (fields ++ more) (ids ++ moreIds) used Better (work >>= next) := by
  rcases h with ⟨a, hrun, ha⟩ | ⟨failure, hrun, hfault⟩
  · have hbind : (work >>= next).run used = (next a).run (ids.reverse ++ used) := by
      rw [StateT.run_bind, hrun]
      rfl
    rcases hnext a ha with ⟨b, hrun', hb⟩ | ⟨failure, hrun', hfault⟩
    · refine .inl ⟨b, ?_, hb⟩
      rw [hbind, hrun', List.reverse_append, List.append_assoc]
    · exact .inr ⟨failure, hbind.trans hrun', hfault.append_right (hgood a ha)⟩
  · refine .inr ⟨failure, ?_, hfault.append_left more⟩
    rw [StateT.run_bind, hrun]
    rfl

theorem run_useId_of_nodup (form : Int) {id : Int} (h : (id :: used).Nodup) :
    (useId form id).run used = .ok ((), id :: used) := by
  have hfresh : used.contains id = false := by
    rw [← Bool.not_eq_true, List.contains_iff_mem]
    exact (List.nodup_cons.mp h).1
  rw [run_useId, hfresh]
  rfl

theorem builds_useId (form : Int) {id : Int} (h : (id :: used).Nodup) :
    Builds registry [] [id] used (fun _ => True) (useId form id) :=
  .inl ⟨(), run_useId_of_nodup form h, trivial⟩

/-! ### Fields -/

theorem run_mapM_lift (f : α → Except Failure β) (as : List α) (used : List Int) :
    (as.mapM fun a => (f a : Building β)).run used = (as.mapM f).map (·, used) := by
  induction as with
  | nil => rfl
  | cons a as ih =>
      rw [List.mapM_cons, List.mapM_cons, StateT.run_bind]
      cases hf : f a with
      | error failure => rfl
      | ok b =>
          show (do let bs ← as.mapM fun a => (f a : Building β); pure (b :: bs) : Building _).run used = _
          rw [StateT.run_bind, ih]
          cases as.mapM f <;> rfl

theorem builds_buildField (form : Int) (field : Definition.Field Check)
    (h : (field.id :: used).Nodup) :
    Builds registry [field] [field.id] used (Field.Realizes registry field)
      (buildField registry form field) := by
  have hrun : (buildField registry form field).run used =
      (field.validators.mapM registry.build).bind fun validators =>
        (checkDefault field).bind fun _ => .ok ({ field with validators }, field.id :: used) := by
    unfold buildField
    rw [StateT.run_bind, run_mapM_lift]
    cases field.validators.mapM registry.build with
    | error failure => rfl
    | ok validators =>
        cases hd : checkDefault field with
        | error failure => rfl
        | ok _ =>
            show (useId form field.id >>= fun _ => pure { field with validators } : Building _).run used = _
            rw [StateT.run_bind, run_useId_of_nodup form h]
            rfl
  cases hv : field.validators.mapM registry.build with
  | error failure =>
      obtain ⟨before, check, after, hsplit, hbefore, hcheck⟩ := exists_split_of_mapM_eq_error hv
      refine .inr ⟨failure, ?_, [], field, [], rfl, List.forall_mem_nil _,
        .validator hsplit hbefore hcheck⟩
      rw [hrun, hv]
      rfl
  | ok validators =>
      have hmade := mapM_eq_ok_iff.mp hv
      cases hd : field.kind.isCoercible field.default with
      | true =>
          refine .inl ⟨{ field with validators }, ?_, rfl, hmade, hd⟩
          rw [hrun, hv, checkDefault, hd]
          rfl
      | false =>
          refine .inr ⟨.unwritableNumber, ?_, [], field, [], rfl, List.forall_mem_nil _, .default ?_ hd⟩
          · rw [hrun, hv, checkDefault, hd]
            rfl
          · intro check hc
            obtain ⟨validator, -, hb⟩ := exists_of_forall₂ hmade check hc
            exact ⟨validator, hb⟩

/-! ### Elements and pages -/

theorem Builds.map {fields : List (Definition.Field Check)} {ids : List Int} {Good : α → Prop}
    {Better : β → Prop} {work : Building α} {f : α → β} (h : Builds registry fields ids used Good work)
    (himp : ∀ a, Good a → Better (f a)) : Builds registry fields ids used Better (f <$> work) := by
  rcases h with ⟨a, hrun, ha⟩ | ⟨failure, hrun, hfault⟩
  · refine .inl ⟨f a, ?_, himp a ha⟩
    rw [StateT.run_map, hrun]
    rfl
  · refine .inr ⟨failure, ?_, hfault⟩
    rw [StateT.run_map, hrun]
    rfl

variable (registry)

mutual

theorem builds_buildElement (form parent : Int) : ∀ (element : Element Check) {used : List Int},
    (((element.nodes parent).map Node.id).reverse ++ used).Nodup →
      Builds registry (fieldsAmong (element.nodes parent)) ((element.nodes parent).map Node.id) used
        (fun made => List.Forall₂ (Node.Realizes registry) (element.nodes parent) (made.nodes parent))
        (buildElement registry form element)
  | .field field, used, h => by
    rw [buildElement]
    exact (builds_buildField form field h).map fun made hmade => .cons ⟨.field hmade, rfl⟩ .nil
  | .block block, used, h => by
    rw [buildElement]
    exact (builds_useId form h).bind (fun _ _ => List.forall_mem_nil _) fun _ _ =>
      builds_pure (.cons ⟨.block block, rfl⟩ .nil)
  | .group heading children, used, h => by
    rw [Element.nodes, List.map_cons, List.reverse_cons, List.append_assoc] at h
    have hchildren := builds_buildElements form heading.id children h
    rw [buildElement]
    simp only [bind_pure_comp]
    refine (builds_useId form (List.nodup_append.mp h).2.1).bind (fun _ _ => List.forall_mem_nil _)
      fun _ _ => hchildren.map fun mades hmades => ?_
    rw [Element.nodes, Element.nodes]
    exact .cons ⟨.group heading children mades, rfl⟩ hmades

theorem builds_buildElements (form parent : Int) : ∀ (elements : List (Element Check)) {used : List Int},
    (((Element.nodesOf parent elements).map Node.id).reverse ++ used).Nodup →
      Builds registry (fieldsAmong (Element.nodesOf parent elements))
        ((Element.nodesOf parent elements).map Node.id) used
        (fun mades => List.Forall₂ (Node.Realizes registry) (Element.nodesOf parent elements)
          (Element.nodesOf parent mades))
        (buildElements registry form elements)
  | [], used, h => by
    rw [buildElements]
    exact builds_pure .nil
  | element :: rest, used, h => by
    rw [Element.nodesOf, List.map_append, List.reverse_append, List.append_assoc] at h
    have hfirst := builds_buildElement form parent element (List.nodup_append.mp h).2.1
    have hrest := builds_buildElements form parent rest h
    rw [buildElements, Element.nodesOf, fieldsAmong_append, List.map_append]
    simp only [bind_pure_comp]
    refine hfirst.bind (fun made hmade => exists_realizes hmade) fun made hmade =>
      hrest.map fun mades hmades => ?_
    rw [Element.nodesOf]
    exact List.rel_append hmade hmades

end

theorem builds_buildPage (form : Int) (page : Page Check)
    (h : ((page.nodes.map Node.id).reverse ++ used).Nodup) :
    Builds registry (fieldsAmong page.nodes) (page.nodes.map Node.id) used
      (fun made => List.Forall₂ (Node.Realizes registry) page.nodes made.nodes)
      (buildPage registry form page) := by
  rw [Page.nodes, List.map_cons, List.reverse_cons, List.append_assoc] at h
  have hchildren := builds_buildElements registry form page.id page.children h
  rw [buildPage]
  simp only [bind_pure_comp]
  exact (builds_useId form (List.nodup_append.mp h).2.1).bind (fun _ _ => List.forall_mem_nil _)
    fun _ _ => hchildren.map fun mades hmades =>
      .cons ⟨.page page.heading page.children mades, rfl⟩ hmades

theorem builds_buildPages (form : Int) : ∀ (pages : List (Page Check)) {used : List Int},
    (((pages.flatMap Page.nodes).map Node.id).reverse ++ used).Nodup →
      Builds registry (fieldsAmong (pages.flatMap Page.nodes)) ((pages.flatMap Page.nodes).map Node.id) used
        (fun mades => List.Forall₂ (Node.Realizes registry) (pages.flatMap Page.nodes)
          (mades.flatMap Page.nodes))
        (pages.mapM (buildPage registry form))
  | [], used, _ => builds_pure .nil
  | page :: rest, used, h => by
    rw [List.flatMap_cons, List.map_append, List.reverse_append, List.append_assoc] at h
    have hfirst := builds_buildPage registry form page (List.nodup_append.mp h).2.1
    have hrest := builds_buildPages form rest h
    rw [List.mapM_cons, List.flatMap_cons, fieldsAmong_append, List.map_append]
    simp only [bind_pure_comp]
    refine hfirst.bind (fun made hmade => exists_realizes hmade) fun made hmade =>
      hrest.map fun mades hmades => ?_
    rw [List.flatMap_cons]
    exact List.rel_append hmade hmades

/-! ### Forms -/

/-- The form is what its definition describes: its elements are the counterparts of those that are
defined, in the same places and order, its fields hold their defaults, and nothing is hidden. -/
structure Realizes (registry : Registry) (definition : FormDefinition) (form : Form) : Prop where
  definition_eq : form.definition = definition
  nodes : List.Forall₂ (Node.Realizes registry) definition.nodes form.nodes
  values_eq : form.values = form.fields.map fun field => (field.id, field.kind.coerce field.default)
  isHidden_eq : ∀ id, form.isHidden id = false

variable {definition : FormDefinition}

section run

variable {registry}

theorem build_of_run_ok {pages : List (Page Validator)} {used : List Int}
    (h : (buildPages registry definition).run [] = .ok (pages, used)) :
    ∃ form, build registry definition = .ok form ∧ form.definition = definition ∧ form.pages = pages ∧
      form.values = defaults pages ∧ form.flags = .visible := by
  unfold build
  split
  · next made _ hrun =>
    rw [h] at hrun
    cases hrun
    exact ⟨_, rfl, rfl, rfl, rfl, rfl⟩
  · next hrun =>
    rw [h] at hrun
    cases hrun

theorem build_of_run_error {failure : Failure}
    (h : (buildPages registry definition).run [] = .error failure) :
    build registry definition = .error failure := by
  unfold build
  split
  · next hrun =>
    rw [h] at hrun
    cases hrun
  · next hrun =>
    rw [h] at hrun
    cases hrun
    rfl

end run

/-- Building the form of a definition that is sound gives all that it describes, or fails for the first
field that cannot be built. -/
theorem realizes_or_fault (h : definition.Sound) :
    (∃ form, build registry definition = .ok form ∧ form.Realizes registry definition) ∨
    ∃ failure, build registry definition = .error failure ∧
      FirstFault registry (fieldsAmong definition.nodes) failure := by
  have hids : ((definition.nodes.map Node.id).reverse ++ []).Nodup := by
    rw [List.append_nil, List.nodup_reverse]
    exact h.ids_nodup
  rcases builds_buildPages registry definition.id definition.pages hids with
    ⟨pages, hrun, hpages⟩ | ⟨failure, hrun, hfault⟩
  · obtain ⟨form, hform, hdefinition, rfl, hvalues, hflags⟩ := build_of_run_ok hrun
    refine .inl ⟨form, hform, hdefinition, hpages, hvalues, fun id => ?_⟩
    rw [isHidden, hflags]
    rfl
  · exact .inr ⟨failure, build_of_run_error hrun, hfault⟩

/-- Building a sound definition fails just for the first of its fields that cannot be built. -/
theorem build_eq_error_iff (h : definition.Sound) {failure : Failure} :
    build registry definition = .error failure ↔
      FirstFault registry (fieldsAmong definition.nodes) failure := by
  rcases realizes_or_fault registry h with ⟨form, hform, hreal⟩ | ⟨first, hfirst, hfault⟩
  · refine ⟨fun herror => ?_, fun hfault => ?_⟩
    · rw [hform] at herror
      cases herror
    · obtain ⟨field, hf, hnot⟩ := hfault.exists_not_realizes
      exact absurd (exists_realizes hreal.nodes field hf) hnot
  · rw [hfirst, Except.error.injEq]
    exact ⟨fun hsame => hsame ▸ hfault, fun hother => hfault.unique hother⟩

end Form
end FormIntake
