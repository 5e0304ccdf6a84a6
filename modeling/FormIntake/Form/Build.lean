import FormIntake.Form.Basic

/-! # Building a form

A form is built of a definition from the first element to the last.  Building ends at the first
validator that cannot be made, at a default with a number too long for a text, and at an id that has been
used before, so the elements of what is built have ids of their own (`nodup_of_buildPages`).
-/

namespace FormIntake

open Definition

/-- Building with the ids that have been used so far. -/
abbrev Building := StateT (List Int) (Except Failure)

namespace Form

/-- An id put to use. -/
def useId (form id : Int) : Building Unit := do
  if (← get).contains id then throw (.repeatedElement id form)
  modify (id :: ·)

/-- Defaults are made values of their fields, for which their numbers may be too long. -/
def checkDefault (field : Definition.Field Check) : Except Failure Unit :=
  if field.kind.isCoercible field.default then .ok () else .error .unwritableNumber

def buildField (registry : Registry) (form : Int) (field : Definition.Field Check) :
    Building (Definition.Field Validator) := do
  let validators ← field.validators.mapM fun check => (registry.build check : Except Failure _)
  (checkDefault field : Except Failure _)
  useId form field.id
  return { field with validators }

mutual

def buildElement (registry : Registry) (form : Int) :
    Element Check → Building (Element Validator)
  | .field field => .field <$> buildField registry form field
  | .block block => do
    useId form block.id
    return .block block
  | .group heading children => do
    useId form heading.id
    return .group heading (← buildElements registry form children)

def buildElements (registry : Registry) (form : Int) :
    List (Element Check) → Building (List (Element Validator))
  | [] => return []
  | e :: rest => return (← buildElement registry form e) :: (← buildElements registry form rest)

end

def buildPage (registry : Registry) (form : Int) (page : Page Check) :
    Building (Page Validator) := do
  useId form page.id
  return ⟨page.heading, ← buildElements registry form page.children⟩

/-- The pages of a definition. -/
def buildPages (registry : Registry) (definition : FormDefinition) :
    Building (List (Page Validator)) :=
  definition.pages.mapM (buildPage registry definition.id)

/-! ### The ids that are used -/

/-- What is built has used its own ids and no others, each of them for the first time. -/
def UsesUp {α : Type} (ids : α → List Int) (work : Building α) : Prop :=
  ∀ used a later, work.run used = .ok (a, later) →
    later = (ids a).reverse ++ used ∧ (used.Nodup → later.Nodup)

theorem of_run_bind_eq_ok {α β : Type} {work : Building α} {next : α → Building β}
    {used later : List Int} {b : β} (h : (work >>= next).run used = .ok (b, later)) :
    ∃ a between, work.run used = .ok (a, between) ∧ (next a).run between = .ok (b, later) := by
  rw [StateT.run_bind] at h
  cases hw : work.run used with
  | error e => rw [hw] at h; cases h
  | ok p => rw [hw] at h; exact ⟨p.1, p.2, rfl, h⟩

theorem run_useId (form id : Int) (used : List Int) : (useId form id).run used =
    if used.contains id then .error (.repeatedElement id form) else .ok ((), id :: used) := by
  unfold useId
  cases h : used.contains id with
  | true =>
      show (if used.contains id then _ else _ : Building Unit).run used = _
      rw [h]; rfl
  | false =>
      show (if used.contains id then _ else _ : Building Unit).run used = _
      rw [h]; rfl

theorem usesUp_useId (form id : Int) : UsesUp (fun _ => [id]) (useId form id) := by
  intro used a later h
  rw [run_useId] at h
  split at h
  · cases h
  · next hm =>
    cases h
    rw [List.contains_iff_mem] at hm
    exact ⟨rfl, fun hn => List.nodup_cons.mpr ⟨hm, hn⟩⟩

theorem usesUp_mapM {α β : Type} {ids : β → List Int} {f : α → Building β}
    (h : ∀ a, UsesUp ids (f a)) : ∀ as : List α, UsesUp (·.flatMap ids) (as.mapM f)
  | [] => by
    intro used bs later hr
    cases hr
    simp
  | a :: as => by
    intro used bs later hr
    rw [List.mapM_cons] at hr
    obtain ⟨b, between, hb, hr⟩ := of_run_bind_eq_ok hr
    obtain ⟨rest, end_, hrest, hr⟩ := of_run_bind_eq_ok hr
    cases hr
    obtain ⟨h₁, n₁⟩ := h a _ _ _ hb
    obtain ⟨h₂, n₂⟩ := usesUp_mapM h as _ _ _ hrest
    exact ⟨by simp [h₁, h₂], fun hn => n₂ (n₁ hn)⟩

theorem usesUp_lift {α : Type} (result : Except Failure α) :
    UsesUp (fun _ => []) (monadLift result : Building α) := by
  intro used a later h
  cases result with
  | error e => cases h
  | ok a =>
      cases h
      exact ⟨rfl, fun hn => hn⟩

theorem usesUp_buildField (registry : Registry) (form : Int) (field : Definition.Field Check) :
    UsesUp (fun f => [f.id]) (buildField registry form field) := by
  intro used f later h
  unfold buildField at h
  obtain ⟨validators, between, hv, h⟩ := of_run_bind_eq_ok h
  obtain ⟨_, checked, hc, h⟩ := of_run_bind_eq_ok h
  obtain ⟨_, last, hu, h⟩ := of_run_bind_eq_ok h
  cases h
  have hb : between = used := by
    have hnil : validators.flatMap (fun _ => ([] : List Int)) = [] :=
      List.flatMap_eq_nil_iff.mpr fun _ _ => rfl
    simpa [hnil] using (usesUp_mapM (fun check => usesUp_lift (registry.build check)) _ _ _ _ hv).1
  have hb' : checked = between := (usesUp_lift (checkDefault field) _ _ _ hc).1
  rw [← hb, ← hb']
  exact usesUp_useId form field.id _ _ _ hu

mutual

theorem usesUp_buildElement (registry : Registry) (form parent : Int) : ∀ element : Element Check,
    UsesUp (fun e => (e.nodes parent).map Node.id) (buildElement registry form element)
  | .field field => by
    intro used e later h
    unfold buildElement at h
    obtain ⟨f, _, hf, h⟩ := of_run_bind_eq_ok (by simpa only [map_eq_pure_bind] using h)
    cases h
    exact usesUp_buildField registry form field _ _ _ hf
  | .block block => by
    intro used e later h
    unfold buildElement at h
    obtain ⟨_, _, hu, h⟩ := of_run_bind_eq_ok h
    cases h
    exact usesUp_useId form block.id _ _ _ hu
  | .group heading children => by
    intro used e later h
    unfold buildElement at h
    obtain ⟨_, _, hu, h⟩ := of_run_bind_eq_ok h
    obtain ⟨elements, _, he, h⟩ := of_run_bind_eq_ok h
    cases h
    obtain ⟨h₁, n₁⟩ := usesUp_useId form heading.id _ _ _ hu
    obtain ⟨h₂, n₂⟩ := usesUp_buildElements registry form heading.id children _ _ _ he
    refine ⟨?_, fun hn => n₂ (n₁ hn)⟩
    simp [Element.nodes, Node.id, Item.id, h₁, h₂]

theorem usesUp_buildElements (registry : Registry) (form parent : Int) :
    ∀ elements : List (Element Check),
      UsesUp (fun es => (Element.nodesOf parent es).map Node.id)
        (buildElements registry form elements)
  | [] => by
    intro used es later h
    unfold buildElements at h
    cases h
    simp [Element.nodesOf]
  | e :: rest => by
    intro used es later h
    unfold buildElements at h
    obtain ⟨first, _, hf, h⟩ := of_run_bind_eq_ok h
    obtain ⟨others, _, ho, h⟩ := of_run_bind_eq_ok h
    cases h
    obtain ⟨h₁, n₁⟩ := usesUp_buildElement registry form parent e _ _ _ hf
    obtain ⟨h₂, n₂⟩ := usesUp_buildElements registry form parent rest _ _ _ ho
    refine ⟨?_, fun hn => n₂ (n₁ hn)⟩
    simp [Element.nodesOf, h₁, h₂]

end

theorem usesUp_buildPage (registry : Registry) (form : Int) (page : Page Check) :
    UsesUp (fun p => p.nodes.map Node.id) (buildPage registry form page) := by
  intro used p later h
  unfold buildPage at h
  obtain ⟨_, _, hu, h⟩ := of_run_bind_eq_ok h
  obtain ⟨elements, _, he, h⟩ := of_run_bind_eq_ok h
  cases h
  obtain ⟨h₁, n₁⟩ := usesUp_useId form page.id _ _ _ hu
  obtain ⟨h₂, n₂⟩ := usesUp_buildElements registry form page.id page.children _ _ _ he
  refine ⟨?_, fun hn => n₂ (n₁ hn)⟩
  simp [Page.nodes, Page.descendants, Node.id, Item.id, Page.id, h₁, h₂] at *

/-- The pages that are built hold no id twice. -/
theorem nodup_of_buildPages {registry : Registry} {definition : FormDefinition}
    {pages : List (Page Validator)} {used : List Int}
    (h : (buildPages registry definition).run [] = .ok (pages, used)) :
    ((pages.flatMap Page.nodes).map Node.id).Nodup := by
  obtain ⟨hu, hn⟩ := usesUp_mapM (usesUp_buildPage registry definition.id) _ _ _ _ h
  rw [List.map_flatMap]
  refine (List.reverse_perm _).nodup_iff.mp ?_
  rw [← List.append_nil (List.reverse _), ← hu]
  exact hn List.nodup_nil

/-! ### Forms -/

/-- The values that fields have before anything is submitted. -/
def defaults (pages : List (Page Validator)) : List (Int × FieldValue) :=
  (pages.flatMap Page.fields).map fun f => (f.id, f.kind.coerce f.default)

/-- The form of a definition. -/
def build (registry : Registry) (definition : FormDefinition) : Except Failure Form :=
  match h : (buildPages registry definition).run [] with
  | .ok (pages, _) =>
    .ok { definition, pages, distinct := nodup_of_buildPages h, values := defaults pages }
  | .error failure => .error failure

theorem definition_of_build {registry : Registry} {definition : FormDefinition} {form : Form}
    (h : build registry definition = .ok form) : form.definition = definition := by
  unfold build at h
  split at h
  · cases h
    rfl
  · cases h

end Form
end FormIntake
