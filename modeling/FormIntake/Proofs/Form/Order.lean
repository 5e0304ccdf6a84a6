import FormIntake.Form.Basic

/-! # Reading order

How the elements of a form stand in reading order: each stands after the page or group that lists
it (`mem_of_parent`), and before all that is below it (`Form.cons_descendants_sublist`).  What holds of
the pages and passes on to whatever is listed holds of all elements (`Form.nodes_induction`).  A form
finds an element by its id (`Form.find?_id`), and a field by the id of the element that it is
(`Form.field?_eq_some_iff`). -/

namespace FormIntake

namespace Definition

variable {V : Type}

/-- Every element that is listed by another one stands behind it or is listed by one that is
known before. -/
def ParentsFirst (known : List Int) : List (Node V) → Prop
  | [] => True
  | node :: rest =>
    (∀ parent, node.parent = some parent → parent ∈ known) ∧ ParentsFirst (node.id :: known) rest

theorem ParentsFirst.mono {known more : List Int} (hk : known ⊆ more) :
    ∀ {nodes : List (Node V)}, ParentsFirst known nodes → ParentsFirst more nodes
  | [], _ => trivial
  | node :: _, ⟨hp, hr⟩ =>
    ⟨fun parent h => hk (hp parent h), hr.mono (List.cons_subset_cons node.id hk)⟩

theorem ParentsFirst.append {known : List Int} :
    ∀ {before after : List (Node V)}, ParentsFirst known before → ParentsFirst known after →
      ParentsFirst known (before ++ after)
  | [], _, _, ha => ha
  | _ :: _, _, ⟨hp, hr⟩, ha => ⟨hp, hr.append (ha.mono (List.subset_cons_self _ _))⟩

mutual

theorem parentsFirst_nodes {known : List Int} {parent : Int} (h : parent ∈ known) :
    ∀ element : Element V, ParentsFirst known (element.nodes parent)
  | .field _ => by simpa [Element.nodes, ParentsFirst] using h
  | .block _ => by simpa [Element.nodes, ParentsFirst] using h
  | .group heading children => by
    rw [Element.nodes]
    refine ⟨?_, parentsFirst_nodesOf (List.mem_cons_self) children⟩
    rintro _ ⟨⟩
    exact h

theorem parentsFirst_nodesOf {known : List Int} {parent : Int} (h : parent ∈ known) :
    ∀ elements : List (Element V), ParentsFirst known (Element.nodesOf parent elements)
  | [] => trivial
  | element :: rest => by
    rw [Element.nodesOf]
    exact (parentsFirst_nodes h element).append (parentsFirst_nodesOf h rest)

end

theorem parentsFirst_page (page : Page V) : ParentsFirst [] page.nodes := by
  refine ⟨?_, parentsFirst_nodesOf (List.mem_cons_self) page.children⟩
  rintro _ ⟨⟩

theorem ParentsFirst.mem {known : List Int} {node : Node V} {after : List (Node V)} {parent : Int}
    (hp : node.parent = some parent) :
    ∀ {before : List (Node V)}, ParentsFirst known (before ++ node :: after) →
      parent ∈ before.map Node.id ∨ parent ∈ known
  | [], h => .inr (h.1 parent hp)
  | first :: before, h => by
    rcases ParentsFirst.mem hp h.2 with hb | hk
    · exact .inl (List.mem_cons_of_mem _ hb)
    · rcases List.mem_cons.mp hk with rfl | hk
      · exact .inl (List.mem_cons_self)
      · exact .inr hk

/-! ### What is below an element -/

mutual

/-- An element stands right before all that is below it. -/
theorem cons_descendants_sublist_nodes {parent : Int} {node : Node V} :
    ∀ {element : Element V}, node ∈ element.nodes parent →
      (node :: node.item.descendants).Sublist (element.nodes parent)
  | .field _, h => by
    rw [Element.nodes, List.mem_singleton] at h
    rw [h]
    exact List.Sublist.refl _
  | .block _, h => by
    rw [Element.nodes, List.mem_singleton] at h
    rw [h]
    exact List.Sublist.refl _
  | .group _ _, h => by
    rw [Element.nodes] at h ⊢
    rcases List.mem_cons.mp h with rfl | h
    · exact List.Sublist.refl _
    · exact (cons_descendants_sublist_nodesOf h).cons _

theorem cons_descendants_sublist_nodesOf {parent : Int} {node : Node V} :
    ∀ {elements : List (Element V)}, node ∈ Element.nodesOf parent elements →
      (node :: node.item.descendants).Sublist (Element.nodesOf parent elements)
  | [], h => by cases h
  | _ :: _, h => by
    rw [Element.nodesOf] at h ⊢
    rcases List.mem_append.mp h with h | h
    · exact (cons_descendants_sublist_nodes h).trans (List.sublist_append_left _ _)
    · exact (cons_descendants_sublist_nodesOf h).trans (List.sublist_append_right _ _)

end

/-- What is below an element that is below an item is below this item as well. -/
theorem descendants_subset_descendants {item : Item V} {node : Node V}
    (h : node ∈ item.descendants) : node.item.descendants ⊆ item.descendants := by
  have hs : (node :: node.item.descendants).Sublist item.descendants := by
    cases item with
    | page page => exact cons_descendants_sublist_nodesOf h
    | group heading children => exact cons_descendants_sublist_nodesOf h
    | field f => cases h
    | block b => cases h
  exact fun _ hd => hs.subset (List.mem_cons_of_mem _ hd)

theorem Item.id_of_field? {item : Item V} {field : Field V} (h : item.field? = some field) :
    item.id = field.id := by
  cases item <;> cases h
  rfl

/-! ### Who lists an element -/

/-- The elements that an item lists. -/
def Item.children : Item V → List (Element V)
  | .page p => p.children
  | .group _ children => children
  | .field _ => []
  | .block _ => []

def Element.item : Element V → Item V
  | .field f => .field f
  | .block b => .block b
  | .group heading children => .group heading children

/-- The element is one of those that the other lists, and has it as its parent. -/
def Node.Lists (holder node : Node V) : Prop :=
  node.parent = some holder.id ∧ ∃ element ∈ holder.item.children, node.item = element.item

theorem head_mem_nodes (parent : Int) (element : Element V) :
    ⟨element.item, some parent⟩ ∈ element.nodes parent := by
  cases element with
  | field => exact List.mem_cons_self
  | block => exact List.mem_cons_self
  | group heading children =>
      rw [Element.nodes]
      exact List.mem_cons_self

theorem mem_nodesOf_of_mem (parent : Int) {element : Element V} :
    ∀ {elements : List (Element V)}, element ∈ elements →
      ⟨element.item, some parent⟩ ∈ Element.nodesOf parent elements
  | first :: rest, h => by
    rw [Element.nodesOf]
    rcases List.mem_cons.mp h with rfl | h
    · exact List.mem_append_left _ (head_mem_nodes parent _)
    · exact List.mem_append_right _ (mem_nodesOf_of_mem parent h)

/-- What an element lists is below it. -/
theorem Node.Lists.mem_descendants {holder node : Node V} (h : holder.Lists node) :
    node ∈ holder.item.descendants := by
  obtain ⟨item, parent⟩ := holder
  obtain ⟨_, _⟩ := node
  obtain ⟨rfl, element, he, rfl⟩ := h
  cases item with
  | page page => exact mem_nodesOf_of_mem page.id he
  | group heading children => exact mem_nodesOf_of_mem heading.id he
  | field field => cases he
  | block block => cases he

section induction

variable {P : Node V → Prop}

mutual

theorem forall_mem_nodes (step : ∀ holder node, holder.Lists node → P holder → P node)
    {parent : Int} : ∀ {element : Element V},
      P ⟨element.item, some parent⟩ → ∀ node ∈ element.nodes parent, P node
  | .field _, h, _, hn => by
    rw [Element.nodes, List.mem_singleton] at hn
    exact hn ▸ h
  | .block _, h, _, hn => by
    rw [Element.nodes, List.mem_singleton] at hn
    exact hn ▸ h
  | .group _ _, h, node, hn => by
    rw [Element.nodes] at hn
    rcases List.mem_cons.mp hn with rfl | hn
    · exact h
    · exact forall_mem_nodesOf step (fun element he => step _ _ ⟨rfl, element, he, rfl⟩ h) node hn

theorem forall_mem_nodesOf (step : ∀ holder node, holder.Lists node → P holder → P node)
    {parent : Int} : ∀ {elements : List (Element V)},
      (∀ element ∈ elements, P ⟨element.item, some parent⟩) →
        ∀ node ∈ Element.nodesOf parent elements, P node
  | [], _, _, hn => by cases hn
  | first :: _, h, node, hn => by
    rw [Element.nodesOf] at hn
    rcases List.mem_append.mp hn with hn | hn
    · exact forall_mem_nodes step (h first List.mem_cons_self) node hn
    · exact forall_mem_nodesOf step (fun element he => h element (List.mem_cons_of_mem _ he)) node hn

end

/-- What holds of an element and passes on to whatever is listed holds of all below the element. -/
theorem forall_mem_descendants (step : ∀ holder node, holder.Lists node → P holder → P node)
    {holder : Node V} (h : P holder) : ∀ node ∈ holder.item.descendants, P node := by
  have hlisted : ∀ element ∈ holder.item.children, P ⟨element.item, some holder.id⟩ :=
    fun element he => step _ _ ⟨rfl, element, he, rfl⟩ h
  obtain ⟨item, parent⟩ := holder
  cases item with
  | page page => exact forall_mem_nodesOf step hlisted
  | group heading children => exact forall_mem_nodesOf step hlisted
  | field f => exact fun _ hn => by cases hn
  | block b => exact fun _ hn => by cases hn

end induction

end Definition

/-! ### The elements of a form -/

namespace Form

open Definition

variable (form : Form)

theorem parentsFirst_pages : ∀ pages : List (Page Validator),
    ParentsFirst [] (pages.flatMap Page.nodes)
  | [] => trivial
  | page :: rest => by
    rw [List.flatMap_cons]
    exact (parentsFirst_page page).append (parentsFirst_pages rest)

/-- In reading order an element stands behind the page or group that lists it. -/
theorem mem_of_parent {before after : List (Node Validator)} {node : Node Validator} {parent : Int}
    (h : form.nodes = before ++ node :: after) (hp : node.parent = some parent) :
    parent ∈ before.map Node.id := by
  have hf : ParentsFirst [] (before ++ node :: after) := h ▸ parentsFirst_pages form.pages
  rcases hf.mem hp with hb | hk
  · exact hb
  · cases hk

theorem parent_mem_ids {node : Node Validator} {parent : Int} (hn : node ∈ form.nodes)
    (hp : node.parent = some parent) : parent ∈ form.nodes.map Node.id := by
  obtain ⟨before, after, h⟩ := List.append_of_mem hn
  have := form.mem_of_parent h hp
  rw [h, List.map_append]
  exact List.mem_append_left _ this

theorem page_mem_nodes {page : Page Validator} (h : page ∈ form.pages) :
    ⟨.page page, none⟩ ∈ form.nodes :=
  List.mem_flatMap_of_mem h List.mem_cons_self

/-- In reading order an element stands before all that is below it. -/
theorem cons_descendants_sublist {node : Node Validator} (h : node ∈ form.nodes) :
    (node :: node.item.descendants).Sublist form.nodes := by
  obtain ⟨page, hp, hn⟩ := List.mem_flatMap.mp h
  have hs : (node :: node.item.descendants).Sublist page.nodes := by
    rcases List.mem_cons.mp hn with rfl | hn
    · exact List.Sublist.refl _
    · exact (cons_descendants_sublist_nodesOf hn).cons _
  obtain ⟨before, after, hpages⟩ := List.append_of_mem hp
  rw [nodes, hpages, List.flatMap_append, List.flatMap_cons]
  exact hs.trans ((List.sublist_append_left _ _).trans (List.sublist_append_right _ _))

theorem descendants_subset_nodes {node : Node Validator} (h : node ∈ form.nodes) :
    node.item.descendants ⊆ form.nodes :=
  fun _ hd => (form.cons_descendants_sublist h).subset (List.mem_cons_of_mem _ hd)

theorem mem_of_lists {holder node : Node Validator} (hm : holder ∈ form.nodes)
    (h : holder.Lists node) : node ∈ form.nodes :=
  form.descendants_subset_nodes hm h.mem_descendants

/-- What a page or group lists has it as its parent. -/
theorem mem_of_listed {holder : Node Validator} (h : holder ∈ form.nodes)
    {element : Element Validator} (he : element ∈ holder.item.children) :
    ⟨element.item, some holder.id⟩ ∈ form.nodes :=
  form.mem_of_lists h ⟨rfl, element, he, rfl⟩

/-- What holds of the pages and passes on to whatever is listed holds of all elements. -/
@[elab_as_elim]
theorem nodes_induction {P : Node Validator → Prop}
    (page : ∀ page ∈ form.pages, P ⟨.page page, none⟩)
    (step : ∀ holder ∈ form.nodes, ∀ node, holder.Lists node → P holder → P node)
    {node : Node Validator} (hn : node ∈ form.nodes) : P node := by
  have hstep : ∀ holder node : Node Validator, holder.Lists node →
      (holder ∈ form.nodes ∧ P holder) → (node ∈ form.nodes ∧ P node) :=
    fun holder node hl ⟨hm, hp⟩ => ⟨form.mem_of_lists hm hl, step holder hm node hl hp⟩
  obtain ⟨first, hp, hn⟩ := List.mem_flatMap.mp hn
  have hfirst : P ⟨.page first, none⟩ := page first hp
  rcases List.mem_cons.mp hn with rfl | hn
  · exact hfirst
  · exact (forall_mem_descendants hstep ⟨form.page_mem_nodes hp, hfirst⟩ node hn).2

/-- Whatever is no page has a page or group as its parent that lists it. -/
theorem listed_of_mem {node : Node Validator} (h : node ∈ form.nodes) :
    (∃ page ∈ form.pages, node = ⟨.page page, none⟩) ∨ ∃ holder ∈ form.nodes, holder.Lists node := by
  refine form.nodes_induction ?_ ?_ h
  · exact fun page hp => .inl ⟨page, hp, rfl⟩
  · exact fun holder hm _ hl _ => .inr ⟨holder, hm, hl⟩

/-! ### Looking up elements and fields -/

theorem find?_id {node : Node Validator} (h : node ∈ form.nodes) :
    form.find? node.id = some node := by
  have hd : (form.nodes.map Node.id).Nodup := form.distinct
  obtain ⟨before, after, hs⟩ := List.append_of_mem h
  rw [hs, List.map_append, List.map_cons, List.nodup_append] at hd
  rw [find?, hs, List.find?_append, List.find?_eq_none.mpr]
  · simp
  · intro other ho
    have := hd.2.2 other.id (List.mem_map_of_mem ho) node.id List.mem_cons_self
    simpa using this

theorem mem_of_find? {id : Int} {node : Node Validator} (h : form.find? id = some node) :
    node ∈ form.nodes ∧ node.id = id :=
  ⟨List.mem_of_find?_eq_some h, by simpa using List.find?_some h⟩

theorem mem_page_fields_iff {page : Page Validator} {field : Definition.Field Validator} :
    field ∈ page.fields ↔ ∃ node ∈ page.descendants, node.item.field? = some field := by
  simp [Page.fields]

theorem mem_fields_iff {field : Definition.Field Validator} :
    field ∈ form.fields ↔ ∃ node ∈ form.nodes, node.item.field? = some field := by
  simp only [fields, nodes, List.mem_flatMap, mem_page_fields_iff]
  constructor
  · rintro ⟨page, hp, node, hn, hf⟩
    exact ⟨node, ⟨page, hp, List.mem_cons_of_mem _ hn⟩, hf⟩
  · rintro ⟨node, ⟨page, hp, hn⟩, hf⟩
    rcases List.mem_cons.mp hn with rfl | hn
    · cases hf
    · exact ⟨page, hp, node, hn, hf⟩

theorem fields_eq_filterMap : form.fields = form.nodes.filterMap fun node => node.item.field? := by
  rw [fields, nodes, List.filterMap_flatMap]
  rfl

/-- No two fields have one id. -/
theorem nodup_fieldIds : (form.fields.map (·.id)).Nodup := by
  have hd : form.nodes.Pairwise fun a b => a.id ≠ b.id := List.pairwise_map.mp form.distinct
  rw [fields_eq_filterMap]
  refine List.pairwise_map.mpr (hd.filterMap _ ?_)
  intro first second hne f hf g hg
  rw [← Item.id_of_field? hf, ← Item.id_of_field? hg]
  exact hne

theorem field?_eq_some_iff {id : Int} {field : Definition.Field Validator} :
    form.field? id = some field ↔ field ∈ form.fields ∧ field.id = id := by
  rw [mem_fields_iff, field?, Option.bind_eq_some_iff]
  constructor
  · rintro ⟨node, hn, hf⟩
    obtain ⟨hm, rfl⟩ := form.mem_of_find? hn
    exact ⟨⟨node, hm, hf⟩, (Item.id_of_field? hf).symm⟩
  · rintro ⟨⟨node, hn, hf⟩, rfl⟩
    have hid : node.id = field.id := Item.id_of_field? hf
    exact ⟨node, hid ▸ form.find?_id hn, hf⟩

end Form
end FormIntake
