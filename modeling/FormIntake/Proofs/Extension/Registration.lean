import FormIntake.Extension.Action
import FormIntake.Proofs.Rendering.Plain
import FormIntake.Proofs.Result
import Mathlib.Data.List.Nodup
import Mathlib.Data.List.TakeWhile

/-! # Registering extensions

A bus is changed by registering plugins and taking them back.  Whatever the changes were, the chain of
a hook holds the implementations of the plugins that are still registered and no others, in an order
that is known (`Chain.arranged`): those that want to be last, from the newest to the oldest, then the
plain ones, then those that want to be first.  A bus keeps this with every change
(`Bus.Arranged.register`, `Bus.Arranged.unregister`), and so with all of them
(`Bus.Arranged.replay`).

So a hook threads its subject through the implementations in the order that is promised
(`Bus.run_of_replay`). -/

namespace FormIntake

/-! ### Lists -/

theorem length_filter_le_one {α β : Type} [DecidableEq β] {f : α → β} {items : List α}
    (h : (items.map f).Nodup) (b : β) : (items.filter (f · = b)).length ≤ 1 := by
  have hcount : (items.map f).count b ≤ 1 := List.nodup_iff_count_le_one.mp h b
  rw [List.count, List.countP_map, List.countP_eq_length_filter] at hcount
  exact hcount

theorem eraseP_eq_filter {α : Type} {p : α → Bool} {items : List α} (h : items.countP p ≤ 1) :
    items.eraseP p = items.filter (!p ·) := by
  induction items with
  | nil => rfl
  | cons a items ih =>
      by_cases ha : p a = true
      · rw [List.countP_cons_of_pos ha] at h
        have hnone : ∀ b ∈ items, ¬ p b = true := List.countP_eq_zero.mp (by omega)
        rw [List.eraseP_cons_of_pos ha, List.filter_cons_of_neg (by simp [ha]), eq_comm,
          List.filter_eq_self]
        exact fun b hb => by simpa using hnone b hb
      · rw [List.countP_cons_of_neg ha] at h
        rw [List.eraseP_cons_of_neg ha, List.filter_cons_of_pos (by simpa using ha), ih h]

/-- Sorting by a key leaves the items of one key in their order. -/
theorem filter_mergeSort_key {α : Type} (items : List (String × α)) (key : String) :
    (items.mergeSort fun a b => a.1 ≤ b.1).filter (·.1 = key) = items.filter (·.1 = key) := by
  have hkey : ∀ item ∈ items.filter (·.1 = key), item.1 = key := fun item hi => by
    simpa using (List.mem_filter.mp hi).2
  have hsorted : (items.filter (·.1 = key)).Pairwise fun a b => decide (a.1 ≤ b.1) = true := by
    refine List.pairwise_of_forall_mem_list fun a ha b hb => ?_
    have hsame : a.1 = b.1 := (hkey a ha).trans (hkey b hb).symm
    exact decide_eq_true (hsame ▸ String.le_refl a.1)
  have hsub : (items.filter (·.1 = key)).Sublist (items.mergeSort fun a b => a.1 ≤ b.1) := by
    refine List.sublist_mergeSort (fun a b c hab hbc => ?_) (fun a b => ?_) hsorted List.filter_sublist
    · rw [decide_eq_true_eq] at hab hbc ⊢
      exact String.le_trans hab hbc
    · rw [Bool.or_eq_true, decide_eq_true_eq, decide_eq_true_eq]
      exact String.le_total a.1 b.1
  have hfiltered : (items.filter (·.1 = key)).Sublist
      ((items.mergeSort fun a b => a.1 ≤ b.1).filter (·.1 = key)) := by
    simpa only [List.filter_filter, Bool.and_self] using hsub.filter (·.1 = key)
  exact (hfiltered.eq_of_length ((List.mergeSort_perm _ _).filter _).length_eq.symm).symm

/-! ### Histories -/

/-- A change to the plugins of a bus. -/
inductive Registration where
  | register (plugin : Plugin) (name : String)
  | unregister (plugin : Nat)

namespace Registration

/-- The bus after a change, if it succeeds. -/
def next? (bus : Bus) : Registration → Option Bus
  | .register plugin name =>
    match bus.register plugin name with
    | (registered, .ok ()) => some registered
    | (_, .error _) => none
  | .unregister plugin => (bus.unregister plugin).toOption

/-- The plugins that are registered after a change, in the order in which they came. -/
def plugins (before : List Plugin) : Registration → List Plugin
  | .register plugin _ => before ++ [plugin]
  | .unregister plugin => before.filter (·.id ≠ plugin)

/-- The plugins that some changes leave registered, in the order in which they came. -/
def registered (history : List Registration) : List Plugin := history.foldl plugins []

end Registration

namespace Plugin

/-- The implementations that the plugin has of a hook. -/
def implementing (plugin : Plugin) (hook : String) : List Implementation :=
  (plugin.implementations.filter (·.1 = hook)).map Prod.snd

/-- The links that the plugin has in the chain of a hook. -/
def links (plugin : Plugin) (hook : String) : List Link :=
  (plugin.implementing hook).map fun implementation => ⟨plugin.id, implementation⟩

/-- The implementations in the order in which they are installed. -/
def sorted (plugin : Plugin) : List (String × Implementation) :=
  plugin.implementations.mergeSort fun a b => a.1 ≤ b.1

/-- All that the plugin implements asks only for what its hooks offer. -/
def isFit (plugin : Plugin) : Bool := plugin.sorted.all fun entry => Bus.fits entry.1 entry.2

theorem isFit_iff {plugin : Plugin} :
    plugin.isFit = true ↔ ∀ entry ∈ plugin.implementations, Bus.fits entry.1 entry.2 = true := by
  rw [isFit, List.all_eq_true]
  simp only [sorted, (List.mergeSort_perm _ _).mem_iff]

/-- All that the plugin implements fits, and nothing of it is a wrapper. -/
def Fits (plugin : Plugin) : Prop :=
  ∀ entry ∈ plugin.implementations, Bus.fits entry.1 entry.2 = true ∧ entry.2.mode ≠ .wrapper

theorem mem_implementing {plugin : Plugin} {hook : String} {implementation : Implementation} :
    implementation ∈ plugin.implementing hook ↔ (hook, implementation) ∈ plugin.implementations := by
  simp [implementing]

theorem Fits.mode_ne_of_mem_links {plugin : Plugin} (h : plugin.Fits) {hook : String} :
    ∀ link ∈ plugin.links hook, link.mode ≠ .wrapper := by
  intro link hl
  obtain ⟨implementation, hi, rfl⟩ := List.mem_map.mp hl
  exact (h _ (mem_implementing.mp hi)).2

theorem length_links_le_one (plugin : Plugin) (hook : String) : (plugin.links hook).length ≤ 1 := by
  rw [links, List.length_map, implementing, List.length_map]
  exact length_filter_le_one plugin.once hook

/-- The links of some owners are those of the plugins. -/
theorem filter_flatMap_links (owners : Nat → Bool) (plugins : List Plugin) (hook : String) :
    ((plugins.flatMap (·.links hook)).filter fun link => owners link.owner) =
      (plugins.filter fun plugin => owners plugin.id).flatMap (·.links hook) := by
  have hlinks : ∀ plugin : Plugin, (plugin.links hook).filter (fun link => owners link.owner) =
      if owners plugin.id then plugin.links hook else [] := by
    intro plugin
    rw [links, List.filter_map, Function.comp_def]
    cases ho : owners plugin.id with
    | true => simp [ho]
    | false => simp [ho]
  induction plugins with
  | nil => rfl
  | cons plugin plugins ih =>
      rw [List.flatMap_cons, List.filter_append, ih, hlinks, List.filter_cons]
      split
      · rw [List.flatMap_cons]
      · rw [List.nil_append]

/-- Plugins that can be told apart have one link together for an owner. -/
theorem countP_links_le_one {plugins : List Plugin} (id : Nat) (hook : String)
    (hn : (plugins.map Plugin.id).Nodup) :
    (plugins.flatMap (·.links hook)).countP (fun link => link.owner = id) ≤ 1 := by
  have hone : (plugins.filter (·.id = id)).length ≤ 1 := length_filter_le_one hn id
  rw [List.countP_eq_length_filter, filter_flatMap_links (fun owner => owner = id)]
  cases hp : plugins.filter (·.id = id) with
  | nil => exact Nat.zero_le 1
  | cons plugin others =>
      have hothers : others = [] := by
        rw [hp, List.length_cons] at hone
        exact List.length_eq_zero_iff.mp (by omega)
      rw [hothers, List.flatMap_singleton]
      exact plugin.length_links_le_one hook

end Plugin

/-! ### The order of a chain -/

namespace Mode

variable {α : Type} {mode : α → Mode} {items : List α}

/-- Items in the order of their modes: those that want to be first, the plain ones, and those that want
to be last. -/
def arrange (mode : α → Mode) (items : List α) : List α :=
  items.filter (mode · = .first) ++ items.filter (mode · = .plain) ++ items.filter (mode · = .last)

theorem arrange_perm (h : ∀ a ∈ items, mode a ≠ .wrapper) : (arrange mode items).Perm items := by
  induction items with
  | nil => exact .refl []
  | cons a items ih =>
      obtain ⟨ha, hitems⟩ := List.forall_mem_cons.mp h
      refine .trans ?_ ((ih hitems).cons a)
      unfold arrange
      simp only [List.filter_cons, List.append_assoc]
      cases hm : mode a with
      | first => exact .refl _
      | plain => exact List.perm_middle
      | last =>
          simp only [reduceCtorEq, decide_false, decide_true, Bool.false_eq_true, if_true, if_false,
            ← List.append_assoc]
          exact List.perm_middle
      | wrapper => exact absurd hm ha

theorem map_arrange {β : Type} (mode : β → Mode) (f : α → β) (items : List α) :
    (arrange (mode ∘ f) items).map f = arrange mode (items.map f) := by
  simp only [arrange, List.map_append, List.filter_map, Function.comp_def]

theorem filter_filter_mode (wanted kept : Mode) :
    (items.filter (mode · = kept)).filter (mode · = wanted) =
      if wanted = kept then items.filter (mode · = kept) else [] := by
  split
  · next h =>
    rw [h]
    exact List.filter_eq_self.mpr fun a ha => (List.mem_filter.mp ha).2
  · next h =>
    rw [List.filter_eq_nil_iff]
    intro a ha
    have hkept : mode a = kept := by simpa using (List.mem_filter.mp ha).2
    rw [hkept, decide_eq_true_eq]
    exact Ne.symm h

end Mode

namespace Chain

variable {links more : List Link} {link : Link}

/-- The chain that links make up if they come one after another: new ones that want to be last stand at
the front, the others behind those that came before. -/
def arranged (links : List Link) : Chain :=
  (links.filter (·.mode = .last)).reverse ++ links.filter (·.mode = .plain) ++
    links.filter (·.mode = .first)

theorem mode_ne_of_mem_arranged (h : link ∈ arranged links) : link.mode ≠ .wrapper := by
  simp only [arranged, List.mem_append, List.mem_reverse, List.mem_filter, decide_eq_true_eq] at h
  rcases h with (⟨-, hm⟩ | ⟨-, hm⟩) | ⟨-, hm⟩ <;> rw [hm] <;> decide

theorem order_arranged (links : List Link) : (arranged links).order = Mode.arrange Link.mode links := by
  have hplain : (arranged links).filter (fun link => link.mode = .plain || link.mode = .wrapper) =
      (arranged links).filter (·.mode = .plain) :=
    List.filter_congr fun link hl => by simp [mode_ne_of_mem_arranged hl]
  rw [order, hplain, arranged, Mode.arrange]
  simp only [List.filter_append, List.filter_reverse, Mode.filter_filter_mode]
  simp

theorem arranged_perm (h : ∀ link ∈ links, link.mode ≠ .wrapper) : (arranged links).Perm links := by
  refine .trans ?_ (Mode.arrange_perm h)
  rw [arranged, Mode.arrange, List.append_assoc, List.append_assoc]
  refine (List.reverse_perm _).append_right _ |>.trans (List.perm_append_comm.trans ?_)
  exact List.perm_append_comm.append_right _ |>.trans (.of_eq (List.append_assoc ..))

theorem inner_arranged (links : List Link) : (arranged links).inner = arranged links :=
  List.takeWhile_eq_self_iff.mpr fun _ hl => by simpa using mode_ne_of_mem_arranged hl

theorem wrappers_arranged (links : List Link) : (arranged links).wrappers = [] :=
  List.dropWhile_eq_nil_iff.mpr fun _ hl => by simpa using mode_ne_of_mem_arranged hl

theorem firsts_arranged (links : List Link) :
    (arranged links).firsts = links.filter (·.mode = .first) := by
  have hfirst : ∀ link ∈ (links.filter (·.mode = .first)).reverse,
      decide (link.mode = .first) = true :=
    fun link hl => (List.mem_filter.mp (List.mem_reverse.mp hl)).2
  have hothers : ((links.filter (·.mode = .last)).reverse ++
      links.filter (·.mode = .plain)).reverse.takeWhile (·.mode = .first) = [] := by
    rw [List.takeWhile_eq_nil_iff]
    intro hl hm
    have hmem := List.get_mem _ (⟨0, hl⟩ : Fin _)
    simp only [List.mem_reverse, List.mem_append, List.mem_filter, decide_eq_true_eq] at hmem hm
    rcases hmem with ⟨-, h⟩ | ⟨-, h⟩ <;> rw [hm] at h <;> exact absurd h (by decide)
  rw [firsts, arranged, List.reverse_append, List.takeWhile_append_of_pos hfirst, hothers,
    List.append_nil, List.reverse_reverse]

theorem body_arranged (links : List Link) :
    (arranged links).body =
      (links.filter (·.mode = .last)).reverse ++ links.filter (·.mode = .plain) := by
  have h := body_append_firsts (arranged links)
  rw [firsts_arranged] at h
  exact List.append_cancel_right h

/-- A new link takes its place in the order. -/
theorem insert_arranged (links : List Link) (h : link.mode ≠ .wrapper) :
    (arranged links).insert link = arranged (links ++ [link]) := by
  unfold insert
  rw [inner_arranged, wrappers_arranged, body_arranged, firsts_arranged]
  unfold arranged
  simp only [List.filter_append, List.filter_cons, List.filter_nil]
  cases hm : link.mode with
  | plain => simp
  | first => simp
  | last => simp
  | wrapper => exact absurd hm h

theorem foldl_insert_arranged (h : ∀ link ∈ more, link.mode ≠ .wrapper) :
    more.foldl insert (arranged links) = arranged (links ++ more) := by
  induction more generalizing links with
  | nil => rw [List.foldl_nil, List.append_nil]
  | cons link more ih =>
      obtain ⟨hl, hm⟩ := List.forall_mem_cons.mp h
      rw [List.foldl_cons, insert_arranged links hl, ih hm, List.append_assoc, List.singleton_append]

theorem remove_arranged {owner : Nat} (h : ∀ link ∈ links, link.mode ≠ .wrapper)
    (ho : links.countP (·.owner = owner) ≤ 1) :
    (arranged links).remove owner = arranged (links.filter (·.owner ≠ owner)) := by
  rw [remove, eraseP_eq_filter (by rwa [(arranged_perm h).countP_eq])]
  simp only [arranged, List.filter_append, List.filter_reverse, List.filter_filter, Bool.and_comm,
    decide_not, ne_eq]

theorem mem_insert {chain : Chain} {other : Link} :
    other ∈ chain.insert link ↔ other = link ∨ other ∈ chain := by
  have hparts : other ∈ chain ↔ other ∈ chain.inner ∨ other ∈ chain.wrappers := by
    rw [← List.mem_append, inner_append_wrappers]
  have hinner : other ∈ chain.inner ↔ other ∈ chain.inner.body ∨ other ∈ chain.inner.firsts := by
    rw [← List.mem_append, body_append_firsts]
  unfold insert
  split
  · exact List.mem_cons
  · rw [List.mem_append, List.mem_cons, hparts, or_left_comm]
  · simp only [List.mem_append, List.mem_cons, hparts, hinner, or_assoc, or_left_comm]
  · rw [List.mem_append, List.mem_singleton, or_comm]

theorem mem_foldl_insert {chain : Chain} :
    link ∈ more.foldl insert chain ↔ link ∈ more ∨ link ∈ chain := by
  induction more generalizing chain with
  | nil => simp
  | cons other more ih => rw [List.foldl_cons, ih, mem_insert, List.mem_cons, or_left_comm, or_assoc]

end Chain

/-! ### A bus and its plugins -/

namespace Bus

variable {bus after : Bus} {plugins : List Plugin} {plugin : Plugin} {name : String}

theorem chain_install (bus : Bus) (owner : Nat) (implemented : String) (implementation : Implementation)
    (hook : String) :
    (bus.install owner implemented implementation).chain hook =
      if hook = implemented then (bus.chain implemented).insert ⟨owner, implementation⟩
      else bus.chain hook := by
  unfold install chain
  dsimp only
  rw [Assoc.lookup_put]
  split
  · rfl
  · rfl

theorem chain_remove (bus : Bus) (owner : Nat) (hook : String) :
    (bus.remove owner).chain hook = (bus.chain hook).remove owner := by
  unfold remove chain
  dsimp only
  induction bus.chains with
  | nil => rfl
  | cons entry chains ih =>
      rw [List.map_cons, List.lookup_cons, List.lookup_cons]
      split
      · rfl
      · exact ih

/-- The bus with implementations of a plugin in its chains. -/
def installed (bus : Bus) (owner : Nat) (entries : List (String × Implementation)) : Bus :=
  entries.foldl (fun bus entry => bus.install owner entry.1 entry.2) bus

/-- Installing lets all implementations in or none. -/
theorem installAll_eq (owner : Nat) : ∀ (entries : List (String × Implementation)) (bus : Bus),
    bus.installAll owner entries =
      if entries.all (fun entry => fits entry.1 entry.2) then some (bus.installed owner entries)
      else none
  | [], _ => rfl
  | (hook, implementation) :: entries, bus => by
    rw [installAll, List.all_cons]
    cases fits hook implementation with
    | false => rfl
    | true =>
        rw [if_pos rfl, installAll_eq owner entries, Bool.true_and]
        rfl

theorem names_installed (owner : Nat) (entries : List (String × Implementation)) (bus : Bus) :
    (bus.installed owner entries).names = bus.names := by
  induction entries generalizing bus with
  | nil => rfl
  | cons entry entries ih => exact ih (bus.install owner entry.1 entry.2)

theorem chain_installed (owner : Nat) (hook : String) (entries : List (String × Implementation))
    (bus : Bus) :
    (bus.installed owner entries).chain hook =
      ((entries.filter (·.1 = hook)).map fun entry => ⟨owner, entry.2⟩).foldl Chain.insert
        (bus.chain hook) := by
  induction entries generalizing bus with
  | nil => rfl
  | cons entry entries ih =>
      show ((bus.install owner entry.1 entry.2).installed owner entries).chain hook = _
      rw [ih, chain_install]
      by_cases hh : hook = entry.1
      · rw [if_pos hh, List.filter_cons_of_pos (by simpa using hh.symm), List.map_cons,
          List.foldl_cons, hh]
      · rw [if_neg hh, List.filter_cons_of_neg (by simpa using Ne.symm hh)]

/-- A plugin without wrappers has none in any chain. -/
theorem mode_ne_of_wrapped_eq_nil {owner : Nat} (h : bus.wrapped owner = []) {hook : String}
    {link : Link} (hl : link ∈ bus.chain hook) (ho : link.owner = owner) : link.mode ≠ .wrapper := by
  intro hm
  unfold chain at hl
  cases hc : bus.chains.lookup hook with
  | none =>
      rw [hc] at hl
      cases hl
  | some chain =>
      rw [hc, Option.getD_some] at hl
      obtain ⟨before, behind, hchains, -⟩ := List.lookup_eq_some_iff.mp hc
      rw [wrapped, List.map_eq_nil_iff, List.filter_eq_nil_iff] at h
      refine h (hook, chain) (by simp [hchains]) ?_
      exact List.any_eq_true.mpr ⟨link, hl, by simp [ho, hm]⟩

/-- The bus with the name of a plugin and all its implementations. -/
def admitting (bus : Bus) (plugin : Plugin) (name : String) : Bus :=
  { bus with names := bus.names ++ [(name, plugin.id)] }.installed plugin.id plugin.sorted

theorem names_admitting (bus : Bus) (plugin : Plugin) (name : String) :
    (bus.admitting plugin name).names = bus.names ++ [(name, plugin.id)] := names_installed ..

theorem chain_admitting (bus : Bus) (plugin : Plugin) (name hook : String) :
    (bus.admitting plugin name).chain hook =
      (plugin.links hook).foldl Chain.insert (bus.chain hook) := by
  rw [admitting, chain_installed, Plugin.links, Plugin.implementing, Plugin.sorted,
    filter_mergeSort_key, List.map_map]
  rfl

/-- What registering does, whether it succeeds or not. -/
theorem register_eq (bus : Bus) (plugin : Plugin) (name : String) :
    bus.register plugin name =
      if (bus.names.lookup name).isSome || bus.isRegistered plugin.id then
        (bus, .error .registeredTwice)
      else if plugin.isFit = false then (bus, .error .unfitImplementation)
      else match (bus.admitting plugin name).wrapped plugin.id with
        | [] => (bus.admitting plugin name, .ok ())
        | hooks => ((bus.admitting plugin name).remove plugin.id, .error (.wrappers hooks)) := by
  unfold register
  split
  · rfl
  · have hall : Bus.installAll { bus with names := bus.names ++ [(name, plugin.id)] } plugin.id
        (plugin.implementations.mergeSort fun a b => a.1 ≤ b.1) =
          if plugin.isFit then some (bus.admitting plugin name) else none := installAll_eq ..
    dsimp only
    rw [hall]
    cases plugin.isFit with
    | false => rfl
    | true => rfl

/-- What registering does where it succeeds. -/
theorem register_eq_ok (h : bus.register plugin name = (after, .ok ())) :
    bus.isRegistered plugin.id = false ∧ after.names = bus.names ++ [(name, plugin.id)] ∧
    (∀ hook, after.chain hook = (plugin.links hook).foldl Chain.insert (bus.chain hook)) ∧
    plugin.Fits := by
  rw [register_eq] at h
  split at h
  · cases h
  · next hfree =>
    rw [Bool.or_eq_true, not_or, Bool.not_eq_true, Bool.not_eq_true] at hfree
    split at h
    · cases h
    · next hfit =>
      split at h
      · next hw =>
        cases h
        refine ⟨hfree.2, names_admitting .., chain_admitting bus plugin name, fun entry he => ⟨?_, ?_⟩⟩
        · exact Plugin.isFit_iff.mp (by simpa using hfit) entry he
        · have hmem : ⟨plugin.id, entry.2⟩ ∈ (bus.admitting plugin name).chain entry.1 := by
            rw [chain_admitting, Chain.mem_foldl_insert]
            exact .inl (List.mem_map_of_mem (Plugin.mem_implementing.mpr he))
          exact mode_ne_of_wrapped_eq_nil hw hmem rfl
      · cases h

/-- The bus has these plugins registered, and their implementations in its chains. -/
structure Arranged (bus : Bus) (plugins : List Plugin) : Prop where
  names_eq : bus.names.map Prod.snd = plugins.map Plugin.id
  nodup : (plugins.map Plugin.id).Nodup
  chain_eq : ∀ hook, bus.chain hook = Chain.arranged (plugins.flatMap (·.links hook))
  fits_of_mem : ∀ plugin ∈ plugins, plugin.Fits

namespace Arranged

theorem isRegistered_iff (h : bus.Arranged plugins) (id : Nat) :
    bus.isRegistered id = true ↔ id ∈ plugins.map Plugin.id := by
  rw [isRegistered, List.any_eq_true, ← h.names_eq, List.mem_map]
  simp only [decide_eq_true_eq]

theorem mode_ne_of_mem_links (h : bus.Arranged plugins) {hook : String} :
    ∀ link ∈ plugins.flatMap (·.links hook), link.mode ≠ .wrapper := by
  intro link hl
  obtain ⟨plugin, hp, hl⟩ := List.mem_flatMap.mp hl
  exact (h.fits_of_mem plugin hp).mode_ne_of_mem_links link hl

theorem register (h : bus.Arranged plugins) (hr : bus.register plugin name = (after, .ok ())) :
    after.Arranged (plugins ++ [plugin]) := by
  obtain ⟨hfree, hnames, hchain, hfits⟩ := register_eq_ok hr
  have hnew : plugin.id ∉ plugins.map Plugin.id := by
    rw [← h.isRegistered_iff, hfree]
    exact Bool.false_ne_true
  constructor
  · rw [hnames, List.map_append, List.map_append, h.names_eq, List.map_singleton, List.map_singleton]
  · rw [List.map_append, List.map_singleton, (List.perm_append_singleton _ _).nodup_iff]
    exact h.nodup.cons hnew
  · intro hook
    rw [hchain, h.chain_eq, Chain.foldl_insert_arranged hfits.mode_ne_of_mem_links, List.flatMap_append,
      List.flatMap_singleton]
  · rw [List.forall_mem_append]
    exact ⟨h.fits_of_mem, List.forall_mem_singleton.mpr hfits⟩

theorem unregister {id : Nat} (h : bus.Arranged plugins)
    (hu : bus.unregister id = .ok after) : after.Arranged (plugins.filter (·.id ≠ id)) := by
  unfold Bus.unregister at hu
  split at hu
  · cases hu
    constructor
    · have hids : (bus.names.map Prod.snd).filter (· ≠ id) =
          (plugins.map Plugin.id).filter (· ≠ id) := by rw [h.names_eq]
      rwa [List.filter_map, List.filter_map] at hids
    · exact h.nodup.sublist (List.filter_sublist.map _)
    · intro hook
      rw [chain_remove, h.chain_eq,
        Chain.remove_arranged h.mode_ne_of_mem_links (Plugin.countP_links_le_one id hook h.nodup),
        Plugin.filter_flatMap_links fun owner => owner ≠ id]
    · exact fun plugin hp => h.fits_of_mem plugin (List.mem_of_mem_filter hp)
  · cases hu

/-- A bus stays arranged with every change that succeeds. -/
theorem next {change : Registration} (h : bus.Arranged plugins)
    (hc : change.next? bus = some after) : after.Arranged (change.plugins plugins) := by
  cases change with
  | register plugin name =>
      unfold Registration.next? at hc
      dsimp only at hc
      split at hc
      · next registered hr =>
        cases hc
        exact h.register hr
      · cases hc
  | unregister id =>
      have hu : bus.unregister id = .ok after := toOption_eq_some_iff.mp hc
      exact h.unregister hu

end Arranged

end Bus

/-! ### Running a hook -/

namespace Implementation

end Implementation

namespace Bus

/-- The implementations of a hook are called in the order of their modes. -/
theorem Arranged.run_eq {bus : Bus} {plugins : List Plugin} (h : bus.Arranged plugins) (hook : Hook)
    (subject : Subject) (arguments : Arguments) :
    bus.run hook subject arguments =
      (Mode.arrange Implementation.mode (plugins.flatMap (·.implementing hook.name))).foldlM
        (fun subject implementation => implementation.call (("value", .given subject) :: arguments))
        subject := by
  have himplementations : plugins.flatMap (·.implementing hook.name) =
      (plugins.flatMap (·.links hook.name)).map Link.implementation := by
    rw [List.map_flatMap]
    refine congrArg (plugins.flatMap ·) (funext fun plugin => ?_)
    rw [Plugin.links, List.map_map]
    exact (List.map_id _).symm
  rw [run, h.chain_eq, Chain.order_arranged, himplementations, ← Mode.map_arrange, List.foldlM_map]
  rfl

/-- A plugin that reckons with the number of entries. -/
def counting (id : Nat) (action : Action) (mode : Mode) : Plugin where
  id
  implementations := [(Hook.entryCount.name, .ofAction action ["value"] mode)]
  once := List.nodup_singleton _

end Bus
end FormIntake
