/-! # Ordered associations

A list of pairs read as a mapping: `List.lookup` finds the first entry of a key, and `Assoc.put`
replaces the value of a known key in place or appends a new entry, so keys stay in the order in
which they first came (`keys_put`) and each is found with its last value (`lookup_put`).
-/

namespace FormIntake.Assoc

variable {α β : Type} [DecidableEq α]

/-- The entries with one more: a known key keeps its place and takes the new value. -/
def put (key : α) (value : β) : List (α × β) → List (α × β)
  | [] => [(key, value)]
  | (k, v) :: rest => if k = key then (k, value) :: rest else (k, v) :: put key value rest

theorem lookup_put (key other : α) (value : β) (entries : List (α × β)) :
    (put key value entries).lookup other =
      if other = key then some value else entries.lookup other := by
  induction entries with
  | nil => grind [put]
  | cons e rest ih => grind [put]

theorem keys_put (key : α) (value : β) (entries : List (α × β)) :
    (put key value entries).map Prod.fst =
      if key ∈ entries.map Prod.fst then entries.map Prod.fst
      else entries.map Prod.fst ++ [key] := by
  induction entries with
  | nil => simp [put]
  | cons e rest ih =>
    obtain ⟨k, v⟩ := e
    by_cases hk : k = key
    · simp [put, hk]
    · simp only [put, hk, if_false, List.map_cons, ih, List.mem_cons, Ne.symm hk, false_or]
      split <;> simp

/-- The mapping that a list of entries writes down, later entries replacing earlier ones. -/
def ofList (entries : List (α × β)) : List (α × β) :=
  entries.foldl (fun acc e => put e.1 e.2 acc) []

theorem nodup_keys_put {key : α} {value : β} {entries : List (α × β)}
    (h : (entries.map Prod.fst).Nodup) : ((put key value entries).map Prod.fst).Nodup := by
  rw [keys_put]
  split
  · exact h
  · next hnew =>
    refine List.nodup_append.mpr ⟨h, List.pairwise_singleton _ _, fun k hk other ho => ?_⟩
    rw [List.mem_singleton.mp ho]
    exact fun he => hnew (he ▸ hk)

/-- A mapping holds no key twice. -/
theorem nodup_keys_ofList (entries : List (α × β)) : ((ofList entries).map Prod.fst).Nodup := by
  have h : ∀ before : List (α × β), (before.map Prod.fst).Nodup →
      ((entries.foldl (fun acc e => put e.1 e.2 acc) before).map Prod.fst).Nodup := by
    induction entries with
    | nil => exact fun _ hb => hb
    | cons e rest ih => exact fun before hb => ih _ (nodup_keys_put hb)
  exact h [] List.nodup_nil

/-- The entries without those of a key. -/
def erase (key : α) (entries : List (α × β)) : List (α × β) :=
  entries.filter fun e => e.1 ≠ key

theorem lookup_erase_self (key : α) (entries : List (α × β)) :
    (erase key entries).lookup key = none := by
  induction entries with
  | nil => rfl
  | cons e rest ih =>
    obtain ⟨k, v⟩ := e
    by_cases hk : k = key
    · simpa [erase, hk] using ih
    · have hne : (key == k) = false := by simpa using Ne.symm hk
      simp only [erase, hk, ne_eq, not_false_eq_true, decide_true, List.filter_cons_of_pos,
        List.lookup_cons, hne]
      exact ih

end FormIntake.Assoc
