import Mathlib.Order.Defs.Unbundled
import FormIntake.Store.Repository
import FormIntake.Proofs.Result

/-! # What a repository holds

A ledger and a database show the same: their entries, what is kept of the fields of an entry, and the
number that the next entry gets.  Each operation has one lemma that says what it does to them:
`Repository.enters_createEntry`, `Repository.files_saveValues` and
`Repository.copies_insertCopy`.

A repository is `Numbered` if what it holds stands under positive numbers below the next one, so that
nothing is in the way of a new entry.  This is so in the beginning, and stays so. -/

namespace FormIntake

/-! ### The next number -/

theorem lt_nextNumber {numbers : List Int} {n : Int} (h : n ∈ numbers) : n < nextNumber numbers := by
  unfold nextNumber
  split
  · next m hm =>
    have hle : n ≤ m := (List.max?_eq_some_iff.mp hm).2 n h
    omega
  · next hn =>
    rw [List.max?_eq_none_iff] at hn
    rw [hn] at h
    cases h

theorem nextNumber_append (numbers : List Int) :
    nextNumber (numbers ++ [nextNumber numbers]) = nextNumber numbers + 1 := by
  have hmax : (numbers ++ [nextNumber numbers]).max? = some (nextNumber numbers) := by
    rw [List.max?_eq_some_iff]
    refine ⟨by simp, fun b hb => ?_⟩
    rw [List.mem_append, List.mem_singleton] at hb
    rcases hb with hb | rfl
    · have hlt := lt_nextNumber hb
      omega
    · omega
  rw [nextNumber, hmax]

/-! ### Counting -/

section count

variable (count : Entry → Bool) (entries : List Entry) {entry : Entry}

theorem countP_append_le (entry : Entry) :
    ((entries ++ [entry]).countP count : Int) ≤ entries.countP count + 1 := by
  have hle : [entry].countP count ≤ 1 := List.countP_le_length
  rw [List.countP_append]
  omega

theorem countP_append_of_neg {count : Entry → Bool} (h : count entry = false) :
    (entries ++ [entry]).countP count = entries.countP count := by
  have hnil : [entry].countP count = 0 := by simp [h]
  rw [List.countP_append]
  omega

end count

/-! ### Rows of the database -/

namespace Database

variable {db after : Database}

theorem of_saveValue {value : StoredValue} (h : db.saveValue value = .ok after) :
    (∃ entry ∈ db.entries, entry.id = value.entry) ∧
      after = { db with values := db.values ++ [value] } := by
  unfold saveValue at h
  obtain ⟨_, -, h⟩ := exists_of_bind_eq_ok h
  by_cases ht : db.values.any fun v => v.entry = value.entry && v.element = value.element
  · rw [if_pos ht] at h
    cases h
  · by_cases hf : (db.find? value.entry).isNone
    · rw [if_neg ht, if_pos hf] at h
      cases h
    · rw [if_neg ht, if_neg hf] at h
      cases h
      refine ⟨?_, rfl⟩
      have hs : (db.find? value.entry).isSome := by simpa [Option.ne_none_iff_isSome] using hf
      simpa [find?] using List.find?_isSome.mp hs

theorem of_saveValues {entry : Int} {values : List (Int × String)}
    (h : db.saveValues entry values = .ok after) :
    after = { db with values := db.values ++ values.map fun v => ⟨entry, v.1, v.2⟩ } := by
  induction values generalizing db with
  | nil =>
      cases h
      simp
  | cons value rest ih =>
      unfold saveValues at h
      rw [List.foldlM_cons] at h
      obtain ⟨made, hv, h⟩ := exists_of_bind_eq_ok h
      rw [ih h, (of_saveValue hv).2]
      simp

/-! ### What the database takes -/

theorem createEntry_of_fits {draft : Draft} (hd : draft.id = none)
    (h : (draftNumbers draft).all fitsStore = true) :
    ∃ created, db.createEntry draft = .ok created := by
  unfold createEntry checkNumbers
  rw [if_pos h, hd]
  exact ⟨_, rfl⟩

theorem createEntry_of_oversized {draft : Draft} (h : (draftNumbers draft).all fitsStore = false) :
    db.createEntry draft = .error .oversizedNumber := by
  unfold createEntry checkNumbers
  rw [if_neg (by rw [h]; exact Bool.false_ne_true)]
  rfl

/-- A value of an entry that is there and has none of the element yet is taken if the number of the
element fits. -/
theorem saveValue_eq {value : StoredValue} (he : fitsStore value.entry = true)
    (hthere : ∃ entry ∈ db.entries, entry.id = value.entry)
    (hnew : ∀ other ∈ db.values, other.entry = value.entry → other.element ≠ value.element) :
    db.saveValue value = if fitsStore value.element then
      .ok { db with values := db.values ++ [value] } else .error .oversizedNumber := by
  unfold saveValue checkNumbers
  cases hf : fitsStore value.element with
  | false =>
      rw [if_neg (by simp [hf])]
      rfl
  | true =>
      have hnone : (db.values.any fun v => v.entry = value.entry && v.element = value.element) =
          false := by
        rw [List.any_eq_false]
        intro other ho
        simpa using hnew other ho
      have hfound : (db.find? value.entry).isNone = false := by
        obtain ⟨entry, hm, hid⟩ := hthere
        rw [← Bool.not_eq_true, Option.isNone_iff_eq_none, find?, List.find?_eq_none]
        exact fun hall => hall entry hm (by simpa using hid)
      rw [if_pos (by simp [he, hf]), if_pos rfl, hnone, hfound]
      rfl

/-- Values of an entry that is there and has none of their elements yet are taken if the numbers of
the elements fit. -/
theorem saveValues_eq {entry : Int} (he : fitsStore entry = true) {values : List (Int × String)}
    (hthere : ∃ other ∈ db.entries, other.id = entry)
    (hnew : ∀ other ∈ db.values, other.entry = entry → other.element ∉ values.map Prod.fst)
    (hd : (values.map Prod.fst).Nodup) :
    db.saveValues entry values = if (values.map Prod.fst).all fitsStore then
      .ok { db with values := db.values ++ values.map fun v => ⟨entry, v.1, v.2⟩ }
        else .error .oversizedNumber := by
  induction values generalizing db with
  | nil =>
      show Except.ok db = Except.ok { db with values := db.values ++ [] }
      rw [List.append_nil]
  | cons value rest ih =>
      rw [List.map_cons, List.nodup_cons] at hd
      have hfirst : db.saveValue ⟨entry, value.1, value.2⟩ = _ := saveValue_eq he hthere
        fun other ho hof hsame => hnew other ho hof (hsame ▸ List.mem_cons_self)
      unfold saveValues
      rw [List.foldlM_cons, hfirst, List.map_cons, List.all_cons]
      cases fitsStore value.1 with
      | false => rfl
      | true =>
          have hlater : ∀ other ∈ db.values ++ [⟨entry, value.1, value.2⟩], other.entry = entry →
              other.element ∉ rest.map Prod.fst := by
            intro other ho hof
            rcases List.mem_append.mp ho with ho | ho
            · exact fun hm => hnew other ho hof (List.mem_cons_of_mem _ hm)
            · rw [List.mem_singleton.mp ho]
              exact hd.1
          have hrest : Database.saveValues
              { db with values := db.values ++ [⟨entry, value.1, value.2⟩] } entry rest = _ :=
            ih hthere hlater hd.2
          rw [if_pos rfl, Bool.true_and]
          refine hrest.trans ?_
          rw [List.map_cons, List.append_assoc, List.singleton_append]

end Database

namespace Repository

/-! ### What is held -/

/-- The entries in the order in which they came. -/
def entries : Repository → List Entry
  | .ledger l => l.entries
  | .database db => db.entries

/-- What is kept of the fields of an entry: their ids and what was stored of their values. -/
def fieldValues (repository : Repository) (entry : Int) : List (Int × String) :=
  match repository with
  | .ledger l => (l.values.lookup entry).getD []
  | .database db => (db.values.filter (·.entry = entry)).map fun v => (v.element, v.text)

/-- What is read of an entry in a database is what is held of it, in the order of the fields. -/
theorem valuesOf_eq (db : Database) {entry : Int} (h : fitsStore entry = true) :
    db.valuesOf entry =
      .ok ((fieldValues (.database db) entry).mergeSort fun a b => a.1 ≤ b.1) := by
  have hc : Database.checkNumbers [entry] = .ok () := by simp [Database.checkNumbers, h]
  rw [Database.valuesOf, hc]
  rfl

/-- The number that the next entry gets. -/
def nextId : Repository → Int
  | .ledger l => l.entries.length + 1
  | .database db => nextNumber (db.entries.map Entry.id)

/-- All that is held stands under positive numbers below the next one. -/
structure Numbered (repository : Repository) : Prop where
  next_pos : 0 < repository.nextId
  id_lt : ∀ entry ∈ repository.entries, entry.id < repository.nextId
  fieldValues_eq_nil : ∀ id, repository.nextId ≤ id → repository.fieldValues id = []

/-- An entry was added with what a draft says. -/
structure Enters (before : Repository) (draft : Draft) (entry : Entry) (after : Repository) :
    Prop where
  id_eq : entry.id = before.nextId
  nextId_eq : after.nextId = before.nextId + 1
  formId_eq : entry.formId = draft.formId
  createdBy_eq : entry.createdBy = draft.createdBy
  address_eq : entry.address = draft.address
  entries_eq : after.entries = before.entries ++ [entry]
  fieldValues_eq : ∀ id, after.fieldValues id = before.fieldValues id
  count_le : ∀ form n, before.countEntries form = .ok n →
    ∃ m, after.countEntries form = .ok m ∧ m ≤ n + 1
  count_of_ne : ∀ form, entry.formId ≠ form → after.countEntries form = before.countEntries form

/-- The values of an entry were kept. -/
structure Files (before : Repository) (entry : Int) (values : List (Int × String))
    (after : Repository) : Prop where
  nextId_eq : after.nextId = before.nextId
  entries_eq : after.entries = before.entries
  count_eq : after.countEntries = before.countEntries
  fieldValues_eq : before.fieldValues entry = [] → after.fieldValues entry = values
  fieldValues_of_ne : ∀ id, id ≠ entry → after.fieldValues id = before.fieldValues id

/-- Nothing was changed but for tables of the site, and values of entries that there are. -/
structure Copies (before after : Repository) : Prop where
  nextId_eq : after.nextId = before.nextId
  entries_eq : after.entries = before.entries
  count_eq : after.countEntries = before.countEntries
  fieldValues_eq : ∀ id, (∀ entry ∈ before.entries, entry.id ≠ id) →
    after.fieldValues id = before.fieldValues id

/-! ### What the operations do -/

variable {repository after : Repository}

theorem enters_createEntry {draft : Draft} {entry : Entry} (hd : draft.id = none)
    (h : repository.createEntry draft = .ok (entry, after)) :
    Enters repository draft entry after := by
  cases repository with
  | ledger l =>
      cases h
      refine ⟨rfl, ?_, rfl, rfl, rfl, rfl, fun _ => rfl, ?_, ?_⟩
      · show ((l.entries ++ [_]).length : Int) + 1 = l.entries.length + 1 + 1
        rw [List.length_append, List.length_singleton]
        omega
      · intro form n hn
        cases hn
        refine ⟨_, rfl, ?_⟩
        show l.reportedCount.getD _ ≤ l.reportedCount.getD _ + 1
        cases l.reportedCount with
        | none => exact countP_append_le _ _ _
        | some count =>
            show count ≤ count + 1
            omega
      · intro form hne
        show Except.ok (l.reportedCount.getD _) = Except.ok (l.reportedCount.getD _)
        rw [countP_append_of_neg _ (decide_eq_false hne)]
  | database db =>
      obtain ⟨created, hc, he⟩ := exists_of_map_eq_ok h
      unfold Database.createEntry at hc
      rw [hd] at hc
      obtain ⟨_, -, hc⟩ := exists_of_bind_eq_ok hc
      cases hc
      cases he
      refine ⟨rfl, ?_, rfl, rfl, rfl, rfl, fun _ => rfl, ?_, ?_⟩
      · show nextNumber (List.map Entry.id (db.entries ++ [_])) = _
        rw [List.map_append]
        exact nextNumber_append _
      · intro form n hn
        unfold countEntries Database.countEntries at hn ⊢
        obtain ⟨_, hf, hn⟩ := exists_of_bind_eq_ok hn
        cases hn
        rw [hf]
        exact ⟨_, rfl, countP_append_le _ _ _⟩
      · intro form hne
        unfold countEntries Database.countEntries
        dsimp only
        rw [countP_append_of_neg _ (decide_eq_false hne)]

/-- What rows more of the database add to what is kept of the fields of an entry. -/
theorem fieldValues_append (db : Database) (rows : List StoredValue) (id : Int) :
    fieldValues (.database { db with values := db.values ++ rows }) id =
      fieldValues (.database db) id ++
        (rows.filter (·.entry = id)).map fun v => (v.element, v.text) := by
  simp only [fieldValues, List.filter_append, List.map_append]

theorem files_saveValues {entry : Int} {values : List (Int × String)}
    (h : repository.saveValues entry values = .ok after) :
    Files repository entry values after := by
  cases repository with
  | ledger l =>
      cases h
      refine ⟨rfl, rfl, rfl, ?_, ?_⟩
      · intro _
        simp [fieldValues, Ledger.saveValues, Assoc.lookup_put]
      · intro id hne
        simp [fieldValues, Ledger.saveValues, Assoc.lookup_put, hne]
  | database db =>
      obtain ⟨made, hs, rfl⟩ := exists_of_map_eq_ok h
      rw [Database.of_saveValues hs]
      refine ⟨rfl, rfl, rfl, ?_, ?_⟩
      · intro hn
        rw [fieldValues_append, hn]
        simp [List.filter_map, Function.comp_def]
      · intro id hne
        rw [fieldValues_append]
        simp [List.filter_map, Function.comp_def, Ne.symm hne]

theorem copies_refl (repository : Repository) : Copies repository repository :=
  ⟨rfl, rfl, rfl, fun _ _ => rfl⟩

theorem Copies.trans {middle : Repository} (h : Copies repository middle)
    (h' : Copies middle after) : Copies repository after where
  nextId_eq := h'.nextId_eq.trans h.nextId_eq
  entries_eq := h'.entries_eq.trans h.entries_eq
  count_eq := h'.count_eq.trans h.count_eq
  fieldValues_eq id hid := by
    rw [← h.fieldValues_eq id hid]
    exact h'.fieldValues_eq id (h.entries_eq ▸ hid)

instance : IsPreorder Repository Copies where
  refl := copies_refl
  trans _ _ _ := Copies.trans

theorem copies_saveValue {db after : Database} {value : StoredValue}
    (h : db.saveValue value = .ok after) : Copies (.database db) (.database after) := by
  obtain ⟨⟨entry, hm, he⟩, rfl⟩ := Database.of_saveValue h
  refine ⟨rfl, rfl, rfl, fun id hid => ?_⟩
  have hne : value.entry ≠ id := he ▸ hid entry hm
  rw [fieldValues_append]
  simp [hne]

theorem copies_insertOwn {db after : Database} {table : String} {row : List (String × String)}
    (h : db.insertOwn table row = .ok after) : Copies (.database db) (.database after) := by
  unfold Database.insertOwn Database.insertValue at h
  dsimp only at h
  split at h
  · split at h
    · exact copies_saveValue h
    · cases h
  · split at h <;> cases h

theorem copies_insertCopy {table : String} {row : List (String × String)}
    (h : repository.insertCopy table row = .ok after) : Copies repository after := by
  cases repository with
  | ledger l =>
      cases h
      exact ⟨rfl, rfl, rfl, fun _ _ => rfl⟩
  | database db =>
      obtain ⟨made, hi, rfl⟩ := exists_of_map_eq_ok h
      unfold Database.insertCopy at hi
      split at hi
      · dsimp only at hi
        split at hi
        · cases hi
          exact copies_refl _
        · exact copies_insertOwn hi
      · obtain ⟨filled, -, hi⟩ := exists_of_bind_eq_ok hi
        cases hi
        exact ⟨rfl, rfl, rfl, fun _ _ => rfl⟩
      · cases hi

/-- What is found of a submitter is an entry of theirs. -/
theorem eq_of_entryExists {form : Int} {submitter : Submitter} {found : Bool}
    (h : repository.entryExists form submitter = .ok found) :
    found = repository.entries.any (·.isOf form submitter) := by
  cases repository with
  | ledger l =>
      cases h
      rfl
  | database db =>
      cases submitter with
      | user id =>
          obtain ⟨_, -, h⟩ := exists_of_bind_eq_ok h
          cases h
          rfl
      | address text =>
          obtain ⟨_, -, h⟩ := exists_of_bind_eq_ok h
          cases h
          rfl

/-- A database looks for entries of a form and of a user whose numbers fit. -/
theorem entryExists_of_fits (db : Database) {form : Int} (hf : fitsStore form = true)
    {submitter : Submitter} (hs : ∀ user, submitter = .user user → fitsStore user = true) :
    (Repository.database db).entryExists form submitter =
      .ok (db.entries.any (·.isOf form submitter)) := by
  cases submitter with
  | user id =>
      show Database.entryExists db form (some id) none = _
      rw [Database.entryExists, Database.checkNumbers, if_pos (by simp [hf, hs id rfl])]
      rfl
  | address text =>
      show Database.entryExists db form none (some text) = _
      rw [Database.entryExists, Database.checkNumbers, if_pos (by simp [hf])]
      rfl

theorem countEntries_of_fits (db : Database) {form : Int} (hf : fitsStore form = true) :
    (Repository.database db).countEntries form = .ok (db.entries.countP (·.formId = form)) := by
  show Database.countEntries db form = _
  rw [Database.countEntries, Database.checkNumbers, if_pos (by simp [hf])]
  rfl

/-- A database takes values of an entry that is there, and of which none are kept, if the numbers of
the elements fit. -/
theorem saveValues_database {db : Database} {entry : Int} (he : fitsStore entry = true)
    {values : List (Int × String)} (hthere : ∃ other ∈ db.entries, other.id = entry)
    (hnone : fieldValues (.database db) entry = []) (hd : (values.map Prod.fst).Nodup) :
    (Repository.database db).saveValues entry values =
      if (values.map Prod.fst).all fitsStore then
        .ok (.database { db with values := db.values ++ values.map fun v => ⟨entry, v.1, v.2⟩ })
      else .error .oversizedNumber := by
  have hnew : ∀ other ∈ db.values, other.entry = entry → other.element ∉ values.map Prod.fst := by
    intro other ho hof
    have hnil := List.filter_eq_nil_iff.mp (List.map_eq_nil_iff.mp hnone) other ho
    exact absurd hof (by simpa using hnil)
  show Repository.database <$> db.saveValues entry values = _
  rw [Database.saveValues_eq he hthere hnew hd]
  split <;> rfl

/-! ### Numbers stay free -/

theorem numbered_database (tables : List Table) : (Repository.database { tables }).Numbered :=
  ⟨Int.one_pos, List.forall_mem_nil _, fun _ _ => rfl⟩

section numbered

variable (hr : repository.Numbered)

include hr

/-- A number that is not below the next one is not that of an entry. -/
theorem Numbered.id_ne {id : Int} (h : repository.nextId ≤ id) :
    ∀ entry ∈ repository.entries, entry.id ≠ id := by
  intro entry he
  have hlt := hr.id_lt entry he
  omega

theorem Numbered.enters {draft : Draft} {entry : Entry} (h : Enters repository draft entry after) :
    after.Numbered := by
  have hpos := hr.next_pos
  constructor
  · rw [h.nextId_eq]
    omega
  · intro other ho
    rw [h.entries_eq, List.mem_append, List.mem_singleton] at ho
    rw [h.nextId_eq]
    rcases ho with ho | rfl
    · have hlt := hr.id_lt other ho
      omega
    · rw [h.id_eq]
      omega
  · intro id hid
    rw [h.nextId_eq] at hid
    rw [h.fieldValues_eq]
    exact hr.fieldValues_eq_nil id (by omega)

theorem Numbered.files {entry : Int} {values : List (Int × String)} (he : entry < repository.nextId)
    (h : Files repository entry values after) : after.Numbered := by
  constructor
  · rw [h.nextId_eq]
    exact hr.next_pos
  · rw [h.entries_eq, h.nextId_eq]
    exact hr.id_lt
  · intro id hid
    rw [h.nextId_eq] at hid
    rw [h.fieldValues_of_ne id (by omega)]
    exact hr.fieldValues_eq_nil id hid

theorem Numbered.copies (h : Copies repository after) : after.Numbered := by
  constructor
  · rw [h.nextId_eq]
    exact hr.next_pos
  · rw [h.entries_eq, h.nextId_eq]
    exact hr.id_lt
  · intro id hid
    rw [h.nextId_eq] at hid
    rw [h.fieldValues_eq id (hr.id_ne hid)]
    exact hr.fieldValues_eq_nil id hid

end numbered

end Repository
end FormIntake
