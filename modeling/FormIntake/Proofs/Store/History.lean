import FormIntake.Proofs.Store.Holdings
import FormIntake.Store.Record
import Mathlib.Data.List.Nodup

/-! # The history of a database

A database that starts empty is worked with by operations, of which any may fail.  What it is then asked
follows from its journal, the list of the operations with their answers: `Journal.created` are the entries
that were created, `Journal.saved` the values that were saved for entries.

Whatever the operations were, the entries of the database are those that were created and its values those
that were saved (`Database.Records`).  One operation preserves this, and so all of them do
(`Database.Records.perform`, `Database.Records.work`).  What follows for the operations that read is
`Database.answers_of_work`. -/

namespace FormIntake

/-! ### Operations and answers -/

/-- Something that a database can be asked. -/
inductive Query where
  | entry (id : Int)
  | count (form : Int)
  | submitted (form : Int) (user : Option Int) (address : Option String)
  | values (entry : Int)

/-- An operation on a database. -/
inductive Operation where
  | create (record : List (String × Cell))
  | save (entry : Int) (values : List (Int × String))
  | copy (table : String) (row : List (String × String))
  | read (query : Query)

namespace Operation

/-- The operation does not copy a row to the tables of entries and values. -/
def StaysOut : Operation → Prop
  | .copy table _ => Database.ownColumns? table = none
  | _ => True

/-- The operation creates an entry under a number of its choice. -/
def AsksForId : Operation → Prop
  | .create record => ∃ draft, Draft.ofRecord record = .ok draft ∧ draft.id ≠ none
  | _ => False

end Operation

/-- What an operation that succeeds gives. -/
inductive Answer where
  | created (entry : Entry)
  | done
  | entry (found : Option Entry)
  | count (n : Int)
  | truth (b : Bool)
  | values (found : List (Int × String))

/-- The operations on a database with their answers. -/
abbrev Journal := List (Operation × Except Failure Answer)

namespace Journal

/-- The entry that an operation created. -/
def created? : Operation × Except Failure Answer → Option Entry
  | (.create _, .ok (.created entry)) => some entry
  | _ => none

/-- The values that an operation saved, with the number of their entry. -/
def saved? : Operation × Except Failure Answer → Option (Int × List (Int × String))
  | (.save entry values, .ok _) => some (entry, values)
  | _ => none

/-- The entries that were created. -/
def created (journal : Journal) : List Entry := journal.filterMap created?

/-- The values that were saved. -/
def saved (journal : Journal) : List (Int × List (Int × String)) := journal.filterMap saved?

/-- The numbers of the entries that were created. -/
def ids (journal : Journal) : List Int := journal.created.map Entry.id

/-- All values that were saved for an entry. -/
def savedFor (journal : Journal) (entry : Int) : List (Int × String) :=
  (journal.saved.filter (·.1 = entry)).flatMap Prod.snd

/-- The operations that succeeded. -/
def succeeded (journal : Journal) : Journal := journal.filter fun line => line.2.toBool

end Journal

namespace Database

/-- What a database answers. -/
def ask (db : Database) : Query → Except Failure Answer
  | .entry id => .entry <$> db.getEntry id
  | .count form => .count <$> db.countEntries form
  | .submitted form user address => .truth <$> db.entryExists form user address
  | .values entry => .values <$> db.valuesOf entry

/-- What an operation gives, and the database after it. -/
def perform (db : Database) : Operation → Except Failure (Answer × Database)
  | .create record => do
    let (entry, after) ← db.createEntry (← Draft.ofRecord record)
    return (.created entry, after)
  | .save entry values => do return (.done, ← db.saveValues entry values)
  | .copy table row => do return (.done, ← db.insertCopy table row)
  | .read query => do return (← db.ask query, db)

/-- The journal of some operations, and the database after them; one that fails changes nothing. -/
def work (db : Database) : List Operation → Journal × Database
  | [] => ([], db)
  | operation :: rest =>
    match db.perform operation with
    | .ok (answer, after) => ((operation, .ok answer) :: (after.work rest).1, (after.work rest).2)
    | .error failure => ((operation, .error failure) :: (db.work rest).1, (db.work rest).2)

end Database

/-! ### Constraints -/

/-- The numbers that tell a value from others. -/
def StoredValue.key (value : StoredValue) : Int × Int := (value.entry, value.element)

namespace Database

variable {db after : Database}

/-- What the tables of a database promise: entries have numbers of their own, and values belong to an
entry that is there, one for each element. -/
structure Constrained (db : Database) : Prop where
  ids_nodup : (db.entries.map Entry.id).Nodup
  keys_nodup : (db.values.map StoredValue.key).Nodup
  entry_mem : ∀ value ∈ db.values, value.entry ∈ db.entries.map Entry.id

/-- What is kept of a draft. -/
def kept (draft : Draft) : Draft :=
  { draft with createdAt := keptTime draft.createdAt, updatedAt := keptTime draft.updatedAt }

/-- What creating an entry does where it succeeds. -/
theorem createEntry_eq_ok {draft : Draft} {entry : Entry}
    (h : db.createEntry draft = .ok (entry, after)) :
    entry = (kept draft).numbered (draft.id.getD (nextNumber (db.entries.map Entry.id))) ∧
    after = { db with entries := db.entries ++ [entry] } ∧ entry.id ∉ db.entries.map Entry.id := by
  unfold createEntry at h
  obtain ⟨_, -, h⟩ := exists_of_bind_eq_ok h
  cases hd : draft.id with
  | none =>
      rw [hd] at h
      cases h
      exact ⟨rfl, rfl, fun hm => Int.lt_irrefl _ (lt_nextNumber hm)⟩
  | some id =>
      rw [hd] at h
      dsimp only at h
      split at h
      · cases h
      · next hfree =>
        cases h
        refine ⟨rfl, rfl, fun hm => hfree ?_⟩
        obtain ⟨other, ho, hid⟩ := List.mem_map.mp hm
        rw [find?, List.find?_isSome]
        exact ⟨other, ho, decide_eq_true hid⟩

theorem Constrained.createEntry (hdb : db.Constrained) {draft : Draft} {entry : Entry}
    (h : db.createEntry draft = .ok (entry, after)) : after.Constrained := by
  obtain ⟨-, rfl, hnew⟩ := createEntry_eq_ok h
  constructor
  · rw [List.map_append, List.map_singleton, ← List.concat_eq_append]
    exact List.Nodup.concat hnew hdb.ids_nodup
  · exact hdb.keys_nodup
  · intro value hv
    rw [List.map_append]
    exact List.mem_append_left _ (hdb.entry_mem value hv)

theorem key_notMem_of_saveValue {value : StoredValue} (h : db.saveValue value = .ok after) :
    value.key ∉ db.values.map StoredValue.key := by
  unfold saveValue at h
  obtain ⟨_, -, h⟩ := exists_of_bind_eq_ok h
  intro hm
  obtain ⟨other, ho, hkey⟩ := List.mem_map.mp hm
  have htaken : (db.values.any fun v => v.entry = value.entry && v.element = value.element) = true := by
    rw [List.any_eq_true]
    obtain ⟨hentry, helement⟩ := Prod.mk.inj hkey
    exact ⟨other, ho, by simp [hentry, helement]⟩
  rw [if_pos htaken] at h
  cases h

theorem Constrained.saveValue (hdb : db.Constrained) {value : StoredValue}
    (h : db.saveValue value = .ok after) : after.Constrained := by
  have hnew := key_notMem_of_saveValue h
  obtain ⟨⟨entry, he, hid⟩, rfl⟩ := of_saveValue h
  constructor
  · exact hdb.ids_nodup
  · rw [List.map_append, List.map_singleton, ← List.concat_eq_append]
    exact List.Nodup.concat hnew hdb.keys_nodup
  · intro other ho
    rcases List.mem_append.mp ho with ho | ho
    · exact hdb.entry_mem other ho
    · rw [List.mem_singleton.mp ho, ← hid]
      exact List.mem_map_of_mem he

theorem Constrained.saveValues {entry : Int} {values : List (Int × String)} (hdb : db.Constrained)
    (h : db.saveValues entry values = .ok after) : after.Constrained := by
  induction values generalizing db with
  | nil =>
      cases h
      exact hdb
  | cons value rest ih =>
      unfold Database.saveValues at h
      rw [List.foldlM_cons] at h
      obtain ⟨made, hv, h⟩ := exists_of_bind_eq_ok h
      exact ih (hdb.saveValue hv) h

/-! ### One operation -/

/-- The rows that a mapping of values makes for an entry. -/
def rows (saved : Int × List (Int × String)) : List StoredValue :=
  saved.2.map fun v => ⟨saved.1, v.1, v.2⟩

/-- The database holds what its journal says, and no more. -/
structure Records (journal : Journal) (db : Database) : Prop extends db.Constrained where
  entries_eq : db.entries = journal.created
  values_eq : db.values = journal.saved.flatMap rows

theorem of_insertCopy {table : String} {row : List (String × String)} (ht : ownColumns? table = none)
    (h : db.insertCopy table row = .ok after) : ∃ tables, after = { db with tables } := by
  unfold insertCopy at h
  rw [ht] at h
  cases hf : db.findTable? table with
  | none =>
      rw [hf] at h
      cases h
  | some found =>
      rw [hf] at h
      obtain ⟨filled, -, h⟩ := exists_of_bind_eq_ok h
      cases h
      exact ⟨_, rfl⟩

/-- What one operation that succeeds adds to the journal is what it adds to the database. -/
theorem Records.perform {journal : Journal} {operation : Operation} {answer : Answer}
    (hdb : Records journal db) (hout : operation.StaysOut) (h : db.perform operation = .ok (answer, after)) :
    Records (journal ++ [(operation, .ok answer)]) after := by
  cases operation with
  | create record =>
      obtain ⟨draft, -, h⟩ := exists_of_bind_eq_ok h
      obtain ⟨⟨entry, made⟩, hc, h⟩ := exists_of_bind_eq_ok h
      cases h
      refine ⟨hdb.toConstrained.createEntry hc, ?_, ?_⟩
      · rw [(createEntry_eq_ok hc).2.1, Journal.created, List.filterMap_append, hdb.entries_eq]
        rfl
      · rw [(createEntry_eq_ok hc).2.1, Journal.saved, List.filterMap_append, hdb.values_eq]
        simp [Journal.saved, Journal.saved?]
  | save entry values =>
      obtain ⟨made, hs, h⟩ := exists_of_bind_eq_ok h
      cases h
      refine ⟨hdb.toConstrained.saveValues hs, ?_, ?_⟩
      · rw [of_saveValues hs, Journal.created, List.filterMap_append, hdb.entries_eq]
        simp [Journal.created, Journal.created?]
      · rw [of_saveValues hs, Journal.saved, List.filterMap_append, hdb.values_eq]
        simp [Journal.saved, Journal.saved?, rows]
  | copy table row =>
      obtain ⟨made, hc, h⟩ := exists_of_bind_eq_ok h
      cases h
      obtain ⟨tables, rfl⟩ := of_insertCopy hout hc
      refine ⟨⟨hdb.ids_nodup, hdb.keys_nodup, hdb.entry_mem⟩, ?_, ?_⟩
      · rw [hdb.entries_eq]
        simp [Journal.created, Journal.created?]
      · rw [hdb.values_eq]
        simp [Journal.saved, Journal.saved?]
  | read query =>
      obtain ⟨given, hq, h⟩ := exists_of_bind_eq_ok h
      cases h
      refine ⟨hdb.toConstrained, ?_, ?_⟩
      · rw [hdb.entries_eq]
        simp [Journal.created, Journal.created?]
      · rw [hdb.values_eq]
        simp [Journal.saved, Journal.saved?]

/-! ### Many operations -/

variable {journal : Journal} {operations : List Operation}

theorem work_cons_ok {operation : Operation} {answer : Answer}
    (h : db.perform operation = .ok (answer, after)) (rest : List Operation) :
    db.work (operation :: rest) = ((operation, .ok answer) :: (after.work rest).1, (after.work rest).2) := by
  rw [work, h]

theorem work_cons_error {operation : Operation} {failure : Failure}
    (h : db.perform operation = .error failure) (rest : List Operation) :
    db.work (operation :: rest) = ((operation, .error failure) :: (db.work rest).1, (db.work rest).2) := by
  rw [work, h]

theorem records_empty (tables : List Table) : Records [] { tables } where
  ids_nodup := List.nodup_nil
  keys_nodup := List.nodup_nil
  entry_mem := List.forall_mem_nil _
  entries_eq := rfl
  values_eq := rfl

theorem Records.fail (hdb : Records journal db) (operation : Operation) (failure : Failure) :
    Records (journal ++ [(operation, .error failure)]) db := by
  refine ⟨hdb.toConstrained, ?_, ?_⟩
  · rw [hdb.entries_eq]
    cases operation <;> simp [Journal.created, Journal.created?]
  · rw [hdb.values_eq]
    cases operation <;> simp [Journal.saved, Journal.saved?]

theorem Records.work (hdb : Records journal db) (hout : ∀ operation ∈ operations, operation.StaysOut) :
    Records (journal ++ (db.work operations).1) (db.work operations).2 := by
  induction operations generalizing journal db with
  | nil => simpa [Database.work] using hdb
  | cons operation rest ih =>
      obtain ⟨hop, hrest⟩ := List.forall_mem_cons.mp hout
      cases h : db.perform operation with
      | error failure =>
          rw [work_cons_error h]
          simpa using ih (hdb.fail operation failure) hrest
      | ok result =>
          rw [work_cons_ok h]
          simpa using ih (hdb.perform hop h) hrest

/-- Operations that fail might as well not have been tried. -/
theorem work_succeeded (db : Database) (operations : List Operation) :
    db.work ((db.work operations).1.succeeded.map Prod.fst) =
      ((db.work operations).1.succeeded, (db.work operations).2) := by
  induction operations generalizing db with
  | nil => rfl
  | cons operation rest ih =>
      cases h : db.perform operation with
      | error failure =>
          rw [work_cons_error h]
          exact ih db
      | ok result =>
          rw [work_cons_ok h]
          show db.work (operation :: (result.2.work rest).1.succeeded.map Prod.fst) = _
          rw [work_cons_ok h, ih result.2]
          rfl

/-! ### Numbers that count -/

/-- The first numbers from one on. -/
def counting (n : Nat) : List Int := (List.range n).map fun i => (i : Int) + 1

theorem counting_succ (n : Nat) : counting (n + 1) = counting n ++ [(n : Int) + 1] := by
  simp [counting, List.range_succ]

theorem nextNumber_counting (n : Nat) : nextNumber (counting n) = n + 1 := by
  induction n with
  | zero => rfl
  | succ n ih =>
      rw [counting_succ, ← ih, nextNumber_append, ih]
      omega

theorem ids_perform (hids : db.entries.map Entry.id = counting db.entries.length)
    {operation : Operation} {answer : Answer} (hout : operation.StaysOut) (hask : ¬ operation.AsksForId)
    (h : db.perform operation = .ok (answer, after)) :
    after.entries.map Entry.id = counting after.entries.length := by
  cases operation with
  | create record =>
      obtain ⟨draft, hd, h⟩ := exists_of_bind_eq_ok h
      obtain ⟨⟨entry, made⟩, hc, h⟩ := exists_of_bind_eq_ok h
      cases h
      have hnone : draft.id = none := Classical.not_not.mp fun hne => hask ⟨draft, hd, hne⟩
      obtain ⟨hentry, rfl, -⟩ := createEntry_eq_ok hc
      have hid : entry.id = db.entries.length + 1 := by
        rw [hentry, hnone, hids, ← nextNumber_counting]
        rfl
      rw [List.map_append, hids, List.length_append, List.length_singleton, counting_succ, ← hid]
      rfl
  | save entry values =>
      obtain ⟨made, hs, h⟩ := exists_of_bind_eq_ok h
      cases h
      rw [of_saveValues hs]
      exact hids
  | copy table row =>
      obtain ⟨made, hc, h⟩ := exists_of_bind_eq_ok h
      cases h
      obtain ⟨tables, rfl⟩ := of_insertCopy hout hc
      exact hids
  | read query =>
      obtain ⟨given, -, h⟩ := exists_of_bind_eq_ok h
      cases h
      exact hids

theorem ids_work (hids : db.entries.map Entry.id = counting db.entries.length)
    (hout : ∀ operation ∈ operations, operation.StaysOut)
    (hask : ∀ operation ∈ operations, ¬ operation.AsksForId) :
    (db.work operations).2.entries.map Entry.id = counting (db.work operations).2.entries.length := by
  induction operations generalizing db with
  | nil => exact hids
  | cons operation rest ih =>
      obtain ⟨hop, hrest⟩ := List.forall_mem_cons.mp hout
      obtain ⟨haskop, haskrest⟩ := List.forall_mem_cons.mp hask
      cases h : db.perform operation with
      | error failure =>
          rw [work_cons_error h]
          exact ih hids hrest haskrest
      | ok result =>
          rw [work_cons_ok h]
          exact ih (ids_perform hids hop haskop h) hrest haskrest

/-! ### What is read -/

/-- What a database answers is what its journal says, for numbers that fit. -/
structure Answers (db : Database) (journal : Journal) : Prop where
  /-- No number is given to two entries. -/
  ids_nodup : journal.ids.Nodup
  /-- A new entry gets the number that is asked for, or else the one after the largest so far. -/
  id_eq : ∀ record entry after, db.perform (.create record) = .ok (.created entry, after) →
    ∃ draft, Draft.ofRecord record = .ok draft ∧ entry = (kept draft).numbered entry.id ∧
      (∀ id, draft.id = some id → entry.id = id) ∧
      (draft.id = none → fitsStore (nextNumber journal.ids) → entry.id = nextNumber journal.ids)
  getEntry_of_mem : ∀ entry ∈ journal.created, fitsStore entry.id →
    db.getEntry entry.id = .ok (some entry)
  getEntry_of_notMem : ∀ id, fitsStore id → id ∉ journal.ids → db.getEntry id = .ok none
  countEntries_eq : ∀ form, fitsStore form →
    db.countEntries form = .ok (journal.created.countP (·.formId = form))
  /-- Where a user is given, no address is looked at. -/
  entryExists_user : ∀ form user address, fitsStore form → fitsStore user →
    ∃ found, db.entryExists form (some user) address = .ok found ∧
      (found = true ↔ ∃ entry ∈ journal.created, entry.formId = form ∧ entry.createdBy = some user)
  entryExists_address : ∀ form address, fitsStore form →
    ∃ found, db.entryExists form none (some address) = .ok found ∧
      (found = true ↔ ∃ entry ∈ journal.created, entry.formId = form ∧ entry.address = address)
  /-- The mappings that were saved for one entry share no element. -/
  savedFor_nodup : ∀ id, ((journal.savedFor id).map Prod.fst).Nodup
  mem_ids_of_savedFor : ∀ id, journal.savedFor id ≠ [] → id ∈ journal.ids
  valuesOf_perm : ∀ id, fitsStore id →
    ∃ values, db.valuesOf id = .ok values ∧ values.Perm (journal.savedFor id)

theorem getEntry_of_fits (db : Database) {id : Int} (hf : fitsStore id = true) :
    db.getEntry id = .ok (db.find? id) := by
  rw [getEntry, checkNumbers, if_pos (by simp [hf])]
  rfl

section records

variable (hdb : Records journal db)

include hdb

theorem Records.ids_eq : db.entries.map Entry.id = journal.ids := by
  rw [hdb.entries_eq]
  rfl

/-- The values that the database has of an entry are those that were saved for it. -/
theorem Records.values_of (id : Int) :
    (db.values.filter (·.entry = id)).map (fun v => (v.element, v.text)) = journal.savedFor id := by
  rw [hdb.values_eq, Journal.savedFor]
  induction journal.saved with
  | nil => rfl
  | cons saved rest ih =>
      rw [List.flatMap_cons, List.filter_append, List.map_append, ih]
      by_cases hid : saved.1 = id
      · simp [rows, List.filter_map, Function.comp_def, hid]
      · simp [rows, List.filter_map, Function.comp_def, hid]

theorem Records.answers : db.Answers journal where
  ids_nodup := hdb.ids_eq ▸ hdb.ids_nodup
  id_eq record entry after h := by
    obtain ⟨draft, hd, h⟩ := exists_of_bind_eq_ok h
    obtain ⟨⟨made, _⟩, hc, h⟩ := exists_of_bind_eq_ok h
    cases h
    have hentry := (createEntry_eq_ok hc).1
    rw [hdb.ids_eq] at hentry
    have hid : entry.id = draft.id.getD (nextNumber journal.ids) := congrArg Entry.id hentry
    refine ⟨draft, hd, ?_, fun id hsome => ?_, fun hnone _ => ?_⟩
    · rwa [hid]
    · rw [hid, hsome, Option.getD_some]
    · rw [hid, hnone, Option.getD_none]
  getEntry_of_mem entry he hf := by
    rw [← hdb.entries_eq] at he
    rw [getEntry_of_fits db hf, find?]
    cases hfound : db.entries.find? (·.id = entry.id) with
    | none => exact absurd (List.find?_eq_none.mp hfound entry he) (by simp)
    | some other =>
        have hid : other.id = entry.id := by simpa using List.find?_some hfound
        rw [List.inj_on_of_nodup_map hdb.ids_nodup (List.mem_of_find?_eq_some hfound) he hid]
  getEntry_of_notMem id hf hid := by
    rw [getEntry_of_fits db hf, find?, List.find?_eq_none.mpr]
    intro entry he hsame
    rw [← hdb.ids_eq] at hid
    exact hid (List.mem_map.mpr ⟨entry, he, by simpa using hsame⟩)
  countEntries_eq form hf := by
    rw [← hdb.entries_eq]
    exact Repository.countEntries_of_fits db hf
  entryExists_user form user address hf hu := by
    have hs : ∀ id, Submitter.user user = .user id → fitsStore id = true := by
      rintro id ⟨⟩
      exact hu
    refine ⟨_, Repository.entryExists_of_fits db hf hs, ?_⟩
    simp [hdb.entries_eq, Entry.isOf]
  entryExists_address form address hf := by
    have hs : ∀ id, Submitter.address address = .user id → fitsStore id = true := by rintro id ⟨⟩
    refine ⟨_, Repository.entryExists_of_fits db hf hs, ?_⟩
    simp [hdb.entries_eq, Entry.isOf]
  savedFor_nodup id := by
    rw [← hdb.values_of id, List.map_map]
    refine List.Nodup.map_on (fun value hv other ho helement => ?_) ?_
    · have hentry : value.entry = other.entry := by
        rw [of_decide_eq_true (List.mem_filter.mp hv).2, of_decide_eq_true (List.mem_filter.mp ho).2]
      exact List.inj_on_of_nodup_map hdb.keys_nodup (List.mem_of_mem_filter hv)
        (List.mem_of_mem_filter ho) (Prod.ext hentry helement)
    · exact (List.Nodup.of_map _ hdb.keys_nodup).filter _
  mem_ids_of_savedFor id h := by
    rw [← hdb.values_of id] at h
    obtain ⟨value, hv⟩ := List.exists_mem_of_ne_nil _ fun hnil => h (List.map_eq_nil_iff.mpr hnil)
    obtain ⟨hv, hid⟩ := List.mem_filter.mp hv
    rw [← hdb.ids_eq, ← of_decide_eq_true hid]
    exact hdb.entry_mem value hv
  valuesOf_perm id hf := by
    refine ⟨_, Repository.valuesOf_eq db hf, ?_⟩
    rw [← hdb.values_of id]
    exact List.mergeSort_perm _ _

end records

/-- After any operations, the database answers what its journal says.  What failed leaves no trace, and
as long as no creation asks for a number, the entries are counted from one on. -/
theorem answers_of_work {tables : List Table} (hout : ∀ operation ∈ operations, operation.StaysOut)
    (h : ({ tables } : Database).work operations = (journal, db)) :
    db.Answers journal ∧
    ((∀ operation ∈ operations, ¬ operation.AsksForId) → journal.ids = counting journal.created.length) ∧
    ({ tables } : Database).work (journal.succeeded.map Prod.fst) = (journal.succeeded, db) := by
  have hdb : Records journal db := by simpa [h] using (records_empty tables).work hout
  refine ⟨hdb.answers, fun hask => ?_, ?_⟩
  · have hids : (({ tables } : Database).work operations).2.entries.map Entry.id = _ :=
      ids_work rfl hout hask
    rwa [h, hdb.ids_eq, hdb.entries_eq] at hids
  · have hsucceeded := work_succeeded { tables } operations
    rwa [h] at hsucceeded

/-- Two entries of form 1, the first under the number given, and a value for the second; what else is tried
fails, as a form, an element without a value, and a table are missing. -/
def visits (id : Value) : List Operation :=
  let times : List (String × Cell) := [("created_at", .time (.utc 0)), ("updated_at", .time (.utc 0))]
  [.create (("id", .value id) :: ("form_id", .value (.int 1)) :: times),
    .create (("form_id", .value (.int 1)) :: times),
    .create times,
    .save 2 [(5, "Ann")],
    .save 2 [(6, "Oslo"), (5, "Bob")],
    .copy "visits" [("name", "Ann")]]

theorem visits_staysOut (id : Value) : ∀ operation ∈ visits id, operation.StaysOut := by
  have hcopy : ownColumns? "visits" = none := by decide +kernel
  simp [visits, Operation.StaysOut, hcopy]

theorem answers_of_work_visits :
    (∀ operation ∈ visits .null, operation.StaysOut) ∧
    (empty.work (visits .null)).2.Answers (empty.work (visits .null)).1 ∧
    (empty.work (visits .null)).1.ids = [1, 2] ∧
    (empty.work (visits .null)).1.savedFor 2 = [(5, "Ann")] ∧
    (empty.work (visits .null)).1.succeeded.length = 3 :=
  ⟨visits_staysOut .null, (answers_of_work (visits_staysOut .null) rfl).1, by decide +kernel,
    by decide +kernel, by decide +kernel⟩

/-- Entries are not always counted from one on, as a creation may ask for a number. -/
theorem not_ids_eq_counting :
    ¬ ∀ operations : List Operation, (∀ operation ∈ operations, operation.StaysOut) →
      (empty.work operations).1.ids = counting (empty.work operations).1.created.length := by
  intro h
  have hids : (empty.work (visits (.int 7))).1.ids = [7, 8] := by decide +kernel
  have hcounting : counting (empty.work (visits (.int 7))).1.created.length = [1, 2] := by
    decide +kernel
  have heq := h (visits (.int 7)) (visits_staysOut (.int 7))
  rw [hids, hcounting] at heq
  exact absurd heq (by decide)

end Database
end FormIntake
