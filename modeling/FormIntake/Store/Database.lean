import FormIntake.Store.Entry
import FormIntake.Store.Table

/-! # The database

A store in the manner of tables: entries, values of entries, and tables of the site.  Numbers have to
fit 64 bits, entries have numbers of their own, and values belong to an entry that is there, one for
each element.  Times keep what the clock shows and lose their offset.  An operation that fails
leaves the database as it was.
-/

namespace FormIntake

open Calendar

/-- The value of an element in an entry. -/
structure StoredValue where
  entry : Int
  element : Int
  text : String
  deriving DecidableEq, Repr

structure Database where
  entries : List Entry := []
  values : List StoredValue := []
  tables : List Table := []

namespace Database

/-- A database without rows. -/
def empty : Database := {}

/-- A time as it is read back. -/
def keptTime (t : DateTime) : DateTime := .utc t.wall

/-- Numbers that are too large cannot even be asked for. -/
def checkNumbers (numbers : List Int) : Except Failure Unit :=
  if numbers.all fitsStore then .ok () else .error .oversizedNumber

/-! ### Entries -/

def find? (db : Database) (id : Int) : Option Entry := db.entries.find? (·.id = id)

def getEntry (db : Database) (id : Int) : Except Failure (Option Entry) := do
  checkNumbers [id]
  return db.find? id

/-- Whether a form has an entry of a user or, where none is given, of an address. -/
def entryExists (db : Database) (formId : Int) (user : Option Int) (address : Option String) :
    Except Failure Bool :=
  match user, address with
  | some id, _ => do
    checkNumbers [formId, id]
    return db.entries.any (·.isOf formId (.user id))
  | none, some text => do
    checkNumbers [formId]
    return db.entries.any (·.isOf formId (.address text))
  | none, none => .error .noSubmitter

def countEntries (db : Database) (formId : Int) : Except Failure Int := do
  checkNumbers [formId]
  return db.entries.countP (·.formId = formId)

/-- All numbers of a draft. -/
def draftNumbers (draft : Draft) : List Int :=
  draft.id.toList ++ [draft.formId] ++ draft.postId.toList ++ draft.createdBy.toList

def createEntry (db : Database) (draft : Draft) : Except Failure (Entry × Database) := do
  checkNumbers (draftNumbers draft)
  let id ← match draft.id with
    | none => pure (nextNumber (db.entries.map Entry.id))
    | some id => if (db.find? id).isSome then .error .brokenConstraint else pure id
  let entry := { draft with
    createdAt := keptTime draft.createdAt, updatedAt := keptTime draft.updatedAt }.numbered id
  return (entry, { db with entries := db.entries ++ [entry] })

/-! ### Values -/

/-- Add one value. -/
def saveValue (db : Database) (value : StoredValue) : Except Failure Database := do
  checkNumbers [value.entry, value.element]
  if db.values.any fun v => v.entry = value.entry && v.element = value.element then
    throw .brokenConstraint
  if (db.find? value.entry).isNone then throw .brokenConstraint
  return { db with values := db.values ++ [value] }

/-- Add the values of an entry, all of them or none. -/
def saveValues (db : Database) (entry : Int) (values : List (Int × String)) :
    Except Failure Database :=
  values.foldlM (fun db v => db.saveValue ⟨entry, v.1, v.2⟩) db

/-- The values of an entry in the order of their elements. -/
def valuesOf (db : Database) (entry : Int) : Except Failure (List (Int × String)) := do
  checkNumbers [entry]
  return ((db.values.filter (·.entry = entry)).map fun v => (v.element, v.text)).mergeSort
    fun a b => a.1 ≤ b.1

/-! ### Tables -/

/-- The columns of the tables that the database has for itself. -/
def ownTables : List (String × List String) :=
  [("entries", ["id", "form_id", "ip", "form_url", "referring_url", "post_id", "created_by",
     "created_at", "updated_at"]),
   ("entry_data", ["entry_id", "element_id", "value"])]

/-- The columns of a table of the database's own. -/
def ownColumns? (name : String) : Option (List String) :=
  (ownTables.find? fun own => sameName own.1 name).map Prod.snd

def findTable? (db : Database) (name : String) : Option Table :=
  db.tables.find? fun table => sameName table.name name

/-- A row for the table of values. -/
def insertValue (db : Database) (row : List (String × String)) : Except Failure Database :=
  let number (column : String) : Option Int := (row.lookup column).bind Table.numberOf?
  match number "entry_id", number "element_id", row.lookup "value" with
  | some entry, some element, some text => db.saveValue ⟨entry, element, text⟩
  | _, _, _ => .error .brokenConstraint

/-- A row for one of the database's own tables; an entry needs times, which no text is. -/
def insertOwn (db : Database) (name : String) (row : List (String × String)) :
    Except Failure Database :=
  let isTime (column : String) : Bool := column = "created_at" || column = "updated_at"
  if sameName name "entry_data" then db.insertValue row
  else if row.any fun cell => isTime cell.1 then .error .unstorable
  else .error .brokenConstraint

/-- The columns of a row that its table does not have, in alphabetical order. -/
def strangers (db : Database) (name : String) (row : List (String × String)) :
    Except Failure (List String) :=
  match ownColumns? name, db.findTable? name with
  | some columns, _ => .ok (unknownColumns row columns.contains)
  | none, some table => .ok (unknownColumns row table.hasColumn)
  | none, none => .error .missingTable

/-- Add a row to a table; cells that have no column are left out. -/
def insertCopy (db : Database) (name : String) (row : List (String × String)) :
    Except Failure Database :=
  match ownColumns? name, db.findTable? name with
  | some columns, _ =>
    let known := row.filter fun cell => columns.contains cell.1
    if known.isEmpty then .ok db else db.insertOwn name known
  | none, some table => do
    let filled ← table.insert row
    return { db with tables := db.tables.map fun t => if t.name = table.name then filled else t }
  | none, none => .error .missingTable

end Database
end FormIntake
