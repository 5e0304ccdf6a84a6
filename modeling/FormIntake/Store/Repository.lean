import FormIntake.Store.Database
import FormIntake.Store.Ledger

/-! # The repository

Where submissions are kept: a ledger or a database.
-/

namespace FormIntake

inductive Repository where
  | ledger (ledger : Ledger)
  | database (db : Database)

namespace Repository

def isDatabase : Repository → Bool
  | .ledger _ => false
  | .database _ => true

/-- Whether a form has an entry of a submitter. -/
def entryExists (repository : Repository) (formId : Int) (submitter : Submitter) :
    Except Failure Bool :=
  match repository, submitter with
  | .ledger l, submitter => .ok (l.entryExists formId submitter)
  | .database db, .user id => db.entryExists formId (some id) none
  | .database db, .address text => db.entryExists formId none (some text)

def countEntries (repository : Repository) (formId : Int) : Except Failure Int :=
  match repository with
  | .ledger l => .ok (l.countEntries formId)
  | .database db => db.countEntries formId

def createEntry (repository : Repository) (draft : Draft) : Except Failure (Entry × Repository) :=
  match repository with
  | .ledger l => .ok ((l.createEntry draft).map id .ledger)
  | .database db => (db.createEntry draft).map (·.map id .database)

/-- Keep the values of an entry. -/
def saveValues (repository : Repository) (entry : Int) (values : List (Int × String)) :
    Except Failure Repository :=
  match repository with
  | .ledger l => .ok (.ledger (l.saveValues entry values))
  | .database db => .database <$> db.saveValues entry values

/-- The columns of a row that its table does not have. -/
def strangers (repository : Repository) (table : String) (row : List (String × String)) :
    Except Failure (List String) :=
  match repository with
  | .ledger _ => .ok []
  | .database db => db.strangers table row

/-- Add a row to a table of the site. -/
def insertCopy (repository : Repository) (table : String) (row : List (String × String)) :
    Except Failure Repository :=
  match repository with
  | .ledger l => .ok (.ledger (l.insertCopy table row))
  | .database db => .database <$> db.insertCopy table row

end Repository
end FormIntake
