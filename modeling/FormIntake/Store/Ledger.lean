import FormIntake.Store.Entry
import FormIntake.Assoc

/-! # The ledger

A store that keeps its entries in lists and takes whatever it is given.  The number of entries that
it reports can be fixed in advance.
-/

namespace FormIntake

structure Ledger where
  entries : List Entry := []
  /-- The values of entries by their numbers. -/
  values : List (Int × List (Int × String)) := []
  copies : List (String × List (String × String)) := []
  reportedCount : Option Int := none

namespace Ledger

def entryExists (ledger : Ledger) (formId : Int) (submitter : Submitter) : Bool :=
  ledger.entries.any (·.isOf formId submitter)

def countEntries (ledger : Ledger) (formId : Int) : Int :=
  ledger.reportedCount.getD (ledger.entries.countP (·.formId = formId))

/-- Add an entry; its number is the count of entries. -/
def createEntry (ledger : Ledger) (draft : Draft) : Entry × Ledger :=
  let entry := draft.numbered (ledger.entries.length + 1)
  (entry, { ledger with entries := ledger.entries ++ [entry] })

/-- The values of an entry, in place of earlier ones. -/
def saveValues (ledger : Ledger) (entry : Int) (values : List (Int × String)) : Ledger :=
  { ledger with values := Assoc.put entry values ledger.values }

def insertCopy (ledger : Ledger) (table : String) (row : List (String × String)) : Ledger :=
  { ledger with copies := ledger.copies ++ [(table, row)] }

end Ledger
end FormIntake
