import FormIntake.Store.Database
import FormIntake.Value.Shown

/-! # Entries from loose records

An entry can be given as a record of cells under the names of columns.  Texts that are missing are
empty; what has to be there is neither missing nor null.
-/

namespace FormIntake

open Calendar

/-- A cell of a record. -/
inductive Cell where
  | value (v : Value)
  | time (t : DateTime)

namespace Cell

/-- A number, or null. -/
def number? : Cell → Except Failure (Option Int)
  | .value .null => .ok none
  | .value (.text s) =>
    match Table.numberOf? s with
    | some n => .ok (some n)
    | none => .error .unstorable
  | .value v =>
    match v.asWhole? with
    | some n => .ok (some n)
    | none => .error .unstorable
  | .time _ => .error .unstorable

/-- A text, or null; numbers become texts. -/
def text? : Cell → Except Failure (Option String)
  | .value .null => .ok none
  | .value (.bool b) => .ok (some (if b then "1" else "0"))
  | .value (.scalar s) => .ok (some s.shown)
  | .value _ => .error .unstorable
  | .time _ => .error .unstorable

/-- A time, or null. -/
def time? : Cell → Except Failure (Option DateTime)
  | .time t => .ok (some t)
  | .value .null => .ok none
  | .value _ => .error .unstorable

end Cell

namespace Draft

def columns : List String :=
  ["id", "form_id", "ip", "form_url", "referring_url", "post_id", "created_by", "created_at",
   "updated_at"]

/-- What has to be there. -/
def required {α : Type} : Option α → Except Failure α
  | some a => .ok a
  | none => .error .brokenConstraint

/-- The draft of a record.  Unknown columns are found first, then cells of the wrong kind, then
numbers that are too large, and last what is missing. -/
def ofRecord (record : List (String × Cell)) : Except Failure Draft := do
  if record.any fun cell => !columns.contains cell.1 then throw .unknownColumn
  let number (column : String) : Except Failure (Option Int) :=
    ((record.lookup column).getD (.value .null)).number?
  let text (column : String) : Except Failure (Option String) :=
    ((record.lookup column).getD (.value (.text ""))).text?
  let time (column : String) : Except Failure (Option DateTime) :=
    ((record.lookup column).getD (.value .null)).time?
  let createdAt ← time "created_at"
  let updatedAt ← time "updated_at"
  let id ← number "id"
  let formId ← number "form_id"
  let postId ← number "post_id"
  let createdBy ← number "created_by"
  let address ← text "ip"
  let formUrl ← text "form_url"
  let referringUrl ← text "referring_url"
  Database.checkNumbers ([id, formId, postId, createdBy].filterMap fun n => n)
  return {
    id, postId, createdBy
    formId := ← required formId
    address := ← required address
    formUrl := ← required formUrl
    referringUrl := ← required referringUrl
    createdAt := ← required createdAt
    updatedAt := ← required updatedAt }

end Draft
end FormIntake
