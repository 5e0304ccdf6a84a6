import FormIntake.Calendar.Iso
import FormIntake.Failure

/-! # Entries

An entry is the record of one accepted submission.  A `Draft` is an entry before the store has given
it a number.
-/

namespace FormIntake

open Calendar

structure Draft where
  /-- A number that the entry asks for. -/
  id : Option Int := none
  formId : Int
  address : String := ""
  formUrl : String := ""
  referringUrl : String := ""
  postId : Option Int := none
  createdBy : Option Int := none
  createdAt : DateTime
  updatedAt : DateTime
  deriving DecidableEq

structure Entry where
  id : Int
  formId : Int
  address : String
  formUrl : String
  referringUrl : String
  postId : Option Int
  createdBy : Option Int
  createdAt : DateTime
  updatedAt : DateTime
  deriving DecidableEq

/-- The entry that a draft becomes under a number. -/
def Draft.numbered (draft : Draft) (id : Int) : Entry where
  id := id
  formId := draft.formId
  address := draft.address
  formUrl := draft.formUrl
  referringUrl := draft.referringUrl
  postId := draft.postId
  createdBy := draft.createdBy
  createdAt := draft.createdAt
  updatedAt := draft.updatedAt

/-- The entry as a mapping. -/
def Entry.toValue (e : Entry) : Value :=
  let optional (n : Option Int) : Value := (n.map Value.int).getD .null
  .record [("id", .int e.id), ("form_id", .int e.formId), ("ip", .text e.address),
    ("form_url", .text e.formUrl), ("referring_url", .text e.referringUrl),
    ("post_id", optional e.postId), ("created_by", optional e.createdBy),
    ("created_at", .text e.createdAt.iso), ("updated_at", .text e.updatedAt.iso)]

/-- Who an entry is looked for by. -/
inductive Submitter where
  | user (id : Int)
  | address (text : String)
  deriving DecidableEq, Repr

/-- Whether the entry is one of a submitter to a form. -/
def Entry.isOf (entry : Entry) (formId : Int) (submitter : Submitter) : Bool :=
  entry.formId = formId &&
    match submitter with
    | .user id => entry.createdBy = some id
    | .address text => entry.address = text

end FormIntake
