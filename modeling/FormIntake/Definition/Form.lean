import FormIntake.Definition.Message

/-! # Form definitions

A form as it is written down.  `FormDefinition.read` accepts a definition only if it is sound: it
has a page, no two elements share an id, and every rule looks at an element that exists
(`sound_of_read`).
-/

namespace FormIntake.Definition

open Schema Number

/-- How the people who may submit once are told apart. -/
inductive SubmitterKey where
  | user
  | address
  deriving DecidableEq, Repr

namespace SubmitterKey

def all : List SubmitterKey := [.user, .address]

def name : SubmitterKey → String
  | .user => "logged-in-user"
  | .address => "ip-address"

end SubmitterKey

structure FormDefinition where
  id : Int
  name : String := ""
  saveEntry : Bool := true
  onePerSubmitter : Bool := false
  submitterKey : SubmitterKey := .user
  entryLimit : Option Int := none
  hasSchedule : Bool := false
  scheduleStart : String := ""
  scheduleEnd : String := ""
  locale : String := "en"
  dateFormat : String := ""
  timeFormat : String := ""
  dateTimeFormat : String := ""
  banner : Banner := {}
  phrases : List (String × String) := []
  pages : List (Page Check)
  notifications : List Notification := []
  confirmations : List Confirmation := []
  copy : CopyTable := {}
  deriving Repr

namespace FormDefinition

/-- All elements in reading order. -/
def nodes (form : FormDefinition) : List (Node Check) := form.pages.flatMap Page.nodes

def ids (form : FormDefinition) : List Int := form.nodes.map Node.id

/-- The logics of the form with the names of their owners. -/
def logics (form : FormDefinition) : List (String × Logic) :=
  form.nodes.map (fun n => ("element " ++ String.ofList (wholeText n.id), n.item.logic)) ++
  form.notifications.map (fun n => ("notification '" ++ n.name ++ "'", n.logic)) ++
  form.confirmations.map (fun c => ("confirmation '" ++ c.name ++ "'", c.logic))

/-- The numbers that occur more than once, in order of size. -/
def repeated (ids : List Int) : List Int :=
  (ids.filter fun i => ids.count i > 1).eraseDups.mergeSort (· ≤ ·)

/-- The rules that look at no element, with the names of their owners. -/
def strayRules (form : FormDefinition) : List (String × Int) :=
  form.logics.flatMap fun (owner, logic) =>
    (logic.rules.filter fun r => !form.ids.contains r.target).map fun r => (owner, r.target)

/-- Why a definition with valid fields is not accepted. -/
inductive Flaw where
  | noPages
  | repeatedIds (ids : List Int)
  | strayRule (owner : String) (target : Int)
  /-- A number that is too long for a message. -/
  | unwritableNumber
  deriving DecidableEq, Repr

def Flaw.message : Flaw → String
  | .noPages => "A form needs at least one page"
  | .repeatedIds ids =>
    "Duplicate element id(s): [" ++
      ", ".intercalate (ids.map fun i => String.ofList (wholeText i)) ++ "]"
  | .strayRule owner target =>
    "Logic rule on " ++ owner ++ " references unknown element " ++ String.ofList (wholeText target)
  | .unwritableNumber => writingLimit

/-- A flaw that is told with some numbers, if these can be written out. -/
def Flaw.told (flaw : Flaw) (numbers : List Int) : Flaw :=
  if numbers.all isWritable then flaw else .unwritableNumber

/-- The first flaw of the elements taken together.  All ids are written out before rules are looked
at. -/
def flaw? (form : FormDefinition) : Option Flaw :=
  match repeated form.ids with
  | _ :: _ => some ((Flaw.repeatedIds (repeated form.ids)).told (repeated form.ids))
  | [] =>
    if form.ids.all isWritable then
      form.strayRules.head?.map fun (owner, target) => (Flaw.strayRule owner target).told [target]
    else some .unwritableNumber

/-- A page at least. -/
def pagesReader : Reader (List (Page Check)) := fun v =>
  (list Page.reader v).ensure fun pages =>
    if pages.isEmpty then some (.refused Flaw.noPages.message) else none

/-- The fields of a definition. -/
def readFields (e : Entries) : Checked FormDefinition :=
  FormDefinition.mk <$> must "id" positiveInt e
    <*> may "name" "" text e
    <*> may "save_entry" true bool e
    <*> may "one_entry_per_user" false bool e
    <*> may "one_entry_per" .user (oneOf SubmitterKey.all SubmitterKey.name) e
    <*> may "entry_limit" none (nullable int) e
    <*> may "enable_schedule" false bool e
    <*> may "schedule_start" "" text e
    <*> may "schedule_end" "" text e
    <*> may "locale" "en" text e
    <*> may "date_format" "" text e
    <*> may "time_format" "" text e
    <*> may "datetime_format" "" text e
    <*> may "error" {} Banner.reader e
    <*> may "translations" [] (mapping text) e
    <*> must "pages" pagesReader e
    <*> may "notifications" [] (list Notification.reader) e
    <*> may "confirmations" [] (list Confirmation.reader) e
    <*> may "storage" {} CopyTable.reader e

/-- A form definition, if it is sound. -/
def read (e : Entries) : Checked FormDefinition :=
  (readFields e).ensure fun form => form.flaw?.map fun flaw => .refused flaw.message

/-- A form definition from any value. -/
def reader : Reader FormDefinition := Schema.record "FormSettings" read

/-- A definition that is accepted: it has a page, no id occurs twice or is too long, and every rule
looks at an element of the form. -/
structure Sound (form : FormDefinition) : Prop where
  pages_ne_nil : form.pages ≠ []
  ids_nodup : form.ids.Nodup
  ids_writable : ∀ id ∈ form.ids, isWritable id = true
  rules_known : ∀ owned ∈ form.logics, ∀ rule ∈ owned.2.rules, rule.target ∈ form.ids

def toValue (form : FormDefinition) : Value :=
  .record [("id", .int form.id), ("name", .text form.name), ("save_entry", .bool form.saveEntry),
    ("one_entry_per_user", .bool form.onePerSubmitter),
    ("one_entry_per", .text form.submitterKey.name),
    ("entry_limit", match form.entryLimit with | none => .null | some n => .int n),
    ("enable_schedule", .bool form.hasSchedule), ("schedule_start", .text form.scheduleStart),
    ("schedule_end", .text form.scheduleEnd), ("locale", .text form.locale),
    ("date_format", .text form.dateFormat), ("time_format", .text form.timeFormat),
    ("datetime_format", .text form.dateTimeFormat), ("error", form.banner.toValue),
    ("translations", .record (form.phrases.map fun (k, v) => (k, .text v))),
    ("pages", .list (form.pages.map Page.toValue)),
    ("notifications", .list (form.notifications.map Notification.toValue)),
    ("confirmations", .list (form.confirmations.map Confirmation.toValue)),
    ("storage", form.copy.toValue)]

end FormDefinition
end FormIntake.Definition
