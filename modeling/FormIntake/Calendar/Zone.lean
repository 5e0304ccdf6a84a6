import FormIntake.Calendar.Rule
import FormIntake.Calendar.Zone.Africa
import FormIntake.Calendar.Zone.America
import FormIntake.Calendar.Zone.Asia
import FormIntake.Calendar.Zone.Europe
import FormIntake.Calendar.Zone.Oceans
import FormIntake.Calendar.Zone.Links

/-! # Time zones

A zone has the clocks it has known, the changes between them since 1970, and the rule that it
follows after the last change.  Zones are found by name, letter case included.
-/

namespace FormIntake.Calendar

open Text Number

structure Zone where
  name : String
  /-- The clock before the first change. -/
  first : ClockKind
  /-- The moments of change, in seconds since 1970, and the clock from then on. -/
  changes : List (Int × ClockKind)
  rule : ClockRule
  deriving DecidableEq, Repr

namespace Zone

/-- Universal time. -/
def universal : Zone :=
  let kind : ClockKind := ⟨"UTC", 0⟩
  ⟨"UTC", kind, [], ⟨kind, none⟩⟩

/-- The recorded zones. -/
def records : List ZoneRecord := africa ++ america ++ asia ++ europe ++ oceans

/-- A clock kind of a record: its name and its offset in seconds. -/
def readKind (text : List Char) : ClockKind :=
  match splitFirst ' ' text with
  | (name, offset) => ⟨String.ofList name, (readInteger? (offset.getD [])).getD 0⟩

/-- The changes of a record, each given by the seconds since the one before. -/
def readChanges (kinds : List ClockKind) (since : Int) : List (List Char) → List (Int × ClockKind)
  | [] => []
  | word :: rest =>
    let (delay, kind) := splitFirst '.' word
    let moment := since + readHex delay
    let kind := kinds.getD (ClockRule.readCount (kind.getD [])) universal.first
    (moment, kind) :: readChanges kinds moment rest

/-- The zone of a record. -/
def ofRecord (record : ZoneRecord) : Zone :=
  let kinds := (splitOn ',' record.kinds.toList).map readKind
  let (first, changes) := match words record.changes with
    | first :: changes => (ClockRule.readCount first, changes)
    | [] => (0, [])
  { name := record.name
    first := kinds.getD first universal.first
    changes := readChanges kinds 0 changes
    rule := ClockRule.read record.rule }

/-- The zone of a name. -/
def ofName? (name : String) : Option Zone :=
  let target := (links.lookup name).getD name
  (records.find? fun r => r.name = target).map fun r => { ofRecord r with name := name }

/-- Whether there is a zone of the name. -/
def isKnown (name : String) : Bool :=
  (links.lookup name).isSome || records.any fun r => r.name = name

/-- The last change no later than a moment, and whether a change comes after it. -/
def kindOf (current : ClockKind) (seconds : Int) : List (Int × ClockKind) → ClockKind × Bool
  | [] => (current, false)
  | (moment, kind) :: rest =>
    if seconds < moment then (current, true) else kindOf kind seconds rest

/-- The clock at a moment in microseconds since 1970. -/
def clockAt (zone : Zone) (micros : Int) : ClockKind :=
  let seconds := micros / (second : Int)
  match kindOf zone.first seconds zone.changes with
  | (kind, true) => kind
  | (_, false) =>
    let day := (seconds + (epoch / second : Nat)) / 86400
    zone.rule.at (Date.ofDay day.toNat).year seconds

/-- The clock after the last change no later than what it shows itself, and whether a change comes after it.
A change counts from the later one of the two times that are shown at it, or from the earlier one if the
time is shown again. -/
def kindOn (again : Bool) (current : ClockKind) (seconds : Int) :
    List (Int × ClockKind) → ClockKind × Bool
  | [] => (current, false)
  | (moment, kind) :: rest =>
    let ahead := (if again then min else max) current.offset kind.offset
    if seconds < moment + ahead then (current, true) else kindOn again kind seconds rest

/-- The clock of a zone when it shows a time, perhaps again. -/
def clockOn (zone : Zone) (again : Bool) (wall : Nat) : ClockKind :=
  let seconds := wallSeconds wall
  match kindOn again zone.first seconds zone.changes with
  | (kind, true) => kind
  | (_, false) => zone.rule.on again (WallTime.ofMicros wall).date.year seconds

end Zone
end FormIntake.Calendar
