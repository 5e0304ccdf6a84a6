import FormIntake.Failure
import FormIntake.Calendar.Iso

/-! # Days and times in a document

A plain text in the form of a day, or of a day with a time, stands for it.  The fields have to be
those of the calendar.
-/

namespace FormIntake.Yaml

open Calendar Number Text

/-- A day, with the time of day and the distance from universal time if these are written. -/
structure Time where
  date : Date
  clock : Option (Nat × Nat × Nat × Nat) := none
  /-- Minutes, as a count ahead of universal time. -/
  offset : Option Int := none
  deriving DecidableEq, Repr

namespace Time

/-- A number of one or two digits. -/
def readShort (text : List Char) : Option (Nat × List Char) :=
  readFixed 2 text <|> readFixed 1 text

def readMark (mark : Char) : List Char → Option (List Char)
  | c :: rest => if c = mark then some rest else none
  | [] => none

def isBlank (c : Char) : Bool := c = ' ' || c = '\t'

/-- What stands between the day and the time. -/
def readGap : List Char → Option (List Char)
  | 'T' :: rest => some rest
  | 't' :: rest => some rest
  | c :: rest => if isBlank c then some (rest.dropWhile isBlank) else none
  | [] => none

/-- The part of a second, in microseconds; further digits are passed over. -/
def readFraction : List Char → Nat × List Char
  | '.' :: rest =>
    let digits := rest.takeWhile isAsciiDigit
    let six := (digits ++ List.replicate 6 '0').take 6
    (ofDigits 10 (six.filterMap digitValue?), rest.dropWhile isAsciiDigit)
  | text => (0, text)

/-- The distance from universal time, if it is written, at the end of the text. -/
def readOffset (text : List Char) : Option (Option Int) :=
  match text with
  | [] => some none
  | _ =>
    match text.dropWhile isBlank with
    | ['Z'] => some (some 0)
    | sign :: rest => do
      if !(sign = '+' || sign = '-') then none
      let (hours, rest) ← readShort rest
      let minutes ← match rest with
        | [] => some 0
        | ':' :: rest => do
          let (minutes, rest) ← readFixed 2 rest
          if rest.isEmpty then some minutes else none
        | _ => none
      let size : Int := hours * 60 + minutes
      return some (if sign = '-' then -size else size)
    | [] => none

/-- The fields of a day with a time. -/
def readLong (text : List Char) : Option Time := do
  let (year, rest) ← readFixed 4 text
  let (month, rest) ← readShort (← readMark '-' rest)
  let (day, rest) ← readShort (← readMark '-' rest)
  let (hour, rest) ← readShort (← readGap rest)
  let (minute, rest) ← readFixed 2 (← readMark ':' rest)
  let (second, rest) ← readFixed 2 (← readMark ':' rest)
  let (micro, rest) := readFraction rest
  return ⟨⟨year, month, day⟩, some (hour, minute, second, micro), ← readOffset rest⟩

/-- The fields of a day. -/
def readDay (text : List Char) : Option Time := do
  let (year, rest) ← readFixed 4 text
  let (month, rest) ← readFixed 2 (← readMark '-' rest)
  let (day, rest) ← readFixed 2 (← readMark '-' rest)
  if rest.isEmpty then some ⟨⟨year, month, day⟩, none, none⟩ else none

/-- The fields of a text in one of the two forms. -/
def read? (text : List Char) : Option Time := readDay text <|> readLong text

/-- What a wall clock shows at the time, midnight if no time of day is written. -/
def wall (t : Time) : WallTime :=
  let (hour, minute, second, micro) := t.clock.getD (0, 0, 0, 0)
  ⟨t.date, hour, minute, second, micro⟩

/-- Why the fields are not those of a time, if they are not. -/
def fault? (t : Time) : Option String :=
  if t.offset.any fun n => 24 * 60 ≤ n.natAbs then some "offset must be less than a day"
  else t.wall.fault?

/-- The time as a text, a blank between the day and the time of day. -/
def shown (t : Time) : List Char :=
  let iso := t.wall.iso
  if t.clock.isNone then iso.take 10
  else
    iso.take 10 ++ ' ' :: iso.drop 11 ++
      (match t.offset with
        | some minutes => offsetText [':'] (minutes * 60 * unit)
        | none => [])
where
  unit : Int := Calendar.second

/-- The time as a value. -/
def toScalar (t : Time) : Except Failure Scalar :=
  match t.fault? with
  | some reason => .error (.noSuchTime reason)
  | none => .ok (.date (String.ofList t.shown))

end Time
end FormIntake.Yaml
