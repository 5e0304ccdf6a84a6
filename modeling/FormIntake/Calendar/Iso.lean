import FormIntake.Calendar.DateTime
import FormIntake.Number.Natural
import FormIntake.Text.Digit

/-! # Standard date-time text

`DateTime.iso` writes `2024-03-15T14:30:05+00:00`, with microseconds only where there are any;
`readIso?` reads such texts back.  A text may leave out the time, the seconds or the offset; without
an offset it is a time of universal time.
-/

namespace FormIntake.Calendar

open Number Text

/-- A distance from universal time as a sign, hours and minutes, and seconds where needed. -/
def offsetText (separator : List Char) (offset : Int) : List Char :=
  let micros := offset.natAbs
  let seconds := micros / second
  (if offset < 0 then '-' else '+') :: padded 2 (seconds / 3600) ++ separator ++
    padded 2 (seconds / 60 % 60) ++
    (if seconds % 60 = 0 && micros % second = 0 then []
     else separator ++ padded 2 (seconds % 60)) ++
    (if micros % second = 0 then [] else '.' :: padded 6 (micros % second))

/-- The wall clock as text. -/
def WallTime.iso (w : WallTime) : List Char :=
  padded 4 w.date.year ++ '-' :: padded 2 w.date.month ++ '-' :: padded 2 w.date.day ++
    'T' :: padded 2 w.hour ++ ':' :: padded 2 w.minute ++ ':' :: padded 2 w.second ++
    (if w.micro = 0 then [] else '.' :: padded 6 w.micro)

/-- The date-time as text. -/
def DateTime.iso (t : DateTime) : String :=
  String.ofList (t.wallTime.iso ++ offsetText [':'] t.offset)

/-- A number of exactly `count` ASCII digits and what follows it. -/
def readFixed : (count : Nat) → List Char → Option (Nat × List Char)
  | count, text =>
    let digits := text.take count
    if digits.length = count && digits.all isAsciiDigit then
      some (ofDigits 10 (digits.map fun c => c.toNat - 48), text.drop count)
    else none

/-- A fraction of a second in microseconds, digits beyond the sixth dropped. -/
def readMicros (text : List Char) : Option (Nat × List Char) :=
  let digits := text.takeWhile isAsciiDigit
  if digits.isEmpty then none
  else
    let six := (digits ++ List.replicate 6 '0').take 6
    some (ofDigits 10 (six.map fun c => c.toNat - 48), text.drop digits.length)

/-- Hours, minutes, seconds and microseconds, the last two of which may be missing. -/
def readClock (text : List Char) : Option ((Nat × Nat × Nat × Nat) × List Char) := do
  let (hour, rest) ← readFixed 2 text
  match rest with
  | ':' :: rest =>
    let (minute, rest) ← readFixed 2 rest
    match rest with
    | ':' :: rest =>
      let (second, rest) ← readFixed 2 rest
      match rest with
      | '.' :: rest =>
        let (micro, rest) ← readMicros rest
        return ((hour, minute, second, micro), rest)
      | _ => return ((hour, minute, second, 0), rest)
    | _ => return ((hour, minute, 0, 0), rest)
  | _ => return ((hour, 0, 0, 0), rest)

/-- The offset at the end of a text. -/
def readOffset : List Char → Option Int
  | [] => some 0
  | ['Z'] => some 0
  | sign :: text =>
    if sign = '+' || sign = '-' then
      match readClock text with
      | some ((hour, minute, sec, micro), []) =>
        if hour < 24 && minute < 60 && sec < 60 then
          let n : Int := ((hour * 60 + minute) * 60 + sec) * second + micro
          some (if sign = '-' then -n else n)
        else none
      | _ => none
    else none

/-- The fields of a standard text and its distance from universal time. -/
def readIsoFields (text : String) : Option (WallTime × Int) := do
  let (year, rest) ← readFixed 4 text.toList
  let '-' :: rest := rest | none
  let (month, rest) ← readFixed 2 rest
  let '-' :: rest := rest | none
  let (day, rest) ← readFixed 2 rest
  match rest with
  | [] => return (⟨⟨year, month, day⟩, 0, 0, 0, 0⟩, 0)
  | _ :: rest =>
    let ((hour, minute, sec, micro), rest) ← readClock rest
    return (⟨⟨year, month, day⟩, hour, minute, sec, micro⟩, ← readOffset rest)

/-- The date-time of a standard text. -/
def readIso? (text : String) : Option DateTime :=
  (readIsoFields text).bind fun (wall, offset) => DateTime.ofWallTime? wall offset

end FormIntake.Calendar
