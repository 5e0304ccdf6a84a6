import FormIntake.Calendar.Date

/-! # Wall clocks

What a wall clock shows: a date and a time of the day, or the microseconds since the start of year one.
-/

namespace FormIntake.Calendar

/-- Microseconds of a second. -/
def second : Nat := 1000000

/-- Microseconds of a day. -/
def microsPerDay : Nat := 86400 * second

/-- The end of the calendar in microseconds. -/
def endOfTime : Nat := dayCount * microsPerDay

/-- What a wall clock shows. -/
structure WallTime where
  date : Date
  hour : Nat
  minute : Nat
  second : Nat
  micro : Nat
  deriving DecidableEq, Repr

namespace WallTime

/-- Whether the fields are those of a time of the calendar. -/
def isValid (w : WallTime) : Bool :=
  w.date.isValid && w.hour < 24 && w.minute < 60 && w.second < 60 && w.micro < 1000000

/-- Why the fields are not those of a time of the calendar, if they are not. -/
def fault? (w : WallTime) : Option String :=
  if w.date.year = 0 then some "year 0 is out of range"
  else if w.date.month = 0 || 12 < w.date.month then some "month must be in 1..12"
  else if !w.date.isValid then some "day is out of range for month"
  else if 24 ≤ w.hour then some "hour must be in 0..23"
  else if 60 ≤ w.minute then some "minute must be in 0..59"
  else if 60 ≤ w.second then some "second must be in 0..59"
  else none

/-- Microseconds since the start of the calendar. -/
def toMicros (w : WallTime) : Nat :=
  (((w.date.toDay * 24 + w.hour) * 60 + w.minute) * 60 + w.second) * Calendar.second + w.micro

/-- The fields of a time. -/
def ofMicros (n : Nat) : WallTime :=
  let seconds := n / Calendar.second
  { date := Date.ofDay (n / microsPerDay)
    hour := seconds / 3600 % 24
    minute := seconds / 60 % 60
    second := seconds % 60
    micro := n % Calendar.second }

end WallTime

/-- The start of 1970 in microseconds. -/
def epoch : Nat := (Date.toDay ⟨1970, 1, 1⟩) * microsPerDay

/-- Whole seconds since the start of 1970 on a wall clock. -/
def wallSeconds (wall : Nat) : Int := ((wall / second : Nat) : Int) - ((epoch / second : Nat) : Int)

end FormIntake.Calendar
