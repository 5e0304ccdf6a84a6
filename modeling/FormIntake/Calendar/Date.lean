/-! # Dates

Dates of the Gregorian calendar from year one, numbered by the day: day zero is the first of
January of year one, a Monday.  `Date.toDay` counts the days before a date and `Date.ofDay` finds
the date of a day.
-/

namespace FormIntake.Calendar

/-- Whether a year has a leap day. -/
def isLeap (year : Nat) : Bool := year % 4 = 0 && (year % 100 != 0 || year % 400 = 0)

/-- The lengths of the months of a year. -/
def monthLengths (year : Nat) : List Nat :=
  [31, if isLeap year then 29 else 28, 31, 30, 31, 30, 31, 31, 30, 31, 30, 31]

/-- The length of a month, numbered from one. -/
def daysInMonth (year month : Nat) : Nat := (monthLengths year).getD (month - 1) 0

/-- The days of a year before a month. -/
def daysBeforeMonth (year month : Nat) : Nat := ((monthLengths year).take (month - 1)).foldl (· + ·) 0

/-- The days before a year. -/
def daysBeforeYear (year : Nat) : Nat :=
  let y := year - 1
  y * 365 + y / 4 - y / 100 + y / 400

/-- The last year of the calendar. -/
def maxYear : Nat := 9999

structure Date where
  year : Nat
  month : Nat
  day : Nat
  deriving DecidableEq, Repr

namespace Date

/-- Whether the date is one of the calendar. -/
def isValid (d : Date) : Bool :=
  1 ≤ d.year && d.year ≤ maxYear && 1 ≤ d.month && d.month ≤ 12 &&
    1 ≤ d.day && d.day ≤ daysInMonth d.year d.month

/-- The number of days before the date. -/
def toDay (d : Date) : Nat := daysBeforeYear d.year + daysBeforeMonth d.year d.month + (d.day - 1)

/-- The month and the day of the month of a day of the year, both counted from zero. -/
def splitMonths : List Nat → Nat → Nat × Nat
  | [], day => (0, day)
  | length :: rest, day =>
    if day < length then (0, day)
    else
      let (month, d) := splitMonths rest (day - length)
      (month + 1, d)

/-- The year of a day and the day of that year, counted from zero. -/
def yearOfDay (day : Nat) : Nat × Nat :=
  let n400 := day / 146097
  let r400 := day % 146097
  let n100 := min (r400 / 36524) 3
  let r100 := r400 - n100 * 36524
  let n4 := r100 / 1461
  let r4 := r100 % 1461
  let n1 := min (r4 / 365) 3
  (n400 * 400 + n100 * 100 + n4 * 4 + n1 + 1, r4 - n1 * 365)

/-- The date of a day. -/
def ofDay (day : Nat) : Date :=
  let (year, dayOfYear) := yearOfDay day
  let (month, d) := splitMonths (monthLengths year) dayOfYear
  ⟨year, month + 1, d + 1⟩

/-- The day of the year, counted from zero. -/
def dayOfYear (d : Date) : Nat := daysBeforeMonth d.year d.month + (d.day - 1)

/-- The day of the week, counted from zero on Monday. -/
def weekday (d : Date) : Nat := d.toDay % 7

example : ofDay (toDay ⟨2024, 2, 29⟩) = ⟨2024, 2, 29⟩ := by decide
example : weekday ⟨2024, 3, 15⟩ = 4 := by decide

end Date

/-- The number of days of the calendar. -/
def dayCount : Nat := daysBeforeYear (maxYear + 1)

end FormIntake.Calendar
