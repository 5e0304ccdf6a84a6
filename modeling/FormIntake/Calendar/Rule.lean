import FormIntake.Calendar.WallTime
import FormIntake.Number.Integer

/-! # Yearly clock rules

The clock of a zone after its last recorded change follows a rule: a standard name and offset, and
perhaps a summer name and offset with the days of the year on which summer time starts and ends.  A
rule is written as in `CET-1CEST,M3.5.0,M10.5.0/3`: the offsets count west of universal time, and a
day is a weekday of a week of a month, a day of the year counted from one without leap days, or one
counted from zero with them.
-/

namespace FormIntake.Calendar

open Number Text

/-- The name and offset, in seconds east, that a clock follows. -/
structure ClockKind where
  name : String
  offset : Int
  deriving DecidableEq, Repr

/-- A day of every year. -/
inductive YearDay where
  | weekday (month week day : Nat)
  | julian (day : Nat)
  | counted (day : Nat)
  deriving DecidableEq, Repr

/-- A day of every year and the seconds after its start. -/
structure YearTime where
  day : YearDay
  seconds : Int
  deriving DecidableEq, Repr

structure SummerTime where
  kind : ClockKind
  start : YearTime
  finish : YearTime
  deriving DecidableEq, Repr

structure ClockRule where
  standard : ClockKind
  summer : Option SummerTime
  deriving DecidableEq, Repr

/-- Seconds from the start of 1970 to the start of a day. -/
def daySeconds (day : Nat) : Int := (day : Int) * 86400 - (epoch / second : Nat)

/-- The day, as counted from year one, of a day of a year. -/
def YearDay.inYear (year : Nat) : YearDay → Nat
  | .weekday month week day =>
    let first : Date := ⟨year, month, 1⟩
    let start := first.toDay + (day + 7 - (first.weekday + 1) % 7) % 7 + (week - 1) * 7
    if start < first.toDay + daysInMonth year month then start else start - 7
  | .julian day =>
    (Date.toDay ⟨year, 1, 1⟩) + (day - 1) + (if isLeap year && 60 ≤ day then 1 else 0)
  | .counted day => (Date.toDay ⟨year, 1, 1⟩) + day

/-- The wall-clock seconds since 1970 of a time of a year. -/
def YearTime.inYear (t : YearTime) (year : Nat) : Int := daySeconds (t.day.inYear year) + t.seconds

/-- The clock that the rule gives at a moment, in seconds since 1970, of a year of universal
time. -/
def ClockRule.at (rule : ClockRule) (year : Nat) (seconds : Int) : ClockKind :=
  match rule.summer with
  | none => rule.standard
  | some summer =>
    let start := summer.start.inYear year - rule.standard.offset
    let finish := summer.finish.inYear year - summer.kind.offset
    let isSummer :=
      if start < finish then start ≤ seconds && seconds < finish
      else !(finish ≤ seconds && seconds < start)
    if isSummer then summer.kind else rule.standard

/-- The clock that the rule gives for the seconds since 1970 that a wall clock shows, in a year of its
own.  For what it shows twice or leaves out at a change this is the clock before the change, or the one
after it if the time is shown again. -/
def ClockRule.on (rule : ClockRule) (again : Bool) (year : Nat) (seconds : Int) : ClockKind :=
  match rule.summer with
  | none => rule.standard
  | some summer =>
    let ahead := summer.kind.offset - rule.standard.offset
    let start := summer.start.inYear year
    let finish := summer.finish.inYear year
    let (start, finish) :=
      if again = decide (0 ≤ ahead) then (start, finish - ahead) else (start + ahead, finish)
    let isSummer :=
      if start < finish then start ≤ seconds && seconds < finish
      else !(finish ≤ seconds && seconds < start)
    if isSummer then summer.kind else rule.standard

namespace ClockRule

/-- A clock name: letters, or anything between angle brackets. -/
def readName : List Char → List Char × List Char
  | '<' :: rest => (rest.takeWhile (· != '>'), (rest.dropWhile (· != '>')).drop 1)
  | text => (text.takeWhile Char.isAlpha, text.dropWhile Char.isAlpha)

/-- Hours with optional minutes and seconds, in seconds. -/
def readSeconds (text : List Char) : Int × List Char :=
  let (negative, body) := splitSign text
  let shown := body.takeWhile fun c => isAsciiDigit c || c = ':'
  let parts := (splitOn ':' shown).map fun p => ofDigits 10 (p.map fun c => c.toNat - 48)
  let total := match parts with
    | [h] => h * 3600
    | [h, m] => h * 3600 + m * 60
    | h :: m :: s :: _ => h * 3600 + m * 60 + s
    | [] => 0
  (signed negative total, body.drop shown.length)

/-- The number of a text of digits. -/
def readCount (text : List Char) : Nat := ofDigits 10 (text.map fun c => c.toNat - 48)

/-- A time of the year. -/
def readYearTime (text : List Char) : YearTime :=
  let (day, time) := splitFirst '/' text
  let seconds := match time with
    | some t => (readSeconds t).1
    | none => 7200
  let day := match day with
    | 'M' :: rest =>
      match (splitOn '.' rest).map readCount with
      | [month, week, d] => .weekday month week d
      | _ => .counted 0
    | 'J' :: rest => .julian (readCount rest)
    | rest => .counted (readCount rest)
  ⟨day, seconds⟩

/-- The rule of a text. -/
def read (text : String) : ClockRule :=
  let (name, rest) := readName text.toList
  let (west, rest) := readSeconds rest
  let standard : ClockKind := ⟨String.ofList name, -west⟩
  if rest.isEmpty then ⟨standard, none⟩
  else
    let (names, days) := match splitOn ',' rest with
      | names :: days => (names, days)
      | [] => ([], [])
    let (summerName, given) := readName names
    let offset := if given.isEmpty then standard.offset + 3600 else -(readSeconds given).1
    match days with
    | [start, finish] =>
      ⟨standard, some ⟨⟨String.ofList summerName, offset⟩, readYearTime start,
        readYearTime finish⟩⟩
    | _ => ⟨standard, none⟩

end ClockRule
end FormIntake.Calendar
