import FormIntake.Calendar.Iso

/-! # Date and time formats

A format is text with directives: a percent sign, flags, a width, and a letter.  The flags `_`, `-`
and `0` fill with spaces, not at all, or with zeros; `^` writes in capitals and `#` in the other
case.  A directive that is not known is written as it stands.  The zone and the microseconds are
filled in first (`fillZone`); a text too long for the room that its format has is left empty.
-/

namespace FormIntake.Calendar

open Number Text

/-- A time as a zone shows it. -/
structure ShownTime where
  wall : WallTime
  /-- The distance of the clock from universal time in microseconds. -/
  offset : Int
  zone : String

namespace Format

/-- How a directive is written. -/
structure Style where
  fill : Option Char
  capitals : Bool
  otherCase : Bool
  width : Nat

def Style.plain : Style := ⟨none, false, false, 0⟩

def monthNames : List String :=
  ["January", "February", "March", "April", "May", "June", "July", "August", "September",
   "October", "November", "December"]

/-- The names of the days of the week from Monday. -/
def dayNames : List String :=
  ["Monday", "Tuesday", "Wednesday", "Thursday", "Friday", "Saturday", "Sunday"]

/-- A number filled up to the directive's usual width. -/
def number (style : Style) (usual : Char) (digits n : Nat) : List Char :=
  match style.fill with
  | some '-' => padLeft ' ' style.width (decimal n)
  | some fill => padLeft fill (max digits style.width) (decimal n)
  | none => padLeft usual (max digits style.width) (decimal n)

/-- A text in the directive's width, in capitals where asked. -/
def text (style : Style) (shown : List Char) : List Char :=
  padLeft (if style.fill = some '0' then '0' else ' ') style.width
    (if style.capitals then shown.map Char.toUpper else shown)

/-- A name, for which the other case is capitals as well. -/
def name (style : Style) (shown : List Char) : List Char :=
  text { style with capitals := style.capitals || style.otherCase } shown

/-- Half of the day, in small letters where asked. -/
def halfDay (style : Style) (small : Bool) (w : WallTime) : List Char :=
  let shown := if w.hour < 12 then ['A', 'M'] else ['P', 'M']
  if small || style.otherCase then text { style with capitals := false } (shown.map Char.toLower)
  else text style shown

/-- The hour of the twelve-hour clock. -/
def hour12 (w : WallTime) : Nat := if w.hour % 12 = 0 then 12 else w.hour % 12

/-- The number of the week that starts on a day of the week, counted from zero on Monday. -/
def weekNumber (start : Nat) (w : WallTime) : Nat :=
  (w.date.dayOfYear + 7 - (w.date.weekday + 7 - start) % 7) / 7

/-- The year and week of the calendar whose first week holds the year's first Thursday. -/
def isoWeek (w : WallTime) : Nat × Nat :=
  let thursday := w.date.toDay + 3 - w.date.weekday
  let d := Date.ofDay thursday
  (d.year, d.dayOfYear / 7 + 1)

/-- The directives that write one number: fill, width and value. -/
def numeric? (w : WallTime) : Char → Option (Char × Nat × Nat)
  | 'C' => some ('0', 1, w.date.year / 100)
  | 'd' => some ('0', 2, w.date.day)
  | 'e' => some (' ', 2, w.date.day)
  | 'g' => some ('0', 2, (isoWeek w).1 % 100)
  | 'G' => some ('0', 1, (isoWeek w).1)
  | 'H' => some ('0', 2, w.hour)
  | 'I' => some ('0', 2, hour12 w)
  | 'j' => some ('0', 3, w.date.dayOfYear + 1)
  | 'k' => some (' ', 2, w.hour)
  | 'l' => some (' ', 2, hour12 w)
  | 'm' => some ('0', 2, w.date.month)
  | 'M' => some ('0', 2, w.minute)
  | 'S' => some ('0', 2, w.second)
  | 'u' => some ('0', 1, w.date.weekday + 1)
  | 'U' => some ('0', 2, weekNumber 6 w)
  | 'V' => some ('0', 2, (isoWeek w).2)
  | 'w' => some ('0', 1, (w.date.weekday + 1) % 7)
  | 'W' => some ('0', 2, weekNumber 0 w)
  | 'y' => some ('0', 2, w.date.year % 100)
  | 'Y' => some ('0', 1, w.date.year)
  | _ => none

/-- A number of the usual style. -/
def plainNumber (w : WallTime) (letter : Char) : List Char :=
  match numeric? w letter with
  | some (usual, digits, n) => number .plain usual digits n
  | none => []

def monthName (w : WallTime) : List Char := (monthNames.getD (w.date.month - 1) "?").toList

def dayName (w : WallTime) : List Char := (dayNames.getD w.date.weekday "?").toList

/-- Parts with separators, as in `%H:%M:%S`. -/
def parts (w : WallTime) (separator : Char) (letters : List Char) : List Char :=
  join [separator] (letters.map (plainNumber w))

/-- What a directive writes; `none` for an unknown one. -/
def directive (t : ShownTime) (style : Style) (letter : Char) : Option (List Char) :=
  let w := t.wall
  match numeric? w letter with
  | some (usual, digits, n) => some (number style usual digits n)
  | none =>
    match letter with
    | '%' => some (text style ['%'])
    | 'n' => some (text style ['\n'])
    | 't' => some (text style ['\t'])
    | 'a' => some (name style ((dayName w).take 3))
    | 'A' => some (name style (dayName w))
    | 'b' | 'h' => some (name style ((monthName w).take 3))
    | 'B' => some (name style (monthName w))
    | 'p' => some (halfDay style false w)
    | 'P' => some (halfDay style true w)
    | 'D' | 'x' => some (text style (parts w '/' ['m', 'd', 'y']))
    | 'F' => some (text style (parts w '-' ['Y', 'm', 'd']))
    | 'R' => some (text style (parts w ':' ['H', 'M']))
    | 'T' | 'X' => some (text style (parts w ':' ['H', 'M', 'S']))
    | 'r' => some (text style (parts w ':' ['I', 'M', 'S'] ++ ' ' :: halfDay .plain false w))
    | 'c' => some (text style ((dayName w).take 3 ++ ' ' :: (monthName w).take 3 ++
        ' ' :: plainNumber w 'e' ++ ' ' :: parts w ':' ['H', 'M', 'S'] ++
        ' ' :: plainNumber w 'Y'))
    | 's' => some (text style (wholeText (wallSeconds w.toMicros)))
    | 'z' => some (text style ['+'] ++ number style '0' 4 0)
    | 'Z' => some (text style ['U', 'T', 'C'])
    | _ => none

/-- The style that flags and a width give; a width needs no more than the room there is. -/
def styleOf (room : Nat) (flags width : List Char) : Style :=
  { fill := (flags.filter fun c => c = '_' || c = '-' || c = '0').getLast?.map fun c =>
      if c = '_' then ' ' else c
    capitals := flags.contains '^'
    otherCase := flags.contains '#'
    width := min room (ofDigits 10 (width.map fun c => c.toNat - 48)) }

def isFlag (c : Char) : Bool := c = '_' || c = '-' || c = '0' || c = '^' || c = '#'

/-- Whether the letter may follow the modifier, if there is one. -/
def allows (modifier : List Char) (letter : Char) : Bool :=
  match modifier with
  | ['E'] => "CPRTXYZcnprstuxyz".toList.contains letter
  | ['O'] => "BCGHIMPRSTUVWZbdeghjklmnprstuwyz".toList.contains letter
  | _ => true

/-- A directive after its percent sign: what it writes and how many characters it takes.  One that
is not known is written from its last percent sign on. -/
def readDirective (t : ShownTime) (room : Nat) (after : List Char) : List Char × Nat :=
  let flags := after.takeWhile isFlag
  let rest := after.drop flags.length
  let width := rest.takeWhile isAsciiDigit
  let rest := rest.drop width.length
  let modifier := (rest.take 1).filter fun c => c = 'E' || c = 'O'
  let style := styleOf room flags width
  let taken := flags.length + width.length + modifier.length
  match rest.drop modifier.length with
  | [] => (text style ('%' :: after.take taken), taken)
  | letter :: _ =>
    let shown := if allows modifier letter then directive t style letter else none
    let asWritten := if letter = '%' then ['%'] else '%' :: after.take (taken + 1)
    (shown.getD (text style asWritten), taken + 1)

/-- A format written out; characters of a directive are skipped once it is written. -/
def writeFrom (t : ShownTime) (room : Nat) : (skip : Nat) → List Char → List Char
  | _, [] => []
  | skip + 1, _ :: rest => writeFrom t room skip rest
  | 0, '%' :: rest =>
    let (shown, taken) := readDirective t room rest
    shown ++ writeFrom t room taken rest
  | 0, c :: rest => c :: writeFrom t room 0 rest

/-- A format in which the plain marks of the zone, its offset and the microseconds are filled in. -/
def fillZone (t : ShownTime) : List Char → List Char
  | '%' :: 'z' :: rest => offsetText [] t.offset ++ fillZone t rest
  | '%' :: 'Z' :: rest => t.zone.toList ++ fillZone t rest
  | '%' :: 'f' :: rest => padded 6 t.wall.micro ++ fillZone t rest
  | '%' :: c :: rest => '%' :: c :: fillZone t rest
  | c :: rest => c :: fillZone t rest
  | [] => []

/-- The room for what a format of some length writes: the least power of two that is no less than
1024 and than 256 for each of its characters. -/
def room (length : Nat) : Nat := Nat.pow 2 (Nat.log2 (max 1024 (256 * length) - 1) + 1)

end Format

/-- A time written in a format, of which the part before a null character counts. -/
def ShownTime.format (t : ShownTime) (format : String) : String :=
  let filled := Format.fillZone t (format.toList.takeWhile (· ≠ '\x00'))
  let room := Format.room filled.length
  let written := Format.writeFrom t room 0 filled
  if written.length < room then String.ofList written else ""

/-- A date-time as a zone shows it; none outside the calendar. -/
def DateTime.shownIn? (t : DateTime) (zone : Zone) : Option ShownTime :=
  (t.inZone? zone).map fun (u, name) => ⟨u.wallTime, u.offset, name⟩

end FormIntake.Calendar
