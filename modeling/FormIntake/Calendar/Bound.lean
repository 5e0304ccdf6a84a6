import FormIntake.Calendar.DateTime
import FormIntake.Text.Blank
import FormIntake.Text.Digit

/-! # Schedule bounds

A schedule bound is written `YYYY-MM-DD HH:MM:SS` in universal time: four digits for the year, one
or two for every other part, and any run of blanks between date and time.  Each part is read by a
list of alternatives, longer ones first, and the first way of reading all parts counts.
-/

namespace FormIntake.Calendar

open Text

/-- All ways of reading something at the start of a text, best first, with the rest of the text. -/
abbrev Ways (α : Type) := List Char → List (α × List Char)

namespace Bound

/-- The value of an ASCII digit in a range. -/
def digitFrom (low high : Char) : Ways Nat
  | [] => []
  | c :: rest => if low ≤ c && c ≤ high then [(c.toNat - 48, rest)] else []

/-- The value of a decimal digit of any script. -/
def anyDigit : Ways Nat
  | [] => []
  | c :: rest =>
    match digitValue? c with
    | some d => [(d, rest)]
    | none => []

/-- Two digits in a row as one number. -/
def two (first next : Ways Nat) : Ways Nat := fun text =>
  (first text).flatMap fun (a, rest) => (next rest).map fun (b, rest) => (10 * a + b, rest)

/-- The ways of several readers, in order. -/
def oneOf (readers : List (Ways Nat)) : Ways Nat := fun text => readers.flatMap (· text)

def year : Ways Nat := fun text =>
  (two anyDigit anyDigit text).flatMap fun (a, rest) =>
    (two anyDigit anyDigit rest).map fun (b, rest) => (100 * a + b, rest)

def month : Ways Nat :=
  oneOf [two (digitFrom '1' '1') (digitFrom '0' '2'), two (digitFrom '0' '0') (digitFrom '1' '9'),
    digitFrom '1' '9']

/-- A space may stand in place of the first digit of a day. -/
def spacedDigit : Ways Nat
  | ' ' :: rest => digitFrom '1' '9' rest
  | _ => []

def day : Ways Nat :=
  oneOf [two (digitFrom '3' '3') (digitFrom '0' '1'), two (digitFrom '1' '2') anyDigit,
    two (digitFrom '0' '0') (digitFrom '1' '9'), digitFrom '1' '9', spacedDigit]

def hour : Ways Nat :=
  oneOf [two (digitFrom '2' '2') (digitFrom '0' '3'), two (digitFrom '0' '1') anyDigit, anyDigit]

def minute : Ways Nat := oneOf [two (digitFrom '0' '5') anyDigit, anyDigit]

def sec : Ways Nat :=
  oneOf [two (digitFrom '6' '6') (digitFrom '0' '1'), two (digitFrom '0' '5') anyDigit, anyDigit]

/-- One character. -/
def exactly (c : Char) : Ways Unit
  | [] => []
  | d :: rest => if d = c then [((), rest)] else []

/-- A run of blanks, the longest first. -/
def blanks : Ways Unit
  | [] => []
  | c :: rest => if isBlank c then blanks rest ++ [((), rest)] else []

/-- All ways of reading the six parts. -/
def parts : Ways (Nat × Nat × Nat × Nat × Nat × Nat) := fun text =>
  (year text).flatMap fun (y, rest) =>
  (exactly '-' rest).flatMap fun (_, rest) =>
  (month rest).flatMap fun (mo, rest) =>
  (exactly '-' rest).flatMap fun (_, rest) =>
  (day rest).flatMap fun (d, rest) =>
  (blanks rest).flatMap fun (_, rest) =>
  (hour rest).flatMap fun (h, rest) =>
  (exactly ':' rest).flatMap fun (_, rest) =>
  (minute rest).flatMap fun (mi, rest) =>
  (exactly ':' rest).flatMap fun (_, rest) =>
  (sec rest).map fun (s, rest) => ((y, mo, d, h, mi, s), rest)

end Bound

/-- The time of a schedule bound; an unset, malformed or impossible one has none. -/
def parseBound (text : String) : Option DateTime :=
  match Bound.parts text.toList with
  | ((year, month, day, hour, minute, sec), []) :: _ =>
    DateTime.ofWallTime? ⟨⟨year, month, day⟩, hour, minute, sec, 0⟩ 0
  | _ => none

end FormIntake.Calendar
