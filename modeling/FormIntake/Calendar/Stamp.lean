import FormIntake.Calendar.DateTime
import FormIntake.Number.Binary64
import FormIntake.Number.Natural

/-! # Time stamps

Names made of the time: eight hexadecimal digits for the seconds since 1970 and five for the
microseconds of the second.  Before 2106 their order is that of time.
-/

namespace FormIntake.Calendar

open Number

/-- The whole seconds since 1970, of the time as a fraction in double precision. -/
def DateTime.seconds (t : DateTime) : Int :=
  ((Binary64.ofRatio (t.sinceEpoch < 0) t.sinceEpoch.natAbs second).truncate?).getD 0

/-- The microseconds of the second that the clock shows. -/
def DateTime.microsecond (t : DateTime) : Nat := t.wall % second

/-- A whole number in hexadecimal digits of a fixed width, of which a sign takes one. -/
def signedHex (width : Nat) (n : Int) : List Char :=
  if n < 0 then '-' :: paddedHex (width - 1) n.natAbs else paddedHex width n.natAbs

/-- The time as a name. -/
def DateTime.stamp (t : DateTime) : List Char :=
  signedHex 8 t.seconds ++ paddedHex 5 t.microsecond

end FormIntake.Calendar
