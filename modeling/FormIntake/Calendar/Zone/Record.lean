/-! # Zone records

A zone as it is kept in the tables: its clocks as `name offset` separated by commas; its changes
since 1970 as words, the first one the number of the clock at that time and each later one the
seconds since the change before, in hexadecimal, and the number of the clock after it; and the rule
after the last change.
-/

namespace FormIntake.Calendar

structure ZoneRecord where
  name : String
  kinds : String
  changes : String
  rule : String

end FormIntake.Calendar
