/-! # Code units

Escapes may give a character in two halves, each a number of its own.
-/

namespace FormIntake.Text

/-- The characters of code units: a high and a low half make one character, and a half without its
partner becomes the replacement character. -/
def joinUnits : List Nat → List Char
  | [] => []
  | high :: low :: rest =>
    if 0xd800 ≤ high && high ≤ 0xdbff && 0xdc00 ≤ low && low ≤ 0xdfff then
      Char.ofNat (0x10000 + (high - 0xd800) * 0x400 + (low - 0xdc00)) :: joinUnits rest
    else if 0xd800 ≤ high && high ≤ 0xdfff then '\ufffd' :: joinUnits (low :: rest)
    else Char.ofNat high :: joinUnits (low :: rest)
  | [unit] => if 0xd800 ≤ unit && unit ≤ 0xdfff then ['\ufffd'] else [Char.ofNat unit]

end FormIntake.Text
