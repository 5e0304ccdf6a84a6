/-! # UTF-8

The bytes of a character, one to four of them, as numbers below 256, and the characters of bytes.
-/

namespace FormIntake.Text

/-- The UTF-8 bytes of a character. -/
def utf8Bytes (c : Char) : List Nat :=
  let n := c.toNat
  if n < 0x80 then [n]
  else if n < 0x800 then [0xc0 + n / 0x40, 0x80 + n % 0x40]
  else if n < 0x10000 then [0xe0 + n / 0x1000, 0x80 + n / 0x40 % 0x40, 0x80 + n % 0x40]
  else [0xf0 + n / 0x40000, 0x80 + n / 0x1000 % 0x40, 0x80 + n / 0x40 % 0x40, 0x80 + n % 0x40]

theorem utf8Bytes_lt (c : Char) : ∀ b ∈ utf8Bytes c, b < 256 := by
  have hc : c.toNat < 0x110000 := by
    have := c.valid
    simp only [Char.toNat, UInt32.isValidChar, Nat.isValidChar] at *
    omega
  intro b hb
  simp only [utf8Bytes] at hb
  split at hb
  · simp at hb; omega
  · split at hb
    · simp at hb; omega
    · split at hb
      · simp at hb; omega
      · simp at hb; omega

/-- The number that the bytes of a character give, from their first one on. -/
def utf8Number : List Nat → Nat
  | [] => 0
  | [a] => a
  | a :: more =>
    let lead := if more.length = 1 then a - 0xc0 else if more.length = 2 then a - 0xe0 else a - 0xf0
    more.foldl (fun n b => n * 0x40 + (b - 0x80)) lead

/-- The character that bytes are the UTF-8 of, if there is one. -/
def utf8Char? (bytes : List Nat) : Option Char :=
  let n := utf8Number bytes
  if n.isValidChar && utf8Bytes (Char.ofNat n) == bytes then some (Char.ofNat n) else none

/-- How many bytes the character has that a byte starts. -/
def utf8Size (lead : Nat) : Nat :=
  if lead < 0xc0 then 1 else if lead < 0xe0 then 2 else if lead < 0xf0 then 3 else 4

/-- The characters of bytes, if they are the UTF-8 of some. -/
def decodeUtf8 : List Nat → Option (List Char)
  | [] => some []
  | lead :: more => do
    let size := utf8Size lead - 1
    let ch ← utf8Char? (lead :: more.take size)
    return ch :: (← decodeUtf8 (more.drop size))
  termination_by bytes => bytes.length
  decreasing_by simp only [List.length_drop, List.length_cons]; omega

end FormIntake.Text
