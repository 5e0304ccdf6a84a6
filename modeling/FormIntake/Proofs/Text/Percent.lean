import FormIntake.Text.Percent
import FormIntake.Text.Ranges

/-! # Percent-decoding

Percent-encoded text is read back by its bytes (`escapedBytes?`), which are the UTF-8 of the text:
`percentDecode?_percentEncode` and `formDecode?_formEncode`.  What is written consists of unreserved
characters and percent signs, in the form encoding also of plus signs (`isUnreserved_of_percentEncode`,
`isUnreserved_of_formEncode`). -/

namespace FormIntake.Text

/-! ### UTF-8 -/

theorem utf8Number_utf8Bytes (c : Char) : utf8Number (utf8Bytes c) = c.toNat := by
  simp only [utf8Bytes]
  split
  · rfl
  · split
    · simp [utf8Number]
      omega
    · split
      · simp [utf8Number]
        omega
      · simp [utf8Number]
        omega

theorem utf8Char?_utf8Bytes (c : Char) : utf8Char? (utf8Bytes c) = some c := by
  have hv : c.toNat.isValidChar := c.valid
  rw [utf8Char?, utf8Number_utf8Bytes, Char.ofNat_toNat]
  simp [hv]

/-- The first byte of a character tells how many bytes it has. -/
theorem exists_utf8Bytes (c : Char) :
    ∃ lead more, utf8Bytes c = lead :: more ∧ more.length = utf8Size lead - 1 := by
  have hv := c.valid
  simp only [UInt32.isValidChar, Nat.isValidChar] at hv
  have hc : c.toNat < 0x110000 := by
    simp only [Char.toNat]
    omega
  simp only [utf8Bytes]
  split
  · refine ⟨_, _, rfl, ?_⟩
    rw [utf8Size, if_pos (by omega)]
    rfl
  · split
    · refine ⟨_, _, rfl, ?_⟩
      rw [utf8Size, if_neg (by omega), if_pos (by omega)]
      rfl
    · split
      · refine ⟨_, _, rfl, ?_⟩
        rw [utf8Size, if_neg (by omega), if_neg (by omega), if_pos (by omega)]
        rfl
      · refine ⟨_, _, rfl, ?_⟩
        rw [utf8Size, if_neg (by omega), if_neg (by omega), if_neg (by omega)]
        rfl

theorem decodeUtf8_utf8Bytes_append (c : Char) (bytes : List Nat) :
    decodeUtf8 (utf8Bytes c ++ bytes) = (c :: ·) <$> decodeUtf8 bytes := by
  obtain ⟨lead, more, hb, hl⟩ := exists_utf8Bytes c
  have hc := utf8Char?_utf8Bytes c
  rw [hb] at hc
  rw [hb, List.cons_append, decodeUtf8, ← hl, List.take_left, List.drop_left, hc]
  cases decodeUtf8 bytes <;> rfl

/-- The bytes of a text are read back. -/
theorem decodeUtf8_flatMap (text : List Char) : decodeUtf8 (text.flatMap utf8Bytes) = some text := by
  induction text with
  | nil => rw [List.flatMap_nil, decodeUtf8]
  | cons c rest ih =>
      rw [List.flatMap_cons, decodeUtf8_utf8Bytes_append, ih, Option.map_eq_map, Option.map_some]

/-! ### Reading -/

/-- The bytes that percent-encoded text stands for.  A percent sign has two hexadecimal digits behind
it; every other character stands for itself. -/
def escapedBytes? : List Char → Option (List Nat)
  | [] => some []
  | '%' :: high :: low :: rest =>
    if isHexDigit high && isHexDigit low then (readHex [high, low] :: ·) <$> escapedBytes? rest
    else none
  | c :: rest => if c = '%' then none else (utf8Bytes c ++ ·) <$> escapedBytes? rest

/-- The text that was percent-encoded. -/
def percentDecode? (text : List Char) : Option (List Char) := (escapedBytes? text).bind decodeUtf8

/-- The text that was percent-encoded with a plus sign for each space. -/
def formDecode? (text : List Char) : Option (List Char) :=
  percentDecode? (text.map fun c => if c = '+' then ' ' else c)

theorem upperHexDigit_lt {d : Nat} (h : d < 16) : isUnreserved (upperHexDigit d) = true ∧
    isHexDigit (upperHexDigit d) = true ∧ hexValue (upperHexDigit d) = d ∧ upperHexDigit d ≠ '+' := by
  have hall : ∀ d < 16, isUnreserved (upperHexDigit d) = true ∧
      isHexDigit (upperHexDigit d) = true ∧ hexValue (upperHexDigit d) = d ∧
      upperHexDigit d ≠ '+' := by decide
  exact hall d h

theorem escapedBytes?_percentByte_append {b : Nat} (hb : b < 256) (rest : List Char) :
    escapedBytes? (percentByte b ++ rest) = (b :: ·) <$> escapedBytes? rest := by
  obtain ⟨-, hhigh, hvhigh, -⟩ := upperHexDigit_lt (show b / 16 < 16 by omega)
  obtain ⟨-, hlow, hvlow, -⟩ := upperHexDigit_lt (show b % 16 < 16 by omega)
  have hn : readHex [upperHexDigit (b / 16), upperHexDigit (b % 16)] = b := by
    simp only [readHex, List.foldl_cons, List.foldl_nil, hvhigh, hvlow]
    omega
  rw [percentByte, List.cons_append, List.cons_append, List.cons_append, List.nil_append,
    escapedBytes?, hhigh, hlow, hn]
  rfl

theorem escapedBytes?_flatMap_percentByte_append {bytes : List Nat} (hb : ∀ b ∈ bytes, b < 256)
    (rest : List Char) :
    escapedBytes? (bytes.flatMap percentByte ++ rest) = (bytes ++ ·) <$> escapedBytes? rest := by
  induction bytes with
  | nil => simp
  | cons b bytes ih =>
      rw [List.flatMap_cons, List.append_assoc,
        escapedBytes?_percentByte_append (hb b List.mem_cons_self),
        ih fun b hm => hb b (List.mem_cons_of_mem _ hm)]
      cases escapedBytes? rest <;> rfl

theorem escapedBytes?_cons {c : Char} (hc : c ≠ '%') (rest : List Char) :
    escapedBytes? (c :: rest) = (utf8Bytes c ++ ·) <$> escapedBytes? rest := by
  rw [escapedBytes?, if_neg hc]
  rintro high low more rfl
  exact absurd rfl hc

theorem ne_of_isUnreserved {c : Char} (h : isUnreserved c = true) : c ≠ '%' ∧ c ≠ '+' := by
  constructor <;> rintro rfl <;> exact absurd h (by decide)

theorem escapedBytes?_percentChar_append (c : Char) (rest : List Char) :
    escapedBytes? (percentChar c ++ rest) = (utf8Bytes c ++ ·) <$> escapedBytes? rest := by
  rw [percentChar]
  split
  · next h => exact escapedBytes?_cons (ne_of_isUnreserved h).1 rest
  · exact escapedBytes?_flatMap_percentByte_append (utf8Bytes_lt c) rest

/-- Percent-encoded text is read back. -/
theorem percentDecode?_percentEncode (text : List Char) :
    percentDecode? (percentEncode text) = some text := by
  have hb : escapedBytes? (percentEncode text) = some (text.flatMap utf8Bytes) := by
    rw [percentEncode]
    induction text with
    | nil => rfl
    | cons c rest ih =>
        rw [List.flatMap_cons, escapedBytes?_percentChar_append, ih]
        rfl
  rw [percentDecode?, hb, Option.bind_some, decodeUtf8_flatMap]

/-! ### What is written -/

theorem isUnreserved_of_percentChar {c d : Char} (h : d ∈ percentChar c) :
    isUnreserved d = true ∨ d = '%' := by
  rw [percentChar] at h
  split at h
  · next hc => exact .inl (List.mem_singleton.mp h ▸ hc)
  · obtain ⟨b, hb, hd⟩ := List.mem_flatMap.mp h
    have hlt := utf8Bytes_lt c b hb
    simp only [percentByte, List.mem_cons, List.not_mem_nil, or_false] at hd
    rcases hd with rfl | rfl | rfl
    · exact .inr rfl
    · exact .inl (upperHexDigit_lt (by omega)).1
    · exact .inl (upperHexDigit_lt (by omega)).1

theorem isUnreserved_of_percentEncode {text : List Char} {d : Char} (h : d ∈ percentEncode text) :
    isUnreserved d = true ∨ d = '%' := by
  obtain ⟨c, -, hd⟩ := List.mem_flatMap.mp h
  exact isUnreserved_of_percentChar hd

theorem isUnreserved_of_formEncode {text : List Char} {d : Char} (h : d ∈ formEncode text) :
    isUnreserved d = true ∨ d = '%' ∨ d = '+' := by
  obtain ⟨c, -, hd⟩ := List.mem_flatMap.mp h
  split at hd
  · exact .inr (.inr (List.mem_singleton.mp hd))
  · exact (isUnreserved_of_percentChar hd).imp_right .inl

/-- No plus sign is written for a character that is no space. -/
theorem map_percentChar (c : Char) :
    (percentChar c).map (fun d => if d = '+' then ' ' else d) = percentChar c := by
  have hne : ∀ d ∈ percentChar c, (if d = '+' then ' ' else d) = d := by
    intro d hd
    rcases isUnreserved_of_percentChar hd with hd | rfl
    · rw [if_neg (ne_of_isUnreserved hd).2]
    · rfl
  rw [List.map_congr_left hne, List.map_id']

/-- Text in the form encoding is read back. -/
theorem formDecode?_formEncode (text : List Char) : formDecode? (formEncode text) = some text := by
  have hb : escapedBytes? ((formEncode text).map fun c => if c = '+' then ' ' else c) =
      some (text.flatMap utf8Bytes) := by
    rw [formEncode]
    induction text with
    | nil => rfl
    | cons c rest ih =>
        rw [List.flatMap_cons, List.flatMap_cons, List.map_append]
        split
        · next hc =>
          rw [List.map_singleton, if_pos rfl, List.singleton_append,
            escapedBytes?_cons (by decide), ih, hc]
          rfl
        · rw [map_percentChar, escapedBytes?_percentChar_append, ih]
          rfl
  rw [formDecode?, percentDecode?, hb, Option.bind_some, decodeUtf8_flatMap]

end FormIntake.Text
