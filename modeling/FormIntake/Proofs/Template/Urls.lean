import Mathlib.Logic.Function.Basic
import FormIntake.Proofs.Text.Percent
import FormIntake.Template.Format

/-! # Values in URLs are read back

The two formats for URLs write every value as unreserved characters and bytes in upper-case hexadecimal
digits (`IsEscaped`).  They are the same but for the spaces: where one has `%20` the other has a plus sign
(`plusForSpace_percentEncode`).  From either the value is read back, so that different values are written
differently, and what is written of two values in a row is what is written of each
(`Format.encode_invertible`). -/

namespace FormIntake

namespace Text

/-! ### Escaped text -/

/-- The hexadecimal digits that bytes are written with. -/
def isUpperHexDigit (c : Char) : Bool := ('0' ≤ c && c ≤ '9') || ('A' ≤ c && c ≤ 'F')

/-- The text consists of unreserved characters and of bytes, each as a percent sign and two upper-case
hexadecimal digits. -/
inductive IsEscaped : List Char → Prop
  | nil : IsEscaped []
  | unreserved {c : Char} {rest : List Char} (hc : isUnreserved c = true) (hrest : IsEscaped rest) :
    IsEscaped (c :: rest)
  | byte {high low : Char} {rest : List Char} (hhigh : isUpperHexDigit high = true)
    (hlow : isUpperHexDigit low = true) (hrest : IsEscaped rest) :
    IsEscaped ('%' :: high :: low :: rest)

theorem IsEscaped.append {text more : List Char} (h : IsEscaped text) (hmore : IsEscaped more) :
    IsEscaped (text ++ more) := by
  induction h with
  | nil => exact hmore
  | unreserved hc _ ih => exact .unreserved hc ih
  | byte hhigh hlow _ ih => exact .byte hhigh hlow ih

theorem isUpperHexDigit_upperHexDigit {d : Nat} (h : d < 16) :
    isUpperHexDigit (upperHexDigit d) = true := by
  have hall : ∀ d < 16, isUpperHexDigit (upperHexDigit d) = true := by decide
  exact hall d h

theorem isEscaped_flatMap_percentByte {bytes : List Nat} (hb : ∀ b ∈ bytes, b < 256) :
    IsEscaped (bytes.flatMap percentByte) := by
  induction bytes with
  | nil => exact .nil
  | cons b rest ih =>
      have hlt := hb b List.mem_cons_self
      rw [List.flatMap_cons, percentByte]
      exact .byte (isUpperHexDigit_upperHexDigit (by omega)) (isUpperHexDigit_upperHexDigit (by omega))
        (ih fun b hm => hb b (List.mem_cons_of_mem _ hm))

theorem isEscaped_percentChar (c : Char) : IsEscaped (percentChar c) := by
  rw [percentChar]
  split
  · next hc => exact .unreserved hc .nil
  · exact isEscaped_flatMap_percentByte (utf8Bytes_lt c)

theorem isEscaped_percentEncode (text : List Char) : IsEscaped (percentEncode text) := by
  induction text with
  | nil => exact .nil
  | cons c rest ih => exact (isEscaped_percentChar c).append ih

/-! ### Spaces -/

/-- The text with a plus sign for each escaped space. -/
def plusForSpace : List Char → List Char
  | '%' :: '2' :: '0' :: rest => '+' :: plusForSpace rest
  | c :: rest => c :: plusForSpace rest
  | [] => []

theorem plusForSpace_cons {c : Char} {rest : List Char}
    (h : ∀ more, c = '%' → rest ≠ '2' :: '0' :: more) :
    plusForSpace (c :: rest) = c :: plusForSpace rest := by
  rw [plusForSpace]
  exact h

theorem plusForSpace_cons_of_isUnreserved {c : Char} (hc : isUnreserved c = true) (rest : List Char) :
    plusForSpace (c :: rest) = c :: plusForSpace rest :=
  plusForSpace_cons fun _ he => absurd he (ne_of_isUnreserved hc).1

/-- Of all bytes only the space becomes a plus sign. -/
theorem plusForSpace_percentByte_append {b : Nat} (hb : b < 256) (hne : b ≠ 0x20) (rest : List Char) :
    plusForSpace (percentByte b ++ rest) = percentByte b ++ plusForSpace rest := by
  obtain ⟨huhigh, -, hvhigh, -⟩ := upperHexDigit_lt (show b / 16 < 16 by omega)
  obtain ⟨hulow, -, hvlow, -⟩ := upperHexDigit_lt (show b % 16 < 16 by omega)
  have hother : ∀ more, '%' = '%' →
      upperHexDigit (b / 16) :: upperHexDigit (b % 16) :: rest ≠ '2' :: '0' :: more := by
    intro more _ he
    simp only [List.cons.injEq] at he
    have hhigh : b / 16 = 2 := by
      rw [← hvhigh, he.1]
      decide
    have hlow : b % 16 = 0 := by
      rw [← hvlow, he.2.1]
      decide
    omega
  rw [percentByte, List.cons_append, List.cons_append, List.cons_append, List.nil_append,
    plusForSpace_cons hother, plusForSpace_cons_of_isUnreserved huhigh,
    plusForSpace_cons_of_isUnreserved hulow]
  rfl

theorem plusForSpace_flatMap_percentByte_append {bytes : List Nat}
    (hb : ∀ b ∈ bytes, b < 256 ∧ b ≠ 0x20) (rest : List Char) :
    plusForSpace (bytes.flatMap percentByte ++ rest) =
      bytes.flatMap percentByte ++ plusForSpace rest := by
  induction bytes with
  | nil => rfl
  | cons b more ih =>
      obtain ⟨hlt, hne⟩ := hb b List.mem_cons_self
      rw [List.flatMap_cons, List.append_assoc, plusForSpace_percentByte_append hlt hne,
        ih fun b hm => hb b (List.mem_cons_of_mem _ hm), List.append_assoc]

/-- The byte of the space occurs in the space only. -/
theorem ne_of_mem_utf8Bytes {c : Char} (hc : c ≠ ' ') : ∀ b ∈ utf8Bytes c, b ≠ 0x20 := by
  have hn : c.toNat ≠ 0x20 := fun h => hc (Char.toNat_inj.mp h)
  intro b hb
  rw [utf8Bytes] at hb
  split at hb
  · simp at hb; omega
  · split at hb
    · simp at hb; omega
    · split at hb
      · simp at hb; omega
      · simp at hb; omega

theorem plusForSpace_percentChar_append (c : Char) (rest : List Char) :
    plusForSpace (percentChar c ++ rest) =
      (if c = ' ' then ['+'] else percentChar c) ++ plusForSpace rest := by
  split
  · next hc =>
    rw [hc]
    rfl
  · next hc =>
    rw [percentChar]
    split
    · next hu => exact plusForSpace_cons_of_isUnreserved hu rest
    · exact plusForSpace_flatMap_percentByte_append
        (fun b hb => ⟨utf8Bytes_lt c b hb, ne_of_mem_utf8Bytes hc b hb⟩) rest

/-- The form encoding is percent-encoding with a plus sign for each escaped space. -/
theorem plusForSpace_percentEncode (text : List Char) :
    plusForSpace (percentEncode text) = formEncode text := by
  induction text with
  | nil => rfl
  | cons c rest ih =>
      rw [percentEncode, List.flatMap_cons, plusForSpace_percentChar_append, formEncode,
        List.flatMap_cons]
      exact congrArg _ ih

end Text

namespace Template.Format

open Text

theorem toList_encode_rawurl (value : String) :
    (rawurl.encode value).toList = percentEncode value.toList := String.toList_ofList

theorem toList_encode_url (value : String) :
    (url.encode value).toList = formEncode value.toList := String.toList_ofList

theorem percentDecode?_encode (value : String) :
    percentDecode? (rawurl.encode value).toList = some value.toList := by
  rw [toList_encode_rawurl, percentDecode?_percentEncode]

theorem formDecode?_encode (value : String) :
    formDecode? (url.encode value).toList = some value.toList := by
  rw [toList_encode_url, formDecode?_formEncode]

/-- What is written can be read back, so nothing else is written in the same way. -/
theorem injective_of_decode {encode : String → String} {decode : List Char → Option (List Char)}
    (h : ∀ value, decode (encode value).toList = some value.toList) : Function.Injective encode := by
  intro value other he
  have hsame := h value
  rw [he, h other] at hsame
  exact (String.toList_inj.mp (Option.some.inj hsame)).symm

/-- In URLs a value is written as escaped text, from which it is read back by percent-decoding; or else
with a plus sign in the place of each escaped space, and is read back with spaces for plus signs.  So both
ways different values are written differently, and two values in a row are written one after the other. -/
theorem encode_invertible :
    (∀ value : String, IsEscaped (rawurl.encode value).toList ∧
      percentDecode? (rawurl.encode value).toList = some value.toList ∧
      (url.encode value).toList = plusForSpace (rawurl.encode value).toList ∧
      formDecode? (url.encode value).toList = some value.toList) ∧
    Function.Injective rawurl.encode ∧ Function.Injective url.encode ∧
    ∀ value more : String, rawurl.encode (value ++ more) = rawurl.encode value ++ rawurl.encode more ∧
      url.encode (value ++ more) = url.encode value ++ url.encode more := by
  refine ⟨fun value => ⟨?_, percentDecode?_encode value, ?_, formDecode?_encode value⟩,
    injective_of_decode percentDecode?_encode, injective_of_decode formDecode?_encode,
    fun value more => ⟨?_, ?_⟩⟩
  · rw [toList_encode_rawurl]
    exact isEscaped_percentEncode value.toList
  · rw [toList_encode_url, toList_encode_rawurl, plusForSpace_percentEncode]
  · rw [← String.toList_inj, String.toList_append, toList_encode_rawurl, toList_encode_rawurl,
      toList_encode_rawurl, String.toList_append, percentEncode_append]
  · rw [← String.toList_inj, String.toList_append, toList_encode_url, toList_encode_url,
      toList_encode_url, String.toList_append, formEncode_append]

example : rawurl.encode "Ann & Bo: 20%" = "Ann%20%26%20Bo%3A%2020%25" := by decide +kernel
example : url.encode "Ann & Bo: 20%" = "Ann+%26+Bo%3A+20%25" := by decide +kernel

end Template.Format
end FormIntake
