import Mathlib.Data.List.Nodup
import FormIntake.Json.Printer
import FormIntake.Json.Reader

/-! # Texts that are read back

What is written of texts can be read again: a text between its quotes (`Json.readText_writeText`), a
list of texts (`Json.parse_print_texts`), and a mapping from texts to texts that holds no key twice
(`Json.parse_print_entries`).  The texts may hold any characters.

The lemmas about a part of a document say what is read of it in front of any further text. -/

namespace FormIntake

/-! ### Mappings -/

namespace Assoc

variable {α β : Type} [DecidableEq α]

theorem put_eq_append {key : α} {value : β} : ∀ {entries : List (α × β)},
    key ∉ entries.map Prod.fst → put key value entries = entries ++ [(key, value)]
  | [], _ => rfl
  | (k, v) :: rest, h => by
    rw [List.map_cons, List.mem_cons, not_or] at h
    rw [put, if_neg (Ne.symm h.1), put_eq_append h.2, List.cons_append]

theorem foldl_put_eq_append : ∀ {entries acc : List (α × β)},
    ((acc ++ entries).map Prod.fst).Nodup →
      entries.foldl (fun acc e => put e.1 e.2 acc) acc = acc ++ entries
  | [], acc, _ => by rw [List.foldl_nil, List.append_nil]
  | (k, v) :: rest, acc, h => by
    have hk : k ∉ acc.map Prod.fst := by
      rw [List.map_append, List.nodup_append] at h
      exact fun hm => h.2.2 k hm k List.mem_cons_self rfl
    have happ : acc ++ (k, v) :: rest = (acc ++ [(k, v)]) ++ rest := by simp
    rw [List.foldl_cons, put_eq_append hk, happ]
    rw [happ] at h
    exact foldl_put_eq_append h

/-- Entries without a key that occurs twice are a mapping as they are. -/
theorem ofList_eq_self {entries : List (α × β)} (h : (entries.map Prod.fst).Nodup) :
    ofList entries = entries := foldl_put_eq_append (by simpa using h)

theorem put_ne_nil (key : α) (value : β) (entries : List (α × β)) :
    put key value entries ≠ [] := by
  cases entries with
  | nil => simp [put]
  | cons e rest =>
      unfold put
      split <;> simp

theorem ofList_eq_nil {entries : List (α × β)} : ofList entries = [] ↔ entries = [] := by
  have hfold : ∀ entries acc : List (α × β),
      entries.foldl (fun acc e => put e.1 e.2 acc) acc = [] → acc = [] ∧ entries = [] := by
    intro entries
    induction entries with
    | nil => exact fun acc h => ⟨h, rfl⟩
    | cons e rest ih => exact fun acc h => absurd (ih _ h).1 (put_ne_nil _ _ _)
  refine ⟨fun h => (hfold entries [] h).2, ?_⟩
  rintro rfl
  rfl

end Assoc

namespace Json

open Number Text

/-! ### One text -/

/-- Characters are no halves, so joining their code points gives them back. -/
theorem joinUnits_map_toNat : ∀ text : List Char, joinUnits (text.map Char.toNat) = text
  | [] => rfl
  | [c] => by
    have hc : ¬ (0xd800 ≤ c.toNat ∧ c.toNat ≤ 0xdfff) := by
      have hv : c.toNat < 0xd800 ∨ 0xdfff < c.toNat ∧ c.toNat < 0x110000 := c.valid
      omega
    simp [joinUnits, hc]
  | c :: d :: rest => by
    have hc : ¬ (0xd800 ≤ c.toNat ∧ c.toNat ≤ 0xdfff) := by
      have hv : c.toNat < 0xd800 ∨ 0xdfff < c.toNat ∧ c.toNat < 0x110000 := c.valid
      omega
    have hpair : ¬ (((0xd800 ≤ c.toNat ∧ c.toNat ≤ 0xdbff) ∧ 0xdc00 ≤ d.toNat) ∧
        d.toNat ≤ 0xdfff) := by omega
    have ih := joinUnits_map_toNat (d :: rest)
    rw [List.map_cons] at ih
    simp [joinUnits, hc, hpair, ih]

/-- The four digits of a control character stand for it. -/
theorem readHex_paddedHex : ∀ n < 0x20, ∃ a b c d, paddedHex 4 n = [a, b, c, d] ∧
    [a, b, c, d].all isHexDigit = true ∧ readHex [a, b, c, d] = n := by
  have hfour : ∀ n < 0x20, (paddedHex 4 n).length = 4 ∧ (paddedHex 4 n).all isHexDigit = true ∧
      readHex (paddedHex 4 n) = n := by decide
  intro n hn
  obtain ⟨hl, hd, hr⟩ := hfour n hn
  match hp : paddedHex 4 n, hl with
  | [a, b, c, d], _ => exact ⟨a, b, c, d, rfl, hp ▸ hd, hp ▸ hr⟩

theorem readUnits_escapeChar (c : Char) {text after : List Char} {units : List Nat}
    (h : readUnits text = .ok (units, after)) (hne : text ≠ []) :
    readUnits (escapeChar c ++ text) = .ok (c.toNat :: units, after) := by
  by_cases hnamed : c ∈ ['"', '\\', '\n', '\r', '\t', '\x0c', '\x08']
  · simp only [List.mem_cons, List.not_mem_nil, or_false] at hnamed
    rcases hnamed with rfl | rfl | rfl | rfl | rfl | rfl | rfl <;>
      simp [escapeChar, readUnits, escaped?, h, Except.map]
  simp only [List.mem_cons, List.not_mem_nil, or_false, not_or] at hnamed
  obtain ⟨hquote, hslash, hfeed, hreturn, htab, hform, hback⟩ := hnamed
  by_cases hcontrol : c.toNat < 0x20
  · obtain ⟨x, y, z, w, hp, hd, hr⟩ := readHex_paddedHex c.toNat hcontrol
    have hsome : text.isEmpty = false := by simpa using hne
    have he : escapeChar c = ['\\', 'u', x, y, z, w] := by
      simp [escapeChar, hquote, hslash, hfeed, hreturn, htab, hform, hback, hcontrol, hp]
    rw [he]
    simp [readUnits, hd, hsome, hr, h, Except.map]
  · have he : escapeChar c = [c] := by
      simp [escapeChar, hquote, hslash, hfeed, hreturn, htab, hform, hback, hcontrol]
    rw [he]
    simp [readUnits, hslash, hcontrol, h, Except.map]

theorem readUnits_escape (after : List Char) : ∀ text : List Char,
    readUnits (escape text ++ '"' :: after) = .ok (text.map Char.toNat, after)
  | [] => rfl
  | c :: rest => by
    have hcons : escape (c :: rest) ++ '"' :: after = escapeChar c ++ (escape rest ++ '"' :: after) := by
      rw [escape, List.flatMap_cons, List.append_assoc, ← escape]
    rw [hcons, readUnits_escapeChar c (readUnits_escape after rest) (by simp)]
    rfl

/-- A text is read up to its closing quote as it was written. -/
theorem readText_writeText (text : String) (after : List Char) :
    readText (escape text.toList ++ '"' :: after) = .ok (text, after) := by
  rw [readText, readUnits_escape]
  simp [Except.map, joinUnits_map_toNat]

/-! ### Lists and mappings of texts -/

theorem readValue_writeText (text : String) (after : List Char) (fuel : Nat) :
    readValue (fuel + 1) (writeText text ++ after) = .ok (.text text, after) := by
  have happ : writeText text ++ after = '"' :: (escape text.toList ++ '"' :: after) := by
    simp [writeText]
  rw [happ, readValue, readText_writeText]
  rfl

theorem exists_writeItems (text : String) (rest : List String) (after : List Char) :
    ∃ chars, writeItems ((text :: rest).map .text) ++ after = '"' :: chars := by
  cases rest <;> simp [writeItems, write, writeScalar, writeText]

/-- Texts in a list are read up to the closing bracket as they were written. -/
theorem readItems_writeItems (after : List Char) : ∀ (text : String) (rest : List String) (fuel : Nat),
    rest.length < fuel →
      readItems (fuel + 1) (writeItems ((text :: rest).map .text) ++ ']' :: after) =
        .ok ((text :: rest).map .text, after)
  | text, [], fuel + 1, _ => by
    rw [List.map_cons, List.map_nil, writeItems, write, writeScalar, readItems, readValue_writeText]
    rfl
  | text, next :: rest, fuel + 1, h => by
    have happ : writeItems ((text :: next :: rest).map Value.text) ++ ']' :: after =
        writeText text ++ ',' :: ' ' :: (writeItems ((next :: rest).map .text) ++ ']' :: after) := by
      simp [writeItems, write, writeScalar]
    have ih := readItems_writeItems after next rest fuel (by simpa using h)
    obtain ⟨chars, hc⟩ := exists_writeItems next rest (']' :: after)
    rw [hc] at ih
    rw [happ, readItems, readValue_writeText, hc]
    show (readItems (fuel + 1) ('"' :: chars) >>= _) = _
    rw [ih]
    rfl

/-- A text as the value under a key. -/
def textEntry (entry : String × String) : Scalar × Value := (.text entry.1, .text entry.2)

theorem exists_writeEntries (entry : String × String) (rest : List (String × String))
    (after : List Char) :
    ∃ chars, writeEntries ((entry :: rest).map textEntry) ++ after = '"' :: chars := by
  cases rest <;> simp [writeEntries, textEntry, writeKey, writeText]

/-- Texts in a mapping are read up to the closing brace as they were written. -/
theorem readEntries_writeEntries (after : List Char) :
    ∀ (entry : String × String) (rest : List (String × String)) (fuel : Nat), rest.length < fuel →
      readEntries (fuel + 1) (writeEntries ((entry :: rest).map textEntry) ++ '\x7d' :: after) =
        .ok ((entry :: rest).map textEntry, after)
  | (key, text), [], fuel + 1, _ => by
    have happ : writeEntries ([(key, text)].map textEntry) ++ '\x7d' :: after =
        '"' :: (escape key.toList ++ '"' :: ':' :: ' ' :: (writeText text ++ '\x7d' :: after)) := by
      simp [writeEntries, textEntry, writeKey, write, writeScalar, writeText]
    rw [happ, readEntries, readText_writeText]
    show (readValue (fuel + 1) (writeText text ++ '\x7d' :: after) >>= _) = _
    rw [readValue_writeText]
    rfl
  | (key, text), next :: rest, fuel + 1, h => by
    have happ : writeEntries (((key, text) :: next :: rest).map textEntry) ++ '\x7d' :: after =
        '"' :: (escape key.toList ++ '"' :: ':' :: ' ' :: (writeText text ++
          ',' :: ' ' :: (writeEntries ((next :: rest).map textEntry) ++ '\x7d' :: after))) := by
      simp [writeEntries, textEntry, writeKey, write, writeScalar, writeText]
    have ih := readEntries_writeEntries after next rest fuel (by simpa using h)
    obtain ⟨chars, hc⟩ := exists_writeEntries next rest ('\x7d' :: after)
    rw [hc] at ih
    rw [happ, readEntries, readText_writeText, hc]
    show (readValue (fuel + 1) (writeText text ++ ',' :: ' ' :: '"' :: chars) >>= _) = _
    rw [readValue_writeText]
    show (readEntries (fuel + 1) ('"' :: chars) >>= _) = _
    rw [ih]
    rfl

/-! ### Documents -/

theorem length_le_writeItems : ∀ texts : List String,
    texts.length ≤ (writeItems (texts.map .text)).length
  | [] => Nat.zero_le _
  | [text] => by simp [writeItems, write, writeScalar, writeText]
  | text :: next :: rest => by
    have ih := length_le_writeItems (next :: rest)
    simp only [List.map_cons, writeItems, List.length_append, List.length_cons] at ih ⊢
    omega

theorem length_le_writeEntries : ∀ entries : List (String × String),
    entries.length ≤ (writeEntries (entries.map textEntry)).length
  | [] => Nat.zero_le _
  | [entry] => by simp [writeEntries, textEntry, writeKey, writeText]
  | entry :: next :: rest => by
    have ih := length_le_writeEntries (next :: rest)
    simp only [List.map_cons, writeEntries, List.length_append, List.length_cons] at ih ⊢
    omega

/-- A document is what is read of it, if nothing stands before or behind that. -/
theorem parse_print_of_readValue {value : Value} {first : Char} {chars : List Char}
    (hw : write value = first :: chars) (hs : isSpace first = false) (hb : first ≠ '\ufeff')
    (h : readValue (2 * chars.length + 4) (first :: chars) = .ok (value, [])) :
    parse (print value) = .ok value := by
  have hskip : skipSpace (first :: chars) = first :: chars := by simp [skipSpace, hs]
  have hfuel : 2 * (first :: chars).length + 2 = 2 * chars.length + 4 := by
    rw [List.length_cons]; omega
  rw [parse, print, String.toList_ofList, hw]
  split
  · next he => exact absurd (List.cons.inj he).1 hb
  · rw [hskip, hfuel, h]
    rfl

/-- A list of texts is read back as it was written. -/
theorem parse_print_texts (texts : List String) :
    parse (print (.list (texts.map .text))) = .ok (.list (texts.map .text)) := by
  have hw : write (.list (texts.map .text)) = '[' :: (writeItems (texts.map .text) ++ [']']) := by
    rw [write, List.cons_append]
  refine parse_print_of_readValue hw (by decide) (by decide) ?_
  cases texts with
  | nil => rfl
  | cons text rest =>
      have hl := length_le_writeItems (text :: rest)
      have hfuel : rest.length < 2 * (writeItems ((text :: rest).map .text) ++ [']']).length + 2 := by
        simp only [List.length_cons, List.length_append, List.length_nil] at hl ⊢
        omega
      have hread := readItems_writeItems [] text rest _ hfuel
      obtain ⟨chars, hc⟩ := exists_writeItems text rest [']']
      rw [hc] at hread ⊢
      rw [readValue]
      show (readItems (2 * ('"' :: chars).length + 2 + 1) ('"' :: chars) >>= _) = _
      rw [hread]
      rfl

/-- A mapping from texts to texts that holds no key twice is read back as it was written. -/
theorem parse_print_entries {entries : List (String × String)} (h : (entries.map Prod.fst).Nodup) :
    parse (print (.mapping (entries.map textEntry))) = .ok (.mapping (entries.map textEntry)) := by
  have hw : write (.mapping (entries.map textEntry)) =
      '\x7b' :: (writeEntries (entries.map textEntry) ++ ['\x7d']) := by
    rw [write, List.cons_append]
  refine parse_print_of_readValue hw (by decide) (by decide) ?_
  cases entries with
  | nil => rfl
  | cons entry rest =>
      have hl := length_le_writeEntries (entry :: rest)
      have hfuel : rest.length < 2 * (writeEntries ((entry :: rest).map textEntry) ++ ['\x7d']).length + 2 := by
        simp only [List.length_cons, List.length_append, List.length_nil] at hl ⊢
        omega
      have hkeys : (((entry :: rest).map textEntry).map Prod.fst).Nodup := by
        have hmap : ((entry :: rest).map textEntry).map Prod.fst =
            ((entry :: rest).map Prod.fst).map Scalar.text := by
          rw [List.map_map, List.map_map]
          rfl
        rw [hmap]
        exact h.map fun a b => Scalar.text.inj
      have hread := readEntries_writeEntries [] entry rest _ hfuel
      obtain ⟨chars, hc⟩ := exists_writeEntries entry rest ['\x7d']
      rw [hc] at hread ⊢
      rw [readValue]
      show (readEntries (2 * ('"' :: chars).length + 2 + 1) ('"' :: chars) >>= _) = _
      rw [hread]
      show Except.ok (Value.ofEntries _, ([] : List Char)) = _
      rw [Value.ofEntries, Assoc.ofList_eq_self hkeys]

end Json
end FormIntake
