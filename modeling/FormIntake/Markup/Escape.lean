/-! # Escaping text for markup

The five characters with a meaning in markup are written as references, and every other character
as itself.  `unescape` reads back exactly those references (`unescape_escape`), and an escaped text
holds none of the characters that open or close a tag or an attribute (`not_mem_escape`).
-/

namespace FormIntake.Markup

/-- One character of an escaped text. -/
def escapeChar (c : Char) : List Char :=
  if c = '&' then "&amp;".toList
  else if c = '<' then "&lt;".toList
  else if c = '>' then "&gt;".toList
  else if c = '\'' then "&#39;".toList
  else if c = '"' then "&#34;".toList
  else [c]

/-- The text with its special characters escaped. -/
def escape (text : List Char) : List Char := text.flatMap escapeChar

def escaped (text : String) : String := String.ofList (escape text.toList)

/-- The text with the five references read back. -/
def unescape : List Char → List Char
  | '&' :: 'a' :: 'm' :: 'p' :: ';' :: rest => '&' :: unescape rest
  | '&' :: 'l' :: 't' :: ';' :: rest => '<' :: unescape rest
  | '&' :: 'g' :: 't' :: ';' :: rest => '>' :: unescape rest
  | '&' :: '#' :: '3' :: '9' :: ';' :: rest => '\'' :: unescape rest
  | '&' :: '#' :: '3' :: '4' :: ';' :: rest => '"' :: unescape rest
  | c :: rest => c :: unescape rest
  | [] => []

theorem escape_cons (c : Char) (text : List Char) :
    escape (c :: text) = escapeChar c ++ escape text := by simp [escape]

theorem unescape_escape (text : List Char) : unescape (escape text) = text := by
  induction text with
  | nil => rfl
  | cons c rest ih =>
    rw [escape_cons, escapeChar]
    split
    · simp [unescape, *]
    · split
      · simp [unescape, *]
      · split
        · simp [unescape, *]
        · split
          · simp [unescape, *]
          · split
            · simp [unescape, *]
            · rw [List.singleton_append, unescape]
              · rw [ih]
              all_goals simp_all

/-- The characters that open or close a tag or an attribute. -/
def isSpecial (c : Char) : Bool := c = '<' || c = '>' || c = '"' || c = '\''

theorem not_mem_escape {c : Char} (h : isSpecial c = true) (text : List Char) :
    c ∉ escape text := by
  simp only [escape, List.mem_flatMap, not_exists, not_and]
  intro d _ hd
  simp only [isSpecial, Bool.or_eq_true, decide_eq_true_eq] at h
  rcases h with ((h | h) | h) | h <;> subst h <;> rw [escapeChar] at hd <;>
    (repeat' split at hd) <;> simp at hd <;> subst hd <;> contradiction

end FormIntake.Markup
