import FormIntake.Value.Basic
import FormIntake.Text.Split

/-! # References to the environment

Texts of a definition may refer to variables of the environment: a dollar sign and, between braces,
a name of upper-case letters, digits and underscores, with a fallback after `:-` if one is written.
`spans` cuts a text into references and the characters between them (`source_spans`), and a
reference becomes the variable's value, else its fallback, else itself.  What a reference becomes
is not searched again.
-/

namespace FormIntake.Installation

/-- The variables that are set. -/
abbrev Environment := List (String × String)

structure Reference where
  name : List Char
  fallback : Option (List Char)
  deriving DecidableEq, Repr

namespace Reference

def isNameStart (c : Char) : Bool := ('A' ≤ c && c ≤ 'Z') || c = '_'

def isNameChar (c : Char) : Bool := isNameStart c || ('0' ≤ c && c ≤ '9')

/-- A fallback as it is written. -/
def fallbackSource : Option (List Char) → List Char
  | none => []
  | some text => ':' :: '-' :: text

/-- The reference as it is written. -/
def source (r : Reference) : List Char :=
  ['$', '\x7b'] ++ r.name ++ fallbackSource r.fallback ++ ['\x7d']

/-- The text up to the first closing brace and the text after it. -/
def untilClose : List Char → Option (List Char × List Char)
  | [] => none
  | c :: rest =>
    if c = '\x7d' then some ([], rest)
    else (untilClose rest).map fun (text, after) => (c :: text, after)

/-- The end of a reference after its name: a closing brace, or a fallback and a closing brace. -/
def readEnd : List Char → Option (Option (List Char) × List Char)
  | '\x7d' :: rest => some (none, rest)
  | ':' :: '-' :: rest => (untilClose rest).map fun (text, after) => (some text, after)
  | _ => none

/-- A reference after its dollar sign, and the text after it. -/
def read : List Char → Option (Reference × List Char)
  | '\x7b' :: first :: rest =>
    if isNameStart first then
      (readEnd (rest.dropWhile isNameChar)).map fun (fallback, after) =>
        (⟨first :: rest.takeWhile isNameChar, fallback⟩, after)
    else none
  | _ => none

theorem untilClose_eq {text before after : List Char} (h : untilClose text = some (before, after)) :
    text = before ++ '\x7d' :: after := by
  induction text generalizing before after with
  | nil => simp [untilClose] at h
  | cons c rest ih =>
    simp only [untilClose] at h
    split at h
    · next hc => simp only [Option.some.injEq, Prod.mk.injEq] at h; simp [← h.1, ← h.2, hc]
    · simp only [Option.map_eq_some_iff] at h
      obtain ⟨⟨b, a⟩, hb, he⟩ := h
      simp only [Prod.mk.injEq] at he
      rw [ih hb, ← he.1, ← he.2]; simp

theorem readEnd_eq {text after : List Char} {fallback : Option (List Char)}
    (h : readEnd text = some (fallback, after)) :
    text = fallbackSource fallback ++ '\x7d' :: after := by
  unfold readEnd at h
  split at h
  · cases h; rfl
  · simp only [Option.map_eq_some_iff] at h
    obtain ⟨⟨b, a⟩, hb, he⟩ := h
    simp only [Prod.mk.injEq] at he
    rw [untilClose_eq hb, ← he.1, ← he.2]; simp [fallbackSource]
  · cases h

/-- Reading takes the source of the reference off the text. -/
theorem read_eq {text after : List Char} {r : Reference} (h : read text = some (r, after)) :
    '$' :: text = r.source ++ after := by
  unfold read at h
  split at h
  · next first rest =>
    split at h
    · simp only [Option.map_eq_some_iff] at h
      obtain ⟨⟨fallback, tail⟩, he, hr⟩ := h
      simp only [Prod.mk.injEq] at hr
      obtain ⟨rfl, rfl⟩ := hr
      have hend := readEnd_eq he
      have hsplit := List.takeWhile_append_dropWhile (p := isNameChar) (l := rest)
      rw [hend] at hsplit
      conv => lhs; rw [← hsplit]
      simp [source]
    · cases h
  · cases h

/-- What the reference becomes. -/
def resolve (env : Environment) (r : Reference) : List Char :=
  match env.lookup (String.ofList r.name) with
  | some value => value.toList
  | none => r.fallback.getD r.source

end Reference

/-- A piece of a text: a reference, or a character outside of references. -/
inductive Span where
  | char (c : Char)
  | reference (r : Reference)
  deriving DecidableEq, Repr

namespace Span

/-- The piece as it is written. -/
def source : Span → List Char
  | .char c => [c]
  | .reference r => r.source

/-- What the piece becomes. -/
def resolve (env : Environment) : Span → List Char
  | .char c => [c]
  | .reference r => r.resolve env

end Span

/-- The pieces of a text, from left to right. -/
def spans : List Char → List Span
  | [] => []
  | c :: rest =>
    if c = '$' then
      match _h : Reference.read rest with
      | some (r, after) => .reference r :: spans after
      | none => .char c :: spans rest
    else .char c :: spans rest
  termination_by text => text.length
  decreasing_by
    · have := congrArg List.length (Reference.read_eq ‹_›)
      simp [Reference.source] at this ⊢
      omega
    · simp
    · simp

/-- Cutting loses nothing. -/
theorem source_spans (text : List Char) : (spans text).flatMap Span.source = text := by
  fun_induction spans text with
  | case1 => rfl
  | case2 rest r after h ih => rw [List.flatMap_cons, ih, Span.source, ← Reference.read_eq h]
  | case3 rest h ih => simp [Span.source, ih]
  | case4 c rest hc ih => simp [Span.source, ih]

/-- A text with its references resolved. -/
def expandText (env : Environment) (text : String) : String :=
  String.ofList ((spans text.toList).flatMap (Span.resolve env))

mutual

/-- A value with the references in its texts resolved; keys stay as they are. -/
def expand (env : Environment) : Value → Value
  | .scalar (.text s) => .text (expandText env s)
  | .scalar s => .scalar s
  | .list items => .list (expandItems env items)
  | .mapping entries => .mapping (expandEntries env entries)

def expandItems (env : Environment) : List Value → List Value
  | [] => []
  | v :: rest => expand env v :: expandItems env rest

def expandEntries (env : Environment) : List (Scalar × Value) → List (Scalar × Value)
  | [] => []
  | (key, v) :: rest => (key, expand env v) :: expandEntries env rest

end

end FormIntake.Installation
