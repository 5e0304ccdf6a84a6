import Mathlib.Data.List.Forall2
import Mathlib.Data.List.TakeWhile
import FormIntake.Installation.Environment

/-! # What references to the environment become

A text is cut into references and other characters in exactly one way from left to right:
`Installation.spans_eq_iff` says without reading the text which cut that is (`IsCut`).  Its references
are written as they have to be (`Reference.IsWritten`), and no reference starts at a character that is
left outside of them.

`Installation.expands_once` describes the expansion of a whole value (`Expanded`): it has the same
keys, lists and other scalars, and in place of each text the pieces of its cut, of which each reference
has become what the environment says (`Reference.Becomes`).  What a reference has become stands in the
result as it is, so that nothing is expanded twice. -/

namespace FormIntake

/-! ### Values -/

namespace Value

/-- What holds of scalars, of lists if it holds of their items, and of mappings if it holds of their
values, holds of all values. -/
@[elab_as_elim]
theorem induction {motive : Value → Prop} (scalar : ∀ s, motive (.scalar s))
    (list : ∀ items : List Value, (∀ value ∈ items, motive value) → motive (.list items))
    (mapping : ∀ entries : List (Scalar × Value), (∀ entry ∈ entries, motive entry.2) →
      motive (.mapping entries)) : ∀ value, motive value
  | .scalar s => scalar s
  | .list items => list items fun value _ => induction scalar list mapping value
  | .mapping entries => mapping entries fun entry _ => induction scalar list mapping entry.2
  termination_by value => sizeOf value
  decreasing_by
    · have := List.sizeOf_lt_of_mem ‹value ∈ items›
      simp only [Value.list.sizeOf_spec]
      omega
    · have := List.sizeOf_lt_of_mem ‹entry ∈ entries›
      obtain ⟨key, value⟩ := entry
      simp only [Value.mapping.sizeOf_spec, Prod.mk.sizeOf_spec] at this ⊢
      omega

/-- A text stands somewhere in the value, not counting keys. -/
inductive HasText : Value → String → Prop where
  | here (s : String) : HasText (.text s) s
  | item {items : List Value} {value : Value} {s : String} (hv : value ∈ items)
      (h : HasText value s) : HasText (.list items) s
  | entry {entries : List (Scalar × Value)} {entry : Scalar × Value} {s : String}
      (he : entry ∈ entries) (h : HasText entry.2 s) : HasText (.mapping entries) s

end Value

namespace Installation

open Text

/-! ### References as they are written -/

namespace Reference

/-- What can be written as a reference: a name of upper-case letters, digits and underscores that does
not start with a digit, and a fallback without a closing brace, if there is one. -/
structure IsWritten (r : Reference) : Prop where
  name : ∃ first rest, r.name = first :: rest ∧ isNameStart first = true ∧
    ∀ c ∈ rest, isNameChar c = true
  fallback : ∀ text ∈ r.fallback, '\x7d' ∉ text

/-- A reference stands at the start of the text. -/
def StartsAt (text : List Char) : Prop := ∃ r after, IsWritten r ∧ text = r.source ++ after

theorem source_eq_cons (r : Reference) : ∃ text, r.source = '$' :: text := by
  refine ⟨'\x7b' :: (r.name ++ fallbackSource r.fallback ++ ['\x7d']), ?_⟩
  simp [source]

theorem notMem_of_untilClose {text before after : List Char}
    (h : untilClose text = some (before, after)) : '\x7d' ∉ before := by
  induction text generalizing before after with
  | nil => cases h
  | cons c rest ih =>
      rw [untilClose] at h
      split at h
      · cases h
        exact List.not_mem_nil
      · next hc =>
        obtain ⟨⟨inside, behind⟩, hi, he⟩ := Option.map_eq_some_iff.mp h
        cases he
        rw [List.mem_cons, not_or]
        exact ⟨Ne.symm hc, ih hi⟩

theorem untilClose_append {text : List Char} (after : List Char) (h : '\x7d' ∉ text) :
    untilClose (text ++ '\x7d' :: after) = some (text, after) := by
  induction text with
  | nil => rw [List.nil_append, untilClose, if_pos rfl]
  | cons c rest ih =>
      rw [List.mem_cons, not_or] at h
      rw [List.cons_append, untilClose, if_neg (Ne.symm h.1), ih h.2, Option.map_some]

theorem notMem_of_readEnd {text after : List Char} {fallback : Option (List Char)}
    (h : readEnd text = some (fallback, after)) : ∀ inside ∈ fallback, '\x7d' ∉ inside := by
  unfold readEnd at h
  split at h
  · cases h
    rintro _ ⟨⟩
  · obtain ⟨⟨inside, behind⟩, hi, he⟩ := Option.map_eq_some_iff.mp h
    cases he
    rintro _ ⟨⟩
    exact notMem_of_untilClose hi
  · cases h

theorem readEnd_append {fallback : Option (List Char)} (after : List Char)
    (h : ∀ inside ∈ fallback, '\x7d' ∉ inside) :
    readEnd (fallbackSource fallback ++ '\x7d' :: after) = some (fallback, after) := by
  cases fallback with
  | none => rfl
  | some inside =>
      have hread : readEnd (':' :: '-' :: (inside ++ '\x7d' :: after)) =
          (untilClose (inside ++ '\x7d' :: after)).map (Prod.map some id) := rfl
      rw [fallbackSource, List.cons_append, List.cons_append, hread,
        untilClose_append after (h inside rfl), Option.map_some]
      rfl

theorem isWritten_of_read {text after : List Char} {r : Reference} (h : read text = some (r, after)) :
    IsWritten r := by
  unfold read at h
  split at h
  · next first rest =>
    split at h
    · next hfirst =>
      obtain ⟨⟨fallback, behind⟩, he, hr⟩ := Option.map_eq_some_iff.mp h
      cases hr
      exact ⟨⟨first, _, rfl, hfirst, fun c hc => List.mem_takeWhile_imp hc⟩, notMem_of_readEnd he⟩
    · cases h
  · cases h

/-- What ends a reference is no part of its name. -/
theorem not_isNameChar_of_head? (fallback : Option (List Char)) (after : List Char) (c : Char)
    (h : (fallbackSource fallback ++ '\x7d' :: after).head? = some c) : isNameChar c = false := by
  cases fallback with
  | none =>
      cases h
      decide
  | some inside =>
      cases h
      decide

/-- A reference is read up to its closing brace. -/
theorem read_append {r : Reference} (h : IsWritten r) (after : List Char) :
    ∃ text, r.source ++ after = '$' :: text ∧ read text = some (r, after) := by
  obtain ⟨name, fallback⟩ := r
  obtain ⟨⟨first, rest, hname, hfirst, hrest⟩, hfallback⟩ := h
  obtain rfl : name = first :: rest := hname
  let ending := fallbackSource fallback ++ '\x7d' :: after
  have hdrop : (rest ++ ending).dropWhile isNameChar = ending := by
    rw [List.dropWhile_append_of_pos hrest]
    exact dropWhile_eq_self (not_isNameChar_of_head? fallback after)
  have htake : (rest ++ ending).takeWhile isNameChar = rest := by
    have hsplit := List.takeWhile_append_dropWhile (p := isNameChar) (l := rest ++ ending)
    rw [hdrop] at hsplit
    exact List.append_cancel_right hsplit
  refine ⟨'\x7b' :: first :: (rest ++ ending), by simp [source, ending], ?_⟩
  rw [read, if_pos hfirst, htake, hdrop, readEnd_append after hfallback, Option.map_some]

/-- No reference is found behind a dollar sign exactly where none starts at it. -/
theorem read_eq_none_iff {text : List Char} : read text = none ↔ ¬ StartsAt ('$' :: text) := by
  constructor
  · rintro h ⟨r, after, hr, he⟩
    obtain ⟨found, hs, hread⟩ := read_append hr after
    rw [hs] at he
    cases he
    rw [h] at hread
    cases hread
  · intro h
    cases hr : read text with
    | none => rfl
    | some found =>
        obtain ⟨r, after⟩ := found
        exact absurd ⟨r, after, isWritten_of_read hr, read_eq hr⟩ h

theorem eq_dollar_of_startsAt {c : Char} {rest : List Char} (h : StartsAt (c :: rest)) : c = '$' := by
  obtain ⟨r, after, -, he⟩ := h
  obtain ⟨text, hs⟩ := r.source_eq_cons
  rw [hs] at he
  exact (List.cons.inj he).1

end Reference

/-! ### The cut of a text -/

/-- The pieces of a text from left to right: references, as they can be written, and characters at
which no reference starts. -/
structure IsCut (text : List Char) (pieces : List Span) : Prop where
  source_eq : pieces.flatMap Span.source = text
  written : ∀ r, .reference r ∈ pieces → r.IsWritten
  outside : ∀ before c after, pieces = before ++ .char c :: after →
    ¬ Reference.StartsAt (c :: after.flatMap Span.source)

theorem spans_source_append {r : Reference} (h : r.IsWritten) (after : List Char) :
    spans (r.source ++ after) = .reference r :: spans after := by
  obtain ⟨text, hs, hread⟩ := Reference.read_append h after
  rw [hs, spans, if_pos rfl]
  split
  · next found behind hr =>
    rw [hread] at hr
    cases hr
    rfl
  · next hr =>
    rw [hread] at hr
    cases hr

theorem spans_cons {c : Char} {rest : List Char} (h : ¬ Reference.StartsAt (c :: rest)) :
    spans (c :: rest) = .char c :: spans rest := by
  rw [spans]
  split
  · next hc =>
    subst hc
    split
    · next hr =>
      rw [Reference.read_eq_none_iff.mpr h] at hr
      cases hr
    · rfl
  · rfl

theorem isCut_nil : IsCut [] [] where
  source_eq := rfl
  written _ h := by cases h
  outside _ _ _ h := by simp at h

theorem IsCut.cons_reference {text : List Char} {pieces : List Span} {r : Reference}
    (h : IsCut text pieces) (hr : r.IsWritten) : IsCut (r.source ++ text) (.reference r :: pieces) where
  source_eq := by rw [List.flatMap_cons, h.source_eq, Span.source]
  written other ho := by
    rcases List.mem_cons.mp ho with he | ho
    · cases he
      exact hr
    · exact h.written other ho
  outside before c after he := by
    cases before with
    | nil => cases he
    | cons piece before =>
        cases he
        exact h.outside before c after rfl

theorem IsCut.cons_char {text : List Char} {pieces : List Span} {c : Char} (h : IsCut text pieces)
    (hc : ¬ Reference.StartsAt (c :: text)) : IsCut (c :: text) (.char c :: pieces) where
  source_eq := by rw [List.flatMap_cons, h.source_eq, Span.source, List.singleton_append]
  written other ho := by
    rcases List.mem_cons.mp ho with he | ho
    · cases he
    · exact h.written other ho
  outside before d after he := by
    cases before with
    | nil =>
        cases he
        rw [h.source_eq]
        exact hc
    | cons piece before =>
        cases he
        exact h.outside before d after rfl

theorem IsCut.tail {text : List Char} {piece : Span} {pieces : List Span}
    (h : IsCut text (piece :: pieces)) : IsCut (pieces.flatMap Span.source) pieces where
  source_eq := rfl
  written r hr := h.written r (List.mem_cons_of_mem _ hr)
  outside before c after he := h.outside (piece :: before) c after (by rw [he, List.cons_append])

theorem isCut_spans (text : List Char) : IsCut text (spans text) := by
  fun_induction spans text with
  | case1 => exact isCut_nil
  | case2 rest r after hr ih =>
      rw [Reference.read_eq hr]
      exact ih.cons_reference (Reference.isWritten_of_read hr)
  | case3 rest hr ih => exact ih.cons_char (Reference.read_eq_none_iff.mp hr)
  | case4 c rest hc ih => exact ih.cons_char fun hs => hc (Reference.eq_dollar_of_startsAt hs)

theorem spans_of_isCut {text : List Char} {pieces : List Span} (h : IsCut text pieces) :
    spans text = pieces := by
  induction pieces generalizing text with
  | nil =>
      rw [← h.source_eq, List.flatMap_nil, spans]
  | cons piece pieces ih =>
      have htail := ih h.tail
      rw [← h.source_eq, List.flatMap_cons]
      cases piece with
      | reference r => rw [Span.source, spans_source_append (h.written r List.mem_cons_self), htail]
      | char c =>
          rw [Span.source, List.singleton_append, spans_cons (h.outside [] c pieces rfl), htail]

/-- The pieces that a text is cut into are the only ones from left to right. -/
theorem spans_eq_iff {text : List Char} {pieces : List Span} : spans text = pieces ↔ IsCut text pieces := by
  constructor
  · rintro rfl
    exact isCut_spans text
  · exact spans_of_isCut

/-! ### What becomes of a text -/

/-- What the environment says of a reference: the value of its variable if that is set, else its
fallback if it has one, else the reference itself. -/
inductive Reference.Becomes (env : Environment) (r : Reference) : List Char → Prop where
  | set {value : String} (h : env.lookup (String.ofList r.name) = some value) :
      Becomes env r value.toList
  | unset {text : List Char} (h : env.lookup (String.ofList r.name) = none)
      (hf : r.fallback = some text) : Becomes env r text
  | unknown (h : env.lookup (String.ofList r.name) = none) (hf : r.fallback = none) :
      Becomes env r r.source

theorem Reference.becomes_iff {env : Environment} {r : Reference} {text : List Char} :
    r.Becomes env text ↔ r.resolve env = text := by
  constructor
  · rintro (h | ⟨h, hf⟩ | ⟨h, hf⟩)
    · rw [resolve, h]
    · rw [resolve, h, hf]
      rfl
    · rw [resolve, h, hf]
      rfl
  · rintro rfl
    rw [resolve]
    cases h : env.lookup (String.ofList r.name) with
    | some value => exact .set h
    | none =>
        cases hf : r.fallback with
        | some inside => exact .unset h hf
        | none => exact .unknown h hf

/-- What becomes of a piece; a character outside of references stays. -/
inductive Span.Becomes (env : Environment) : Span → List Char → Prop where
  | char (c : Char) : Becomes env (.char c) [c]
  | reference {r : Reference} {text : List Char} (h : r.Becomes env text) :
      Becomes env (.reference r) text

theorem Span.becomes_iff {env : Environment} {piece : Span} {text : List Char} :
    piece.Becomes env text ↔ piece.resolve env = text := by
  cases piece with
  | char c =>
      constructor
      · rintro ⟨⟩
        rfl
      · rintro rfl
        exact .char c
  | reference r =>
      constructor
      · rintro ⟨⟩
        next h => exact Reference.becomes_iff.mp h
      · exact fun h => .reference (Reference.becomes_iff.mpr h)

/-- The second text is the first one with each reference of its cut replaced by what it becomes. -/
def IsExpansion (env : Environment) (text result : String) : Prop :=
  ∃ pieces texts, IsCut text.toList pieces ∧ List.Forall₂ (Span.Becomes env) pieces texts ∧
    result.toList = texts.flatten

theorem forall₂_becomes_iff {env : Environment} {pieces : List Span} {texts : List (List Char)} :
    List.Forall₂ (Span.Becomes env) pieces texts ↔ pieces.map (Span.resolve env) = texts := by
  have hsame : Span.Becomes env = fun piece text => piece.resolve env = text := by
    funext piece text
    exact propext Span.becomes_iff
  rw [hsame, ← List.forall₂_map_left_iff (f := Span.resolve env) (R := Eq), List.forall₂_eq_eq_eq]

theorem expandText_eq_iff {env : Environment} {text result : String} :
    expandText env text = result ↔ IsExpansion env text result := by
  constructor
  · rintro rfl
    refine ⟨spans text.toList, _, isCut_spans _, forall₂_becomes_iff.mpr rfl, ?_⟩
    rw [expandText, String.toList_ofList, List.flatMap_def]
  · rintro ⟨pieces, texts, hcut, hbecomes, hresult⟩
    rw [expandText, spans_of_isCut hcut, List.flatMap_def, forall₂_becomes_iff.mp hbecomes, ← hresult,
      String.ofList_toList]

/-! ### What becomes of a value -/

/-- The second value is the first one with an expansion in place of each text: keys, the lengths and
orders of lists and mappings, and all other scalars are the same. -/
inductive Expanded (env : Environment) : Value → Value → Prop where
  | text {s t : String} (h : IsExpansion env s t) : Expanded env (.text s) (.text t)
  | other {s : Scalar} (h : ∀ t, s ≠ .text t) : Expanded env (.scalar s) (.scalar s)
  | list {items others : List Value} (h : List.Forall₂ (Expanded env) items others) :
      Expanded env (.list items) (.list others)
  | mapping {entries others : List (Scalar × Value)}
      (hkeys : entries.map Prod.fst = others.map Prod.fst)
      (h : List.Forall₂ (Expanded env) (entries.map Prod.snd) (others.map Prod.snd)) :
      Expanded env (.mapping entries) (.mapping others)

theorem expandItems_eq_map (env : Environment) (items : List Value) :
    expandItems env items = items.map (expand env) := by
  induction items with
  | nil => rfl
  | cons value rest ih => rw [expandItems, ih, List.map_cons]

theorem keys_expandEntries (env : Environment) (entries : List (Scalar × Value)) :
    (expandEntries env entries).map Prod.fst = entries.map Prod.fst := by
  induction entries with
  | nil => rfl
  | cons entry rest ih => rw [expandEntries, List.map_cons, List.map_cons, ih]

theorem values_expandEntries (env : Environment) (entries : List (Scalar × Value)) :
    (expandEntries env entries).map Prod.snd = (entries.map Prod.snd).map (expand env) := by
  induction entries with
  | nil => rfl
  | cons entry rest ih => rw [expandEntries, List.map_cons, ih, List.map_cons, List.map_cons]

theorem expand_scalar {env : Environment} {s : Scalar} (h : ∀ t, s ≠ .text t) :
    expand env (.scalar s) = .scalar s := by
  cases s with
  | text t => exact absurd rfl (h t)
  | _ => rfl

theorem expanded_expand (env : Environment) (value : Value) : Expanded env value (expand env value) := by
  induction value using Value.induction with
  | scalar s =>
      by_cases h : ∃ t, s = .text t
      · obtain ⟨t, rfl⟩ := h
        exact .text (expandText_eq_iff.mp rfl)
      · have hs : ∀ t, s ≠ .text t := not_exists.mp h
        rw [expand_scalar hs]
        exact .other hs
  | list items ih =>
      rw [expand, expandItems_eq_map]
      exact .list (List.forall₂_map_right_iff.mpr (List.forall₂_same.mpr ih))
  | mapping entries ih =>
      refine .mapping (keys_expandEntries env entries).symm ?_
      rw [values_expandEntries]
      refine List.forall₂_map_right_iff.mpr (List.forall₂_same.mpr fun value hv => ?_)
      obtain ⟨entry, he, rfl⟩ := List.mem_map.mp hv
      exact ih entry he

theorem map_eq_of_forall₂ {env : Environment} {items others : List Value}
    (h : List.Forall₂ (Expanded env) items others)
    (hi : ∀ value ∈ items, ∀ other, Expanded env value other → expand env value = other) :
    items.map (expand env) = others := by
  induction h with
  | nil => rfl
  | cons hfirst _ ih =>
      rw [List.map_cons, hi _ List.mem_cons_self _ hfirst,
        ih fun value hv => hi value (List.mem_cons_of_mem _ hv)]

theorem expand_of_expanded {env : Environment} {value other : Value} (h : Expanded env value other) :
    expand env value = other := by
  induction value using Value.induction generalizing other with
  | scalar s =>
      cases h with
      | text h => rw [expand, expandText_eq_iff.mpr h]
      | other h => exact expand_scalar h
  | list items ih =>
      cases h with
      | list h => rw [expand, expandItems_eq_map, map_eq_of_forall₂ h fun value hv _ => ih value hv]
  | mapping entries ih =>
      cases h with
      | mapping hkeys h =>
          have hvalues := map_eq_of_forall₂ h fun value hv other ho => by
            obtain ⟨entry, he, rfl⟩ := List.mem_map.mp hv
            exact ih entry he ho
          rw [← values_expandEntries] at hvalues
          have hsame := (keys_expandEntries env entries).trans hkeys
          rw [expand, List.zip_of_prod hsame hvalues, ← List.zip_of_prod rfl rfl]

/-- Where no reference is set or has a fallback, the text stays. -/
theorem isExpansion_self {env : Environment} {text : String}
    (h : ∀ pieces, IsCut text.toList pieces → ∀ r, Span.reference r ∈ pieces →
      env.lookup (String.ofList r.name) = none ∧ r.fallback = none) : IsExpansion env text text := by
  have hcut := isCut_spans text.toList
  refine ⟨_, (spans text.toList).map Span.source, hcut, ?_, ?_⟩
  · refine List.forall₂_map_right_iff.mpr (List.forall₂_same.mpr fun piece hp => ?_)
    cases piece with
    | char c => exact .char c
    | reference r =>
        obtain ⟨hunset, hnone⟩ := h _ hcut r hp
        exact .reference (.unknown hunset hnone)
  · rw [← List.flatMap_def, hcut.source_eq]

theorem expanded_self {env : Environment} {value : Value}
    (h : ∀ text, value.HasText text → IsExpansion env text text) : Expanded env value value := by
  induction value using Value.induction with
  | scalar s =>
      by_cases hs : ∃ t, s = .text t
      · obtain ⟨t, rfl⟩ := hs
        exact .text (h t (.here t))
      · exact .other (not_exists.mp hs)
  | list items ih =>
      refine .list (List.forall₂_same.mpr fun value hv => ih value hv fun text ht => ?_)
      exact h text (.item hv ht)
  | mapping entries ih =>
      refine .mapping rfl (List.forall₂_same.mpr fun value hv => ?_)
      obtain ⟨entry, he, rfl⟩ := List.mem_map.mp hv
      exact ih entry he fun text ht => h text (.entry he ht)

/-- A text has one cut from left to right; a value is expanded to what has the expansions of its texts
in their places and is the same in all else; and where no reference is set or has a fallback the value
stays as it is. -/
theorem expands_once (env : Environment) (value result : Value) :
    (∀ text, ∃! pieces, IsCut text pieces) ∧
    (expand env value = result ↔ Expanded env value result) ∧
    ((∀ text, value.HasText text → ∀ pieces, IsCut text.toList pieces →
      ∀ r, Span.reference r ∈ pieces →
        env.lookup (String.ofList r.name) = none ∧ r.fallback = none) → expand env value = value) := by
  refine ⟨fun text => ?_, ⟨?_, expand_of_expanded⟩, fun h => ?_⟩
  · exact ⟨spans text, isCut_spans text, fun pieces hp => (spans_of_isCut hp).symm⟩
  · rintro rfl
    exact expanded_expand env value
  · exact expand_of_expanded (expanded_self fun text ht => isExpansion_self (h text ht))

/-- Settings with references in texts and in a key, of which some only look like references. -/
def shopSettings : Value :=
  .mapping [
    (.text "url", .text "db://$\x7bHOST\x7d:$\x7bPORT:-5432\x7d/$$\x7bQUOTE\x7d"),
    (.text "$\x7bHOST\x7d", .list [.text "$\x7bEMPTY:-x\x7d", .text "$\x7bA:-$\x7bB\x7d\x7d",
      .text "$\x7ba\x7d", .int 3])]

/-- What the settings are expanded to; the value of a variable and a fallback hold references. -/
def shopExpanded : Value :=
  .mapping [
    (.text "url", .text "db://shop.local:5432/$$\x7bHOST\x7d"),
    (.text "$\x7bHOST\x7d", .list [.text "", .text "$\x7bB\x7d", .text "$\x7ba\x7d", .int 3])]

def shopVariables : Environment := [("HOST", "shop.local"), ("QUOTE", "$\x7bHOST\x7d"), ("EMPTY", "")]

/-- The greeting of a shop that refers to a variable. -/
def shopGreeting : Value := .list [.null, .text "$$\x7bNAME\x7d"]

theorem expands_once_shop :
    Expanded shopVariables shopSettings shopExpanded ∧
    expand shopVariables shopGreeting = shopGreeting := by
  obtain ⟨-, hexpanded, -⟩ := expands_once shopVariables shopSettings shopExpanded
  obtain ⟨-, -, hsame⟩ := expands_once shopVariables shopGreeting shopGreeting
  have hurl : expandText shopVariables "db://$\x7bHOST\x7d:$\x7bPORT:-5432\x7d/$$\x7bQUOTE\x7d" =
      "db://shop.local:5432/$$\x7bHOST\x7d" := by decide +kernel
  have hempty : expandText shopVariables "$\x7bEMPTY:-x\x7d" = "" := by decide +kernel
  have hnested : expandText shopVariables "$\x7bA:-$\x7bB\x7d\x7d" = "$\x7bB\x7d" := by decide +kernel
  have hlower : expandText shopVariables "$\x7ba\x7d" = "$\x7ba\x7d" := by decide +kernel
  have hsettings : expand shopVariables shopSettings = shopExpanded := by
    simp only [shopSettings, shopExpanded, Value.text, Value.int, expand, expandEntries, expandItems,
      hurl, hempty, hnested, hlower]
  refine ⟨hexpanded.mp hsettings, hsame ?_⟩
  rintro text (_ | ⟨hv, h⟩) pieces hcut r hr
  have hvalue := List.mem_cons.mp hv
  rcases hvalue with rfl | hvalue
  · cases h
  · rw [List.mem_singleton.mp hvalue] at h
    cases h
    have hspans : spans "$$\x7bNAME\x7d".toList = [.char '$', .reference ⟨"NAME".toList, none⟩] := by
      decide +kernel
    rw [← spans_of_isCut hcut, hspans] at hr
    obtain rfl : r = ⟨"NAME".toList, none⟩ := by simpa using hr
    exact ⟨by decide, rfl⟩

end Installation
end FormIntake
