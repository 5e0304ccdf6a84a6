import FormIntake.Template.Segment

/-! # The grammar of templates

Which segments a template has, said without reading it: `Template.parse_eq_iff` states that `parse`
gives the one list of segments that joins to the text and is `Canonical`, which means that no literal
is empty, no two literals stand side by side, every token has a body (`IsBody`), and no opening brace
inside a literal opens a token (`Opens`).

`scan` is described piece by piece: `readBody` finds a body exactly where a brace opens a token
(`readBody_eq_none_iff`), and literal text is gathered up to the next token (`scan_append`).  Read from
left to right this leaves no choice, so canonical segments are found again in the text that they join
to (`scan_render`). -/

namespace FormIntake.Template

/-! ### Bodies -/

/-- What may stand between the braces of a token: at least one character, no line feed, and no
closing brace behind the first character. -/
structure IsBody (body : List Char) : Prop where
  ne_nil : body ≠ []
  no_lineFeed : '\n' ∉ body
  no_closing : '\x7d' ∉ body.tail

/-- A brace in front of the text opens a token: there is a closing brace further on, not directly
behind it and with no line feed before it. -/
def Opens (text : List Char) : Prop :=
  ∃ between after, text = between ++ '\x7d' :: after ∧ between ≠ [] ∧ '\n' ∉ between

theorem notMem_of_untilBrace {text body after : List Char} (h : untilBrace text = some (body, after)) :
    '\x7d' ∉ body ∧ '\n' ∉ body := by
  induction text generalizing body after with
  | nil => cases h
  | cons c rest ih =>
      rw [untilBrace] at h
      split at h
      · cases h
        exact ⟨List.not_mem_nil, List.not_mem_nil⟩
      · next hc =>
        split at h
        · cases h
        · next hn =>
          obtain ⟨⟨before, behind⟩, hb, he⟩ := Option.map_eq_some_iff.mp h
          cases he
          obtain ⟨hclose, hline⟩ := ih hb
          constructor
          · rw [List.mem_cons, not_or]
            exact ⟨Ne.symm hc, hclose⟩
          · rw [List.mem_cons, not_or]
            exact ⟨Ne.symm hn, hline⟩

theorem untilBrace_append {body : List Char} (after : List Char) (hb : '\x7d' ∉ body)
    (hn : '\n' ∉ body) : untilBrace (body ++ '\x7d' :: after) = some (body, after) := by
  induction body with
  | nil => rw [List.nil_append, untilBrace, if_pos rfl]
  | cons c rest ih =>
      rw [List.mem_cons, not_or] at hb hn
      rw [List.cons_append, untilBrace, if_neg (Ne.symm hb.1), if_neg (Ne.symm hn.1),
        ih hb.2 hn.2, Option.map_some]

/-- Up to the first closing brace there is a text where no line feed comes before some closing
brace. -/
theorem isSome_untilBrace {between : List Char} (after : List Char) (hn : '\n' ∉ between) :
    (untilBrace (between ++ '\x7d' :: after)).isSome := by
  induction between with
  | nil => rw [List.nil_append, untilBrace, if_pos rfl, Option.isSome_some]
  | cons c rest ih =>
      rw [List.mem_cons, not_or] at hn
      rw [List.cons_append, untilBrace]
      split
      · rfl
      · rw [if_neg (Ne.symm hn.1), Option.isSome_map]
        exact ih hn.2

theorem isBody_of_readBody {text body after : List Char} (h : readBody text = some (body, after)) :
    IsBody body := by
  cases text with
  | nil => cases h
  | cons c rest =>
      rw [readBody] at h
      split at h
      · cases h
      · next hc =>
        obtain ⟨⟨before, behind⟩, hb, he⟩ := Option.map_eq_some_iff.mp h
        cases he
        obtain ⟨hclose, hline⟩ := notMem_of_untilBrace hb
        refine ⟨List.cons_ne_nil _ _, ?_, hclose⟩
        rw [List.mem_cons, not_or]
        exact ⟨Ne.symm hc, hline⟩

/-- A body is read up to the closing brace behind it. -/
theorem readBody_append {body : List Char} (hb : IsBody body) (after : List Char) :
    readBody (body ++ '\x7d' :: after) = some (body, after) := by
  cases body with
  | nil => exact absurd rfl hb.ne_nil
  | cons c rest =>
      have hn := hb.no_lineFeed
      rw [List.mem_cons, not_or] at hn
      have hu : untilBrace (rest ++ '\x7d' :: after) = some (rest, after) :=
        untilBrace_append after hb.no_closing hn.2
      rw [List.cons_append, readBody, if_neg (Ne.symm hn.1), hu, Option.map_some]

/-- No body is found exactly where a brace opens no token. -/
theorem readBody_eq_none_iff {text : List Char} : readBody text = none ↔ ¬ Opens text := by
  constructor
  · rintro h ⟨between, after, rfl, hne, hn⟩
    cases between with
    | nil => exact hne rfl
    | cons c rest =>
        rw [List.mem_cons, not_or] at hn
        rw [List.cons_append, readBody, if_neg (Ne.symm hn.1), Option.map_eq_none_iff] at h
        have hs := isSome_untilBrace after hn.2
        rw [h] at hs
        cases hs
  · intro h
    cases hr : readBody text with
    | none => rfl
    | some found =>
        obtain ⟨body, after⟩ := found
        have hb := isBody_of_readBody hr
        exact absurd ⟨body, after, readBody_eq hr, hb.ne_nil, hb.no_lineFeed⟩ h

/-! ### Pieces -/

/-- A token is a piece of its own. -/
theorem scan_token {body : List Char} (hb : IsBody body) (after : List Char) :
    scan (Token.braced body ++ after) = .token body :: scan after := by
  have hs : Token.braced body ++ after = '\x7b' :: (body ++ '\x7d' :: after) := by
    simp [Token.braced]
  rw [hs, scan, if_pos rfl]
  split
  · next found behind hr =>
    rw [readBody_append hb after] at hr
    cases hr
    rfl
  · next hr =>
    rw [readBody_append hb after] at hr
    cases hr

/-- A character that opens no token goes to the literal text. -/
theorem scan_cons {c : Char} {rest : List Char} (h : c = '\x7b' → ¬ Opens rest) :
    scan (c :: rest) = prependChar c (scan rest) := by
  rw [scan]
  split
  · next hc =>
    split
    · next hr =>
      rw [readBody_eq_none_iff.mpr (h hc)] at hr
      cases hr
    · rfl
  · rfl

theorem prependChar_of_not_literal {pieces : List Piece} (c : Char)
    (h : ∀ text more, pieces ≠ .literal text :: more) : prependChar c pieces = .literal [c] :: pieces := by
  unfold prependChar
  split
  · next text more => exact absurd rfl (h text more)
  · rfl

/-- Literal text in front of a token or the end is a piece of its own. -/
theorem scan_append {text rest : List Char} (hne : text ≠ [])
    (ho : ∀ left right, text = left ++ '\x7b' :: right → ¬ Opens (right ++ rest))
    (hr : ∀ other more, scan rest ≠ .literal other :: more) :
    scan (text ++ rest) = .literal text :: scan rest := by
  induction text with
  | nil => exact absurd rfl hne
  | cons c text ih =>
      have hc : c = '\x7b' → ¬ Opens (text ++ rest) := fun hc => ho [] text (by rw [hc, List.nil_append])
      rw [List.cons_append, scan_cons hc]
      by_cases ht : text = []
      · rw [ht, List.nil_append, prependChar_of_not_literal c hr]
      · rw [ih ht fun left right hs => ho (c :: left) right (by rw [hs, List.cons_append]), prependChar]

/-! ### Segments -/

/-- Segments as a template has them: no literal is empty, no two literals stand side by side, every
token has a body and is what its body says, and no opening brace in a literal opens a token. -/
structure Canonical (segments : List Segment) : Prop where
  literal_ne : ∀ text, .literal text ∈ segments → text ≠ ""
  apart : ∀ before first second after,
    segments ≠ before ++ .literal first :: .literal second :: after
  bodies : ∀ token, .token token ∈ segments →
    ∃ body, IsBody body ∧ token = Token.ofBody body (String.ofList (Token.braced body))
  closed : ∀ before text after left right, segments = before ++ .literal text :: after →
    text.toList = left ++ '\x7b' :: right → ¬ Opens (right ++ (render after).toList)

theorem canonical_nil : Canonical [] where
  literal_ne _ h := by cases h
  apart _ _ _ _ h := by simp at h
  bodies _ h := by cases h
  closed _ _ _ _ _ h := by simp at h

theorem Canonical.tail {segment : Segment} {segments : List Segment}
    (h : Canonical (segment :: segments)) : Canonical segments where
  literal_ne text ht := h.literal_ne text (List.mem_cons_of_mem _ ht)
  apart before first second after hs :=
    h.apart (segment :: before) first second after (by rw [hs, List.cons_append])
  bodies token ht := h.bodies token (List.mem_cons_of_mem _ ht)
  closed before text after left right hs :=
    h.closed (segment :: before) text after left right (by rw [hs, List.cons_append])

theorem Canonical.cons_token {body : List Char} {segments : List Segment} (h : Canonical segments)
    (hb : IsBody body) : Canonical (Segment.ofPiece (.token body) :: segments) where
  literal_ne text ht := by
    rcases List.mem_cons.mp ht with he | ht
    · cases he
    · exact h.literal_ne text ht
  apart before first second after hs := by
    cases before with
    | nil => cases hs
    | cons segment before =>
        cases hs
        exact h.apart before first second after rfl
  bodies token ht := by
    rcases List.mem_cons.mp ht with he | ht
    · cases he
      exact ⟨body, hb, rfl⟩
    · exact h.bodies token ht
  closed before text after left right hs := by
    cases before with
    | nil => cases hs
    | cons segment before =>
        cases hs
        exact h.closed before text after left right rfl

theorem Canonical.cons_literal {text : String} {segments : List Segment} (h : Canonical segments)
    (hne : text ≠ "") (hs : ∀ other more, segments ≠ .literal other :: more)
    (ho : ∀ left right, text.toList = left ++ '\x7b' :: right →
      ¬ Opens (right ++ (render segments).toList)) : Canonical (.literal text :: segments) where
  literal_ne other ht := by
    rcases List.mem_cons.mp ht with he | ht
    · cases he
      exact hne
    · exact h.literal_ne other ht
  apart before first second after he := by
    cases before with
    | nil =>
        cases he
        exact hs second after rfl
    | cons segment before =>
        cases he
        exact h.apart before first second after rfl
  bodies token ht := by
    rcases List.mem_cons.mp ht with he | ht
    · cases he
    · exact h.bodies token ht
  closed before other after left right he := by
    cases before with
    | nil =>
        cases he
        exact ho left right
    | cons segment before =>
        cases he
        exact h.closed before other after left right rfl

theorem raw_ofBody (body : List Char) (raw : String) : (Token.ofBody body raw).raw = raw := by
  unfold Token.ofBody
  split <;> rfl

theorem toList_render_cons (segment : Segment) (segments : List Segment) :
    (render (segment :: segments)).toList = segment.source.toList ++ (render segments).toList := by
  simp only [render, List.flatMap_cons, String.toList_ofList]

theorem toList_render_ofPiece (pieces : List Piece) :
    (render (pieces.map Segment.ofPiece)).toList = pieces.flatMap Piece.source := by
  simp only [render, List.flatMap_map, ofPiece_source, String.toList_ofList]

/-- One more character in front of canonical segments, which opens no token. -/
theorem Canonical.prependChar {c : Char} {pieces : List Piece}
    (h : Canonical (pieces.map Segment.ofPiece))
    (hc : c = '\x7b' → ¬ Opens (pieces.flatMap Piece.source)) :
    Canonical ((prependChar c pieces).map Segment.ofPiece) := by
  have hsingle (hp : ∀ text more, pieces ≠ .literal text :: more) :
      Canonical ((Template.prependChar c pieces).map Segment.ofPiece) := by
    rw [prependChar_of_not_literal c hp, List.map_cons, Segment.ofPiece]
    refine h.cons_literal (by simp) ?_ ?_
    · intro other more he
      obtain ⟨piece, rest, rfl, hpiece, -⟩ := List.map_eq_cons_iff.mp he
      cases piece with
      | literal text => exact hp text rest rfl
      | token body => cases hpiece
    · intro left right he
      rw [String.toList_ofList] at he
      obtain ⟨rfl, rfl, rfl⟩ : left = [] ∧ c = '\x7b' ∧ right = [] := by
        cases left with
        | nil => simpa using he
        | cons d left => simp at he
      rw [List.nil_append, toList_render_ofPiece]
      exact hc rfl
  cases pieces with
  | nil => exact hsingle (by simp)
  | cons piece more =>
      cases piece with
      | token body => exact hsingle (by simp)
      | literal text =>
          rw [Template.prependChar, List.map_cons, Segment.ofPiece]
          refine h.tail.cons_literal (by simp) ?_ ?_
          · exact fun other rest he => h.apart [] _ other rest (by rw [List.map_cons, he]; rfl)
          · intro left right he
            rw [String.toList_ofList] at he
            cases left with
            | nil =>
                cases he
                rw [toList_render_ofPiece]
                exact hc rfl
            | cons d left =>
                cases he
                exact h.closed [] _ _ left right rfl (String.toList_ofList)

/-- The segments of a template are canonical. -/
theorem canonical_scan (text : List Char) : Canonical ((scan text).map Segment.ofPiece) := by
  fun_induction scan text with
  | case1 => exact canonical_nil
  | case2 rest body after hr ih => exact ih.cons_token (isBody_of_readBody hr)
  | case3 rest hr ih =>
      refine ih.prependChar fun _ => ?_
      rw [source_scan]
      exact readBody_eq_none_iff.mp hr
  | case4 c rest hc ih => exact ih.prependChar fun h => absurd h hc

/-- Canonical segments are found again in the text that they join to. -/
theorem scan_render {segments : List Segment} (h : Canonical segments) :
    (scan (render segments).toList).map Segment.ofPiece = segments := by
  induction segments with
  | nil => rw [show (render []).toList = [] from rfl, scan, List.map_nil]
  | cons segment segments ih =>
      rw [toList_render_cons]
      cases segment with
      | literal text =>
          have hne : text.toList ≠ [] := by simpa using h.literal_ne text List.mem_cons_self
          have hr : ∀ other more, scan (render segments).toList ≠ .literal other :: more := by
            intro other more hs
            refine h.apart [] text (String.ofList other) (more.map Segment.ofPiece) ?_
            rw [← ih h.tail, hs]
            rfl
          rw [Segment.source, scan_append hne (fun left right => h.closed [] text segments left right rfl)
            hr, List.map_cons, ih h.tail, Segment.ofPiece, String.ofList_toList]
      | token token =>
          obtain ⟨body, hb, rfl⟩ := h.bodies token List.mem_cons_self
          rw [Segment.source, raw_ofBody, String.toList_ofList, scan_token hb, List.map_cons, ih h.tail,
            Segment.ofPiece]

/-- The segments of a text are the only canonical ones that join to it. -/
theorem parse_eq_iff (text : String) (segments : List Segment) :
    parse text = segments ↔ render segments = text ∧ Canonical segments := by
  constructor
  · rintro rfl
    exact ⟨render_parse text, canonical_scan text.toList⟩
  · rintro ⟨rfl, h⟩
    exact scan_render h

/-- The first character of a body can be a closing brace and any other an opening one; a brace before
a line feed is literal text. -/
example : scan "\x7b\x7d\x7d-\x7b\n\x7d\x7b\x7ba\x7d".toList =
    [.token ['\x7d'], .literal ['-', '\x7b', '\n', '\x7d'], .token ['\x7b', 'a']] := by cbv

end FormIntake.Template
