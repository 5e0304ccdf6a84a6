import Mathlib.Data.List.Induction
import FormIntake.Proofs.Json.Texts
import FormIntake.Proofs.Template.Grammar

/-! # Writing templates

A template can be put together of parts (`Part`): literal texts without an opening brace, and tokens,
each a name and parameters that are words of their own (`Wording`).  The template that the parts are
written as has just these parts for segments (`Template.parse_write`), up to what writing loses: an
empty literal leaves no trace, literals side by side become one, and of parameters with one name the
last one stands, in the place of the first (`Assoc.lasting`).

Reading goes back the way that writing came: a text is cut where its pieces were joined
(`Text.splitOn_join`), a parameter at its first colon (`Wording.readParam_paramText`). -/

namespace FormIntake

/-! ### Mappings -/

namespace Assoc

variable {α β : Type} [DecidableEq α]

/-- The mapping that entries write down, read off from them at once: every key stands where it first
occurs, with the value that it is last given. -/
def lasting (entries : List (α × β)) : List (α × β) :=
  (entries.map Prod.fst).eraseDups.filterMap fun key =>
    (entries.reverse.lookup key).map fun value => (key, value)

theorem ofList_append_singleton (entries : List (α × β)) (e : α × β) :
    ofList (entries ++ [e]) = put e.1 e.2 (ofList entries) := by
  rw [ofList, List.foldl_append, List.foldl_cons, List.foldl_nil]
  rfl

theorem keys_ofList (entries : List (α × β)) :
    (ofList entries).map Prod.fst = (entries.map Prod.fst).eraseDups := by
  induction entries using List.reverseRecOn with
  | nil => rfl
  | append_singleton entries e ih =>
      rw [ofList_append_singleton, keys_put, ih, List.map_append, List.eraseDups_append]
      by_cases he : e.1 ∈ entries.map Prod.fst
      · simp [List.removeAll, he]
      · simp [List.removeAll, he, List.eraseDups_cons]

theorem lookup_ofList (entries : List (α × β)) (key : α) :
    (ofList entries).lookup key = entries.reverse.lookup key := by
  induction entries using List.reverseRecOn with
  | nil => rfl
  | append_singleton entries e ih =>
      obtain ⟨k, v⟩ := e
      rw [ofList_append_singleton, lookup_put, ih, List.reverse_append, List.reverse_singleton,
        List.singleton_append, List.lookup_cons]
      by_cases hk : key = k
      · rw [if_pos hk, hk, beq_self_eq_true]
      · rw [if_neg hk, beq_false_of_ne hk]

/-- A mapping is made up of what it finds under its keys. -/
theorem filterMap_lookup : ∀ {entries : List (α × β)}, (entries.map Prod.fst).Nodup →
    ((entries.map Prod.fst).filterMap fun key =>
      (entries.lookup key).map fun value => (key, value)) = entries
  | [], _ => rfl
  | (k, v) :: rest, h => by
    rw [List.map_cons, List.nodup_cons] at h
    have hrest : (rest.map Prod.fst).filterMap (fun key =>
        (((k, v) :: rest).lookup key).map fun value => (key, value)) = rest := by
      refine Eq.trans (List.filterMap_congr fun key hkey => ?_) (filterMap_lookup h.2)
      have hne : key ≠ k := fun he => h.1 (he ▸ hkey)
      rw [List.lookup_cons, beq_false_of_ne hne]
    rw [List.map_cons, List.filterMap_cons, hrest, List.lookup_cons, beq_self_eq_true]
    rfl

/-- Entered one after the other, entries leave what they write down. -/
theorem ofList_eq_lasting (entries : List (α × β)) : ofList entries = lasting entries := by
  calc ofList entries
      = ((ofList entries).map Prod.fst).filterMap fun key =>
          ((ofList entries).lookup key).map fun value => (key, value) :=
        (filterMap_lookup (nodup_keys_ofList entries)).symm
    _ = lasting entries := by simp only [keys_ofList, lookup_ofList, lasting]

example : lasting [("id", 7), ("separator", 1), ("id", 8)] = [("id", 8), ("separator", 1)] := by
  decide

end Assoc

/-! ### Cutting joined texts -/

namespace Text

theorem splitOn_of_notMem {sep : Char} {text : List Char} (h : sep ∉ text) :
    splitOn sep text = [text] := by
  induction text with
  | nil => rfl
  | cons c rest ih =>
      rw [List.mem_cons, not_or] at h
      rw [splitOn, if_neg (Ne.symm h.1), ih h.2]

theorem splitOn_append {sep : Char} {text : List Char} (rest : List Char) (h : sep ∉ text) :
    splitOn sep (text ++ sep :: rest) = text :: splitOn sep rest := by
  induction text with
  | nil => rw [List.nil_append, splitOn, if_pos rfl]
  | cons c text ih =>
      rw [List.mem_cons, not_or] at h
      rw [List.cons_append, splitOn, if_neg (Ne.symm h.1), ih h.2]

/-- Pieces that do not hold the separator are found again. -/
theorem splitOn_join {sep : Char} : ∀ {pieces : List (List Char)}, pieces ≠ [] →
    (∀ piece ∈ pieces, sep ∉ piece) → splitOn sep (join [sep] pieces) = pieces
  | [], hne, _ => absurd rfl hne
  | [piece], _, h => splitOn_of_notMem (h piece List.mem_cons_self)
  | piece :: next :: pieces, _, h => by
    obtain ⟨hpiece, hrest⟩ := List.forall_mem_cons.mp h
    rw [join, List.append_assoc, List.singleton_append, splitOn_append _ hpiece,
      splitOn_join (List.cons_ne_nil _ _) hrest]

theorem splitFirst_of_notMem {sep : Char} {text : List Char} (h : sep ∉ text) :
    splitFirst sep text = (text, none) := by
  induction text with
  | nil => rfl
  | cons c rest ih =>
      rw [List.mem_cons, not_or] at h
      rw [splitFirst, if_neg (Ne.symm h.1), ih h.2]

theorem splitFirst_of_append {sep : Char} {text : List Char} (rest : List Char) (h : sep ∉ text) :
    splitFirst sep (text ++ sep :: rest) = (text, some rest) := by
  induction text with
  | nil => rw [List.nil_append, splitFirst, if_pos rfl]
  | cons c text ih =>
      rw [List.mem_cons, not_or] at h
      rw [List.cons_append, splitFirst, if_neg (Ne.symm h.1), ih h.2]

end Text

namespace Template

open Text

/-! ### Tokens -/

/-- What is written behind the name of a parameter: a colon and its value, if it is given one. -/
def argumentText : Argument → List Char
  | .given value => ':' :: value.toList
  | .flag => []

def paramText (p : String × Argument) : List Char := p.1.toList ++ argumentText p.2

/-- What is written between the braces of a token. -/
def bodyText (name : String) (params : List (String × Argument)) : List Char :=
  join ['|'] (name.toList :: params.map paramText)

/-- A name that is read back: no blanks around it, and no character that ends it. -/
structure IsName (ends : List Char) (name : String) : Prop where
  trim_eq : trim name.toList = name.toList
  notMem : ∀ c ∈ ends, c ∉ name.toList

instance (ends : List Char) (name : String) : Decidable (IsName ends name) :=
  decidable_of_iff (trim name.toList = name.toList ∧ ends.all (· ∉ name.toList) = true)
    ⟨fun h => ⟨h.1, by simpa using h.2⟩, fun h => ⟨h.trim_eq, by simpa using h.notMem⟩⟩

/-- A token to be written.  A bar separates parameters, and a colon their names from their values, so
neither may stand where it would be taken for that. -/
structure Wording where
  name : String
  params : List (String × Argument)
  isName : IsName ['|'] name
  isName_param : ∀ p ∈ params, IsName ['|', ':'] p.1
  bar_notMem : ∀ p ∈ params, '|' ∉ argumentText p.2
  isBody : IsBody (bodyText name params)

theorem readParam_paramText {p : String × Argument} (h : IsName ['|', ':'] p.1) :
    Token.readParam (paramText p) = p := by
  obtain ⟨name, argument⟩ := p
  have hcolon : ':' ∉ name.toList := h.notMem ':' (by simp)
  have htrim : String.ofList (trim name.toList) = name := by rw [h.trim_eq, String.ofList_toList]
  rw [paramText, Token.readParam]
  cases argument with
  | given value =>
      rw [argumentText, splitFirst_of_append _ hcolon]
      dsimp only
      rw [htrim, String.ofList_toList]
  | flag =>
      rw [argumentText, List.append_nil, splitFirst_of_notMem hcolon]
      dsimp only
      rw [htrim]

namespace Wording

/-- What stands between the braces. -/
def body (wording : Wording) : List Char := bodyText wording.name wording.params

/-- The token that is written. -/
def token (wording : Wording) : Token where
  name := wording.name
  params := Assoc.lasting wording.params
  raw := String.ofList (Token.braced wording.body)

theorem splitOn_body (wording : Wording) :
    splitOn '|' wording.body = wording.name.toList :: wording.params.map paramText := by
  refine splitOn_join (List.cons_ne_nil _ _) ?_
  rw [List.forall_mem_cons, List.forall_mem_map]
  refine ⟨wording.isName.notMem '|' (by simp), fun p hp => ?_⟩
  rw [paramText, List.mem_append, not_or]
  exact ⟨(wording.isName_param p hp).notMem '|' (by simp), wording.bar_notMem p hp⟩

/-- The body of a token is read as the token that is written. -/
theorem ofBody_body (wording : Wording) :
    Token.ofBody wording.body (String.ofList (Token.braced wording.body)) = wording.token := by
  have hparams : (wording.params.map paramText).map Token.readParam = wording.params := by
    rw [List.map_map]
    exact (List.map_congr_left fun p hp => readParam_paramText (wording.isName_param p hp)).trans
      (List.map_id _)
  rw [Token.ofBody, wording.splitOn_body]
  dsimp only
  rw [hparams, wording.isName.trim_eq, String.ofList_toList, Assoc.ofList_eq_lasting, token]

end Wording

/-! ### Templates -/

/-- A part of a template to be written. -/
inductive Part where
  | literal (text : String) (plain : '\x7b' ∉ text.toList)
  | token (wording : Wording)

namespace Part

/-- The part as it is written. -/
def source : Part → List Char
  | .literal text _ => text.toList
  | .token wording => Token.braced wording.body

end Part

/-- The template that some parts are written as. -/
def write (parts : List Part) : String := String.ofList (parts.flatMap Part.source)

/-- Segments with literal text in front: it joins a literal that stands there, and no text adds
nothing. -/
def prependLiteral (text : String) : List Segment → List Segment
  | .literal next :: segments => .literal (text ++ next) :: segments
  | segments => if text = "" then segments else .literal text :: segments

/-- The parts as segments, literals side by side put together and empty ones left out. -/
def segments : List Part → List Segment
  | [] => []
  | .literal text _ :: parts => prependLiteral text (segments parts)
  | .token wording :: parts => .token wording.token :: segments parts

theorem prependLiteral_empty (segments : List Segment) : prependLiteral "" segments = segments := by
  unfold prependLiteral
  split
  · rw [String.empty_append]
  · rw [if_pos rfl]

theorem prependLiteral_prependLiteral (first second : String) (segments : List Segment) :
    prependLiteral first (prependLiteral second segments) =
      prependLiteral (first ++ second) segments := by
  by_cases hs : second = ""
  · rw [hs, prependLiteral_empty, String.append_empty]
  · have hne : first ++ second ≠ "" := by simp [hs]
    cases segments with
    | nil => simp only [prependLiteral, if_neg hs, if_neg hne]
    | cons segment rest =>
        cases segment with
        | literal next => simp only [prependLiteral, String.append_assoc]
        | token token => simp only [prependLiteral, if_neg hs, if_neg hne]

theorem map_ofPiece_prependChar (c : Char) (pieces : List Piece) :
    (prependChar c pieces).map Segment.ofPiece =
      prependLiteral (String.ofList [c]) (pieces.map Segment.ofPiece) := by
  have hne : String.ofList [c] ≠ "" := by simp
  cases pieces with
  | nil =>
      simp only [prependChar, List.map_cons, List.map_nil, Segment.ofPiece, prependLiteral, if_neg hne]
  | cons piece rest =>
      cases piece with
      | literal text =>
          simp only [prependChar, List.map_cons, Segment.ofPiece, prependLiteral,
            ← String.ofList_append, List.singleton_append]
      | token body =>
          simp only [prependChar, List.map_cons, Segment.ofPiece, prependLiteral, if_neg hne]

/-- Literal text without an opening brace is put in front of the segments behind it. -/
theorem map_scan_append {text : List Char} (rest : List Char) (h : '\x7b' ∉ text) :
    (scan (text ++ rest)).map Segment.ofPiece =
      prependLiteral (String.ofList text) ((scan rest).map Segment.ofPiece) := by
  induction text with
  | nil => exact (prependLiteral_empty _).symm
  | cons c text ih =>
      rw [List.mem_cons, not_or] at h
      rw [List.cons_append, scan_cons fun hc => absurd hc.symm h.1, map_ofPiece_prependChar, ih h.2,
        prependLiteral_prependLiteral, ← String.ofList_append, List.singleton_append]

/-- The template that parts are written as is read as these parts. -/
theorem parse_write (parts : List Part) : parse (write parts) = segments parts := by
  have hscan : (scan (parts.flatMap Part.source)).map Segment.ofPiece = segments parts := by
    induction parts with
    | nil => rw [List.flatMap_nil, scan, List.map_nil, segments]
    | cons part parts ih =>
        rw [List.flatMap_cons]
        cases part with
        | literal text plain =>
            rw [Part.source, map_scan_append _ plain, ih, String.ofList_toList, segments]
        | token wording =>
            have hbody : IsBody wording.body := wording.isBody
            rw [Part.source, scan_token hbody, List.map_cons, ih, Segment.ofPiece]
            exact congrArg (Segment.token · :: _) wording.ofBody_body
  rw [parse, write, String.toList_ofList, hscan]

/-- A value may hold colons, opening braces and blanks. -/
example :
    parse (write
      [.literal "a" (by decide), .literal "" (by decide), .literal "\x7d " (by decide),
        .token {
          name := "element"
          params := [("id", .given "7"), ("html", .flag), ("id", .given " 8:\x7b")]
          isName := by decide
          isName_param := by decide
          bar_notMem := by decide
          isBody := ⟨by decide, by decide, by decide⟩ }]) =
      [.literal "a\x7d ",
        .token ⟨"element", [("id", .given " 8:\x7b"), ("html", .flag)],
          "\x7belement|id:7|html|id: 8:\x7b\x7d"⟩] := by decide +kernel

end Template
end FormIntake
