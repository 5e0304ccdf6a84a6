import FormIntake.Form.Visibility
import FormIntake.Proofs.Rendering.Plain
import FormIntake.Proofs.Result
import FormIntake.Proofs.Text.Percent

/-! # Values in URLs

What a template becomes in the two URL formats: literal text and unknown tokens as they are written,
and for every known token an encoding of the value that it resolves to (`Format.IsEncoding`), from
which the value is read back.  There is one exception: a token that only the form knows and that
resolves to its own source is left as it is written (`Renderer.shows_of_render`,
`Renderer.not_isEncoding_nameSource`).

A token resolves to what the form says of it.  Where the form says nothing, or repeats the token's own
source, it resolves to what is said of it without the form (`Renderer.Resolves`). -/

namespace FormIntake

open Template Text

/-! ### Encodings -/

namespace Template.Format

/-- The value that a text in the format stands for. -/
def decode? (format : Format) (text : String) : Option String :=
  match format with
  | .url => (formDecode? text.toList).map String.ofList
  | .rawurl => (percentDecode? text.toList).map String.ofList
  | _ => some text

/-- Whether a character can stand in an encoded value. -/
def IsSafe (format : Format) (c : Char) : Prop :=
  isUnreserved c = true ∨ c = '%' ∨ format = .url ∧ c = '+'

/-- A text encodes a value: it has safe characters only, and the value is read back from it. -/
structure IsEncoding (format : Format) (value text : String) : Prop where
  isSafe : ∀ c ∈ text.toList, format.IsSafe c
  decode?_eq : format.decode? text = some value

/-- The formats that encode values. -/
def IsUrl (format : Format) : Prop := format = .url ∨ format = .rawurl

theorem isEncoding_encode {format : Format} (hf : format.IsUrl) (value : String) :
    format.IsEncoding value (format.encode value) := by
  rcases hf with rfl | rfl
  · constructor
    · intro c hc
      rw [encode, String.toList_ofList] at hc
      rcases isUnreserved_of_formEncode hc with hc | hc | hc
      · exact .inl hc
      · exact .inr (.inl hc)
      · exact .inr (.inr ⟨rfl, hc⟩)
    · rw [decode?, encode, String.toList_ofList, formDecode?_formEncode, Option.map_some,
        String.ofList_toList]
  · constructor
    · intro c hc
      rw [encode, String.toList_ofList] at hc
      exact (isUnreserved_of_percentEncode hc).imp_right .inl
    · rw [decode?, encode, String.toList_ofList, percentDecode?_percentEncode, Option.map_some,
        String.ofList_toList]

end Template.Format

namespace Renderer

/-! ### Known tokens -/

/-- The tokens that the form is asked for. -/
def formTokens : List String :=
  ["post", "custom_field", "referring_url", "default_email_address", "default_email_name",
   "default_from_email_address", "default_from_email_name", "admin_email", "element", "form_name",
   "entry_id", "all_form_data"]

/-- The tokens that do without a form. -/
def ambientTokens : List String :=
  ["site_title", "site_tagline", "ip", "post", "custom_field", "url", "user", "user_meta",
   "referring_url", "user_agent", "date", "time", "datetime", "uniqid"]

variable {renderer : Renderer} {form : Form} {format : Format} {request : Request} {token : Token}

theorem resolved_eq_null_iff :
    renderer.resolved form format token = .ok .null ↔ token.name ∉ formTokens := by
  unfold resolved
  have hmap : ∀ result : Except Failure String, result.map Subject.text ≠ .ok .null := by
    intro result h
    obtain ⟨text, -, hn⟩ := exists_of_map_eq_ok h
    cases hn
  split <;> simp_all [formTokens]

/-- What the form says of a token is a text. -/
theorem exists_text_of_resolved {subject : Subject}
    (h : renderer.resolved form format token = .ok subject) (hn : subject ≠ .null) :
    ∃ text, subject = .text text := by
  unfold resolved at h
  split at h
  case h_13 =>
    cases h
    exact absurd rfl hn
  all_goals first
    | cases h
      exact ⟨_, rfl⟩
    | obtain ⟨text, -, rfl⟩ := exists_of_map_eq_ok h
      exact ⟨text, rfl⟩

theorem ambient?_eq_none_iff :
    renderer.ambient? form request token = .ok none ↔ token.name ∉ ambientTokens := by
  have hmap : ∀ result : Except Failure String, some <$> result ≠ .ok none := by
    intro result
    cases result <;> simp [Functor.map, Except.map]
  unfold ambient?
  cases request.user <;> dsimp only <;> split <;> simp_all [ambientTokens]

/-! ### Values -/

/-- The value of a token: what the form says of it, or what is said of it without the form where
the form says nothing, and also where it says what the token is written as. -/
inductive Resolves (renderer : Renderer) (form : Form) (format : Format) (request : Request)
    (token : Token) : String → Prop
  | ofForm {value : String} (told : renderer.resolved form format token = .ok (.text value))
    (final : value ≠ token.raw ∨ token.name ∉ ambientTokens) :
    renderer.Resolves form format request token value
  | ofRequest {value : String} (told : renderer.ambient? form request token = .ok (some value))
    (untold : renderer.resolved form format token = .ok .null ∨
      renderer.resolved form format token = .ok (.text token.raw)) :
    renderer.Resolves form format request token value

/-- A part of the output stands for a segment of the template in a URL format. -/
def Shows (renderer : Renderer) (form : Form) (format : Format) (request : Request) :
    Segment → String → Prop
  | .literal text, part => part = text
  | .token token, part =>
    (token.name ∉ formTokens ∧ token.name ∉ ambientTokens → part = token.raw) ∧
    (token.name ∈ formTokens ∨ token.name ∈ ambientTokens →
      ∃ value, renderer.Resolves form format request token value ∧
        if value = token.raw ∧ token.name ∉ ambientTokens then part = token.raw
        else format.IsEncoding value part)

theorem shows_of_ambientText (hf : format.IsUrl) {part : String}
    (hu : renderer.resolved form format token = .ok .null ∨
      renderer.resolved form format token = .ok (.text token.raw))
    (h : renderer.ambientText form format request token = .ok part) :
    renderer.Shows form format request (.token token) part := by
  unfold ambientText at h
  obtain ⟨value, ha, rfl⟩ := exists_of_map_eq_ok h
  cases value with
  | some value =>
      have hm : token.name ∈ ambientTokens := by
        by_contra hn
        rw [ambient?_eq_none_iff.mpr hn] at ha
        cases ha
      refine ⟨fun hn => absurd hm hn.2, fun _ => ⟨value, .ofRequest ha hu, ?_⟩⟩
      rw [if_neg fun hn => hn.2 hm]
      exact Format.isEncoding_encode hf value
  | none =>
      have hn : token.name ∉ ambientTokens := ambient?_eq_none_iff.mp ha
      refine ⟨fun _ => rfl, fun hk => ⟨token.raw, ?_, ?_⟩⟩
      · rcases hu with hu | hu
        · exact absurd (hk.resolve_right hn) (resolved_eq_null_iff.mp hu)
        · exact .ofForm hu (.inr hn)
      · rw [if_pos ⟨rfl, hn⟩]

theorem shows_of_tokenText (hf : format.IsUrl) {part : String}
    (h : renderer.tokenText form format request token = .ok part) :
    renderer.Shows form format request (.token token) part := by
  unfold tokenText at h
  obtain ⟨subject, hs, h⟩ := exists_of_bind_eq_ok h
  split at h
  · exact shows_of_ambientText hf (.inl hs) h
  · next hn =>
    obtain ⟨value, rfl⟩ := exists_text_of_resolved hs hn
    split at h
    · next hr =>
      have hr : value = token.raw := by simpa [Subject.isText] using hr
      exact shows_of_ambientText hf (.inr (hr ▸ hs)) h
    · next hr =>
      have hr : value ≠ token.raw := by simpa [Subject.isText] using hr
      rw [Subject.plain_text] at h
      cases h
      have hk : token.name ∈ formTokens := by
        by_contra hk
        rw [resolved_eq_null_iff.mpr hk] at hs
        cases hs
      refine ⟨fun hu => absurd hk hu.1, fun _ => ⟨value, .ofForm hs (.inl hr), ?_⟩⟩
      rw [if_neg fun he => hr he.1]
      exact Format.isEncoding_encode hf value

/-- In a URL format a template becomes its literal text and its unknown tokens as they are written,
and between them an encoding of the value of every known token, other than of a token of the form
that resolves to its own source and is nothing without the form: it is left as it is written. -/
theorem shows_of_render (renderer : Renderer) (hb : renderer.bus.Idle) (text : String)
    (format : Format) (hf : format.IsUrl) (request : Request) (desk after : Desk) (output : String)
    (h : (renderer.render text format request).perform desk = (.ok output, after)) :
    ∃ parts, output = String.join parts ∧
      List.Forall₂ (renderer.Shows desk.form format request) (parse text) parts := by
  rw [render_of_idle hb] at h
  have hr : renderer.rendered desk.form format request text = .ok output := congrArg Prod.fst h
  unfold rendered at hr
  obtain ⟨parts, hp, hj⟩ := exists_of_bind_eq_ok hr
  cases hj
  refine ⟨parts, rfl, (mapM_eq_ok_iff.mp hp).imp fun segment part hs => ?_⟩
  cases segment with
  | literal text =>
      cases hs
      rfl
  | token token => exact shows_of_tokenText hf hs

/-- A form with one field. -/
def guestbook : Form where
  definition := { id := 1, pages := [] }
  pages := [{ heading := { id := 1 }, children := [.field { id := 2, label := "Name" }] }]
  distinct := by decide

/-- The desk on which it is filled in. -/
def guest (name : String) : Desk where
  form := (guestbook.bind { values := [("2", .text name)] }).refreshVisibility

/-- The source of the token for its field. -/
def nameSource : String := "\x7belement|id:2\x7d"

theorem shows_of_render_guest :
    ∃ parts, "/\x7bx\x7d?by=Ann+%26+Bo" = String.join parts ∧
      List.Forall₂ (Shows {} (guest "Ann & Bo").form .url {}) (parse ("/\x7bx\x7d?by=" ++ nameSource))
        parts := by
  have h : rendered {} (guest "Ann & Bo").form .url {} ("/\x7bx\x7d?by=" ++ nameSource) =
      .ok "/\x7bx\x7d?by=Ann+%26+Bo" := by decide +kernel
  refine shows_of_render {} Bus.idle_empty _ .url (.inl rfl) {} (guest "Ann & Bo")
    (guest "Ann & Bo") _ ?_
  rw [render_of_idle Bus.idle_empty]
  exact Prod.ext h rfl

/-- The token for the field. -/
def nameToken : Token := .ofBody "element|id:2".toList nameSource

/-- A visitor whose name is the source of the token for it gets that into a link as it is. -/
theorem not_isEncoding_nameSource :
    parse nameSource = [.token nameToken] ∧
    Resolves {} (guest nameSource).form .url {} nameToken nameSource ∧
    rendered {} (guest nameSource).form .url {} nameSource = .ok nameSource ∧
    ¬ Format.url.IsEncoding nameSource nameSource := by
  have hvalue : elementText (guest nameSource).form .url nameToken = .ok nameSource := by
    decide +kernel
  have htold : resolved {} (guest nameSource).form .url nameToken = .ok (.text nameSource) := by
    show (elementText (guest nameSource).form .url nameToken).map Subject.text = _
    rw [hvalue]
    rfl
  refine ⟨by decide +kernel, .ofForm htold (.inr (by decide +kernel)), by decide +kernel, ?_⟩
  intro h
  rcases h.isSafe '\x7b' (by decide +kernel) with hc | hc | ⟨-, hc⟩
  · revert hc
    decide
  · cases hc
  · cases hc

end Renderer
end FormIntake
