import FormIntake.Rendering.Full

/-! # Rendering without extensions

Where nothing is registered, rendering is a look at the form that leaves the desk as it is:
`Renderer.render_of_idle` says what a template becomes (`Renderer.rendered`), token by token
(`Renderer.tokenText`), as a function of the form and the request.

A look at the form (`Work.reading`) can fail; looks one after the other are one look
(`Work.reading_bind`, `Work.mapM_reading`). -/

namespace FormIntake

open Template

/-! ### Templates without tokens -/

namespace Template

theorem scan_of_notMem {text : List Char} (h : '\x7b' ∉ text) :
    scan text = if text = [] then [] else [.literal text] := by
  induction text with
  | nil => rw [scan, if_pos rfl]
  | cons c rest ih =>
      rw [List.mem_cons, not_or] at h
      rw [scan, if_neg (Ne.symm h.1), ih h.2, if_neg (List.cons_ne_nil c rest)]
      by_cases hr : rest = []
      · rw [if_pos hr, hr, prependChar.eq_def]
      · rw [if_neg hr, prependChar.eq_def]

/-- A template without tokens is one literal text, or empty. -/
theorem parse_of_hasTokens_eq_false {text : String} (h : hasTokens text = false) :
    parse text = if text = "" then [] else [.literal text] := by
  have hn : '\x7b' ∉ text.toList := by
    rw [hasTokens, List.contains_eq_mem, decide_eq_false_iff_not] at h
    exact h
  rw [parse, scan_of_notMem hn]
  by_cases he : text = ""
  · rw [if_pos he, if_pos (by rw [he]; rfl)]
    rfl
  · rw [if_neg he, if_neg (by simpa using he), List.map_singleton, Segment.ofPiece, String.ofList_toList]

end Template

/-! ### Looks at the form -/

namespace Work

variable {α β : Type}

/-- A look at the form on the desk that can fail and leaves the desk as it is. -/
def reading (look : Form → Except Failure α) : Work α := fun desk => (look desk.form, desk)

theorem pure_eq_reading (a : α) : (pure a : Work α) = reading fun _ => .ok a := rfl

theorem lift_eq_reading (result : Except Failure α) :
    (liftM result : Work α) = reading fun _ => result := rfl

theorem lift_ok_bind (a : α) (next : α → Work β) :
    (liftM (.ok a : Except Failure α) : Work α) >>= next = next a := rfl

theorem ask_bind {look : Form → α} {next : α → Work β} {seen : Form → Except Failure β}
    (h : ∀ desk : Desk, next (look desk.form) desk = (seen desk.form, desk)) :
    Work.ask look >>= next = reading seen := funext h

theorem reading_bind_apply {look : Form → Except Failure α} {next : α → Work β}
    {seen : α → Except Failure β} {desk : Desk} (h : ∀ a, next a desk = (seen a, desk)) :
    (reading look >>= next) desk = (look desk.form >>= seen, desk) := by
  show (ExceptT.bindCont next (look desk.form) : StateM Desk _).run desk = _
  cases look desk.form with
  | ok a => exact h a
  | error failure => rfl

/-- Looks one after the other are one look. -/
theorem reading_bind {look : Form → Except Failure α} {next : α → Work β}
    {after : α → Form → Except Failure β} (h : ∀ a, next a = reading (after a)) :
    reading look >>= next = reading fun form => look form >>= fun a => after a form :=
  funext fun _ => reading_bind_apply fun a => by rw [h a]; rfl

theorem mapM_reading {f : α → Work β} {look : α → Form → Except Failure β}
    (h : ∀ a, f a = reading (look a)) :
    ∀ as : List α, as.mapM f = reading fun form => as.mapM (look · form)
  | [] => rfl
  | a :: as => by
    simp only [List.mapM_cons]
    rw [h a, reading_bind fun b => by
      rw [mapM_reading h as, reading_bind fun bs => pure_eq_reading (b :: bs)]]
    rfl

end Work

/-! ### Tokens -/

namespace Renderer

/-- What an element token shows: the value of a visible field, or a part of it. -/
def elementText (form : Form) (format : Format) (token : Token) : Except Failure String :=
  match token.param? "id" with
  | none => .ok ""
  | some reference =>
    match fieldReference form reference with
    | (none, _) => .ok ""
    | (some field, part) =>
      let asked := orElse ((token.param? "format").getD "") format.name
      if form.isHidden field.id then .ok ""
      else if part.isEmpty then
        .ok (if asked = Format.html.name then (form.value field).markup
          else (form.value field).plain ((token.param? "separator").getD ", "))
      else ((form.value field).part part).map fun text =>
        if asked = Format.html.name then Markup.escaped text else text

/-- The report of the form in a format. -/
def reportText (form : Form) (format : Format) (token : Token) : Except Failure String :=
  if format = .html then .ok (form.markupReport (token.isOn "showEmptyFields"))
  else form.plainReport (token.isOn "showEmptyFields")

variable (renderer : Renderer) (form : Form) (format : Format) (request : Request)

/-- What a token of the form stands for. -/
def resolved (token : Token) : Except Failure Subject :=
  let email := renderer.settings.email
  let postId := form.submission.bind Submission.numericPostId
  match token.name with
  | "post" => (renderer.contentProperty postId (token.firstParamOr "ID")).map Subject.text
  | "custom_field" => (renderer.contentField postId (token.firstParamOr "")).map Subject.text
  | "referring_url" => .ok (.text ((form.submission.map Submission.referringUrl).getD ""))
  | "default_email_address" => .ok (.text email.address)
  | "default_email_name" => .ok (.text email.name)
  | "default_from_email_address" => .ok (.text email.fromAddress)
  | "default_from_email_name" => .ok (.text email.fromName)
  | "admin_email" => .ok (.text renderer.settings.site.adminEmail)
  | "element" => (elementText form format token).map Subject.text
  | "form_name" => .ok (.text form.name)
  | "entry_id" => (entryText form.entryId).map Subject.text
  | "all_form_data" => (reportText form format token).map Subject.text
  | _ => .ok .null

/-- An ambient token in a format; one of an unknown name as it is written. -/
def ambientText (token : Token) : Except Failure String :=
  (renderer.ambient? form request token).map fun
    | some text => format.encode text
    | none => token.raw

/-- A token in a format. -/
def tokenText (token : Token) : Except Failure String := do
  match ← renderer.resolved form format token with
  | .null => renderer.ambientText form format request token
  | subject =>
    if subject.isText token.raw then renderer.ambientText form format request token
    else return format.encode (← subject.plain)

/-- A segment of a template with a token replaced by what it shows. -/
def segmentText (shown : Token → Except Failure String) : Segment → Except Failure String
  | .literal s => .ok s
  | .token token => shown token

/-- A template with each token replaced by what it shows. -/
def substituted (text : String) (shown : Token → Except Failure String) :
    Except Failure String := do
  let parts ← (parse text).mapM (segmentText shown)
  return String.join parts

/-- A template with all its tokens replaced. -/
def rendered (text : String) : Except Failure String := do
  let parts ← (parse text).mapM fun
    | .literal s => .ok s
    | .token token => renderer.tokenText form format request token
  return String.join parts

/-- A template without tokens stays as it is. -/
theorem rendered_of_hasTokens_eq_false {text : String} (h : hasTokens text = false) :
    renderer.rendered form format request text = .ok text := by
  rw [rendered, parse_of_hasTokens_eq_false h]
  split
  · next he =>
    rw [he]
    rfl
  · show Except.ok (String.join [text]) = .ok text
    rw [String.join, List.foldl_cons, List.foldl_nil, String.empty_append]

/-! ### Rendering -/

/-- A template is a look at the form where each of its tokens is one. -/
theorem substitute_of_reading {replaceToken : Token → Work String}
    {shown : Token → Form → Except Failure String}
    (h : ∀ token, replaceToken token = Work.reading (shown token)) (text : String) :
    substitute text replaceToken = Work.reading fun form => substituted text (shown · form) := by
  unfold substitute substituted
  rw [Work.mapM_reading, Work.reading_bind fun parts => Work.pure_eq_reading (String.join parts)]
  · rfl
  · intro segment
    cases segment with
    | literal s => rfl
    | token token => exact h token

section idle

variable {renderer : Renderer} (h : renderer.bus.Idle)

include h

theorem elementToken_of_idle (format : Format) (token : Token) :
    renderer.elementToken format token =
      Work.reading fun form => (elementText form format token).map Subject.text := by
  unfold elementToken elementText
  apply Work.ask_bind
  intro desk
  rw [id]
  cases token.param? "id" with
  | none => rfl
  | some reference =>
      dsimp only
      rcases fieldReference desk.form reference with ⟨_ | field, part⟩
      · rfl
      · dsimp only
        cases desk.form.isHidden field.id with
        | true => rfl
        | false =>
            cases part.isEmpty with
            | true =>
                simp only [h.run]
                rfl
            | false =>
                simp only [h.run]
                cases (desk.form.value field).part part <;> rfl

theorem report_of_idle (format : Format) (token : Token) :
    renderer.report format token =
      Work.reading fun form => (reportText form format token).map Subject.text := by
  unfold report reportText
  split
  · rw [markupReport, funext fun text => h.run _ _ _]
    rfl
  · rw [plainReport]
    apply Work.ask_bind
    intro desk
    rw [id, funext fun text => h.run _ _ _]
    cases desk.form.plainReport (token.isOn "showEmptyFields") <;> rfl

theorem resolve_of_idle (format : Format) (token : Token) :
    renderer.resolve format token =
      Work.reading fun form => renderer.resolved form format token := by
  unfold resolve resolved
  rw [elementToken_of_idle h, report_of_idle h]
  apply Work.ask_bind
  intro desk
  dsimp only [id]
  generalize token.name = name
  split
  case h_13 =>
    try simp only [*]
    rfl
  all_goals rfl

theorem replaceAmbient_of_idle (format : Format) (request : Request) (token : Token) :
    renderer.replaceAmbient format request token =
      Work.reading fun form => renderer.ambientText form format request token := by
  unfold replaceAmbient ambientText
  apply Work.ask_bind
  intro desk
  rw [id]
  cases ha : renderer.ambient? desk.form request token with
  | error failure => rfl
  | ok text =>
      rw [Work.lift_ok_bind, h.run, pure_bind]
      cases text with
      | none =>
          rw [Option.getD_none, Subject.isText_text]
          rfl
      | some text =>
          rw [Option.getD_some, Subject.plain_text]
          rfl

theorem replaceToken_of_idle (format : Format) (request : Request) (token : Token) :
    renderer.replaceToken format request token =
      Work.reading fun form => renderer.tokenText form format request token := by
  unfold replaceToken tokenText
  rw [resolve_of_idle h, Work.reading_bind]
  intro subject
  split
  · exact replaceAmbient_of_idle h format request token
  · try simp only [*]
    split
    · exact replaceAmbient_of_idle h format request token
    · rw [h.run, pure_bind, Work.lift_eq_reading,
        Work.reading_bind fun text => Work.pure_eq_reading (format.encode text)]
      rfl

/-- Without extensions a template becomes what its tokens show of the form, and nothing changes. -/
theorem render_of_idle (text : String) (format : Format) (request : Request) :
    renderer.render text format request =
      Work.reading fun form => renderer.rendered form format request text :=
  substitute_of_reading (replaceToken_of_idle h format request) text

end idle

end Renderer
end FormIntake
