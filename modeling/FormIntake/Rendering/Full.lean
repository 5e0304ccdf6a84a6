import FormIntake.Rendering.Ambient
import FormIntake.Form.Report

/-! # Tokens of a form

Tokens that need the form that was filled in: values of fields, the entry, the report, and what the
installation and the submission say.  All other tokens are ambient ones.
-/

namespace FormIntake

open Template Text Number

namespace FieldValue

/-- One part of a value: a named one, or an option by its index.  An index in digits that are no
decimal ones cannot be read. -/
def part (value : FieldValue) (name : List Char) : Except Failure String :=
  match value with
  | .text _ => .ok ""
  | .parts entries => .ok ((entries.lookup (String.ofList name)).getD "")
  | .options items =>
    if !name.isEmpty && name.all isDigitLike then
      match readInteger name with
      | .ok index => .ok ((items[index.toNat]?).getD "")
      | .error fault => .error (.ofIntegerFault name fault)
    else .ok ""

end FieldValue

namespace Renderer

/-- The field that a reference names, with the name of a part behind the first point. -/
def fieldReference (form : Form) (reference : String) :
    Option (Definition.Field Validator) × List Char :=
  let (id, part) := splitFirst '.' reference.toList
  ((readInteger? id).bind form.field?, part.getD [])

/-- The value of a visible field, or a part of it. -/
def elementToken (renderer : Renderer) (format : Format) (token : Token) : Work Subject := do
  let form ← Work.ask id
  match token.param? "id" with
  | none => return .text ""
  | some reference =>
    match fieldReference form reference with
    | (none, _) => return .text ""
    | (some field, part) =>
      if form.isHidden field.id then return .text ""
      let asked := orElse ((token.param? "format").getD "") format.name
      let separator := (token.param? "separator").getD ", "
      let value := form.value field
      let text ←
        if part.isEmpty then
          pure (if asked = Format.html.name then value.markup else value.plain separator)
        else do
          let text ← (value.part part : Except Failure _)
          pure (if asked = Format.html.name then Markup.escaped text else text)
      renderer.bus.run .elementValue (.text text)
        [("element", .element field.id), ("fmt", .given (.text asked)),
         ("separator", .given (.text separator)), ("token", .token token)]

/-- The report of the form as text. -/
def plainReport (renderer : Renderer) (showEmpty : Bool) : Work Subject := do
  let form ← Work.ask id
  let text ← (form.plainReport showEmpty : Except Failure _)
  renderer.bus.run .allDataText (.text text)
    [("form", .form), ("show_empty_fields", .given (.data (.bool showEmpty)))]

/-- The report of the form as markup. -/
def markupReport (renderer : Renderer) (showEmpty : Bool) : Work Subject := do
  let text ← Work.ask fun form => form.markupReport showEmpty
  renderer.bus.run .allDataHtml (.text text)
    [("form", .form), ("show_empty_fields", .given (.data (.bool showEmpty)))]

def report (renderer : Renderer) (format : Format) (token : Token) : Work Subject :=
  let showEmpty := token.isOn "showEmptyFields"
  if format = .html then renderer.markupReport showEmpty else renderer.plainReport showEmpty

/-- The number of an entry as a text, if it has one; nothing without an entry. -/
def entryText : Option Int → Except Failure String
  | some id => (Subject.data (.int id)).plain
  | none => .ok ""

/-- What a token of the form stands for; null for a name that is not known. -/
def resolve (renderer : Renderer) (format : Format) (token : Token) : Work Subject := do
  let form ← Work.ask id
  let email := renderer.settings.email
  let postId := form.submission.bind Submission.numericPostId
  match token.name with
  | "post" => (renderer.contentProperty postId (token.firstParamOr "ID")).map Subject.text
  | "custom_field" => (renderer.contentField postId (token.firstParamOr "")).map Subject.text
  | "referring_url" => return .text ((form.submission.map Submission.referringUrl).getD "")
  | "default_email_address" => return .text email.address
  | "default_email_name" => return .text email.name
  | "default_from_email_address" => return .text email.fromAddress
  | "default_from_email_name" => return .text email.fromName
  | "admin_email" => return .text renderer.settings.site.adminEmail
  | "element" => renderer.elementToken format token
  | "form_name" => return .text form.name
  | "entry_id" => (entryText form.entryId).map Subject.text
  | "all_form_data" => renderer.report format token
  | _ => return .null

/-- A token in a format.  One that is not resolved, or to its own source, is an ambient one. -/
def replaceToken (renderer : Renderer) (format : Format) (request : Request) (token : Token) :
    Work String := do
  match ← renderer.resolve format token with
  | .null => renderer.replaceAmbient format request token
  | resolved =>
    if resolved.isText token.raw then renderer.replaceAmbient format request token
    else
      let replaced ← renderer.bus.run .token resolved
        [("token", .token token), ("fmt", .given (.text format.name)), ("form", .form)]
      return format.encode (← (replaced.plain : Except Failure _))

/-- A template with all its tokens replaced. -/
def render (renderer : Renderer) (text : String) (format : Format) (request : Request) :
    Work String :=
  substitute text (renderer.replaceToken format request)

end Renderer
end FormIntake
