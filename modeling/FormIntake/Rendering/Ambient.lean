import FormIntake.Rendering.Renderer
import FormIntake.Calendar.Format
import FormIntake.Template.Locale
import FormIntake.Template.Segment
import FormIntake.Submission.Request

/-! # Ambient tokens

Tokens that do without submitted values: the site, the request and its visitor, contents, dates and
unique names.  A token of another name stays as it is written, unless an extension claims it.
-/

namespace FormIntake

open Template Calendar

/-- A text with one to stand in for it when it is empty. -/
def orElse (text other : String) : String := if text = "" then other else text

namespace Renderer

/-- The time in a format: the one that the token gives, that of the form, or that of its locale. -/
def timeText (renderer : Renderer) (token : Token) (ofForm ofLocale : String) :
    Except Failure String :=
  match renderer.now.shownIn? renderer.zone with
  | some t => .ok (t.format ((token.param? "format").getD (orElse ofForm ofLocale)))
  | none => .error .outsideCalendar

/-- What an ambient token stands for; none for a name that is not known. -/
def ambient? (renderer : Renderer) (form : Form) (request : Request) (token : Token) :
    Except Failure (Option String) :=
  let site := renderer.settings.site
  let locale := Locale.ofCode form.definition.locale
  let ofUser (look : User → Value) : Except Failure String :=
    match request.user with
    | some user => (Subject.data (look user)).plain
    | none => .ok ""
  match token.name with
  | "site_title" => .ok (some site.title)
  | "site_tagline" => .ok (some site.tagline)
  | "ip" => .ok (some request.address)
  | "post" => some <$> renderer.contentProperty request.postId (token.firstParamOr "ID")
  | "custom_field" => some <$> renderer.contentField request.postId (token.firstParamOr "")
  | "url" => .ok (some request.url)
  | "user" => some <$> ofUser (·.property (token.firstParamOr "display_name"))
  | "user_meta" => some <$> ofUser (·.fact (token.firstParamOr ""))
  | "referring_url" => .ok (some request.referrer)
  | "user_agent" => .ok (some request.agent)
  | "date" => some <$> renderer.timeText token form.definition.dateFormat locale.date
  | "time" => some <$> renderer.timeText token form.definition.timeFormat locale.time
  | "datetime" => some <$> renderer.timeText token form.definition.dateTimeFormat locale.dateTime
  | "uniqid" =>
    .ok (some (renderer.uniqueId ((token.param? "prefix").getD "") (token.isOn "moreEntropy")))
  | _ => .ok none

/-- An ambient token in a format.  Extensions are shown an unknown one as it is written, and if they
leave it so it stays without encoding. -/
def replaceAmbient (renderer : Renderer) (format : Format) (request : Request) (token : Token) :
    Work String := do
  let resolved ← (renderer.ambient? (← Work.ask id) request token : Except Failure _)
  let replaced ← renderer.bus.run .ambientToken (.text (resolved.getD token.raw))
    [("token", .token token), ("fmt", .given (.text format.name))]
  if resolved.isNone && replaced.isText token.raw then return token.raw
  return format.encode (← (replaced.plain : Except Failure _))

/-- A template with its tokens replaced one after the other. -/
def substitute (text : String) (replaceToken : Token → Work String) : Work String := do
  let parts ← (parse text).mapM fun
    | .literal s => return s
    | .token token => replaceToken token
  return String.join parts

/-- A template with its ambient tokens replaced. -/
def renderAmbient (renderer : Renderer) (text : String) (format : Format) (request : Request) :
    Work String :=
  substitute text (renderer.replaceAmbient format request)

end Renderer
end FormIntake
