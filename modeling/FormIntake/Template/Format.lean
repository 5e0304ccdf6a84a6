import FormIntake.Text.Percent

/-! # Output formats

The format that a template is rendered in.  Text and HTML take resolved values as they are; the two
URL formats percent-encode each of them, one with a plus sign for a space and one without.
-/

namespace FormIntake.Template

open Text

inductive Format where
  | text
  | html
  | url
  | rawurl
  deriving DecidableEq, Repr

namespace Format

/-- All formats. -/
def all : List Format := [.text, .html, .url, .rawurl]

def name : Format → String
  | .text => "text"
  | .html => "html"
  | .url => "url"
  | .rawurl => "rawurl"

/-- The format of a name. -/
def ofName? (name : String) : Option Format := all.find? (·.name = name)

/-- A resolved value as it stands in the output. -/
def encode (format : Format) (value : String) : String :=
  match format with
  | .url => String.ofList (formEncode value.toList)
  | .rawurl => String.ofList (percentEncode value.toList)
  | _ => value

end Format
end FormIntake.Template
