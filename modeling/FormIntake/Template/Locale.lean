import FormIntake.Text.Split

/-! # Date and time formats of a locale

The formats that dates and times are shown in when neither a token nor a form names one.  An unknown
locale falls back to its language part, and an unknown language to English.
-/

namespace FormIntake.Template

open Text

structure Locale where
  date : String
  time : String
  dateTime : String
  deriving DecidableEq, Repr

namespace Locale

/-- English, the locale of last resort. -/
def english : Locale := ⟨"%b %d, %Y", "%I:%M %p", "%b %d, %Y %I:%M %p"⟩

/-- The known locales. -/
def known : List (String × Locale) :=
  [("en", english),
   ("en_GB", ⟨"%d %b %Y", "%H:%M", "%d %b %Y %H:%M"⟩),
   ("de", ⟨"%d.%m.%Y", "%H:%M", "%d.%m.%Y %H:%M"⟩),
   ("es", ⟨"%d/%m/%Y", "%H:%M", "%d/%m/%Y %H:%M"⟩),
   ("fr", ⟨"%d/%m/%Y", "%H:%M", "%d/%m/%Y %H:%M"⟩),
   ("it", ⟨"%d/%m/%Y", "%H:%M", "%d/%m/%Y %H:%M"⟩),
   ("nl", ⟨"%d-%m-%Y", "%H:%M", "%d-%m-%Y %H:%M"⟩),
   ("pt_BR", ⟨"%d/%m/%Y", "%H:%M", "%d/%m/%Y %H:%M"⟩),
   ("ja", ⟨"%Y/%m/%d", "%H:%M", "%Y/%m/%d %H:%M"⟩)]

/-- The language part of a code: the text before the first hyphen or underscore. -/
def language (code : String) : String :=
  String.ofList (code.toList.takeWhile fun c => c != '-' && c != '_')

/-- The formats of a locale code. -/
def ofCode (code : String) : Locale :=
  (known.lookup code).getD ((known.lookup (language code)).getD english)

end Locale
end FormIntake.Template
