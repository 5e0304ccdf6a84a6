import FormIntake.Mail.Label
import FormIntake.Mail.Mapping
import FormIntake.Text.Printable

/-! # Host names

A host name is labels with dots between them.  After its characters are mapped, each label has to
be one, the name has to have a dot and to end in a letter, and it must not lie under a name that is
set aside for special use.
-/

namespace FormIntake.Mail

open Text

/-- The longest host name in basic letters. -/
def maxHost : Nat := 253

/-- The names that are set aside. -/
def reservedNames : List (List Char) :=
  ["arpa", "invalid", "local", "localhost", "onion", "test"].map (·.toList)

/-- Whether a character may stand in a host name before it is mapped. -/
def isHostChar (c : Char) : Bool :=
  c.isAlphanum || c = '-' || c = '.' || 0x80 ≤ c.toNat

/-- Whether no character of a text is unsafe: unsafe are control and unassigned characters, spaces
other than the plain one, and a mark at the start. -/
def isSafe (text : List Char) : Bool :=
  text.all isPrintable && (text.head?.map fun c => !isMark c).getD true

/-- Whether dots and hyphens stand only inside of names and labels. -/
def hasLooseEnds (labels : List (List Char)) : Bool :=
  labels.any fun label => label.isEmpty || label.head? = some '-' || label.getLast? = some '-'

/-- Whether a label looks as if it were written in some other form: two characters other than the
known start, and two hyphens. -/
def hasUnknownTag (label : List Char) : Bool :=
  hasTagHyphens label && lower (label.take 2) ≠ ['x', 'n']

/-- A label of letters, digits and hyphens. -/
def isPlainLabel (label : List Char) : Bool := label.all fun c => c.isAlphanum || c = '-'

/-- A host name after its characters are mapped. -/
def mapHost (host : List Char) : Option (List Char) :=
  (host.mapM mapChar?).map fun pieces => composed pieces.flatten

/-- Whether the name is one of a list or lies under it. -/
def liesUnder (host name : List Char) : Bool := host = name || ('.' :: name).isSuffixOf host

/-- The two forms of a host name: with all characters, and in basic letters. -/
structure HostName where
  shown : List Char
  basic : List Char
  deriving DecidableEq, Repr

/-- The labels of a name in basic letters. -/
def basicLabels (labels : List (List Char)) : Option (List (List Char)) :=
  if labels.all isPlainLabel then some labels else labels.mapM writeBasic

/-- A host name from its text. -/
def HostName.read (host : List Char) : Option HostName := do
  if !(host.all isHostChar && isSafe host) then failure
  let mapped ← mapHost host
  let labels := splitOn '.' mapped
  if !mapped.all isHostChar || hasLooseEnds labels || labels.any hasUnknownTag then failure
  let basics ← basicLabels labels
  let basic := join ['.'] basics
  if maxHost < basic.length || basics.any (maxLabel < ·.length) || basics.length < 2 then failure
  if !((basic.getLast?.map Char.isAlpha).getD false) then failure
  if reservedNames.any (liesUnder basic) then failure
  let shown ← (basics.map lower).mapM readBasic
  if !((shown.all fun label => label.all isHostChar) && isSafe mapped) then failure
  let again ← shown.mapM writeBasic
  if maxHost < (join ['.'] again).length then failure
  return ⟨join ['.'] shown, basic⟩

end FormIntake.Mail
