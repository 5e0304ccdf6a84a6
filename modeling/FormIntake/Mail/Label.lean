import FormIntake.Mail.LabelChars
import FormIntake.Mail.Punycode
import FormIntake.Text.Composed
import FormIntake.Text.Mark

/-! # Labels of host names

A label is a part of a host name between dots.  It holds characters that are permitted in labels,
some of them only beside certain others, does not start with a mark, has no hyphen at its ends nor
two of them in the third and fourth place, and keeps to one writing direction.  Labels with other
than basic letters have a second form in basic letters after the start `xn--`.
-/

namespace FormIntake.Mail

open Text

/-- The writing direction that a character brings into a label. -/
inductive Direction where
  | left
  | right
  | arabicNumber
  | number
  | mark
  | neutral
  deriving DecidableEq, Repr

def Direction.of (c : Char) : Direction :=
  if rightToLeft.has c.toNat then .right
  else if arabicNumbers.has c.toNat then .arabicNumber
  else if europeanNumbers.has c.toNat then .number
  else if directionMarks.has c.toNat then .mark
  else if neutralChars.has c.toNat then .neutral
  else .left

/-- Whether a label keeps to one writing direction; only a label with letters or digits from right
to left can fail to. -/
def keepsDirection (label : List Char) : Bool :=
  let directions := label.map Direction.of
  if directions.all fun d => d ≠ .right && d ≠ .arabicNumber then true
  else
    let last := (directions.filter (· ≠ .mark)).getLast?
    match directions with
    | .right :: _ =>
      directions.all (· ≠ .left) &&
        (last = some .right || last = some .number || last = some .arabicNumber) &&
        !(directions.contains .number && directions.contains .arabicNumber)
    | .left :: _ =>
      directions.all (fun d => d ≠ .right && d ≠ .arabicNumber) &&
        (last = some .left || last = some .number)
    | _ => false

/-- The class of the marks that take a vowel away. -/
def viramaClass : Nat := 9

/-- Whether the first letter in a row of characters, seen across those that letters join through,
joins in one of two ways. -/
def joins (ways : Ranges) (chars : List Char) : Bool :=
  match chars.dropWhile fun c => joiningThrough.has c.toNat with
  | c :: _ => ways.has c.toNat || joiningBoth.has c.toNat
  | [] => false

/-- Whether a joiner or non-joiner may stand between two parts of a label; the part before it is in
reverse. -/
def joinerFits (n : Nat) (before after : List Char) : Bool :=
  let afterVirama := match before with
    | c :: _ => markClass c.toNat = viramaClass
    | [] => false
  afterVirama || (n = 0x200c && joins joiningBefore before && joins joiningAfter after)

/-- Whether a character that needs certain others beside it may stand between two parts of a
label; the part before it is in reverse. -/
def contextFits (label : List Char) (n : Nat) (before after : List Char) : Bool :=
  if n = 0xb7 then before.head? = some 'l' && after.head? = some 'l'
  else if n = 0x375 then (after.head?.map fun c => greekChars.has c.toNat).getD false
  else if n = 0x5f3 || n = 0x5f4 then (before.head?.map fun c => hebrewChars.has c.toNat).getD false
  else if n = 0x30fb then label.any fun c => c.toNat ≠ 0x30fb && eastAsianChars.has c.toNat
  else if 0x660 ≤ n && n ≤ 0x669 then label.all fun c => !(0x6f0 ≤ c.toNat && c.toNat ≤ 0x6f9)
  else if 0x6f0 ≤ n && n ≤ 0x6f9 then label.all fun c => !(0x660 ≤ c.toNat && c.toNat ≤ 0x669)
  else if n = 0x200c || n = 0x200d then joinerFits n before after
  else false

/-- Whether all characters of a label may stand where they stand. -/
def charsFit (label before : List Char) : List Char → Bool
  | [] => true
  | c :: after =>
    (labelChars.has c.toNat || contextFits label c.toNat before after) &&
      charsFit label (c :: before) after

/-- Whether hyphens stand in the third and fourth place. -/
def hasTagHyphens (label : List Char) : Bool := (label.drop 2).take 2 = ['-', '-']

/-- Whether a text is a label. -/
def isLabel (label : List Char) : Bool :=
  !label.isEmpty && composed label = label && !hasTagHyphens label &&
    label.head? ≠ some '-' && label.getLast? ≠ some '-' &&
    (label.head?.map fun c => !isMark c).getD true &&
    charsFit label [] label && keepsDirection label

/-- The start of labels in basic letters that stand for others. -/
def basicStart : List Char := "xn--".toList

/-- The longest label in basic letters. -/
def maxLabel : Nat := 63

/-- The label that a label in basic letters stands for. -/
def readBasic (label : List Char) : Option (List Char) :=
  if basicStart.isPrefixOf label then
    let body := label.drop basicStart.length
    if body.isEmpty || body.getLast? = some '-' then none
    else do
      let points ← Punycode.decode body
      let decoded := points.map Char.ofNat
      if points.all (fun n => Nat.isValidChar n) && isLabel decoded then some decoded else none
  else if isLabel label then some label
  else none

/-- A label in basic letters. -/
def writeBasic (label : List Char) : Option (List Char) :=
  let written :=
    if label.all (·.toNat < 0x80) then (readBasic label).map fun _ => label
    else if isLabel label then some (basicStart ++ Punycode.encode (label.map Char.toNat))
    else none
  written.filter (·.length ≤ maxLabel)

end FormIntake.Mail
