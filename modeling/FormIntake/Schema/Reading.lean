import FormIntake.Schema.Checked
import FormIntake.Number.Integer

/-! # Reading fields of a definition

The readers for the plain fields of definitions and settings.  They are lenient: truth values may
be written as words or as zero and one, whole numbers as text or as floating-point numbers without
a fraction.  Texts and lists are taken as they are.
-/

namespace FormIntake.Schema

open Number Text

abbrev Entries := List (Scalar × Value)

/-- A reader of one kind of value. -/
abbrev Reader (α : Type) := Value → Checked α

/-- The words for false and for true, whatever their letter case. -/
def falseWords : List String := ["0", "off", "f", "false", "n", "no"]

def trueWords : List String := ["1", "on", "t", "true", "y", "yes"]

/-- A text as a truth value. -/
def readBoolWord (text : String) : Option Bool :=
  let word := text.map Char.toLower
  if falseWords.contains word then some false
  else if trueWords.contains word then some true
  else none

/-- The whole numbers of 64 bits. -/
def fitsInt64 (n : Int) : Bool := -0x8000000000000000 ≤ n && n < 0x8000000000000000

/-- A whole number as a truth value. -/
def boolOfInt (n : Int) : Checked Bool :=
  if n = 0 then .valid false else if n = 1 then .valid true else .fail .unreadableBool

def bool : Reader Bool
  | .bool b => .valid b
  | .text s => match readBoolWord s with
    | some b => .valid b
    | none => .fail .unreadableBool
  | .int n => if fitsInt64 n then boolOfInt n else .fail .notBool
  | .float x => match x.whole? with
    | some n => if fitsInt64 n then boolOfInt n else .fail .notBool
    | none => .fail .notBool
  | _ => .fail .notBool

/-- Digits from the first that counts on, where `previous` is a zero or an underscore that was
passed; the last zero counts if no other digit follows before a point or the end. -/
def fromFirstDigit (previous : Char) : List Char → Option (List Char)
  | [] => some [previous]
  | c :: rest =>
    if c = '0' || c = '_' then fromFirstDigit c rest
    else if c = '.' then some (previous :: c :: rest)
    else if isAsciiDigit c then some (c :: rest)
    else none

/-- A written number without leading zeros; one with a minus sign keeps them. -/
def withoutLeadingZeros : List Char → Option (List Char)
  | '0' :: rest => fromFirstDigit '0' rest
  | c :: rest => if c = '-' || isAsciiDigit c then some (c :: rest) else none
  | [] => none

/-- A written number without a plus sign in front. -/
def withoutPlus : List Char → List Char
  | '+' :: '-' :: rest => '+' :: '-' :: rest
  | '+' :: rest => rest
  | text => text

/-- A written number without a fraction of zeros. -/
def withoutFraction (text : List Char) : List Char :=
  match splitFirst '.' text with
  | (whole, some fraction) => if fraction.all (· = '0') then whole else text
  | _ => text

/-- Whether two underscores stand side by side. -/
def hasDoubleJoin : List Char → Bool
  | '_' :: '_' :: _ => true
  | _ :: rest => hasDoubleJoin rest
  | [] => false

/-- A written number without single underscores inside of it. -/
def withoutJoins (text : List Char) : List Char :=
  if text.head? = some '_' || text.getLast? = some '_' || hasDoubleJoin text then text
  else text.filter (· ≠ '_')

/-- Digits with a minus sign in front or not, and no zero before another digit. -/
def readDigits (text : List Char) : Option Int :=
  let (negative, digits) := match text with
    | '-' :: rest => (true, rest)
    | _ => (false, text)
  if digits.isEmpty || !digits.all isAsciiDigit then none
  else if digits.head? = some '0' && digits.length > 1 then none
  else some (signed negative (ofDigits 10 (digits.map fun c => c.toNat - 48)))

/-- A text as a whole number. -/
def readWholeText (text : String) : Checked Int :=
  if 4300 < text.toList.length then .fail .oversizedInt
  else
    let body := withoutLeadingZeros (withoutPlus (unpadded text.toList))
    match body.bind fun digits => readDigits (withoutJoins (withoutFraction digits)) with
    | some n => .valid n
    | none => .fail .unreadableInt

def int : Reader Int
  | .int n => .valid n
  | .bool b => .valid (if b then 1 else 0)
  | .float x => match x.whole? with
    | some n => if fitsInt64 n then .valid n else .fail .oversizedInt
    | none => .fail (if x.truncate?.isSome then .fractionalInt else .infiniteInt)
  | .text s => readWholeText s
  | _ => .fail .notInt

def positiveInt : Reader Int := fun v =>
  (int v).ensure fun n => if 0 < n then none else some .notPositive

def naturalInt : Reader Int := fun v =>
  (int v).ensure fun n => if 0 ≤ n then none else some .negative

def text : Reader String
  | .text s => .valid s
  | _ => .fail .notText

/-- A value that may be left empty. -/
def nullable {α : Type} (reader : Reader α) : Reader (Option α)
  | .null => .valid none
  | v => (reader v).map some

/-- A value as it is. -/
def anything : Reader Value := .valid

/-- One of the things that have names. -/
def oneOf {α : Type} (all : List α) (name : α → String) : Reader α := fun v =>
  match v with
  | .text s => match all.find? (fun a => name a = s) with
    | some a => .valid a
    | none => .fail (.notOneOf (all.map name))
  | _ => .fail (.notOneOf (all.map name))

/-- The items of a list, each under its index. -/
def items {α : Type} (reader : Reader α) (index : Nat) : List Value → List (Checked α)
  | [] => []
  | v :: rest =>
    (reader v).within (String.ofList (decimal index)) :: items reader (index + 1) rest

def list {α : Type} (reader : Reader α) : Reader (List α)
  | .list values => .all (items reader 0 values)
  | _ => .fail .notList

/-- The place of a mapping's entry. -/
def keyPlace : Scalar → String
  | .text s => s
  | .bool b => if b then "1" else "0"
  | s => s.shown

/-- An entry of a mapping with text keys. -/
def entry {α : Type} (reader : Reader α) (e : Scalar × Value) : Checked (String × α) :=
  let key : Checked String := match e.1 with
    | .text s => .valid s
    | _ => ((Checked.fail .notText).within "[key]").within (keyPlace e.1)
  .seq (key.map Prod.mk) ((reader e.2).within (keyPlace e.1))

/-- A mapping with text keys. -/
def mapping {α : Type} (reader : Reader α) : Reader (List (String × α))
  | .mapping entries => .all (entries.map (entry reader))
  | _ => .fail .notMapping

/-- A record with named fields, of which unknown ones are left aside. -/
def record {α : Type} (model : String) (fields : Entries → Checked α) : Reader α
  | .mapping entries => fields entries
  | _ => .fail (.notRecord model)

/-- A field that has to be there. -/
def must {α : Type} (key : String) (reader : Reader α) (entries : Entries) : Checked α :=
  match entries.lookup (.text key) with
  | some v => (reader v).within key
  | none => (Checked.fail .missing).within key

/-- A field with a value for the case that it is left out. -/
def may {α : Type} (key : String) (default : α) (reader : Reader α) (entries : Entries) :
    Checked α :=
  match entries.lookup (.text key) with
  | some v => (reader v).within key
  | none => .valid default

end FormIntake.Schema
