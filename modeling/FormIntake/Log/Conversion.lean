import FormIntake.Value.Shown
import FormIntake.Number.Significant
import FormIntake.Text.Digit

/-! # Messages with arguments

A message may hold conversions, each a percent sign with what is put there: flags, a width, a
precision and a letter for the style, and the name of the argument between parentheses if the
arguments are named.  `message?` fills them in; a conversion that cannot be read or does not fit its
argument, a missing argument and one too many leave no message.
-/

namespace FormIntake.Log

open Number Text

/-- A width or a precision. -/
inductive Measure where
  | written (n : Nat)
  /-- The next argument. -/
  | asked
  deriving DecidableEq, Repr

structure Conversion where
  key : Option String
  flags : List Char
  width : Option Measure
  precision : Option Measure
  /-- Whether a letter for a size stands before the style. -/
  sized : Bool
  style : Char
  deriving DecidableEq, Repr

inductive Piece where
  | char (c : Char)
  | conversion (c : Conversion)
  deriving DecidableEq, Repr

/-! ### Reading -/

/-- The text up to the parenthesis that closes the first one, and the text after it. -/
def untilClosed : (depth : Nat) → List Char → Option (List Char × List Char)
  | _, [] => none
  | depth, '(' :: rest => (untilClosed (depth + 1) rest).map fun (key, after) => ('(' :: key, after)
  | 0, ')' :: rest => some ([], rest)
  | depth + 1, ')' :: rest => (untilClosed depth rest).map fun (key, after) => (')' :: key, after)
  | depth, c :: rest => (untilClosed depth rest).map fun (key, after) => (c :: key, after)

/-- The name of an argument, if one is written. -/
def readKey : List Char → Option (Option String × List Char)
  | '(' :: rest => (untilClosed 0 rest).map fun (key, after) => (some (String.ofList key), after)
  | text => some (none, text)

def isFlag (c : Char) : Bool := ['-', '+', ' ', '#', '0'].contains c

/-- A width or a precision, if one is written. -/
def readMeasure : List Char → Option Measure × List Char
  | '*' :: rest => (some .asked, rest)
  | text =>
    match text.takeWhile isAsciiDigit with
    | [] => (none, text)
    | digits => (some (.written (ofDigits 10 (digits.filterMap digitValue?))), text.dropWhile isAsciiDigit)

def readPrecision : List Char → Option Measure × List Char
  | '.' :: rest =>
    let (size, after) := readMeasure rest
    (some (size.getD (.written 0)), after)
  | text => (none, text)

/-- The style of a conversion, and whether there is a letter for a size, which is passed over. -/
def readStyle : List Char → Option ((Bool × Char) × List Char)
  | [] => none
  | c :: rest =>
    if ['h', 'l', 'L'].contains c then
      match rest with
      | style :: after => some ((true, style), after)
      | [] => none
    else some ((false, c), rest)

/-- A conversion after its percent sign, and the text after it. -/
def Conversion.read (text : List Char) : Option (Conversion × List Char) := do
  let (key, text) ← readKey text
  let flags := text.takeWhile isFlag
  let (width, text) := readMeasure (text.dropWhile isFlag)
  let (precision, text) := readPrecision text
  let ((sized, style), text) ← readStyle text
  return (⟨key, flags, width, precision, sized, style⟩, text)

theorem untilClosed_length {depth : Nat} {text key after : List Char}
    (h : untilClosed depth text = some (key, after)) : after.length < text.length := by
  fun_induction untilClosed depth text generalizing key after <;>
    grind [Option.map_eq_some_iff]

theorem readKey_length {text after : List Char} {key : Option String}
    (h : readKey text = some (key, after)) : after.length ≤ text.length := by
  unfold readKey at h
  split at h
  · obtain ⟨⟨k, a⟩, hk, he⟩ := Option.map_eq_some_iff.1 h
    have := untilClosed_length hk
    grind
  · grind

theorem length_dropWhile_le (p : Char → Bool) (text : List Char) :
    (text.dropWhile p).length ≤ text.length := by
  induction text with
  | nil => simp
  | cons c rest ih => by_cases h : p c <;> simp [h]; omega

theorem readMeasure_length (text : List Char) : (readMeasure text).2.length ≤ text.length := by
  unfold readMeasure
  split
  · simp
  · split
    · simp
    · exact length_dropWhile_le _ _

theorem readPrecision_length (text : List Char) : (readPrecision text).2.length ≤ text.length := by
  unfold readPrecision
  split
  · next rest => have := readMeasure_length rest; simp; omega
  · simp

theorem readStyle_length {text after : List Char} {style : Bool × Char}
    (h : readStyle text = some (style, after)) : after.length < text.length := by
  unfold readStyle at h
  split at h
  · cases h
  · split at h
    · split at h <;> grind
    · grind

/-- Reading takes a conversion off the text. -/
theorem Conversion.read_length {text after : List Char} {c : Conversion}
    (h : Conversion.read text = some (c, after)) : after.length < text.length := by
  unfold Conversion.read at h
  simp only [Option.bind_eq_bind, Option.bind_eq_some_iff, Prod.exists, Option.pure_def,
    Option.some.injEq, Prod.mk.injEq] at h
  obtain ⟨key, t, hk, sized, style, u, hs, _, rfl⟩ := h
  have h1 := readKey_length hk
  have h2 := length_dropWhile_le isFlag t
  have h3 := readMeasure_length (t.dropWhile isFlag)
  have h4 := readPrecision_length (readMeasure (t.dropWhile isFlag)).2
  have h5 := readStyle_length hs
  omega

/-- The pieces of a message. -/
def pieces? : List Char → Option (List Piece)
  | [] => some []
  | c :: rest =>
    if c = '%' then
      match _h : Conversion.read rest with
      | some (conversion, after) => (pieces? after).map (.conversion conversion :: ·)
      | none => none
    else (pieces? rest).map (.char c :: ·)
  termination_by text => text.length
  decreasing_by
    · have := Conversion.read_length ‹_›
      simp only [List.length_cons]
      omega
    · simp

/-! ### Filling in -/

/-- What is left of the arguments: values in order, or the entries of a mapping, which can itself be
taken once. -/
inductive Arguments where
  | ordered (rest : List Value)
  | named (entries : List (Scalar × Value)) (whole : Bool)

namespace Arguments

/-- A mapping that is the only argument names its entries. -/
def ofValues : List Value → Arguments
  | [.mapping (entry :: rest)] => .named (entry :: rest) true
  | values => .ordered values

def take : Arguments → Option (Value × Arguments)
  | .ordered (v :: rest) => some (v, .ordered rest)
  | .named entries true => some (.mapping entries, .named entries false)
  | _ => none

def find (key : String) : Arguments → Option (Value × Arguments)
  | .named entries _ => (entries.lookup (.text key)).map fun v => (v, .named entries false)
  | .ordered _ => none

/-- Whether nothing is left over. -/
def isSpent : Arguments → Bool
  | .ordered rest => rest.isEmpty
  | .named .. => true

/-- The largest width or precision. -/
def maxMeasure : Nat := 0x7fffffff

/-- A width or a precision, and the arguments left. -/
def measure (size : Option Measure) (arguments : Arguments) : Option (Option Int × Arguments) := do
  match size with
  | none => return (none, arguments)
  | some (.written n) => if n ≤ maxMeasure then return (some n, arguments) else none
  | some .asked =>
    let (value, rest) ← arguments.take
    let n ← match value with
      | .int n => some n
      | .bool b => some (if b then 1 else 0)
      | _ => none
    if n.natAbs ≤ maxMeasure then return (some n, rest) else none

end Arguments

/-- The whole number that a value is; truth values are zero and one. -/
def integer? : Value → Option Int
  | .int n => some n
  | .bool b => some (if b then 1 else 0)
  | _ => none

/-- The whole number that a decimal conversion shows. -/
def whole? : Value → Option Int
  | .float x => x.truncate?
  | value => integer? value

/-- A character that is written as an escape where only the first 128 are allowed. -/
def asciiChar (c : Char) : List Char :=
  if c.toNat < 0x80 then [c]
  else if c.toNat < 0x100 then '\\' :: 'x' :: paddedHex 2 c.toNat
  else if c.toNat < 0x10000 then '\\' :: 'u' :: paddedHex 4 c.toNat
  else '\\' :: 'U' :: paddedHex 8 c.toNat

/-- A text, or a number taken apart: the sign, the mark of its base and its digits. -/
inductive Converted where
  | text (chars : List Char)
  | number (negative : Bool) (mark digits : List Char)

namespace Conversion

def has (c : Conversion) (flag : Char) : Bool := c.flags.contains flag

def upperIf (upper : Bool) (text : List Char) : List Char :=
  if upper then text.map Char.toUpper else text

/-- A value as a floating-point number is shown, in one of the three styles. -/
def float? (c : Conversion) (precision : Option Nat) (value : Value) : Option Converted := do
  let .scalar s := value | none
  let x ← s.asNumber?
  let isWhole := match s with | .float _ => false | _ => true
  if isWhole && x.ratio?.isNone then none
  let places := precision.getD 6
  let style := c.style.toLower
  let digits :=
    if style = 'e' then x.exponential places (c.has '#')
    else if style = 'g' then x.general (max 1 places) (c.has '#')
    else
      let shown := x.fixed places
      (if shown.head? = some '-' then shown.drop 1 else shown) ++
        (if c.has '#' && places = 0 then ['.'] else [])
  return .number x.isNegative [] (upperIf (c.style.isUpper) digits)

/-- The value in the conversion's style. -/
def convert? (c : Conversion) (precision : Option Nat) (value : Value) : Option Converted :=
  let cut (text : List Char) : Option Converted :=
    some (.text (match precision with | some n => text.take n | none => text))
  let based (n : Int) (base : Nat) (mark : List Char) (upper : Bool) : Option Converted :=
    let digits := padLeft '0' (precision.getD 1) (Nat.toDigits base n.natAbs)
    some (.number (n < 0) (if c.has '#' then mark else []) (upperIf upper digits))
  match c.style with
  | 's' => cut value.shown.toList
  | 'r' => cut value.literal
  | 'a' => cut (value.literal.flatMap asciiChar)
  | 'd' | 'i' | 'u' => (whole? value).bind fun n => based n 10 [] false
  | 'o' => (integer? value).bind fun n => based n 8 ['0', 'o'] false
  | 'x' => (integer? value).bind fun n => based n 16 ['0', 'x'] false
  | 'X' => (integer? value).bind fun n => based n 16 ['0', 'X'] true
  | 'e' | 'E' | 'f' | 'F' | 'g' | 'G' => c.float? precision value
  | 'c' =>
    match value with
    | .text s => if s.length = 1 then some (.text s.toList) else none
    | _ => (integer? value).bind fun n =>
      if 0 ≤ n ∧ n.toNat.isValidChar then some (.text [Char.ofNat n.toNat]) else none
  | _ => none

/-- The converted value filled up to a width. -/
def fill (c : Conversion) (width : Nat) (left : Bool) : Converted → List Char
  | .text chars => if left then chars ++ blanks chars else blanks chars ++ chars
  | .number negative mark digits =>
    let sign := if negative then ['-'] else if c.has '+' then ['+'] else if c.has ' ' then [' '] else []
    let shown := sign ++ mark ++ digits
    if left then shown ++ blanks shown
    else if c.has '0' then sign ++ mark ++ List.replicate (width - shown.length) '0' ++ digits
    else blanks shown ++ shown
where
  blanks (shown : List Char) : List Char := List.replicate (width - shown.length) ' '

/-- Whether nothing stands between the percent sign and the style. -/
def isBare (c : Conversion) : Bool :=
  c.key.isNone && c.flags.isEmpty && c.width.isNone && c.precision.isNone && !c.sized

/-- What the conversion becomes, and the arguments left. -/
def render (c : Conversion) (arguments : Arguments) : Option (List Char × Arguments) := do
  if c.key.isSome && (c.width == some .asked || c.precision == some .asked) then none
  if c.style = '%' then
    if c.isBare then return (['%'], arguments) else none
  let (width, arguments) ← arguments.measure c.width
  let (precision, arguments) ← arguments.measure c.precision
  let (value, arguments) ←
    match c.key with
    | some key => arguments.find key
    | none => arguments.take
  let converted ← c.convert? (precision.map Int.toNat) value
  let width := width.getD 0
  return (c.fill width.natAbs (c.has '-' || width < 0) converted, arguments)

end Conversion

/-- The pieces with every conversion filled in. -/
def fillPieces : List Piece → Arguments → Option (List Char)
  | [], arguments => if arguments.isSpent then some [] else none
  | .char c :: rest, arguments => (fillPieces rest arguments).map (c :: ·)
  | .conversion c :: rest, arguments => do
    let (text, arguments) ← c.render arguments
    return text ++ (← fillPieces rest arguments)

/-- A message with its arguments filled in; without arguments it stands as it is. -/
def message? (text : String) (arguments : List Value) : Option String :=
  if arguments.isEmpty then some text
  else do
    let filled ← fillPieces (← pieces? text.toList) (.ofValues arguments)
    return String.ofList filled

end FormIntake.Log
