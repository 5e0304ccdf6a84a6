import FormIntake.Pattern.Tree
import FormIntake.Number.Integer

/-! # Reading patterns

`read` turns the text of a pattern into a pattern.  Special characters are
`. ^ $ * + ? ( ) [ \ |` and the opening brace of a counted repetition; a backslash takes their
meaning away or names a class, a place or a group.  Letters after `(?` set options: `i` ignores
case, `m` lets `^` and `$` match at every line, `s` lets the dot match a line feed, `x` skips blanks
and comments, `a` keeps classes to ASCII.  A text that is no pattern has a `Fault`, and so has one
with groups nested too deeply for the stack.  Of this the machine decides (`Support`), which also knows
the names of characters.
-/

namespace FormIntake.Pattern

open Text Number

/-- Why a text is no pattern. -/
inductive Fault where
  | badEscape
  | unterminatedSet
  | badRange
  | nothingToRepeat
  | multipleRepeat
  | reversedCount
  | countTooLarge
  | unterminatedGroup
  | unbalanced
  | unknownExtension
  | unexpectedEnd
  | badGroupName
  | unknownGroup
  | openGroup
  | groupInLookBehind
  | repeatedGroupName
  | badGroupNumber
  | tooManyBranches
  | badOptions
  | lateOptions
  | mixedAlphabets
  | variableWidth
  | tooDeep
  deriving DecidableEq, Repr

/-- What the machine has for the reading of patterns. -/
structure Support where
  /-- Whether the stack overflows over a pattern. -/
  overflows : List Char → Bool := fun _ => false
  /-- The character of a name. -/
  named : String → Option Char := fun _ => none

/-- The options in force. -/
structure Options where
  ignoreCase : Bool
  multiLine : Bool
  dotAll : Bool
  verbose : Bool
  ascii : Bool
  deriving DecidableEq, Repr

def Options.none : Options := ⟨false, false, false, false, false⟩

/-- The options of either. -/
def Options.join (o p : Options) : Options :=
  { ignoreCase := o.ignoreCase || p.ignoreCase
    multiLine := o.multiLine || p.multiLine
    dotAll := o.dotAll || p.dotAll
    verbose := o.verbose || p.verbose
    ascii := o.ascii || p.ascii }

/-- What has been read and what is left. -/
structure Reading where
  rest : List Char
  /-- Options that hold for the whole pattern. -/
  options : Options
  /-- The letters of these options. -/
  letters : List Char
  /-- The number of groups opened so far. -/
  opened : Nat
  names : List (String × Nat)
  /-- The closed groups and the lengths that they match. -/
  closed : List (Nat × Nat × Option Nat)
  /-- The groups that were open before the look behind that is being read. -/
  behind : Option Nat
  /-- The groups that conditions ask for by number. -/
  asked : List Nat

/-- What a repetition can be put on. -/
inductive ItemKind where
  | plain
  | place
  | repetition
  deriving DecidableEq

def Options.caseRule (o : Options) : CaseRule :=
  if !o.ignoreCase then .exact else if o.ascii then .foldAscii else .fold

def isOctal (c : Char) : Bool := '0' ≤ c && c ≤ '7'

/-- The value of octal digits. -/
def readOctal (digits : List Char) : Nat := ofDigits 8 (digits.map fun c => c.toNat - 48)

/-- The control character that a letter after a backslash stands for. -/
def controlEscape? : Char → Option Char
  | 'a' => some '\x07'
  | 'f' => some '\x0c'
  | 'n' => some '\n'
  | 'r' => some '\r'
  | 't' => some '\t'
  | 'v' => some '\x0b'
  | '\\' => some '\\'
  | _ => none

/-- The class that a letter after a backslash names. -/
def classEscape? (ascii : Bool) : Char → Option SetItem
  | 'd' => some (.ofClass .decimal ascii false)
  | 'D' => some (.ofClass .decimal ascii true)
  | 's' => some (.ofClass .blank ascii false)
  | 'S' => some (.ofClass .blank ascii true)
  | 'w' => some (.ofClass .word ascii false)
  | 'W' => some (.ofClass .word ascii true)
  | _ => none

/-- The place that a letter after a backslash names. -/
def placeEscape? (ascii : Bool) : Char → Option Place
  | 'A' => some .textStart
  | 'Z' => some .textEnd
  | 'b' => some (.boundary ascii)
  | 'B' => some (.inside ascii)
  | _ => none

/-- A character given by a number of hexadecimal digits. -/
def hexEscape (count : Nat) (text : List Char) : Except Fault (Char × List Char) :=
  let digits := (text.take count).takeWhile isHexDigit
  let n := readHex digits
  if digits.length = count && n < 0x110000 then .ok (Char.ofNat n, text.drop count)
  else .error .badEscape

section names

variable (named : String → Option Char)

/-- A character given by its name in braces. -/
def nameEscape : List Char → Except Fault (Char × List Char)
  | '\x7b' :: rest =>
    match splitFirst '\x7d' rest with
    | (_, none) => .error .badEscape
    | (name, some rest) =>
      match named (String.ofList name) with
      | some c => .ok (c, rest)
      | none => .error .badEscape
  | _ => .error .badEscape

/-- A character after a backslash that names it by a code, `x`, `u` or `U`, or by its name, `N`. -/
def codeEscape? (letter : Char) (text : List Char) : Option (Except Fault (Char × List Char)) :=
  match letter with
  | 'N' => some (nameEscape named text)
  | 'x' => some (hexEscape 2 text)
  | 'u' => some (hexEscape 4 text)
  | 'U' => some (hexEscape 8 text)
  | _ => none

/-- A backslash inside a set: a character or a class. -/
def readSetEscape (ascii : Bool) : List Char → Except Fault (SetItem × List Char)
  | [] => .error .badEscape
  | 'b' :: rest => .ok (.char '\x08', rest)
  | letter :: rest =>
    match controlEscape? letter, classEscape? ascii letter, codeEscape? named letter rest with
    | some c, _, _ => .ok (.char c, rest)
    | _, some item, _ => .ok (item, rest)
    | _, _, some code => code.map fun (c, rest) => (.char c, rest)
    | _, _, _ =>
      if isOctal letter then
        let more := (rest.take 2).takeWhile isOctal
        let n := readOctal (letter :: more)
        if n ≤ 0xff then .ok (.char (Char.ofNat n), rest.drop more.length) else .error .badEscape
      else if isAsciiDigit letter || letter.isAlpha then .error .badEscape
      else .ok (.char letter, rest)

/-- A member of a set. -/
def readSetMember (ascii : Bool) : List Char → Except Fault (SetItem × List Char)
  | [] => .error .unterminatedSet
  | '\\' :: rest => readSetEscape named ascii rest
  | c :: rest => .ok (.char c, rest)

/-- The members of a set up to its closing bracket, which may come first as a member. -/
def readSet (ascii : Bool) :
    (fuel : Nat) → (found : List SetItem) → List Char → Except Fault (List SetItem × List Char)
  | 0, _, _ => .error .unterminatedSet
  | _ + 1, _, [] => .error .unterminatedSet
  | fuel + 1, found, c :: text => do
    if c = ']' && !found.isEmpty then return (found.reverse, text)
    let (low, rest) ← readSetMember named ascii (c :: text)
    match rest with
    | '-' :: rest =>
      match rest with
      | [] => throw .unterminatedSet
      | ']' :: rest => return ((.char '-' :: low :: found).reverse, rest)
      | _ =>
        let (high, rest) ← readSetMember named ascii rest
        match low, high with
        | .char a, .char b =>
          if b < a then throw .badRange else readSet ascii fuel (.range a b :: found) rest
        | _, _ => throw .badRange
    | _ => readSet ascii fuel (low :: found) rest

/-- A count in braces after the opening one: least, greatest, and the rest; `none` where the brace
stands for itself. -/
def readCount (text : List Char) : Option (Nat × Option Nat × List Char) :=
  let digits := text.takeWhile isAsciiDigit
  let rest := text.drop digits.length
  let value (d : List Char) : Nat := ofDigits 10 (d.map fun c => c.toNat - 48)
  match text, rest with
  | '\x7d' :: _, _ => none
  | _, ',' :: rest =>
    let more := rest.takeWhile isAsciiDigit
    match rest.drop more.length with
    | '\x7d' :: rest => some (value digits, if more.isEmpty then none else some (value more), rest)
    | _ => none
  | _, '\x7d' :: rest => some (value digits, some (value digits), rest)
  | _, _ => none

/-- The bound of repetition counts. -/
def maxCount : Nat := 4294967295

/-- The text up to a closing character, which must be there, and the text after it. -/
def readUntil (stop : Char) (text : List Char) : Except Fault (List Char × List Char) :=
  match splitFirst stop text with
  | (_, none) => .error .badGroupName
  | (name, some rest) => if name.isEmpty then .error .badGroupName else .ok (name, rest)

/-- Whether a text can name a group. -/
def isName (text : List Char) : Bool :=
  match text with
  | [] => false
  | c :: _ => text.all isWordChar && !isDigitLike c

/-- A reference to a group: it must be closed, and outside the look behind being read. -/
def refer (state : Reading) (number : Nat) : Except Fault Unit := do
  if (state.closed.lookup number).isNone then throw .openGroup
  match state.behind with
  | some opened => if opened < number then throw .groupInLookBehind
  | none => pure ()

/-- A set of one character. -/
def oneChar (o : Options) (c : Char) : Tree := .oneOf [.char c] false o.caseRule

/-- A reference to a group by its number. -/
def sameAs (o : Options) (state : Reading) (number : Nat) : Except Fault ((Tree × ItemKind) × Reading) := do
  refer state number
  return ((.same number o.caseRule, .plain), state)

/-- A digit after a backslash: a character in octal or a reference to a group. -/
def readDigitEscape (o : Options) (state : Reading) (digit : Char) (rest : List Char) :
    Except Fault ((Tree × ItemKind) × Reading) :=
  let char (n : Nat) (rest : List Char) : Except Fault ((Tree × ItemKind) × Reading) :=
    .ok ((oneChar o (Char.ofNat n), .plain), { state with rest := rest })
  let group (n : Nat) (rest : List Char) : Except Fault ((Tree × ItemKind) × Reading) :=
    if n ≤ state.opened then sameAs o { state with rest := rest } n else .error .unknownGroup
  if digit = '0' then
    let more := (rest.take 2).takeWhile isOctal
    char (readOctal more) (rest.drop more.length)
  else
    match rest with
    | second :: third :: more =>
      if isAsciiDigit second then
        if isOctal digit && isOctal second && isOctal third then
          let n := readOctal [digit, second, third]
          if n ≤ 0xff then char n more else .error .badEscape
        else group ((digit.toNat - 48) * 10 + (second.toNat - 48)) (third :: more)
      else group (digit.toNat - 48) rest
    | [second] =>
      if isAsciiDigit second then group ((digit.toNat - 48) * 10 + (second.toNat - 48)) []
      else group (digit.toNat - 48) rest
    | [] => group (digit.toNat - 48) rest

/-- A backslash outside sets. -/
def readEscape (o : Options) (state : Reading) : List Char → Except Fault ((Tree × ItemKind) × Reading)
  | [] => .error .badEscape
  | letter :: rest =>
    let done (p : Tree) (kind : ItemKind) (rest : List Char) : Except Fault ((Tree × ItemKind) × Reading) :=
      .ok ((p, kind), { state with rest := rest })
    match placeEscape? o.ascii letter, classEscape? o.ascii letter, controlEscape? letter with
    | some place, _, _ => done (.place place) .place rest
    | _, some item, _ => done (.oneOf [item] false o.caseRule) .plain rest
    | _, _, some c => done (oneChar o c) .plain rest
    | _, _, _ =>
      match codeEscape? named letter rest with
      | some code => do
        let (c, rest) ← code
        done (oneChar o c) .plain rest
      | none =>
        if isAsciiDigit letter then readDigitEscape o state letter rest
        else if letter.isAlpha then .error .badEscape
        else done (oneChar o letter) .plain rest

/-- The letters that name options. -/
def isOptionLetter (c : Char) : Bool := ['i', 'L', 'm', 's', 'x', 'a', 'u'].contains c

/-- The options with one switched. -/
def switch (on : Bool) (o : Options) : Char → Options
  | 'i' => { o with ignoreCase := on }
  | 'm' => { o with multiLine := on }
  | 's' => { o with dotAll := on }
  | 'x' => { o with verbose := on }
  | 'a' => { o with ascii := on }
  | 'u' => { o with ascii := !on }
  | _ => o

/-- Whether letters may be switched on together. -/
def canSwitchOn (letters : List Char) : Bool :=
  letters.all isOptionLetter && !letters.contains 'L' &&
    !(letters.contains 'a' && letters.contains 'u')

/-- Option letters after `(?`: those switched on, those switched off, and whether the options hold
for the whole pattern. -/
def readOptions (text : List Char) :
    Except Fault ((List Char × List Char × Bool) × List Char) :=
  let on := text.takeWhile fun c => c.isAlpha
  let rest := text.drop on.length
  if !canSwitchOn on then .error .badOptions
  else
    match rest with
    | ')' :: rest => .ok ((on, [], true), rest)
    | ':' :: rest => .ok ((on, [], false), rest)
    | '-' :: rest =>
      let off := rest.takeWhile fun c => c.isAlpha
      if off.isEmpty || !off.all isOptionLetter || off.any (fun c => c = 'a' || c = 'u' || c = 'L')
          || off.any on.contains then .error .badOptions
      else
        match rest.drop off.length with
        | ':' :: rest => .ok ((on, off, false), rest)
        | _ => .error .badOptions
    | _ => .error .badOptions

/-- Opens a group, with a name perhaps. -/
def openGroup (state : Reading) (name : Option (List Char)) : Except Fault (Nat × Reading) :=
  let number := state.opened + 1
  match name with
  | none => .ok (number, { state with opened := number })
  | some name =>
    let name := String.ofList name
    if (state.names.lookup name).isSome then .error .repeatedGroupName
    else .ok (number, { state with opened := number, names := (name, number) :: state.names })

/-- The text after a closing parenthesis, which must be there. -/
def closeGroup (state : Reading) : Except Fault Reading :=
  match state.rest with
  | ')' :: rest => .ok { state with rest := rest }
  | _ => .error .unterminatedGroup

/-- What follows `(?`: how the group is to be read. -/
inductive Opening where
  | capture (name : Option (List Char))
  | plain (options : Options)
  | committed
  | comment
  | whole (letters : List Char)
  | ahead (negated : Bool)
  | behind (negated : Bool)
  | named (name : List Char)
  | condition (name : List Char)

/-- The kind of a group after its opening parenthesis. -/
def readOpening (o : Options) : List Char → Except Fault (Opening × List Char)
  | '?' :: rest =>
    match rest with
    | [] => .error .unexpectedEnd
    | 'P' :: '<' :: rest => do
      let (name, rest) ← readUntil '>' rest
      if isName name then return (.capture (some name), rest) else throw .badGroupName
    | 'P' :: '=' :: rest => do
      let (name, rest) ← readUntil ')' rest
      if isName name then return (.named name, rest) else throw .badGroupName
    | ['P'] => .error .unexpectedEnd
    | 'P' :: _ => .error .unknownExtension
    | ':' :: rest => .ok (.plain o, rest)
    | '>' :: rest => .ok (.committed, rest)
    | '#' :: rest =>
      match splitFirst ')' rest with
      | (_, none) => .error .unterminatedGroup
      | (_, some rest) => .ok (.comment, rest)
    | '=' :: rest => .ok (.ahead false, rest)
    | '!' :: rest => .ok (.ahead true, rest)
    | '<' :: '=' :: rest => .ok (.behind false, rest)
    | '<' :: '!' :: rest => .ok (.behind true, rest)
    | ['<'] => .error .unexpectedEnd
    | '<' :: _ => .error .unknownExtension
    | '(' :: rest => do
      let (name, rest) ← readUntil ')' rest
      return (.condition name, rest)
    | c :: _ =>
      if isOptionLetter c || c = '-' then do
        let ((on, off, whole), rest) ← readOptions rest
        if whole then return (.whole on, rest)
        else return (.plain (off.foldl (switch false) (on.foldl (switch true) o)), rest)
      else .error .unknownExtension
  | rest => .ok (.capture none, rest)

/-- The number of the group that a condition asks for. -/
def conditionGroup (state : Reading) (name : List Char) : Except Fault (Nat × Reading) :=
  if isName name then
    match state.names.lookup (String.ofList name) with
    | some n => .ok (n, state)
    | none => .error .unknownGroup
  else
    match readInteger? name with
    | some (.ofNat 0) => .error .badGroupNumber
    | some (.ofNat n) => .ok (n, { state with asked := n :: state.asked })
    | _ => .error .badGroupName

/-- The text after blanks and comments, where these are skipped. -/
def skipComments (verbose : Bool) : (fuel : Nat) → List Char → List Char
  | 0, text => text
  | fuel + 1, text =>
    if !verbose then text
    else
      match text with
      | '#' :: rest => skipComments verbose fuel ((rest.dropWhile (· != '\n')).drop 1)
      | c :: rest =>
        if [' ', '\t', '\n', '\r', '\x0b', '\x0c'].contains c then skipComments verbose fuel rest
        else text
      | [] => []

/-- A repetition sign at the start of a text: its bounds and the text after it. -/
def readRepeat : List Char → Option (Nat × Option Nat × List Char)
  | '*' :: rest => some (0, none, rest)
  | '+' :: rest => some (1, none, rest)
  | '?' :: rest => some (0, some 1, rest)
  | '\x7b' :: rest => readCount rest
  | _ => none

/-- The items of a sequence with the last one repeated. -/
def repeatLast (least : Nat) (most : Option Nat) (rest : List Char) :
    List (Tree × ItemKind) → Except Fault (List (Tree × ItemKind) × List Char)
  | items =>
    if maxCount ≤ least || most.any (maxCount ≤ ·) then .error .countTooLarge
    else if most.any (· < least) then .error .reversedCount
    else
      match items with
      | [] => .error .nothingToRepeat
      | (_, .place) :: _ => .error .nothingToRepeat
      | (_, .repetition) :: _ => .error .multipleRepeat
      | (body, .plain) :: items =>
        let (greed, rest) := match rest with
          | '?' :: rest => (Greed.lazy, rest)
          | '+' :: rest => (Greed.possessive, rest)
          | _ => (Greed.greedy, rest)
        .ok ((.repeated least most greed body, .repetition) :: items, rest)

/-- The sequence of items that were read, last one first. -/
def sequence (items : List (Tree × ItemKind)) : Tree :=
  items.foldl (fun p item => match p with
    | .empty => item.1
    | p => .seq item.1 p) .empty

mutual

/-- Choices between sequences, up to a closing parenthesis or the end. -/
def readChoice (o : Options) (first : Bool) : (fuel : Nat) → Reading → Except Fault (Tree × Reading)
  | 0, _ => .error .unexpectedEnd
  | fuel + 1, state => do
    let (p, state) ← readSequence o first fuel [] state
    match state.rest with
    | '|' :: rest =>
      let o := if first then o.join state.options else o
      let (q, state) ← readChoice o false fuel { state with rest := rest }
      return (.choice p q, state)
    | _ => return (p, state)

/-- The items of a sequence. -/
def readSequence (o : Options) (first : Bool) :
    (fuel : Nat) → List (Tree × ItemKind) → Reading → Except Fault (Tree × Reading)
  | 0, _, _ => .error .unexpectedEnd
  | fuel + 1, items, state => do
    let o := if first then o.join state.options else o
    let text := skipComments o.verbose state.rest.length state.rest
    let more (item : Tree × ItemKind) (state : Reading) : Except Fault (Tree × Reading) :=
      readSequence o first fuel (item :: items) state
    match text with
    | [] => return (sequence items, { state with rest := text })
    | '|' :: _ => return (sequence items, { state with rest := text })
    | ')' :: _ => return (sequence items, { state with rest := text })
    | '\\' :: rest =>
      let (item, state) ← readEscape named o state rest
      more item state
    | '[' :: rest =>
      let (negated, rest) := match rest with
        | '^' :: rest => (true, rest)
        | _ => (false, rest)
      let (set, rest) ← readSet named o.ascii (rest.length + 1) [] rest
      more (.oneOf set negated o.caseRule, .plain) { state with rest := rest }
    | '.' :: rest => more (.anyChar o.dotAll, .plain) { state with rest := rest }
    | '^' :: rest =>
      more (.place (if o.multiLine then .lineStart else .textStart), .place)
        { state with rest := rest }
    | '$' :: rest =>
      more (.place (if o.multiLine then .lineEnd else .lastLineEnd), .place)
        { state with rest := rest }
    | '(' :: rest =>
      let (opening, rest) ← readOpening o rest
      match opening with
      | .whole letters =>
        if !first || !items.isEmpty then throw .lateOptions
        else
          readSequence o first fuel items
            { state with
              rest := rest
              options := letters.foldl (switch true) state.options
              letters := state.letters ++ letters }
      | .comment => readSequence o first fuel items { state with rest := rest }
      | .named name =>
        match state.names.lookup (String.ofList name) with
        | none => throw .unknownGroup
        | some n =>
          let (item, state) ← sameAs o { state with rest := rest } n
          more item state
      | _ =>
        let (p, state) ← readGroup o fuel opening { state with rest := rest }
        more (p, .plain) state
    | c :: rest =>
      match readRepeat text with
      | some (least, most, rest) =>
        let (items, rest) ← repeatLast least most rest items
        readSequence o first fuel items { state with rest := rest }
      | none => more (oneChar o c, .plain) { state with rest := rest }

/-- A group after its opening. -/
def readGroup (o : Options) : (fuel : Nat) → Opening → Reading → Except Fault (Tree × Reading)
  | 0, _, _ => .error .unexpectedEnd
  | fuel + 1, opening, state => do
    match opening with
    | .capture name =>
      let (number, state) ← openGroup state name
      let (p, state) ← readChoice o false fuel state
      let state ← closeGroup state
      return (.group number p,
        { state with closed := (number, p.widths state.closed) :: state.closed })
    | .plain options =>
      let (p, state) ← readChoice options false fuel state
      return (p, ← closeGroup state)
    | .committed =>
      let (p, state) ← readChoice o false fuel state
      return (.atomic p, ← closeGroup state)
    | .ahead negated =>
      let (p, state) ← readChoice o false fuel state
      return (.ahead negated p, ← closeGroup state)
    | .behind negated =>
      let outer := state.behind
      let (p, state) ← readChoice o false fuel { state with behind := outer <|> some state.opened }
      let state ← closeGroup { state with behind := outer }
      match p.widths state.closed with
      | (low, some high) =>
        if low = high then return (.behind negated low p, state) else throw .variableWidth
      | _ => throw .variableWidth
    | .condition name =>
      let (number, state) ← conditionGroup state name
      if state.behind.isSome then refer state number
      let (yes, state) ← readSequence o false fuel [] state
      match state.rest with
      | '|' :: rest =>
        let (no, state) ← readSequence o false fuel [] { state with rest := rest }
        if state.rest.head? = some '|' then throw .tooManyBranches
        return (.ifGroup number yes no, ← closeGroup state)
      | _ => return (.ifGroup number yes .empty, ← closeGroup state)
    | _ => throw .unknownExtension

end

end names

/-- The pattern of a text, unless reading it would overflow the stack. -/
def read (support : Support) (text : List Char) : Except Fault Tree := do
  if support.overflows text then throw .tooDeep
  let start : Reading := ⟨text, .none, [], 0, [], [], none, []⟩
  let (p, state) ← readChoice support.named .none true (4 * text.length + 8) start
  if !canSwitchOn state.letters then throw .mixedAlphabets
  if !state.rest.isEmpty then throw .unbalanced
  if state.asked.any (state.opened < ·) then throw .unknownGroup
  return p

end FormIntake.Pattern
