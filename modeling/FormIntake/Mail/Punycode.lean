import FormIntake.Number.Natural

/-! # Labels in basic letters

A label with characters outside the basic letters is written in basic letters: the basic characters
come first, and after a hyphen the places and code points of the others, as numbers whose digits
have growing weights.  `decode` and `encode` follow the same state, a threshold that adapts to the
numbers seen.
-/

namespace FormIntake.Mail.Punycode

/-- The threshold of the digit at a place. -/
def threshold (bias place : Nat) : Nat :=
  let t : Int := 36 * (place + 1) - bias
  if t < 1 then 1 else if t > 26 then 26 else t.toNat

/-- How often a number is divided until it is small, and what is left. -/
def shrink : (fuel : Nat) → Nat → Nat × Nat
  | 0, delta => (0, delta)
  | fuel + 1, delta =>
    if delta > 455 then
      let (k, rest) := shrink fuel (delta / 35)
      (k + 36, rest)
    else (0, delta)

/-- The bias after a number, given the length of the label then. -/
def adapt (delta : Nat) (first : Bool) (length : Nat) : Nat :=
  let delta := if first then delta / 700 else delta / 2
  let (k, rest) := shrink delta (delta + delta / length)
  k + 36 * rest / (rest + 38)

/-- The value of a digit: letters of either case, then decimal digits. -/
def digitValue? (c : Char) : Option Nat :=
  let n := c.toNat
  if 97 ≤ n && n ≤ 122 then some (n - 97)
  else if 65 ≤ n && n ≤ 90 then some (n - 65)
  else if 48 ≤ n && n ≤ 57 then some (n - 22)
  else none

/-- The letter or digit of a value. -/
def digit (n : Nat) : Char := if n < 26 then Char.ofNat (97 + n) else Char.ofNat (22 + n)

/-- A number and the text after it. -/
def readNumber (bias : Nat) (place weight : Nat) : List Char → Option (Nat × List Char)
  | [] => none
  | c :: rest => do
    let d ← digitValue? c
    let t := threshold bias place
    if d < t then return (d * weight, rest)
    else
      let (n, after) ← readNumber bias (place + 1) (weight * (36 - t)) rest
      return (d * weight + n, after)

theorem length_readNumber {bias place weight n : Nat} {text after : List Char}
    (h : readNumber bias place weight text = some (n, after)) : after.length < text.length := by
  induction text generalizing place weight n after with
  | nil => simp [readNumber] at h
  | cons c rest ih =>
    simp only [readNumber, Option.bind_eq_bind, Option.bind_eq_some_iff] at h
    obtain ⟨d, _, h⟩ := h
    split at h
    · cases h; simp
    · obtain ⟨⟨m, a⟩, hm, h⟩ := Option.bind_eq_some_iff.1 h
      simp only [Option.pure_def, Option.some.injEq, Prod.mk.injEq] at h
      have := ih hm
      simp only [List.length_cons, ← h.2]
      omega

/-- The code points that the numbers of a text insert into a label. -/
def insertAll (label : List Nat) (char place bias : Nat) (first : Bool) (text : List Char) :
    Option (List Nat) :=
  match text with
  | [] => some label
  | c :: rest =>
    match _h : readNumber bias 0 1 (c :: rest) with
    | none => none
    | some (delta, after) =>
      let total := place + delta
      let char := char + total / (label.length + 1)
      if 0x10ffff < char then none
      else
        let place := total % (label.length + 1)
        let label := label.take place ++ char :: label.drop place
        insertAll label char (place + 1) (adapt delta first label.length) false after
  termination_by text.length
  decreasing_by exact length_readNumber ‹_›

/-- The basic characters before the last hyphen and the text after it. -/
def splitLastHyphen (text : List Char) : List Char × List Char :=
  let tail := (text.reverse.takeWhile (· ≠ '-')).reverse
  if tail.length = text.length then ([], text)
  else (text.take (text.length - tail.length - 1), tail)

/-- The label that a text in basic letters stands for. -/
def decode (text : List Char) : Option (List Nat) :=
  let (basic, numbers) := splitLastHyphen text
  insertAll (basic.map Char.toNat) 0x80 0 72 true numbers

/-- A number in digits of growing weight. -/
def writeNumber (bias : Nat) : (fuel : Nat) → (place n : Nat) → List Char
  | 0, _, _ => []
  | fuel + 1, place, n =>
    let t := threshold bias place
    if n < t then [digit n]
    else digit (t + (n - t) % (36 - t)) :: writeNumber bias fuel (place + 1) ((n - t) / (36 - t))

/-- How far the writing of a label has come. -/
structure Writing where
  delta : Nat
  bias : Nat
  handled : Nat
  output : List Char

/-- One character of the label during the round for one code point. -/
def writeChar (basic char : Nat) (w : Writing) (n : Nat) : Writing :=
  if n < char then { w with delta := w.delta + 1 }
  else if n = char then
    { delta := 0
      bias := adapt w.delta (w.handled = basic) (w.handled + 1)
      handled := w.handled + 1
      output := w.output ++ writeNumber w.bias (w.delta + 1) 0 w.delta }
  else w

/-- The rounds for the code points of a label that are not basic, from the smallest on. -/
def writeRounds (basic : Nat) (label : List Nat) (char : Nat) (w : Writing) : List Nat → Writing
  | [] => w
  | next :: rest =>
    let w := { w with delta := w.delta + (next - char) * (w.handled + 1) }
    let w := label.foldl (writeChar basic next) w
    writeRounds basic label (next + 1) { w with delta := w.delta + 1 } rest

/-- The label in basic letters. -/
def encode (label : List Nat) : List Char :=
  let basic := label.filter (· < 0x80)
  let others := ((label.filter (0x80 ≤ ·)).mergeSort (· ≤ ·)).eraseDups
  let start := if basic.isEmpty then [] else basic.map Char.ofNat ++ ['-']
  start ++ (writeRounds basic.length label 0x80 ⟨0, 72, basic.length, []⟩ others).output

end FormIntake.Mail.Punycode
