import FormIntake.Text.Composition

/-! # Composing characters

`composed` brings a text into the form in which characters and their marks stand composed: every
character is taken apart, the marks of a cluster are put in the order of their classes, and what
composes is put together again.
-/

namespace FormIntake.Text

/-! ### Syllables of Hangul -/

def syllableBase : Nat := 0xac00
def leadBase : Nat := 0x1100
def vowelBase : Nat := 0x1161
def tailBase : Nat := 0x11a7

/-- The letters of a syllable. -/
def syllableParts (n : Nat) : List Nat :=
  let i := n - syllableBase
  let letters := [leadBase + i / 588, vowelBase + i % 588 / 28]
  if i % 28 = 0 then letters else letters ++ [tailBase + i % 28]

/-- The syllable of a syllable or letter and a letter after it. -/
def joinSyllable? (a b : Nat) : Option Nat :=
  if leadBase ≤ a && a < leadBase + 19 && vowelBase ≤ b && b < vowelBase + 21 then
    some (syllableBase + ((a - leadBase) * 21 + (b - vowelBase)) * 28)
  else if syllableBase ≤ a && a < syllableBase + 11172 && (a - syllableBase) % 28 = 0 &&
      tailBase < b && b < tailBase + 28 then
    some (a + (b - tailBase))
  else none

/-! ### Taking apart -/

/-- What a character is composed of in the end; compositions are at most four deep. -/
def takeApart : (depth : Nat) → Nat → List Nat
  | 0, n => [n]
  | depth + 1, n =>
    if syllableBase ≤ n && n < syllableBase + 11172 then syllableParts n
    else match compositions.find? (·.whole = n) with
      | some c => c.parts.flatMap (takeApart depth)
      | none => [n]

/-- A mark put into its place behind marks of the same or a lower class; the list is in reverse. -/
def placeMark (n : Nat) : List Nat → List Nat
  | [] => [n]
  | m :: rest => if markClass n < markClass m then m :: placeMark n rest else n :: m :: rest

/-- Characters with the marks of each cluster in order. -/
def orderMarks (text : List Nat) : List Nat :=
  (text.foldl (fun done n => if markClass n = 0 then n :: done else placeMark n done) []).reverse

/-! ### Putting together -/

/-- The character that two characters compose to. -/
def join? (a b : Nat) : Option Nat :=
  match joinSyllable? a b with
  | some n => some n
  | none => (compositions.find? fun c => c.composes && c.parts = [a, b]).map (·.whole)

/-- A cluster that is being put together: its first character and the marks that stay, in reverse. -/
structure Cluster where
  start : Nat
  marks : List Nat

/-- The characters of a cluster. -/
def Cluster.chars (c : Cluster) : List Nat := c.start :: c.marks.reverse

/-- Whether a character that comes next can compose with the first of the cluster: no mark of its
class or of a higher one stands between them. -/
def Cluster.reaches (c : Cluster) (n : Nat) : Bool :=
  match c.marks with
  | [] => true
  | m :: _ => markClass m < markClass n

/-- Put together from left to right. -/
def joinAll (cluster : Option Cluster) : List Nat → List Nat
  | [] => match cluster with
    | some c => c.chars
    | none => []
  | n :: rest =>
    match cluster with
    | none => if markClass n = 0 then joinAll (some ⟨n, []⟩) rest else n :: joinAll none rest
    | some c =>
      match if c.reaches n then join? c.start n else none with
      | some whole => joinAll (some { c with start := whole }) rest
      | none =>
        if markClass n = 0 then c.chars ++ joinAll (some ⟨n, []⟩) rest
        else joinAll (some { c with marks := n :: c.marks }) rest

/-- The text with all that composes composed. -/
def composed (text : List Char) : List Char :=
  if text.all (·.toNat < 0x300) then text
  else (joinAll none (orderMarks (text.flatMap fun c => takeApart 4 c.toNat))).map Char.ofNat

end FormIntake.Text
