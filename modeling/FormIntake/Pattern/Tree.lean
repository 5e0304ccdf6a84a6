import FormIntake.Text.Blank
import FormIntake.Text.Digit
import FormIntake.Text.Word
import FormIntake.Text.Case

/-! # Text patterns

A pattern is built from sets of characters, places, sequence, choice, repetition, groups, references
to groups, looks ahead and behind, and commitment.  `Tree.widths` bounds the length of the texts
that a pattern matches.
-/

namespace FormIntake.Pattern

open Text

/-- How letter case is treated. -/
inductive CaseRule where
  | exact
  | fold
  | foldAscii
  deriving DecidableEq, Repr

/-- Characters that are the same when case is ignored although their lower-case forms differ. -/
def caseTwins : List (List Nat) :=
  [[0x69, 0x131], [0x73, 0x17f], [0xb5, 0x3bc], [0x345, 0x3b9, 0x1fbe], [0x390, 0x1fd3],
   [0x3b0, 0x1fe3], [0x3b2, 0x3d0], [0x3b5, 0x3f5], [0x3b8, 0x3d1], [0x3ba, 0x3f0],
   [0x3c0, 0x3d6], [0x3c1, 0x3f1], [0x3c2, 0x3c3], [0x3c6, 0x3d5], [0x432, 0x1c80],
   [0x434, 0x1c81], [0x43e, 0x1c82], [0x441, 0x1c83], [0x442, 0x1c84, 0x1c85], [0x44a, 0x1c86],
   [0x463, 0x1c87], [0x1c88, 0xa64b], [0x1e61, 0x1e9b], [0xfb05, 0xfb06]]

/-- The lower-case code points that stand for a character when case is ignored. -/
def foldPoints (c : Char) : List Nat :=
  let n := (lowerChar c).toNat
  (caseTwins.find? (·.contains n)).getD [n]

/-- The form of a character that is compared under a case rule. -/
def CaseRule.lower (rule : CaseRule) (c : Char) : Char :=
  match rule with
  | .exact => c
  | .fold => lowerChar c
  | .foldAscii => c.toLower

/-- Whether two characters are the same under a case rule. -/
def CaseRule.same (rule : CaseRule) (a b : Char) : Bool :=
  match rule with
  | .exact => a = b
  | .fold => (foldPoints a).contains (lowerChar b).toNat
  | .foldAscii => a.toLower = b.toLower

/-- A class of characters, over all scripts or over ASCII alone. -/
inductive CharClass where
  | decimal
  | blank
  | word
  deriving DecidableEq, Repr

/-- Whether a character is of the class. -/
def CharClass.has (ascii : Bool) (c : Char) : CharClass → Bool
  | .decimal => if ascii then isAsciiDigit c else isDecimal c
  | .blank => if ascii then [' ', '\t', '\n', '\r', '\x0b', '\x0c'].contains c else isBlank c
  | .word => if ascii then c.isAlphanum || c = '_' else isWordChar c

/-- A part of a set of characters. -/
inductive SetItem where
  | char (c : Char)
  | range (low high : Char)
  | ofClass (kind : CharClass) (ascii negated : Bool)
  deriving DecidableEq, Repr

/-- Whether a part of a set has a character. -/
def SetItem.has (rule : CaseRule) (c : Char) : SetItem → Bool
  | .char d => rule.same d c
  | .range low high =>
    let inside (x : Char) : Bool := low ≤ x && x ≤ high
    match rule with
    | .exact => inside c
    | .foldAscii => inside c.toLower || inside c.toUpper
    | .fold => (foldPoints c).any fun n =>
        inside (Char.ofNat n) || inside (upperChar (Char.ofNat n))
  | .ofClass kind ascii negated => kind.has ascii (rule.lower c) != negated

/-- A place between characters. -/
inductive Place where
  | textStart
  | lineStart
  | textEnd
  | lastLineEnd
  | lineEnd
  | boundary (ascii : Bool)
  | inside (ascii : Bool)
  deriving DecidableEq, Repr

/-- How a repetition chooses the number of rounds. -/
inductive Greed where
  | greedy
  | lazy
  | possessive
  deriving DecidableEq, Repr

inductive Tree where
  | empty
  | never
  | anyChar (lineFeed : Bool)
  | oneOf (items : List SetItem) (negated : Bool) (rule : CaseRule)
  | place (p : Place)
  | seq (first second : Tree)
  | choice (first second : Tree)
  | repeated (least : Nat) (most : Option Nat) (greed : Greed) (body : Tree)
  | group (number : Nat) (body : Tree)
  | same (number : Nat) (rule : CaseRule)
  | ahead (negated : Bool) (body : Tree)
  | behind (negated : Bool) (width : Nat) (body : Tree)
  | atomic (body : Tree)
  | ifGroup (number : Nat) (yes no : Tree)
  deriving Repr

namespace Tree

/-- The least and the greatest length of a match; `none` is without bound.  The lengths of groups
are given. -/
def widths (groups : List (Nat × Nat × Option Nat)) : Tree → Nat × Option Nat
  | .empty => (0, some 0)
  | .never => (0, some 0)
  | .anyChar _ => (1, some 1)
  | .oneOf .. => (1, some 1)
  | .place _ => (0, some 0)
  | .seq a b =>
    let (l, h) := a.widths groups
    let (m, k) := b.widths groups
    (l + m, h.bind fun x => k.map (x + ·))
  | .choice a b =>
    let (l, h) := a.widths groups
    let (m, k) := b.widths groups
    (min l m, h.bind fun x => k.map (max x ·))
  | .repeated least most _ body =>
    let (l, h) := body.widths groups
    (least * l, if h = some 0 then some 0 else h.bind fun x => most.map (x * ·))
  | .group _ body => body.widths groups
  | .same number _ => (groups.lookup number).getD (0, none)
  | .ahead .. => (0, some 0)
  | .behind .. => (0, some 0)
  | .atomic body => body.widths groups
  | .ifGroup _ yes no =>
    let (l, h) := yes.widths groups
    let (m, k) := no.widths groups
    (min l m, h.bind fun x => k.map (max x ·))

end Tree
end FormIntake.Pattern
