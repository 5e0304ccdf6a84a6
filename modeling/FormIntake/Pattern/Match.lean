import FormIntake.Pattern.Tree

/-! # Matching patterns

A match runs over a text from a cursor: the characters before it, those after it, and the texts
that groups have matched so far.  Every part of a pattern is run with the rest of the pattern as a
continuation, and the first way through counts: choices from left to right, greedy repetition with
more rounds first, lazy repetition with fewer.  A round of a repetition that matches nothing ends
the repetition, so a run always ends.
-/

namespace FormIntake.Pattern

open Text

structure Cursor where
  /-- The characters before the cursor, nearest first. -/
  before : List Char
  rest : List Char
  groups : List (Nat × List Char)

/-- What is left to be matched after a part. -/
abbrev Next := Cursor → Option Cursor

namespace Cursor

/-- The cursor one character on. -/
def step (c : Cursor) (char : Char) (rest : List Char) : Cursor :=
  { c with before := char :: c.before, rest := rest }

/-- The cursor after a text, if that text stands there under a case rule. -/
def skip? (rule : CaseRule) (c : Cursor) : List Char → Option Cursor
  | [] => some c
  | d :: ds =>
    match c.rest with
    | [] => none
    | x :: rest => if rule.same d x then (c.step x rest).skip? rule ds else none

/-- The cursor `n` characters back. -/
def back? (c : Cursor) : Nat → Option Cursor
  | 0 => some c
  | n + 1 =>
    match c.before with
    | [] => none
    | x :: before => back? { c with before := before, rest := x :: c.rest } n

/-- The text between an earlier cursor and this one. -/
def since (c start : Cursor) : List Char :=
  (c.before.take (c.before.length - start.before.length)).reverse

/-- Whether the nearest character on either side is of a word. -/
def wordSides (ascii : Bool) (c : Cursor) : Bool × Bool :=
  let side (x : Option Char) : Bool := x.any fun d => CharClass.has ascii d .word
  (side c.before.head?, side c.rest.head?)

/-- Whether the cursor is at a place. -/
def isAt (c : Cursor) : Place → Bool
  | .textStart => c.before.isEmpty
  | .lineStart => c.before.isEmpty || c.before.head? = some '\n'
  | .textEnd => c.rest.isEmpty
  | .lastLineEnd => c.rest.isEmpty || c.rest = ['\n']
  | .lineEnd => c.rest.isEmpty || c.rest.head? = some '\n'
  | .boundary ascii => let (l, r) := c.wordSides ascii; l != r
  | .inside ascii =>
    let (l, r) := c.wordSides ascii
    !(c.before.isEmpty && c.rest.isEmpty) && l == r

end Cursor

/-- One round fewer. -/
def fewer (most : Option Nat) : Option Nat := most.map (· - 1)

/-- Rounds of a greedy repetition. -/
def runGreedy (round : Cursor → Next → Option Cursor) (next : Next) :
    (fuel : Nat) → (least : Nat) → (most : Option Nat) → Cursor → Option Cursor
  | 0, _, _, _ => none
  | fuel + 1, least + 1, most, c => round c (runGreedy round next fuel least (fewer most))
  | _ + 1, 0, some 0, c => next c
  | fuel + 1, 0, most, c =>
    match round c fun d =>
        if d.rest.length = c.rest.length then next d
        else runGreedy round next fuel 0 (fewer most) d with
    | some found => some found
    | none => next c

/-- Rounds of a lazy repetition. -/
def runLazy (round : Cursor → Next → Option Cursor) (next : Next) :
    (fuel : Nat) → (least : Nat) → (most : Option Nat) → Cursor → Option Cursor
  | 0, _, _, _ => none
  | fuel + 1, least + 1, most, c => round c (runLazy round next fuel least (fewer most))
  | _ + 1, 0, some 0, c => next c
  | fuel + 1, 0, most, c =>
    match next c with
    | some found => some found
    | none => round c fun d =>
        if d.rest.length = c.rest.length then next d
        else runLazy round next fuel 0 (fewer most) d

/-- Runs a pattern from a cursor, and what is left after it. -/
def run : Tree → Cursor → Next → Option Cursor
  | .empty, c, next => next c
  | .never, _, _ => none
  | .anyChar lineFeed, c, next =>
    match c.rest with
    | [] => none
    | x :: rest => if lineFeed || x != '\n' then next (c.step x rest) else none
  | .oneOf items negated rule, c, next =>
    match c.rest with
    | [] => none
    | x :: rest => if items.any (·.has rule x) != negated then next (c.step x rest) else none
  | .place p, c, next => if c.isAt p then next c else none
  | .seq a b, c, next => run a c fun d => run b d next
  | .choice a b, c, next =>
    match run a c next with
    | some found => some found
    | none => run b c next
  | .repeated least most greed body, c, next =>
    let fuel := c.rest.length + least + 1
    match greed with
    | .greedy => runGreedy (run body) next fuel least most c
    | .lazy => runLazy (run body) next fuel least most c
    | .possessive => (runGreedy (run body) some fuel least most c).bind next
  | .group number body, c, next =>
    run body c fun d => next { d with groups := (number, d.since c) :: d.groups }
  | .same number rule, c, next =>
    match c.groups.lookup number with
    | none => none
    | some text => (c.skip? rule text).bind next
  | .ahead negated body, c, next =>
    match run body c some, negated with
    | some d, false => next { c with groups := d.groups }
    | none, true => next c
    | _, _ => none
  | .behind negated width body, c, next =>
    match (c.back? width).bind fun b => run body b some, negated with
    | some d, false => next { c with groups := d.groups }
    | none, true => next c
    | _, _ => none
  | .atomic body, c, next => (run body c some).bind next
  | .ifGroup number yes no, c, next =>
    if (c.groups.lookup number).isSome then run yes c next else run no c next

/-- Whether the pattern matches at the cursor or somewhere after it. -/
def searchFrom (p : Tree) (before : List Char) : List Char → Bool
  | [] => (run p ⟨before, [], []⟩ some).isSome
  | c :: rest => (run p ⟨before, c :: rest, []⟩ some).isSome || searchFrom p (c :: before) rest

/-- Whether the pattern matches somewhere in a text. -/
def Tree.occursIn (p : Tree) (text : List Char) : Bool := searchFrom p [] text

end FormIntake.Pattern
