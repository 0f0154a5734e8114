-- SUMMARY: Backtracking semantics of patterns.
import LispLex.Pattern.Basic

/-!
# Matching

A backtracking matcher. An expression is run at a place with a continuation that says whether the
rest of the pattern matches from where the expression ended; the first way through, in order of
preference, wins. Matching starts at the beginning of a text and sees nothing before it.
-/

namespace LispLex

/-- A place in the text being matched, with the groups remembered so far. -/
structure Place where
  /-- The text already passed, last character first. -/
  passed : Text
  rest : Text
  groups : List (Nat × Text)
  deriving DecidableEq, Repr

/-- What is left to match after the current expression. -/
abbrev Continuation := Place → Option Place

namespace Place

def ofText (text : Text) : Place :=
  ⟨[], text, []⟩

/-- Passes the next character if it satisfies `test`. -/
def next? (place : Place) (test : Char → Bool) : Option Place :=
  match place.rest with
  | [] => none
  | c :: rest => if test c then some { place with passed := c :: place.passed, rest := rest } else none

/-- Passes characters equal to those of `text`. -/
def pass? (place : Place) (same : Char → Char → Bool) : Text → Option Place
  | [] => some place
  | c :: text => (place.next? (same c)).bind (pass? · same text)

/-- The place `width` characters earlier. -/
def back? (place : Place) : Nat → Option Place
  | 0 => some place
  | width + 1 =>
    match place.passed with
    | [] => none
    | c :: passed => back? { place with passed := passed, rest := c :: place.rest } width

/-- The text passed between an earlier place and this one. -/
def textSince (place earlier : Place) : Text :=
  (place.passed.take (place.passed.length - earlier.passed.length)).reverse

def remember (place : Place) (index : Nat) (text : Text) : Place :=
  { place with groups := (index, text) :: place.groups }

/-- The text that group `index` matched last. -/
def remembered? (place : Place) (index : Nat) : Option Text :=
  place.groups.lookup index

/-- A word character stands just before the place. -/
def afterWord (place : Place) : Bool :=
  place.passed.head?.any isWord

/-- A word character stands just after the place. -/
def beforeWord (place : Place) : Bool :=
  place.rest.head?.any isWord

end Place

def Anchor.holds : Anchor → Place → Bool
  | .textStart, place => place.passed.isEmpty
  | .lineStart, place => place.passed.isEmpty || place.passed.head? == some '\n'
  | .textEnd, place => place.rest.isEmpty
  | .finalEnd, place => place.rest.isEmpty || place.rest == ['\n']
  | .lineEnd, place => place.rest.isEmpty || place.rest.head? == some '\n'
  | .wordEdge, place => place.afterWord != place.beforeWord
  | .wordInside, place => place.afterWord == place.beforeWord

/-- Characters that a back-reference takes for one another. -/
def sameChar (ignoreCase : Bool) (a b : Char) : Bool :=
  if ignoreCase then lowerCode a.toNat == lowerCode b.toNat else a == b

/-- Runs `body` again and again. The first `least` rounds are required; after them a round is tried
only if it starts elsewhere than the optional round before it, which started after `lastStart`
characters. `budget` bounds the number of rounds. -/
def repeatRounds (body : Place → Continuation → Option Place) (most : Option Nat) (greedy : Bool) :
    (budget least done : Nat) → (lastStart : Option Nat) → Place → Continuation → Option Place
  | 0, _, _, _, place, k => k place
  | budget + 1, least + 1, done, lastStart, place, k =>
    body place fun after => repeatRounds body most greedy budget least (done + 1) lastStart after k
  | budget + 1, 0, done, lastStart, place, k =>
    let start := place.passed.length
    let round := fun (_ : Unit) =>
      if most.all (done < ·) && lastStart != some start then
        body place fun after => repeatRounds body most greedy budget 0 (done + 1) (some start) after k
      else none
    if greedy then (round ()).orElse fun _ => k place
    else (k place).orElse round

namespace Expr

/-- The first way to match the expression at the place that the continuation accepts. -/
def run : Expr → Place → Continuation → Option Place
  | .empty, place, k => k place
  | .one cls, place, k => (place.next? cls.contains).bind k
  | .seq first second, place, k => first.run place fun after => second.run after k
  | .alt first second, place, k => (first.run place k).orElse fun _ => second.run place k
  | .rep body least most greedy, place, k =>
    repeatRounds body.run most greedy (least + place.rest.length + 1) least 0 none place k
  | .group index body, place, k =>
    body.run place fun after => k (after.remember index (after.textSince place))
  | .again index ignoreCase, place, k =>
    (place.remembered? index).bind fun text => (place.pass? (sameChar ignoreCase) text).bind k
  | .anchor condition, place, k => if condition.holds place then k place else none
  | .ahead body negated, place, k =>
    match body.run place some, negated with
    | some found, false => k { place with groups := found.groups }
    | none, true => k place
    | _, _ => none
  | .behind body width negated, place, k =>
    match (place.back? width).bind (body.run · some), negated with
    | some found, false => k { place with groups := found.groups }
    | none, true => k place
    | _, _ => none

end Expr

/-- The text that the pattern matches at the start of `text`; an empty match counts as none. -/
def Pattern.match? (pattern : Pattern) (text : Text) : Option Text :=
  (pattern.expr.run (Place.ofText text) some).bind fun found =>
    if found.passed.isEmpty then none else some found.passed.reverse

end LispLex
