-- SUMMARY: Syntax of patterns: expressions, character classes, anchors and groups.
import LispLex.Text
import LispLex.Text.Case
import LispLex.Text.Digit
import LispLex.Text.Space
import LispLex.Text.Word

/-!
# Patterns

Expressions that a lexical rule matches at the cursor: character classes, sequence, ordered choice,
bounded repetition, groups with back-references, anchors, and assertions about the text ahead or
behind. The written form is read in `Pattern/Reader.lean`, the meaning is in `Pattern/Match.lean`.
-/

namespace LispLex

-- ---------------------------------------------------------------------------
-- Character classes
-- ---------------------------------------------------------------------------

/-- A named class of characters. -/
inductive Category where
  | digit
  | space
  | word
  deriving DecidableEq, Repr

def Category.contains : Category → Char → Bool
  | .digit, c => (decimalDigit? c).isSome
  | .space, c => isSpace c
  | .word, c => isWord c

/-- One entry of a character class. -/
inductive ClassItem where
  | range (first last : Char)
  | named (category : Category) (negated : Bool)
  deriving DecidableEq, Repr

def ClassItem.contains : ClassItem → Char → Bool
  | .range first last, c => first ≤ c && c ≤ last
  | .named category negated, c => category.contains c != negated

/-- A set of characters: those in some item, or, negated, those in none. With `ignoreCase` a
character is in an item as soon as one of its case variants is. -/
structure CharClass where
  items : List ClassItem
  negated : Bool
  ignoreCase : Bool
  deriving DecidableEq, Repr

def CharClass.contains (cls : CharClass) (c : Char) : Bool :=
  let listed :=
    if cls.ignoreCase then cls.items.any fun item => (caseVariants c).any item.contains
    else cls.items.any (·.contains c)
  listed != cls.negated

/-- The class of one character. -/
def CharClass.single (c : Char) (ignoreCase : Bool) : CharClass :=
  ⟨[.range c c], false, ignoreCase⟩

-- ---------------------------------------------------------------------------
-- Expressions
-- ---------------------------------------------------------------------------

/-- A condition on the place between two characters. -/
inductive Anchor where
  /-- The start of the text. -/
  | textStart
  /-- The start of the text, or after a line feed. -/
  | lineStart
  /-- The end of the text. -/
  | textEnd
  /-- The end of the text, or before the line feed that ends it. -/
  | finalEnd
  /-- The end of the text, or before a line feed. -/
  | lineEnd
  /-- A word character on exactly one side. -/
  | wordEdge
  /-- A word character on both sides or on neither. -/
  | wordInside
  deriving DecidableEq, Repr

inductive Expr where
  | empty
  /-- One character of the class. -/
  | one (cls : CharClass)
  | seq (first second : Expr)
  /-- The first choice is preferred. -/
  | alt (first second : Expr)
  /-- At least `least` and at most `most` times, preferring more if `greedy` and fewer if not. -/
  | rep (body : Expr) (least : Nat) (most : Option Nat) (greedy : Bool)
  /-- Remembers the text that `body` matches as group `index`. -/
  | group (index : Nat) (body : Expr)
  /-- The text that group `index` matched last. -/
  | again (index : Nat) (ignoreCase : Bool)
  | anchor (anchor : Anchor)
  /-- The text ahead matches, or, negated, does not; nothing is passed. -/
  | ahead (body : Expr) (negated : Bool)
  /-- The last `width` characters passed match, or, negated, do not. -/
  | behind (body : Expr) (width : Nat) (negated : Bool)
  deriving DecidableEq, Repr

/-- Switches that change how a written pattern is read. -/
structure PatternFlags where
  ignoreCase : Bool := false
  /-- The dot also matches a line feed. -/
  dotAll : Bool := false
  /-- The anchors `^` and `$` also hold at inner lines. -/
  multiline : Bool := false
  deriving DecidableEq, Repr

/-- An expression with the text it was written as. -/
structure Pattern where
  source : Text
  expr : Expr
  deriving DecidableEq, Repr

end LispLex
