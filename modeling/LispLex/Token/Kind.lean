-- SUMMARY: The kinds of tokens, with their names and patterns.
import LispLex.Pattern.Match

/-!
# Token kinds

The ten kinds of tokens, in the order in which their rules are tried, with their names and the
patterns that recognise them.
-/

namespace LispLex

inductive Kind where
  | leftParen
  | rightParen
  | leftBracket
  | rightBracket
  | comma
  | number
  | string
  | identifier
  | add
  | divide
  deriving DecidableEq, Repr

namespace Kind

def all : List Kind :=
  [leftParen, rightParen, leftBracket, rightBracket, comma, number, string, identifier, add, divide]

def name : Kind → String
  | leftParen => "LEFT_PAREN"
  | rightParen => "RIGHT_PAREN"
  | leftBracket => "LEFT_BRACKET"
  | rightBracket => "RIGHT_BRACKET"
  | comma => "COMMA"
  | number => "NUM_LITERAL"
  | string => "STRING_LITERAL"
  | identifier => "IDENTIFIER"
  | add => "ADD"
  | divide => "DIVIDE"

def ofName? (name : Text) : Option Kind :=
  all.find? (·.name.toList == name)

/-- Tokens of this kind carry a value. -/
def hasValue : Kind → Bool
  | number | string | identifier => true
  | _ => false

-- ---------------------------------------------------------------------------
-- Standard patterns
-- ---------------------------------------------------------------------------

/-- The written form of the standard pattern. -/
def patternSource : Kind → String
  | leftParen => "\\("
  | rightParen => "\\)"
  | leftBracket => "\\["
  | rightBracket => "\\]"
  | comma => ","
  | number => "[0-9]+"
  | string => "\".*\""
  | identifier => "[A-Za-z]+"
  | add => "\\+"
  | divide => "/"

/-- The pattern of one fixed character. -/
def charExpr (c : Char) : Expr :=
  .one (.single c false)

/-- What the standard pattern matches: a fixed character, a run of ASCII digits or letters, or all
from a quote to the last quote on the line. -/
def expr : Kind → Expr
  | leftParen => charExpr '('
  | rightParen => charExpr ')'
  | leftBracket => charExpr '['
  | rightBracket => charExpr ']'
  | comma => charExpr ','
  | number => .rep (.one ⟨[.range '0' '9'], false, false⟩) 1 none true
  | string =>
    .seq (charExpr '"')
      (.seq (.rep (.one ⟨[.range '\n' '\n'], true, false⟩) 0 none true) (charExpr '"'))
  | identifier => .rep (.one ⟨[.range 'A' 'Z', .range 'a' 'z'], false, false⟩) 1 none true
  | add => charExpr '+'
  | divide => charExpr '/'

def pattern (kind : Kind) : Pattern :=
  ⟨kind.patternSource.toList, kind.expr⟩

end Kind

end LispLex
