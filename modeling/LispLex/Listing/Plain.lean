-- SUMMARY: Token listings with one line per token.
import LispLex.Text.Quoted
import LispLex.Token

/-!
# Plain listings

One line per token: where it starts, its kind, and its value if tokens of that kind carry one.
-/

namespace LispLex

/-- A value as listings show it. -/
def Value.shown : Value → Text
  | .number n => signedDecimal n
  | .text content => quoted content

/-- The value that a token should carry; `None` stands for one that is missing. -/
def shownValue : Option Value → Text
  | none => "None".toList
  | some value => value.shown

/-- Where a token starts; question marks stand for a place that is not known. -/
def shownPlace : Option Span → Text
  | none => ['?', ':', '?']
  | some span => decimal span.start.line ++ [':'] ++ decimal span.start.column

def Token.line (token : Token) : Text :=
  shownPlace token.span ++ [' '] ++ token.kind.name.toList ++
    if token.kind.hasValue then ' ' :: shownValue token.value else []

/-- The plain listing of some tokens. -/
def plainListing (tokens : List Token) : Text :=
  unlines (tokens.map Token.line)

end LispLex
