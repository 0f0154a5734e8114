-- SUMMARY: Token listings as JSON, one object per token.
import LispLex.Json
import LispLex.Token

/-!
# Structured listings

A JSON array with one object per token: its kind, value and raw text, and where it starts.
-/

namespace LispLex

def Value.toJson : Value → Json
  | .number n => .number n
  | .text content => .text content

/-- The entries about the start of a token, if it is known. -/
def placeEntries : Option Span → List (Text × Json)
  | none => []
  | some span =>
    [("line".toList, .number span.start.line), ("column".toList, .number span.start.column),
     ("offset".toList, .number span.start.offset)]

/-- The entries of a token's object, in order. -/
def Token.entries (token : Token) : List (Text × Json) :=
  [("kind".toList, .text token.kind.name.toList),
   ("value".toList, (token.value.map Value.toJson).getD .null),
   ("raw".toList, .text token.raw)] ++ placeEntries token.span

/-- The structured listing of some tokens. -/
def structuredListing (tokens : List Token) : Text :=
  unlines [(Json.array (tokens.map fun token => .object token.entries)).render]

end LispLex
