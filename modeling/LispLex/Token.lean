-- SUMMARY: Tokens with their places, and likeness of tokens.
import LispLex.Position
import LispLex.Token.Value

/-!
# Tokens

A token is a piece of source text with its kind, its value and, where it is known, its place. Two
tokens are alike if they differ in their places only.
-/

namespace LispLex

structure Token where
  kind : Kind
  value : Option Value
  raw : Text
  span : Option Span
  deriving DecidableEq, Repr

/-- The tokens agree in kind, value and raw text. -/
def Token.alike (a b : Token) : Bool :=
  a.kind == b.kind && a.value == b.value && a.raw == b.raw

end LispLex
