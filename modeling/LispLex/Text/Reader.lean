-- SUMMARY: Readers with state and faults, for patterns and configuration documents.
import LispLex.Text

/-!
# Readers

A reader takes characters off the front of a text, may keep a state of its own, and may fail. The
readers of patterns and of configuration files are built from the ones here.
-/

namespace LispLex

/-- The text that is still to be read, and a state. -/
structure Reading (σ : Type) where
  rest : Text
  state : σ

abbrev TextReader (ε σ : Type) := StateT (Reading σ) (Except ε)

namespace TextReader

variable {ε σ : Type}

def rest : TextReader ε σ Text :=
  return (← get).rest

def setRest (rest : Text) : TextReader ε σ Unit :=
  modify ({ · with rest })

def state : TextReader ε σ σ :=
  return (← get).state

def setState (state : σ) : TextReader ε σ Unit :=
  modify ({ · with state })

/-- The next character, which stays. -/
def peek? : TextReader ε σ (Option Char) :=
  return (← rest).head?

def skip (count : Nat) : TextReader ε σ Unit := do
  setRest ((← rest).drop count)

/-- Takes the next character. -/
def take? : TextReader ε σ (Option Char) := do
  let c ← peek?
  skip 1
  return c

/-- Takes the expected text if it comes next. -/
def accept (expected : Text) : TextReader ε σ Bool := do
  let found := expected.isPrefixOf (← rest)
  if found then skip expected.length
  return found

/-- Takes the characters that satisfy `test`, at most `limit` of them. -/
def takeUpTo (limit : Nat) (test : Char → Bool) : TextReader ε σ Text := do
  let taken := ((← rest).take limit).takeWhile test
  skip taken.length
  return taken

/-- Takes all characters that satisfy `test`. -/
def takeWhile (test : Char → Bool) : TextReader ε σ Text := do
  takeUpTo (← rest).length test

end TextReader

end LispLex
