-- SUMMARY: Positions by line, column and offset, and how a text moves them.
import LispLex.Text

/-!
# Positions

Where something stands in a source: the line and the column count from 1, the offset from 0. A line
ends at a line feed only.
-/

namespace LispLex

structure Position where
  line : Nat
  column : Nat
  offset : Nat
  deriving DecidableEq, Repr

/-- The start of a source. -/
def Position.start : Position :=
  ⟨1, 1, 0⟩

/-- The position after one more character. -/
def Position.step (position : Position) (c : Char) : Position :=
  if c = '\n' then ⟨position.line + 1, 1, position.offset + 1⟩
  else ⟨position.line, position.column + 1, position.offset + 1⟩

/-- The position after one more text. -/
def Position.advance (position : Position) (text : Text) : Position :=
  text.foldl Position.step position

@[simp] theorem Position.advance_nil (position : Position) : position.advance [] = position := rfl

@[simp] theorem Position.advance_cons (position : Position) (c : Char) (text : Text) :
    position.advance (c :: text) = (position.step c).advance text := rfl

theorem Position.advance_append (position : Position) (first second : Text) :
    position.advance (first ++ second) = (position.advance first).advance second :=
  List.foldl_append

/-- The stretch of a source between two positions. -/
structure Span where
  start : Position
  stop : Position
  deriving DecidableEq, Repr

end LispLex
