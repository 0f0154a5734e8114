-- SUMMARY: Cursors into a source: skipping blanks, advancing, snippets, and operations on a cursor in any order.
import LispLex.Position

/-!
# Cursors

A cursor stands somewhere in a source: it knows its position and the text that is left. Nothing of
the text already passed can be seen from it.
-/

namespace LispLex

/-- The characters skipped between tokens. -/
def blankCharacters : List Char :=
  ['\t', '\n', '\r', ' ']

def isBlank (c : Char) : Bool :=
  blankCharacters.contains c

structure Cursor where
  position : Position
  rest : Text
  deriving DecidableEq, Repr

namespace Cursor

/-- The cursor at the start of a source. -/
def ofText (source : Text) : Cursor :=
  ⟨.start, source⟩

def atEnd (cursor : Cursor) : Bool :=
  cursor.rest.isEmpty

/-- Moves by the length of a text, whether or not that text comes next. -/
def advance (cursor : Cursor) (text : Text) : Cursor :=
  ⟨cursor.position.advance text, cursor.rest.drop text.length⟩

/-- The blanks that come next. -/
def blanks (cursor : Cursor) : Text :=
  cursor.rest.takeWhile isBlank

def skipBlanks (cursor : Cursor) : Cursor :=
  cursor.advance cursor.blanks

/-- How many characters a stretch of `length` characters from here may take. A stretch whose end
would lie before the start of the source counts its end back from the end of the source. -/
def reach (cursor : Cursor) (length : Int) : Nat :=
  let stop := cursor.position.offset + length
  (if stop < 0 then length + (cursor.position.offset + cursor.rest.length) else length).toNat

/-- The text that comes next, at most `length` characters of it and up to the end of the line. -/
def snippet (cursor : Cursor) (length : Int) : Text :=
  (cursor.rest.take (cursor.reach length)).takeWhile (· != '\n')

end Cursor

end LispLex
