-- SUMMARY: Reports of faults: message, place, source line and carets.
import LispLex.Text

/-!
# Reports

A message about a place in a source, laid out with the source line and carets below the text that is
meant. The place may be anything, even outside of the source; then the line shown is empty.
-/

namespace LispLex

/-- A place that a report points at; unlike a position it need not exist. -/
structure Spot where
  line : Int
  column : Int
  offset : Int
  deriving DecidableEq, Repr

structure Report where
  message : Text
  spot : Option Spot
  source : Text
  /-- How many characters the message is about. -/
  length : Int
  deriving DecidableEq, Repr

/-- The source line with the given number, without its line end; empty if there is none. -/
def shownLine (source : Text) (line : Int) : Text :=
  if line < 1 then []
  else dropTrailing '\r' (dropTrailing '\n' (((brokenLines source)[line.toNat - 1]?).getD []))

/-- How many carets stand below a line of `width` characters: at least one, and no further than one
place past the line's end. -/
def caretCount (width : Nat) (column length : Int) : Nat :=
  (max 1 (min length (width - column + 1))).toNat

/-- The rows below the message: where it is, and the line with the carets. -/
def placeRows (file source : Text) (spot : Spot) (length : Int) : List Text :=
  let line := signedDecimal spot.line
  let column := signedDecimal spot.column
  let shown := shownLine source spot.line
  let margin := spaces (line.length + 1)
  [margin ++ ['-', '-', '>', ' '] ++ file ++ [':'] ++ line ++ [':'] ++ column,
   margin ++ ['|'],
   line ++ [' ', '|', ' '] ++ shown,
   margin ++ ['|', ' '] ++ spaces (spot.column - 1).toNat ++
     List.replicate (caretCount shown.length spot.column length) '^']

/-- The rows of a report. -/
def Report.rows (report : Report) (file : Text) : List Text :=
  ("error: ".toList ++ report.message) ::
    match report.spot with
    | none => []
    | some spot => placeRows file report.source spot report.length

/-- The whole report; its rows are separated by line feeds. -/
def Report.render (report : Report) (file : Text) : Text :=
  ['\n'].intercalate (report.rows file)

end LispLex
