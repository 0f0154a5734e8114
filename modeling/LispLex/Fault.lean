-- SUMMARY: Lexing faults and the reports of those that have a place.
import LispLex.Report
import LispLex.Text.Quoted
import LispLex.Token

/-!
# Lexing faults

What ends a run early: input that no rule matches, a number that is too large, or a text that has no
value. The first two are reported with their place in the source.
-/

namespace LispLex

inductive Fault where
  /-- No rule matches at the position; `committed` are the tokens before it. -/
  | unmatched (position : Position) (snippet : Text) (committed : List Token)
  /-- The number literal at the position is above the ceiling or too long. -/
  | overflow (position : Position) (literal : Text) (ceiling : Option Int)
  | invalid (cause : InvalidValue)
  deriving DecidableEq, Repr

-- ---------------------------------------------------------------------------
-- Messages
-- ---------------------------------------------------------------------------

def unmatchedMessage (offset : Int) (snippet : Text) : Text :=
  "no rule matches input at offset ".toList ++ signedDecimal offset ++ [':', ' '] ++ quoted snippet

/-- The first characters of a literal stand for a long one. -/
def abridged (literal : Text) : Text :=
  if literal.length ≤ 20 then literal else literal.take 20 ++ ['.', '.', '.']

def overflowMessage (literal : Text) (ceiling : Option Int) : Text :=
  "number literal ".toList ++ abridged literal ++
    match ceiling with
    | none => " has more than ".toList ++ decimal digitLimit ++ " digits".toList
    | some ceiling => " exceeds maximum ".toList ++ signedDecimal ceiling

def InvalidValue.message : InvalidValue → Text
  | .malformedNumber literal => "invalid number literal ".toList ++ quoted literal
  | .unwritableCeiling => unwritableMessage

-- ---------------------------------------------------------------------------
-- Reports
-- ---------------------------------------------------------------------------

def Position.spot (position : Position) : Spot :=
  ⟨position.line, position.column, position.offset⟩

def Report.unmatched (spot : Spot) (source snippet : Text) : Report :=
  ⟨unmatchedMessage spot.offset snippet, some spot, source, 1⟩

def Report.overflow (spot : Option Spot) (source literal : Text) (ceiling : Option Int) : Report :=
  ⟨overflowMessage literal ceiling, spot, source, literal.length⟩

/-- The report of a fault in a source, or why there is none. -/
def Fault.report (source : Text) : Fault → Except InvalidValue Report
  | .unmatched position snippet _ => .ok (.unmatched position.spot source snippet)
  | .overflow position literal ceiling =>
    .ok (.overflow (some position.spot) source literal ceiling)
  | .invalid cause => .error cause

end LispLex
