-- SUMMARY: Values of tokens, ceilings on numbers, and what is wrong with a text that has no value.
import LispLex.Text.Numeral
import LispLex.Token.Kind

/-!
# Token values

What a token carries besides its raw text: the number that a number literal writes, the text between
the quotes of a string literal, the name of an identifier. Numbers may be bounded by a ceiling, and
none with more than `digitLimit` digits is taken.
-/

namespace LispLex

inductive Value where
  | number (n : Int)
  | text (text : Text)
  deriving DecidableEq, Repr

/-- The standard ceiling for number literals, the greatest signed 64-bit integer. -/
def standardCeiling : Int := Int.pow 2 63 - 1

-- ---------------------------------------------------------------------------
-- Faults
-- ---------------------------------------------------------------------------

/-- Why a text has no value at all. -/
inductive InvalidValue where
  /-- A number literal is not a run of ASCII digits. -/
  | malformedNumber (literal : Text)
  /-- A number is above a ceiling that is itself too long to be shown. -/
  | unwritableCeiling
  deriving DecidableEq, Repr

/-- Why a token's value cannot be taken. -/
inductive ValueFault where
  /-- The number is above the ceiling or, if none is given, has more digits than the digit limit. -/
  | overflow (literal : Text) (ceiling : Option Int)
  | invalid (cause : InvalidValue)
  deriving DecidableEq, Repr

/-- The fault of a number that is too large, unless the ceiling that says so cannot be shown. -/
def ValueFault.overflowOf (literal : Text) (ceiling : Option Int) : ValueFault :=
  if ceiling.all isWritable then .overflow literal ceiling else .invalid .unwritableCeiling

-- ---------------------------------------------------------------------------
-- Extraction
-- ---------------------------------------------------------------------------

def isAsciiDigit (c : Char) : Bool :=
  (asciiDigit? c).isSome

/-- The number that a run of ASCII digits writes. -/
def decimalValue (digits : Text) : Nat :=
  ofDigits 10 (digits.filterMap asciiDigit?)

/-- The digits without leading zeros, but at least one. -/
def significantDigits (digits : Text) : Text :=
  match digits.dropWhile (· == '0') with
  | [] => ['0']
  | significant => significant

/-- The ceiling is below every number with that many digits. -/
def isBelowLength (ceiling : Int) (digitCount : Nat) : Bool :=
  1 < digitCount && decide (ceiling < Int.pow 10 (digitCount - 1))

/-- The number that a literal writes. The count of its digits alone decides where it can. -/
def numberValue (ceiling : Option Int) (literal : Text) : Except ValueFault Nat :=
  if literal = [] ∨ !literal.all isAsciiDigit then
    .error (.invalid (.malformedNumber literal))
  else
    let digits := significantDigits literal
    match ceiling with
    | none =>
      if digitLimit < digits.length then .error (.overflowOf literal none)
      else .ok (decimalValue digits)
    | some ceiling =>
      if isBelowLength ceiling digits.length then .error (.overflowOf literal (some ceiling))
      else if digitLimit < digits.length then .error (.overflowOf literal none)
      else if ceiling < decimalValue digits then .error (.overflowOf literal (some ceiling))
      else .ok (decimalValue digits)

/-- The text without a quote at its start and then without a quote at its end. -/
def unquoted (literal : Text) : Text :=
  let opened := if literal.head? = some '"' then literal.tail else literal
  if opened.getLast? = some '"' then opened.dropLast else opened

/-- The value of a token of this kind whose raw text is `text`; none for kinds without values. -/
def Kind.value? (ceiling : Option Int) (kind : Kind) (text : Text) :
    Except ValueFault (Option Value) :=
  match kind with
  | .number => (numberValue ceiling text).map fun n => some (.number n)
  | .string => .ok (some (.text (unquoted text)))
  | .identifier => .ok (some (.text text))
  | _ => .ok none

end LispLex
