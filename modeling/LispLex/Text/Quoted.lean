-- SUMMARY: Quoted form of texts for listings and messages.
import LispLex.Text
import LispLex.Text.Printable

/-!
# Quoted texts

How a text is shown inside listings and messages: in single quotes, or in double quotes when it
holds a single quote and no double quote. Backslashes and the quote in use are escaped, and so is
every character that is not printable.
-/

namespace LispLex

/-- The lower-case hexadecimal digits of `n`, with leading zeros up to `width`. -/
def hexadecimal (width n : Nat) : Text :=
  let digits := Nat.toDigits 16 n
  List.replicate (width - digits.length) '0' ++ digits

/-- The quote that encloses a text. -/
def quoteFor (text : Text) : Char :=
  if text.contains '\'' && !text.contains '"' then '"' else '\''

/-- A character as it stands between the quotes `quote`. -/
def escaped (quote c : Char) : Text :=
  if c == quote || c == '\\' then ['\\', c]
  else if c == '\t' then ['\\', 't']
  else if c == '\n' then ['\\', 'n']
  else if c == '\r' then ['\\', 'r']
  else if isPrintable c then [c]
  else if c.toNat < 0x100 then '\\' :: 'x' :: hexadecimal 2 c.toNat
  else if c.toNat < 0x10000 then '\\' :: 'u' :: hexadecimal 4 c.toNat
  else '\\' :: 'U' :: hexadecimal 8 c.toNat

/-- The quoted form of a text. -/
def quoted (text : Text) : Text :=
  let quote := quoteFor text
  [quote] ++ text.flatMap (escaped quote) ++ [quote]

end LispLex
