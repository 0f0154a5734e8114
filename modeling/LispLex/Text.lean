-- SUMMARY: Texts as lists of characters: lines, joining and decimal numbers.
/-!
# Texts

A text is a list of characters, so lengths, columns and offsets all count code points. This file
holds what every other module needs of texts: cutting them into lines, joining, and writing whole
numbers in decimal.
-/

namespace LispLex

abbrev Text := List Char

-- ---------------------------------------------------------------------------
-- Lines
-- ---------------------------------------------------------------------------

/-- The characters at which an editor breaks a line. -/
def isLineBreak (c : Char) : Bool :=
  c ∈ ['\n', '\r', '\x0b', '\x0c', '\x1c', '\x1d', '\x1e', '\u0085', '\u2028', '\u2029']

/-- The lines of a text, each with the break that ends it; a carriage return and the line feed after
it are one break. -/
def brokenLines : Text → List Text
  | [] => []
  | c :: rest =>
    if isLineBreak c && !(c == '\r' && rest.head? == some '\n') then
      [c] :: brokenLines rest
    else
      match brokenLines rest with
      | [] => [[c]]
      | line :: lines => (c :: line) :: lines

/-- The pieces between line feeds: one more than there are line feeds. -/
def feedLines : Text → List Text
  | [] => [[]]
  | c :: rest =>
    if c = '\n' then [] :: feedLines rest
    else
      match feedLines rest with
      | [] => [[c]]
      | line :: lines => (c :: line) :: lines

/-- The text without its trailing copies of `c`. -/
def dropTrailing (c : Char) (text : Text) : Text :=
  (text.reverse.dropWhile (· == c)).reverse

/-- Every carriage return, with the line feed after it if there is one, becomes a line feed. -/
def unifyNewlines : Text → Text
  | [] => []
  | '\r' :: '\n' :: rest => '\n' :: unifyNewlines rest
  | '\r' :: rest => '\n' :: unifyNewlines rest
  | c :: rest => c :: unifyNewlines rest

-- ---------------------------------------------------------------------------
-- Layout
-- ---------------------------------------------------------------------------

def spaces (count : Nat) : Text :=
  List.replicate count ' '

/-- Every line is ended by a line feed. -/
def unlines (lines : List Text) : Text :=
  lines.flatMap (· ++ ['\n'])

-- ---------------------------------------------------------------------------
-- Whole numbers
-- ---------------------------------------------------------------------------

def decimal (n : Nat) : Text :=
  Nat.toDigits 10 n

def signedDecimal : Int → Text
  | .ofNat n => decimal n
  | .negSucc n => '-' :: decimal (n + 1)

end LispLex
