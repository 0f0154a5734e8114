-- SUMMARY: Readers of whole numbers, strict and lenient.
import LispLex.Text
import LispLex.Text.Digit
import LispLex.Text.Space

/-!
# Numerals

Reading whole numbers. Digits may be grouped by single underscores. The lenient form also takes
surrounding white space, a sign, and the decimal digits of any script.
-/

namespace LispLex

/-- The greatest number of decimal digits that is converted between numbers and texts. -/
def digitLimit : Nat := 4300

/-- The number has a decimal text within the digit limit. -/
def isWritable (n : Int) : Bool :=
  n.natAbs < Nat.pow 10 digitLimit

/-- What is said of a number beyond the digit limit. -/
def limitMessage (detail : Text) : Text :=
  "Exceeds the limit (".toList ++ decimal digitLimit ++
    " digits) for integer string conversion".toList ++ detail ++
    "; use sys.set_int_max_str_digits() to increase the limit".toList

/-- What is said of a number that is too long to be written. -/
def unwritableMessage : Text :=
  limitMessage []

/-- What is said of a numeral that is too long to be read. -/
def unreadableMessage (digits : Nat) : Text :=
  limitMessage (": value has ".toList ++ decimal digits ++ " digits".toList)

/-- The number with the given digits in some base, first digit first. -/
def ofDigits (base : Nat) (digits : List Nat) : Nat :=
  digits.foldl (fun n digit => n * base + digit) 0

/-- The digits at the start of a text with single underscores between them, and the text after
them. -/
def takeDigits (digit? : Char → Option Nat) : Text → List Nat × Text
  | [] => ([], [])
  | c :: rest =>
    match digit? c with
    | none => ([], c :: rest)
    | some digit =>
      match rest with
      | '_' :: next :: rest =>
        if (digit? next).isSome then
          let (digits, after) := takeDigits digit? (next :: rest)
          (digit :: digits, after)
        else ([digit], '_' :: next :: rest)
      | rest =>
        let (digits, after) := takeDigits digit? rest
        (digit :: digits, after)

/-- White space that may surround a lenient numeral: all but the ASCII information separators. -/
def isNumeralSpace (c : Char) : Bool :=
  isSpace c && !('\x1c' ≤ c && c ≤ '\x1f')

/-- The number that an optional sign and the text after it write, by reading that text. -/
def signed? (natural? : Text → Option Nat) : Text → Option Int
  | '-' :: rest => (natural? rest).map fun n => -(n : Int)
  | '+' :: rest => (natural? rest).map Int.ofNat
  | text => (natural? text).map Int.ofNat

/-- The natural number that a whole text writes in decimal digits of any script. -/
def lenientNatural? (text : Text) : Option Nat :=
  match takeDigits decimalDigit? text with
  | (digits, []) =>
    if digits.isEmpty || digitLimit < digits.length then none else some (ofDigits 10 digits)
  | _ => none

/-- The number that a text writes in the lenient form. -/
def lenientInteger? (text : Text) : Option Int :=
  let start := text.dropWhile isNumeralSpace
  signed? lenientNatural? (start.reverse.dropWhile isNumeralSpace).reverse

end LispLex
