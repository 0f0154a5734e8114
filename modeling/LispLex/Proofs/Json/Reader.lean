-- SUMMARY: A reader of JSON texts, independent of the writer.
import LispLex.Json
import LispLex.Proofs.Text.Digits

/-!
# A reader of JSON texts

What a JSON text of whole numbers, texts, arrays and objects stands for. The reader takes one value
from the start of a text and gives back what is behind it. Layout may stand between all parts, every
escape of the format is understood, and the two code units of a character beyond U+FFFF are joined.
-/

namespace LispLex.Json

/-! ## Layout -/

def isLayout (c : Char) : Bool :=
  c ∈ [' ', '\t', '\n', '\r']

def skipLayout (text : Text) : Text :=
  text.dropWhile isLayout

theorem skipLayout_append {layout : Text} (hlayout : ∀ c ∈ layout, isLayout c = true) {c : Char}
    (hc : isLayout c = false) (rest : Text) : skipLayout (layout ++ c :: rest) = c :: rest := by
  rw [skipLayout, List.dropWhile_append_of_pos hlayout, List.dropWhile_cons_of_neg (by simp [hc])]

/-! ## Characters -/

/-- The escapes that name a character. -/
def escapeNames : List (Char × Char) :=
  [('"', '"'), ('\\', '\\'), ('/', '/'), ('b', '\x08'), ('f', '\x0c'), ('n', '\n'), ('r', '\r'),
   ('t', '\t')]

/-- The code unit that an escape numbers, and the text behind the escape. -/
def readUnit? : Text → Option (Nat × Text)
  | '\\' :: 'u' :: rest => takeHexadecimal? 4 rest
  | _ => none

def isHighSurrogate (unit : Nat) : Bool :=
  0xd800 ≤ unit && unit < 0xdc00

def isLowSurrogate (unit : Nat) : Bool :=
  0xdc00 ≤ unit && unit < 0xe000

/-- The character of a high and a low surrogate. -/
def joined (high low : Nat) : Char :=
  Char.ofNat (0x10000 + (high - 0xd800) * 0x400 + (low - 0xdc00))

/-- The character that one or two escapes number; surrogates that are no pair number none. -/
def readNumbered? (text : Text) : Option (Char × Text) := do
  let (unit, rest) ← readUnit? text
  if isHighSurrogate unit then
    let (low, rest) ← readUnit? rest
    if isLowSurrogate low then return (joined unit low, rest) else none
  else if isLowSurrogate unit then none
  else return (Char.ofNat unit, rest)

/-- One character of a string. Quotes, backslashes and control characters have to be escaped. -/
def readCharacter? : Text → Option (Char × Text)
  | [] => none
  | '\\' :: 'u' :: rest => readNumbered? ('\\' :: 'u' :: rest)
  | ['\\'] => none
  | '\\' :: name :: rest => (escapeNames.lookup name).map (·, rest)
  | c :: rest => if c == '"' || c < ' ' then none else some (c, rest)

/-! ## Strings -/

/-- The characters up to the closing quote, at most `budget` with the quote, and the text behind it. -/
def readCharacters? : (budget : Nat) → Text → Option (Text × Text)
  | 0, _ => none
  | budget + 1, input =>
    if input.head? = some '"' then some ([], input.tail)
    else do
      let (c, rest) ← readCharacter? input
      let (content, rest) ← readCharacters? budget rest
      return (c :: content, rest)

/-- A string. It cannot have more characters than there are in the text. -/
def readString? : Text → Option (Text × Text)
  | '"' :: rest => readCharacters? rest.length rest
  | _ => none

/-- Escapes and plain characters, up to the closing quote. -/
example : readString? "\"\\ud83d\\ude00\\/a\", 1".toList = some ("😀/a".toList, ", 1".toList) := by
  decide

/-- One half of a pair is no character. -/
example : readString? "\"\\ud83d\"".toList = none := by decide

/-! ## Numbers -/

/-- The text does not go on with more digits, a fraction or an exponent. -/
def EndsNumber (rest : Text) : Prop :=
  ∀ c ∈ rest.head?, isAsciiDigit c = false ∧ c ∉ ['.', 'e', 'E']

instance : (rest : Text) → Decidable (EndsNumber rest)
  | [] => .isTrue (by simp [EndsNumber])
  | c :: _ =>
    decidable_of_iff (isAsciiDigit c = false ∧ c ∉ ['.', 'e', 'E']) (by simp [EndsNumber])

/-- Digits that write a whole number: all there are, at least one, and without a leading zero. -/
def readNatural? (text : Text) : Option (Nat × Text) :=
  let digits := text.takeWhile isAsciiDigit
  let rest := text.dropWhile isAsciiDigit
  if digits = significantDigits digits ∧ EndsNumber rest then
    some (decimalValue digits, rest)
  else none

def readNumber? : Text → Option (Int × Text)
  | '-' :: rest => (readNatural? rest).map fun (n, rest) => (-n, rest)
  | input => (readNatural? input).map fun (n, rest) => (n, rest)

/-! ## Arrays and objects -/

section Block

variable {α : Type} (readItem? : Text → Option (α × Text)) (closing : Char)

/-- At least one and at most `budget` items with commas between them, up to the closing bracket, and
the text behind it. -/
def readItems? : (budget : Nat) → Text → Option (List α × Text)
  | 0, _ => none
  | budget + 1, input => do
    let (item, rest) ← readItem? (skipLayout input)
    match skipLayout rest with
    | [] => none
    | c :: rest =>
      if c = closing then return ([item], rest)
      else if c = ',' then
        let (items, rest) ← readItems? budget rest
        return (item :: items, rest)
      else none

/-- The items behind an opening bracket. There cannot be more of them than characters. -/
def readBlock? (text : Text) : Option (List α × Text) :=
  match skipLayout text with
  | [] => none
  | c :: rest => if c = closing then some ([], rest) else readItems? readItem? closing text.length text

end Block

/-- A key and its value. -/
def readMember? (readValue? : Text → Option (Json × Text)) (text : Text) :
    Option ((Text × Json) × Text) := do
  let (key, rest) ← readString? text
  match skipLayout rest with
  | ':' :: rest =>
    let (value, rest) ← readValue? (skipLayout rest)
    return ((key, value), rest)
  | _ => none

/-! ## Values -/

/-- The value at the start of a text, nested to less than the given depth, and the text behind it. -/
def readNested? : (nesting : Nat) → Text → Option (Json × Text)
  | 0, _ => none
  | _ + 1, 'n' :: 'u' :: 'l' :: 'l' :: rest => some (.null, rest)
  | nesting + 1, '[' :: rest =>
    (readBlock? (readNested? nesting) ']' rest).map fun (items, rest) => (.array items, rest)
  | nesting + 1, '\x7b' :: rest =>
    (readBlock? (readMember? (readNested? nesting)) '\x7d' rest).map fun (entries, rest) =>
      (.object entries, rest)
  | _ + 1, '"' :: rest =>
    (readString? ('"' :: rest)).map fun (content, rest) => (.text content, rest)
  | _ + 1, input => (readNumber? input).map fun (n, rest) => (.number n, rest)

/-- The value that a text starts with, and the text behind it. No value is nested deeper than its text
is long. -/
def read? (text : Text) : Option (Json × Text) :=
  readNested? text.length (skipLayout text)

end LispLex.Json
