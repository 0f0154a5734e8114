-- SUMMARY: Reader for TOML statements and values.
import LispLex.Text.Reader
import LispLex.Toml.Document

/-!
# Reading configuration documents

The written form of TOML statements and values. A document is read statement by statement, and each
is added to the document before the next is read, so the first fault decides.
-/

namespace LispLex

inductive TomlFault where
  | malformed
  /-- A decimal number with that many digits, more than the digit limit. -/
  | longNumber (digits : Nat)
  deriving DecidableEq, Repr

abbrev TomlReader := TextReader TomlFault Unit

namespace TomlReader

open TextReader

/-- Fails unless the expected text comes next. -/
def expect (expected : Text) : TomlReader Unit := do
  unless ← accept expected do throw .malformed

def ofOption : Option α → TomlReader α
  | none => throw .malformed
  | some a => return a

-- ---------------------------------------------------------------------------
-- Space and comments
-- ---------------------------------------------------------------------------

def isInlineSpace (c : Char) : Bool :=
  c == ' ' || c == '\t'

/-- The control characters, which may not stand in texts and comments; tabs may. -/
def isControl (c : Char) : Bool :=
  (c.toNat < 0x20 && c != '\t') || c.toNat == 0x7f

def skipSpace : TomlReader Unit := do
  let _ ← takeWhile isInlineSpace

/-- Skips a comment up to the end of its line. -/
def skipComment : TomlReader Unit := do
  if (← peek?) = some '#' then
    if (← takeWhile (· != '\n')).any isControl then throw .malformed

/-- Skips space, line ends and comments; `budget` bounds the number of comments. -/
def skipLines : (budget : Nat) → TomlReader Unit
  | 0 => return
  | budget + 1 => do
    let _ ← takeWhile fun c => isInlineSpace c || c == '\n'
    if (← peek?) = some '#' then
      skipComment
      skipLines budget

-- ---------------------------------------------------------------------------
-- Texts
-- ---------------------------------------------------------------------------

def simpleEscapes : List (Char × Char) :=
  [('b', '\x08'), ('t', '\t'), ('n', '\n'), ('f', '\x0c'), ('r', '\r'), ('"', '"'), ('\\', '\\')]

/-- The character with exactly `count` hexadecimal digits coming next as its number. -/
def readNumberedChar (count : Nat) : TomlReader Char := do
  let digits := (← takeUpTo count fun c => (hexadecimalDigit? c).isSome).filterMap hexadecimalDigit?
  let number := ofDigits 16 digits
  if digits.length = count ∧ number.isValidChar then return Char.ofNat number
  throw .malformed

/-- What a backslash and the characters after it stand for. In a text of several lines a backslash
at the end of a line takes the line end and all space after it away. -/
def readEscape (manyLines : Bool) : TomlReader Text := do
  match ← take? with
  | none => throw .malformed
  | some 'u' => return [← readNumberedChar 4]
  | some 'U' => return [← readNumberedChar 8]
  | some c =>
    if manyLines && (isInlineSpace c || c == '\n') then
      if c != '\n' then
        skipSpace
        unless (← rest).isEmpty do expect ['\n']
      let _ ← takeWhile fun c => isInlineSpace c || c == '\n'
      return []
    return [← ofOption (simpleEscapes.lookup c)]

/-- The rest of a text in double quotes, up to its closing quotes. -/
def readBasic (manyLines : Bool) : (budget : Nat) → TomlReader Text
  | 0 => throw .malformed
  | budget + 1 => do
    match ← take? with
    | none => throw .malformed
    | some '"' =>
      if manyLines && !(← accept ['"', '"']) then return '"' :: (← readBasic manyLines budget)
      return []
    | some '\\' =>
      let piece ← readEscape manyLines
      return piece ++ (← readBasic manyLines budget)
    | some c =>
      if isControl c && !(manyLines && c == '\n') then throw .malformed
      return c :: (← readBasic manyLines budget)

/-- The rest of a text in single quotes, up to its closing quotes. -/
def readLiteral (manyLines : Bool) : (budget : Nat) → TomlReader Text
  | 0 => throw .malformed
  | budget + 1 => do
    if ← accept (if manyLines then ['\'', '\'', '\''] else ['\'']) then return []
    match ← take? with
    | none => throw .malformed
    | some c =>
      if isControl c && !(manyLines && c == '\n') then throw .malformed
      return c :: (← readLiteral manyLines budget)

/-- The rest of a text of several lines. A line end right after the opening quotes does not count,
and up to two quotes before the closing ones belong to the text. -/
def readManyLines (quote : Char) (readRest : (budget : Nat) → TomlReader Text) :
    TomlReader Text := do
  let _ ← accept ['\n']
  let content ← readRest ((← rest).length + 1)
  return content ++ (← takeUpTo 2 (· == quote))

def readBasicText : TomlReader Text := do
  expect ['"']
  readBasic false ((← rest).length + 1)

def readLiteralText : TomlReader Text := do
  expect ['\'']
  readLiteral false ((← rest).length + 1)

-- ---------------------------------------------------------------------------
-- Keys
-- ---------------------------------------------------------------------------

def isBareKeyChar (c : Char) : Bool :=
  c.isAlphanum || c == '-' || c == '_'

def readKeyPart : TomlReader Text := do
  match ← peek? with
  | some '"' => readBasicText
  | some '\'' => readLiteralText
  | _ =>
    let bare ← takeWhile isBareKeyChar
    if bare.isEmpty then throw .malformed
    return bare

/-- A dotted key and the space after it; `budget` bounds the number of its parts. -/
def readKey : (budget : Nat) → TomlReader TomlKey
  | 0 => throw .malformed
  | budget + 1 => do
    let part ← readKeyPart
    skipSpace
    unless ← accept ['.'] do return [part]
    skipSpace
    return part :: (← readKey budget)

-- ---------------------------------------------------------------------------
-- Numbers
-- ---------------------------------------------------------------------------

/-- The bases that a letter after a zero announces. -/
def numberBases : List (Char × Nat) :=
  [('x', 16), ('o', 8), ('b', 2)]

/-- A digit of the given base. -/
def digitBelow? (base : Nat) (c : Char) : Option Nat :=
  (hexadecimalDigit? c).filter (· < base)

/-- A number with the base announced, without a sign. -/
def basedNumber? (text : Text) : Option (Toml × Text) :=
  match text with
  | '0' :: letter :: rest => do
    let base ← numberBases.lookup letter
    let (digits, after) := takeDigits (digitBelow? base) rest
    guard (!digits.isEmpty)
    return (.integer (ofDigits base digits), after)
  | _ => none

/-- The digits before the point: a zero, or digits that start with no zero. -/
def wholeDigits? : Text → Option (List Nat × Text)
  | '0' :: rest => some ([0], rest)
  | text =>
    match takeDigits asciiDigit? text with
    | ([], _) => none
    | found => some found

/-- The digits after a point; none without a digit behind it. -/
def fractionDigits (text : Text) : List Nat × Text :=
  match text with
  | '.' :: rest =>
    match takeDigits asciiDigit? rest with
    | ([], _) => ([], text)
    | found => found
  | _ => ([], text)

/-- The exponent after its letter; none without a digit behind it. -/
def exponent? (text : Text) : Option (Int × Text) :=
  match text with
  | letter :: rest => do
    guard (letter == 'e' || letter == 'E')
    let (negative, rest) := match rest with
      | '-' :: rest => (true, rest)
      | '+' :: rest => (false, rest)
      | rest => (false, rest)
    match takeDigits asciiDigit? rest with
    | ([], _) => none
    | (digits, after) =>
      let size : Int := ofDigits 10 digits
      return (if negative then -size else size, after)
  | [] => none

/-- A decimal number at the start of a text: an integer, or with a fraction or an exponent a
float. -/
def decimalNumber? (text : Text) : Option (Except TomlFault Toml × Text) := do
  let (negative, unsigned) := match text with
    | '-' :: rest => (true, rest)
    | '+' :: rest => (false, rest)
    | _ => (false, text)
  let (whole, rest) ← wholeDigits? unsigned
  let (fraction, rest) := fractionDigits rest
  match fraction, exponent? rest with
  | [], none =>
    let n : Int := ofDigits 10 whole
    if digitLimit < whole.length then return (.error (.longNumber whole.length), rest)
    return (.ok (.integer (if negative then -n else n)), rest)
  | _, scale =>
    let (exponent, rest) := scale.getD (0, rest)
    let digits := ofDigits 10 (whole ++ fraction)
    return (.ok (.float (.ofDecimal negative digits (exponent - fraction.length))), rest)

/-- The numbers written with letters. -/
def specialNumbers : List (Text × Double) :=
  [("inf".toList, .infinite false), ("+inf".toList, .infinite false),
   ("-inf".toList, .infinite true), ("nan".toList, .nan), ("+nan".toList, .nan),
   ("-nan".toList, .nan)]

def readNumber : TomlReader Toml := do
  let text ← rest
  if let some (value, after) := basedNumber? text then
    setRest after
    return value
  if let some (value, after) := decimalNumber? text then
    setRest after
    return ← value
  match specialNumbers.find? (·.1.isPrefixOf text) with
  | some (name, value) =>
    skip name.length
    return .float value
  | none => throw .malformed

-- ---------------------------------------------------------------------------
-- Values
-- ---------------------------------------------------------------------------

/-- An inline table in the making, with its keys that may not be extended. -/
structure InlineTable where
  entries : TomlTable := []
  closed : List TomlKey := []

/-- Adds an entry to an inline table. -/
def InlineTable.add? (table : InlineTable) (key : TomlKey) (value : Toml) :
    Option InlineTable := do
  guard (!isClosed table.closed key)
  let (path, last) ← key.split?
  let entries ← table.entries.within false (TomlTable.add? last value) path
  return ⟨entries, if value.isContainer then key :: table.closed else table.closed⟩

mutual

/-- A value; `budget` bounds the nesting and the number of items. -/
def readValue : (budget : Nat) → TomlReader Toml
  | 0 => throw .malformed
  | budget + 1 => do
    if ← accept ['"', '"', '"'] then return .text (← readManyLines '"' (readBasic true))
    if ← accept ['\'', '\'', '\''] then return .text (← readManyLines '\'' (readLiteral true))
    match ← peek? with
    | some '"' => return .text (← readBasicText)
    | some '\'' => return .text (← readLiteralText)
    | some '[' =>
      skip 1
      return .array (← readItems budget)
    | some '\x7b' =>
      skip 1
      skipSpace
      if ← accept ['\x7d'] then return .table []
      return .table (← readEntries budget {})
    | _ =>
      if ← accept "true".toList then return .boolean true
      if ← accept "false".toList then return .boolean false
      if let some (moment, after) := Moment.read? (← rest) then
        setRest after
        return .moment (← ofOption moment)
      readNumber

/-- The items of an array up to its closing bracket; a comma may stand before that. -/
def readItems : (budget : Nat) → TomlReader (List Toml)
  | 0 => throw .malformed
  | budget + 1 => do
    skipLines ((← rest).length + 1)
    if ← accept [']'] then return []
    let item ← readValue budget
    skipLines ((← rest).length + 1)
    if ← accept [','] then return item :: (← readItems budget)
    expect [']']
    return [item]

/-- The entries of an inline table up to its closing brace. -/
def readEntries : (budget : Nat) → InlineTable → TomlReader TomlTable
  | 0, _ => throw .malformed
  | budget + 1, table => do
    let key ← readKey ((← rest).length + 1)
    expect ['=']
    skipSpace
    let value ← readValue budget
    let table ← ofOption (table.add? key value)
    skipSpace
    if ← accept [','] then
      skipSpace
      return ← readEntries budget table
    expect ['\x7d']
    return table.entries

end

-- ---------------------------------------------------------------------------
-- Statements
-- ---------------------------------------------------------------------------

/-- The key of a header between its brackets. -/
def readHeader (closing : Text) : TomlReader TomlKey := do
  skipSpace
  let key ← readKey ((← rest).length + 1)
  expect closing
  return key

def readEntry : TomlReader TomlStatement := do
  let length := (← rest).length
  let key ← readKey (length + 1)
  expect ['=']
  skipSpace
  return .entry key (← readValue (2 * length + 2))

/-- The statement at the start of a line, if there is one. -/
def readStatement? : TomlReader (Option TomlStatement) := do
  skipSpace
  match ← peek? with
  | none | some '\n' | some '#' => return none
  | some '[' =>
    if ← accept ['[', '['] then return some (.element (← readHeader [']', ']']))
    skip 1
    return some (.table (← readHeader [']']))
  | some _ => return some (← readEntry)

/-- The end of a line: space and a comment, and then a line feed unless the text is over. -/
def readLineEnd : TomlReader Unit := do
  skipSpace
  skipComment
  unless (← rest).isEmpty do expect ['\n']

/-- Adds the lines of the rest of a text to a document; `budget` bounds their number. -/
def readDocument : (budget : Nat) → TomlDocument → TomlReader TomlDocument
  | 0, document => return document
  | budget + 1, document => do
    if (← rest).isEmpty then return document
    let document ← match ← readStatement? with
      | none => pure document
      | some statement => ofOption (document.apply statement)
    readLineEnd
    readDocument budget document

end TomlReader

/-- Carriage returns before line feeds do not count. -/
def dropFeedReturns : Text → Text
  | [] => []
  | '\r' :: '\n' :: rest => '\n' :: dropFeedReturns rest
  | c :: rest => c :: dropFeedReturns rest

/-- The table that a text writes. -/
def TomlTable.read (text : Text) : Except TomlFault TomlTable := do
  let text := dropFeedReturns text
  let (document, _) ← (TomlReader.readDocument (text.length + 1) {}).run ⟨text, ()⟩
  return document.root

end LispLex
