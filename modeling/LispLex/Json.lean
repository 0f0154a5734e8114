-- SUMMARY: JSON values and their text.
import LispLex.Text.Quoted

/-!
# JSON texts

The values that token listings are made of and their text in ASCII: two blanks of indentation per
level, entries in the given order, and characters beyond ASCII written as UTF-16 escapes.
-/

namespace LispLex

inductive Json where
  | null
  | number (n : Int)
  | text (text : Text)
  | array (items : List Json)
  | object (entries : List (Text × Json))

namespace Json

/-- A UTF-16 code unit as an escape. -/
def unitEscape (unit : Nat) : Text :=
  '\\' :: 'u' :: hexadecimal 4 unit

/-- A character as it stands inside a JSON string; beyond U+FFFF it is a pair of code units. -/
def escapedChar (c : Char) : Text :=
  if c == '"' || c == '\\' then ['\\', c]
  else if c == '\n' then ['\\', 'n']
  else if c == '\r' then ['\\', 'r']
  else if c == '\t' then ['\\', 't']
  else if c == '\x08' then ['\\', 'b']
  else if c == '\x0c' then ['\\', 'f']
  else if ' ' ≤ c && c ≤ '~' then [c]
  else if c.toNat < 0x10000 then unitEscape c.toNat
  else
    let above := c.toNat - 0x10000
    unitEscape (0xd800 + above / 0x400) ++ unitEscape (0xdc00 + above % 0x400)

def string (text : Text) : Text :=
  ['"'] ++ text.flatMap escapedChar ++ ['"']

/-- The items in brackets, each on an indented line of its own. -/
def block (opening closing : Char) (depth : Nat) (items : List Text) : Text :=
  if items.isEmpty then [opening, closing]
  else
    let indented := fun level => '\n' :: spaces (2 * level)
    [opening] ++ [','].intercalate (items.map (indented (depth + 1) ++ ·)) ++ indented depth ++
      [closing]

mutual

/-- The text of a value inside `depth` enclosing values. -/
def renderAt (depth : Nat) : Json → Text
  | .null => "null".toList
  | .number n => signedDecimal n
  | .text content => string content
  | .array items => block '[' ']' depth (renderItems (depth + 1) items)
  | .object entries => block '\x7b' '\x7d' depth (renderEntries (depth + 1) entries)

def renderItems (depth : Nat) : List Json → List Text
  | [] => []
  | item :: items => renderAt depth item :: renderItems depth items

def renderEntries (depth : Nat) : List (Text × Json) → List Text
  | [] => []
  | (key, value) :: entries =>
    (string key ++ [':', ' '] ++ renderAt depth value) :: renderEntries depth entries

end

def render (value : Json) : Text :=
  renderAt 0 value

end Json

end LispLex
