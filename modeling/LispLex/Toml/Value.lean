-- SUMMARY: Configuration values and their text in messages.
import LispLex.Decimal.Shortest
import LispLex.Text.Numeral
import LispLex.Text.Quoted
import LispLex.Toml.Moment

/-!
# Configuration values

The values of a TOML document, and their text in messages. Tables keep the order of their entries. A
value that holds a number beyond the digit limit has no text.
-/

namespace LispLex

inductive Toml where
  | text (text : Text)
  | integer (n : Int)
  | float (x : Double)
  | boolean (b : Bool)
  | moment (m : Moment)
  | array (items : List Toml)
  | table (entries : List (Text × Toml))

/-- The entries of a table. -/
abbrev TomlTable := List (Text × Toml)

namespace Toml

def booleanText (b : Bool) : Text :=
  (if b then "True" else "False").toList

/-- Items between brackets, separated by commas. -/
def enclosed (opening closing : Char) (items : List Text) : Text :=
  [opening] ++ [',', ' '].intercalate items ++ [closing]

mutual

/-- The text of a value in messages. -/
def shown? : Toml → Option Text
  | .text content => some (quoted content)
  | .integer n => if isWritable n then some (signedDecimal n) else none
  | .float x => some x.toText
  | .boolean b => some (booleanText b)
  | .moment m => some m.shown
  | .array items => (shownItems? items).map (enclosed '[' ']')
  | .table entries => (shownEntries? entries).map (enclosed '\x7b' '\x7d')

def shownItems? : List Toml → Option (List Text)
  | [] => some []
  | item :: items => do return (← item.shown?) :: (← shownItems? items)

def shownEntries? : List (Text × Toml) → Option (List Text)
  | [] => some []
  | (key, value) :: entries => do
    return (quoted key ++ [':', ' '] ++ (← value.shown?)) :: (← shownEntries? entries)

end

/-- The text of a value taken as a name: a text stands for itself, and a moment for its own text. -/
def name? : Toml → Option Text
  | .text content => some content
  | .moment m => some m.toText
  | value => value.shown?

/-- A value that may not be extended once it is written: an array or a table. -/
def isContainer : Toml → Bool
  | .array _ | .table _ => true
  | _ => false

end Toml

-- ---------------------------------------------------------------------------
-- Tables
-- ---------------------------------------------------------------------------

namespace TomlTable

def get? (table : TomlTable) (key : Text) : Option Toml :=
  List.lookup key table

/-- Puts a value in the place of the key's entry, or at the end if there is none. -/
def set (table : TomlTable) (key : Text) (value : Toml) : TomlTable :=
  match table with
  | [] => [(key, value)]
  | (other, old) :: entries =>
    if other = key then (key, value) :: entries else (other, old) :: set entries key value

/-- Changes the table at the end of a path. Tables that are missing on the way are made; with
`intoArrays` an array on the way stands for its last table. None if another value is in the way. -/
def within (intoArrays : Bool) (change : TomlTable → Option TomlTable) :
    List Text → TomlTable → Option TomlTable
  | [], table => change table
  | key :: path, table =>
    match table.get? key with
    | none => (within intoArrays change path []).map fun inner => table.set key (.table inner)
    | some (.table entries) =>
      (within intoArrays change path entries).map fun inner => table.set key (.table inner)
    | some (.array items) =>
      match intoArrays, items.getLast? with
      | true, some (.table entries) =>
        (within intoArrays change path entries).map fun inner =>
          table.set key (.array (items.dropLast ++ [.table inner]))
      | _, _ => none
    | some _ => none

/-- Adds an entry unless the key has one. -/
def add? (key : Text) (value : Toml) (table : TomlTable) : Option TomlTable :=
  if (table.get? key).isSome then none else some (table ++ [(key, value)])

/-- Adds an empty table to the array of the key, which is made if it is missing. -/
def addElement? (key : Text) (table : TomlTable) : Option TomlTable :=
  match table.get? key with
  | none => some (table ++ [(key, .array [.table []])])
  | some (.array items) => some (table.set key (.array (items ++ [.table []])))
  | some _ => none

end TomlTable

end LispLex
