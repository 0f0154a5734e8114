-- SUMMARY: Configuration documents built from statements, with the checks against declaring anything twice.
import LispLex.Toml.Value

/-!
# Configuration documents

A document is a sequence of statements: headers of tables, headers of array elements, and entries.
Building it refuses what would declare or change something twice: tables are declared once, values
written out in one place are closed, and dotted keys of one section close the tables they pass
through for the sections after it.
-/

namespace LispLex

/-- A dotted key; the document itself has the empty one. -/
abbrev TomlKey := List Text

/-- A key with the parts before its last, and that last part. -/
def TomlKey.split? (key : TomlKey) : Option (TomlKey × Text) :=
  key.getLast?.map (key.dropLast, ·)

/-- The keys that a dotted key passes through below a header. -/
def TomlKey.passed (key header : TomlKey) : List TomlKey :=
  (List.range key.length).tail.map fun count => header ++ key.take count

inductive TomlStatement where
  | table (key : TomlKey)
  | element (key : TomlKey)
  | entry (key : TomlKey) (value : Toml)

/-- One of the closed keys is the key itself or leads to it. -/
def isClosed (closed : List TomlKey) (key : TomlKey) : Bool :=
  closed.any (·.isPrefixOf key)

/-- A document in the making. -/
structure TomlDocument where
  root : TomlTable := []
  /-- The section that entries go to. -/
  header : TomlKey := []
  /-- Tables that may not be declared again. -/
  declared : List TomlKey := []
  /-- Tables passed through in the current section, declared once it is over. -/
  passed : List TomlKey := []
  /-- Values that may not be extended, nor anything below them. -/
  closed : List TomlKey := []

namespace TomlDocument

/-- Starts another section. -/
def endSection (document : TomlDocument) : TomlDocument :=
  { document with declared := document.declared ++ document.passed, passed := [] }

def openTable (document : TomlDocument) (key : TomlKey) : Option TomlDocument := do
  guard (!document.declared.contains key && !isClosed document.closed key)
  let root ← document.root.within true some key
  return { document with root, header := key, declared := key :: document.declared }

/-- Starts another element of an array; what was said below the array before is forgotten. -/
def openElement (document : TomlDocument) (key : TomlKey) : Option TomlDocument := do
  guard (!isClosed document.closed key)
  let (path, last) ← key.split?
  let root ← document.root.within true (TomlTable.addElement? last) path
  let outside := fun other : TomlKey => !key.isPrefixOf other
  return { document with
    root, header := key,
    declared := key :: document.declared.filter outside,
    closed := document.closed.filter outside }

def addEntry (document : TomlDocument) (key : TomlKey) (value : Toml) : Option TomlDocument := do
  let passed := key.passed document.header
  guard (!passed.any document.declared.contains)
  let (path, last) ← (document.header ++ key).split?
  guard (!isClosed document.closed path)
  let root ← document.root.within true (TomlTable.add? last value) path
  return { document with
    root, passed := document.passed ++ passed,
    closed := if value.isContainer then (document.header ++ key) :: document.closed
      else document.closed }

/-- Adds one statement, unless the document may not be changed that way. -/
def apply (document : TomlDocument) : TomlStatement → Option TomlDocument
  | .table key => document.endSection.openTable key
  | .element key => document.endSection.openElement key
  | .entry key value => document.addEntry key value

end TomlDocument

end LispLex
