-- SUMMARY: File trees in memory, and the file system that such a tree is.
import LispLex.File.System

/-!
# File trees

A file system in memory: a working directory with files and directories below it, and a clock that
stamps every change. What lies outside of the working directory exists but holds nothing known. There
may be too little room for a file, and characters that cannot be printed.
-/

namespace LispLex

inductive FileNode where
  | file (content : Bytes)
  | directory
  deriving DecidableEq, Repr

structure FileEntry where
  node : FileNode
  modified : Time
  deriving DecidableEq, Repr

structure FileTree where
  /-- The files and directories by the names that lead to them; the working directory has none. -/
  entries : List (List Text × FileEntry)
  /-- The time of the latest change. -/
  clock : Time
  /-- How many bytes a file takes when it is written; without a limit if there is none. -/
  room : Option Nat := none
  /-- Standard output takes ASCII characters only. -/
  printsAscii : Bool := false
  deriving DecidableEq, Repr

/-- Where a path leads. -/
inductive FilePlace where
  | inside (names : List Text)
  | outside
  deriving DecidableEq, Repr

namespace FileTree

/-- An empty working directory. -/
def empty (clock : Time) : FileTree where
  entries := [([], ⟨.directory, clock⟩)]
  clock

def entry? (tree : FileTree) (names : List Text) : Option FileEntry :=
  tree.entries.lookup names

-- ---------------------------------------------------------------------------
-- Following paths
-- ---------------------------------------------------------------------------

/-- The greatest number of bytes in a name. -/
def nameLimit : Nat := 255

/-- The greatest number of bytes in a path. -/
def pathLimit : Nat := 4095

/-- Follows one name from a place, which must be a directory. -/
def follow (tree : FileTree) (place : FilePlace) (name : Text) : Except FileCause FilePlace :=
  let tooLong := nameLimit < (encodeUtf8 name).length
  match place with
  | .outside =>
    if tooLong then .error .nameTooLong
    else if name = ['.', '.'] then .ok .outside
    else .error .missing
  | .inside names =>
    match (tree.entry? names).map FileEntry.node with
    | none => .error .missing
    | some (.file _) => .error .notDirectory
    | some .directory =>
      if tooLong then .error .nameTooLong
      else if name ≠ ['.', '.'] then .ok (.inside (names ++ [name]))
      else if names = [] then .ok .outside
      else .ok (.inside names.dropLast)

/-- Where a path leads; only its last name may be missing. -/
def locate (tree : FileTree) (path : Path) : Except FileCause FilePlace :=
  if pathLimit < (encodeUtf8 path.toText).length then .error .nameTooLong
  else path.names.foldlM tree.follow (if path.root = .here then .inside [] else .outside)

/-- The file or directory that a path leads to. -/
def find (tree : FileTree) (path : Path) : Except FileCause FileNode := do
  match ← tree.locate path with
  | .outside => return .directory
  | .inside names =>
    match tree.entry? names with
    | none => throw .missing
    | some entry => return entry.node

-- ---------------------------------------------------------------------------
-- Changes
-- ---------------------------------------------------------------------------

/-- Puts an entry in the place of the one with the same names, or adds it. -/
def put (tree : FileTree) (names : List Text) (entry : FileEntry) : FileTree :=
  if (tree.entry? names).isSome then
    { tree with entries := tree.entries.map fun old => if old.1 = names then (names, entry) else old }
  else { tree with entries := tree.entries ++ [(names, entry)] }

/-- The clock goes on, and the entry, if there is one, is stamped. -/
def touch (tree : FileTree) (names : List Text) : FileTree :=
  let clock := tree.clock + 1
  { tree with
    clock
    entries := tree.entries.map fun old =>
      if old.1 = names then (names, { old.2 with modified := clock }) else old }

/-- Makes a node or replaces the one that is there; a new one changes its directory too. -/
def store (tree : FileTree) (names : List Text) (node : FileNode) : FileTree :=
  let known := (tree.entry? names).isSome
  let stored := (tree.put names ⟨node, tree.clock⟩).touch names
  if known then stored else stored.touch names.dropLast

/-- Removes a file. -/
def remove (tree : FileTree) (names : List Text) : FileTree :=
  if (tree.entry? names).isSome then
    { tree with entries := tree.entries.filter (·.1 ≠ names) }.touch names.dropLast
  else tree

/-- Sets the time of an entry's latest change. -/
def setModified (tree : FileTree) (names : List Text) (modified : Time) : FileTree :=
  { tree with entries := tree.entries.map fun old =>
      if old.1 = names then (names, { old.2 with modified }) else old }

-- ---------------------------------------------------------------------------
-- Access
-- ---------------------------------------------------------------------------

def isFile (tree : FileTree) (path : Path) : Except FileFault Bool :=
  match tree.find path with
  | .ok (.file _) => .ok true
  | .ok .directory => .ok false
  | .error cause => if cause.isAbsence then .ok false else .error ⟨cause, some path⟩

def read (tree : FileTree) (path : Path) : Except FileFault Bytes :=
  match tree.find path with
  | .ok (.file content) => .ok content
  | .ok .directory => .error ⟨.isDirectory, some path⟩
  | .error cause => .error ⟨cause, some path⟩

/-- As much of a file's content as there is room for. -/
def fitting (tree : FileTree) (content : Bytes) : Bytes :=
  match tree.room with
  | none => content
  | some room => content.take room

def write (tree : FileTree) (path : Path) (content : Bytes) : Written FileTree :=
  match tree.locate path with
  | .error cause => .unopened ⟨cause, some path⟩
  | .ok .outside => .unopened ⟨.isDirectory, some path⟩
  | .ok (.inside names) =>
    match (tree.entry? names).map FileEntry.node with
    | some .directory => .unopened ⟨.isDirectory, some path⟩
    | _ =>
      .opened (tree.store names (.file (tree.fitting content)))
        (if tree.fitting content = content then none else some ⟨.noSpace, none⟩)

def print (tree : FileTree) (text : Text) : Except StreamFault Unit :=
  if tree.printsAscii ∧ text.any (127 < ·.toNat) then
    .error (.unencodable "ordinal not in range(128)".toList)
  else .ok ()

def modified? (tree : FileTree) (path : Path) : Option Time :=
  match tree.locate path with
  | .ok (.inside names) => (tree.entry? names).map FileEntry.modified
  | .ok .outside => some tree.clock
  | .error _ => none

end FileTree

instance : FileSystem FileTree where
  isFile := FileTree.isFile
  read := FileTree.read
  write := FileTree.write
  print := FileTree.print
  modified? := FileTree.modified?

end LispLex
