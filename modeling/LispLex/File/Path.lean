-- SUMMARY: Paths as lists of names behind a root, read from and shown as texts.
import LispLex.Text

/-!
# Paths

A path is a list of names, from a root or from the working directory. Empty names and single dots do
not count; double dots stay and are followed when the path is used.
-/

namespace LispLex

/-- Where a path starts. -/
inductive Root where
  /-- The working directory. -/
  | here
  | slash
  /-- Exactly two slashes, which are kept; more than two are taken as one. -/
  | twoSlashes
  deriving DecidableEq, Repr

structure Path where
  root : Root
  names : List Text
  deriving DecidableEq, Repr

/-- The pieces between slashes. -/
def slashPieces : Text → List Text
  | [] => [[]]
  | c :: rest =>
    if c = '/' then [] :: slashPieces rest
    else
      match slashPieces rest with
      | [] => [[c]]
      | piece :: pieces => (c :: piece) :: pieces

/-- The root of the path that a text writes, by the slashes in front. -/
def Root.ofText (text : Text) : Root :=
  match (text.takeWhile (· == '/')).length with
  | 0 => .here
  | 2 => .twoSlashes
  | _ => .slash

def Root.text : Root → Text
  | .here => []
  | .slash => ['/']
  | .twoSlashes => ['/', '/']

namespace Path

def ofText (text : Text) : Path :=
  ⟨.ofText text, (slashPieces text).filter fun name => !name.isEmpty && name != ['.']⟩

/-- The text of a path; a dot is the working directory. -/
def toText (path : Path) : Text :=
  if path.root = .here ∧ path.names = [] then ['.']
  else path.root.text ++ ['/'].intercalate path.names

/-- The path without its last name. -/
def parent (path : Path) : Path :=
  { path with names := path.names.dropLast }

/-- The path of a file below this path. -/
def child (path : Path) (name : Text) : Path :=
  { path with names := path.names ++ [name] }

end Path

end LispLex
