-- SUMMARY: Documents of an editor and the diagnostic published after each edit.
import LispLex.Run

/-!
# Diagnostics for an editor

The documents that an editor has open, by their addresses, and the diagnostic that is published
after each edit: none if the document's text lexes, otherwise one that marks the fault. Lines and
characters count from 0.
-/

namespace LispLex

/-- A stretch of one line of a document. -/
structure Range where
  line : Int
  first : Int
  /-- The character after the stretch. -/
  stop : Int
  deriving DecidableEq, Repr

structure Diagnostic where
  range : Range
  message : Text
  /-- How grave it is; 1 is an error. -/
  severity : Nat
  /-- What tells it. -/
  source : Text
  deriving DecidableEq, Repr

/-- What is published about one document. -/
structure Publication where
  address : Text
  diagnostics : List Diagnostic
  deriving DecidableEq, Repr

/-- The error with the given range and message. -/
def Diagnostic.error (range : Range) (message : Text) : Diagnostic where
  range
  message
  severity := 1
  source := "minilisp".toList

/-- A report as a diagnostic; one without a place marks nothing. -/
def Report.diagnostic? (report : Report) : Option Diagnostic :=
  report.spot.map fun spot =>
    .error ⟨spot.line - 1, spot.column - 1, spot.column - 1 + report.length⟩ report.message

/-- The diagnostics of a document's text: at most one, for the first fault. -/
def diagnose (text : Text) : List Diagnostic :=
  match ({} : Lexer).run text with
  | .ok _ => []
  | .error fault =>
    match fault.report text with
    | .ok report => report.diagnostic?.toList
    | .error _ => []

-- ---------------------------------------------------------------------------
-- Documents
-- ---------------------------------------------------------------------------

/-- The open documents with their texts, the latest first. -/
abbrev Documents := List (Text × Text)

/-- What an editor does to a document. -/
inductive Edit where
  | opened (address text : Text)
  /-- Full texts in order; the last one stands. -/
  | changed (address : Text) (texts : List Text)
  deriving DecidableEq, Repr

/-- The address of the document and its text after the edit. -/
def Edit.result (documents : Documents) : Edit → Text × Text
  | .opened address text => (address, text)
  | .changed address texts => (address, texts.getLast?.getD ((documents.lookup address).getD []))

/-- Applies an edit and says what to publish. -/
def Documents.apply (documents : Documents) (edit : Edit) : Publication × Documents :=
  let (address, text) := edit.result documents
  (⟨address, diagnose text⟩, (address, text) :: documents)

/-- What is published in the course of some edits, one publication each. -/
def Documents.publications (documents : Documents) : List Edit → List Publication
  | [] => []
  | edit :: edits =>
    let (publication, after) := documents.apply edit
    publication :: publications after edits

end LispLex
