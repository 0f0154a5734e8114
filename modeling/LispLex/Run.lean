-- SUMMARY: Lexers and their runs: one step, the loop over a source, and the outcome.
import LispLex.Cursor
import LispLex.Fault
import LispLex.Rule

/-!
# Runs

A run over a source skips blanks, lets the first matching rule take its text, and goes on behind it,
until the source ends or something is wrong. A lexer keeps no state, so every run is a function of
its settings and the source.
-/

namespace LispLex

structure Lexer where
  rules : List Rule := standardRules
  /-- The greatest number a literal may write, if there is one. -/
  ceiling : Option Int := some standardCeiling
  /-- How much of the input a message about unmatched input shows. -/
  snippetLength : Int := 20
  deriving DecidableEq, Repr

/-- How a run ends: with the tokens of the whole source, or with the first fault. -/
abbrev Outcome := Except Fault (List Token)

/-- The outcome of a run that went on from here, with the token before it. -/
def Outcome.after (token : Token) : Outcome → Outcome
  | .ok tokens => .ok (token :: tokens)
  | .error (.unmatched position snippet committed) =>
    .error (.unmatched position snippet (token :: committed))
  | .error fault => .error fault

/-- What happens at one place of a run. -/
inductive Step where
  | finished
  | token (token : Token) (next : Cursor)
  | failed (fault : Fault)
  deriving DecidableEq, Repr

namespace Lexer

/-- The token of the given kind and text at the cursor. -/
def take (lexer : Lexer) (cursor : Cursor) (kind : Kind) (text : Text) : Step :=
  match kind.value? lexer.ceiling text with
  | .ok value =>
    let next := cursor.advance text
    .token ⟨kind, value, text, some ⟨cursor.position, next.position⟩⟩ next
  | .error (.overflow literal ceiling) => .failed (.overflow cursor.position literal ceiling)
  | .error (.invalid cause) => .failed (.invalid cause)

/-- Skips blanks and takes one token. -/
def step (lexer : Lexer) (cursor : Cursor) : Step :=
  let here := cursor.skipBlanks
  if here.atEnd then .finished
  else
    match firstMatch? lexer.rules here.rest with
    | none => .failed (.unmatched here.position (here.snippet lexer.snippetLength) [])
    | some (kind, text) => lexer.take here kind text

end Lexer

-- ---------------------------------------------------------------------------
-- Progress
-- ---------------------------------------------------------------------------

theorem Pattern.match?_ne_nil {pattern : Pattern} {rest text : Text}
    (h : pattern.match? rest = some text) : text ≠ [] := by
  simp only [Pattern.match?, Option.bind_eq_some_iff] at h
  obtain ⟨found, -, h⟩ := h
  split at h
  · cases h
  · cases h
    simpa using ‹¬ found.passed.isEmpty = true›

theorem firstMatch?_ne_nil {rules : List Rule} {rest text : Text} {kind : Kind}
    (h : firstMatch? rules rest = some (kind, text)) : text ≠ [] := by
  obtain ⟨rule, -, h⟩ := List.exists_of_findSome?_eq_some h
  obtain ⟨found, h, heq⟩ := Option.map_eq_some_iff.1 h
  cases heq
  exact Pattern.match?_ne_nil h

theorem Cursor.length_skipBlanks_le (cursor : Cursor) :
    cursor.skipBlanks.rest.length ≤ cursor.rest.length := by
  simp [skipBlanks, advance]

namespace Lexer

/-- A step that takes a token leaves less of the source. -/
theorem step_shorter {lexer : Lexer} {cursor next : Cursor} {token : Token}
    (h : lexer.step cursor = .token token next) : next.rest.length < cursor.rest.length := by
  simp only [step] at h
  split at h
  · cases h
  · next hend =>
    split at h
    · cases h
    · next kind text hmatch =>
      have hne := List.length_pos_iff.2 (firstMatch?_ne_nil hmatch)
      have hrest : 0 < cursor.skipBlanks.rest.length := by
        simpa [Cursor.atEnd, List.length_pos_iff] using hend
      have hle := cursor.length_skipBlanks_le
      simp only [take] at h
      split at h <;> cases h
      simp only [Cursor.advance, List.length_drop]
      omega

/-- The run from a cursor to the end of its source. -/
def runFrom (lexer : Lexer) (cursor : Cursor) : Outcome :=
  match _h : lexer.step cursor with
  | .finished => .ok []
  | .token token next => (lexer.runFrom next).after token
  | .failed fault => .error fault
termination_by cursor.rest.length
decreasing_by exact step_shorter _h

/-- The run over a whole source. -/
def run (lexer : Lexer) (source : Text) : Outcome :=
  lexer.runFrom (.ofText source)

end Lexer

end LispLex
