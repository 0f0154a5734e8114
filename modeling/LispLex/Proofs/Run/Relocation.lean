-- SUMMARY: Runs started at another position.
import LispLex.Proofs.Run.Step

/-!
# Runs at another place

The steps of a run look at the text that is left, never at the position where it starts. So a run
from another position takes the same tokens and fails in the same way, with all positions moved. The
one exception is a snippet whose length is negative: its end is counted from the ends of the source.
-/

namespace LispLex

/-! ## Moving positions -/

namespace Position

/-- Counting on from a moved position gives the moved position. Lines count from 1. -/
def CountsAlike (move : Position → Position) : Prop :=
  ∀ position c, 0 < position.line → move (position.step c) = (move position).step c

theorem line_pos_step {position : Position} (h : 0 < position.line) (c : Char) :
    0 < (position.step c).line := by
  unfold step
  split
  · exact Nat.succ_pos _
  · exact h

theorem line_pos_advance {position : Position} (h : 0 < position.line) (text : Text) :
    0 < (position.advance text).line := by
  induction text generalizing position with
  | nil => exact h
  | cons c text ih => exact ih (line_pos_step h c)

theorem CountsAlike.advance {move : Position → Position} (hmove : CountsAlike move)
    {position : Position} (h : 0 < position.line) (text : Text) :
    move (position.advance text) = (move position).advance text := by
  induction text generalizing position with
  | nil => rfl
  | cons c text ih =>
    rw [advance_cons, ih (line_pos_step h c), hmove position c h, advance_cons]

/-- The position in a source whose part up to `base` was left out. On the first line the columns
count on from `base`, on later lines they stay. -/
def shift (base position : Position) : Position :=
  ⟨position.line + (base.line - 1),
    if position.line = 1 then position.column + (base.column - 1) else position.column,
    position.offset + base.offset⟩

theorem countsAlike_shift (base : Position) : CountsAlike base.shift := by
  intro position c hline
  by_cases hc : c = '\n'
  · have hne : position.line + 1 ≠ 1 := by omega
    simp only [step, hc, if_true, shift, hne, if_false, mk.injEq, true_and]
    omega
  · by_cases hfirst : position.line = 1
    · simp only [step, hc, if_false, shift, hfirst, if_true, mk.injEq, true_and]
      omega
    · simp only [step, hc, if_false, shift, hfirst, mk.injEq, true_and]
      omega

theorem shift_start (text : Text) : (after text).shift start = after text := by
  simp only [shift, start, after, if_true, mk.injEq]
  omega

/-- The position in a source that has the text and a line feed before it. -/
def below (text : Text) (position : Position) : Position :=
  ⟨position.line + (1 + text.count '\n'), position.column, position.offset + (text.length + 1)⟩

theorem countsAlike_below (text : Text) : CountsAlike (below text) := by
  intro position c _
  by_cases hc : c = '\n'
  · simp only [step, hc, if_true, below, mk.injEq, true_and]
    omega
  · simp only [step, hc, if_false, below, mk.injEq, true_and]
    omega

theorem below_start (text : Text) : below text start = after (text ++ ['\n']) := by
  simp [below, start, after, lineStart_concat, Nat.add_comm]

end Position

/-! ## Moving everything that has a position -/

section Relocate

variable (move : Position → Position)

def Span.relocate (span : Span) : Span :=
  ⟨move span.start, move span.stop⟩

def Token.relocate (token : Token) : Token :=
  { token with span := token.span.map (Span.relocate move) }

def Fault.relocate : Fault → Fault
  | .unmatched position snippet committed =>
    .unmatched (move position) snippet (committed.map (Token.relocate move))
  | .overflow position literal ceiling => .overflow (move position) literal ceiling
  | .invalid cause => .invalid cause

def Outcome.relocate : Outcome → Outcome
  | .ok tokens => .ok (tokens.map (Token.relocate move))
  | .error fault => .error (fault.relocate move)

def Cursor.relocate (cursor : Cursor) : Cursor :=
  ⟨move cursor.position, cursor.rest⟩

def Step.relocate : Step → Step
  | .finished => .finished
  | .token found next => .token (found.relocate move) (next.relocate move)
  | .failed fault => .failed (fault.relocate move)

variable {move}

theorem Outcome.relocate_after (token : Token) (outcome : Outcome) :
    (outcome.after token).relocate move = (outcome.relocate move).after (token.relocate move) := by
  cases outcome with
  | ok => rfl
  | error fault => cases fault <;> rfl

theorem ValueFault.relocate_faultAt (fault : ValueFault) (position : Position) :
    (fault.faultAt position).relocate move = fault.faultAt (move position) := by
  cases fault <;> rfl

end Relocate

/-! ## Moved runs -/

/-- A snippet of a length that is not negative is told by the text that is left. -/
theorem Cursor.snippet_eq {position : Position} {rest : Text} {length : Int} (h : 0 ≤ length) :
    Cursor.snippet ⟨position, rest⟩ length = (rest.take length.toNat).takeWhile (· != '\n') := by
  have hstop : ¬ (position.offset + length < 0) := by omega
  simp only [snippet, reach, hstop, if_false]

namespace Lexer

variable {lexer : Lexer} {move : Position → Position} {cursor : Cursor}

theorem StepsTo.relocate (hmove : Position.CountsAlike move) (hsnippet : 0 ≤ lexer.snippetLength)
    (hline : 0 < cursor.position.line) {step : Step} (h : lexer.StepsTo cursor step) :
    lexer.StepsTo (cursor.relocate move) (step.relocate move) := by
  cases h with
  | finished skipped => exact .finished skipped
  | @token position blanks raw rest kind value skipped first value_eq =>
    have hstart := hmove.advance hline blanks
    have hstop := hmove.advance (Position.line_pos_advance hline blanks) raw
    have hstep : lexer.StepsTo (Cursor.relocate move ⟨position, blanks ++ (raw ++ rest)⟩) _ :=
      .token skipped first value_eq
    rwa [← hstart, ← hstop] at hstep
  | @unmatched position blanks rest c skipped norule =>
    have hstart := hmove.advance hline blanks
    have hstep : lexer.StepsTo (Cursor.relocate move ⟨position, blanks ++ c :: rest⟩) _ :=
      .unmatched skipped norule
    rw [← hstart, Cursor.snippet_eq hsnippet] at hstep
    simpa only [Step.relocate, Fault.relocate, List.map_nil, Cursor.snippet_eq hsnippet]
      using hstep
  | @refused position blanks rest raw c kind fault skipped first value_eq =>
    have hstart := hmove.advance hline blanks
    have hstep : lexer.StepsTo (Cursor.relocate move ⟨position, blanks ++ c :: rest⟩) _ :=
      .refused skipped first value_eq
    rw [← hstart] at hstep
    rwa [Step.relocate, ValueFault.relocate_faultAt]

/-- A moved run is the run, moved. -/
theorem runFrom_relocate (hmove : Position.CountsAlike move) (hsnippet : 0 ≤ lexer.snippetLength)
    (hline : 0 < cursor.position.line) :
    lexer.runFrom (cursor.relocate move) = (lexer.runFrom cursor).relocate move := by
  induction cursor using runFrom.induct lexer with
  | case1 cursor hstep =>
    have hmoved := ((StepsTo.of_step_eq hstep).relocate hmove hsnippet hline).step_eq
    rw [runFrom_of_finished hstep, runFrom_of_finished hmoved]
    rfl
  | case2 cursor token next hstep ih =>
    have hmoved := ((StepsTo.of_step_eq hstep).relocate hmove hsnippet hline).step_eq
    have hnext : 0 < next.position.line := by
      obtain ⟨text, -, -, hposition, -⟩ := step_passes hstep
      rw [hposition]
      exact Position.line_pos_advance hline text
    rw [runFrom_of_token hstep, runFrom_of_token hmoved, ih hnext, Outcome.relocate_after]
  | case3 cursor fault hstep =>
    have hmoved := ((StepsTo.of_step_eq hstep).relocate hmove hsnippet hline).step_eq
    rw [runFrom_failed hstep, runFrom_failed hmoved]
    rfl

/-- The run from a moved start is the run over the text that is left, moved. -/
theorem runFrom_eq_relocate_run (hmove : Position.CountsAlike move)
    (hsnippet : 0 ≤ lexer.snippetLength) (rest : Text) :
    lexer.runFrom ⟨move .start, rest⟩ = (lexer.run rest).relocate move := by
  have hline : 0 < (Cursor.ofText rest).position.line := Nat.one_pos
  exact runFrom_relocate hmove hsnippet hline

end Lexer

end LispLex
