-- SUMMARY: Positions read off the text before them.
import LispLex.Position
import Mathlib.Data.List.DropRight

/-!
# Positions and the text before them

Lines and columns are counted character by character. Here they are read off the text before the
position instead: the line counts its line feeds, the column what it has after the last of them.
-/

namespace LispLex

/-- The offset just after the last line feed of a text; 0 if there is none. -/
def lineStart (text : Text) : Nat :=
  (text.rdropWhile (· != '\n')).length

theorem lineStart_le (text : Text) : lineStart text ≤ text.length :=
  (List.rdropWhile_prefix (· != '\n') text).length_le

theorem lineStart_concat (text : Text) (c : Char) :
    lineStart (text ++ [c]) = if c = '\n' then text.length + 1 else lineStart text := by
  by_cases hc : c = '\n'
  · simp [lineStart, hc]
  · simp [lineStart, hc]

/-- The position behind a text that starts a source. -/
def Position.after (text : Text) : Position :=
  ⟨1 + text.count '\n', text.length - lineStart text + 1, text.length⟩

/-- The column counts on from what stands behind the last line feed. -/
theorem Position.after_column (text : Text) :
    (after text).column = (text.rtakeWhile (· != '\n')).length + 1 := by
  have hparts := congrArg List.length
    (List.rdropWhile_append_rtakeWhile (p := (· != '\n')) (l := text))
  rw [List.length_append] at hparts
  simp only [after, lineStart]
  omega

@[simp] theorem Position.after_nil : Position.after [] = .start := rfl

@[simp] theorem Position.after_offset (text : Text) : (Position.after text).offset = text.length :=
  rfl

theorem Position.after_concat (text : Text) (c : Char) :
    Position.after (text ++ [c]) = (Position.after text).step c := by
  have hle := lineStart_le text
  by_cases hc : c = '\n'
  · subst hc
    simp [Position.after, Position.step, lineStart_concat, Nat.add_assoc]
  · simp only [Position.after, Position.step, lineStart_concat, hc, if_false, List.count_append,
      List.length_append, List.length_singleton, Position.mk.injEq, and_true]
    refine ⟨?_, by omega⟩
    simp [hc]

theorem Position.after_append (first second : Text) :
    Position.after (first ++ second) = (Position.after first).advance second := by
  induction second using List.reverseRecOn with
  | nil => simp
  | append_singleton second c ih =>
    rw [← List.append_assoc, Position.after_concat, ih, Position.advance_append]
    rfl

/-- Counting from the start of a source finds the position behind the text counted. -/
theorem Position.start_advance (text : Text) : Position.start.advance text = .after text := by
  simpa using (Position.after_append [] text).symm

/-! ## Positions in a source -/

/-- The position is the one of its offset in the source. -/
structure Position.LocatedIn (position : Position) (source : Text) : Prop where
  offset_le : position.offset ≤ source.length
  line_eq : position.line = 1 + (source.take position.offset).count '\n'
  column_eq : position.column = position.offset - lineStart (source.take position.offset) + 1

theorem Position.after_locatedIn (passed rest : Text) :
    (Position.after passed).LocatedIn (passed ++ rest) where
  offset_le := by simp
  line_eq := by simp [Position.after]
  column_eq := by simp [Position.after]

/-- The text of a source between the two positions. -/
def Span.textIn (span : Span) (source : Text) : Text :=
  (source.take span.stop.offset).drop span.start.offset

end LispLex
