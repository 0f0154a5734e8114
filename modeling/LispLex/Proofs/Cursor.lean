-- SUMMARY: Invariant of cursors under any sequence of operations.
import LispLex.Proofs.Position
import LispLex.Proofs.Run.Equations

/-!
# Cursors in any use

A cursor may be asked to skip, to move by any text, even beyond the end of its source, and to tell
what comes next, in any order. Whatever it was asked, its position is the one behind the text passed
so far, and what it sees is what the source has at that offset.
-/

namespace LispLex

namespace Cursor

/-! ## Uses -/

/-- What a cursor can be asked. -/
inductive Use where
  | skipBlanks
  /-- To move by a text, whether or not it comes next. -/
  | advance (text : Text)
  | snippet (length : Int)
  | atEnd
  deriving DecidableEq, Repr

/-- What a cursor answers. -/
inductive Answer where
  | moved
  | snippet (text : Text)
  | atEnd (holds : Bool)
  deriving DecidableEq, Repr

/-- The cursor after one use, with its answer. -/
def perform (cursor : Cursor) : Use → Cursor × Answer
  | .skipBlanks => (cursor.skipBlanks, .moved)
  | .advance text => (cursor.advance text, .moved)
  | .snippet length => (cursor, .snippet (cursor.snippet length))
  | .atEnd => (cursor, .atEnd cursor.atEnd)

/-- The cursor after several uses. -/
def performAll (cursor : Cursor) (uses : List Use) : Cursor :=
  uses.foldl (fun cursor use => (cursor.perform use).1) cursor

/-! ## The text passed -/

/-- The longest run of blanks at an offset of the source; none at its end and beyond. -/
def blanksAt (source : Text) (offset : Nat) : Text :=
  (source.drop offset).takeWhile isBlank

theorem blankRun_blanksAt (source : Text) (offset : Nat) :
    ∃ rest, source.drop offset = blanksAt source offset ++ rest ∧
      BlankRun (blanksAt source offset) rest :=
  ⟨_, List.takeWhile_append_dropWhile.symm, .of_takeWhile _⟩

theorem blanksAt_of_length_le {source : Text} {offset : Nat} (h : source.length ≤ offset) :
    blanksAt source offset = [] := by
  rw [blanksAt, List.drop_of_length_le h, List.takeWhile_nil]

/-- Behind a longest run of blanks there are no more. -/
theorem blanksAt_blanksAt (source : Text) (offset : Nat) :
    blanksAt source (offset + (blanksAt source offset).length) = [] := by
  obtain ⟨rest, hdrop, hrun⟩ := blankRun_blanksAt source offset
  have hrest : BlankRun [] rest := ⟨by simp, hrun.ends⟩
  rw [blanksAt, ← List.drop_drop, hdrop, List.drop_left]
  exact hrest.takeWhile_eq

/-- The text that a use passes at an offset of the source. -/
def Use.passes (source : Text) (offset : Nat) : Use → Text
  | .skipBlanks => blanksAt source offset
  | .advance text => text
  | .snippet _ | .atEnd => []

/-- The texts that the uses pass in the source, one behind the other. -/
def textPassed (source : Text) (uses : List Use) : Text :=
  uses.foldl (fun passed use => passed ++ use.passes source passed.length) []

/-! ## Stretches of the source -/

/-- Where a stretch of the source up to `stop` ends. A stop before the start counts back from the
end. -/
def stopAt (source : Text) (stop : Int) : Nat :=
  (if stop < 0 then stop + source.length else stop).toNat

def stretch (source : Text) (start : Nat) (stop : Int) : Text :=
  (source.take (stopAt source stop)).drop start

/-! ## What every use keeps -/

/-- The cursor stands behind the text passed, and it sees the source from that offset on. -/
structure HasPassed (cursor : Cursor) (source passed : Text) : Prop where
  position_eq : cursor.position = .after passed
  rest_eq : cursor.rest = source.drop passed.length

namespace HasPassed

variable {cursor : Cursor} {source passed : Text}

theorem ofText (source : Text) : HasPassed (.ofText source) source [] := ⟨rfl, rfl⟩

theorem offset_eq (h : cursor.HasPassed source passed) : cursor.position.offset = passed.length := by
  rw [h.position_eq, Position.after_offset]

theorem advance (h : cursor.HasPassed source passed) (text : Text) :
    (cursor.advance text).HasPassed source (passed ++ text) where
  position_eq := by rw [Cursor.advance, h.position_eq, Position.after_append]
  rest_eq := by rw [Cursor.advance, h.rest_eq, List.drop_drop, List.length_append]

theorem blanks_eq (h : cursor.HasPassed source passed) :
    cursor.blanks = blanksAt source passed.length := by
  rw [blanks, blanksAt, h.rest_eq]

theorem perform (h : cursor.HasPassed source passed) (use : Use) :
    (cursor.perform use).1.HasPassed source (passed ++ use.passes source passed.length) := by
  cases use with
  | skipBlanks =>
    rw [Use.passes, ← h.blanks_eq]
    exact h.advance cursor.blanks
  | advance text => exact h.advance text
  | snippet | atEnd =>
    rw [Use.passes, List.append_nil]
    exact h

theorem skipBlanks_eq_self (h : cursor.HasPassed source passed)
    (hnone : blanksAt source passed.length = []) : cursor.skipBlanks = cursor := by
  rw [skipBlanks, h.blanks_eq, hnone]
  rfl

theorem skipBlanks_skipBlanks (h : cursor.HasPassed source passed) :
    cursor.skipBlanks.skipBlanks = cursor.skipBlanks := by
  refine (h.perform .skipBlanks).skipBlanks_eq_self ?_
  rw [List.length_append]
  exact blanksAt_blanksAt source passed.length

theorem atEnd_eq (h : cursor.HasPassed source passed) :
    cursor.atEnd = decide (source.length ≤ passed.length) := by
  rw [Bool.eq_iff_iff, decide_eq_true_eq, atEnd, h.rest_eq, List.isEmpty_iff, List.drop_eq_nil_iff]

theorem snippet_eq (h : cursor.HasPassed source passed) (length : Int) :
    cursor.snippet length =
      (stretch source passed.length (passed.length + length)).takeWhile (· != '\n') := by
  rw [snippet, stretch, List.drop_take, h.rest_eq]
  by_cases hend : source.length ≤ passed.length
  · rw [List.drop_of_length_le hend, List.take_nil, List.take_nil]
  · have hrest : cursor.rest.length = source.length - passed.length := by
      rw [h.rest_eq, List.length_drop]
    have hreach : cursor.reach length =
        stopAt source (passed.length + length) - passed.length := by
      simp only [reach, stopAt, h.offset_eq, hrest]
      split <;> omega
    rw [hreach]

end HasPassed

theorem performAll_hasPassed (source : Text) (uses : List Use) :
    ((ofText source).performAll uses).HasPassed source (textPassed source uses) := by
  -- on the uses from the last one on: what is passed before it decides what it passes
  induction uses using List.reverseRecOn with
  | nil => exact .ofText source
  | append_singleton uses use ih =>
    simp only [performAll, textPassed, List.foldl_append] at ih ⊢
    exact ih.perform use

/-- After any uses a cursor has the position behind the text passed: its length, one line more than
it has line feeds, and one column more than it has characters behind the last of them. To tell what
comes next does not move the cursor. To skip moves it by the longest run of blanks that the source
has there, which is none at its end and beyond, and to skip again does nothing. -/
theorem performAll_behind_textPassed (source : Text) (uses : List Use) :
    let cursor := (ofText source).performAll uses
    let passed := textPassed source uses
    (cursor.position.offset = passed.length ∧
      cursor.position.line = 1 + passed.count '\n' ∧
      cursor.position.column = 1 + (passed.rtakeWhile (· != '\n')).length) ∧
    (∀ length, cursor.perform (.snippet length) = (cursor, .snippet
      ((stretch source passed.length (passed.length + length)).takeWhile (· != '\n')))) ∧
    cursor.perform .atEnd = (cursor, .atEnd (source.length ≤ passed.length)) ∧
    (∃ blanks rest, source.drop cursor.position.offset = blanks ++ rest ∧ BlankRun blanks rest ∧
      (cursor.perform .skipBlanks).1.position = cursor.position.advance blanks) ∧
    (source.length ≤ cursor.position.offset → (cursor.perform .skipBlanks).1 = cursor) ∧
    ((cursor.perform .skipBlanks).1.perform .skipBlanks).1 = (cursor.perform .skipBlanks).1 := by
  intro cursor passed
  have h : cursor.HasPassed source passed := performAll_hasPassed source uses
  refine ⟨⟨h.offset_eq, ?_, ?_⟩, fun length => ?_, ?_, ?_, fun hend => ?_, h.skipBlanks_skipBlanks⟩
  · rw [h.position_eq]
    rfl
  · rw [h.position_eq, Position.after_column, Nat.add_comm]
  · rw [perform, h.snippet_eq]
  · rw [perform, h.atEnd_eq]
  · obtain ⟨rest, hdrop, hrun⟩ := blankRun_blanksAt source passed.length
    rw [← h.blanks_eq] at hdrop hrun
    exact ⟨cursor.blanks, rest, by rw [h.offset_eq, hdrop], hrun, rfl⟩
  · rw [h.offset_eq] at hend
    exact h.skipBlanks_eq_self (blanksAt_of_length_le hend)

end Cursor

end LispLex
