-- SUMMARY: Runs resumed behind a token.
import LispLex.Proofs.Run.Relocation

/-!
# Runs resumed behind a token

A run remembers nothing of the text behind it. Cut off behind a token, the text that is left has a
run of its own, and this run, with its positions moved, is the rest of the whole run, whatever the
patterns of the table look at.
-/

namespace LispLex

/-- The token ends at the offset or before it. -/
def Token.endsBy (offset : Nat) (token : Token) : Bool :=
  token.endOffset?.any (· ≤ offset)

namespace Lexer

variable {lexer : Lexer}

/-- Of the tokens taken from a cursor on, none ends at the cursor or before it. -/
theorem filter_endsBy_takenFrom (lexer : Lexer) (cursor : Cursor) {offset : Nat}
    (h : offset ≤ cursor.position.offset) :
    (lexer.takenFrom cursor).filter (Token.endsBy offset) = [] := by
  rw [List.filter_eq_nil_iff]
  intro token hmem
  obtain ⟨stop, hstop, hlt⟩ := lt_endOffset_of_mem_takenFrom hmem
  simp only [Token.endsBy, hstop, Option.any_some, decide_eq_true_eq]
  omega

/-- Behind each of its tokens a run goes on as from a cursor that stands there. -/
theorem runFrom_resume {cursor : Cursor} {token : Token} {offset : Nat}
    (hmem : token ∈ lexer.takenFrom cursor) (hoffset : token.endOffset? = some offset) :
    ∃ before after, cursor.rest = before ++ after ∧
      offset = cursor.position.offset + before.length ∧
      lexer.runFrom cursor =
        (lexer.runFrom ⟨cursor.position.advance before, after⟩).afterAll
          ((lexer.takenFrom cursor).filter (Token.endsBy offset)) := by
  induction cursor using runFrom.induct lexer with
  | case1 cursor hstep =>
    rw [takenFrom_of_finished hstep] at hmem
    cases hmem
  | case2 cursor first next hstep ih =>
    obtain ⟨text, -, hrest, hposition, hend⟩ := step_passes hstep
    rw [takenFrom_of_token hstep] at hmem ⊢
    rw [runFrom_of_token hstep]
    rcases List.mem_cons.1 hmem with rfl | hlater
    · -- the run is resumed behind its first token
      obtain rfl : next.position.offset = offset := Option.some.inj (hend.symm.trans hoffset)
      refine ⟨text, next.rest, hrest, ?_, ?_⟩
      · rw [hposition, Position.advance_offset]
      · have hfirst : token.endsBy next.position.offset = true := by simp [Token.endsBy, hend]
        rw [List.filter_cons_of_pos hfirst, filter_endsBy_takenFrom lexer next (Nat.le_refl _),
          ← hposition]
        rfl
    · obtain ⟨before, after, hnext, hlength, hrun⟩ := ih hlater
      refine ⟨text ++ before, after, ?_, ?_, ?_⟩
      · rw [hrest, hnext, List.append_assoc]
      · rw [hlength, hposition, Position.advance_offset, List.length_append, Nat.add_assoc]
      · have hfirst : first.endsBy offset = true := by simp [Token.endsBy, hend, hlength]
        rw [List.filter_cons_of_pos hfirst, hrun, hposition, ← Position.advance_append]
        rfl
  | case3 cursor fault hstep =>
    rw [takenFrom_of_failed hstep] at hmem
    cases hmem

/-- Behind every token that it takes, and at the start, a run is the run over the text that is left,
with its positions moved there, behind the tokens taken before. -/
theorem run_resume (lexer : Lexer) (hsnippet : 0 ≤ lexer.snippetLength) (source : Text)
    {offset : Nat}
    (hoffset : offset = 0 ∨ ∃ token ∈ lexer.taken source, token.endOffset? = some offset) :
    lexer.run source =
      ((lexer.run (source.drop offset)).relocate
        (Position.shift (.after (source.take offset)))).afterAll
          ((lexer.taken source).filter (Token.endsBy offset)) := by
  have hmoved := runFrom_eq_relocate_run
    (Position.countsAlike_shift (.after (source.take offset))) hsnippet (source.drop offset)
  rw [Position.shift_start] at hmoved
  rw [← hmoved]
  rcases hoffset with rfl | ⟨token, hmem, hoffset⟩
  · have hnone : (lexer.taken source).filter (Token.endsBy 0) = [] :=
      filter_endsBy_takenFrom lexer _ (Nat.zero_le _)
    rw [hnone]
    rfl
  · obtain ⟨before, after, hrest, hlength, hrun⟩ := runFrom_resume hmem hoffset
    have hsource : source = before ++ after := hrest
    have hbefore : offset = before.length := hlength.trans (Nat.zero_add _)
    have htake : source.take offset = before := by rw [hsource, hbefore, List.take_left]
    have hdrop : source.drop offset = after := by rw [hsource, hbefore, List.drop_left]
    rw [htake, hdrop, ← Position.start_advance]
    exact hrun

/-- One rule for an `a` at the start of the text, one for a `b` that has no `a` before it. -/
def startAndBehind : Lexer where
  rules := [
    ⟨.add, ⟨"^a".toList, .seq (.anchor .textStart) (Kind.charExpr 'a')⟩⟩,
    ⟨.identifier, ⟨"(?<!a)b".toList, .seq (.behind (Kind.charExpr 'a') 1 true) (Kind.charExpr 'b')⟩⟩]

/-- Both rules match behind a token, since what is left is a text of its own. -/
theorem run_resume_startAndBehind :
    0 ≤ startAndBehind.snippetLength ∧
    (∃ token ∈ startAndBehind.taken "ab\na".toList, token.endOffset? = some 1) ∧
    startAndBehind.run "ab\na".toList =
      ((startAndBehind.run "b\na".toList).relocate (Position.shift ⟨1, 2, 1⟩)).afterAll
        [⟨.add, none, ['a'], some ⟨.start, ⟨1, 2, 1⟩⟩⟩] := by
  have htaken : startAndBehind.taken "ab\na".toList =
      [⟨.add, none, ['a'], some ⟨.start, ⟨1, 2, 1⟩⟩⟩,
        ⟨.identifier, some (.text ['b']), ['b'], some ⟨⟨1, 2, 1⟩, ⟨1, 3, 2⟩⟩⟩,
        ⟨.add, none, ['a'], some ⟨⟨2, 1, 3⟩, ⟨2, 2, 4⟩⟩⟩] := by
    decide +kernel
  have hend : ∃ token ∈ startAndBehind.taken "ab\na".toList, token.endOffset? = some 1 := by
    rw [htaken]
    exact ⟨_, List.mem_cons_self, rfl⟩
  have hrun := run_resume startAndBehind (by decide) "ab\na".toList (.inr hend)
  rw [htaken] at hrun
  exact ⟨by decide, hend, hrun⟩

end Lexer

end LispLex
