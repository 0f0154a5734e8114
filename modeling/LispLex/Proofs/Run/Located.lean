-- SUMMARY: Positions and spans of everything that leaves a run.
import LispLex.Proofs.Run.Decomposition

/-!
# Where a run points

Every position that leaves a run is the one of its offset in the source: at both ends of the tokens
returned, at both ends of the tokens before unmatched input, and in every report. Spans are as long
as their raw texts and follow one another.
-/

namespace LispLex

/-- The tokens that an outcome hands out: all of them, or those before the input that no rule
matches. -/
def Outcome.tokens : Outcome → List Token
  | .ok tokens => tokens
  | .error (.unmatched _ _ committed) => committed
  | .error _ => []

/-- The span of a token lies in the source and is as long as the token's raw text. -/
structure Token.LocatedIn (token : Token) (source : Text) (span : Span) : Prop where
  span_eq : token.span = some span
  start : span.start.LocatedIn source
  stop : span.stop.LocatedIn source
  length_eq : span.stop.offset = span.start.offset + token.raw.length

/-- The first token ends before the second one starts. -/
def Token.Precedes (first second : Token) : Prop :=
  ∃ firstSpan secondSpan, first.span = some firstSpan ∧ second.span = some secondSpan ∧
    firstSpan.stop.offset ≤ secondSpan.start.offset

namespace Lexer

variable {lexer : Lexer} {passed rest : Text} {tokens : List Token}

theorem Cut.located (h : lexer.Cut passed rest tokens) :
    ∀ token ∈ tokens, ∃ span, token.LocatedIn (passed ++ rest) span := by
  intro token hmem
  obtain ⟨before, after, hpassed, hspan⟩ := h.token_place token hmem
  have hsource : passed ++ rest = before ++ token.raw ++ (after ++ rest) := by
    rw [hpassed, List.append_assoc]
  refine ⟨_, hspan, ?_, ?_, by simp⟩
  · rw [hsource, List.append_assoc]
    exact Position.after_locatedIn _ _
  · rw [hsource]
    exact Position.after_locatedIn _ _

theorem Cut.precedes (h : lexer.Cut passed rest tokens) : tokens.Pairwise Token.Precedes := by
  induction h with
  | blanks ends => exact .nil
  | @token passed raw blanks rest tokens kind value before first nonempty value_eq ends ih =>
    refine List.pairwise_append.2 ⟨ih, List.pairwise_singleton _ _, ?_⟩
    intro earlier hearlier last hlast
    rw [List.mem_singleton] at hlast
    obtain ⟨start, after, hpassed, hspan⟩ := before.token_place earlier hearlier
    refine ⟨_, _, hspan, by rw [hlast], ?_⟩
    simp [hpassed]

/-- The tokens handed out are cut from a first part of the source. -/
theorem Ends.exists_cut {source : Text} {outcome : Outcome} (h : lexer.Ends source outcome) :
    ∃ passed rest, source = passed ++ rest ∧ lexer.Cut passed rest outcome.tokens := by
  cases h with
  | finished cut => exact ⟨source, [], by simp, cut⟩
  | unmatched reaches => exact ⟨_, _, reaches.source_eq, reaches.cut⟩
  | @refused _ _ _ _ _ _ fault reaches =>
    refine ⟨source.takeWhile isBlank, source.dropWhile isBlank, ?_, ?_⟩
    · rw [List.takeWhile_append_dropWhile]
    · cases fault <;> exact .blanks (.of_takeWhile source)

theorem Reaches.located {source : Text} {c : Char}
    (h : lexer.Reaches source passed c rest tokens) : (Position.after passed).LocatedIn source := by
  rw [h.source_eq]
  exact Position.after_locatedIn passed (c :: rest)

/-- Whatever a run hands out stands where it says: every token returned or left before unmatched
input, one behind the other, and every report, which always has a place. -/
theorem run_located (lexer : Lexer) (source : Text) :
    (∀ token ∈ (lexer.run source).tokens, ∃ span, token.LocatedIn source span) ∧
    (lexer.run source).tokens.Pairwise Token.Precedes ∧
    (∀ fault report, lexer.run source = .error fault → fault.report source = .ok report →
      ∃ position : Position, report.spot = some position.spot ∧ position.LocatedIn source) := by
  have hends := lexer.run_ends source
  obtain ⟨passed, rest, hsource, hcut⟩ := hends.exists_cut
  refine ⟨?_, hcut.precedes, ?_⟩
  · rw [hsource] at hcut ⊢
    exact hcut.located
  · intro fault report hfault hreport
    rw [hfault] at hends
    obtain ⟨passed, c, rest, tokens, hreaches, ⟨_, heq⟩ | ⟨_, _, valueFault, _, _, heq⟩⟩ :=
      hends.fault_cases
    · cases heq
      cases hreport
      exact ⟨_, rfl, hreaches.located⟩
    · cases valueFault <;> cases heq <;> cases hreport
      exact ⟨_, rfl, hreaches.located⟩

end Lexer

end LispLex
