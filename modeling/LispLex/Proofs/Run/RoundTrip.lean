-- SUMMARY: Tokens printed line by line are lexed as they were.
import LispLex.Proofs.Run.Decomposition
import LispLex.Proofs.Run.Standard
import LispLex.Proofs.Token.WellFormed

/-!
# Printing tokens and reading them back

Tokens written one to a line are read back as they were, whatever stood between them before: a line
feed ends every token and no token has one in it.
-/

namespace LispLex

/-- The raw texts of tokens, one on each line. -/
def onLines (tokens : List Token) : Text :=
  List.intercalate ['\n'] (tokens.map Token.raw)

/-- The raw texts of tokens, each with a line feed before it. -/
def linesAfter (tokens : List Token) : Text :=
  tokens.flatMap fun token => '\n' :: token.raw

theorem onLines_cons (token : Token) (tokens : List Token) :
    onLines (token :: tokens) = token.raw ++ linesAfter tokens := by
  rw [onLines, List.map_cons, intercalate_cons, List.flatMap_map]
  rfl

theorem head_linesAfter (tokens : List Token) : ∀ c ∈ (linesAfter tokens).head?, c = '\n' := by
  cases tokens with
  | nil => simp [linesAfter]
  | cons token tokens => simp [linesAfter]

/-- The tokens are alike, one by one. -/
def AllAlike : List Token → List Token → Prop :=
  List.Forall₂ fun first second => first.alike second = true

theorem Token.alike_self (token : Token) (span : Option Span) :
    Token.alike { token with span } token = true := by
  simp [Token.alike]

namespace Lexer

variable {ceiling : Option Int} (snippetLength : Int)

/-- A well-formed token is read back at the end of a line, at whatever place it stands. -/
theorem standard_wellFormed {token : Token} (h : token.WellFormed ceiling) (position : Position)
    {rest : Text} (hrest : ∀ c ∈ rest.head?, c = '\n') :
    ∃ next span, (standard ceiling snippetLength).runFrom ⟨position, token.raw ++ rest⟩ =
      ((standard ceiling snippetLength).runFrom ⟨next, rest⟩).after { token with span } :=
  ⟨_, _, standard_token (h.isRaw.scan?_append hrest) h.value_eq⟩

theorem runFrom_linesAfter {tokens : List Token} (h : ∀ token ∈ tokens, token.WellFormed ceiling)
    (position : Position) :
    ∃ lexed, (standard ceiling snippetLength).runFrom ⟨position, linesAfter tokens⟩ = .ok lexed ∧
      AllAlike lexed tokens := by
  induction tokens generalizing position with
  | nil => exact ⟨[], runFrom_nil, .nil⟩
  | cons token tokens ih =>
    obtain ⟨htoken, htokens⟩ := List.forall_mem_cons.1 h
    have hrest := head_linesAfter tokens
    have hscan := htoken.isRaw.scan?_append hrest
    have hblank : BlankRun ['\n'] (token.raw ++ linesAfter tokens) :=
      ⟨List.all_eq_true.1 rfl, Kind.not_blank_of_scan? hscan⟩
    have hline : linesAfter (token :: tokens) = ['\n'] ++ (token.raw ++ linesAfter tokens) := rfl
    obtain ⟨next, span, hrun⟩ :=
      standard_wellFormed snippetLength htoken (position.advance ['\n']) hrest
    obtain ⟨lexed, hlexed, halike⟩ := ih htokens next
    refine ⟨{ token with span } :: lexed, ?_, .cons (token.alike_self span) halike⟩
    rw [hline, runFrom_blanks hblank, hrun, hlexed]
    rfl

theorem run_onLines {tokens : List Token} (h : ∀ token ∈ tokens, token.WellFormed ceiling) :
    ∃ lexed, (standard ceiling snippetLength).run (onLines tokens) = .ok lexed ∧
      AllAlike lexed tokens := by
  cases tokens with
  | nil => exact ⟨[], runFrom_nil, .nil⟩
  | cons token tokens =>
    obtain ⟨htoken, htokens⟩ := List.forall_mem_cons.1 h
    obtain ⟨next, span, hrun⟩ :=
      standard_wellFormed snippetLength htoken .start (head_linesAfter tokens)
    obtain ⟨lexed, hlexed, halike⟩ := runFrom_linesAfter snippetLength htokens next
    refine ⟨{ token with span } :: lexed, ?_, .cons (token.alike_self span) halike⟩
    rw [run, Cursor.ofText, onLines_cons, hrun, hlexed]
    rfl

variable {snippetLength}

/-- The standard rules cut off well-formed tokens only. -/
theorem Cut.wellFormed {passed rest : Text} {tokens : List Token}
    (h : (standard ceiling snippetLength).Cut passed rest tokens) :
    ∀ token ∈ tokens, token.WellFormed ceiling := by
  intro token hmem
  obtain ⟨⟨after, hfirst⟩, hvalue⟩ := h.token_taken token hmem
  exact ⟨.of_scan? (firstRule_standard.1 hfirst) hvalue, hvalue⟩

theorem wellFormed_of_run {source : Text} {tokens : List Token}
    (h : (standard ceiling snippetLength).run source = .ok tokens) :
    ∀ token ∈ tokens, token.WellFormed ceiling := by
  have hends := run_ends (standard ceiling snippetLength) source
  rw [h] at hends
  cases hends with
  | finished cut => exact cut.wellFormed

/-- Well-formed tokens written one to a line are read back as they were. All tokens that a run
returns are well formed, so they survive being written and read again. -/
theorem run_onLines_alike (ceiling : Option Int) (snippetLength : Int) :
    (∀ tokens : List Token, (∀ token ∈ tokens, token.WellFormed ceiling) →
      ∃ lexed, (standard ceiling snippetLength).run (onLines tokens) = .ok lexed ∧
        AllAlike lexed tokens) ∧
    (∀ source tokens, (standard ceiling snippetLength).run source = .ok tokens →
      (∀ token ∈ tokens, token.WellFormed ceiling) ∧
      ∃ lexed, (standard ceiling snippetLength).run (onLines tokens) = .ok lexed ∧
        AllAlike lexed tokens) := by
  refine ⟨fun tokens h => run_onLines snippetLength h, fun source tokens h => ?_⟩
  have hformed := wellFormed_of_run h
  exact ⟨hformed, run_onLines snippetLength hformed⟩

/-- A name, and a text with a quote in it. -/
theorem run_onLines_name_text :
    ∃ lexed, (standard none 20).run "ab\n\"a\"b\"".toList = .ok lexed ∧
      AllAlike lexed [⟨.identifier, some (.text "ab".toList), "ab".toList, none⟩,
        ⟨.string, some (.text "a\"b".toList), "\"a\"b\"".toList, none⟩] := by
  have hlines : "ab\n\"a\"b\"".toList =
      onLines [⟨.identifier, some (.text "ab".toList), "ab".toList, none⟩,
        ⟨.string, some (.text "a\"b".toList), "\"a\"b\"".toList, none⟩] := by decide
  rw [hlines]
  refine (run_onLines_alike none 20).1 _ ?_
  intro token hmem
  simp only [List.mem_cons, List.not_mem_nil, or_false] at hmem
  rcases hmem with rfl | rfl
  · exact ⟨⟨by decide, List.all_eq_true.1 rfl⟩, rfl⟩
  · exact ⟨⟨"a\"b".toList, rfl, by decide⟩, rfl⟩

end Lexer

end LispLex
