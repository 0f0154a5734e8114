-- SUMMARY: Equations of runs with the standard rules.
import LispLex.Proofs.Token.Scanner

/-!
# Runs with the standard rules

The equations of a run once more, for the lexers that have the standard rules: what a run does at a
cursor depends on what the kinds scan there.
-/

namespace LispLex

theorem Kind.mem_all (kind : Kind) : kind ∈ Kind.all := by
  cases kind <;> decide

theorem Kind.not_blank_of_scan? {kind : Kind} {text raw : Text} (h : kind.scan? text = some raw) :
    ∀ c ∈ text.head?, isBlank c = false := by
  cases text with
  | nil => simp
  | cons d rest =>
    intro c hc
    cases hc
    have hkind := ofFirst?_of_scan? h
    cases hblank : isBlank d with
    | false => rfl
    | true =>
      -- no kind starts with any of the four blanks
      rcases isBlank_iff.1 hblank with rfl | rfl | rfl | rfl <;> cases hkind

namespace Lexer

/-- The lexer with the standard rules. -/
def standard (ceiling : Option Int) (snippetLength : Int) : Lexer :=
  { ceiling, snippetLength }

variable {ceiling : Option Int} {snippetLength : Int} {position : Position} {kind : Kind}

theorem firstRule_standard {raw rest : Text} :
    FirstRule (standard ceiling snippetLength).rules rest kind raw ↔ kind.scan? rest = some raw := by
  refine firstRule_standard_iff.trans ?_
  exact and_iff_right kind.mem_all

theorem standard_token {raw rest : Text} {value : Option Value}
    (hscan : kind.scan? (raw ++ rest) = some raw) (hvalue : kind.value? ceiling raw = .ok value) :
    (standard ceiling snippetLength).runFrom ⟨position, raw ++ rest⟩ =
      ((standard ceiling snippetLength).runFrom ⟨position.advance raw, rest⟩).after
        ⟨kind, value, raw, some ⟨position, position.advance raw⟩⟩ := by
  refine runFrom_token ?_ (firstRule_standard.2 hscan) hvalue
  intro c hc
  exact Kind.not_blank_of_scan? hscan c (by simp [List.head?_append, Option.mem_def.1 hc])

end Lexer

end LispLex
