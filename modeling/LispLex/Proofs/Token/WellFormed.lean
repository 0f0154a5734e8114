-- SUMMARY: The texts of each kind of token.
import LispLex.Proofs.Token.Number
import LispLex.Proofs.Token.Scanner
import LispLex.Token

/-!
# Well-formed tokens

Which texts the tokens of each kind can have, said without patterns. A kind takes each of these texts
whole, and takes nothing else that has a value.
-/

namespace LispLex

variable {ceiling : Option Int}

/-- The texts of tokens of the kind: a fixed character, a run of digits that writes a number not
above the ceiling and not too long, a run of letters, or a line's text between two quotes, which may
have more quotes in it. -/
def Kind.IsRaw (ceiling : Option Int) : Kind → Text → Prop
  | number, raw =>
    IsDigitRun raw ∧ (∀ m ∈ ceiling, decimalValue raw ≤ m) ∧ significantCount raw ≤ digitLimit
  | identifier, raw => raw ≠ [] ∧ ∀ c ∈ raw, c.isAlpha = true
  | string, raw => ∃ body, raw = '"' :: (body ++ ['"']) ∧ '\n' ∉ body
  | kind, raw => ∃ c, kind.mark? = some c ∧ raw = [c]

/-- The token has a text of its kind and the value of that text. -/
structure Token.WellFormed (ceiling : Option Int) (token : Token) : Prop where
  isRaw : token.kind.IsRaw ceiling token.raw
  value_eq : token.kind.value? ceiling token.raw = .ok token.value

namespace Kind

variable {kind : Kind} {raw rest text : Text}

theorem isDigitRun_of_scan? (h : number.scan? text = some raw) : IsDigitRun raw :=
  ⟨(leading?_eq_some h).2, leading?_all h⟩

/-- At the end of a line, a kind takes each of its texts whole. -/
theorem IsRaw.scan?_append (h : kind.IsRaw ceiling raw) (hrest : ∀ c ∈ rest.head?, c = '\n') :
    kind.scan? (raw ++ rest) = some raw := by
  cases kind with
  | number =>
    obtain ⟨hrun, -, -⟩ := h
    refine leading?_append hrun.ne_nil hrun.all_digit ?_
    intro c hc
    rw [hrest c hc]
    rfl
  | identifier =>
    obtain ⟨hne, hall⟩ := h
    refine leading?_append hne hall ?_
    intro c hc
    rw [hrest c hc]
    rfl
  | string =>
    obtain ⟨body, rfl, hbody⟩ := h
    have hline : '"' ∉ rest.takeWhile (· != '\n') := by
      cases rest with
      | nil => simp
      | cons c rest => simp [hrest c rfl]
    simpa [scan?] using quotedStretch?_append hbody hline
  | leftParen | rightParen | leftBracket | rightBracket | comma | add | divide =>
    obtain ⟨c, hmark, rfl⟩ := h
    simp only [mark?, Option.some.injEq] at hmark
    subst hmark
    rfl

/-- What a kind takes from a text is one of its texts if it has a value. -/
theorem IsRaw.of_scan? {value : Option Value} (hscan : kind.scan? text = some raw)
    (hvalue : kind.value? ceiling raw = .ok value) : kind.IsRaw ceiling raw := by
  cases kind with
  | number =>
    have hrun := isDigitRun_of_scan? hscan
    obtain ⟨n, hnumber, -⟩ := numberValue_of_value?_ok hvalue
    obtain ⟨-, hceiling, hcount⟩ := hrun.numberValue_eq_ok_iff.1 hnumber
    exact ⟨hrun, hceiling, hcount⟩
  | identifier => exact ⟨(leading?_eq_some hscan).2, leading?_all hscan⟩
  | string =>
    obtain ⟨body, -, -, hraw, hbody, -⟩ := quotedStretch?_eq_some hscan
    exact ⟨body, hraw, hbody⟩
  | leftParen | rightParen | leftBracket | rightBracket | comma | add | divide =>
    obtain ⟨-, rfl⟩ := (scan?_mark_iff rfl).1 hscan
    exact ⟨_, rfl, rfl⟩

end Kind

end LispLex
