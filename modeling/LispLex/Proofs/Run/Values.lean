-- SUMMARY: Values of tokens fit their kinds, for any table.
import LispLex.Proofs.Run.Located
import LispLex.Proofs.Text.Digits
import LispLex.Proofs.Token.Scanner

/-!
# What tokens carry

Whatever the patterns of a table are, the value of a token fits its kind: a number token has digits
only and carries the number that they write, a string token its text without quotes around it, an
identifier its text, and no other token carries anything.
-/

namespace LispLex

/-! ## Quotes around a text -/

/-- `content` is what is left of the literal without a quote at its start and then without a quote at
its end, as far as there are such quotes. -/
def IsUnquoted (literal content : Text) : Prop :=
  ∃ opened,
    (literal = '"' :: opened ∨ literal.head? ≠ some '"' ∧ opened = literal) ∧
    (opened = content ++ ['"'] ∨ opened.getLast? ≠ some '"' ∧ content = opened)

theorem isUnquoted_unquoted (literal : Text) : IsUnquoted literal (unquoted literal) := by
  have hclosing (opened : Text) :
      opened = (if opened.getLast? = some '"' then opened.dropLast else opened) ++ ['"'] ∨
        opened.getLast? ≠ some '"' ∧
          (if opened.getLast? = some '"' then opened.dropLast else opened) = opened := by
    split
    · next hquote => exact .inl (List.dropLast_append_getLast? '"' hquote).symm
    · next hquote => exact .inr ⟨hquote, rfl⟩
  by_cases hquote : literal.head? = some '"'
  · rw [unquoted, if_pos hquote]
    exact ⟨_, .inl (List.cons_head?_tail hquote).symm, hclosing literal.tail⟩
  · rw [unquoted, if_neg hquote]
    exact ⟨_, .inr ⟨hquote, rfl⟩, hclosing literal⟩

/-- A text between quotes loses just these. -/
theorem unquoted_of_quotes (body : Text) : unquoted ('"' :: (body ++ ['"'])) = body := by
  simp [unquoted]

/-! ## Values by kind -/

/-- The value is the one that tokens of the kind with this raw text have under the ceiling. -/
structure Kind.Fits (ceiling : Option Int) (kind : Kind) (raw : Text) (value : Option Value) :
    Prop where
  none_iff : value = none ↔ kind ≠ number ∧ kind ≠ string ∧ kind ≠ identifier
  number : kind = number → IsDigitRun raw ∧ ∃ n : Nat, value = some (.number n) ∧
    n = decimalValue raw ∧ (∀ m ∈ ceiling, n ≤ m) ∧ (decimal n).length ≤ digitLimit
  string : kind = string → ∃ content, value = some (.text content) ∧ IsUnquoted raw content
  identifier : kind = identifier → value = some (.text raw)

theorem IsDigitRun.length_decimal_le {literal : Text} (h : IsDigitRun literal)
    (hcount : significantCount literal ≤ digitLimit) :
    (decimal (decimalValue literal)).length ≤ digitLimit := by
  have hlimit : 1 ≤ digitLimit := by decide
  rw [h.decimal_decimalValue, length_significantDigits]
  exact max_le hlimit hcount

theorem Kind.fits_of_value? {ceiling : Option Int} {kind : Kind} {raw : Text} {value : Option Value}
    (h : kind.value? ceiling raw = .ok value) : kind.Fits ceiling raw value := by
  cases kind with
  | number =>
    obtain ⟨n, hnumber, rfl⟩ := numberValue_of_value?_ok h
    have hrun := isDigitRun_of_numberValue hnumber
    obtain ⟨rfl, hceiling, hcount⟩ := hrun.numberValue_eq_ok_iff.1 hnumber
    refine ⟨by simp, fun _ => ⟨hrun, _, rfl, rfl, hceiling, ?_⟩, by simp, by simp⟩
    exact hrun.length_decimal_le hcount
  | string =>
    cases h
    exact ⟨by simp, by simp, fun _ => ⟨_, rfl, isUnquoted_unquoted raw⟩, by simp⟩
  | identifier =>
    cases h
    exact ⟨by simp, by simp, by simp, fun _ => rfl⟩
  | leftParen | rightParen | leftBracket | rightBracket | comma | add | divide =>
    cases h
    exact ⟨by simp, by simp, by simp, by simp⟩

/-! ## The tokens of a run -/

/-- The rule is the first of the table that takes something of the source where the token starts, and
the token has the kind of the rule and what it takes. -/
structure Token.TakenBy (token : Token) (rules : List Rule) (source : Text) (rule : Rule) : Prop where
  exists_place : ∃ earlier later before after, rules = earlier ++ rule :: later ∧
    source = before ++ after ∧ token.span.map Span.start = some (.after before) ∧
    (∀ other ∈ earlier, other.match? after = none) ∧ rule.match? after = some token.raw
  kind_eq : token.kind = rule.kind

/-- A token that the standard rule for strings takes carries a line's text between two quotes. -/
theorem Token.TakenBy.standard_string {token : Token} {rules : List Rule} {source : Text}
    (h : token.TakenBy rules source (.standard .string)) :
    ∃ body, token.raw = '"' :: (body ++ ['"']) ∧ '\n' ∉ body := by
  obtain ⟨⟨_, _, _, after, _, _, _, _, hmatch⟩, -⟩ := h
  have hscan : Kind.string.scan? after = some token.raw :=
    (Rule.match?_standard .string after).symm.trans hmatch
  obtain ⟨body, -, -, hraw, hbody, -⟩ := quotedStretch?_eq_some hscan
  exact ⟨body, hraw, hbody⟩

namespace Lexer

variable {lexer : Lexer} {passed rest : Text} {tokens : List Token}

theorem Cut.exists_takenBy (h : lexer.Cut passed rest tokens) :
    ∀ token ∈ tokens, ∃ rule, token.TakenBy lexer.rules (passed ++ rest) rule := by
  induction h with
  | blanks ends => simp
  | @token passed raw blanks rest tokens kind value before first nonempty value_eq ends ih =>
    have hsource : passed ++ raw ++ blanks ++ rest = passed ++ (raw ++ (blanks ++ rest)) := by
      simp only [List.append_assoc]
    rw [hsource]
    refine List.forall_mem_append.2 ⟨ih, List.forall_mem_singleton.2 ?_⟩
    obtain ⟨earlier, rule, later, hrules, hearlier, hkind, hmatch⟩ := first
    exact ⟨rule, ⟨earlier, later, passed, _, hrules, rfl, rfl, hearlier, hmatch⟩, hkind.symm⟩

/-- Every token that a run hands out, also before unmatched input, carries what fits its kind and its
raw text. If the standard rule took a string, then the raw text is what the token carries between two
quotes, and it has no line feed. -/
theorem run_fits (lexer : Lexer) (source : Text) :
    ∀ token ∈ (lexer.run source).tokens,
      token.kind.Fits lexer.ceiling token.raw token.value ∧
      ∃ rule, token.TakenBy lexer.rules source rule ∧
        (rule = .standard .string → ∃ content, token.value = some (.text content) ∧
          token.raw = '"' :: (content ++ ['"']) ∧ '\n' ∉ content) := by
  obtain ⟨passed, rest, rfl, hcut⟩ := (lexer.run_ends source).exists_cut
  intro token hmem
  obtain ⟨-, hvalue⟩ := hcut.token_taken token hmem
  obtain ⟨rule, htaken⟩ := hcut.exists_takenBy token hmem
  refine ⟨Kind.fits_of_value? hvalue, rule, htaken, ?_⟩
  rintro rfl
  obtain ⟨body, hraw, hbody⟩ := htaken.standard_string
  have hkind : token.kind = .string := htaken.kind_eq
  rw [hkind, hraw] at hvalue
  have hcontent : some (.text (unquoted ('"' :: (body ++ ['"'])))) = token.value :=
    Except.ok.inj hvalue
  rw [unquoted_of_quotes] at hcontent
  exact ⟨body, hcontent.symm, hraw, hbody⟩

/-- A table whose strings are single quotes. -/
def loneQuotes : Lexer where
  rules := [⟨.string, ['"'], Kind.charExpr '"'⟩]

/-- A single quote is a string that carries an empty text. -/
theorem run_fits_lone_quote :
    let token : Token := ⟨.string, some (.text []), ['"'], some ⟨⟨1, 1, 0⟩, ⟨1, 2, 1⟩⟩⟩
    loneQuotes.run ['"'] = .ok [token] ∧
      ∃ content, token.value = some (.text content) ∧ IsUnquoted token.raw content := by
  intro token
  have hrun : loneQuotes.run ['"'] = .ok [token] := by
    decide +kernel
  have hmem : token ∈ (loneQuotes.run ['"']).tokens := by
    rw [hrun]
    exact List.mem_singleton_self token
  obtain ⟨hfits, -⟩ := run_fits loneQuotes ['"'] token hmem
  exact ⟨hrun, hfits.string rfl⟩

end Lexer

end LispLex
