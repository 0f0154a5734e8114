-- SUMMARY: Declarative specification of runs by cutting a source into blanks and tokens.
import LispLex.Proofs.Position
import LispLex.Proofs.Run.Equations

/-!
# Cutting a source into tokens

What a run has to find, said without a cursor: a source is cut into longest runs of blanks and,
between them, texts that the first matching rule takes and that have a value. A run returns tokens
exactly when the whole source is cut so, and every fault stands at the end of a part that is.
-/

namespace LispLex

namespace Lexer

/-- `passed`, the part of a source before `rest`, is cut into longest runs of blanks and, between
them, the texts of `tokens`, each taken by the first rule that matches where it starts. -/
inductive Cut (lexer : Lexer) : (passed rest : Text) → List Token → Prop
  | blanks {blanks rest : Text} (ends : BlankRun blanks rest) : Cut lexer blanks rest []
  | token {passed raw blanks rest : Text} {tokens : List Token} {kind : Kind} {value : Option Value}
      (before : Cut lexer passed (raw ++ (blanks ++ rest)) tokens)
      (first : FirstRule lexer.rules (raw ++ (blanks ++ rest)) kind raw)
      (nonempty : raw ≠ [])
      (value_eq : kind.value? lexer.ceiling raw = .ok value)
      (ends : BlankRun blanks rest) :
      Cut lexer (passed ++ raw ++ blanks) rest
        (tokens ++ [⟨kind, value, raw, some ⟨.after passed, .after (passed ++ raw)⟩⟩])

variable {lexer : Lexer} {passed rest : Text} {tokens : List Token}

/-- No blank follows a part that is cut off: its last run of blanks is a longest one. -/
theorem Cut.head_not_blank (h : lexer.Cut passed rest tokens) :
    ∀ c ∈ rest.head?, isBlank c = false := by
  cases h with
  | blanks ends => exact ends.ends
  | token _ _ _ _ ends => exact ends.ends

/-- A run over a source that starts with a cut part gives the tokens of that part, then goes on
behind it. -/
theorem Cut.run_eq (h : lexer.Cut passed rest tokens) :
    lexer.run (passed ++ rest) = (lexer.runFrom ⟨.after passed, rest⟩).afterAll tokens := by
  induction h with
  | @blanks blanks rest ends =>
    simp only [run, Cursor.ofText, Outcome.afterAll_nil]
    rw [runFrom_blanks ends, Position.start_advance]
  | @token passed raw blanks rest tokens kind value before first nonempty value_eq ends ih =>
    have hhead : ∀ c ∈ raw.head?, isBlank c = false := by
      intro c hc
      exact before.head_not_blank c (by simp [List.head?_append, Option.mem_def.1 hc])
    have hstep : lexer.runFrom ⟨.after passed, raw ++ (blanks ++ rest)⟩ = _ :=
      runFrom_token hhead first value_eq
    rw [runFrom_blanks ends, ← Position.after_append, ← Position.after_append] at hstep
    simp only [List.append_assoc] at ih hstep ⊢
    rw [ih, hstep, Outcome.afterAll_append]
    rfl

/-! ## How far a source can be cut -/

/-- A run over `source` comes to `c`, no blank, with `rest` behind it: what it passed is cut into
`tokens`. -/
structure Reaches (lexer : Lexer) (source passed : Text) (c : Char) (rest : Text)
    (tokens : List Token) : Prop where
  source_eq : source = passed ++ c :: rest
  cut : lexer.Cut passed (c :: rest) tokens
  notBlank : isBlank c = false

/-- How the run over a source has to end. -/
inductive Ends (lexer : Lexer) (source : Text) : Outcome → Prop
  | finished {tokens : List Token} (cut : lexer.Cut source [] tokens) : Ends lexer source (.ok tokens)
  | unmatched {passed rest : Text} {c : Char} {tokens : List Token}
      (reaches : lexer.Reaches source passed c rest tokens)
      (norule : ∀ rule ∈ lexer.rules, rule.match? (c :: rest) = none) :
      Ends lexer source (.error (.unmatched (.after passed)
        (Cursor.snippet ⟨.after passed, c :: rest⟩ lexer.snippetLength) tokens))
  | refused {passed rest raw : Text} {c : Char} {tokens : List Token} {kind : Kind}
      {fault : ValueFault}
      (reaches : lexer.Reaches source passed c rest tokens)
      (first : FirstRule lexer.rules (c :: rest) kind raw)
      (value_eq : kind.value? lexer.ceiling raw = .error fault) :
      Ends lexer source (.error (fault.faultAt (.after passed)))

theorem Ends.run_eq {source : Text} {outcome : Outcome} (h : lexer.Ends source outcome) :
    lexer.run source = outcome := by
  cases h with
  | finished cut =>
    have hrun := cut.run_eq
    rw [runFrom_nil, Outcome.afterAll_ok] at hrun
    simpa using hrun
  | unmatched reaches norule =>
    rw [reaches.source_eq, reaches.cut.run_eq, runFrom_unmatched reaches.notBlank norule]
    simp
  | @refused _ _ _ _ _ _ fault reaches first value_eq =>
    rw [reaches.source_eq, reaches.cut.run_eq, runFrom_refused reaches.notBlank first value_eq]
    cases fault <;> simp [ValueFault.faultAt]

/-- A fault either says that no rule matches where the run has come to, or is the fault of the first
rule's text there. -/
theorem Ends.fault_cases {source : Text} {fault : Fault} (h : lexer.Ends source (.error fault)) :
    ∃ passed c rest tokens, lexer.Reaches source passed c rest tokens ∧
      (((∀ rule ∈ lexer.rules, rule.match? (c :: rest) = none) ∧
        fault = .unmatched (.after passed)
          (Cursor.snippet ⟨.after passed, c :: rest⟩ lexer.snippetLength) tokens) ∨
      ∃ kind raw valueFault, FirstRule lexer.rules (c :: rest) kind raw ∧
        kind.value? lexer.ceiling raw = .error valueFault ∧
        fault = valueFault.faultAt (.after passed)) := by
  cases h with
  | unmatched reaches norule => exact ⟨_, _, _, _, reaches, .inl ⟨norule, rfl⟩⟩
  | refused reaches first value_eq =>
    exact ⟨_, _, _, _, reaches, .inr ⟨_, _, _, first, value_eq, rfl⟩⟩

/-- One more token, with the blanks behind it. -/
theorem Cut.extend {raw : Text} {kind : Kind} {value : Option Value}
    (h : lexer.Cut passed rest tokens) (hfirst : FirstRule lexer.rules rest kind raw)
    (hvalue : kind.value? lexer.ceiling raw = .ok value) :
    ∃ blanks rest', rest = raw ++ (blanks ++ rest') ∧
      lexer.Cut (passed ++ raw ++ blanks) rest'
        (tokens ++ [⟨kind, value, raw, some ⟨.after passed, .after (passed ++ raw)⟩⟩]) := by
  obtain ⟨after, rfl⟩ := hfirst.isPrefix
  refine ⟨after.takeWhile isBlank, after.dropWhile isBlank, ?_, ?_⟩
  · rw [List.takeWhile_append_dropWhile]
  · rw [← List.takeWhile_append_dropWhile (p := isBlank) (l := after)] at h hfirst
    exact .token h hfirst hfirst.ne_nil hvalue (.of_takeWhile after)

/-- Every cut of a first part leads to an end of the run. -/
theorem Cut.exists_ends {source : Text} (h : lexer.Cut passed rest tokens)
    (hsource : source = passed ++ rest) : ∃ outcome, lexer.Ends source outcome := by
  -- on what is left of the source, which every further token makes shorter
  induction hlen : rest.length using Nat.strongRecOn generalizing passed rest tokens with
  | ind length ih =>
    cases rest with
    | nil =>
      rw [List.append_nil] at hsource
      subst hsource
      exact ⟨_, .finished h⟩
    | cons c rest =>
      have hreaches : lexer.Reaches source passed c rest tokens :=
        ⟨hsource, h, h.head_not_blank c rfl⟩
      cases hmatch : firstMatch? lexer.rules (c :: rest) with
      | none => exact ⟨_, .unmatched hreaches (firstMatch?_eq_none_iff.1 hmatch)⟩
      | some found =>
        obtain ⟨kind, raw⟩ := found
        have hfirst := firstMatch?_eq_some_iff.1 hmatch
        cases hvalue : kind.value? lexer.ceiling raw with
        | error fault => exact ⟨_, .refused hreaches hfirst hvalue⟩
        | ok value =>
          obtain ⟨blanks, rest', hrest, hcut⟩ := h.extend hfirst hvalue
          have hraw := List.length_pos_iff.2 hfirst.ne_nil
          refine ih rest'.length ?_ hcut ?_ rfl
          · rw [← hlen, hrest]
            simp only [List.length_append]
            omega
          · rw [hsource, hrest]
            simp

/-- Every run ends as it has to. -/
theorem run_ends (lexer : Lexer) (source : Text) : lexer.Ends source (lexer.run source) := by
  have hcut : lexer.Cut (source.takeWhile isBlank) (source.dropWhile isBlank) [] :=
    .blanks (.of_takeWhile source)
  obtain ⟨outcome, hends⟩ := hcut.exists_ends List.takeWhile_append_dropWhile.symm
  rwa [hends.run_eq]

/-- Another lexer cuts off the same tokens if its table decides alike and it gives them the same
values. -/
theorem Cut.transfer {other : Lexer} (h : lexer.Cut passed rest tokens)
    (hfirst : ∀ {rest raw : Text} {kind : Kind}, FirstRule lexer.rules rest kind raw →
      FirstRule other.rules rest kind raw)
    (hvalue : ∀ token ∈ tokens, token.kind.value? lexer.ceiling token.raw = .ok token.value →
      token.kind.value? other.ceiling token.raw = .ok token.value) :
    other.Cut passed rest tokens := by
  induction h with
  | blanks ends => exact .blanks ends
  | token _ first nonempty value_eq ends ih =>
    have hbefore := ih fun token hmem => hvalue token (List.mem_append_left _ hmem)
    have hlast := hvalue _ (List.mem_append_right _ (List.mem_singleton_self _)) value_eq
    exact .token hbefore (hfirst first) nonempty hlast ends

/-- Every token is taken by the first rule that matches and has the value of its text. -/
theorem Cut.token_taken (h : lexer.Cut passed rest tokens) :
    ∀ token ∈ tokens,
      (∃ after, FirstRule lexer.rules (token.raw ++ after) token.kind token.raw) ∧
        token.kind.value? lexer.ceiling token.raw = .ok token.value := by
  induction h with
  | blanks ends => simp
  | token before first nonempty value_eq ends ih =>
    exact List.forall_mem_append.2 ⟨ih, List.forall_mem_singleton.2 ⟨⟨_, first⟩, value_eq⟩⟩

/-! ## The places of tokens -/

/-- The raw text of a token stands in the part cut off, and its span says where. -/
theorem Cut.token_place (h : lexer.Cut passed rest tokens) :
    ∀ token ∈ tokens, ∃ before after, passed = before ++ token.raw ++ after ∧
      token.span = some ⟨.after before, .after (before ++ token.raw)⟩ := by
  induction h with
  | blanks ends => simp
  | @token passed raw blanks rest tokens kind value before first nonempty value_eq ends ih =>
    intro token hmem
    rcases List.mem_append.1 hmem with hearlier | hlast
    · obtain ⟨start, after, hpassed, hspan⟩ := ih token hearlier
      exact ⟨start, after ++ (raw ++ blanks), by simp [hpassed], hspan⟩
    · rw [List.mem_singleton] at hlast
      subst hlast
      exact ⟨passed, blanks, rfl, rfl⟩

theorem Cut.raw_eq_textIn (h : lexer.Cut passed rest tokens) :
    ∀ token ∈ tokens, ∃ span, token.span = some span ∧
      token.raw = span.textIn (passed ++ rest) := by
  intro token hmem
  obtain ⟨before, after, hpassed, hspan⟩ := h.token_place token hmem
  refine ⟨_, hspan, ?_⟩
  simp [Span.textIn, hpassed, List.take_append]

/-! ## The specification of a run -/

/-- A run returns tokens exactly when the whole source is cut into them. It fails exactly when a part
of the source can be cut off up to a character that is no blank and there no rule matches, or the
text of the first rule that matches is refused: at that place, with the tokens cut off before it. -/
theorem run_eq_iff_cut (lexer : Lexer) (source : Text) :
    (∀ tokens, lexer.run source = .ok tokens ↔ lexer.Cut source [] tokens) ∧
    (∀ tokens, lexer.Cut source [] tokens →
      ∀ token ∈ tokens, ∃ span, token.span = some span ∧ token.raw = span.textIn source) ∧
    (∀ position committed,
      (∃ snippet, lexer.run source = .error (.unmatched position snippet committed)) ↔
        ∃ passed c rest, lexer.Reaches source passed c rest committed ∧
          position = .after passed ∧ ∀ rule ∈ lexer.rules, rule.match? (c :: rest) = none) ∧
    (∀ position literal ceiling,
      lexer.run source = .error (.overflow position literal ceiling) ↔
        ∃ passed c rest tokens kind raw, lexer.Reaches source passed c rest tokens ∧
          position = .after passed ∧ FirstRule lexer.rules (c :: rest) kind raw ∧
          kind.value? lexer.ceiling raw = .error (.overflow literal ceiling)) ∧
    (∀ cause,
      lexer.run source = .error (.invalid cause) ↔
        ∃ passed c rest tokens kind raw, lexer.Reaches source passed c rest tokens ∧
          FirstRule lexer.rules (c :: rest) kind raw ∧
          kind.value? lexer.ceiling raw = .error (.invalid cause)) := by
  have hends := lexer.run_ends source
  refine ⟨fun tokens => ⟨fun h => ?_, fun h => (Ends.finished h).run_eq⟩, fun tokens h => ?_,
    fun position committed => ⟨?_, ?_⟩, fun position literal ceiling => ⟨fun h => ?_, ?_⟩,
    fun cause => ⟨fun h => ?_, ?_⟩⟩
  · rw [h] at hends
    cases hends with
    | finished cut => exact cut
  · simpa using h.raw_eq_textIn
  · rintro ⟨snippet, h⟩
    rw [h] at hends
    obtain ⟨passed, c, rest, tokens, hreaches, ⟨hnorule, heq⟩ | ⟨_, _, fault, _, _, heq⟩⟩ :=
      hends.fault_cases
    · cases heq
      exact ⟨passed, c, rest, hreaches, rfl, hnorule⟩
    · cases fault <;> cases heq
  · rintro ⟨passed, c, rest, hreaches, rfl, hnorule⟩
    exact ⟨_, (Ends.unmatched hreaches hnorule).run_eq⟩
  · rw [h] at hends
    obtain ⟨passed, c, rest, tokens, hreaches, ⟨_, heq⟩ | ⟨kind, raw, fault, hfirst, hvalue, heq⟩⟩ :=
      hends.fault_cases
    · cases heq
    · cases fault <;> cases heq
      exact ⟨passed, c, rest, tokens, kind, raw, hreaches, rfl, hfirst, hvalue⟩
  · rintro ⟨passed, c, rest, tokens, kind, raw, hreaches, rfl, hfirst, hvalue⟩
    exact (Ends.refused hreaches hfirst hvalue).run_eq
  · rw [h] at hends
    obtain ⟨passed, c, rest, tokens, hreaches, ⟨_, heq⟩ | ⟨kind, raw, fault, hfirst, hvalue, heq⟩⟩ :=
      hends.fault_cases
    · cases heq
    · cases fault <;> cases heq
      exact ⟨passed, c, rest, tokens, kind, raw, hreaches, hfirst, hvalue⟩
  · rintro ⟨passed, c, rest, tokens, kind, raw, hreaches, hfirst, hvalue⟩
    exact (Ends.refused hreaches hfirst hvalue).run_eq

end Lexer

end LispLex
