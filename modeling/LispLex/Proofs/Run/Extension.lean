-- SUMMARY: Runs with tables that keep the decisions of a smaller table.
import LispLex.Proofs.Rule.Table
import LispLex.Proofs.Run.Step
import LispLex.Proofs.Token.Scanner

/-!
# Runs with more rules

A table that keeps the decisions of a smaller one takes the same tokens as long as the smaller one
has a rule that matches. So the outcome stays as it is, unless it is unmatched input; then the tokens
before that place stay, and the larger table goes on from there. Appended rules keep all decisions,
whatever the patterns are. Standard rules may stand anywhere, since a text is of one kind at most.
-/

namespace LispLex

/-! ## Tables that keep decisions -/

/-- Where a rule of the first table matches, the other table takes the same text for the same
kind. -/
def DecisionsKept (rules extended : List Rule) : Prop :=
  ∀ rest kind raw, FirstRule rules rest kind raw → FirstRule extended rest kind raw

theorem decisionsKept_append (rules extra : List Rule) : DecisionsKept rules (rules ++ extra) := by
  rintro rest kind raw ⟨earlier, rule, later, rfl, hearlier, hkind, hmatch⟩
  exact ⟨earlier, rule, later ++ extra, by simp, hearlier, hkind, hmatch⟩

theorem decisionsKept_standard {kinds more : List Kind} (h : kinds ⊆ more) :
    DecisionsKept (kinds.map .standard) (more.map .standard) := by
  intro rest kind raw hfirst
  obtain ⟨hkind, hscan⟩ := firstRule_standard_iff.1 hfirst
  exact firstRule_standard_iff.2 ⟨h hkind, hscan⟩

/-- A table that decides nothing more has no rule where the other one has none. -/
theorem DecisionsKept.noRule {rules extended : List Rule} {rest : Text}
    (h : DecisionsKept extended rules) (hnone : ∀ rule ∈ rules, rule.match? rest = none) :
    ∀ rule ∈ extended, rule.match? rest = none := by
  rw [← firstMatch?_eq_none_iff] at hnone ⊢
  by_contra hsome
  obtain ⟨⟨kind, raw⟩, hfound⟩ := Option.ne_none_iff_exists'.1 hsome
  rw [firstMatch?_eq_some_iff.2 (h _ _ _ (firstMatch?_eq_some_iff.1 hfound))] at hnone
  cases hnone

/-! ## Outcomes with more rules -/

namespace Outcome

/-- The tokens `committed` come first, and nothing is wrong before the offset. -/
structure GoesOn (committed : List Token) (offset : Nat) (outcome : Outcome) : Prop where
  returned : ∀ tokens, outcome = .ok tokens → committed <+: tokens
  unmatched : ∀ position snippet tokens,
    outcome = .error (.unmatched position snippet tokens) → committed <+: tokens
  fault : ∀ fault place, outcome = .error fault → fault.position? = some place →
    offset ≤ place.offset

theorem GoesOn.of_afterAll {committed : List Token} {offset : Nat} {outcome : Outcome}
    (h : ∀ fault place, outcome = .error fault → fault.position? = some place →
      offset ≤ place.offset) : GoesOn committed offset (outcome.afterAll committed) where
  returned tokens htokens := by
    cases outcome with
    | ok others =>
      rw [afterAll_ok] at htokens
      cases htokens
      exact List.prefix_append _ _
    | error fault => cases fault <;> simp at htokens
  unmatched position snippet tokens htokens := by
    cases outcome with
    | ok others => simp at htokens
    | error fault =>
      cases fault <;> simp at htokens
      obtain ⟨-, -, rfl⟩ := htokens
      exact List.prefix_append _ _
  fault fault place hfault hplace := by
    obtain ⟨inner, hinner, hposition⟩ := afterAll_eq_error hfault
    exact h inner place hinner (hposition.trans hplace)

/-- What becomes of an outcome when more rules are there: it stays as it is, or else it was unmatched
input, and then the run goes on behind the tokens before it. -/
structure ExtendsTo (outcome extended : Outcome) : Prop where
  same : (∀ position snippet committed,
    outcome ≠ .error (.unmatched position snippet committed)) → extended = outcome
  further : ∀ position snippet committed,
    outcome = .error (.unmatched position snippet committed) →
      extended.GoesOn committed position.offset

theorem ExtendsTo.refused {fault : ValueFault} {position : Position} {extended : Outcome}
    (h : extended = .error (fault.faultAt position)) :
    ExtendsTo (.error (fault.faultAt position)) extended := by
  refine ⟨fun _ => h, ?_⟩
  intro place snippet committed hunmatched
  cases fault <;> cases hunmatched

end Outcome

namespace Lexer

/-- The lexer with another table. -/
def withRules (lexer : Lexer) (rules : List Rule) : Lexer :=
  { lexer with rules }

variable {lexer : Lexer} {rules extended : List Rule} {source passed rest : Text}
  {tokens : List Token}

/-! ## Two runs side by side -/

/-- Token by token, what one table cuts off is cut off by the other. -/
theorem Cut.keep (hkept : DecisionsKept rules extended)
    (h : (lexer.withRules rules).Cut passed rest tokens) :
    (lexer.withRules extended).Cut passed rest tokens :=
  h.transfer (hkept _ _ _) fun _ _ hvalue => hvalue

theorem Reaches.keep {c : Char} (hkept : DecisionsKept rules extended)
    (h : (lexer.withRules rules).Reaches source passed c rest tokens) :
    (lexer.withRules extended).Reaches source passed c rest tokens :=
  ⟨h.source_eq, h.cut.keep hkept, h.notBlank⟩

theorem run_extendsTo (lexer : Lexer) (hkept : DecisionsKept rules extended) (source : Text) :
    ((lexer.withRules rules).run source).ExtendsTo ((lexer.withRules extended).run source) := by
  have hends := (lexer.withRules rules).run_ends source
  generalize (lexer.withRules rules).run source = outcome at hends ⊢
  cases hends with
  | finished cut =>
    refine ⟨fun _ => (Ends.finished (cut.keep hkept)).run_eq, ?_⟩
    intro position snippet committed hunmatched
    cases hunmatched
  | refused reaches first value_eq =>
    exact .refused
      (Ends.refused (reaches.keep hkept) (hkept _ _ _ first) value_eq).run_eq
  | unmatched reaches norule =>
    refine ⟨fun hne => absurd rfl (hne _ _ _), ?_⟩
    intro position snippet committed hunmatched
    cases hunmatched
    -- both runs have come here; what follows is the larger table's alone
    rw [reaches.source_eq, (reaches.keep hkept).cut.run_eq]
    exact .of_afterAll fun fault place hfault hplace => runFrom_fault_offset hfault hplace

/-- Tables that decide alike have the same runs. -/
theorem run_withRules_congr (lexer : Lexer) (hkept : DecisionsKept rules extended)
    (hback : DecisionsKept extended rules) (source : Text) :
    (lexer.withRules extended).run source = (lexer.withRules rules).run source := by
  have hends := (lexer.withRules rules).run_ends source
  refine Ends.run_eq ?_
  generalize (lexer.withRules rules).run source = outcome at hends ⊢
  cases hends with
  | finished cut => exact .finished (cut.keep hkept)
  | refused reaches first value_eq =>
    exact .refused (reaches.keep hkept) (hkept _ _ _ first) value_eq
  | unmatched reaches norule => exact .unmatched (reaches.keep hkept) (hback.noRule norule)

/-! ## Appended rules, and standard rules in any order -/

/-- Rules appended to a table change nothing of what it decides: the outcome stays as it is, unless
it is unmatched input, and then the tokens before it stay. -/
theorem run_append_rules (lexer : Lexer) (rules extra : List Rule) (source : Text) :
    ((lexer.withRules rules).run source).ExtendsTo
      ((lexer.withRules (rules ++ extra)).run source) :=
  lexer.run_extendsTo (decisionsKept_append rules extra) source

/-- Of a table of standard rules only the set of its kinds matters. More kinds change nothing of what
the table decides, the same kinds in another order change nothing at all. -/
theorem run_moreKinds (lexer : Lexer) (source : Text) {names more : List Text}
    {rules extended : List Rule} (hnames : rulesNamed names = .ok rules)
    (hmore : rulesNamed more = .ok extended) (hsubset : names ⊆ more) :
    ((lexer.withRules rules).run source).ExtendsTo ((lexer.withRules extended).run source) ∧
    (more ⊆ names →
      (lexer.withRules extended).run source = (lexer.withRules rules).run source) ∧
    (∀ reordered, reordered.Perm names → ∃ others, rulesNamed reordered = .ok others ∧
      (lexer.withRules others).run source = (lexer.withRules rules).run source) := by
  obtain ⟨hkinds, rfl⟩ := rulesNamed_eq_ok_iff.1 hnames
  obtain ⟨-, rfl⟩ := rulesNamed_eq_ok_iff.1 hmore
  have hkept := decisionsKept_standard (kindsOf_subset hsubset)
  refine ⟨lexer.run_extendsTo hkept source, fun hback => ?_, fun reordered hperm => ?_⟩
  · exact lexer.run_withRules_congr hkept (decisionsKept_standard (kindsOf_subset hback)) source
  · refine ⟨_, rulesNamed_eq_ok_iff.2 ⟨hkinds.of_perm hperm, rfl⟩, ?_⟩
    exact lexer.run_withRules_congr (decisionsKept_standard (kindsOf_subset hperm.symm.subset))
      (decisionsKept_standard (kindsOf_subset hperm.subset)) source

/-- A table for identifiers stops at the parenthesis; with parentheses the run goes on from there. -/
theorem run_moreKinds_paren :
    rulesNamed ["IDENTIFIER".toList] = .ok [.standard .identifier] ∧
    rulesNamed ["LEFT_PAREN".toList, "IDENTIFIER".toList] =
      .ok [.standard .leftParen, .standard .identifier] ∧
    ((({} : Lexer).withRules [.standard .leftParen, .standard .identifier]).run
      "ab (1".toList).GoesOn
        [⟨.identifier, some (.text "ab".toList), "ab".toList, some ⟨.start, ⟨1, 3, 2⟩⟩⟩] 3 := by
  have hnames : rulesNamed ["IDENTIFIER".toList] = .ok [.standard .identifier] := rfl
  have hmore : rulesNamed ["LEFT_PAREN".toList, "IDENTIFIER".toList] =
      .ok [.standard .leftParen, .standard .identifier] := rfl
  have hrun : (({} : Lexer).withRules [.standard .identifier]).run "ab (1".toList =
      .error (.unmatched ⟨1, 4, 3⟩ "(1".toList
        [⟨.identifier, some (.text "ab".toList), "ab".toList, some ⟨.start, ⟨1, 3, 2⟩⟩⟩]) := by
    decide +kernel
  have hextends := (run_moreKinds {} "ab (1".toList hnames hmore (by simp)).1
  exact ⟨hnames, hmore, hextends.further _ _ _ hrun⟩

end Lexer

end LispLex
