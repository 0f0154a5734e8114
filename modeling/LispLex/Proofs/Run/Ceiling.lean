-- SUMMARY: Runs of one lexer under two ceilings.
import LispLex.Proofs.Run.Extension
import LispLex.Proofs.Run.Unwritable
import LispLex.Proofs.Token.Number

/-!
# Runs under a higher ceiling

A higher ceiling takes every number that a lower one takes, and refuses nothing for another reason.
So a run that does not stop at a number that is too large stays as it is when the ceiling is raised.
A run that does stop there either stops there again or takes the number and goes on.
-/

namespace LispLex

/-! ## Values under two ceilings -/

section Values

variable {low : Int} {high : Option Int}

/-- What is too large for the higher ceiling is too large for the lower one. A number of too many
digits is above every ceiling that can be shown. -/
theorem IsDigitRun.isTooLarge_of_le {literal : Text} (h : IsDigitRun literal)
    (hlow : IsModerate (some low)) (hle : ∀ m ∈ high, low ≤ m) (hlarge : IsTooLarge high literal) :
    IsTooLarge (some low) literal := by
  cases high with
  | some m => exact (hle m rfl).trans_lt hlarge
  | none =>
    have hmany : digitLimit < significantCount literal := hlarge
    obtain ⟨count, hcount⟩ : ∃ count, significantCount literal = count + 1 :=
      ⟨significantCount literal - 1, by omega⟩
    have hdigits : digitLimit ≤ count := by omega
    have hpow : (10 : Int) ^ digitLimit ≤ 10 ^ count := pow_le_pow_right₀ (by norm_num) hdigits
    have hvalue : (10 : Int) ^ count ≤ decimalValue literal := by
      exact_mod_cast h.le_decimalValue hcount
    exact (hlow low rfl).trans_le (hpow.trans hvalue)

/-- Raising the ceiling leaves a value as it is, unless the text writes a number that is too large for
the lower ceiling. -/
theorem Kind.value?_raise (hlow : IsModerate (some low)) (hhigh : IsModerate high)
    (hle : ∀ m ∈ high, low ≤ m) (kind : Kind) (raw : Text) :
    kind.value? high raw = kind.value? (some low) raw ∧
      (∀ fault, kind.value? (some low) raw = .error fault →
        fault = .invalid (.malformedNumber raw)) ∨
    kind.value? (some low) raw = .error (.overflowOf raw (some low)) ∧
      (kind.value? high raw = .error (.overflowOf raw high) ∨
        ∃ value, kind.value? high raw = .ok value) := by
  cases kind with
  | number =>
    by_cases hrun : IsDigitRun raw
    · have hraise := hrun.isTooLarge_of_le hlow hle
      simp only [value?, hrun.numberValue_moderate hlow, hrun.numberValue_moderate hhigh]
      by_cases hlarge : IsTooLarge (some low) raw
      · refine .inr ⟨by rw [if_pos hlarge]; rfl, ?_⟩
        by_cases hhighLarge : IsTooLarge high raw
        · exact .inl (by rw [if_pos hhighLarge]; rfl)
        · exact .inr ⟨_, by rw [if_neg hhighLarge]; rfl⟩
      · refine .inl ⟨by rw [if_neg hlarge, if_neg fun h => hlarge (hraise h)], ?_⟩
        intro fault hfault
        rw [if_neg hlarge] at hfault
        cases hfault
    · refine .inl ⟨by simp only [value?, numberValue_of_not_run hrun], ?_⟩
      intro fault hfault
      rw [value?, numberValue_of_not_run hrun] at hfault
      cases hfault
      rfl
  | leftParen | rightParen | leftBracket | rightBracket | comma | string | identifier | add
  | divide =>
    refine .inl ⟨rfl, ?_⟩
    intro fault hfault
    cases hfault

theorem Kind.value?_ok_of_le (hlow : IsModerate (some low)) (hhigh : IsModerate high)
    (hle : ∀ m ∈ high, low ≤ m) {kind : Kind} {raw : Text} {value : Option Value}
    (h : kind.value? (some low) raw = .ok value) : kind.value? high raw = .ok value := by
  obtain ⟨hsame, -⟩ | ⟨hlarge, -⟩ := Kind.value?_raise hlow hhigh hle kind raw
  · rw [hsame, h]
  · rw [hlarge] at h
    cases h

/-- A value below the lower ceiling does not need the higher one. -/
theorem Kind.value?_ok_of_value_le {kind : Kind} {raw : Text} {value : Option Value}
    (h : kind.value? high raw = .ok value)
    (hvalue : kind = .number → ∀ n, value = some (.number n) → n ≤ low) :
    kind.value? (some low) raw = .ok value := by
  cases kind with
  | number =>
    obtain ⟨n, hn, rfl⟩ := numberValue_of_value?_ok h
    have hrun := isDigitRun_of_numberValue hn
    obtain ⟨rfl, -, hcount⟩ := hrun.numberValue_eq_ok_iff.1 hn
    have hle : (decimalValue raw : Int) ≤ low := hvalue rfl _ rfl
    have hnumber : numberValue (some low) raw = .ok (decimalValue raw) := by
      refine hrun.numberValue_eq_ok_iff.2 ⟨rfl, ?_, hcount⟩
      intro m hm
      cases hm
      exact hle
    rw [value?, hnumber]
    rfl
  | leftParen | rightParen | leftBracket | rightBracket | comma | string | identifier | add
  | divide => exact h

end Values

/-! ## Two runs side by side -/

/-- The run stopped at a number that is too large. A ceiling that is itself too long to be shown is
not named. -/
def Outcome.StopsAtNumber (outcome : Outcome) : Prop :=
  (∃ position literal ceiling, outcome = .error (.overflow position literal ceiling)) ∨
    outcome = .error (.invalid .unwritableCeiling)

/-- The token starts at the position. -/
def Token.StartsAt (token : Token) (position : Position) : Prop :=
  ∃ stop, token.span = some ⟨position, stop⟩

theorem Outcome.stopsAtNumber_overflowOf (literal : Text) (ceiling : Option Int)
    (position : Position) :
    Outcome.StopsAtNumber (.error ((ValueFault.overflowOf literal ceiling).faultAt position)) := by
  unfold ValueFault.overflowOf
  split
  · exact .inl ⟨_, _, _, rfl⟩
  · exact .inr rfl

namespace Lexer

/-- The lexer with another ceiling. -/
def withCeiling (lexer : Lexer) (ceiling : Option Int) : Lexer :=
  { lexer with ceiling }

variable {lexer : Lexer} {source passed rest raw : Text} {c : Char} {tokens : List Token}
  {kind : Kind}

section Raise

variable {low : Int} {high : Option Int}

theorem Cut.raise (hlow : IsModerate (some low)) (hhigh : IsModerate high)
    (hle : ∀ m ∈ high, low ≤ m) (h : (lexer.withCeiling (some low)).Cut passed rest tokens) :
    (lexer.withCeiling high).Cut passed rest tokens :=
  h.transfer id fun _ _ hvalue => Kind.value?_ok_of_le hlow hhigh hle hvalue

theorem Reaches.raise (hlow : IsModerate (some low)) (hhigh : IsModerate high)
    (hle : ∀ m ∈ high, low ≤ m)
    (h : (lexer.withCeiling (some low)).Reaches source passed c rest tokens) :
    (lexer.withCeiling high).Reaches source passed c rest tokens :=
  ⟨h.source_eq, h.cut.raise hlow hhigh hle, h.notBlank⟩

/-- A run that comes to a text and takes it commits a token there, and whatever is wrong stands
behind the token's start. -/
theorem Reaches.commits {value : Option Value}
    (h : lexer.Reaches source passed c rest tokens)
    (hfirst : FirstRule lexer.rules (c :: rest) kind raw)
    (hvalue : kind.value? lexer.ceiling raw = .ok value) :
    (∃ token ∈ lexer.taken source, token.raw = raw ∧ token.StartsAt (.after passed)) ∧
    (∀ fault place, lexer.run source = .error fault → fault.position? = some place →
      passed.length < place.offset) := by
  obtain ⟨blanks, after, hrest, hcut⟩ := h.cut.extend hfirst hvalue
  have hsource : source = passed ++ raw ++ blanks ++ after := by
    rw [h.source_eq, hrest]
    simp
  constructor
  · refine ⟨⟨kind, value, raw, some ⟨.after passed, .after (passed ++ raw)⟩⟩, ?_, rfl, _, rfl⟩
    rw [hsource, hcut.taken_eq]
    simp
  · intro fault place hfault hplace
    rw [hsource, hcut.run_eq] at hfault
    obtain ⟨inner, hinner, hposition⟩ := Outcome.afterAll_eq_error hfault
    have hoffset := runFrom_fault_offset hinner (hposition.trans hplace)
    have hraw := List.length_pos_iff.2 hfirst.ne_nil
    simp only [Position.after_offset, List.length_append] at hoffset
    omega

/-- Where the lower ceiling refuses a number, the higher one refuses it too, or the run commits it and
goes on behind its start. -/
theorem run_at_refused (hlow : IsModerate (some low)) (hhigh : IsModerate high)
    (hle : ∀ m ∈ high, low ≤ m) {position : Position} {literal : Text} {ceiling : Option Int}
    (h : (lexer.withCeiling (some low)).run source = .error (.overflow position literal ceiling)) :
    (lexer.withCeiling high).run source = .error (.overflow position literal high) ∨
    (∃ token ∈ (lexer.withCeiling high).taken source,
      token.raw = literal ∧ token.StartsAt position) ∧
    (∀ fault place, (lexer.withCeiling high).run source = .error fault →
      fault.position? = some place → position.offset < place.offset) := by
  have hends := (lexer.withCeiling (some low)).run_ends source
  rw [h] at hends
  obtain ⟨passed, c, rest, tokens, hreaches, ⟨-, heq⟩ | ⟨kind, raw, fault, hfirst, hvalue, heq⟩⟩ :=
    hends.fault_cases
  · cases heq
  have hraised := hreaches.raise hlow hhigh hle
  cases fault with
  | invalid cause => cases heq
  | overflow text limit =>
    cases heq
    obtain ⟨-, hmalformed⟩ | ⟨hlarge, hhighValue⟩ := Kind.value?_raise hlow hhigh hle kind raw
    · cases hmalformed _ hvalue
    have hfault := Except.error.inj (hvalue.symm.trans hlarge)
    unfold ValueFault.overflowOf at hfault
    split at hfault
    · next hwritable =>
      rw [Option.all_some] at hwritable
      cases hfault
      rcases hhighValue with hrefused | ⟨value, htaken⟩
      · refine .inl ?_
        rw [(Ends.refused hraised hfirst hrefused).run_eq, overflowOf_of_le hwritable hhigh hle]
        rfl
      · have hcommits := hraised.commits hfirst htaken
        rw [← Position.after_offset] at hcommits
        exact .inr hcommits
    · cases hfault

/-- A run that does not stop at a number is the same under a higher ceiling. -/
theorem run_raise_of_not_stops (hlow : IsModerate (some low)) (hhigh : IsModerate high)
    (hle : ∀ m ∈ high, low ≤ m)
    (h : ¬ ((lexer.withCeiling (some low)).run source).StopsAtNumber) :
    (lexer.withCeiling high).run source = (lexer.withCeiling (some low)).run source := by
  have hends := (lexer.withCeiling (some low)).run_ends source
  refine Ends.run_eq ?_
  generalize (lexer.withCeiling (some low)).run source = outcome at hends h ⊢
  cases hends with
  | finished cut => exact .finished (cut.raise hlow hhigh hle)
  | unmatched reaches norule => exact .unmatched (reaches.raise hlow hhigh hle) norule
  | @refused _ _ raw _ _ kind fault reaches first value_eq =>
    obtain ⟨hsame, -⟩ | ⟨hlarge, -⟩ := Kind.value?_raise hlow hhigh hle kind raw
    · exact .refused (reaches.raise hlow hhigh hle) first (hsame.trans value_eq)
    · have hfault := Except.error.inj (value_eq.symm.trans hlarge)
      rw [hfault] at h
      exact absurd (Outcome.stopsAtNumber_overflowOf _ _ _) h

/-- A ceiling that can be shown is named in every fault about it. -/
theorem stopsAtNumber_iff_of_writable (hlow : IsModerate (some low))
    (hwritable : isWritable low = true) :
    ((lexer.withCeiling (some low)).run source).StopsAtNumber ↔
      ∃ position literal ceiling,
        (lexer.withCeiling (some low)).run source = .error (.overflow position literal ceiling) := by
  refine or_iff_left ?_
  intro h
  have hends := (lexer.withCeiling (some low)).run_ends source
  rw [h] at hends
  obtain ⟨passed, c, rest, tokens, -, ⟨-, heq⟩ | ⟨kind, raw, fault, -, hvalue, heq⟩⟩ :=
    hends.fault_cases
  · cases heq
  cases fault with
  | overflow text limit => cases heq
  | invalid cause =>
    cases heq
    obtain ⟨-, hmalformed⟩ | ⟨hlarge, -⟩ :=
      Kind.value?_raise hlow hlow (by simp) kind raw
    · cases hmalformed _ hvalue
    · rw [overflowOf_of_le hwritable hlow (by simp)] at hlarge
      cases hvalue.symm.trans hlarge

/-- Tokens whose numbers are at most the lower ceiling need no higher one. -/
theorem run_lower {tokens : List Token} (h : (lexer.withCeiling high).run source = .ok tokens)
    (hnumbers : ∀ token ∈ tokens, token.kind = .number →
      ∀ n, token.value = some (.number n) → n ≤ low) :
    (lexer.withCeiling (some low)).run source = .ok tokens := by
  have hends := (lexer.withCeiling high).run_ends source
  rw [h] at hends
  cases hends with
  | finished cut =>
    have hcut : (lexer.withCeiling (some low)).Cut source [] tokens :=
      cut.transfer id fun token hmem hvalue =>
        Kind.value?_ok_of_value_le hvalue (hnumbers token hmem)
    exact (Ends.finished hcut).run_eq

/-- Raising the ceiling only removes faults about numbers. Unless the run stopped at a number that is
too large, its outcome stays. If it stopped at one, nothing is wrong before that place under the
higher ceiling either, and there the same literal is refused or it is the text of a token. A result
whose numbers are all at most the lower ceiling is also the result under that. -/
theorem run_raise_ceiling (lexer : Lexer) (source : Text) (hlow : IsModerate (some low))
    (hhigh : IsModerate high) (hle : ∀ m ∈ high, low ≤ m) :
    (¬ ((lexer.withCeiling (some low)).run source).StopsAtNumber →
      (lexer.withCeiling high).run source = (lexer.withCeiling (some low)).run source) ∧
    (isWritable low = true →
      (((lexer.withCeiling (some low)).run source).StopsAtNumber ↔
        ∃ position literal ceiling, (lexer.withCeiling (some low)).run source =
          .error (.overflow position literal ceiling))) ∧
    (∀ position literal ceiling,
      (lexer.withCeiling (some low)).run source = .error (.overflow position literal ceiling) →
        (∀ fault place, (lexer.withCeiling high).run source = .error fault →
          fault.position? = some place → position.offset ≤ place.offset) ∧
        (∀ place other limit,
          (lexer.withCeiling high).run source = .error (.overflow place other limit) →
          place.offset = position.offset → other = literal) ∧
        ((∀ place other limit,
          (lexer.withCeiling high).run source = .error (.overflow place other limit) →
          place.offset ≠ position.offset) →
            ∃ token ∈ (lexer.withCeiling high).taken source,
              token.raw = literal ∧ token.StartsAt position)) ∧
    (∀ tokens, (lexer.withCeiling high).run source = .ok tokens →
      (∀ token ∈ tokens, token.kind = .number →
        ∀ n, token.value = some (.number n) → n ≤ low) →
      (lexer.withCeiling (some low)).run source = .ok tokens) := by
  refine ⟨run_raise_of_not_stops hlow hhigh hle, stopsAtNumber_iff_of_writable hlow, ?_,
    fun tokens => run_lower⟩
  intro position literal ceiling hrefused
  rcases run_at_refused hlow hhigh hle hrefused with hagain | ⟨hcommits, hbehind⟩
  · rw [hagain]
    refine ⟨?_, ?_, ?_⟩
    · intro fault place hfault hplace
      cases hfault
      cases hplace
      exact Nat.le_refl _
    · intro place other limit hother _
      cases hother
      rfl
    · intro hnone
      exact absurd rfl (hnone _ _ _ rfl)
  · refine ⟨?_, ?_, fun _ => hcommits⟩
    · intro fault place hfault hplace
      exact (hbehind fault place hfault hplace).le
    · intro place other limit hother hsame
      exact absurd hsame (hbehind _ place hother rfl).ne'

/-- Raised from 9 to 50, the ceiling lets the 12 pass that was refused, and the run comes to the
character that no rule matches. -/
theorem run_raise_ceiling_twelve :
    IsModerate (some 9) ∧ IsModerate (some 50) ∧ (∀ m ∈ some (50 : Int), (9 : Int) ≤ m) ∧
    (({} : Lexer).withCeiling (some 9)).run "7 12 @".toList =
      .error (.overflow ⟨1, 3, 2⟩ "12".toList (some 9)) ∧
    ∃ token ∈ (({} : Lexer).withCeiling (some 50)).taken "7 12 @".toList,
      token.raw = "12".toList ∧ token.StartsAt ⟨1, 3, 2⟩ := by
  have hnine : IsModerate (some 9) := isModerate_of_lt_pow (show 1 ≤ digitLimit by decide) (by decide)
  have hfifty : IsModerate (some 50) :=
    isModerate_of_lt_pow (show 2 ≤ digitLimit by decide) (by decide)
  have hle : ∀ m ∈ some (50 : Int), (9 : Int) ≤ m := by
    intro m hm
    cases hm
    decide
  have hnineRun : (({} : Lexer).withCeiling (some 9)).run "7 12 @".toList =
      .error (.overflow ⟨1, 3, 2⟩ "12".toList (some 9)) := by
    decide +kernel
  have hfiftyRun : (({} : Lexer).withCeiling (some 50)).run "7 12 @".toList =
      .error (.unmatched ⟨1, 6, 5⟩ "@".toList
        [⟨.number, some (.number 7), "7".toList, some ⟨.start, ⟨1, 2, 1⟩⟩⟩,
          ⟨.number, some (.number 12), "12".toList, some ⟨⟨1, 3, 2⟩, ⟨1, 5, 4⟩⟩⟩]) := by
    decide +kernel
  obtain ⟨-, -, hcommits⟩ :=
    (run_raise_ceiling {} "7 12 @".toList hnine hfifty hle).2.2.1 _ _ _ hnineRun
  refine ⟨hnine, hfifty, hle, hnineRun, hcommits ?_⟩
  intro place other limit hother
  rw [hfiftyRun] at hother
  cases hother

/-- Under a ceiling that cannot be shown the run raises no overflow, yet its outcome does not stay when
the ceiling is raised. -/
theorem run_raise_unwritableCeiling :
    IsModerate (some (-10 ^ digitLimit)) ∧ IsModerate (some 9) ∧
      (∀ m ∈ some (9 : Int), -10 ^ digitLimit ≤ m) ∧
      (({} : Lexer).withCeiling (some (-10 ^ digitLimit))).run ['7'] =
        .error (.invalid .unwritableCeiling) ∧
      (({} : Lexer).withCeiling (some 9)).run ['7'] =
        .ok [⟨.number, some (.number 7), ['7'], some ⟨.start, ⟨1, 2, 1⟩⟩⟩] := by
  have hdigits : IsDigitRun ['7'] := ⟨by decide, List.all_eq_true.1 rfl⟩
  refine ⟨isModerate_of_neg neg_pow_digitLimit_neg,
    isModerate_of_lt_pow (show 1 ≤ digitLimit by decide) (by decide), ?_, ?_, by decide +kernel⟩
  · intro m hm
    cases hm
    exact neg_pow_digitLimit_neg.le.trans (by decide)
  · exact run_eq_invalid_of_digits rfl (Kind.mem_all .number) hdigits (isUnwritablyBelow_neg_pow _)

end Raise

end Lexer

end LispLex
