-- SUMMARY: The standard lexer accepts the sources without offences and fails at the leftmost one.
import LispLex.Proofs.Run.Decomposition
import LispLex.Proofs.Run.Offence
import LispLex.Proofs.Run.Standard
import LispLex.Proofs.Run.Unwritable
import LispLex.Proofs.Token.WellFormed

/-!
# The lines that the standard rules accept

The standard rules accept the sources without offences and point at the leftmost offence of all
others. What a run has passed is harmless, so the offences are those of what is left, and where the
run stops one of them is at the very start.
-/

namespace LispLex

variable {ceiling : Option Int} {rest : Text}

/-! ## What a run passes -/

theorem IsPlain.of_blank {c : Char} (h : isBlank c = true) : IsPlain c := by
  rcases isBlank_iff.1 h with rfl | rfl | rfl | rfl
  all_goals exact ⟨by decide, by decide, by decide⟩

theorem IsPlain.of_letter {c : Char} (h : c.isAlpha = true) : IsPlain c where
  noQuote := by
    rintro rfl
    cases h
  noDigit := Kind.isAlpha_not_digit h
  allowed := .inr (by simp [isFreeCharacter, h])

theorem IsPlain.of_mark {kind : Kind} {c : Char} (h : kind.mark? = some c) : IsPlain c := by
  cases kind <;> cases h <;> exact ⟨by decide, by decide, by decide⟩

/-- What a kind takes is harmless if it has a value. -/
theorem Kind.harmless (hceiling : IsModerate ceiling) {kind : Kind} {raw : Text}
    {value : Option Value} (hscan : kind.scan? (raw ++ rest) = some raw)
    (hvalue : kind.value? ceiling raw = .ok value) : Harmless ceiling raw rest := by
  have hraw : kind.IsRaw ceiling raw := .of_scan? hscan hvalue
  cases kind with
  | number =>
    obtain ⟨hrun, -, -⟩ := hraw
    refine .of_digits hrun (leading?_ends hscan) ?_
    intro hlarge
    rw [value?, hrun.numberValue_moderate hceiling, if_pos hlarge] at hvalue
    cases hvalue
  | identifier =>
    obtain ⟨-, hletters⟩ := hraw
    exact .of_plain fun c hc => .of_letter (hletters c hc)
  | string =>
    obtain ⟨body, after, htext, rfl, hbody, hline⟩ := quotedStretch?_eq_some hscan
    have hrest : rest = after := by simpa using htext
    subst hrest
    exact .of_quoted hbody (List.count_eq_zero_of_not_mem hline)
  | leftParen | rightParen | leftBracket | rightBracket | comma | add | divide =>
    obtain ⟨c, hmark, rfl⟩ := hraw
    refine .of_plain ?_
    intro d hd
    rw [List.mem_singleton] at hd
    subst hd
    exact .of_mark hmark

/-- A source has no offences in a part that can be cut off. -/
theorem Lexer.Cut.offencesBehind {snippetLength : Int} {passed : Text} {tokens : List Token}
    (hceiling : IsModerate ceiling)
    (h : (Lexer.standard ceiling snippetLength).Cut passed rest tokens) :
    OffencesBehind ceiling passed rest := by
  induction h with
  | blanks ends =>
    exact (Harmless.of_plain fun c hc => .of_blank (ends.all_blank c hc)).offencesBehind
  | @token passed raw blanks rest tokens kind value before first nonempty value_eq ends ih =>
    have hraw : Harmless ceiling raw (blanks ++ rest) :=
      Kind.harmless hceiling (firstRule_standard.1 first) value_eq
    have hblanks : Harmless ceiling blanks rest :=
      .of_plain fun c hc => .of_blank (ends.all_blank c hc)
    exact (ih.append hraw.offencesBehind).append hblanks.offencesBehind

/-! ## Where a run stops -/

theorem Kind.exists_scan?_of_free {c : Char} (hfree : isFreeCharacter c = true)
    (hblank : isBlank c = false) (rest : Text) :
    ∃ (kind : Kind) (raw : Text), kind.scan? (c :: rest) = some raw := by
  simp only [isFreeCharacter, Bool.or_eq_true] at hfree
  rcases hfree with (hmark | hdigit) | hletter
  · have hmem : c ∈ freeCharacters := List.contains_iff_mem.1 hmark
    simp only [freeCharacters, List.mem_cons, List.not_mem_nil, or_false] at hmem
    rcases hmem with rfl | rfl | rfl | rfl | rfl | rfl | rfl | rfl | rfl | rfl
    · cases hblank
    · cases hblank
    · cases hblank
    · exact ⟨leftParen, _, rfl⟩
    · exact ⟨rightParen, _, rfl⟩
    · exact ⟨leftBracket, _, rfl⟩
    · exact ⟨rightBracket, _, rfl⟩
    · exact ⟨comma, _, rfl⟩
    · exact ⟨add, _, rfl⟩
    · exact ⟨divide, _, rfl⟩
  · refine ⟨number, (c :: rest).takeWhile isAsciiDigit, if_neg ?_⟩
    simp [hdigit]
  · refine ⟨identifier, (c :: rest).takeWhile Char.isAlpha, if_neg ?_⟩
    simp [hletter]

/-- Where no kind takes anything, a character is not allowed or a quote is alone on its line. -/
theorem offenceAt_of_unmatched {c : Char} (hc : isBlank c = false)
    (hscan : ∀ kind : Kind, kind.scan? (c :: rest) = none) :
    OffenceAt ceiling (c :: rest) 0 .stray := by
  change Offends ceiling [] (c :: rest) .stray
  by_cases hquote : c = '"'
  · subst hquote
    exact .quote rfl (List.count_eq_zero_of_not_mem (lone_of_quotedStretch? (hscan .string)))
  · refine .character ?_ hquote (.inl rfl) ?_
    · rintro rfl
      cases hc
    · by_contra hfree
      obtain ⟨kind, raw, hraw⟩ := Kind.exists_scan?_of_free (by simpa using hfree) hc rest
      rw [hscan kind] at hraw
      cases hraw

/-- A text whose value is refused is a run of digits, and its number is too large. -/
theorem offenceAt_of_refused (hceiling : IsModerate ceiling) {kind : Kind} {text raw : Text}
    {fault : ValueFault} (hscan : kind.scan? text = some raw)
    (hvalue : kind.value? ceiling raw = .error fault) :
    OffenceAt ceiling text 0 (.tooLarge raw) ∧ fault = .overflowOf raw ceiling := by
  cases kind with
  | number =>
    have hrun := Kind.isDigitRun_of_scan? hscan
    have hlarge : IsTooLarge ceiling raw := by
      by_contra hmoderate
      rw [Kind.value?, hrun.numberValue_moderate hceiling, if_neg hmoderate] at hvalue
      cases hvalue
    refine ⟨?_, ?_⟩
    · change Offends ceiling [] text (.tooLarge raw)
      have hraw := (leading?_eq_some hscan).1
      have htext : text = raw ++ text.dropWhile isAsciiDigit := by
        rw [hraw, List.takeWhile_append_dropWhile]
      rw [htext]
      exact .number hrun (by simp) (head_dropWhile_not isAsciiDigit text) (.inl rfl) hlarge
    · rw [Kind.value?, hrun.numberValue_moderate hceiling, if_pos hlarge] at hvalue
      cases hvalue
      rfl
  | identifier | string | leftParen | rightParen | leftBracket | rightBracket | comma | add
  | divide => cases hvalue

/-- With standard rules and a positive ceiling that can be shown, every fault of a run is reported. -/
theorem Lexer.exists_report {lexer : Lexer} {kinds : List Kind} {source : Text} {fault : Fault}
    (hrules : lexer.rules = kinds.map .standard) {m : Int} (hceiling : lexer.ceiling = some m)
    (hpos : 0 < m) (hmoderate : IsModerate (some m)) (h : lexer.run source = .error fault) :
    ∃ report, fault.report source = .ok report := by
  have hends := lexer.run_ends source
  rw [h] at hends
  obtain ⟨passed, c, rest, tokens, -, ⟨-, rfl⟩ | ⟨kind, raw, valueFault, hfirst, hvalue, rfl⟩⟩ :=
    hends.fault_cases
  · exact ⟨_, rfl⟩
  · rw [hrules] at hfirst
    rw [hceiling] at hvalue
    obtain ⟨-, hscan⟩ := hfirst.of_standard
    obtain ⟨-, hfault⟩ := offenceAt_of_refused hmoderate hscan hvalue
    have hle : ∀ n ∈ some m, 0 ≤ n := by
      intro n hn
      cases hn
      exact hpos.le
    rw [overflowOf_of_le isWritable_zero hmoderate hle] at hfault
    rw [hfault]
    exact ⟨_, rfl⟩

namespace Lexer

variable {snippetLength : Int} {passed : Text} {tokens : List Token}

/-- An offence where a run has come to is the leftmost one of the source. -/
theorem Reaches.leftmostOffence (hceiling : IsModerate ceiling) {source : Text} {c : Char}
    {offence : Offence} (h : (standard ceiling snippetLength).Reaches source passed c rest tokens)
    (hoffence : OffenceAt ceiling (c :: rest) 0 offence) :
    LeftmostOffence ceiling source passed.length offence := by
  have hbehind := h.cut.offencesBehind hceiling
  rw [h.source_eq]
  refine ⟨(hbehind _ _).2 ⟨0, rfl, hoffence⟩, ?_⟩
  intro other otherOffence hother
  obtain ⟨further, rfl, -⟩ := (hbehind _ _).1 hother
  exact Nat.le_add_right _ _

/-- A run either returns tokens, and there is no offence, or it fails as the leftmost offence
says. -/
theorem run_cases (snippetLength : Int) (hceiling : IsModerate ceiling) (source : Text) :
    ((∃ tokens, (standard ceiling snippetLength).run source = .ok tokens) ∧
      ∀ offset offence, ¬ OffenceAt ceiling source offset offence) ∨
    (∃ offset snippet committed, LeftmostOffence ceiling source offset .stray ∧
      (standard ceiling snippetLength).run source =
        .error (.unmatched (.after (source.take offset)) snippet committed)) ∨
    (∃ offset literal, LeftmostOffence ceiling source offset (.tooLarge literal) ∧
      (standard ceiling snippetLength).run source =
        .error ((ValueFault.overflowOf literal ceiling).faultAt (.after (source.take offset)))) := by
  have hends := run_ends (standard ceiling snippetLength) source
  generalize hrun : (standard ceiling snippetLength).run source = outcome at hends
  cases hends with
  | @finished tokens cut =>
    refine .inl ⟨⟨tokens, rfl⟩, ?_⟩
    intro offset offence hoffence
    rw [← source.append_nil] at hoffence
    obtain ⟨further, -, hrest⟩ := (cut.offencesBehind hceiling _ _).1 hoffence
    rw [OffenceAt, List.drop_nil] at hrest
    exact hrest.ne_nil rfl
  | @unmatched passed rest c tokens reaches norule =>
    have hscan : ∀ kind : Kind, kind.scan? (c :: rest) = none :=
      fun kind => noRule_standard_iff.1 norule kind kind.mem_all
    have hleft := reaches.leftmostOffence hceiling (offenceAt_of_unmatched reaches.notBlank hscan)
    let snippet := Cursor.snippet ⟨.after passed, c :: rest⟩ snippetLength
    refine .inr (.inl ⟨passed.length, snippet, tokens, hleft, ?_⟩)
    rw [reaches.source_eq, List.take_left]
    rfl
  | @refused passed rest raw c tokens kind fault reaches first value_eq =>
    obtain ⟨hoffence, rfl⟩ := offenceAt_of_refused hceiling (firstRule_standard.1 first) value_eq
    have hleft := reaches.leftmostOffence hceiling hoffence
    refine .inr (.inr ⟨passed.length, raw, hleft, ?_⟩)
    rw [reaches.source_eq, List.take_left]

/-- A source has tokens exactly if it has no offence; otherwise the leftmost one decides. A character
that is not allowed and a quote that is alone are unmatched input there, a number that is too large
is reported with all its digits. A ceiling so far below zero that it cannot be shown cannot be
reported either. -/
theorem run_leftmostOffence (snippetLength : Int) (hceiling : IsModerate ceiling) (source : Text) :
    ((∃ tokens, (standard ceiling snippetLength).run source = .ok tokens) ↔
      ∀ offset offence, ¬ OffenceAt ceiling source offset offence) ∧
    (∀ offset, LeftmostOffence ceiling source offset .stray →
      ∃ snippet committed, (standard ceiling snippetLength).run source =
        .error (.unmatched (.after (source.take offset)) snippet committed)) ∧
    (∀ offset literal, LeftmostOffence ceiling source offset (.tooLarge literal) →
      (standard ceiling snippetLength).run source =
        .error (if ceiling.all isWritable then .overflow (.after (source.take offset)) literal ceiling
          else .invalid .unwritableCeiling)) := by
  rcases run_cases snippetLength hceiling source with
    ⟨hrun, hnone⟩ | ⟨offset, snippet, committed, hleft, hrun⟩ | ⟨offset, literal, hleft, hrun⟩
  · refine ⟨⟨fun _ => hnone, fun _ => hrun⟩, ?_, ?_⟩
    · intro offset hleft
      exact absurd hleft.offenceAt (hnone _ _)
    · intro offset literal hleft
      exact absurd hleft.offenceAt (hnone _ _)
  · rw [hrun]
    refine ⟨⟨?_, ?_⟩, ?_, ?_⟩
    · rintro ⟨tokens, htokens⟩
      cases htokens
    · intro hnone
      exact absurd hleft.offenceAt (hnone _ _)
    · intro other hother
      obtain ⟨rfl, -⟩ := hleft.unique hother
      exact ⟨snippet, committed, rfl⟩
    · intro other literal hother
      obtain ⟨-, heq⟩ := hleft.unique hother
      cases heq
  · rw [hrun]
    refine ⟨⟨?_, ?_⟩, ?_, ?_⟩
    · rintro ⟨tokens, htokens⟩
      cases htokens
    · intro hnone
      exact absurd hleft.offenceAt (hnone _ _)
    · intro other hother
      obtain ⟨-, heq⟩ := hleft.unique hother
      cases heq
    · intro other otherLiteral hother
      obtain ⟨rfl, heq⟩ := hleft.unique hother
      cases heq
      unfold ValueFault.overflowOf
      split <;> rfl

/-- The first number above the standard ceiling. -/
theorem run_above_standardCeiling :
    (standard (some standardCeiling) 20).run "9223372036854775808".toList =
      .error (.overflow .start "9223372036854775808".toList (some standardCeiling)) := by
  have hleft : LeftmostOffence (some standardCeiling) "9223372036854775808".toList 0
      (.tooLarge "9223372036854775808".toList) := by
    refine ⟨?_, fun _ _ _ => Nat.zero_le _⟩
    have hrun : IsDigitRun "9223372036854775808".toList := ⟨by decide, List.all_eq_true.1 rfl⟩
    exact .number hrun (by simp) (by simp) (.inl rfl) (by decide)
  have hwritable : Option.all isWritable (some standardCeiling) = true := by decide +kernel
  have hrun := (run_leftmostOffence 20 isModerate_standardCeiling _).2.2 _ _ hleft
  rwa [if_pos hwritable] at hrun

/-- The only number of this line is above a ceiling that cannot be shown, but it is no overflow. -/
theorem run_seven_unwritableCeiling :
    IsModerate (some (-10 ^ digitLimit)) ∧
      LeftmostOffence (some (-10 ^ digitLimit)) ['7'] 0 (.tooLarge ['7']) ∧
      (standard (some (-10 ^ digitLimit)) 20).run ['7'] = .error (.invalid .unwritableCeiling) := by
  have hdigits : IsDigitRun ['7'] := ⟨by decide, List.all_eq_true.1 rfl⟩
  have hlarge : IsTooLarge (some (-10 ^ digitLimit)) ['7'] :=
    neg_pow_digitLimit_neg.trans_le (Int.natCast_nonneg _)
  refine ⟨isModerate_of_neg neg_pow_digitLimit_neg, ⟨?_, fun _ _ _ => Nat.zero_le _⟩, ?_⟩
  · exact .number hdigits (by simp) (by simp) (.inl rfl) hlarge
  · exact run_eq_invalid_of_digits rfl (Kind.mem_all _) hdigits (isUnwritablyBelow_neg_pow _)

end Lexer

end LispLex
