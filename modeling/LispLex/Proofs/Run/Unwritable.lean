-- SUMMARY: When a number is invalid rather than an overflow, for single literals and for runs.
import LispLex.Proofs.Run.Decomposition
import LispLex.Proofs.Run.Standard
import LispLex.Proofs.Token.Number
import LispLex.Proofs.Token.Stop

/-!
# Ceilings that cannot be shown

A number above the ceiling is reported together with the ceiling, and that cannot be done if the
ceiling has more digits than are converted. This is the only way in which a run of digits can be
invalid, and so the only way in which a run with standard rules can fail without a report.
-/

namespace LispLex

variable {m : Int} {ceiling : Option Int} {literal : Text}

/-! ## Faults of digits -/

theorem pow_le_of_not_isWritable (h : isWritable m = false) (hpos : 0 < m) : 10 ^ digitLimit ≤ m := by
  by_contra hlow
  have hlimit : (0 : Int) < 10 ^ digitLimit := pow_pos (by decide) _
  have hwritable : isWritable m = true :=
    isWritable_iff_bounds.2 ⟨(neg_neg_of_pos hlimit).trans hpos, Int.not_le.1 hlow⟩
  exact Bool.false_ne_true (h.symm.trans hwritable)

/-- The ceiling cannot be shown, and it is below all numbers with as many digits as the literal has
without zeros at its start. -/
def IsUnwritablyBelow (ceiling : Option Int) (literal : Text) : Prop :=
  ∃ m, ceiling = some m ∧ isWritable m = false ∧ m < 10 ^ ((significantDigits literal).length - 1)

/-- A ceiling below zero that cannot be shown is below all numbers. -/
theorem isUnwritablyBelow_neg_pow (literal : Text) :
    IsUnwritablyBelow (some (-10 ^ digitLimit)) literal :=
  ⟨_, rfl, not_isWritable_neg_pow, neg_pow_digitLimit_neg.trans (pow_pos (by decide) _)⟩

namespace IsDigitRun

theorem numberValue_of_unwritablyBelow (h : IsDigitRun literal)
    (hbelow : IsUnwritablyBelow ceiling literal) :
    numberValue ceiling literal = .error (.invalid .unwritableCeiling) := by
  obtain ⟨m, rfl, hunwritable, hlt⟩ := hbelow
  rw [length_significantDigits] at hlt
  rw [h.numberValue_some, overflowOf_of_not_isWritable hunwritable]
  split
  · rfl
  · next hlength =>
    -- so there is one digit at most, and the ceiling is negative
    have hfew : max 1 (significantCount literal) = 1 := by
      by_contra hmany
      exact hlength (isBelowLength_iff.2 ⟨by omega, hlt⟩)
    rw [hfew, Nat.sub_self, pow_zero] at hlt
    have hzero : m ≠ 0 := by
      rintro rfl
      exact Bool.false_ne_true (hunwritable.symm.trans isWritable_zero)
    have hlimit : 1 ≤ digitLimit := by decide
    have hnegative : m < decimalValue literal := by omega
    rw [if_neg (by omega), if_pos hnegative]

/-- A ceiling that can be shown can be shown in a fault. -/
theorem numberValue_of_isWritable (h : IsDigitRun literal) (hwritable : ceiling.all isWritable = true) :
    (∃ n, numberValue ceiling literal = .ok n) ∨
      ∃ limit, numberValue ceiling literal = .error (.overflow literal limit) := by
  cases hvalue : numberValue ceiling literal with
  | ok n => exact .inl ⟨n, rfl⟩
  | error fault =>
    obtain ⟨limit, rfl, hlimit⟩ := h.exists_overflowOf hvalue
    refine .inr ⟨limit, ?_⟩
    obtain rfl | rfl := hlimit
    · rw [ValueFault.overflowOf, if_pos hwritable]
    · rfl

/-- A ceiling that is positive and cannot be shown is above all numbers that can. -/
theorem numberValue_of_pow_le (h : IsDigitRun literal)
    (hlow : 10 ^ ((significantDigits literal).length - 1) ≤ m) (hhigh : 10 ^ digitLimit ≤ m) :
    (∃ n, numberValue (some m) literal = .ok n) ∨
      numberValue (some m) literal = .error (.overflow literal none) := by
  rw [length_significantDigits] at hlow
  have hlength : ¬isBelowLength m (max 1 (significantCount literal)) = true := fun hbelow =>
    Int.not_le.2 (isBelowLength_iff.1 hbelow).2 hlow
  rw [h.numberValue_some, if_neg hlength]
  split
  · exact .inr rfl
  · next hfew =>
    have hvalue : (decimalValue literal : Int) < 10 ^ significantCount literal := by
      exact_mod_cast h.decimalValue_lt
    have hbound : (10 : Int) ^ significantCount literal ≤ 10 ^ digitLimit :=
      pow_le_pow_right₀ (by norm_num) (Nat.le_of_not_lt hfew)
    rw [if_neg (Int.not_lt.2 (hvalue.le.trans (hbound.trans hhigh)))]
    exact .inl ⟨_, rfl⟩

theorem numberValue_of_not_unwritablyBelow (h : IsDigitRun literal)
    (hnot : ¬IsUnwritablyBelow ceiling literal) :
    (∃ n, numberValue ceiling literal = .ok n) ∨
      ∃ limit, numberValue ceiling literal = .error (.overflow literal limit) := by
  cases hwritable : ceiling.all isWritable with
  | true => exact h.numberValue_of_isWritable hwritable
  | false =>
    cases ceiling with
    | none => cases hwritable
    | some m =>
      rw [Option.all_some] at hwritable
      have hlow : 10 ^ ((significantDigits literal).length - 1) ≤ m :=
        Int.not_lt.1 fun hlt => hnot ⟨m, rfl, hwritable, hlt⟩
      have hhigh := pow_le_of_not_isWritable hwritable ((pow_pos (by decide) _).trans_le hlow)
      exact (h.numberValue_of_pow_le hlow hhigh).imp_right fun hover => ⟨none, hover⟩

end IsDigitRun

namespace Kind

theorem number_value?_eq_error_iff {fault : ValueFault} :
    number.value? ceiling literal = .error fault ↔ numberValue ceiling literal = .error fault := by
  refine ⟨numberValue_of_value?_error, fun h => ?_⟩
  rw [value?, h]
  rfl

/-- Digits are invalid under a ceiling that cannot be shown, if they are too many for it. -/
theorem number_value?_invalid_iff (h : IsDigitRun literal) {cause : InvalidValue} :
    number.value? ceiling literal = .error (.invalid cause) ↔
      cause = .unwritableCeiling ∧ IsUnwritablyBelow ceiling literal := by
  rw [number_value?_eq_error_iff]
  by_cases hbelow : IsUnwritablyBelow ceiling literal
  · rw [h.numberValue_of_unwritablyBelow hbelow]
    simp [hbelow, eq_comm]
  · refine iff_of_false (fun hinvalid => ?_) fun hand => hbelow hand.2
    obtain ⟨n, hok⟩ | ⟨limit, hover⟩ := h.numberValue_of_not_unwritablyBelow hbelow
    · cases hok.symm.trans hinvalid
    · cases hover.symm.trans hinvalid

/-- Digits that are not invalid have their value or overflow. -/
theorem number_value?_of_not_unwritablyBelow (h : IsDigitRun literal)
    (hnot : ¬IsUnwritablyBelow ceiling literal) :
    number.value? ceiling literal = .ok (some (.number (decimalValue literal))) ∨
      ∃ limit, number.value? ceiling literal = .error (.overflow literal limit) := by
  obtain ⟨n, hok⟩ | ⟨limit, hover⟩ := h.numberValue_of_not_unwritablyBelow hnot
  · obtain ⟨rfl, -, -⟩ := h.numberValue_eq_ok_iff.1 hok
    refine .inl ?_
    rw [value?, hok]
    rfl
  · exact .inr ⟨limit, number_value?_eq_error_iff.2 hover⟩

/-- No other kind than that of numbers refuses a text. -/
theorem eq_number_of_value?_error {kind : Kind} {raw : Text} {fault : ValueFault}
    (h : kind.value? ceiling raw = .error fault) : kind = number := by
  cases kind with
  | number => rfl
  | identifier | string | leftParen | rightParen | leftBracket | rightBracket | comma | add
  | divide => cases h

end Kind

/-! ## Runs -/

namespace Lexer

variable {lexer : Lexer} {kinds : List Kind} {source : Text}

/-- A run with standard rules is invalid where it comes to digits that are. -/
theorem run_invalid_iff (hrules : lexer.rules = kinds.map .standard) {cause : InvalidValue} :
    lexer.run source = .error (.invalid cause) ↔
      cause = .unwritableCeiling ∧ ∃ passed c rest tokens raw,
        lexer.Reaches source passed c rest tokens ∧
          FirstRule lexer.rules (c :: rest) .number raw ∧ IsUnwritablyBelow lexer.ceiling raw := by
  have hdigits {rest raw : Text} (hfirst : FirstRule lexer.rules rest .number raw) :
      IsDigitRun raw := by
    rw [hrules] at hfirst
    obtain ⟨-, hscan⟩ := hfirst.of_standard
    exact ⟨(leading?_eq_some hscan).2, leading?_all hscan⟩
  constructor
  · intro hrun
    have hends := lexer.run_ends source
    rw [hrun] at hends
    obtain ⟨passed, c, rest, tokens, hreaches,
      ⟨_, heq⟩ | ⟨kind, raw, fault, hfirst, hvalue, heq⟩⟩ := hends.fault_cases
    · cases heq
    · obtain rfl := Kind.eq_number_of_value?_error hvalue
      cases fault with
      | overflow => cases heq
      | invalid =>
        cases heq
        obtain ⟨hcause, hbelow⟩ := (Kind.number_value?_invalid_iff (hdigits hfirst)).1 hvalue
        exact ⟨hcause, passed, c, rest, tokens, raw, hreaches, hfirst, hbelow⟩
  · rintro ⟨rfl, passed, c, rest, tokens, raw, hreaches, hfirst, hbelow⟩
    have hvalue := (Kind.number_value?_invalid_iff (hdigits hfirst)).2 ⟨rfl, hbelow⟩
    exact (Ends.refused hreaches hfirst hvalue).run_eq

/-- A source of nothing but such digits is invalid as a whole. -/
theorem run_eq_invalid_of_digits (hrules : lexer.rules = kinds.map .standard)
    (hnumber : .number ∈ kinds) (hdigits : IsDigitRun source)
    (hbelow : IsUnwritablyBelow lexer.ceiling source) :
    lexer.run source = .error (.invalid .unwritableCeiling) := by
  have hscan : Kind.number.scan? source = some source := by
    have hall : Kind.number.scan? (source ++ []) = some source :=
      leading?_append hdigits.ne_nil hdigits.all_digit (by simp)
    rwa [List.append_nil] at hall
  obtain ⟨c, rest, rfl⟩ := List.exists_cons_of_ne_nil hdigits.ne_nil
  have hfirst : FirstRule lexer.rules (c :: rest) .number (c :: rest) :=
    hrules ▸ firstRule_standard_iff.2 ⟨hnumber, hscan⟩
  have hblank := hdigits.not_blank c (by simp)
  exact (run_invalid_iff hrules).2
    ⟨rfl, [], c, rest, [], _, ⟨rfl, .blanks (.of_head _ hblank), hblank⟩, hfirst, hbelow⟩

/-- A run of digits has its value, overflows, or is invalid, and it is invalid exactly if the ceiling
cannot be shown and is below all numbers with as many digits. A run with standard rules is invalid
exactly if it comes to such digits, so under a ceiling that can be shown every fault is one of the
input. -/
theorem run_digits (kinds : List Kind) (ceiling : Option Int) (snippetLength : Int) :
    (∀ literal, IsDigitRun literal →
      (IsUnwritablyBelow ceiling literal ∧
        Kind.number.value? ceiling literal = .error (.invalid .unwritableCeiling)) ∨
      (¬IsUnwritablyBelow ceiling literal ∧
        (Kind.number.value? ceiling literal = .ok (some (.number (decimalValue literal))) ∨
          ∃ limit, Kind.number.value? ceiling literal = .error (.overflow literal limit)))) ∧
    (∀ source cause,
      run ⟨kinds.map .standard, ceiling, snippetLength⟩ source = .error (.invalid cause) ↔
        cause = .unwritableCeiling ∧ ∃ passed c rest tokens raw,
          Reaches ⟨kinds.map .standard, ceiling, snippetLength⟩ source passed c rest tokens ∧
            FirstRule (kinds.map .standard) (c :: rest) .number raw ∧
            IsUnwritablyBelow ceiling raw) := by
  refine ⟨fun literal hrun => ?_, fun source cause => run_invalid_iff rfl⟩
  by_cases hbelow : IsUnwritablyBelow ceiling literal
  · exact .inl ⟨hbelow, (Kind.number_value?_invalid_iff hrun).2 ⟨rfl, hbelow⟩⟩
  · exact .inr ⟨hbelow, Kind.number_value?_of_not_unwritablyBelow hrun hbelow⟩

/-- A one with zeros behind it, two digits longer than can be converted, is above the least ceiling
that cannot be shown, and it is no overflow. -/
theorem run_digits_invalid :
    let literal := '1' :: List.replicate (digitLimit + 1) '0'
    IsDigitRun literal ∧
      Kind.number.value? (some (10 ^ digitLimit)) literal = .error (.invalid .unwritableCeiling) ∧
      run { ceiling := some (10 ^ digitLimit) } literal = .error (.invalid .unwritableCeiling) := by
  intro literal
  have hdigits : IsDigitRun literal := by
    refine ⟨List.cons_ne_nil _ _, List.forall_mem_cons.2 ⟨rfl, fun c hc => ?_⟩⟩
    rw [List.eq_of_mem_replicate hc]
    rfl
  have hbelow : IsUnwritablyBelow (some (10 ^ digitLimit)) literal := by
    refine ⟨_, rfl, ?_, ?_⟩
    · rw [← Bool.not_eq_true, isWritable_iff_bounds]
      exact fun h => lt_irrefl _ h.2
    · have hlength : (significantDigits literal).length - 1 = digitLimit + 1 := by
        rw [length_significantDigits, significantCount]
        simp [literal]
      rw [hlength]
      exact pow_lt_pow_right₀ (by norm_num) (Nat.lt_succ_self _)
  exact ⟨hdigits, (Kind.number_value?_invalid_iff hdigits).2 ⟨rfl, hbelow⟩,
    run_eq_invalid_of_digits rfl (Kind.mem_all _) hdigits hbelow⟩

end Lexer

end LispLex
