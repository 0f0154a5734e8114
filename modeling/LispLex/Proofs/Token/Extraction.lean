-- SUMMARY: Specification of number extraction under ceilings below the powers of ten that can be shown.
import LispLex.Proofs.Text.Digits

/-!
# Extracting numbers

What a number literal comes to, under every ceiling below the powers of ten that can be shown: its
value if that is not above the ceiling, else an overflow. How the literal is checked, first by the
number of its digits and then by its value, cannot be told from the outside, and neither can zeros at
its start.
-/

namespace LispLex

variable {ceiling : Option Int} {literal : Text}

/-! ## Zeros before a literal -/

theorem dropZeros_zeros_append (zeros : Nat) (literal : Text) :
    (List.replicate zeros '0' ++ literal).dropWhile (· == '0') = literal.dropWhile (· == '0') :=
  List.dropWhile_append_of_pos fun c hc => by simp [List.eq_of_mem_replicate hc]

theorem decimalValue_zeros_append (zeros : Nat) (literal : Text) :
    decimalValue (List.replicate zeros '0' ++ literal) = decimalValue literal := by
  rw [← decimalValue_dropZeros, dropZeros_zeros_append, decimalValue_dropZeros]

theorem isTooLarge_zeros_append (zeros : Nat) :
    IsTooLarge ceiling (List.replicate zeros '0' ++ literal) ↔ IsTooLarge ceiling literal := by
  cases ceiling with
  | none => simp only [IsTooLarge, significantCount, dropZeros_zeros_append]
  | some m => simp only [IsTooLarge, decimalValue_zeros_append]

theorem IsDigitRun.zeros_append (h : IsDigitRun literal) (zeros : Nat) :
    IsDigitRun (List.replicate zeros '0' ++ literal) where
  ne_nil := List.append_ne_nil_of_right_ne_nil _ h.ne_nil
  all_digit := by
    refine List.forall_mem_append.2 ⟨fun c hc => ?_, h.all_digit⟩
    rw [List.eq_of_mem_replicate hc]
    rfl

/-! ## Faults -/

/-- The ceiling is so far below zero that it cannot be shown. -/
def IsUnwritable (ceiling : Option Int) : Prop :=
  ∃ m ∈ ceiling, m ≤ -10 ^ digitLimit

theorem IsModerate.all_isWritable_iff (h : IsModerate ceiling) :
    ceiling.all isWritable = true ↔ ¬IsUnwritable ceiling := by
  cases ceiling with
  | none => simp [IsUnwritable]
  | some m =>
    have hupper := h m rfl
    simp [IsUnwritable, isWritable_iff_bounds, hupper]

theorem overflowOf_of_writable (h : IsModerate ceiling) (hwritable : ¬IsUnwritable ceiling)
    (literal : Text) : ValueFault.overflowOf literal ceiling = .overflow literal ceiling :=
  if_pos (h.all_isWritable_iff.2 hwritable)

theorem overflowOf_of_unwritable (h : IsModerate ceiling) (hunwritable : IsUnwritable ceiling)
    (literal : Text) :
    ValueFault.overflowOf literal ceiling = .invalid .unwritableCeiling :=
  if_neg fun hall => h.all_isWritable_iff.1 hall hunwritable

/-- Every number is above such a ceiling. -/
theorem IsUnwritable.isTooLarge (h : IsUnwritable ceiling) (literal : Text) :
    IsTooLarge ceiling literal := by
  obtain ⟨m, hm, hlow⟩ := h
  cases hm
  exact (hlow.trans_lt neg_pow_digitLimit_neg).trans_le (Int.natCast_nonneg _)

/-! ## Extraction -/

namespace Kind

theorem number_value?_of_not_run (h : ¬IsDigitRun literal) :
    number.value? ceiling literal = .error (.invalid (.malformedNumber literal)) := by
  rw [value?, numberValue_of_not_run h]
  rfl

theorem number_value?_of_fits (hceiling : IsModerate ceiling) (h : IsDigitRun literal)
    (hfits : ¬IsTooLarge ceiling literal) :
    number.value? ceiling literal = .ok (some (.number (decimalValue literal))) := by
  rw [value?, h.numberValue_moderate hceiling, if_neg hfits]
  rfl

theorem number_value?_of_tooLarge (hceiling : IsModerate ceiling) (h : IsDigitRun literal)
    (hlarge : IsTooLarge ceiling literal) :
    number.value? ceiling literal = .error (.overflowOf literal ceiling) := by
  rw [value?, h.numberValue_moderate hceiling, if_pos hlarge]
  rfl

/-- A literal is invalid if it is no run of digits, and whatever it is if the ceiling cannot be
shown. -/
theorem number_invalid_iff (hceiling : IsModerate ceiling) :
    (∃ cause, number.value? ceiling literal = .error (.invalid cause)) ↔
      ¬IsDigitRun literal ∨ IsUnwritable ceiling := by
  by_cases hrun : IsDigitRun literal
  · by_cases hunwritable : IsUnwritable ceiling
    · have hlarge := number_value?_of_tooLarge hceiling hrun (hunwritable.isTooLarge literal)
      rw [overflowOf_of_unwritable hceiling hunwritable] at hlarge
      exact iff_of_true ⟨_, hlarge⟩ (.inr hunwritable)
    · refine iff_of_false ?_ (by simp [hrun, hunwritable])
      rintro ⟨cause, hinvalid⟩
      by_cases hlarge : IsTooLarge ceiling literal
      · rw [number_value?_of_tooLarge hceiling hrun hlarge,
          overflowOf_of_writable hceiling hunwritable] at hinvalid
        cases hinvalid
      · rw [number_value?_of_fits hceiling hrun hlarge] at hinvalid
        cases hinvalid
  · exact iff_of_true ⟨_, number_value?_of_not_run hrun⟩ (.inl hrun)

theorem number_value?_zeros_append (hceiling : IsModerate ceiling) (h : IsDigitRun literal)
    (zeros : Nat) :
    (number.value? ceiling (List.replicate zeros '0' ++ literal)).toOption =
      (number.value? ceiling literal).toOption := by
  have hzeros := h.zeros_append zeros
  by_cases hlarge : IsTooLarge ceiling literal
  · rw [number_value?_of_tooLarge hceiling h hlarge,
      number_value?_of_tooLarge hceiling hzeros ((isTooLarge_zeros_append zeros).2 hlarge)]
    rfl
  · rw [number_value?_of_fits hceiling h hlarge, number_value?_of_fits hceiling hzeros
      (mt (isTooLarge_zeros_append zeros).1 hlarge), decimalValue_zeros_append]

/-- What a literal comes to under a ceiling below the powers of ten that can be shown. It is invalid
exactly if it is no run of digits or the ceiling is too far below zero to be shown. Otherwise it comes
to its value up to the ceiling and overflows above it; without a ceiling, the number of its digits
decides. The digits of the value are those of the literal without zeros at the start, and no zeros
there make a difference. -/
theorem number_extraction (hceiling : IsModerate ceiling) (literal : Text) :
    ((∃ cause, number.value? ceiling literal = .error (.invalid cause)) ↔
      ¬IsDigitRun literal ∨ IsUnwritable ceiling) ∧
    (IsDigitRun literal → ¬IsUnwritable ceiling →
      (∀ m, ceiling = some m →
        (decimalValue literal ≤ m →
          number.value? ceiling literal = .ok (some (.number (decimalValue literal)))) ∧
        (m < decimalValue literal →
          number.value? ceiling literal = .error (.overflow literal (some m)))) ∧
      (ceiling = none →
        ((significantDigits literal).length ≤ digitLimit →
          number.value? ceiling literal = .ok (some (.number (decimalValue literal)))) ∧
        (digitLimit < (significantDigits literal).length →
          number.value? ceiling literal = .error (.overflow literal none)))) ∧
    (IsDigitRun literal →
      decimal (decimalValue literal) = significantDigits literal ∧
      ∀ zeros, (number.value? ceiling (List.replicate zeros '0' ++ literal)).toOption =
        (number.value? ceiling literal).toOption) := by
  refine ⟨number_invalid_iff hceiling, fun hrun hwritable => ?_, fun hrun => ?_⟩
  · have hlarge (h : IsTooLarge ceiling literal) :
        number.value? ceiling literal = .error (.overflow literal ceiling) := by
      rw [number_value?_of_tooLarge hceiling hrun h, overflowOf_of_writable hceiling hwritable]
    constructor
    · rintro m rfl
      exact ⟨fun hle => number_value?_of_fits hceiling hrun (Int.not_lt.2 hle), hlarge⟩
    · rintro rfl
      rw [length_significantDigits]
      refine ⟨fun hle => number_value?_of_fits hceiling hrun fun hmany => ?_, fun hmany => ?_⟩
      · exact absurd ((digitLimit_lt_max _).2 hmany) (Nat.not_lt.2 hle)
      · exact hlarge ((digitLimit_lt_max _).1 hmany)
  · exact ⟨hrun.decimal_decimalValue, number_value?_zeros_append hceiling hrun⟩

/-- Under a negative ceiling even zero overflows. -/
theorem number_extraction_negative :
    IsModerate (some (-5)) ∧ IsDigitRun "000".toList ∧ ¬IsUnwritable (some (-5)) ∧
      number.value? (some (-5)) "000".toList = .error (.overflow "000".toList (some (-5))) ∧
      decimal (decimalValue "000".toList) = ['0'] := by
  have hceiling : IsModerate (some (-5)) :=
    isModerate_of_lt_pow (show 1 ≤ digitLimit by decide) (by decide)
  have hrun : IsDigitRun "000".toList := ⟨by decide, List.all_eq_true.1 rfl⟩
  have hwritable : ¬IsUnwritable (some (-5)) :=
    hceiling.all_isWritable_iff.1 (by decide +kernel)
  obtain ⟨-, houtcome, hdigits⟩ := number_extraction hceiling "000".toList
  refine ⟨hceiling, hrun, hwritable, ?_, (hdigits hrun).1⟩
  exact ((houtcome hrun hwritable).1 _ rfl).2 (by decide)

/-- Zero is above a ceiling that cannot be shown, but it is no overflow. -/
theorem number_zero_unwritable :
    IsModerate (some (-10 ^ digitLimit)) ∧ IsDigitRun ['0'] ∧
      (-10 ^ digitLimit : Int) < decimalValue ['0'] ∧
      number.value? (some (-10 ^ digitLimit)) ['0'] = .error (.invalid .unwritableCeiling) := by
  have hceiling : IsModerate (some (-10 ^ digitLimit)) := isModerate_of_neg neg_pow_digitLimit_neg
  have hunwritable : IsUnwritable (some (-10 ^ digitLimit)) := ⟨_, rfl, le_rfl⟩
  have hrun : IsDigitRun ['0'] := ⟨by decide, List.all_eq_true.1 rfl⟩
  have hlarge := hunwritable.isTooLarge ['0']
  refine ⟨hceiling, hrun, hlarge, ?_⟩
  rw [number_value?_of_tooLarge hceiling hrun hlarge, overflowOf_of_unwritable hceiling hunwritable]

end Kind

end LispLex
