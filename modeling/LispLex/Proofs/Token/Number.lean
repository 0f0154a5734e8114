-- SUMMARY: Significant digits, ceilings, and what a run of digits comes to.
import LispLex.Token.Value
import Mathlib.Algebra.Order.Ring.Int
import Mathlib.Data.List.Basic
import Mathlib.Tactic.Ring

/-!
# Numbers and their digits

A number literal is refused after a look at how many digits it has, before its value is known. That
is the same as comparing its value: a number with `n` significant digits lies between two powers of
ten.
-/

namespace LispLex

/-! ## Values of digits -/

theorem foldl_digits (base n : Nat) (digits : List Nat) :
    digits.foldl (fun n digit => n * base + digit) n =
      n * base ^ digits.length + ofDigits base digits := by
  induction digits generalizing n with
  | nil => simp [ofDigits]
  | cons digit digits ih =>
    simp only [ofDigits, List.foldl_cons, List.length_cons] at ih ⊢
    rw [ih, ih (0 * base + digit)]
    ring

theorem ofDigits_cons (base digit : Nat) (digits : List Nat) :
    ofDigits base (digit :: digits) = digit * base ^ digits.length + ofDigits base digits := by
  rw [ofDigits, List.foldl_cons, foldl_digits]
  simp

theorem ofDigits_lt {base : Nat} {digits : List Nat} (h : ∀ digit ∈ digits, digit < base) :
    ofDigits base digits < base ^ digits.length := by
  induction digits with
  | nil => simp [ofDigits]
  | cons digit digits ih =>
    have hdigit : digit + 1 ≤ base := h digit (by simp)
    have hrest := ih fun other hother => h other (by simp [hother])
    calc ofDigits base (digit :: digits)
        = digit * base ^ digits.length + ofDigits base digits := ofDigits_cons base digit digits
      _ < (digit + 1) * base ^ digits.length := by rw [Nat.add_mul, Nat.one_mul]; omega
      _ ≤ base * base ^ digits.length := Nat.mul_le_mul_right _ hdigit
      _ = base ^ (digit :: digits).length := by rw [List.length_cons, Nat.pow_succ']

/-! ## Runs of ASCII digits -/

/-- A non-empty run of ASCII digits. -/
structure IsDigitRun (text : Text) : Prop where
  ne_nil : text ≠ []
  all_digit : ∀ c ∈ text, isAsciiDigit c = true

theorem asciiDigit?_of_isAsciiDigit {c : Char} (hc : isAsciiDigit c = true) :
    ∃ digit < 10, asciiDigit? c = some digit ∧ (digit = 0 → c = '0') := by
  simp only [isAsciiDigit, asciiDigit?] at hc ⊢
  split at hc
  · next hrange =>
    have hlow : '0'.toNat ≤ c.toNat := hrange.1
    have hhigh : c.toNat ≤ '9'.toNat := hrange.2
    have h0 : '0'.toNat = 48 := rfl
    have h9 : '9'.toNat = 57 := rfl
    refine ⟨c.toNat - '0'.toNat, by omega, by simp [hrange], fun hzero => ?_⟩
    exact Char.toNat_inj.1 (by omega)
  · cases hc

theorem length_digits {text : Text} (h : ∀ c ∈ text, isAsciiDigit c = true) :
    (text.filterMap asciiDigit?).length = text.length := by
  induction text with
  | nil => rfl
  | cons c text ih =>
    obtain ⟨digit, -, hdigit, -⟩ := asciiDigit?_of_isAsciiDigit (h c (by simp))
    simp [hdigit, ih fun other hother => h other (by simp [hother])]

theorem decimalValue_lt {text : Text} (h : ∀ c ∈ text, isAsciiDigit c = true) :
    decimalValue text < 10 ^ text.length := by
  rw [← length_digits h]
  refine ofDigits_lt fun digit hmem => ?_
  obtain ⟨c, hc, hdigit⟩ := List.mem_filterMap.1 hmem
  obtain ⟨other, hlt, hother, -⟩ := asciiDigit?_of_isAsciiDigit (h c hc)
  cases hdigit.symm.trans hother
  exact hlt

theorem le_decimalValue {c : Char} {text : Text} (h : ∀ d ∈ c :: text, isAsciiDigit d = true)
    (hc : c ≠ '0') : 10 ^ text.length ≤ decimalValue (c :: text) := by
  obtain ⟨digit, -, hdigit, hzero⟩ := asciiDigit?_of_isAsciiDigit (h c (by simp))
  have hpos : 1 ≤ digit := Nat.pos_of_ne_zero fun heq => hc (hzero heq)
  have hlength := length_digits fun d hd => h d (List.mem_cons_of_mem c hd)
  rw [decimalValue, List.filterMap_cons_some hdigit, ofDigits_cons, hlength]
  have := Nat.mul_le_mul_right (10 ^ text.length) hpos
  omega

/-! ## Leading zeros -/

theorem decimalValue_dropZeros (text : Text) :
    decimalValue (text.dropWhile (· == '0')) = decimalValue text := by
  induction text with
  | nil => rfl
  | cons c text ih =>
    by_cases hc : c = '0'
    · subst hc
      have hzero : decimalValue ('0' :: text) = decimalValue text := by
        rw [decimalValue, List.filterMap_cons_some (show asciiDigit? '0' = some 0 from rfl),
          ofDigits_cons]
        simp [decimalValue]
      simp [ih, hzero]
    · simp [hc]

/-- How many digits are left without leading zeros; none are left of zero. -/
def significantCount (text : Text) : Nat :=
  (text.dropWhile (· == '0')).length

theorem length_significantDigits (text : Text) :
    (significantDigits text).length = max 1 (significantCount text) := by
  unfold significantDigits significantCount
  split
  · next hnil => simp [hnil]
  · next hne =>
    have hpos := List.length_pos_iff.2 hne
    omega

namespace IsDigitRun

variable {text : Text}

theorem all_significant (h : IsDigitRun text) :
    ∀ c ∈ text.dropWhile (· == '0'), isAsciiDigit c = true :=
  fun c hc => h.all_digit c ((List.dropWhile_suffix _).subset hc)

theorem decimalValue_lt (h : IsDigitRun text) : decimalValue text < 10 ^ significantCount text := by
  rw [← decimalValue_dropZeros]
  exact LispLex.decimalValue_lt h.all_significant

theorem le_decimalValue (h : IsDigitRun text) {count : Nat}
    (hcount : significantCount text = count + 1) : 10 ^ count ≤ decimalValue text := by
  rw [← decimalValue_dropZeros]
  have hall := h.all_significant
  have hfirst := List.head?_dropWhile_not (· == '0') text
  unfold significantCount at hcount
  cases hdrop : text.dropWhile (· == '0') with
  | nil => simp [hdrop] at hcount
  | cons c rest =>
    simp only [hdrop, List.length_cons, Nat.add_right_cancel_iff] at hcount
    rw [hdrop] at hall hfirst
    rw [← hcount]
    exact LispLex.le_decimalValue hall (by simpa using hfirst)

end IsDigitRun

/-! ## Number extraction -/

/-- A ceiling below the powers of ten that can be shown at all. -/
def IsModerate (ceiling : Option Int) : Prop :=
  ∀ m ∈ ceiling, m < 10 ^ digitLimit

/-- The digits of a literal write a number that is too large. -/
def IsTooLarge (ceiling : Option Int) (literal : Text) : Prop :=
  match ceiling with
  | some m => m < decimalValue literal
  | none => digitLimit < significantCount literal

instance (ceiling : Option Int) (literal : Text) : Decidable (IsTooLarge ceiling literal) :=
  match ceiling with
  | some m => inferInstanceAs (Decidable (m < decimalValue literal))
  | none => inferInstanceAs (Decidable (digitLimit < significantCount literal))

theorem isModerate_of_lt_pow {m : Int} {count : Nat} (hcount : count ≤ digitLimit)
    (hm : m < 10 ^ count) : IsModerate (some m) := by
  intro other hother
  cases hother
  exact hm.trans_le (pow_le_pow_right₀ (by norm_num) hcount)

theorem isModerate_standardCeiling : IsModerate (some standardCeiling) :=
  isModerate_of_lt_pow (show 19 ≤ digitLimit by decide) (by decide)

theorem isWritable_iff {n : Int} : isWritable n = true ↔ n.natAbs < 10 ^ digitLimit := by
  simp only [isWritable, Nat.pow_eq, decide_eq_true_eq]

/-- A number can be shown if it lies between two powers of ten. -/
theorem isWritable_iff_bounds {n : Int} :
    isWritable n = true ↔ -10 ^ digitLimit < n ∧ n < 10 ^ digitLimit := by
  rw [isWritable_iff]
  -- the power itself is never evaluated
  obtain ⟨bound, hbound⟩ : ∃ bound : Nat, bound = 10 ^ digitLimit := ⟨_, rfl⟩
  have hcast : (10 : Int) ^ digitLimit = bound := by rw [hbound, Nat.cast_pow, Nat.cast_ofNat]
  rw [hcast, ← hbound]
  omega

theorem isWritable_zero : isWritable 0 = true :=
  isWritable_iff.2 (Nat.pow_pos (by decide))

theorem isModerate_of_neg {m : Int} (hm : m < 0) : IsModerate (some m) := by
  intro other hother
  cases hother
  exact hm.trans (pow_pos (by decide) _)

theorem neg_pow_digitLimit_neg : (-10 ^ digitLimit : Int) < 0 :=
  neg_lt_zero.2 (pow_pos (by decide) _)

/-- The greatest of the ceilings below zero that cannot be shown. -/
theorem not_isWritable_neg_pow : isWritable (-10 ^ digitLimit) = false := by
  rw [← Bool.not_eq_true, isWritable_iff_bounds]
  exact fun h => lt_irrefl _ h.1

/-- A fault that would have to show such a ceiling cannot be said. -/
theorem overflowOf_of_not_isWritable {m : Int} (h : isWritable m = false) (literal : Text) :
    ValueFault.overflowOf literal (some m) = .invalid .unwritableCeiling := by
  refine if_neg ?_
  rw [Option.all_some, h]
  exact Bool.false_ne_true

/-- If the lower ceiling can be shown in a fault, so can the higher one. -/
theorem overflowOf_of_le {low : Int} {high : Option Int} (hlow : isWritable low = true)
    (hhigh : IsModerate high) (hle : ∀ m ∈ high, low ≤ m) (literal : Text) :
    ValueFault.overflowOf literal high = .overflow literal high := by
  refine if_pos ?_
  cases high with
  | none => rfl
  | some m =>
    rw [isWritable_iff_bounds] at hlow
    rw [Option.all_some, isWritable_iff_bounds]
    exact ⟨hlow.1.trans_le (hle m rfl), hhigh m rfl⟩

theorem decimalValue_significantDigits (text : Text) :
    decimalValue (significantDigits text) = decimalValue text := by
  rw [← decimalValue_dropZeros text]
  unfold significantDigits
  split
  · next hnil => rw [hnil]; rfl
  · rfl

theorem isDigitRun_iff {literal : Text} :
    IsDigitRun literal ↔ ¬ (literal = [] ∨ (!literal.all isAsciiDigit) = true) := by
  simp only [not_or, Bool.not_eq_true', Bool.not_eq_false, List.all_eq_true]
  constructor
  · intro h
    exact ⟨h.ne_nil, h.all_digit⟩
  · rintro ⟨hne, hall⟩
    exact ⟨hne, hall⟩

theorem numberValue_of_not_run {ceiling : Option Int} {literal : Text}
    (h : ¬ IsDigitRun literal) :
    numberValue ceiling literal = .error (.invalid (.malformedNumber literal)) := by
  rw [isDigitRun_iff, not_not] at h
  exact if_pos h

theorem isBelowLength_iff {m : Int} {count : Nat} :
    isBelowLength m count = true ↔ 1 < count ∧ m < 10 ^ (count - 1) := by
  simp only [isBelowLength, Bool.and_eq_true, decide_eq_true_eq]
  exact Iff.rfl

/-- The digit limit does not bear on the digit that is left of zero. -/
theorem digitLimit_lt_max (count : Nat) : digitLimit < max 1 count ↔ digitLimit < count := by
  have hlimit : 1 ≤ digitLimit := by decide
  omega

namespace IsDigitRun

variable {literal : Text}

theorem numberValue_none (h : IsDigitRun literal) :
    numberValue none literal =
      if digitLimit < significantCount literal then .error (.overflowOf literal none)
      else .ok (decimalValue literal) := by
  simp only [numberValue, if_neg (isDigitRun_iff.1 h), length_significantDigits,
    decimalValue_significantDigits, digitLimit_lt_max]

theorem numberValue_some (h : IsDigitRun literal) (m : Int) :
    numberValue (some m) literal =
      if isBelowLength m (max 1 (significantCount literal)) then
        .error (.overflowOf literal (some m))
      else if digitLimit < significantCount literal then .error (.overflowOf literal none)
      else if m < decimalValue literal then .error (.overflowOf literal (some m))
      else .ok (decimalValue literal) := by
  simp only [numberValue, if_neg (isDigitRun_iff.1 h), length_significantDigits,
    decimalValue_significantDigits, digitLimit_lt_max]

/-- Digits are refused for being too many or writing too large a number only. -/
theorem exists_overflowOf {ceiling : Option Int} {fault : ValueFault} (h : IsDigitRun literal)
    (hfault : numberValue ceiling literal = .error fault) :
    ∃ limit, fault = .overflowOf literal limit ∧ (limit = ceiling ∨ limit = none) := by
  cases ceiling with
  | none =>
    rw [h.numberValue_none] at hfault
    split at hfault
    · exact ⟨none, (Except.error.inj hfault).symm, .inr rfl⟩
    · cases hfault
  | some m =>
    rw [h.numberValue_some] at hfault
    split at hfault
    · exact ⟨some m, (Except.error.inj hfault).symm, .inl rfl⟩
    split at hfault
    · exact ⟨none, (Except.error.inj hfault).symm, .inr rfl⟩
    split at hfault
    · exact ⟨some m, (Except.error.inj hfault).symm, .inl rfl⟩
    · cases hfault

/-- A ceiling that the number of digits alone exceeds is below the value. -/
theorem lt_of_isBelowLength (h : IsDigitRun literal) {m : Int}
    (hbelow : isBelowLength m (max 1 (significantCount literal)) = true) :
    m < decimalValue literal := by
  obtain ⟨hmany, hlt⟩ := isBelowLength_iff.1 hbelow
  obtain ⟨count, hcount⟩ : ∃ count, significantCount literal = count + 1 :=
    ⟨significantCount literal - 1, by omega⟩
  have hle : (10 : Int) ^ count ≤ decimalValue literal := by
    exact_mod_cast h.le_decimalValue hcount
  have hlength : max 1 (significantCount literal) - 1 = count := by omega
  rw [hlength] at hlt
  exact hlt.trans_le hle

/-- Under a ceiling that can be shown, a number with more digits than can be converted is too large
by its number of digits alone. -/
theorem isBelowLength_of_digitLimit_lt {m : Int} (hm : m < 10 ^ digitLimit)
    (hmany : digitLimit < significantCount literal) :
    isBelowLength m (max 1 (significantCount literal)) = true := by
  have hlimit : 1 ≤ digitLimit := by decide
  have hle : digitLimit ≤ max 1 (significantCount literal) - 1 := by omega
  have hpow : (10 : Int) ^ digitLimit ≤ 10 ^ (max 1 (significantCount literal) - 1) :=
    pow_le_pow_right₀ (by norm_num) hle
  exact isBelowLength_iff.2 ⟨by omega, hm.trans_le hpow⟩

/-- Under a ceiling that can be shown, what counts is the value alone. -/
theorem numberValue_moderate (h : IsDigitRun literal) {ceiling : Option Int}
    (hceiling : IsModerate ceiling) :
    numberValue ceiling literal =
      if IsTooLarge ceiling literal then .error (.overflowOf literal ceiling)
      else .ok (decimalValue literal) := by
  cases ceiling with
  | none => exact h.numberValue_none
  | some m =>
    rw [h.numberValue_some]
    cases hbelow : isBelowLength m (max 1 (significantCount literal)) with
    | true =>
      have hlarge : IsTooLarge (some m) literal := h.lt_of_isBelowLength hbelow
      rw [if_pos rfl, if_pos hlarge]
    | false =>
      have hfew : ¬ digitLimit < significantCount literal := by
        intro hmany
        rw [isBelowLength_of_digitLimit_lt (hceiling m rfl) hmany] at hbelow
        cases hbelow
      rw [if_neg Bool.false_ne_true, if_neg hfew]
      rfl

/-- A literal has a value exactly if that is at most the ceiling and can be converted. -/
theorem numberValue_eq_ok_iff (h : IsDigitRun literal) {ceiling : Option Int} {n : Nat} :
    numberValue ceiling literal = .ok n ↔
      n = decimalValue literal ∧ (∀ m ∈ ceiling, decimalValue literal ≤ m) ∧
        significantCount literal ≤ digitLimit := by
  cases ceiling with
  | none =>
    rw [h.numberValue_none]
    split
    · next hmany => simp [hmany]
    · next hfew => simp [Nat.le_of_not_lt hfew, eq_comm]
  | some m =>
    rw [h.numberValue_some]
    split
    · next hbelow =>
      have hlt := h.lt_of_isBelowLength hbelow
      simp [hlt]
    · split
      · next hmany => simp [hmany]
      · next hfew =>
        split
        · next hlt => simp [hlt]
        · next hle => simp [Int.not_lt.1 hle, Nat.le_of_not_lt hfew, eq_comm]

end IsDigitRun

theorem isDigitRun_of_numberValue {ceiling : Option Int} {literal : Text} {n : Nat}
    (h : numberValue ceiling literal = .ok n) : IsDigitRun literal := by
  by_contra hnot
  rw [numberValue_of_not_run hnot] at h
  cases h

/-! ## Values of number tokens -/

theorem Kind.numberValue_of_value?_ok {ceiling : Option Int} {literal : Text} {value : Option Value}
    (h : number.value? ceiling literal = .ok value) :
    ∃ n, numberValue ceiling literal = .ok n ∧ value = some (.number n) := by
  rw [value?] at h
  cases hnumber : numberValue ceiling literal with
  | error fault =>
    rw [hnumber] at h
    cases h
  | ok n =>
    rw [hnumber] at h
    cases h
    exact ⟨n, rfl, rfl⟩

theorem Kind.numberValue_of_value?_error {ceiling : Option Int} {literal : Text} {fault : ValueFault}
    (h : number.value? ceiling literal = .error fault) :
    numberValue ceiling literal = .error fault := by
  rw [value?] at h
  cases hnumber : numberValue ceiling literal with
  | error fault =>
    rw [hnumber] at h
    cases h
    rfl
  | ok n =>
    rw [hnumber] at h
    cases h

end LispLex
