-- SUMMARY: Numbers are read back from their digits.
import LispLex.Proofs.Text
import LispLex.Proofs.Token.Number
import LispLex.Text.Quoted

/-!
# Written numbers

A number can be read back from its digits. In decimal its text is the only one without leading zeros;
in hexadecimal it is filled up to a fixed width, so the digits can be told from what follows them.
-/

namespace LispLex

/-! ## Digits of a base -/

theorem ofDigits_concat (base : Nat) (digits : List Nat) (digit : Nat) :
    ofDigits base (digits ++ [digit]) = ofDigits base digits * base + digit :=
  List.foldl_concat ..

section Base

variable {base : Nat} {digit? : Char → Option Nat}

/-- The digits of a number write the number. -/
theorem ofDigits_toDigits (hbase : 1 < base)
    (hdigit : ∀ digit < base, digit? digit.digitChar = some digit) (n : Nat) :
    ofDigits base ((Nat.toDigits base n).filterMap digit?) = n := by
  induction n using Nat.base_induction base hbase with
  | single n hn => simp [Nat.toDigits_of_lt_base hn, hdigit n hn, ofDigits]
  | digit n last hlast hn ih =>
    rw [← Nat.toDigits_append_toDigits hbase hn hlast, Nat.toDigits_of_lt_base hlast,
      List.filterMap_append, List.filterMap_cons_some (hdigit last hlast), List.filterMap_nil,
      ofDigits_concat, ih, Nat.mul_comm]

theorem isSome_of_mem_toDigits (hbase : 1 < base)
    (hdigit : ∀ digit < base, digit? digit.digitChar = some digit) {n : Nat} :
    ∀ c ∈ Nat.toDigits base n, (digit? c).isSome = true := by
  induction n using Nat.base_induction base hbase with
  | single n hn => simp [Nat.toDigits_of_lt_base hn, hdigit n hn]
  | digit n last hlast hn ih =>
    rw [← Nat.toDigits_append_toDigits hbase hn hlast, Nat.toDigits_of_lt_base hlast]
    refine List.forall_mem_append.2 ⟨ih, List.forall_mem_singleton.2 ?_⟩
    rw [hdigit last hlast]
    rfl

end Base

/-! ## Decimal texts -/

theorem asciiDigit?_digitChar : ∀ digit < 10, asciiDigit? digit.digitChar = some digit := by
  decide

theorem isDigitRun_decimal (n : Nat) : IsDigitRun (decimal n) where
  ne_nil := Nat.toDigits_ne_nil
  all_digit := isSome_of_mem_toDigits (by decide) asciiDigit?_digitChar

/-- A number is read back from its decimal text. -/
@[simp] theorem decimalValue_decimal (n : Nat) : decimalValue (decimal n) = n :=
  ofDigits_toDigits (by decide) asciiDigit?_digitChar n

theorem decimal_injective : Function.Injective decimal :=
  Function.LeftInverse.injective decimalValue_decimal

theorem digitChar_of_asciiDigit? {c : Char} {digit : Nat} (h : asciiDigit? c = some digit) :
    digit < 10 ∧ digit.digitChar = c := by
  simp only [asciiDigit?] at h
  split at h
  · next hrange =>
    cases h
    have hlow : '0'.toNat ≤ c.toNat := hrange.1
    have hhigh : c.toNat ≤ '9'.toNat := hrange.2
    have h0 : '0'.toNat = 48 := rfl
    have h9 : '9'.toNat = 57 := rfl
    have hlt : c.toNat - '0'.toNat < 10 := by omega
    refine ⟨hlt, Char.toNat_inj.1 ?_⟩
    rw [Nat.toNat_digitChar_of_lt_ten hlt]
    omega
  · cases h

theorem decimalValue_concat {c : Char} {digit : Nat} (h : asciiDigit? c = some digit) (text : Text) :
    decimalValue (text ++ [c]) = 10 * decimalValue text + digit := by
  rw [decimalValue, List.filterMap_append, List.filterMap_cons_some h, List.filterMap_nil,
    ofDigits_concat, Nat.mul_comm]
  rfl

/-- Digits that do not start with a zero are the decimal text of the number they write. -/
theorem decimal_decimalValue_cons {c : Char} {text : Text}
    (h : ∀ d ∈ c :: text, isAsciiDigit d = true) (hc : c ≠ '0') :
    decimal (decimalValue (c :: text)) = c :: text := by
  induction text using List.reverseRecOn with
  | nil =>
    obtain ⟨digit, hdigit⟩ := Option.isSome_iff_exists.1 (h c List.mem_cons_self)
    obtain ⟨hlt, hchar⟩ := digitChar_of_asciiDigit? hdigit
    have hvalue : decimalValue [c] = digit :=
      (decimalValue_concat hdigit []).trans (Nat.zero_add digit)
    rw [hvalue, decimal, Nat.toDigits_of_lt_base hlt, hchar]
  | append_singleton text d ih =>
    have hall : ∀ d ∈ c :: text, isAsciiDigit d = true :=
      fun d hd => h d (List.mem_append_left _ hd)
    obtain ⟨digit, hdigit⟩ := Option.isSome_iff_exists.1 (h d (by simp))
    obtain ⟨hlt, hchar⟩ := digitChar_of_asciiDigit? hdigit
    -- the digits before the last one write a number above zero, so they are all kept
    have hpos : 0 < decimalValue (c :: text) :=
      (Nat.pow_pos (by decide)).trans_le (le_decimalValue hall hc)
    rw [← List.cons_append, decimalValue_concat hdigit, decimal,
      ← Nat.toDigits_append_toDigits (by decide) hpos hlt, Nat.toDigits_of_lt_base hlt, hchar]
    exact congrArg (· ++ [d]) (ih hall)

/-- The decimal text of the number that digits write is those digits without leading zeros. -/
theorem IsDigitRun.decimal_decimalValue {text : Text} (h : IsDigitRun text) :
    decimal (decimalValue text) = significantDigits text := by
  rw [← decimalValue_significantDigits]
  have hfirst := head_dropWhile_not (· == '0') text
  have hall := h.all_significant
  unfold significantDigits
  cases hdrop : text.dropWhile (· == '0') with
  | nil => rfl
  | cons c rest =>
    rw [hdrop] at hfirst hall
    exact decimal_decimalValue_cons hall (by simpa using hfirst c rfl)

/-! ## Signed numbers -/

/-- No digit can be taken for a sign. -/
theorem decimal_ne_cons_minus (n : Nat) (rest : Text) : decimal n ≠ '-' :: rest := by
  intro h
  have hdigit := (isDigitRun_decimal n).all_digit '-' (by simp [h])
  cases hdigit

theorem signedDecimal_injective : Function.Injective signedDecimal := by
  intro a b h
  cases a with
  | ofNat a =>
    cases b with
    | ofNat b => exact congrArg Int.ofNat (decimal_injective h)
    | negSucc b => exact absurd h (decimal_ne_cons_minus a _)
  | negSucc a =>
    cases b with
    | ofNat b => exact absurd h.symm (decimal_ne_cons_minus b _)
    | negSucc b =>
      have hsucc : a + 1 = b + 1 := decimal_injective (List.cons.inj h).2
      rw [Nat.add_right_cancel hsucc]

/-! ## Hexadecimal texts -/

theorem hexadecimalDigit?_digitChar :
    ∀ digit < 16, hexadecimalDigit? digit.digitChar = some digit := by
  decide

theorem length_hexadecimal {width n : Nat} (hwidth : 0 < width) (hn : n < 16 ^ width) :
    (hexadecimal width n).length = width := by
  have hle := (Nat.length_toDigits_le_iff (by decide) hwidth).2 hn
  simp only [hexadecimal, List.length_append, List.length_replicate]
  omega

theorem isSome_of_mem_hexadecimal {width n : Nat} :
    ∀ c ∈ hexadecimal width n, (hexadecimalDigit? c).isSome = true := by
  refine List.forall_mem_append.2 ⟨?_, isSome_of_mem_toDigits (by decide) hexadecimalDigit?_digitChar⟩
  intro c hc
  rw [List.eq_of_mem_replicate hc]
  rfl

/-- The number that the hexadecimal digits among some characters write. -/
def hexadecimalValue (digits : Text) : Nat :=
  ofDigits 16 (digits.filterMap hexadecimalDigit?)

/-- Leading zeros do not count. -/
@[simp] theorem hexadecimalValue_hexadecimal (width n : Nat) :
    hexadecimalValue (hexadecimal width n) = n := by
  have hdigits : hexadecimalValue (Nat.toDigits 16 n) = n :=
    ofDigits_toDigits (by decide) hexadecimalDigit?_digitChar n
  rw [hexadecimal]
  induction width - (Nat.toDigits 16 n).length with
  | zero => exact hdigits
  | succ zeros ih =>
    have hzero : hexadecimalDigit? '0' = some 0 := rfl
    rw [List.replicate_succ, List.cons_append, hexadecimalValue, List.filterMap_cons_some hzero,
      ofDigits_cons, Nat.zero_mul, Nat.zero_add]
    exact ih

/-- The number that the next `count` characters write as hexadecimal digits, and the text behind them. -/
def takeHexadecimal? (count : Nat) (text : Text) : Option (Nat × Text) :=
  let digits := text.take count
  if digits.length = count ∧ digits.all fun c => (hexadecimalDigit? c).isSome then
    some (hexadecimalValue digits, text.drop count)
  else none

theorem takeHexadecimal?_hexadecimal {width n : Nat} (hwidth : 0 < width) (hn : n < 16 ^ width)
    (rest : Text) : takeHexadecimal? width (hexadecimal width n ++ rest) = some (n, rest) := by
  have hlength := length_hexadecimal hwidth hn
  have hall : (hexadecimal width n).all (fun c => (hexadecimalDigit? c).isSome) = true :=
    List.all_eq_true.2 isSome_of_mem_hexadecimal
  simp [takeHexadecimal?, List.take_left' hlength, List.drop_left' hlength, hlength, hall]

end LispLex
