-- SUMMARY: Strings and numbers of JSON texts are read back.
import LispLex.Proofs.Json.Reader

/-!
# Reading strings and numbers back

A string is read back character by character: each escaped form tells its character and where it ends.
A number is read back if what follows does not go on with it.
-/

namespace LispLex.Json

/-! ## Characters -/

theorem readUnit?_unitEscape {unit : Nat} (h : unit < 0x10000) (rest : Text) :
    readUnit? (unitEscape unit ++ rest) = some (unit, rest) :=
  takeHexadecimal?_hexadecimal (by decide) h rest

theorem readCharacter?_unitEscape (unit : Nat) (rest : Text) :
    readCharacter? (unitEscape unit ++ rest) = readNumbered? (unitEscape unit ++ rest) := by
  rw [unitEscape, List.cons_append, List.cons_append, readCharacter?]

/-- No character is a surrogate. -/
theorem not_surrogate (c : Char) :
    isHighSurrogate c.toNat = false ∧ isLowSurrogate c.toNat = false := by
  have hvalid : c.toNat < 0xd800 ∨ 0xdfff < c.toNat ∧ c.toNat < 0x110000 := c.valid
  simp only [isHighSurrogate, isLowSurrogate, Bool.and_eq_false_iff, decide_eq_false_iff_not]
  omega

theorem readNumbered?_unit {c : Char} (hc : c.toNat < 0x10000) (rest : Text) :
    readNumbered? (unitEscape c.toNat ++ rest) = some (c, rest) := by
  obtain ⟨hhigh, hlow⟩ := not_surrogate c
  simp [readNumbered?, readUnit?_unitEscape hc, hhigh, hlow]

theorem joined_surrogates {c : Char} (hc : 0x10000 ≤ c.toNat) :
    joined (0xd800 + (c.toNat - 0x10000) / 0x400) (0xdc00 + (c.toNat - 0x10000) % 0x400) = c := by
  have hnumber : 0x10000 + (c.toNat - 0x10000) / 0x400 * 0x400 + (c.toNat - 0x10000) % 0x400 =
      c.toNat := by
    omega
  rw [joined, Nat.add_sub_cancel_left, Nat.add_sub_cancel_left, hnumber, Char.ofNat_toNat]

/-- The two code units of a character beyond U+FFFF are a high and a low surrogate. -/
theorem readNumbered?_pair {c : Char} (hc : 0x10000 ≤ c.toNat) (rest : Text) :
    readNumbered? (unitEscape (0xd800 + (c.toNat - 0x10000) / 0x400) ++
      (unitEscape (0xdc00 + (c.toNat - 0x10000) % 0x400) ++ rest)) = some (c, rest) := by
  have hvalid : c.toNat < 0xd800 ∨ 0xdfff < c.toNat ∧ c.toNat < 0x110000 := c.valid
  have hjoined := joined_surrogates hc
  -- the bounds are all that is needed of the two units from here on
  obtain ⟨high, hhigh⟩ : ∃ high, high = 0xd800 + (c.toNat - 0x10000) / 0x400 := ⟨_, rfl⟩
  obtain ⟨low, hlow⟩ : ∃ low, low = 0xdc00 + (c.toNat - 0x10000) % 0x400 := ⟨_, rfl⟩
  have hisHigh : isHighSurrogate high = true := by
    simp only [isHighSurrogate, Bool.and_eq_true, decide_eq_true_eq]
    omega
  have hisLow : isLowSurrogate low = true := by
    simp only [isLowSurrogate, Bool.and_eq_true, decide_eq_true_eq]
    omega
  rw [← hhigh, ← hlow] at hjoined ⊢
  simp [readNumbered?, readUnit?_unitEscape (show high < 0x10000 by omega),
    readUnit?_unitEscape (show low < 0x10000 by omega), hisHigh, hisLow, hjoined]

theorem readCharacter?_plain {c : Char} (hc : c ≠ '\\') (hquote : c ≠ '"') (hlow : ' ' ≤ c)
    (rest : Text) : readCharacter? (c :: rest) = some (c, rest) := by
  have hcontrol : ¬c < ' ' := Char.not_lt.2 hlow
  unfold readCharacter?
  split
  · next h => cases h
  · next h =>
    cases h
    exact absurd rfl hc
  · next h =>
    cases h
    exact absurd rfl hc
  · next h =>
    cases h
    exact absurd rfl hc
  · next h =>
    cases h
    simp [hquote, hcontrol]

/-- A character is read back from its escaped form. -/
theorem readCharacter?_escapedChar (c : Char) (rest : Text) :
    readCharacter? (escapedChar c ++ rest) = some (c, rest) := by
  unfold escapedChar
  split
  · next hspecial =>
    simp only [Bool.or_eq_true, beq_iff_eq] at hspecial
    rcases hspecial with rfl | rfl <;> rfl
  next hspecial =>
  split
  · next hc => rw [beq_iff_eq.1 hc]; rfl
  split
  · next hc => rw [beq_iff_eq.1 hc]; rfl
  split
  · next hc => rw [beq_iff_eq.1 hc]; rfl
  split
  · next hc => rw [beq_iff_eq.1 hc]; rfl
  split
  · next hc => rw [beq_iff_eq.1 hc]; rfl
  split
  · next hplain =>
    simp only [Bool.or_eq_true, beq_iff_eq, not_or] at hspecial
    simp only [Bool.and_eq_true, decide_eq_true_eq] at hplain
    exact readCharacter?_plain hspecial.2 hspecial.1 hplain.1 rest
  split
  · next hlt => rw [readCharacter?_unitEscape, readNumbered?_unit hlt]
  · next hge =>
    rw [List.append_assoc, readCharacter?_unitEscape, readNumbered?_pair (Nat.le_of_not_lt hge)]

/-! ## Strings -/

/-- What reads as a character of a string does not end the string. -/
theorem head_ne_quote_of_readCharacter? {input rest : Text} {c : Char}
    (h : readCharacter? input = some (c, rest)) : input.head? ≠ some '"' := by
  intro hquote
  obtain ⟨tail, rfl⟩ := List.head?_eq_some_iff.1 hquote
  cases h

theorem readCharacters?_escaped (content : Text) {budget : Nat} (hbudget : content.length < budget)
    (rest : Text) :
    readCharacters? budget (content.flatMap escapedChar ++ '"' :: rest) = some (content, rest) := by
  induction content generalizing budget with
  | nil =>
    cases budget with
    | zero => cases hbudget
    | succ budget => rfl
  | cons c content ih =>
    cases budget with
    | zero => cases hbudget
    | succ budget =>
      have hread := readCharacter?_escapedChar c (content.flatMap escapedChar ++ '"' :: rest)
      have hrest := ih (Nat.lt_of_succ_lt_succ hbudget)
      rw [List.flatMap_cons, List.append_assoc, readCharacters?,
        if_neg (head_ne_quote_of_readCharacter? hread), hread]
      simp [hrest]

theorem escapedChar_ne_nil (c : Char) : escapedChar c ≠ [] := by
  intro hnil
  have hread := readCharacter?_escapedChar c []
  rw [hnil] at hread
  cases hread

theorem length_le_flatMap_escapedChar (content : Text) :
    content.length ≤ (content.flatMap escapedChar).length := by
  induction content with
  | nil => exact Nat.le_refl _
  | cons c content ih =>
    have hpos := List.length_pos_iff.2 (escapedChar_ne_nil c)
    rw [List.flatMap_cons, List.length_append, List.length_cons]
    omega

/-- A string is read back. -/
theorem readString?_string (content rest : Text) :
    readString? (string content ++ rest) = some (content, rest) := by
  have hlength := length_le_flatMap_escapedChar content
  have hform : string content ++ rest = '"' :: (content.flatMap escapedChar ++ '"' :: rest) := by
    simp [string]
  rw [hform, readString?, readCharacters?_escaped]
  simp only [List.length_append, List.length_cons]
  omega

/-! ## Numbers -/

theorem significantDigits_decimal (n : Nat) : significantDigits (decimal n) = decimal n := by
  rw [← (isDigitRun_decimal n).decimal_decimalValue, decimalValue_decimal]

theorem readNatural?_decimal (n : Nat) {rest : Text} (hrest : EndsNumber rest) :
    readNatural? (decimal n ++ rest) = some (n, rest) := by
  have hdigits := (isDigitRun_decimal n).all_digit
  have htake : (decimal n ++ rest).takeWhile isAsciiDigit = decimal n :=
    takeWhile_append_of_head hdigits fun c hc => (hrest c hc).1
  have hdrop : (decimal n ++ rest).dropWhile isAsciiDigit = rest := by
    have hparts := List.takeWhile_append_dropWhile (p := isAsciiDigit) (l := decimal n ++ rest)
    rw [htake] at hparts
    exact List.append_cancel_left hparts
  simp [readNatural?, htake, hdrop, significantDigits_decimal, hrest]

theorem readNumber?_of_head {c : Char} (hc : c ≠ '-') (rest : Text) :
    readNumber? (c :: rest) = (readNatural? (c :: rest)).map fun (n, rest) => (↑n, rest) := by
  unfold readNumber?
  split
  · next h =>
    cases h
    exact absurd rfl hc
  · rfl

/-- A number is read back if no digit, fraction or exponent follows. -/
theorem readNumber?_signedDecimal (n : Int) {rest : Text} (hrest : EndsNumber rest) :
    readNumber? (signedDecimal n ++ rest) = some (n, rest) := by
  cases n with
  | ofNat n =>
    have hread := readNatural?_decimal n hrest
    obtain ⟨c, digits, hdecimal⟩ := List.exists_cons_of_ne_nil (isDigitRun_decimal n).ne_nil
    have hc : c ≠ '-' := fun hminus => decimal_ne_cons_minus n digits (hminus ▸ hdecimal)
    rw [hdecimal, List.cons_append] at hread
    rw [signedDecimal, hdecimal, List.cons_append, readNumber?_of_head hc, hread]
    rfl
  | negSucc n =>
    have hread := readNatural?_decimal (n + 1) hrest
    rw [signedDecimal, List.cons_append, readNumber?, hread]
    rfl

end LispLex.Json
