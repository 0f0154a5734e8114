-- SUMMARY: Encoded texts are decoded back.
import LispLex.Text.Utf8
import Mathlib.Data.Nat.Basic

/-!
# Decoding what was encoded

The strict decoder takes the bytes of every text back to that text: the first byte of a character
announces its length and its leading bits, and each further byte is in the range that is expected and
adds six bits.
-/

namespace LispLex

variable {offset : Nat} {byte : UInt8} {bytes : Bytes} {n : Nat}

/-! ## First bytes -/

theorem utf8Lead?_one (h : n < 0x80) : utf8Lead? n = some { tails := 0, bits := n } :=
  if_pos h

theorem utf8Lead?_two (hlow : 0xc2 ≤ n) (hhigh : n < 0xe0) :
    utf8Lead? n = some { tails := 1, bits := n - 0xc0 } := by
  unfold utf8Lead?
  rw [if_neg (by omega), if_neg (by omega), if_pos hhigh]

/-- Three bytes are for characters from U+0800 on that are no surrogates. -/
theorem utf8Lead?_three (hlow : 0xe0 ≤ n) (hhigh : n < 0xf0) :
    utf8Lead? n = some
      { tails := 2, bits := n - 0xe0, low := if n = 0xe0 then 0xa0 else 0x80,
        high := if n = 0xed then 0x9f else 0xbf } := by
  unfold utf8Lead?
  rw [if_neg (by omega), if_neg (by omega), if_neg (by omega)]
  by_cases hfirst : n = 0xe0
  · subst hfirst
    rfl
  · by_cases hsurrogate : n = 0xed
    · subst hsurrogate
      rfl
    · rw [if_neg hfirst, if_neg hsurrogate, if_pos hhigh, if_neg hfirst, if_neg hsurrogate]

/-- Four bytes are for characters from U+10000 to U+10FFFF. -/
theorem utf8Lead?_four (hlow : 0xf0 ≤ n) (hhigh : n ≤ 0xf4) :
    utf8Lead? n = some
      { tails := 3, bits := n - 0xf0, low := if n = 0xf0 then 0x90 else 0x80,
        high := if n = 0xf4 then 0x8f else 0xbf } := by
  obtain rfl | rfl | rfl | rfl | rfl : n = 0xf0 ∨ n = 0xf1 ∨ n = 0xf2 ∨ n = 0xf3 ∨ n = 0xf4 := by
    omega
  all_goals rfl

/-! ## Single bytes -/

theorem decodeUtf8From_one (h : byte.toNat < 0x80) :
    decodeUtf8From none offset (byte :: bytes) =
      (decodeUtf8From none (offset + 1) bytes).map (Char.ofNat byte.toNat :: ·) := by
  simp only [decodeUtf8From, utf8Lead?_one h]

theorem decodeUtf8From_lead {later bits low high : Nat}
    (h : utf8Lead? byte.toNat = some ⟨later + 1, bits, low, high⟩) :
    decodeUtf8From none offset (byte :: bytes) =
      decodeUtf8From (some ⟨offset, byte.toNat, later, bits, low, high⟩) (offset + 1) bytes := by
  simp only [decodeUtf8From, h]

theorem decodeUtf8From_more {start first later bits low high : Nat} (hlow : low ≤ byte.toNat)
    (hhigh : byte.toNat ≤ high) :
    decodeUtf8From (some ⟨start, first, later + 1, bits, low, high⟩) offset (byte :: bytes) =
      decodeUtf8From (some ⟨start, first, later, bits * 64 + (byte.toNat - 0x80), 0x80, 0xbf⟩)
        (offset + 1) bytes := by
  simp only [decodeUtf8From]
  rw [if_neg (by omega)]

theorem decodeUtf8From_last {start first bits low high : Nat} (hlow : low ≤ byte.toNat)
    (hhigh : byte.toNat ≤ high) :
    decodeUtf8From (some ⟨start, first, 0, bits, low, high⟩) offset (byte :: bytes) =
      (decodeUtf8From none (offset + 1) bytes).map
        (Char.ofNat (bits * 64 + (byte.toNat - 0x80)) :: ·) := by
  simp only [decodeUtf8From]
  rw [if_neg (by omega)]

/-! ## Characters -/

theorem toNat_byte (h : n < 0x100) : (UInt8.ofNat n).toNat = n :=
  UInt8.toNat_ofNat_of_lt' h

/-- A byte behind the first one holds six bits. -/
theorem toNat_tail (n : Nat) : (UInt8.ofNat (n % 0x40 + 0x80)).toNat = n % 0x40 + 0x80 :=
  toNat_byte (by omega)

theorem decodeUtf8From_two (hlow : 0x7f < n) (hhigh : n ≤ 0x7ff) :
    decodeUtf8From none offset
        (UInt8.ofNat (n / 64 % 0x20 + 0xc0) :: UInt8.ofNat (n % 0x40 + 0x80) :: bytes) =
      (decodeUtf8From none (offset + 2) bytes).map (Char.ofNat n :: ·) := by
  have hlead : (UInt8.ofNat (n / 64 % 0x20 + 0xc0)).toNat = n / 64 + 0xc0 := by
    rw [toNat_byte (by omega)]
    omega
  have htail := toNat_tail n
  have hbits : (n / 64 + 0xc0 - 0xc0) * 64 + (n % 0x40 + 0x80 - 0x80) = n := by omega
  rw [decodeUtf8From_lead (utf8Lead?_two (by omega) (by omega)),
    decodeUtf8From_last (by omega) (by omega), hlead, htail, hbits]

theorem decodeUtf8From_three (hlow : 0x7ff < n) (hhigh : n ≤ 0xffff)
    (hvalid : n < 0xd800 ∨ 0xdfff < n) :
    decodeUtf8From none offset
        (UInt8.ofNat (n / 4096 % 0x10 + 0xe0) :: UInt8.ofNat (n / 64 % 0x40 + 0x80) ::
          UInt8.ofNat (n % 0x40 + 0x80) :: bytes) =
      (decodeUtf8From none (offset + 3) bytes).map (Char.ofNat n :: ·) := by
  have hlead : (UInt8.ofNat (n / 4096 % 0x10 + 0xe0)).toNat = n / 4096 + 0xe0 := by
    rw [toNat_byte (by omega)]
    omega
  have hsecond := toNat_tail (n / 64)
  have hthird := toNat_tail n
  have hbits : ((n / 4096 + 0xe0 - 0xe0) * 64 + (n / 64 % 0x40 + 0x80 - 0x80)) * 64 +
      (n % 0x40 + 0x80 - 0x80) = n := by omega
  rw [decodeUtf8From_lead (utf8Lead?_three (by omega) (by omega)),
    decodeUtf8From_more (by split <;> omega) (by split <;> omega),
    decodeUtf8From_last (by omega) (by omega), hlead, hsecond, hthird, hbits]

theorem decodeUtf8From_four (hlow : 0xffff < n) (hhigh : n < 0x110000) :
    decodeUtf8From none offset
        (UInt8.ofNat (n / 262144 % 0x08 + 0xf0) :: UInt8.ofNat (n / 4096 % 0x40 + 0x80) ::
          UInt8.ofNat (n / 64 % 0x40 + 0x80) :: UInt8.ofNat (n % 0x40 + 0x80) :: bytes) =
      (decodeUtf8From none (offset + 4) bytes).map (Char.ofNat n :: ·) := by
  have hlead : (UInt8.ofNat (n / 262144 % 0x08 + 0xf0)).toNat = n / 262144 + 0xf0 := by
    rw [toNat_byte (by omega)]
    omega
  have hsecond := toNat_tail (n / 4096)
  have hthird := toNat_tail (n / 64)
  have hfourth := toNat_tail n
  have hbits : (((n / 262144 + 0xf0 - 0xf0) * 64 + (n / 4096 % 0x40 + 0x80 - 0x80)) * 64 +
      (n / 64 % 0x40 + 0x80 - 0x80)) * 64 + (n % 0x40 + 0x80 - 0x80) = n := by omega
  rw [decodeUtf8From_lead (utf8Lead?_four (by omega) (by omega)),
    decodeUtf8From_more (by split <;> omega) (by split <;> omega),
    decodeUtf8From_more (by omega) (by omega), decodeUtf8From_last (by omega) (by omega), hlead,
    hsecond, hthird, hfourth, hbits]

/-- The bytes of a character are decoded to that character. -/
theorem decodeUtf8From_encodeChar (offset : Nat) (c : Char) (bytes : Bytes) :
    ∃ further, decodeUtf8From none offset (String.utf8EncodeChar c ++ bytes) =
      (decodeUtf8From none further bytes).map (c :: ·) := by
  have hvalid : c.toNat < 0xd800 ∨ 0xdfff < c.toNat ∧ c.toNat < 0x110000 := c.valid
  obtain ⟨n, hn⟩ : ∃ n, n = c.toNat := ⟨_, rfl⟩
  have hc : Char.ofNat n = c := by rw [hn, Char.ofNat_toNat]
  rw [← hn] at hvalid
  simp only [String.utf8EncodeChar, show c.val.toNat = n from hn.symm]
  rw [← hc]
  split
  · next hone =>
    have hbyte := toNat_byte (show n < 0x100 by omega)
    refine ⟨offset + 1, ?_⟩
    rw [List.singleton_append, decodeUtf8From_one (by omega), hbyte]
  · next htwo =>
    split
    · next hhigh => exact ⟨offset + 2, decodeUtf8From_two (by omega) hhigh⟩
    · next hthree =>
      split
      · next hhigh => exact ⟨offset + 3, decodeUtf8From_three (by omega) hhigh (by omega)⟩
      · next hfour => exact ⟨offset + 4, decodeUtf8From_four (by omega) (by omega)⟩

/-- Decoding undoes encoding. -/
theorem decodeUtf8_encodeUtf8 (text : Text) : decodeUtf8 (encodeUtf8 text) = .ok text := by
  suffices h : ∀ offset, decodeUtf8From none offset (encodeUtf8 text) = .ok text from h 0
  induction text with
  | nil => exact fun offset => rfl
  | cons c text ih =>
    intro offset
    obtain ⟨further, hchar⟩ := decodeUtf8From_encodeChar offset c (encodeUtf8 text)
    rw [encodeUtf8, List.flatMap_cons]
    refine hchar.trans ?_
    rw [ih]
    rfl

end LispLex
