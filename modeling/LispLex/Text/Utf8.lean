-- SUMMARY: UTF-8 encoding, and strict decoding with its faults.
import LispLex.Text
import LispLex.Text.Quoted

/-!
# UTF-8

Texts as bytes and back. Decoding is strict: overlong forms, surrogates and numbers beyond U+10FFFF
are refused at the first byte that cannot belong to a character, and the fault says which bytes are
to blame.
-/

namespace LispLex

abbrev Bytes := List UInt8

def encodeUtf8 (text : Text) : Bytes :=
  text.flatMap String.utf8EncodeChar

-- ---------------------------------------------------------------------------
-- Faults
-- ---------------------------------------------------------------------------

inductive Utf8Cause where
  | invalidStart
  | invalidContinuation
  | unexpectedEnd
  deriving DecidableEq, Repr

def Utf8Cause.message : Utf8Cause → Text
  | .invalidStart => "invalid start byte".toList
  | .invalidContinuation => "invalid continuation byte".toList
  | .unexpectedEnd => "unexpected end of data".toList

/-- The bytes from `start` to before `stop` are no character. -/
structure Utf8Fault where
  start : Nat
  stop : Nat
  /-- The byte at `start`. -/
  first : Nat
  cause : Utf8Cause
  deriving DecidableEq, Repr

def Utf8Fault.message (fault : Utf8Fault) : Text :=
  "'utf-8' codec can't decode ".toList ++
    (if fault.stop = fault.start + 1 then
      "byte 0x".toList ++ hexadecimal 2 fault.first ++ " in position ".toList ++
        decimal fault.start
    else
      "bytes in position ".toList ++ decimal fault.start ++ ['-'] ++ decimal (fault.stop - 1)) ++
    [':', ' '] ++ fault.cause.message

-- ---------------------------------------------------------------------------
-- Decoding
-- ---------------------------------------------------------------------------

/-- What a first byte announces: how many bytes follow, the bits it holds itself, and the range of
the byte after it. -/
structure Utf8Lead where
  tails : Nat
  bits : Nat
  low : Nat := 0x80
  high : Nat := 0xbf

def utf8Lead? (byte : Nat) : Option Utf8Lead :=
  if byte < 0x80 then some { tails := 0, bits := byte }
  else if byte < 0xc2 then none
  else if byte < 0xe0 then some { tails := 1, bits := byte - 0xc0 }
  else if byte = 0xe0 then some { tails := 2, bits := 0, low := 0xa0 }
  else if byte = 0xed then some { tails := 2, bits := 0xd, high := 0x9f }
  else if byte < 0xf0 then some { tails := 2, bits := byte - 0xe0 }
  else if byte = 0xf0 then some { tails := 3, bits := 0, low := 0x90 }
  else if byte < 0xf4 then some { tails := 3, bits := byte - 0xf0 }
  else if byte = 0xf4 then some { tails := 3, bits := 4, high := 0x8f }
  else none

/-- A character of which some bytes are still to come. -/
structure Utf8Pending where
  /-- Where the character starts, and its first byte. -/
  start : Nat
  first : Nat
  /-- How many bytes are missing, not counting the next one. -/
  later : Nat
  bits : Nat
  /-- The range of the next byte. -/
  low : Nat
  high : Nat

/-- Decodes the bytes from `offset` on, after the start of a character if one is pending. -/
def decodeUtf8From : Option Utf8Pending → (offset : Nat) → Bytes → Except Utf8Fault Text
  | none, _, [] => .ok []
  | some pending, offset, [] => .error ⟨pending.start, offset, pending.first, .unexpectedEnd⟩
  | none, offset, byte :: bytes =>
    match utf8Lead? byte.toNat with
    | none => .error ⟨offset, offset + 1, byte.toNat, .invalidStart⟩
    | some ⟨0, bits, _, _⟩ => (decodeUtf8From none (offset + 1) bytes).map (Char.ofNat bits :: ·)
    | some ⟨later + 1, bits, low, high⟩ =>
      decodeUtf8From (some ⟨offset, byte.toNat, later, bits, low, high⟩) (offset + 1) bytes
  | some pending, offset, byte :: bytes =>
    if byte.toNat < pending.low ∨ pending.high < byte.toNat then
      .error ⟨pending.start, offset, pending.first, .invalidContinuation⟩
    else
      let bits := pending.bits * 64 + (byte.toNat - 0x80)
      match pending.later with
      | 0 => (decodeUtf8From none (offset + 1) bytes).map (Char.ofNat bits :: ·)
      | later + 1 =>
        let pending := { pending with later, bits, low := 0x80, high := 0xbf }
        decodeUtf8From (some pending) (offset + 1) bytes

def decodeUtf8 (bytes : Bytes) : Except Utf8Fault Text :=
  decodeUtf8From none 0 bytes

end LispLex
