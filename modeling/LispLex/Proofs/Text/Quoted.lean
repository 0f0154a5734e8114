-- SUMMARY: Quoted texts are read back and stay on one line.
import LispLex.Proofs.Text.BrokenLines
import LispLex.Proofs.Text.Digits

/-!
# Reading quoted texts

Every character that breaks a line is escaped in a quoted text, so the text stays on one line. No
character is lost either: each escape says which character it stands for and where it ends, so
different texts have different quoted forms.
-/

namespace LispLex

/-! ## Line breaks -/

theorem not_isPrintable_of_isLineBreak {c : Char} (h : isLineBreak c = true) :
    isPrintable c = false := by
  simp only [isLineBreak, decide_eq_true_eq, List.mem_cons, List.not_mem_nil, or_false] at h
  rcases h with rfl | rfl | rfl | rfl | rfl | rfl | rfl | rfl | rfl | rfl <;> decide +kernel

theorem not_isLineBreak_of_isPrintable {c : Char} (h : isPrintable c = true) :
    isLineBreak c = false := by
  cases hbreak : isLineBreak c with
  | false => rfl
  | true => cases h.symm.trans (not_isPrintable_of_isLineBreak hbreak)

theorem not_isLineBreak_of_isSome_hexadecimalDigit? {c : Char}
    (h : (hexadecimalDigit? c).isSome = true) : isLineBreak c = false := by
  cases hbreak : isLineBreak c with
  | false => rfl
  | true =>
    simp only [isLineBreak, decide_eq_true_eq, List.mem_cons, List.not_mem_nil, or_false] at hbreak
    rcases hbreak with rfl | rfl | rfl | rfl | rfl | rfl | rfl | rfl | rfl | rfl <;> cases h

theorem unbroken_hexadecimal (width n : Nat) : Unbroken (hexadecimal width n) :=
  fun c hc => not_isLineBreak_of_isSome_hexadecimalDigit? (isSome_of_mem_hexadecimal c hc)

theorem IsDigitRun.unbroken {text : Text} (h : IsDigitRun text) : Unbroken text := by
  intro c hc
  have hdigit : (asciiDigit? c).isSome = true := h.all_digit c hc
  exact not_isLineBreak_of_isSome_hexadecimalDigit? (by simp [hexadecimalDigit?, hdigit])

theorem unbroken_decimal (n : Nat) : Unbroken (decimal n) :=
  (isDigitRun_decimal n).unbroken

theorem unbroken_signedDecimal (n : Int) : Unbroken (signedDecimal n) := by
  cases n with
  | ofNat n => exact unbroken_decimal n
  | negSucc n => exact .cons rfl (unbroken_decimal (n + 1))

/-! ## Forms of a character -/

def IsQuote (quote : Char) : Prop :=
  quote = '\'' ∨ quote = '"'

theorem isQuote_quoteFor (text : Text) : IsQuote (quoteFor text) := by
  unfold quoteFor IsQuote
  split <;> simp

theorem IsQuote.not_isLineBreak {quote : Char} (h : IsQuote quote) : isLineBreak quote = false := by
  rcases h with rfl | rfl <;> rfl

/-- The escapes that name a character. -/
def namedEscapes : List (Char × Char) :=
  [('t', '\t'), ('n', '\n'), ('r', '\r')]

/-- The escapes that number a character, with the count of their hexadecimal digits. -/
def numberedEscapes : List (Char × Nat) :=
  [('x', 2), ('u', 4), ('U', 8)]

/-- The forms that a character may have between quotes. -/
inductive IsEscape (quote c : Char) : Text → Prop
  | marked (special : c = quote ∨ c = '\\') : IsEscape quote c ['\\', c]
  | named {name : Char} (escape : (name, c) ∈ namedEscapes) : IsEscape quote c ['\\', name]
  | plain (printable : isPrintable c = true) (noBackslash : c ≠ '\\') : IsEscape quote c [c]
  | numbered {name : Char} {width : Nat} (escape : (name, width) ∈ numberedEscapes)
      (fits : c.toNat < 16 ^ width) :
      IsEscape quote c ('\\' :: name :: hexadecimal width c.toNat)

theorem toNat_lt (c : Char) : c.toNat < 16 ^ 8 := by
  rcases c.valid with h | h
  · exact h.trans (by decide)
  · exact h.2.trans (by decide)

theorem isEscape_escaped (quote c : Char) : IsEscape quote c (escaped quote c) := by
  unfold escaped
  split
  · next hspecial => exact .marked (by simpa using hspecial)
  next hspecial =>
  split
  · next hc => exact .named (by simp [namedEscapes, beq_iff_eq.1 hc])
  split
  · next hc => exact .named (by simp [namedEscapes, beq_iff_eq.1 hc])
  split
  · next hc => exact .named (by simp [namedEscapes, beq_iff_eq.1 hc])
  split
  · next hprintable => exact .plain hprintable (by simp_all)
  split
  · next hlt => exact .numbered (by simp [numberedEscapes]) hlt
  split
  · next hlt => exact .numbered (by simp [numberedEscapes]) hlt
  · exact .numbered (by simp [numberedEscapes]) (toNat_lt c)

theorem IsEscape.ne_nil {quote c : Char} {form : Text} (h : IsEscape quote c form) : form ≠ [] := by
  cases h <;> simp

theorem IsEscape.unbroken {quote c : Char} {form : Text} (hquote : IsQuote quote)
    (h : IsEscape quote c form) : Unbroken form := by
  have hbackslash : isLineBreak '\\' = false := rfl
  cases h with
  | marked special =>
    refine .cons hbackslash (.cons ?_ .nil)
    rcases special with rfl | rfl
    · exact hquote.not_isLineBreak
    · exact hbackslash
  | named escape =>
    refine .cons hbackslash (.cons ?_ .nil)
    simp only [namedEscapes, List.mem_cons, Prod.mk.injEq, List.not_mem_nil, or_false] at escape
    rcases escape with ⟨rfl, -⟩ | ⟨rfl, -⟩ | ⟨rfl, -⟩ <;> rfl
  | plain printable => exact .cons (not_isLineBreak_of_isPrintable printable) .nil
  | numbered escape =>
    refine .cons hbackslash (.cons ?_ (unbroken_hexadecimal _ _))
    simp only [numberedEscapes, List.mem_cons, Prod.mk.injEq, List.not_mem_nil, or_false] at escape
    rcases escape with ⟨rfl, -⟩ | ⟨rfl, -⟩ | ⟨rfl, -⟩ <;> rfl

theorem unbroken_quoted (text : Text) : Unbroken (quoted text) := by
  have hquote := isQuote_quoteFor text
  have hends : Unbroken [quoteFor text] := .cons hquote.not_isLineBreak .nil
  refine .append (.append hends ?_) hends
  intro d hd
  obtain ⟨c, -, hc⟩ := List.mem_flatMap.1 hd
  exact (isEscape_escaped _ c).unbroken hquote d hc

/-! ## Reading escapes -/

/-- The first character that a text stands for which is escaped, and what is left of it. -/
def readEscaped? : Text → Option (Char × Text)
  | [] => none
  | '\\' :: c :: rest =>
    match numberedEscapes.lookup c with
    | some width => (takeHexadecimal? width rest).map fun (n, rest) => (Char.ofNat n, rest)
    | none => some ((namedEscapes.lookup c).getD c, rest)
  | c :: rest => some (c, rest)

theorem readEscaped?_cons {c : Char} (hc : c ≠ '\\') (rest : Text) :
    readEscaped? (c :: rest) = some (c, rest) := by
  unfold readEscaped?
  split
  · next h => cases h
  · next h =>
    cases h
    exact absurd rfl hc
  · next h =>
    cases h
    rfl

/-- A form of a character tells the character and where the form ends. -/
theorem IsEscape.read {quote c : Char} {form : Text} (hquote : IsQuote quote)
    (h : IsEscape quote c form) (rest : Text) : readEscaped? (form ++ rest) = some (c, rest) := by
  cases h with
  | marked special =>
    rcases special with rfl | rfl
    · rcases hquote with rfl | rfl <;> rfl
    · rfl
  | named escape =>
    simp only [namedEscapes, List.mem_cons, Prod.mk.injEq, List.not_mem_nil, or_false] at escape
    rcases escape with ⟨rfl, rfl⟩ | ⟨rfl, rfl⟩ | ⟨rfl, rfl⟩ <;> rfl
  | plain _ noBackslash => exact readEscaped?_cons noBackslash rest
  | @numbered name width escape fits =>
    have hlookup : numberedEscapes.lookup name = some width ∧ 0 < width := by
      simp only [numberedEscapes, List.mem_cons, Prod.mk.injEq, List.not_mem_nil, or_false] at escape
      rcases escape with ⟨rfl, rfl⟩ | ⟨rfl, rfl⟩ | ⟨rfl, rfl⟩ <;> exact ⟨rfl, by decide⟩
    simp [readEscaped?, hlookup.1, takeHexadecimal?_hexadecimal hlookup.2 fits]

/-- Texts that are escaped alike are the same. -/
theorem flatMap_escaped_injective {quote : Char} (hquote : IsQuote quote) :
    Function.Injective fun text : Text => text.flatMap (escaped quote) := by
  intro text
  induction text with
  | nil =>
    intro other h
    cases other with
    | nil => rfl
    | cons d other =>
      simp [(isEscape_escaped _ _).ne_nil] at h
  | cons c text ih =>
    intro other h
    cases other with
    | nil => simp [(isEscape_escaped _ _).ne_nil] at h
    | cons d other =>
      have hread := congrArg readEscaped? h
      simp only [List.flatMap_cons, (isEscape_escaped quote _).read hquote, Option.some.injEq,
        Prod.mk.injEq] at hread
      rw [hread.1, ih hread.2]

/-- Different texts have different quoted forms. -/
theorem quoted_injective : Function.Injective quoted := by
  intro a b h
  simp only [quoted, List.cons_append, List.cons.injEq] at h
  obtain ⟨hquote, hbody⟩ := h
  rw [hquote] at hbody
  exact flatMap_escaped_injective (isQuote_quoteFor b) (List.append_cancel_right hbody)

end LispLex
