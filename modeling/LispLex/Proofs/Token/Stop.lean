-- SUMMARY: Exchange of the text behind a token.
import LispLex.Proofs.Token.Number
import LispLex.Proofs.Token.Scanner

/-!
# Where tokens stop

Of what follows a token, only two things matter to where it stops: whether the next character
continues it and, for a string, whether another quote is on the line. So what follows can be
exchanged for any text that goes on as before, or with a blank, and brings no quote of its own.
-/

namespace LispLex

/-- A token that stops before `rest` stops before `other` as well: `other` goes on as `rest` does or
with a blank, if at all, and it has a quote on its first line only if `rest` has one there. -/
structure StopsLike (rest other : Text) : Prop where
  head : ∀ c ∈ other.head?, c ∈ rest.head? ∨ isBlank c = true
  quote : '"' ∈ other.takeWhile (· != '\n') → '"' ∈ rest.takeWhile (· != '\n')

namespace StopsLike

variable {rest other : Text}

theorem nil (rest : Text) : StopsLike rest [] where
  head := by simp
  quote := by simp

/-- Texts that stop tokens alike do so behind the same text as well. -/
theorem append_left (text : Text) (h : StopsLike rest other) :
    StopsLike (text ++ rest) (text ++ other) where
  head := by
    cases text with
    | nil => exact h.head
    | cons c text => exact fun d hd => .inl hd
  quote hquote := by
    rw [mem_takeWhile_append] at hquote ⊢
    exact hquote.imp_right (And.imp_right h.quote)

/-- Blanks stop every token, and no quote is among them. -/
theorem of_blanks {blanks : Text} (h : ∀ c ∈ blanks, isBlank c = true) (rest : Text) :
    StopsLike rest (blanks ++ rest) where
  head := by
    cases blanks with
    | nil => exact fun c hc => .inl hc
    | cons b blanks =>
      intro c hc
      cases hc
      exact .inr (h b (by simp))
  quote hquote := by
    rw [mem_takeWhile_append] at hquote
    rcases hquote with hblank | ⟨-, hrest⟩
    · cases h '"' (List.takeWhile_subset _ hblank)
    · exact hrest

/-- If no blank passes the test, a stretch that stops before `rest` stops before `other`. -/
theorem head_not (h : StopsLike rest other) {test : Char → Bool}
    (hblank : ∀ c, isBlank c = true → test c = false) (hrest : ∀ c ∈ rest.head?, test c = false) :
    ∀ c ∈ other.head?, test c = false := by
  intro c hc
  rcases h.head c hc with hc | hc
  · exact hrest c hc
  · exact hblank c hc

end StopsLike

namespace Kind

theorem isAsciiDigit_of_blank {c : Char} (h : isBlank c = true) : isAsciiDigit c = false := by
  rcases isBlank_iff.1 h with rfl | rfl | rfl | rfl <;> rfl

theorem isAlpha_of_blank {c : Char} (h : isBlank c = true) : c.isAlpha = false := by
  rcases isBlank_iff.1 h with rfl | rfl | rfl | rfl <;> rfl

/-- What a kind takes does not change with what follows, as long as it stops there. -/
theorem scan?_exchange {kind : Kind} {raw rest other : Text}
    (h : kind.scan? (raw ++ rest) = some raw) (hstops : StopsLike rest other) :
    kind.scan? (raw ++ other) = some raw := by
  cases kind with
  | number =>
    exact leading?_append (leading?_eq_some h).2 (leading?_all h)
      (hstops.head_not (fun _ => isAsciiDigit_of_blank) (leading?_ends h))
  | identifier =>
    exact leading?_append (leading?_eq_some h).2 (leading?_all h)
      (hstops.head_not (fun _ => isAlpha_of_blank) (leading?_ends h))
  | string =>
    obtain ⟨body, after, htext, rfl, hbody, hquote⟩ := quotedStretch?_eq_some h
    have hrest : rest = after := by simpa using htext
    subst hrest
    simpa [scan?] using quotedStretch?_append hbody (mt hstops.quote hquote)
  | leftParen | rightParen | leftBracket | rightBracket | comma | add | divide =>
    obtain ⟨-, rfl⟩ := (scan?_mark_iff rfl).1 h
    rfl

end Kind

theorem IsDigitRun.not_blank {text : Text} (h : IsDigitRun text) : ∀ c ∈ text, isBlank c = false := by
  intro c hc
  cases hblank : isBlank c with
  | false => rfl
  | true => cases (h.all_digit c hc).symm.trans (Kind.isAsciiDigit_of_blank hblank)

theorem FirstRule.exchange {kinds : List Kind} {raw rest other : Text} {kind : Kind}
    (h : FirstRule (kinds.map .standard) (raw ++ rest) kind raw) (hstops : StopsLike rest other) :
    FirstRule (kinds.map .standard) (raw ++ other) kind raw := by
  obtain ⟨hkind, hscan⟩ := firstRule_standard_iff.1 h
  exact firstRule_standard_iff.2 ⟨hkind, Kind.scan?_exchange hscan hstops⟩

end LispLex
