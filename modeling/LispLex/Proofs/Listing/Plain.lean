-- SUMMARY: What can be read off a plain listing, and which listings are equal.
import LispLex.Listing.Plain
import LispLex.Proofs.Rule.Table
import LispLex.Proofs.Run.Decomposition
import LispLex.Proofs.Text.Quoted
import Mathlib.Data.List.Forall2

/-!
# Reading plain listings

A plain listing has one line for each token, whatever characters the token's value has in it. Where
the token starts, its kind and its value can be read off that line: the place ends at the first blank,
the kind's name at the next one, and the kind tells whether a number or a quoted text follows.
-/

namespace LispLex

/-! ## Values of a kind -/

/-- The value is of the sort that tokens of the kind carry. -/
def Kind.Carries : Kind → Option Value → Prop
  | number, value => ∃ n, value = some (.number n)
  | string, value | identifier, value => ∃ content, value = some (.text content)
  | _, value => value = none

theorem Kind.carries_of_value? {ceiling : Option Int} {kind : Kind} {raw : Text}
    {value : Option Value} (h : kind.value? ceiling raw = .ok value) : kind.Carries value := by
  cases kind with
  | number =>
    obtain ⟨n, -, rfl⟩ := numberValue_of_value?_ok h
    exact ⟨n, rfl⟩
  | string | identifier =>
    cases h
    exact ⟨_, rfl⟩
  | leftParen | rightParen | leftBracket | rightBracket | comma | add | divide =>
    cases h
    rfl

/-! ## The parts of a line -/

/-- A number ends where its digits end. -/
theorem decimal_append_inj {c : Char} (hc : isAsciiDigit c = false) {m n : Nat} {rest rest' : Text}
    (h : decimal m ++ c :: rest = decimal n ++ c :: rest') : m = n ∧ rest = rest' := by
  obtain ⟨hdecimal, hrest⟩ := append_inj_of_stretch (isDigitRun_decimal m).all_digit
    (by simp [hc]) (isDigitRun_decimal n).all_digit (by simp [hc]) h
  exact ⟨decimal_injective hdecimal, List.tail_eq_of_cons_eq hrest⟩

theorem Kind.name_no_blank (kind : Kind) : ∀ c ∈ kind.name.toList, (c != ' ') = true := by
  cases kind <;> exact List.all_eq_true.1 rfl

theorem Kind.unbroken_name (kind : Kind) : Unbroken kind.name.toList := by
  cases kind <;> decide

/-- What a listing shows behind the name of a kind. -/
def Kind.shownTail (kind : Kind) (value : Option Value) : Text :=
  if kind.hasValue then ' ' :: shownValue value else []

theorem Kind.head_shownTail (kind : Kind) (value : Option Value) :
    ∀ c ∈ (kind.shownTail value).head?, (c != ' ') = false := by
  unfold shownTail
  split <;> simp

theorem unbroken_shown (value : Value) : Unbroken value.shown := by
  cases value with
  | number n => exact unbroken_signedDecimal n
  | text content => exact unbroken_quoted content

theorem Kind.unbroken_shownTail (kind : Kind) (value : Option Value) :
    Unbroken (kind.shownTail value) := by
  unfold shownTail
  split
  · refine .cons rfl ?_
    cases value with
    | none => exact (by decide : Unbroken "None".toList)
    | some value => exact unbroken_shown value
  · exact .nil

/-- A kind that carries a value shows it in full. -/
theorem Kind.Carries.shownTail_inj {kind : Kind} {value value' : Option Value}
    (h : kind.Carries value) (h' : kind.Carries value')
    (heq : kind.shownTail value = kind.shownTail value') : value = value' := by
  cases kind with
  | number =>
    obtain ⟨n, rfl⟩ := h
    obtain ⟨n', rfl⟩ := h'
    rw [signedDecimal_injective (List.tail_eq_of_cons_eq heq)]
  | string | identifier =>
    obtain ⟨content, rfl⟩ := h
    obtain ⟨content', rfl⟩ := h'
    rw [quoted_injective (List.tail_eq_of_cons_eq heq)]
  | leftParen | rightParen | leftBracket | rightBracket | comma | add | divide =>
    exact h.trans h'.symm

/-! ## Lines -/

/-- A token as runs return it: its place is known, and its value is one of its kind. -/
structure Token.IsComplete (token : Token) (span : Span) : Prop where
  span_eq : token.span = some span
  carries : token.kind.Carries token.value

/-- The tokens start in the same line and column and have the same kind and value. -/
structure Token.ShownAlike (first second : Token) : Prop where
  line_eq : first.span.map (·.start.line) = second.span.map (·.start.line)
  column_eq : first.span.map (·.start.column) = second.span.map (·.start.column)
  kind_eq : first.kind = second.kind
  value_eq : first.value = second.value

variable {token other : Token} {span otherSpan : Span}

theorem Token.IsComplete.line_eq (h : token.IsComplete span) :
    token.line = decimal span.start.line ++ ':' :: (decimal span.start.column ++
      ' ' :: (token.kind.name.toList ++ token.kind.shownTail token.value)) := by
  rw [line, h.span_eq]
  simp [shownPlace, Kind.shownTail]

theorem Token.IsComplete.unbroken_line (h : token.IsComplete span) : Unbroken token.line := by
  have htail := token.kind.unbroken_shownTail token.value
  have hcolumn := unbroken_decimal span.start.column
  rw [h.line_eq]
  exact (unbroken_decimal _).append
    (.cons rfl (hcolumn.append (.cons rfl (token.kind.unbroken_name.append htail))))

/-- A line shows where its token starts, its kind and its value, and nothing else. -/
theorem Token.line_eq_iff (h : token.IsComplete span) (hother : other.IsComplete otherSpan) :
    token.line = other.line ↔ token.ShownAlike other := by
  constructor
  · intro hline
    rw [h.line_eq, hother.line_eq] at hline
    obtain ⟨hstart, hline⟩ := decimal_append_inj rfl hline
    obtain ⟨hcolumn, hline⟩ := decimal_append_inj rfl hline
    obtain ⟨hname, htail⟩ := append_inj_of_stretch token.kind.name_no_blank
      (token.kind.head_shownTail _) other.kind.name_no_blank (other.kind.head_shownTail _) hline
    have hkind := Kind.name_injective hname
    have hcarries := hother.carries
    rw [← hkind] at htail hcarries
    exact ⟨by simp [h.span_eq, hother.span_eq, hstart], by simp [h.span_eq, hother.span_eq, hcolumn],
      hkind, h.carries.shownTail_inj hcarries htail⟩
  · rintro ⟨hstart, hcolumn, hkind, hvalue⟩
    simp only [h.span_eq, hother.span_eq, Option.map_some, Option.some.injEq] at hstart hcolumn
    rw [h.line_eq, hother.line_eq, hstart, hcolumn, hkind, hvalue]

/-! ## Listings -/

variable {tokens others : List Token}

/-- Every line of a listing is the one of its token. -/
theorem bareLines_plainListing (h : ∀ token ∈ tokens, ∃ span, token.IsComplete span) :
    bareLines (plainListing tokens) = tokens.map Token.line := by
  refine bareLines_unlines (List.forall_mem_map.2 fun token hmem => ?_)
  obtain ⟨span, hcomplete⟩ := h token hmem
  exact hcomplete.unbroken_line

theorem map_line_eq_iff (h : ∀ token ∈ tokens, ∃ span, token.IsComplete span)
    (hothers : ∀ token ∈ others, ∃ span, token.IsComplete span) :
    tokens.map Token.line = others.map Token.line ↔
      List.Forall₂ Token.ShownAlike tokens others := by
  induction tokens generalizing others with
  | nil => simp [List.forall₂_nil_left_iff, eq_comm]
  | cons token tokens ih =>
    cases others with
    | nil => simp [List.forall₂_nil_right_iff]
    | cons other others =>
      obtain ⟨⟨span, hspan⟩, htokens⟩ := List.forall_mem_cons.1 h
      obtain ⟨⟨otherSpan, hotherSpan⟩, hothers⟩ := List.forall_mem_cons.1 hothers
      rw [List.map_cons, List.map_cons, List.cons.injEq, List.forall₂_cons, ih htokens hothers,
        Token.line_eq_iff hspan hotherSpan]

theorem plainListing_eq_iff (h : ∀ token ∈ tokens, ∃ span, token.IsComplete span)
    (hothers : ∀ token ∈ others, ∃ span, token.IsComplete span) :
    plainListing tokens = plainListing others ↔ List.Forall₂ Token.ShownAlike tokens others := by
  rw [← map_line_eq_iff h hothers]
  constructor
  · intro hlisting
    rw [← bareLines_plainListing h, ← bareLines_plainListing hothers, hlisting]
  · exact congrArg unlines

namespace Lexer

variable {lexer : Lexer} {source : Text}

theorem isComplete_of_run (h : lexer.run source = .ok tokens) :
    ∀ token ∈ tokens, ∃ span, token.IsComplete span := by
  have hends := lexer.run_ends source
  rw [h] at hends
  cases hends with
  | finished cut =>
    intro token hmem
    obtain ⟨_, _, _, hspan⟩ := cut.token_place token hmem
    exact ⟨_, hspan, Kind.carries_of_value? (cut.token_taken token hmem).2⟩

/-- The listing of the tokens that a run returns has one line for each of them. It has the lines of
another run's listing exactly if the tokens of both runs start in the same places and have the same
kinds and values, one by one. -/
theorem run_plainListing (h : lexer.run source = .ok tokens) :
    bareLines (plainListing tokens) = tokens.map Token.line ∧
    ∀ (other : Lexer) otherSource others, other.run otherSource = .ok others →
      (plainListing tokens = plainListing others ↔
        List.Forall₂ Token.ShownAlike tokens others) := by
  have hcomplete := isComplete_of_run h
  refine ⟨bareLines_plainListing hcomplete, ?_⟩
  intro other otherSource others hother
  exact plainListing_eq_iff hcomplete (isComplete_of_run hother)

/-- A text with a quote and a separator of lines in it. The zero before the number is not listed, nor
is how far the number goes. -/
theorem run_plainListing_zero :
    ∃ tokens others, ({} : Lexer).run "012 \"it's\u2028\"".toList = .ok tokens ∧
      ({} : Lexer).run "12  \"it's\u2028\"".toList = .ok others ∧
      bareLines (plainListing tokens) =
        ["1:1 NUM_LITERAL 12".toList, "1:5 STRING_LITERAL \"it's\\u2028\"".toList] ∧
      plainListing tokens = plainListing others ∧ tokens ≠ others := by
  have hzero : ({} : Lexer).run "012 \"it's\u2028\"".toList =
      .ok [⟨.number, some (.number 12), "012".toList, some ⟨.start, ⟨1, 4, 3⟩⟩⟩,
        ⟨.string, some (.text "it's\u2028".toList), "\"it's\u2028\"".toList,
          some ⟨⟨1, 5, 4⟩, ⟨1, 12, 11⟩⟩⟩] := by
    decide +kernel
  have hplain : ({} : Lexer).run "12  \"it's\u2028\"".toList =
      .ok [⟨.number, some (.number 12), "12".toList, some ⟨.start, ⟨1, 3, 2⟩⟩⟩,
        ⟨.string, some (.text "it's\u2028".toList), "\"it's\u2028\"".toList,
          some ⟨⟨1, 5, 4⟩, ⟨1, 12, 11⟩⟩⟩] := by
    decide +kernel
  obtain ⟨hlines, hlisting⟩ := run_plainListing hzero
  refine ⟨_, _, hzero, hplain, ?_, ?_, by simp⟩
  · rw [hlines]
    decide +kernel
  · exact (hlisting _ _ _ hplain).2 (.cons ⟨rfl, rfl, rfl, rfl⟩ (.cons ⟨rfl, rfl, rfl, rfl⟩ .nil))

end Lexer

end LispLex
