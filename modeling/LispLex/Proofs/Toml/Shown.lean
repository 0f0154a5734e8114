-- SUMMARY: Shown configuration values are no names of kinds.
import LispLex.Proofs.Rule.Table
import LispLex.Proofs.Text.Digits
import LispLex.Toml.Value

/-!
# Values taken for names

Where a name is expected, a value that is no text is taken by the text that shows it. Such a text
starts with a digit, a sign, a bracket or a small letter unless it stands for a truth value, so it is
never the name of a kind.
-/

namespace LispLex

/-! ## First characters -/

/-- The text does not start with a capital letter. -/
def StartsLow (text : Text) : Prop :=
  ∀ c ∈ text.head?, c.isUpper = false

theorem StartsLow.cons {c : Char} (h : c.isUpper = false) (rest : Text) : StartsLow (c :: rest) := by
  intro d hd
  cases hd
  exact h

theorem StartsLow.append {first : Text} (h : StartsLow first) (hne : first ≠ []) (rest : Text) :
    StartsLow (first ++ rest) := by
  intro c hc
  rw [List.head?_append_of_ne_nil first hne] at hc
  exact h c hc

theorem not_isUpper_of_isAsciiDigit {c : Char} (h : isAsciiDigit c = true) : c.isUpper = false := by
  obtain ⟨digit, -, hdigit, -⟩ := asciiDigit?_of_isAsciiDigit h
  obtain ⟨hlt, rfl⟩ := digitChar_of_asciiDigit? hdigit
  have hall : ∀ digit < 10, digit.digitChar.isUpper = false := by decide
  exact hall digit hlt

theorem IsDigitRun.startsLow {text : Text} (h : IsDigitRun text) (rest : Text) :
    StartsLow (text ++ rest) := by
  refine StartsLow.append (fun c hc => ?_) h.ne_nil rest
  exact not_isUpper_of_isAsciiDigit (h.all_digit c (List.mem_of_mem_head? hc))

theorem startsLow_signedDecimal (n : Int) : StartsLow (signedDecimal n) := by
  cases n with
  | ofNat n =>
    have hdigits := (isDigitRun_decimal n).startsLow []
    rwa [List.append_nil] at hdigits
  | negSucc n => exact .cons rfl _

/-! ## Floats -/

namespace Double

theorem startsLow_pointed {digits : Text} (h : ∀ c ∈ digits, isAsciiDigit c = true) (before : Int) :
    StartsLow (pointed digits before) := by
  unfold pointed
  split
  · exact .cons rfl _
  · next hpos =>
    obtain ⟨count, hcount⟩ : ∃ count, before.toNat = count + 1 := ⟨before.toNat - 1, by omega⟩
    rw [hcount]
    cases digits with
    | nil => exact .cons rfl _
    | cons c digits => exact .cons (not_isUpper_of_isAsciiDigit (h c List.mem_cons_self)) _

theorem startsLow_layout {digits : Text} (h : ∀ c ∈ digits, isAsciiDigit c = true) (before : Int) :
    StartsLow (layout digits before) := by
  unfold layout
  split
  · exact startsLow_pointed h before
  · split
    · unfold exponentText
      split <;> exact .cons rfl _
    · exact .cons (not_isUpper_of_isAsciiDigit (h _ List.mem_cons_self)) _
    · exact .cons (not_isUpper_of_isAsciiDigit (h _ List.mem_cons_self)) _

theorem startsLow_positiveText (mantissa : Nat) (exponent : Int) :
    StartsLow (positiveText mantissa exponent) := by
  apply startsLow_layout
  intro c hc
  apply (isDigitRun_decimal _).all_digit c
  exact List.mem_reverse.1 ((List.dropWhile_suffix _).subset (List.mem_reverse.1 hc))

theorem startsLow_toText (x : Double) : StartsLow x.toText := by
  cases x with
  | nan => exact .cons rfl _
  | infinite negative => cases negative <;> exact .cons rfl _
  | finite negative mantissa exponent =>
    cases negative with
    | true => exact .cons rfl _
    | false =>
      simp only [toText, Bool.false_eq_true, if_false, List.nil_append]
      split
      · exact .cons rfl _
      · exact startsLow_positiveText mantissa exponent

end Double

/-! ## Moments -/

theorem isDigitRun_paddedDecimal (width n : Nat) : IsDigitRun (paddedDecimal width n) where
  ne_nil := List.append_ne_nil_of_right_ne_nil _ (isDigitRun_decimal n).ne_nil
  all_digit := by
    refine List.forall_mem_append.2 ⟨fun c hc => ?_, (isDigitRun_decimal n).all_digit⟩
    rw [List.eq_of_mem_replicate hc]
    rfl

namespace Moment

theorem startsLow_shown (moment : Moment) : StartsLow moment.shown := by
  cases moment <;> exact .cons rfl _

theorem startsLow_toText (moment : Moment) : StartsLow moment.toText := by
  cases moment with
  | onDay day =>
    rw [toText, Day.toText, intercalate_cons]
    exact (isDigitRun_paddedDecimal 4 day.year).startsLow _
  | atTime time =>
    rw [toText, TimeOfDay.toText, List.map_cons, intercalate_cons, List.append_assoc]
    exact (isDigitRun_paddedDecimal 2 time.hour).startsLow _
  | onDayAt day time offset =>
    rw [toText, Day.toText, intercalate_cons, List.append_assoc, List.append_assoc, List.append_assoc]
    exact (isDigitRun_paddedDecimal 4 day.year).startsLow _

end Moment

/-! ## Names -/

theorem Kind.not_startsLow_name (kind : Kind) : ¬StartsLow kind.name.toList := by
  cases kind <;> exact fun h => Bool.noConfusion (h _ rfl)

namespace Toml

variable {value : Toml} {shown : Text} {kind : Kind}

theorem startsLow_enclosed {opening : Char} (h : opening.isUpper = false) (closing : Char)
    (items : List Text) : StartsLow (enclosed opening closing items) :=
  .cons h _

/-- What shows a value that is neither a text nor a truth value. -/
theorem startsLow_of_shown? (h : value.shown? = some shown) (htext : ∀ content, value ≠ .text content)
    (hboolean : ∀ b, value ≠ .boolean b) : StartsLow shown := by
  cases value with
  | text content => exact absurd rfl (htext content)
  | boolean b => exact absurd rfl (hboolean b)
  | integer n =>
    rw [shown?] at h
    split at h
    · cases h
      exact startsLow_signedDecimal n
    · cases h
  | float x =>
    cases h
    exact x.startsLow_toText
  | moment m =>
    cases h
    exact m.startsLow_shown
  | array items =>
    obtain ⟨_, -, rfl⟩ := Option.map_eq_some_iff.1 h
    exact startsLow_enclosed rfl _ _
  | table entries =>
    obtain ⟨_, -, rfl⟩ := Option.map_eq_some_iff.1 h
    exact startsLow_enclosed rfl _ _

/-- Only a text can be taken for the name of a kind. -/
theorem eq_text_of_name? (h : value.name? = some kind.name.toList) : value = .text kind.name.toList := by
  cases value with
  | text content => rw [Option.some.inj h]
  | boolean b =>
    have hnone : Kind.ofName? (booleanText b) = none := by
      cases b <;> decide +kernel
    rw [Option.some.inj (show some (booleanText b) = _ from h), Kind.ofName?_name] at hnone
    cases hnone
  | moment m =>
    refine absurd ?_ kind.not_startsLow_name
    rw [← Option.some.inj h]
    exact m.startsLow_toText
  | integer | float | array | table =>
    exact absurd (startsLow_of_shown? h (by simp) (by simp)) kind.not_startsLow_name

end Toml

end LispLex
