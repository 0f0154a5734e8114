-- SUMMARY: The line grammar: free regions of a line and the offences in them.
import LispLex.Proofs.Text
import LispLex.Proofs.Token.Number
import Mathlib.Data.List.Basic

/-!
# Offences

What makes a source unacceptable to the standard rules, said of its lines and without tokens. All
between the first and the last quote of a line is quoted; the rest of the line is free and may have
a few characters only, and no number in it may be too large.
-/

namespace LispLex

/-! ## Free regions -/

/-- What stands before a place on its line. -/
def lineBefore (before : Text) : Text :=
  before.rtakeWhile (· != '\n')

/-- What stands behind a place on its line. -/
def lineAfter (after : Text) : Text :=
  after.takeWhile (· != '\n')

theorem feed_not_mem_lineBefore (before : Text) : '\n' ∉ lineBefore before := by
  intro hfeed
  simpa using List.mem_rtakeWhile_imp hfeed

theorem feed_not_mem_lineAfter (after : Text) : '\n' ∉ lineAfter after := by
  intro hfeed
  simpa using List.mem_takeWhile_imp hfeed

def quotesBefore (before : Text) : Nat :=
  (lineBefore before).count '"'

def quotesAfter (after : Text) : Nat :=
  (lineAfter after).count '"'

/-- The place between the texts stands before the first quote of its line, or behind the last of at
least two. -/
def IsFree (before after : Text) : Prop :=
  quotesBefore before = 0 ∨ (2 ≤ quotesBefore before ∧ quotesAfter after = 0)

/-- The characters allowed in free regions besides digits and letters. -/
def freeCharacters : List Char :=
  [' ', '\t', '\r', '(', ')', '[', ']', ',', '+', '/']

def isFreeCharacter (c : Char) : Bool :=
  freeCharacters.contains c || isAsciiDigit c || c.isAlpha

/-! ## What can be wrong -/

inductive Offence where
  /-- A character that is not allowed where it stands, or the only quote of a line. -/
  | stray
  /-- A longest run of digits that writes a number too large. -/
  | tooLarge (literal : Text)
  deriving DecidableEq, Repr

/-- The offence starts at the place between the texts. -/
inductive Offends (ceiling : Option Int) (before : Text) : (after : Text) → Offence → Prop
  | character {c : Char} {after : Text} (onLine : c ≠ '\n') (noQuote : c ≠ '"')
      (free : IsFree before (c :: after)) (bad : isFreeCharacter c = false) :
      Offends ceiling before (c :: after) .stray
  | quote {after : Text} (first : quotesBefore before = 0) (last : quotesAfter after = 0) :
      Offends ceiling before ('"' :: after) .stray
  | number {digits after : Text} (run : IsDigitRun digits)
      (starts : ∀ c ∈ before.getLast?, isAsciiDigit c = false)
      (stops : ∀ c ∈ after.head?, isAsciiDigit c = false)
      (free : IsFree before (digits ++ after)) (large : IsTooLarge ceiling digits) :
      Offends ceiling before (digits ++ after) (.tooLarge digits)

/-- The offence starts at the offset in the source. -/
def OffenceAt (ceiling : Option Int) (source : Text) (offset : Nat) (offence : Offence) : Prop :=
  Offends ceiling (source.take offset) (source.drop offset) offence

/-- The offence is the one of smallest offset in the source. -/
structure LeftmostOffence (ceiling : Option Int) (source : Text) (offset : Nat) (offence : Offence) :
    Prop where
  offenceAt : OffenceAt ceiling source offset offence
  le : ∀ other otherOffence, OffenceAt ceiling source other otherOffence → offset ≤ other

/-! ## Counting quotes -/

section Quotes

variable {first second : Text}

/-- What has no quotes in it does not count, wherever its lines end. -/
theorem quotesBefore_append_of_noQuote (h : '"' ∉ first) :
    quotesBefore (first ++ second) = quotesBefore second := by
  unfold quotesBefore lineBefore
  by_cases hfeed : '\n' ∈ second
  · rw [rtakeWhile_append_of_mem first hfeed]
  · have hfirst : '"' ∉ first.rtakeWhile (· != '\n') := by
      intro hmem
      exact h ((List.rtakeWhile_suffix _ first).subset hmem)
    have hsecond : second.rtakeWhile (· != '\n') = second := by
      rw [List.rtakeWhile_eq_self_iff]
      exact bne_of_not_mem hfeed
    rw [rtakeWhile_append first hfeed, hsecond, List.count_append,
      List.count_eq_zero_of_not_mem hfirst, Nat.zero_add]

/-- A line feed separates what follows it from everything before it. -/
theorem quotesBefore_append_of_feed (h : '\n' ∈ second) :
    quotesBefore (first ++ second) = quotesBefore second := by
  unfold quotesBefore lineBefore
  rw [rtakeWhile_append_of_mem first h]

theorem quotesBefore_of_line (h : '\n' ∉ first) : quotesBefore first = first.count '"' := by
  have hfirst : first.rtakeWhile (· != '\n') = first := by
    rw [List.rtakeWhile_eq_self_iff]
    exact bne_of_not_mem h
  rw [quotesBefore, lineBefore, hfirst]

theorem quotesAfter_append (h : '\n' ∉ first) :
    quotesAfter (first ++ second) = first.count '"' + quotesAfter second := by
  unfold quotesAfter lineAfter
  rw [List.takeWhile_append_of_pos (bne_of_not_mem h), List.count_append]

theorem quotesAfter_quote (after : Text) : quotesAfter ('"' :: after) = quotesAfter after + 1 := by
  simp [quotesAfter, lineAfter]

end Quotes

/-! ## Offences and where they stand -/

section Offends

variable {ceiling : Option Int} {before after source : Text} {offset : Nat} {offence : Offence}

theorem IsDigitRun.exists_cons {digits : Text} (h : IsDigitRun digits) :
    ∃ c rest, digits = c :: rest ∧ isAsciiDigit c = true := by
  cases digits with
  | nil => exact absurd rfl h.ne_nil
  | cons c rest => exact ⟨c, rest, rfl, h.all_digit c (by simp)⟩

theorem IsDigitRun.noQuote {digits : Text} (h : IsDigitRun digits) : '"' ∉ digits := by
  intro hmem
  cases h.all_digit _ hmem

theorem Offends.ne_nil (h : Offends ceiling before after offence) : after ≠ [] := by
  cases h with
  | character => simp
  | quote => simp
  | number run => simp [run.ne_nil]

theorem Offends.stray_head (h : Offends ceiling before after .stray) :
    ∀ c ∈ after.head?, isAsciiDigit c = false := by
  intro c hc
  cases h with
  | character _ _ _ bad =>
    cases hc
    simp only [isFreeCharacter, Bool.or_eq_false_iff] at bad
    exact bad.1.2
  | quote =>
    cases hc
    rfl

theorem Offends.tooLarge_eq {literal : Text}
    (h : Offends ceiling before after (.tooLarge literal)) :
    literal = after.takeWhile isAsciiDigit ∧ literal ≠ [] := by
  cases h with
  | number run _ stops => exact ⟨(takeWhile_append_of_head run.all_digit stops).symm, run.ne_nil⟩

/-- What an offence at a character can be. -/
theorem Offends.cons_cases {c : Char} (h : Offends ceiling before (c :: after) offence) :
    (c ≠ '\n' ∧ c ≠ '"' ∧ IsFree before (c :: after) ∧ isFreeCharacter c = false) ∨
    (c = '"' ∧ quotesBefore before = 0 ∧ quotesAfter after = 0) ∨
    (isAsciiDigit c = true ∧ (∀ d ∈ before.getLast?, isAsciiDigit d = false) ∧
      IsFree before (c :: after) ∧ IsTooLarge ceiling ((c :: after).takeWhile isAsciiDigit)) := by
  generalize htext : c :: after = text at h
  cases h with
  | character onLine noQuote free bad =>
    cases htext
    exact .inl ⟨onLine, noQuote, free, bad⟩
  | quote first last =>
    cases htext
    exact .inr (.inl ⟨rfl, first, last⟩)
  | number run starts stops free large =>
    obtain ⟨d, digits, rfl, hd⟩ := run.exists_cons
    rw [List.cons_append] at htext
    cases htext
    refine .inr (.inr ⟨hd, starts, free, ?_⟩)
    rwa [takeWhile_append_of_head run.all_digit stops]

/-- Of what comes before an offence, it matters only whether the place is free, whether a quote there
is the first one, and whether digits there continue others. -/
theorem Offends.move {other : Text} (h : Offends ceiling before after offence)
    (hfree : IsFree before after → IsFree other after)
    (hfirst : ∀ further, after = '"' :: further → quotesBefore before = 0 → quotesBefore other = 0)
    (hstarts : after ≠ [] → (∀ d ∈ after.head?, isAsciiDigit d = true) →
      (∀ c ∈ before.getLast?, isAsciiDigit c = false) →
        ∀ c ∈ other.getLast?, isAsciiDigit c = false) :
    Offends ceiling other after offence := by
  have hne := h.ne_nil
  cases h with
  | character onLine noQuote free bad => exact .character onLine noQuote (hfree free) bad
  | quote first last => exact .quote (hfirst _ rfl first) last
  | number run starts stops free large =>
    refine .number run (hstarts hne ?_ starts) stops (hfree free) large
    obtain ⟨d, digits, rfl, hd⟩ := run.exists_cons
    intro c hc
    cases hc
    exact hd

/-- At most one offence starts at a place. -/
theorem Offends.unique {other : Offence} (h : Offends ceiling before after offence)
    (hother : Offends ceiling before after other) : offence = other := by
  have hdistinct : ∀ literal, Offends ceiling before after .stray →
      ¬ Offends ceiling before after (.tooLarge literal) := by
    intro literal hstray hlarge
    obtain ⟨hliteral, hne⟩ := hlarge.tooLarge_eq
    cases after with
    | nil => exact hstray.ne_nil rfl
    | cons c after =>
      rw [List.takeWhile_cons_of_neg (by simp [hstray.stray_head c rfl])] at hliteral
      exact hne hliteral
  cases offence with
  | stray =>
    cases other with
    | stray => rfl
    | tooLarge literal => exact absurd hother (hdistinct literal h)
  | tooLarge literal =>
    cases other with
    | stray => exact absurd h (hdistinct literal hother)
    | tooLarge otherLiteral => rw [h.tooLarge_eq.1, hother.tooLarge_eq.1]

theorem LeftmostOffence.unique {otherOffset : Nat} {other : Offence}
    (h : LeftmostOffence ceiling source offset offence)
    (hother : LeftmostOffence ceiling source otherOffset other) :
    offset = otherOffset ∧ offence = other := by
  have hoffset : offset = otherOffset :=
    Nat.le_antisymm (h.le _ _ hother.offenceAt) (hother.le _ _ h.offenceAt)
  subst hoffset
  exact ⟨rfl, h.offenceAt.unique hother.offenceAt⟩

end Offends

/-! ## Parts without offences -/

/-- The offences of `part` with `rest` behind it are those of `rest` alone. -/
def OffencesBehind (ceiling : Option Int) (part rest : Text) : Prop :=
  ∀ offset offence, OffenceAt ceiling (part ++ rest) offset offence ↔
    ∃ further, offset = part.length + further ∧ OffenceAt ceiling rest further offence

theorem OffencesBehind.append {ceiling : Option Int} {part next rest : Text}
    (h : OffencesBehind ceiling part (next ++ rest)) (hnext : OffencesBehind ceiling next rest) :
    OffencesBehind ceiling (part ++ next) rest := by
  intro offset offence
  rw [List.append_assoc, h]
  constructor
  · rintro ⟨middle, rfl, hmiddle⟩
    obtain ⟨further, rfl, hfurther⟩ := (hnext _ _).1 hmiddle
    exact ⟨further, by rw [List.length_append, Nat.add_assoc], hfurther⟩
  · rintro ⟨further, rfl, hfurther⟩
    refine ⟨next.length + further, ?_, (hnext _ _).2 ⟨further, rfl, hfurther⟩⟩
    rw [List.length_append, Nat.add_assoc]

/-- A part of a source that has no offence in it, and that neither hides nor makes one in what
follows it. -/
structure Harmless (ceiling : Option Int) (part rest : Text) : Prop where
  clean : ∀ before c after offence, part = before ++ c :: after →
    ¬ Offends ceiling before (c :: (after ++ rest)) offence
  free : ∀ before after, rest = before ++ after →
    (IsFree (part ++ before) after ↔ IsFree before after)
  first : ∀ before after, rest = before ++ '"' :: after →
    (quotesBefore (part ++ before) = 0 ↔ quotesBefore before = 0)
  apart : ∀ c ∈ part.getLast?, isAsciiDigit c = true → ∀ d ∈ rest.head?, isAsciiDigit d = false

/-- The character is allowed wherever it stands, and it is no digit. -/
structure IsPlain (c : Char) : Prop where
  noQuote : c ≠ '"'
  noDigit : isAsciiDigit c = false
  allowed : c = '\n' ∨ isFreeCharacter c = true

namespace Harmless

variable {ceiling : Option Int} {part rest before after : Text} {offence : Offence}

theorem starts_iff (h : Harmless ceiling part rest) (hrest : rest = before ++ after)
    (hdigit : ∀ d ∈ after.head?, isAsciiDigit d = true) (hne : after ≠ []) :
    (∀ c ∈ (part ++ before).getLast?, isAsciiDigit c = false) ↔
      ∀ c ∈ before.getLast?, isAsciiDigit c = false := by
  cases before with
  | nil =>
    -- a run that starts right behind the part would continue digits at its end
    rw [List.nil_append] at hrest
    subst hrest
    rw [List.append_nil]
    constructor
    · intro _ c hc
      cases hc
    · intro _ c hc
      obtain ⟨d, further, rfl⟩ := List.exists_cons_of_ne_nil hne
      cases hlast : isAsciiDigit c with
      | false => rfl
      | true =>
        have hapart := h.apart c hc hlast d rfl
        rw [hdigit d rfl] at hapart
        cases hapart
  | cons d before => rw [List.getLast?_append_of_ne_nil part (List.cons_ne_nil d before)]

/-- Behind a harmless part the same offences start as without it. -/
theorem offends_iff (h : Harmless ceiling part rest) (hrest : rest = before ++ after) :
    Offends ceiling (part ++ before) after offence ↔ Offends ceiling before after offence := by
  constructor
  · intro hoffends
    refine hoffends.move (h.free _ _ hrest).1 ?_ fun hne hdigit => (h.starts_iff hrest hdigit hne).1
    rintro further rfl
    exact (h.first _ _ hrest).1
  · intro hoffends
    refine hoffends.move (h.free _ _ hrest).2 ?_ fun hne hdigit => (h.starts_iff hrest hdigit hne).2
    rintro further rfl
    exact (h.first _ _ hrest).2

/-- The offences of a source that starts with a harmless part are those of what follows it. -/
theorem offencesBehind (h : Harmless ceiling part rest) : OffencesBehind ceiling part rest := by
  intro offset offence
  constructor
  · intro hoffence
    by_cases hoffset : offset < part.length
    · have hpart := List.take_append_drop offset part
      rw [List.drop_eq_getElem_cons hoffset] at hpart
      rw [OffenceAt, List.take_append_of_le_length hoffset.le,
        List.drop_append_of_le_length hoffset.le, List.drop_eq_getElem_cons hoffset] at hoffence
      exact absurd hoffence (h.clean _ _ _ _ hpart.symm)
    · obtain ⟨further, rfl⟩ := Nat.exists_eq_add_of_le (Nat.not_lt.1 hoffset)
      refine ⟨further, rfl, ?_⟩
      rw [OffenceAt, List.take_length_add_append, List.drop_length_add_append] at hoffence
      exact (h.offends_iff (List.take_append_drop further rest).symm).1 hoffence
  · rintro ⟨further, rfl, hoffence⟩
    rw [OffenceAt, List.take_length_add_append, List.drop_length_add_append]
    exact (h.offends_iff (List.take_append_drop further rest).symm).2 hoffence

theorem of_plain (hplain : ∀ c ∈ part, IsPlain c) : Harmless ceiling part rest where
  clean := by
    rintro before c after offence rfl hoffends
    have hc : IsPlain c := hplain c (by simp)
    rcases hoffends.cons_cases with ⟨onLine, -, -, bad⟩ | ⟨hquote, -⟩ | ⟨hdigit, -⟩
    · rcases hc.allowed with hfeed | hfree
      · exact onLine hfeed
      · rw [bad] at hfree
        cases hfree
    · exact hc.noQuote hquote
    · rw [hc.noDigit] at hdigit
      cases hdigit
  free := by
    intro before after _
    rw [IsFree, IsFree, quotesBefore_append_of_noQuote fun hmem => (hplain _ hmem).noQuote rfl]
  first := by
    intro before after _
    rw [quotesBefore_append_of_noQuote fun hmem => (hplain _ hmem).noQuote rfl]
  apart := by
    intro c hc hd
    rw [(hplain c (List.mem_of_getLast? hc)).noDigit] at hd
    cases hd

/-- A whole run of digits is harmless unless its number is too large. -/
theorem of_digits (hrun : IsDigitRun part) (hstops : ∀ c ∈ rest.head?, isAsciiDigit c = false)
    (hlarge : ¬ IsTooLarge ceiling part) : Harmless ceiling part rest where
  clean := by
    rintro before c after offence rfl hoffends
    have hc : isAsciiDigit c = true := hrun.all_digit c (by simp)
    rcases hoffends.cons_cases with ⟨-, -, -, bad⟩ | ⟨rfl, -⟩ | ⟨-, hstarts, -, hlarger⟩
    · simp [isFreeCharacter, hc] at bad
    · cases hc
    · -- the run of digits has to start where the part starts, so it is the part
      have hbefore : before = [] := by
        cases hlast : before.getLast? with
        | none => exact List.getLast?_eq_none_iff.1 hlast
        | some d =>
          have hd : isAsciiDigit d = true :=
            hrun.all_digit d (List.mem_append_left _ (List.mem_of_getLast? hlast))
          rw [hstarts d hlast] at hd
          cases hd
      subst hbefore
      have hwhole := takeWhile_append_of_head hrun.all_digit hstops
      rw [List.nil_append, List.cons_append] at hwhole
      rw [hwhole] at hlarger
      exact hlarge hlarger
  free := by
    intro before after _
    rw [IsFree, IsFree, quotesBefore_append_of_noQuote hrun.noQuote]
  first := by
    intro before after _
    rw [quotesBefore_append_of_noQuote hrun.noQuote]
  apart := fun _ _ _ => hstops

/-- All from the first to the last quote of a line is harmless. -/
theorem of_quoted {body : Text} (hbody : '\n' ∉ body) (hrest : quotesAfter rest = 0) :
    Harmless ceiling ('"' :: (body ++ ['"'])) rest where
  clean := by
    intro before c after offence hpart hoffends
    have hfeed : '\n' ∉ before ++ c :: after := by
      rw [← hpart]
      simp [hbody]
    obtain ⟨hbefore, hafter⟩ := not_or.1 (mt List.mem_append.2 hfeed)
    have hlast : '"' ∈ c :: after := by
      have hgetLast : (before ++ c :: after).getLast? = some '"' := by
        rw [← hpart, ← List.cons_append, List.getLast?_concat]
      rw [List.getLast?_append_of_ne_nil before (List.cons_ne_nil c after)] at hgetLast
      exact List.mem_of_getLast? hgetLast
    have hquotesAfter : 1 ≤ quotesAfter (c :: (after ++ rest)) := by
      rw [← List.cons_append, quotesAfter_append hafter, hrest]
      exact List.count_pos_iff.2 hlast
    cases before with
    | nil =>
      rw [List.nil_append] at hpart
      cases hpart
      rcases hoffends.cons_cases with ⟨-, noQuote, -⟩ | ⟨-, -, last⟩ | ⟨hc, -⟩
      · exact noQuote rfl
      · rw [List.append_assoc, quotesAfter_append hbody, List.singleton_append,
          quotesAfter_quote] at last
        omega
      · cases hc
    | cons d before =>
      rw [List.cons_append] at hpart
      obtain ⟨rfl, -⟩ := List.cons.inj hpart
      have hquotesBefore : 1 ≤ quotesBefore ('"' :: before) := by
        rw [quotesBefore_of_line hbefore]
        simp
      have hquoted : ¬ IsFree ('"' :: before) (c :: (after ++ rest)) := by
        unfold IsFree
        omega
      rcases hoffends.cons_cases with ⟨-, -, free, -⟩ | ⟨-, first, -⟩ | ⟨-, -, free, -⟩
      · exact hquoted free
      · omega
      · exact hquoted free
  free := by
    rintro before after rfl
    by_cases hfeed : '\n' ∈ before
    · rw [IsFree, IsFree, quotesBefore_append_of_feed hfeed]
    · -- on the line of the two quotes, everything behind them is free on both sides
      rw [quotesAfter_append hfeed] at hrest
      have hline : '\n' ∉ '"' :: (body ++ ['"']) ++ before := by simp [hbody, hfeed]
      have htwo : 2 ≤ quotesBefore ('"' :: (body ++ ['"']) ++ before) := by
        rw [quotesBefore_of_line hline]
        simp
        omega
      have hnone : quotesBefore before = 0 := by
        rw [quotesBefore_of_line hfeed]
        omega
      unfold IsFree
      omega
  first := by
    rintro before after rfl
    by_cases hfeed : '\n' ∈ before
    · rw [quotesBefore_append_of_feed hfeed]
    · rw [quotesAfter_append hfeed, quotesAfter_quote] at hrest
      omega
  apart := by
    intro c hc hd
    rw [← List.cons_append, List.getLast?_concat] at hc
    cases hc
    cases hd

end Harmless

end LispLex
