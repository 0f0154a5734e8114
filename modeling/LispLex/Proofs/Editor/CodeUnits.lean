-- SUMMARY: When a diagnostic read in UTF-16 code units marks the text that it is about.
import LispLex.Proofs.Editor.Diagnosis
import LispLex.Proofs.Run.PairedReturns

/-!
# Places by code units

An editor that follows its protocol to the letter ends a line at a carriage return as well and counts
UTF-16 code units along it. Read so, a diagnostic still marks what it is about exactly if every
carriage return before it stands before a line feed and every character of its line, up to its end, is
a single code unit.
-/

namespace LispLex

/-- The code units of a character. -/
def codeUnits (c : Char) : Nat :=
  if c.toNat < 0x10000 then 1 else 2

theorem codeUnits_pos (c : Char) : 0 < codeUnits c := by
  unfold codeUnits
  split <;> decide

/-! ## Places -/

/-- How many characters of the line at the start of a text have the given code units. Beyond the end of
the line they count as the whole line; inside of a character there is no place. -/
def charactersIn? : Text → (units : Nat) → Option Nat
  | _, 0 => some 0
  | [], _ + 1 => some 0
  | c :: rest, units + 1 =>
    if c = '\n' ∨ c = '\r' then some 0
    else if codeUnits c ≤ units + 1 then (charactersIn? rest (units + 1 - codeUnits c)).map (· + 1)
    else none

/-- A line ends between the character and the rest of the text. -/
def EndsLine (c : Char) (rest : Text) : Prop :=
  c = '\n' ∨ (c = '\r' ∧ rest.head? ≠ some '\n')

instance (c : Char) (rest : Text) : Decidable (EndsLine c rest) :=
  inferInstanceAs (Decidable (c = '\n' ∨ (c = '\r' ∧ rest.head? ≠ some '\n')))

/-- The offset of the place that stands after the given code units of a line. -/
def offsetAt? : Text → (line units : Nat) → Option Nat
  | text, 0, units => charactersIn? text units
  | [], _ + 1, _ => none
  | c :: rest, line + 1, units =>
    (offsetAt? rest (if EndsLine c rest then line else line + 1) units).map (· + 1)

/-- How many lines end in a text. -/
def linesEnded : Text → Nat
  | [] => 0
  | c :: rest => (if EndsLine c rest then 1 else 0) + linesEnded rest

/-! ## Along a line -/

theorem charactersIn?_le {text : Text} {units count : Nat}
    (h : charactersIn? text units = some count) : count ≤ units := by
  fun_induction charactersIn? text units generalizing count with
  | case1 | case2 | case3 =>
    cases h
    exact Nat.zero_le _
  | case4 c rest units _ hle ih =>
    obtain ⟨before, hbefore, rfl⟩ := Option.map_eq_some_iff.1 h
    have hcount := ih hbefore
    have hpos := codeUnits_pos c
    omega
  | case5 => cases h

theorem not_break_of_charactersIn? {text : Text} {units count : Nat}
    (h : charactersIn? text units = some count) : ∀ c ∈ text.take count, c ≠ '\n' ∧ c ≠ '\r' := by
  fun_induction charactersIn? text units generalizing count with
  | case1 | case2 | case3 =>
    cases h
    simp
  | case4 c rest units hc _ ih =>
    obtain ⟨before, hbefore, rfl⟩ := Option.map_eq_some_iff.1 h
    intro d hd
    rcases List.mem_cons.1 hd with rfl | hd
    · exact not_or.1 hc
    · exact ih hbefore d hd
  | case5 => cases h

/-- As many code units as characters bring behind these characters exactly if each is a single one. -/
theorem charactersIn?_length_iff {line : Text} (hline : ∀ c ∈ line, c ≠ '\n' ∧ c ≠ '\r')
    (rest : Text) :
    charactersIn? (line ++ rest) line.length = some line.length ↔ ∀ c ∈ line, codeUnits c = 1 := by
  induction line with
  | nil => simp [charactersIn?]
  | cons c line ih =>
    have hc : ¬ (c = '\n' ∨ c = '\r') := not_or.2 (hline c List.mem_cons_self)
    have hrest := ih fun d hd => hline d (List.mem_cons_of_mem c hd)
    rw [List.cons_append, List.length_cons, charactersIn?, if_neg hc, List.forall_mem_cons, ← hrest]
    by_cases hunit : codeUnits c = 1
    · simp [hunit]
    · -- two code units leave too few for the characters behind
      have hpos := codeUnits_pos c
      refine iff_of_false ?_ (fun h => hunit h.1)
      split
      · intro h
        obtain ⟨count, hcount, hlength⟩ := Option.map_eq_some_iff.1 h
        have hle := charactersIn?_le hcount
        omega
      · rintro ⟨⟩

/-! ## Across lines -/

theorem offsetAt?_pos {text : Text} {line units offset : Nat}
    (h : offsetAt? text (line + 1) units = some offset) : 0 < offset := by
  cases text with
  | nil => cases h
  | cons c rest =>
    obtain ⟨before, -, rfl⟩ := Option.map_eq_some_iff.1 h
    exact Nat.succ_pos before

theorem linesEnded_of_not_break {text : Text} (h : ∀ c ∈ text, c ≠ '\n' ∧ c ≠ '\r') :
    linesEnded text = 0 := by
  induction text with
  | nil => rfl
  | cons c text ih =>
    obtain ⟨hfeed, hreturn⟩ := h c List.mem_cons_self
    have hends : ¬ EndsLine c text := by simp [EndsLine, hfeed, hreturn]
    rw [linesEnded, if_neg hends, ih fun d hd => h d (List.mem_cons_of_mem c hd)]

theorem endsLine_take {c : Char} {rest : Text} {count : Nat} (h : 0 < count ∨ EndsLine c rest) :
    EndsLine c (rest.take count) ↔ EndsLine c rest := by
  cases count with
  | zero =>
    have hends := h.resolve_left (Nat.lt_irrefl 0)
    refine iff_of_true ?_ hends
    exact hends.imp_right fun hreturn => ⟨hreturn.1, by simp⟩
  | succ count => cases rest <;> rfl

/-- A place is on the line that it is looked for on. -/
theorem linesEnded_take_of_offsetAt? {text : Text} {line units offset : Nat}
    (h : offsetAt? text line units = some offset) : linesEnded (text.take offset) = line := by
  fun_induction offsetAt? text line units generalizing offset with
  | case1 text units => exact linesEnded_of_not_break (not_break_of_charactersIn? h)
  | case2 => cases h
  | case3 c rest line units ih =>
    obtain ⟨before, hbefore, rfl⟩ := Option.map_eq_some_iff.1 h
    have hrest := ih hbefore
    -- if the place stands directly behind the character, a line has to end there
    have hends : 0 < before ∨ EndsLine c rest := by
      by_contra hnot
      obtain ⟨hzero, hends⟩ := not_or.1 hnot
      rw [if_neg hends] at hbefore
      exact hzero (offsetAt?_pos hbefore)
    rw [List.take_succ_cons, linesEnded, hrest]
    simp only [endsLine_take hends]
    split <;> omega

example : offsetAt? "a\rb\r\n\"😀\" @".toList 2 5 = some 9 := by decide +kernel

/-! ## Where both ways to count lines agree -/

theorem count_le_linesEnded (text : Text) : text.count '\n' ≤ linesEnded text := by
  induction text with
  | nil => exact Nat.le_refl 0
  | cons c text ih =>
    rw [linesEnded]
    by_cases hc : c = '\n'
    · subst hc
      rw [List.count_cons_self, if_pos (.inl rfl)]
      omega
    · rw [List.count_cons_of_ne hc]
      omega

/-- Only carriage returns without a line feed behind them make more lines. -/
theorem linesEnded_eq_count_iff {text : Text} :
    linesEnded text = text.count '\n' ↔ PairedReturns text := by
  induction text with
  | nil => exact iff_of_true rfl trivial
  | cons c text ih =>
    have hle := count_le_linesEnded text
    rw [linesEnded, PairedReturns, ← ih]
    by_cases hfeed : c = '\n'
    · subst hfeed
      rw [List.count_cons_self, if_pos (.inl rfl), Nat.add_comm, Nat.add_right_cancel_iff]
      exact (and_iff_right fun hc => absurd hc (by decide)).symm
    · rw [List.count_cons_of_ne hfeed]
      by_cases hreturn : c = '\r' → text.head? = some '\n'
      · have hends : ¬ EndsLine c text := by
          rintro (hc | ⟨hc, hhead⟩)
          · exact hfeed hc
          · exact hhead (hreturn hc)
        rw [if_neg hends, Nat.zero_add, and_iff_right hreturn]
      · have hends : EndsLine c text := .inr (Classical.not_imp.1 hreturn)
        rw [if_pos hends]
        refine iff_of_false ?_ (fun h => hreturn h.1)
        omega

theorem PairedReturns.return_not_mem {line : Text} (h : PairedReturns line) (hfeed : '\n' ∉ line) :
    '\r' ∉ line := by
  intro hmem
  obtain ⟨before, after, rfl⟩ := List.append_of_mem hmem
  have hnext := List.mem_of_head? (h.right.1 rfl)
  exact hfeed (by simp [hnext])

theorem PairedReturns.not_break_of_lineBefore {text : Text} (h : PairedReturns text) :
    ∀ c ∈ lineBefore text, c ≠ '\n' ∧ c ≠ '\r' := by
  have hfeed := feed_not_mem_lineBefore text
  rw [← List.rdropWhile_append_rtakeWhile (p := (· != '\n')) (l := text)] at h
  have hreturn : '\r' ∉ lineBefore text := h.right.return_not_mem hfeed
  exact fun c hc => ⟨fun heq => hfeed (heq ▸ hc), fun heq => hreturn (heq ▸ hc)⟩

/-- Above a line only line feeds end lines, so it is found behind the last of them. -/
theorem offsetAt?_below {above : Text} (paired : PairedReturns (above ++ ['\n'])) (below : Text)
    (units : Nat) :
    offsetAt? (above ++ '\n' :: below) (above.count '\n' + 1) units =
      (charactersIn? below units).map (above.length + 1 + ·) := by
  induction above with
  | nil =>
    have hends : EndsLine '\n' below := .inl rfl
    simp [offsetAt?, hends, Nat.add_comm]
  | cons c above ih =>
    have hrest := ih paired.2
    rw [List.cons_append, offsetAt?]
    by_cases hfeed : c = '\n'
    · have hends : EndsLine c (above ++ '\n' :: below) := .inl hfeed
      rw [if_pos hends, hfeed, List.count_cons_self, hrest]
      simp [Function.comp_def, Nat.add_right_comm]
    · have hends : ¬ EndsLine c (above ++ '\n' :: below) := by
        rintro (hc | ⟨hc, hhead⟩)
        · exact hfeed hc
        · have hnext := paired.1 hc
          cases above with
          | nil => exact hhead rfl
          | cons d above => exact hhead hnext
      rw [if_neg hends, List.count_cons_of_ne hfeed, hrest]
      simp [Function.comp_def, Nat.add_right_comm]

theorem offsetAt?_of_paired {passed : Text} (paired : PairedReturns passed) (rest : Text)
    (units : Nat) :
    offsetAt? (passed ++ rest) (passed.count '\n') units =
      (charactersIn? (lineBefore passed ++ rest) units).map (lineStart passed + ·) := by
  by_cases hfeed : '\n' ∈ passed
  · obtain ⟨above, line, rfl, hline⟩ := exists_last_occurrence hfeed
    have habove : PairedReturns (above ++ ['\n']) := by
      rw [List.append_cons] at paired
      exact paired.left fun hhead => hline (List.mem_of_head? hhead)
    have hbefore : lineBefore (above ++ '\n' :: line) = line := by
      rw [lineBefore, List.append_cons, rtakeWhile_append _ hline]
      simp
    have hstart : lineStart (above ++ '\n' :: line) = above.length + 1 := by
      rw [lineStart, rdropWhile_append_last above hline]
      simp
    have hcount : (above ++ '\n' :: line).count '\n' = above.count '\n' + 1 := by
      simp [List.count_append, List.count_eq_zero_of_not_mem hline]
    rw [hbefore, hstart, hcount, List.append_assoc, List.cons_append]
    exact offsetAt?_below habove (line ++ rest) units
  · have hbefore : lineBefore passed = passed :=
      List.rtakeWhile_eq_self_iff.2 (bne_of_not_mem hfeed)
    have hstart : lineStart passed = 0 := by
      have hdrop : passed.rdropWhile (· != '\n') = [] :=
        List.rdropWhile_eq_nil_iff.2 (bne_of_not_mem hfeed)
      rw [lineStart, hdrop, List.length_nil]
    rw [hbefore, hstart, List.count_eq_zero_of_not_mem hfeed]
    simp [offsetAt?]

theorem lineStart_add_length_lineBefore (text : Text) :
    lineStart text + (lineBefore text).length = text.length := by
  rw [lineStart, lineBefore, ← List.length_append, List.rdropWhile_append_rtakeWhile]

/-- Counting lines by line feeds and columns by characters leads an editor behind a text exactly if
there is no other line end in it and no character of two code units on its last line. -/
theorem offsetAt?_behind_iff (passed rest : Text) :
    offsetAt? (passed ++ rest) (passed.count '\n') (lineBefore passed).length =
        some passed.length ↔
      PairedReturns passed ∧ ∀ c ∈ lineBefore passed, codeUnits c = 1 := by
  have hoffset : PairedReturns passed →
      (offsetAt? (passed ++ rest) (passed.count '\n') (lineBefore passed).length =
        some passed.length ↔ ∀ c ∈ lineBefore passed, codeUnits c = 1) := by
    intro paired
    rw [offsetAt?_of_paired paired, ← charactersIn?_length_iff paired.not_break_of_lineBefore rest,
      ← lineStart_add_length_lineBefore passed]
    simp
  constructor
  · intro h
    have hlines := linesEnded_take_of_offsetAt? h
    rw [List.take_left, linesEnded_eq_count_iff] at hlines
    exact ⟨hlines, (hoffset hlines).1 h⟩
  · rintro ⟨paired, hunits⟩
    exact (hoffset paired).2 hunits

/-! ## Ranges -/

/-- The range, taken as an editor takes it, is the stretch of the text between the two offsets. -/
def Range.Denotes (range : Range) (text : Text) (start stop : Nat) : Prop :=
  ∃ line first last : Nat, range = ⟨line, first, last⟩ ∧
    offsetAt? text line first = some start ∧ offsetAt? text line last = some stop

theorem Range.Denotes.unique {range : Range} {text : Text} {start stop start' stop' : Nat}
    (h : range.Denotes text start stop) (h' : range.Denotes text start' stop') :
    start = start' ∧ stop = stop' := by
  obtain ⟨line, first, last, rfl, hstart, hstop⟩ := h
  obtain ⟨line', first', last', heq, hstart', hstop'⟩ := h'
  simp only [Range.mk.injEq, Int.natCast_inj] at heq
  obtain ⟨rfl, rfl, rfl⟩ := heq
  exact ⟨Option.some.inj (hstart.symm.trans hstart'), Option.some.inj (hstop.symm.trans hstop')⟩

theorem Range.behind_denotes_iff (passed rest : Text) {marked : Text}
    (hmarked : ∀ c ∈ marked, isBlank c = false) :
    (Range.behind passed marked.length).Denotes (passed ++ (marked ++ rest)) passed.length
        (passed.length + marked.length) ↔
      PairedReturns passed ∧ ∀ c ∈ lineBefore passed ++ marked, codeUnits c = 1 := by
  have hfeed : '\n' ∉ marked := fun hmem => by cases hmarked _ hmem
  have hreturn : '\r' ∉ marked := fun hmem => by cases hmarked _ hmem
  have hstart := offsetAt?_behind_iff passed (marked ++ rest)
  have hstop := offsetAt?_behind_iff (passed ++ marked) rest
  have hpaired : PairedReturns (passed ++ marked) ↔ PairedReturns passed :=
    ⟨fun h => h.left fun hhead => hfeed (List.mem_of_head? hhead),
      fun h => h.append (.of_not_mem hreturn)⟩
  rw [lineBefore, rtakeWhile_append passed hfeed, List.count_append,
    List.count_eq_zero_of_not_mem hfeed, Nat.add_zero, hpaired, List.append_assoc,
    List.length_append, List.length_append] at hstop
  constructor
  · rintro ⟨line, first, last, heq, -, hlast⟩
    simp only [behind, Range.mk.injEq] at heq
    obtain ⟨hline, hfirst, hlength⟩ := heq
    obtain rfl : line = passed.count '\n' := by omega
    obtain rfl : last = (lineBefore passed).length + marked.length := by omega
    exact hstop.1 hlast
  · rintro ⟨paired, hunits⟩
    have hbefore : ∀ c ∈ lineBefore passed, codeUnits c = 1 :=
      fun c hc => hunits c (List.mem_append_left _ hc)
    exact ⟨_, _, _, rfl, hstart.2 ⟨paired, hbefore⟩, hstop.2 ⟨paired, hunits⟩⟩

/-! ## Diagnostics -/

/-- A diagnostic marks what its fault is about, also as an editor counts lines and characters, exactly
if the carriage returns before it all stand before line feeds and its line up to its end has no
character of two code units. -/
theorem diagnose_denotes_iff {text : Text} {fault : Fault}
    (hrun : ({} : Lexer).run text = .error fault) :
    ∃ (report : Report) (spot : Spot) (diagnostic : Diagnostic) (start length : Nat),
      fault.report text = .ok report ∧ report.spot = some spot ∧ spot.offset = start ∧
        report.length = length ∧ diagnose text = [diagnostic] ∧
        (diagnostic.range.Denotes text start (start + length) ↔
          PairedReturns (text.take start) ∧
            ∀ c ∈ lineBefore (text.take start) ++ (text.drop start).take length,
              codeUnits c = 1) := by
  obtain ⟨passed, marked, rest, report, rfl, hmarked, hreport, hspot, hlength⟩ := exists_marked hrun
  have hdiagnose := diagnose_behind hrun hreport hspot hlength
  refine ⟨report, _, _, passed.length, marked.length, hreport, hspot, rfl, hlength, hdiagnose, ?_⟩
  rw [List.take_left, List.drop_left, List.take_left]
  exact Range.behind_denotes_iff passed rest hmarked

/-- A string of single code units and the line end above it do no harm. -/
theorem diagnose_denotes_iff_accented :
    let text := "\r\n\"é\" @".toList
    ∃ fault diagnostic, ({} : Lexer).run text = .error fault ∧ diagnose text = [diagnostic] ∧
      diagnostic.range.Denotes text 6 7 := by
  intro text
  have hrun : ({} : Lexer).run text = .error (.unmatched ⟨2, 5, 6⟩ ['@']
      [⟨.string, some (.text ['é']), "\"é\"".toList, some ⟨⟨2, 1, 2⟩, ⟨2, 4, 5⟩⟩⟩]) := by
    decide +kernel
  obtain ⟨report, spot, diagnostic, start, length, hreport, hspot, hstart, hlength, hdiagnose,
    hdenotes⟩ := diagnose_denotes_iff hrun
  cases hreport
  cases hspot
  obtain rfl : 6 = start := Int.natCast_inj.1 hstart
  obtain rfl : 1 = length := Int.natCast_inj.1 hlength
  have paired : PairedReturns ['\r', '\n', '"', 'é', '"', ' '] := by decide
  have hunits : ∀ c ∈ ['"', 'é', '"', ' ', '@'], codeUnits c = 1 := by simp [codeUnits]
  exact ⟨_, diagnostic, hrun, hdiagnose, hdenotes.2 ⟨paired, hunits⟩⟩

/-- Behind a character of two code units the range is one unit short: here it marks the blank between
the string and what no rule matches. -/
theorem diagnose_behind_astral :
    let text := "\"😀\" @".toList
    ({} : Lexer).run text = .error (.unmatched ⟨1, 5, 4⟩ ['@']
        [⟨.string, some (.text ['😀']), "\"😀\"".toList, some ⟨.start, ⟨1, 4, 3⟩⟩⟩]) ∧
      ∃ diagnostic, diagnose text = [diagnostic] ∧ diagnostic.range.Denotes text 3 4 ∧
        ¬ diagnostic.range.Denotes text 4 5 := by
  intro text
  have hrun : ({} : Lexer).run text = .error (.unmatched ⟨1, 5, 4⟩ ['@']
      [⟨.string, some (.text ['😀']), "\"😀\"".toList, some ⟨.start, ⟨1, 4, 3⟩⟩⟩]) := by
    decide +kernel
  have hdiagnose : diagnose text =
      [.error ⟨0, 4, 5⟩ "no rule matches input at offset 4: '@'".toList] := by decide +kernel
  have hblank : Range.Denotes ⟨0, 4, 5⟩ text 3 4 := ⟨0, 4, 5, rfl, by decide +kernel, by decide +kernel⟩
  refine ⟨hrun, _, hdiagnose, hblank, fun h => ?_⟩
  cases (hblank.unique h).1

end LispLex
