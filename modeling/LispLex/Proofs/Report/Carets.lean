-- SUMMARY: The rows of a report and the characters above its carets.
import LispLex.Proofs.Report.ShownLine
import LispLex.Proofs.Text.FeedLines
import LispLex.Proofs.Text.Quoted
import LispLex.Proofs.Token.Stop

/-!
# What the carets underline

A report has five rows: the message, the place, an empty margin, the source line, and carets. If
nothing but line feeds, with or without a carriage return before them, breaks the lines of a source,
then the carets stand below the text that the report is about, and below nothing else.
-/

namespace LispLex

/-! ## Rows and carets -/

/-- The characters of a row above the carets of the row below it; none where the row is too short. -/
def aboveCarets (row below : Text) : List (Option Char) :=
  (below.findIdxs (· == '^')).map (row[·]?)

theorem findIdxs_replicate_self (count start : Nat) :
    (List.replicate count '^').findIdxs (· == '^') start = List.range' start count := by
  induction count generalizing start with
  | zero => rfl
  | succ count ih =>
    rw [List.replicate_succ, List.findIdxs_cons, if_pos (beq_self_eq_true '^'), ih, List.range'_succ]

/-- Carets behind as many other characters as stand before a text underline the text. -/
theorem aboveCarets_append {before marked blanks : Text} (after : Text)
    (hlength : blanks.length = before.length) (hblanks : '^' ∉ blanks) :
    aboveCarets (before ++ (marked ++ after)) (blanks ++ List.replicate marked.length '^') =
      marked.map some := by
  have hnone : blanks.findIdxs (· == '^') = [] :=
    List.findIdxs_eq_nil_iff.2 fun c hc => beq_false_of_ne fun heq => hblanks (heq ▸ hc)
  rw [aboveCarets, List.findIdxs_append, hnone, List.nil_append, findIdxs_replicate_self,
    Nat.zero_add, hlength]
  refine List.ext_getElem (by simp) fun index hindex _ => ?_
  have hlt : index < marked.length := by simpa using hindex
  simp only [List.getElem_map, List.getElem_range', Nat.one_mul]
  rw [List.getElem?_append_right (Nat.le_add_right _ _), Nat.add_sub_cancel_left,
    List.getElem?_append_left hlt, List.getElem?_eq_getElem hlt]

/-- As long as the line goes on to the end of the text, there are carets for all of it. -/
theorem caretCount_eq {width before length : Nat} (hpos : 0 < length)
    (hwidth : before + length ≤ width) : caretCount width ↑(before + 1) length = length := by
  unfold caretCount
  omega

/-! ## What a report is about -/

/-- The report is about `marked`, which stands behind `passed` in the source and has no blank. -/
structure Report.IsAbout (report : Report) (source passed marked rest : Text) : Prop where
  source_eq : source = passed ++ (marked ++ rest)
  shown_eq : report.source = source
  spot_eq : report.spot = some (Position.after passed).spot
  length_eq : report.length = marked.length
  ne_nil : marked ≠ []
  notBlank : ∀ c ∈ marked, isBlank c = false
  message : Unbroken report.message

theorem unbroken_unmatchedMessage (offset : Int) (snippet : Text) :
    Unbroken (unmatchedMessage offset snippet) := by
  have htext : Unbroken "no rule matches input at offset ".toList := by decide
  have hcolon : Unbroken [':', ' '] := by decide
  exact ((htext.append (unbroken_signedDecimal offset)).append hcolon).append
    (unbroken_quoted snippet)

theorem unbroken_abridged {literal : Text} (h : Unbroken literal) : Unbroken (abridged literal) := by
  unfold abridged
  split
  · exact h
  · have htaken : Unbroken (literal.take 20) := fun c hc => h c (List.mem_of_mem_take hc)
    exact htaken.append (by decide)

theorem unbroken_overflowMessage {literal : Text} (h : Unbroken literal) (ceiling : Option Int) :
    Unbroken (overflowMessage literal ceiling) := by
  have hstart : Unbroken "number literal ".toList := by decide
  refine (hstart.append (unbroken_abridged h)).append ?_
  cases ceiling with
  | none =>
    have hmore : Unbroken " has more than ".toList := by decide
    have hdigits : Unbroken " digits".toList := by decide
    exact (hmore.append (unbroken_decimal digitLimit)).append hdigits
  | some m =>
    have hexceeds : Unbroken " exceeds maximum ".toList := by decide
    exact hexceeds.append (unbroken_signedDecimal m)

theorem eq_of_overflowOf {ceiling limit : Option Int} {raw literal : Text}
    (h : ValueFault.overflowOf raw ceiling = .overflow literal limit) : literal = raw := by
  unfold ValueFault.overflowOf at h
  split at h
  · exact (ValueFault.overflow.inj h).1.symm
  · cases h

/-- Only a run of digits overflows, and the fault names it. -/
theorem Kind.overflow_of_value? {ceiling limit : Option Int} {kind : Kind} {raw literal : Text}
    (h : kind.value? ceiling raw = .error (.overflow literal limit)) :
    IsDigitRun raw ∧ literal = raw := by
  cases kind with
  | number =>
    have hnumber := numberValue_of_value?_error h
    by_cases hrun : IsDigitRun raw
    · obtain ⟨limit', hfault, -⟩ := hrun.exists_overflowOf hnumber
      exact ⟨hrun, eq_of_overflowOf hfault.symm⟩
    · rw [numberValue_of_not_run hrun] at hnumber
      cases hnumber
  | _ => cases h

namespace Lexer

variable {lexer : Lexer} {source : Text} {fault : Fault} {report : Report}

/-- A report is about the character at which no rule matches, or about the digits that overflow. -/
theorem exists_isAbout (hrun : lexer.run source = .error fault)
    (hreport : fault.report source = .ok report) :
    ∃ passed marked rest, report.IsAbout source passed marked rest ∧
      ((∃ c snippet committed, marked = [c] ∧
          fault = .unmatched (.after passed) snippet committed) ∨
        ∃ limit, fault = .overflow (.after passed) marked limit) := by
  have hends := lexer.run_ends source
  rw [hrun] at hends
  obtain ⟨passed, c, rest, tokens, hreaches, ⟨-, rfl⟩ | ⟨kind, raw, valueFault, hfirst, hvalue, rfl⟩⟩ :=
    hends.fault_cases
  · cases hreport
    refine ⟨passed, [c], rest, ?_, .inl ⟨c, _, _, rfl, rfl⟩⟩
    exact ⟨hreaches.source_eq, rfl, rfl, rfl, List.cons_ne_nil c [],
      List.forall_mem_singleton.2 hreaches.notBlank, unbroken_unmatchedMessage _ _⟩
  · cases valueFault with
    | invalid => cases hreport
    | overflow literal limit =>
      obtain ⟨hdigits, rfl⟩ := Kind.overflow_of_value? hvalue
      obtain ⟨more, hmore⟩ := hfirst.isPrefix
      have hsource : source = passed ++ (literal ++ more) := by rw [hmore, hreaches.source_eq]
      cases hreport
      refine ⟨passed, literal, more, ?_, .inr ⟨limit, rfl⟩⟩
      exact ⟨hsource, rfl, rfl, rfl, hdigits.ne_nil, hdigits.not_blank,
        unbroken_overflowMessage hdigits.unbroken limit⟩

end Lexer

/-! ## The line shown -/

/-- Of a line, nothing is cut off up to a character that is no carriage return. -/
theorem exists_dropTrailing_append {c : Char} {text : Text} (htext : dropTrailing c text = text)
    (after : Text) : ∃ kept, kept <+: after ∧ dropTrailing c (text ++ after) = text ++ kept := by
  induction after using List.reverseRecOn with
  | nil => exact ⟨[], List.prefix_rfl, by rw [List.append_nil, htext]⟩
  | append_singleton after d ih =>
    rw [← List.append_assoc]
    by_cases hd : d = c
    · obtain ⟨kept, hstart, hkept⟩ := ih
      refine ⟨kept, hstart.trans (List.prefix_append after [d]), ?_⟩
      rw [hd, dropTrailing_concat_self, hkept]
    · exact ⟨after ++ [d], List.prefix_rfl, by
        rw [dropTrailing_concat_of_ne hd, List.append_assoc]⟩

/-- If lines are broken at line feeds only, every place of a source is shown with its own line. -/
theorem Position.LocatedIn.shownLine_of_breaksAtFeeds {source : Text} {position : Position}
    (h : position.LocatedIn source) (hbreaks : BreaksAtFeeds source) :
    shownLine source position.line = dropTrailing '\r' (lineAt source position.offset) := by
  have hparts := linesAbove_append source position.offset
  rw [← hparts] at hbreaks
  have habove := (wholeLines_linesAbove source position.offset).breaksAtFeeds hbreaks
  refine (h.shownLine_eq_iff habove).2 ?_
  have hfeed : '\n' ∉ dropTrailing '\r' (lineAt source position.offset) := by
    rw [lineAt_eq_lineAfter]
    exact mt (fun hmem => (List.rdropWhile_prefix _ _).subset hmem) (feed_not_mem_lineAfter _)
  obtain ⟨returns, tail, hline, -, -⟩ :=
    exists_line_parts (lineBefore (source.take position.offset) ++ source.drop position.offset)
  rw [← lineAt_eq_lineAfter] at hline
  have hbelow := hbreaks.right
  rw [hline] at hbelow
  exact hbelow.unbroken_dropLast hfeed

namespace Report.IsAbout

variable {report : Report} {source passed marked rest : Text}

theorem feed_not_mem (h : report.IsAbout source passed marked rest) : '\n' ∉ marked :=
  fun hmem => absurd (h.notBlank '\n' hmem) (by decide)

/-- The line shown has the text that a report is about behind all that stands before it. -/
theorem exists_shown (h : report.IsAbout source passed marked rest)
    (hbreaks : BreaksAtFeeds source) :
    ∃ after, shownLine source (Position.after passed).line =
      lineBefore passed ++ (marked ++ after) ∧ '\n' ∉ after := by
  have hlocated := Position.after_locatedIn passed (marked ++ rest)
  rw [← h.source_eq] at hlocated
  have hline : lineAt source (Position.after passed).offset =
      lineBefore passed ++ marked ++ lineAfter rest := by
    have hmarked := bne_of_not_mem h.feed_not_mem
    rw [Position.after_offset, h.source_eq, lineAt, List.take_left, List.drop_left, lineAfter,
      List.takeWhile_append_of_pos hmarked, List.append_assoc]
    rfl
  -- the last character of the text is no blank, so it is no carriage return
  have hkept : dropTrailing '\r' (lineBefore passed ++ marked) = lineBefore passed ++ marked := by
    obtain ⟨start, last, hmarked⟩ := (List.eq_nil_or_concat' marked).resolve_left h.ne_nil
    have hlast : last ≠ '\r' := by
      rintro rfl
      cases h.notBlank '\r' (by simp [hmarked])
    rw [hmarked, ← List.append_assoc, dropTrailing_concat_of_ne hlast]
  obtain ⟨after, hstart, hafter⟩ := exists_dropTrailing_append hkept (lineAfter rest)
  rw [hlocated.shownLine_of_breaksAtFeeds hbreaks, hline, hafter, List.append_assoc]
  exact ⟨after, rfl, fun hmem => feed_not_mem_lineAfter rest (hstart.subset hmem)⟩

/-- Where the text of the line starts, behind its number and a bar, the blanks before the carets start
as well. -/
theorem rows_eq (h : report.IsAbout source passed marked rest) (hbreaks : BreaksAtFeeds source)
    (file : Text) :
    ∃ line column after, Unbroken line ∧ Unbroken column ∧ '\n' ∉ after ∧ report.rows file =
      ["error: ".toList ++ report.message,
       spaces (line.length + 1) ++ ['-', '-', '>', ' '] ++ file ++ [':'] ++ line ++ [':'] ++ column,
       spaces (line.length + 1) ++ ['|'],
       line ++ [' ', '|', ' '] ++ (lineBefore passed ++ (marked ++ after)),
       spaces (line.length + 1) ++ ['|', ' '] ++ spaces (lineBefore passed).length ++
         List.replicate marked.length '^'] := by
  obtain ⟨after, hshown, hafter⟩ := h.exists_shown hbreaks
  have hcolumn : (Position.after passed).column = (lineBefore passed).length + 1 :=
    Position.after_column passed
  have hbefore : (((lineBefore passed).length + 1 : Nat) : Int) - 1 = (lineBefore passed).length := by
    omega
  have hwidth : (lineBefore passed).length + marked.length ≤
      (lineBefore passed ++ (marked ++ after)).length := by
    simp only [List.length_append]
    omega
  have hcount := caretCount_eq (List.length_pos_iff.2 h.ne_nil) hwidth
  refine ⟨_, _, after, unbroken_signedDecimal (Position.after passed).line,
    unbroken_signedDecimal (Position.after passed).column, hafter, ?_⟩
  rw [Report.rows, h.spot_eq]
  simp only [placeRows, Position.spot, h.shown_eq, hshown, hcolumn, h.length_eq, hcount, hbefore,
    Int.toNat_natCast]

/-- The report has five rows, and its carets underline what it is about. -/
theorem exists_rows (h : report.IsAbout source passed marked rest) (hbreaks : BreaksAtFeeds source)
    {file : Text} (hfile : '\n' ∉ file) :
    ∃ message place margin shown carets,
      feedLines (report.render file) = [message, place, margin, shown, carets] ∧
      aboveCarets shown carets = marked.map some := by
  obtain ⟨line, column, after, hline, hcolumn, hafter, hrows⟩ := h.rows_eq hbreaks file
  have hspaces (count : Nat) : '\n' ∉ spaces count := by simp [spaces]
  have hfeeds : ∀ row ∈ report.rows file, '\n' ∉ row := by
    rw [hrows]
    simp [hspaces, h.message.feed_not_mem, hfile, hline.feed_not_mem, hcolumn.feed_not_mem, hafter,
      feed_not_mem_lineBefore, h.feed_not_mem]
  have hlines : feedLines (report.render file) = report.rows file :=
    feedLines_intercalate (by simp [hrows]) hfeeds
  refine ⟨_, _, _, _, _, hlines.trans hrows, ?_⟩
  rw [← List.append_assoc (line ++ [' ', '|', ' '])]
  refine aboveCarets_append after ?_ ?_
  · simp [spaces]
    omega
  · simp [spaces]

end Report.IsAbout

namespace Lexer

/-- If nothing but line feeds, with or without a carriage return before them, breaks the lines of a
source, then its reports have five rows, and the carets of the fifth row stand below the one character
of the fourth that no rule matches, or below all digits of the number that is too large. -/
theorem run_underlines {lexer : Lexer} {source file : Text} {fault : Fault} {report : Report}
    (hfile : '\n' ∉ file) (hbreaks : BreaksAtFeeds source) (hrun : lexer.run source = .error fault)
    (hreport : fault.report source = .ok report) :
    ∃ message place margin shown carets,
      feedLines (report.render file) = [message, place, margin, shown, carets] ∧
      (∀ position snippet committed, fault = .unmatched position snippet committed →
        ∃ c, source[position.offset]? = some c ∧ aboveCarets shown carets = [some c]) ∧
      (∀ position literal limit, fault = .overflow position literal limit →
        aboveCarets shown carets = literal.map some) := by
  obtain ⟨passed, marked, rest, habout, hfault⟩ := exists_isAbout hrun hreport
  obtain ⟨message, place, margin, shown, carets, hrows, hcarets⟩ := habout.exists_rows hbreaks hfile
  refine ⟨message, place, margin, shown, carets, hrows, ?_, ?_⟩
  · rintro position snippet committed rfl
    rcases hfault with ⟨c, _, _, rfl, hunmatched⟩ | ⟨_, hoverflow⟩
    · cases hunmatched
      exact ⟨c, by simp [habout.source_eq], hcarets⟩
    · cases hoverflow
  · rintro position literal limit rfl
    rcases hfault with ⟨_, _, _, -, hunmatched⟩ | ⟨_, hoverflow⟩
    · cases hunmatched
    · cases hoverflow
      exact hcarets

/-- A number on the second line, behind a tab, with a carriage return behind it. -/
theorem run_underlines_number :
    let lexer : Lexer := { ceiling := some 9 }
    let source := "(a\r\n\t0123\r\n)".toList
    '\n' ∉ "a.lisp".toList ∧ BreaksAtFeeds source ∧
      ∃ report message place margin shown carets,
        lexer.run source = .error (.overflow ⟨2, 2, 5⟩ "0123".toList (some 9)) ∧
        (Fault.overflow ⟨2, 2, 5⟩ "0123".toList (some 9)).report source = .ok report ∧
        feedLines (report.render "a.lisp".toList) = [message, place, margin, shown, carets] ∧
        aboveCarets shown carets = "0123".toList.map some := by
  intro lexer source
  have hfile : '\n' ∉ "a.lisp".toList := by decide
  have hbreaks : BreaksAtFeeds source := by decide
  have hrun : lexer.run source = .error (.overflow ⟨2, 2, 5⟩ "0123".toList (some 9)) := by
    decide +kernel
  obtain ⟨message, place, margin, shown, carets, hrows, -, hcarets⟩ :=
    run_underlines hfile hbreaks hrun rfl
  exact ⟨hfile, hbreaks, _, message, place, margin, shown, carets, hrun, rfl, hrows,
    hcarets _ _ _ rfl⟩

end Lexer

end LispLex
