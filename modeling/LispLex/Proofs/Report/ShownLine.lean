-- SUMMARY: When the source line of a report is the line of its position.
import LispLex.Proofs.Run.Located
import LispLex.Proofs.Run.Offence
import LispLex.Proofs.Run.Step
import LispLex.Proofs.Text.BrokenLines

/-!
# The line that a report shows

A report counts lines as an editor breaks them, a position counts line feeds. So a report shows the
line of its position if nothing but line feeds breaks lines above it, and as far as nothing else
breaks that line itself. Otherwise it shows a line from further up.
-/

namespace LispLex

/-- The line of a source that the offset is on, without the line feed that ends it. -/
def lineAt (source : Text) (offset : Nat) : Text :=
  lineBefore (source.take offset) ++ lineAfter (source.drop offset)

/-- All lines above the one that the offset is on, each with its line feed. -/
def linesAbove (source : Text) (offset : Nat) : Text :=
  (source.take offset).rdropWhile (· != '\n')

/-- What a report shows of a line. -/
def withoutBreak (line : Text) : Text :=
  dropTrailing '\r' (dropTrailing '\n' line)

/-! ## One line -/

section Line

variable {body tail : Text}

theorem withoutBreak_isPrefix (line : Text) : withoutBreak line <+: line :=
  (List.rdropWhile_prefix _ _).trans (List.rdropWhile_prefix _ _)

theorem dropTrailing_of_not_mem {c : Char} {text : Text} (h : c ∉ text) :
    dropTrailing c text = text := by
  refine List.rdropWhile_eq_self_iff.2 fun hne hlast => h ?_
  rw [← beq_iff_eq.1 hlast]
  exact List.getLast_mem hne

theorem dropTrailing_concat_self (c : Char) (text : Text) :
    dropTrailing c (text ++ [c]) = dropTrailing c text :=
  List.rdropWhile_concat_pos _ _ _ (beq_self_eq_true c)

theorem dropTrailing_concat_of_ne {c d : Char} (h : d ≠ c) (text : Text) :
    dropTrailing c (text ++ [d]) = text ++ [d] :=
  List.rdropWhile_concat_neg _ _ _ (by simpa using h)

/-- The ways a line can end behind what is shown of it. -/
def lineEnds : List Text :=
  [[], ['\n'], ['\r'], ['\r', '\n']]

theorem withoutBreak_append (hbody : dropTrailing '\r' body = body) (hfeed : '\n' ∉ body)
    {ending : Text} (h : ending ∈ lineEnds) : withoutBreak (body ++ ending) = body := by
  have hkept := dropTrailing_of_not_mem hfeed
  have hreturn := dropTrailing_concat_of_ne (show '\r' ≠ '\n' by decide) body
  simp only [lineEnds, List.mem_cons, List.not_mem_nil, or_false] at h
  rcases h with rfl | rfl | rfl | rfl
  · rw [withoutBreak, List.append_nil, hkept, hbody]
  · rw [withoutBreak, dropTrailing_concat_self, hkept, hbody]
  · rw [withoutBreak, hreturn, dropTrailing_concat_self, hbody]
  · rw [withoutBreak, List.append_cons, dropTrailing_concat_self, hreturn,
      dropTrailing_concat_self, hbody]

/-- Of several carriage returns at the end of a line, the first one ends it for an editor. -/
theorem firstLine_returns {returns : Text} (hreturns : ∀ c ∈ returns, c = '\r')
    (htail : ∀ c ∈ tail.head?, c = '\n') : firstLine (returns ++ tail) ∈ lineEnds := by
  cases returns with
  | nil =>
    cases tail with
    | nil => simp [lineEnds]
    | cons c tail =>
      obtain rfl := htail c rfl
      simp [firstLine_of_break (breaksBetween_feed tail), lineEnds]
  | cons c returns =>
    obtain rfl := hreturns c List.mem_cons_self
    rw [List.cons_append]
    generalize returns ++ tail = rest
    by_cases hbreak : BreaksBetween '\r' rest
    · simp [firstLine_of_break hbreak, lineEnds]
    · have hfeed : rest.head? = some '\n' := by
        by_contra hfeed
        exact hbreak ⟨rfl, fun hreturn => hfeed hreturn.2⟩
      obtain ⟨more, rfl⟩ := List.head?_eq_some_iff.1 hfeed
      simp [firstLine_of_no_break hbreak, firstLine_of_break (breaksBetween_feed more), lineEnds]

/-- A text starts with what is shown of its line; carriage returns follow, and then nothing or a
line feed. -/
theorem exists_line_parts (text : Text) :
    ∃ returns tail, text = dropTrailing '\r' (lineAfter text) ++ (returns ++ tail) ∧
      (∀ c ∈ returns, c = '\r') ∧ ∀ c ∈ tail.head?, c = '\n' := by
  refine ⟨(lineAfter text).rtakeWhile (· == '\r'), text.dropWhile (· != '\n'), ?_, ?_, ?_⟩
  · rw [← List.append_assoc]
    have hline : dropTrailing '\r' (lineAfter text) ++ (lineAfter text).rtakeWhile (· == '\r') =
        lineAfter text := List.rdropWhile_append_rtakeWhile
    rw [hline]
    exact List.takeWhile_append_dropWhile.symm
  · intro c hc
    simpa using List.mem_rtakeWhile_imp hc
  · intro c hc
    simpa using head_dropWhile_not (· != '\n') text c hc

/-- A break before the last character of a text makes its first line too short to be shown as it. -/
theorem unbroken_of_shown {rest : Text} (hfeed : '\n' ∉ body)
    (hshown : withoutBreak (firstLine (body ++ rest)) = body) :
    ∀ c ∈ body.dropLast, isLineBreak c = false := by
  intro c hc
  by_contra hbreak
  obtain ⟨before, after, hbefore⟩ := List.append_of_mem hc
  obtain ⟨last, rfl⟩ : ∃ last, body = before ++ c :: (after ++ [last]) := by
    rcases List.eq_nil_or_concat' body with rfl | ⟨start, last, rfl⟩
    · cases hc
    · rw [List.dropLast_concat] at hbefore
      exact ⟨last, by simp [hbefore]⟩
  have hbetween : BreaksBetween c (after ++ [last] ++ rest) := by
    refine ⟨by simpa using hbreak, fun hreturn => hfeed ?_⟩
    rw [List.head?_append_of_ne_nil _ (after.concat_ne_nil last)] at hreturn
    exact List.mem_append_right _ (List.mem_cons_of_mem c (List.mem_of_mem_head? hreturn.2))
  have hlength := (withoutBreak_isPrefix _).length_le.trans
    (length_firstLine_le before hbetween)
  rw [← List.cons_append, ← List.append_assoc, hshown] at hlength
  simp only [List.length_append, List.length_cons, List.length_nil] at hlength
  omega

/-- Without such a break, the first line has the text whole and is shown as it. -/
theorem shown_of_unbroken {rest : Text} (hbody : dropTrailing '\r' body = body)
    (hfeed : '\n' ∉ body) (hends : firstLine rest ∈ lineEnds)
    (hfree : ∀ c ∈ body.dropLast, isLineBreak c = false) :
    withoutBreak (firstLine (body ++ rest)) = body := by
  rcases List.eq_nil_or_concat' body with rfl | ⟨start, last, rfl⟩
  · exact withoutBreak_append hbody hfeed hends
  · rw [List.dropLast_concat] at hfree
    rw [List.append_assoc, List.singleton_append, firstLine_append hfree]
    by_cases hbreak : BreaksBetween last rest
    · have hnil : [] ∈ lineEnds := List.mem_cons_self
      rw [firstLine_of_break hbreak]
      simpa using withoutBreak_append hbody hfeed hnil
    · rw [firstLine_of_no_break hbreak, List.append_cons]
      exact withoutBreak_append hbody hfeed hends

/-- The first line of a text is shown as the line up to the first line feed exactly if nothing
breaks that line before its last character. -/
theorem withoutBreak_firstLine_iff (text : Text) :
    withoutBreak (firstLine text) = dropTrailing '\r' (lineAfter text) ↔
      ∀ c ∈ (dropTrailing '\r' (lineAfter text)).dropLast, isLineBreak c = false := by
  obtain ⟨returns, tail, htext, hreturns, htail⟩ := exists_line_parts text
  have hbody : dropTrailing '\r' (dropTrailing '\r' (lineAfter text)) =
      dropTrailing '\r' (lineAfter text) := List.rdropWhile_idempotent _ _
  have hfeed : '\n' ∉ dropTrailing '\r' (lineAfter text) :=
    mt (fun hmem => (List.rdropWhile_prefix _ _).subset hmem) (feed_not_mem_lineAfter text)
  generalize dropTrailing '\r' (lineAfter text) = body at htext hbody hfeed
  subst htext
  exact ⟨unbroken_of_shown hfeed,
    shown_of_unbroken hbody hfeed (firstLine_returns hreturns htail)⟩

end Line

/-! ## The lines of a source -/

section Source

variable (source : Text) (offset : Nat)

theorem linesAbove_append_lineBefore :
    linesAbove source offset ++ lineBefore (source.take offset) = source.take offset :=
  List.rdropWhile_append_rtakeWhile

theorem linesAbove_append :
    linesAbove source offset ++ (lineBefore (source.take offset) ++ source.drop offset) =
      source := by
  rw [← List.append_assoc, linesAbove_append_lineBefore, List.take_append_drop]

theorem count_linesAbove :
    (source.take offset).count '\n' = (linesAbove source offset).count '\n' := by
  have hcount := congrArg (List.count '\n') (linesAbove_append_lineBefore source offset)
  rw [List.count_append, List.count_eq_zero.2 (feed_not_mem_lineBefore _), Nat.add_zero] at hcount
  exact hcount.symm

theorem wholeLines_linesAbove : WholeLines (linesAbove source offset) := by
  unfold linesAbove
  by_cases hfeed : '\n' ∈ source.take offset
  · obtain ⟨before, after, hpassed, hafter⟩ := exists_last_occurrence hfeed
    rw [hpassed, rdropWhile_append_last before hafter]
    exact .feed before
  · rw [List.rdropWhile_eq_nil_iff.2 (bne_of_not_mem hfeed)]
    exact .nil

theorem lineAt_eq_lineAfter :
    lineAt source offset = lineAfter (lineBefore (source.take offset) ++ source.drop offset) := by
  have hbefore := bne_of_not_mem (feed_not_mem_lineBefore (source.take offset))
  rw [lineAt, lineAfter, lineAfter, List.takeWhile_append_of_pos hbefore]

end Source

namespace Position.LocatedIn

variable {source : Text} {position : Position}

/-- The line shown is counted among the lines above and those from there on. -/
theorem shownLine_eq (h : position.LocatedIn source) :
    shownLine source position.line =
      withoutBreak (((brokenLines (linesAbove source position.offset) ++
        brokenLines (lineBefore (source.take position.offset) ++ source.drop position.offset))[
          (linesAbove source position.offset).count '\n']?).getD []) := by
  have hline : ¬ (position.line : Int) < 1 := by
    have := h.line_eq
    omega
  have hindex : (position.line : Int).toNat - 1 = (linesAbove source position.offset).count '\n' := by
    rw [← count_linesAbove, h.line_eq]
    omega
  rw [shownLine, if_neg hline, hindex, withoutBreak,
    ← (wholeLines_linesAbove source position.offset).brokenLines_append, linesAbove_append]

/-- If nothing but line feeds breaks the lines above a position, then its line is shown exactly if
nothing breaks it before its last character. -/
theorem shownLine_eq_iff (h : position.LocatedIn source)
    (habove : BreaksAtFeeds (linesAbove source position.offset)) :
    shownLine source position.line = dropTrailing '\r' (lineAt source position.offset) ↔
      ∀ c ∈ (dropTrailing '\r' (lineAt source position.offset)).dropLast, isLineBreak c = false := by
  rw [h.shownLine_eq, ← (wholeLines_linesAbove source _).length_brokenLines habove,
    List.getElem?_append_right (Nat.le_refl _), Nat.sub_self, ← List.head?_eq_getElem?,
    ← List.headD_eq_head?_getD, lineAt_eq_lineAfter]
  exact withoutBreak_firstLine_iff _

/-- If something else does, then a line above the position is shown. -/
theorem shownLine_infix (h : position.LocatedIn source)
    (habove : ¬BreaksAtFeeds (linesAbove source position.offset)) :
    shownLine source position.line <:+: linesAbove source position.offset := by
  have hlt := (wholeLines_linesAbove source position.offset).count_lt_length_brokenLines habove
  rw [h.shownLine_eq, List.getElem?_append_left hlt, List.getElem?_eq_getElem hlt, Option.getD_some]
  exact (withoutBreak_isPrefix _).isInfix.trans (infix_of_mem_brokenLines (List.getElem_mem hlt))

end Position.LocatedIn

namespace Lexer

/-- The report of a fault is about a position in the source. -/
theorem report_located {lexer : Lexer} {source : Text} {fault : Fault} {report : Report}
    (hrun : lexer.run source = .error fault) (hreport : fault.report source = .ok report) :
    ∃ position, fault.position? = some position ∧ report.spot = some position.spot ∧
      report.source = source ∧ position.LocatedIn source := by
  have hends := lexer.run_ends source
  rw [hrun] at hends
  obtain ⟨passed, c, rest, tokens, hreaches, ⟨-, rfl⟩ | ⟨-, -, valueFault, -, -, rfl⟩⟩ :=
    hends.fault_cases
  · cases hreport
    exact ⟨_, rfl, rfl, rfl, hreaches.located⟩
  · cases valueFault with
    | overflow =>
      cases hreport
      exact ⟨_, rfl, rfl, rfl, hreaches.located⟩
    | invalid => cases hreport

/-- If nothing but line feeds breaks lines above its position, the fourth row of a report shows the
line of that position, without the carriage returns at its end, exactly if nothing breaks the line
itself before its last character. If something else breaks lines above, a line from there is
shown. -/
theorem run_shownRow (lexer : Lexer) (source file : Text) {fault : Fault} {report : Report}
    (hrun : lexer.run source = .error fault) (hreport : fault.report source = .ok report) :
    ∃ position shown, fault.position? = some position ∧
      (report.rows file)[3]? = some (decimal position.line ++ [' ', '|', ' '] ++ shown) ∧
      (BreaksAtFeeds (linesAbove source position.offset) →
        (shown = dropTrailing '\r' (lineAt source position.offset) ↔
          ∀ c ∈ (dropTrailing '\r' (lineAt source position.offset)).dropLast,
            isLineBreak c = false)) ∧
      (¬BreaksAtFeeds (linesAbove source position.offset) →
        shown <:+: linesAbove source position.offset) := by
  obtain ⟨position, hposition, hspot, hsource, hlocated⟩ := report_located hrun hreport
  refine ⟨position, shownLine source position.line, hposition, ?_, hlocated.shownLine_eq_iff,
    hlocated.shownLine_infix⟩
  simp only [Report.rows, hspot, hsource]
  rfl

/-- Line ends of two characters break lines at line feeds only. -/
theorem run_shownRow_second :
    ∃ fault report, ({} : Lexer).run "a\r\nb @\r\n".toList = .error fault ∧
      fault.report "a\r\nb @\r\n".toList = .ok report ∧
      (report.rows "input.lisp".toList)[3]? = some "2 | b @".toList := by
  have hrun : ({} : Lexer).run "a\r\nb @\r\n".toList = .error (.unmatched ⟨2, 3, 5⟩ ['@', '\r']
      [⟨.identifier, some (.text ['a']), ['a'], some ⟨.start, ⟨1, 2, 1⟩⟩⟩,
        ⟨.identifier, some (.text ['b']), ['b'], some ⟨⟨2, 1, 3⟩, ⟨2, 2, 4⟩⟩⟩]) := by
    decide +kernel
  refine ⟨_, _, hrun, rfl, ?_⟩
  obtain ⟨position, shown, hposition, hrow, hshown, -⟩ :=
    run_shownRow {} _ "input.lisp".toList hrun rfl
  cases hposition
  have habove : BreaksAtFeeds (linesAbove "a\r\nb @\r\n".toList 5) := by decide
  have hunbroken : ∀ c ∈ ['b', ' '], isLineBreak c = false :=
    List.forall_mem_cons.2 ⟨rfl, List.forall_mem_singleton.2 rfl⟩
  have hline : shown = "b @".toList := (hshown habove).2 hunbroken
  rwa [hline] at hrow

/-- A carriage return alone breaks the first line, so the report on the second one shows the other
half of the first. -/
theorem shownRow_below_return :
    ∃ fault position report, ({} : Lexer).run "a\rb\n@".toList = .error fault ∧
      fault.position? = some position ∧ fault.report "a\rb\n@".toList = .ok report ∧
      (report.rows "input.lisp".toList)[3]? = some "2 | b".toList ∧
      dropTrailing '\r' (lineAt "a\rb\n@".toList position.offset) = ['@'] := by
  have hrun : ({} : Lexer).run "a\rb\n@".toList = .error (.unmatched ⟨2, 1, 4⟩ ['@']
      [⟨.identifier, some (.text ['a']), ['a'], some ⟨.start, ⟨1, 2, 1⟩⟩⟩,
        ⟨.identifier, some (.text ['b']), ['b'], some ⟨⟨1, 3, 2⟩, ⟨1, 4, 3⟩⟩⟩]) := by
    decide +kernel
  exact ⟨_, _, _, hrun, rfl, rfl, rfl, rfl⟩

end Lexer

end LispLex
