-- SUMMARY: Specification of diagnostics: which documents have one, and the text, place and message of it.
import LispLex.Editor
import LispLex.Proofs.Report.Carets
import LispLex.Proofs.Run.LineGrammar

/-!
# What diagnostics mark

A document has one diagnostic or none: none if it lexes, and otherwise one that marks exactly the text
that is wrong, on a single line, at the leftmost offence of the document. Lines are cut at line feeds
here and characters are code points.
-/

namespace LispLex

/-- The range marks `marked`, which is not empty, inside of one line of the text. -/
def Range.Marks (range : Range) (text marked : Text) : Prop :=
  ∃ (line first : Nat) (content : Text), range = ⟨line, first, first + marked.length⟩ ∧
    (feedLines text)[line]? = some content ∧ marked ≠ [] ∧
    first + marked.length ≤ content.length ∧ (content.drop first).take marked.length = marked

/-- Where a diagnostic marks `length` characters behind a text. -/
def Range.behind (passed : Text) (length : Nat) : Range :=
  ⟨passed.count '\n', (lineBefore passed).length, (lineBefore passed).length + length⟩

theorem Range.marks_behind (passed rest : Text) {marked : Text} (hne : marked ≠ [])
    (hfeed : '\n' ∉ marked) :
    (Range.behind passed marked.length).Marks (passed ++ (marked ++ rest)) marked := by
  refine ⟨_, _, _, rfl, feedLines_getElem?_count _ _, hne, ?_, ?_⟩
  · rw [List.takeWhile_append_of_pos (bne_of_not_mem hfeed)]
    simp only [lineBefore, List.length_append]
    omega
  · rw [List.takeWhile_append_of_pos (bne_of_not_mem hfeed), lineBefore, List.drop_left,
      List.take_left]

/-! ## One document -/

/-- A fault whose report has a place is told in one diagnostic. -/
theorem diagnose_of_report {text : Text} {fault : Fault} {report : Report} {spot : Spot}
    (hrun : ({} : Lexer).run text = .error fault) (hreport : fault.report text = .ok report)
    (hspot : report.spot = some spot) :
    diagnose text =
      [.error ⟨spot.line - 1, spot.column - 1, spot.column - 1 + report.length⟩ report.message] := by
  simp only [diagnose, hrun, hreport, Report.diagnostic?, hspot]
  rfl

/-- A fault whose report has its place behind `passed` is told in a diagnostic with its range there. -/
theorem diagnose_behind {text passed : Text} {fault : Fault} {report : Report} {length : Nat}
    (hrun : ({} : Lexer).run text = .error fault) (hreport : fault.report text = .ok report)
    (hspot : report.spot = some (Position.after passed).spot) (hlength : report.length = length) :
    diagnose text = [.error (.behind passed length) report.message] := by
  have hline : ((Position.after passed).line : Int) - 1 = passed.count '\n' := by
    simp only [Position.after]
    omega
  have hcolumn : ((Position.after passed).column : Int) - 1 = (lineBefore passed).length := by
    rw [Position.after_column, lineBefore]
    omega
  rw [diagnose_of_report hrun hreport hspot, hlength]
  simp only [Position.spot, hline, hcolumn, Range.behind]

/-- The diagnostic tells a fault of the text at an offset: the fault has a report, the report has a
place, and the diagnostic is an error with the message of the report, which marks `marked` at the
offset. -/
structure Diagnostic.Tells (diagnostic : Diagnostic) (text : Text) (fault : Fault) (offset : Nat)
    (marked : Text) : Prop where
  run : ({} : Lexer).run text = .error fault
  reported : ∃ report, fault.report text = .ok report ∧ report.spot.isSome ∧
    diagnostic.message = report.message
  severity_eq : diagnostic.severity = 1
  source_eq : diagnostic.source = "minilisp".toList
  stands : marked <+: text.drop offset
  range_eq : diagnostic.range = .behind (text.take offset) marked.length
  marks : diagnostic.range.Marks text marked

/-- A report about an offset is told in a diagnostic that marks what stands there. -/
theorem exists_tells {text marked rest : Text} {offset : Nat} {fault : Fault} {report : Report}
    (hstands : text.drop offset = marked ++ rest) (hrun : ({} : Lexer).run text = .error fault)
    (hreport : fault.report text = .ok report)
    (hspot : report.spot = some (Position.after (text.take offset)).spot)
    (hlength : report.length = marked.length) (hne : marked ≠ []) (hfeed : '\n' ∉ marked) :
    ∃ diagnostic, diagnose text = [diagnostic] ∧ diagnostic.Tells text fault offset marked := by
  have hmarks := Range.marks_behind (text.take offset) rest hne hfeed
  rw [← hstands, List.take_append_drop] at hmarks
  exact ⟨_, diagnose_behind hrun hreport hspot hlength, {
    run := hrun
    reported := ⟨report, hreport, by rw [hspot]; rfl, rfl⟩
    severity_eq := rfl
    source_eq := rfl
    stands := ⟨rest, hstands.symm⟩
    range_eq := rfl
    marks := hmarks }⟩

/-- With the standard ceiling only a number is refused, for being too large. -/
theorem refused_standardCeiling {kind : Kind} {text raw : Text} {fault : ValueFault}
    (hscan : kind.scan? text = some raw)
    (hvalue : kind.value? (some standardCeiling) raw = .error fault) :
    OffenceAt (some standardCeiling) text 0 (.tooLarge raw) ∧
      fault = .overflow raw (some standardCeiling) := by
  obtain ⟨hoffence, hfault⟩ := offenceAt_of_refused isModerate_standardCeiling hscan hvalue
  have hwritable : isWritable standardCeiling = true := by decide +kernel
  rw [overflowOf_of_le hwritable isModerate_standardCeiling (by simp)] at hfault
  exact ⟨hoffence, hfault⟩

/-- A fault of a text is about some characters of it, none of them a blank, and its report says which. -/
theorem exists_marked {text : Text} {fault : Fault} (hrun : ({} : Lexer).run text = .error fault) :
    ∃ passed marked rest report, text = passed ++ (marked ++ rest) ∧
      (∀ c ∈ marked, isBlank c = false) ∧ fault.report text = .ok report ∧
      report.spot = some (Position.after passed).spot ∧ report.length = marked.length := by
  have hrules : ({} : Lexer).rules = Kind.all.map .standard := rfl
  have hceiling : ({} : Lexer).ceiling = some standardCeiling := rfl
  obtain ⟨report, hreport⟩ :=
    Lexer.exists_report hrules hceiling (by decide) isModerate_standardCeiling hrun
  obtain ⟨passed, marked, rest, habout, -⟩ := Lexer.exists_isAbout hrun hreport
  exact ⟨passed, marked, rest, report, habout.source_eq, habout.notBlank, hreport, habout.spot_eq,
    habout.length_eq⟩

/-- What the diagnostics of a text have to be. -/
inductive Diagnoses (text : Text) : List Diagnostic → Prop
  | clean {tokens : List Token} (run : ({} : Lexer).run text = .ok tokens) : Diagnoses text []
  | unmatched {offset : Nat} {c : Char} {rest snippet : Text} {committed : List Token}
      {diagnostic : Diagnostic} (stands : text.drop offset = c :: rest)
      (norule : ∀ rule ∈ standardRules, rule.match? (c :: rest) = none)
      (leftmost : LeftmostOffence (some standardCeiling) text offset .stray)
      (tells : diagnostic.Tells text
        (.unmatched (.after (text.take offset)) snippet committed) offset [c]) :
      Diagnoses text [diagnostic]
  | overflow {offset : Nat} {literal : Text} {diagnostic : Diagnostic}
      (leftmost : LeftmostOffence (some standardCeiling) text offset (.tooLarge literal))
      (tells : diagnostic.Tells text
        (.overflow (.after (text.take offset)) literal (some standardCeiling)) offset literal) :
      Diagnoses text [diagnostic]

theorem diagnoses_diagnose (text : Text) : Diagnoses text (diagnose text) := by
  have hends := Lexer.run_ends (.standard (some standardCeiling) 20) text
  generalize hrun : (Lexer.standard (some standardCeiling) 20).run text = outcome at hends
  cases hends with
  | @finished tokens cut =>
    have hclean : diagnose text = [] := by
      simp only [diagnose, show ({} : Lexer).run text = .ok tokens from hrun]
    rw [hclean]
    exact .clean hrun
  | @unmatched passed rest c tokens reaches norule =>
    have hscan : ∀ kind : Kind, kind.scan? (c :: rest) = none :=
      fun kind => noRule_standard_iff.1 norule kind kind.mem_all
    have hleft := reaches.leftmostOffence isModerate_standardCeiling
      (offenceAt_of_unmatched reaches.notBlank hscan)
    have hfeed : '\n' ∉ [c] := by
      simpa using (ne_of_not_blank rfl reaches.notBlank).symm
    have hpassed : text.take passed.length = passed := by rw [reaches.source_eq, List.take_left]
    have hstands : text.drop passed.length = [c] ++ rest := by
      rw [reaches.source_eq, List.drop_left]
      rfl
    rw [← hpassed] at hrun
    obtain ⟨diagnostic, hdiagnose, htells⟩ :=
      exists_tells hstands hrun rfl rfl rfl (List.cons_ne_nil c []) hfeed
    rw [hdiagnose]
    exact .unmatched hstands norule hleft htells
  | @refused passed rest raw c tokens kind fault reaches first value_eq =>
    have hscan := Lexer.firstRule_standard.1 first
    obtain ⟨hoffence, hfault⟩ := refused_standardCeiling hscan value_eq
    have hleft := reaches.leftmostOffence isModerate_standardCeiling hoffence
    obtain ⟨more, hmore⟩ := first.isPrefix
    have hpassed : text.take passed.length = passed := by rw [reaches.source_eq, List.take_left]
    have hstands : text.drop passed.length = raw ++ more := by
      rw [reaches.source_eq, List.drop_left, hmore]
    rw [hfault, ← hpassed] at hrun
    obtain ⟨diagnostic, hdiagnose, htells⟩ :=
      exists_tells hstands hrun rfl rfl rfl first.ne_nil (Kind.feed_not_mem_of_scan? hscan)
    rw [hdiagnose]
    exact .overflow hleft htells

/-- There is no diagnostic exactly if the text lexes. -/
theorem Diagnoses.eq_nil_iff {text : Text} {diagnostics : List Diagnostic}
    (h : Diagnoses text diagnostics) :
    diagnostics = [] ↔ ∃ tokens, ({} : Lexer).run text = .ok tokens := by
  cases h with
  | clean run => exact iff_of_true rfl ⟨_, run⟩
  | unmatched _ _ _ tells | overflow _ tells =>
    refine iff_of_false (List.cons_ne_nil _ _) ?_
    rintro ⟨tokens, hrun⟩
    cases hrun.symm.trans tells.run

/-! ## Open documents -/

/-- The document that an edit is about. -/
def Edit.address : Edit → Text
  | .opened address _ => address
  | .changed address _ => address

namespace Documents

/-- The documents after some edits. -/
def after (documents : Documents) (edits : List Edit) : Documents :=
  edits.foldl (fun documents edit => (documents.apply edit).2) documents

theorem after_concat (documents : Documents) (edits : List Edit) (edit : Edit) :
    documents.after (edits ++ [edit]) = ((documents.after edits).apply edit).2 :=
  List.foldl_concat ..

theorem length_publications (documents : Documents) (edits : List Edit) :
    (documents.publications edits).length = edits.length := by
  induction edits generalizing documents with
  | nil => rfl
  | cons edit edits ih => exact congrArg (· + 1) (ih _)

/-- What is published later depends on the documents that the earlier edits leave. -/
theorem publications_append (documents : Documents) (earlier later : List Edit) :
    documents.publications (earlier ++ later) =
      documents.publications earlier ++ (documents.after earlier).publications later := by
  induction earlier generalizing documents with
  | nil => rfl
  | cons edit earlier ih => exact congrArg (_ :: ·) (ih _)

/-- An edit is answered on the text that its document has afterwards. -/
theorem apply_eq (documents : Documents) (edit : Edit) :
    ∃ text, edit.result documents = (edit.address, text) ∧
      documents.apply edit =
        (⟨edit.address, diagnose text⟩, (edit.address, text) :: documents) := by
  cases edit with
  | opened address text => exact ⟨_, rfl, rfl⟩
  | changed address texts => exact ⟨_, rfl, rfl⟩

/-- Every edit is answered by one publication about its document. The publication has no diagnostic
if the text that the document then has lexes, and otherwise the one that tells what is wrong. -/
theorem publications_diagnose (documents : Documents) (edits : List Edit) :
    (documents.publications edits).length = edits.length ∧
    ∀ earlier edit later, edits = earlier ++ edit :: later →
      ∃ text diagnostics,
        edit.result (documents.after earlier) = (edit.address, text) ∧
        (documents.after (earlier ++ [edit])).lookup edit.address = some text ∧
        (documents.publications edits)[earlier.length]? = some ⟨edit.address, diagnostics⟩ ∧
        Diagnoses text diagnostics ∧
        (diagnostics = [] ↔ ∃ tokens, ({} : Lexer).run text = .ok tokens) := by
  refine ⟨documents.length_publications edits, ?_⟩
  rintro earlier edit later rfl
  obtain ⟨text, hresult, happly⟩ := (documents.after earlier).apply_eq edit
  have hdiagnoses := diagnoses_diagnose text
  refine ⟨text, diagnose text, hresult, ?_, ?_, hdiagnoses, hdiagnoses.eq_nil_iff⟩
  · rw [after_concat, happly, List.lookup_cons_self]
  · rw [publications_append, publications, happly,
      List.getElem?_append_right (documents.length_publications earlier).le,
      length_publications, Nat.sub_self]
    rfl

end Documents

end LispLex
