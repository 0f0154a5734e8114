-- SUMMARY: Agreement of the command's exit status and printed place with the editor's diagnostics.
import LispLex.Proofs.Command.Ending
import LispLex.Proofs.Editor.Diagnosis
import LispLex.Proofs.Run.PairedReturns
import LispLex.Proofs.Text.Utf8

/-!
# The command and the editor

The command lexes a file with its line ends taken as line feeds, the editor a document as it stands.
Where every carriage return belongs to a line end, the command succeeds on the saved document exactly
if the editor has no diagnostic for it, and otherwise both point at the same line and column.
-/

namespace LispLex

/-! ## Reports of one place -/

/-- The first two rows of a report: the message, and where it points. -/
theorem Report.exists_render_eq {report : Report} {spot : Spot} (h : report.spot = some spot)
    (file : Text) :
    ∃ more, report.render file =
      "error: ".toList ++ report.message ++ ['\n'] ++
        spaces ((signedDecimal spot.line).length + 1) ++ ['-', '-', '>', ' '] ++ file ++ [':'] ++
        signedDecimal spot.line ++ [':'] ++ signedDecimal spot.column ++ '\n' :: more := by
  obtain ⟨third, later, hrows⟩ : ∃ third later, report.rows file =
      ("error: ".toList ++ report.message) ::
      (spaces ((signedDecimal spot.line).length + 1) ++ ['-', '-', '>', ' '] ++ file ++ [':'] ++
        signedDecimal spot.line ++ [':'] ++ signedDecimal spot.column) :: third :: later := by
    simp only [rows, h, placeRows]
    exact ⟨_, _, rfl⟩
  refine ⟨['\n'].intercalate (third :: later), ?_⟩
  rw [render, hrows, List.intercalate_cons_cons, List.intercalate_cons_cons]
  simp only [List.append_assoc, List.cons_append, List.nil_append]

/-- Faults that are alike are reported at the same line and column. -/
theorem Fault.Alike.exists_report {fault other : Fault} {text : Text} {report : Report}
    (h : fault.Alike other) (hreport : fault.report text = .ok report) (unified : Text) :
    ∃ told spot place, other.report unified = .ok told ∧ report.spot = some spot ∧
      told.spot = some place ∧ place.line = spot.line ∧ place.column = spot.column := by
  cases h with
  | unmatched line column | overflow line column =>
    cases hreport
    exact ⟨_, _, _, rfl, rfl, rfl, congrArg Int.ofNat line, congrArg Int.ofNat column⟩
  | invalid cause => cases hreport

/-! ## The command without a configuration -/

/-- The options of a command line that has an input only, with no configuration. -/
def Options.standard (input : Text) : Options where
  input := .ofText input
  output := none
  format := .plain
  lexer := {}
  watch := false
  debug := false
  verbose := false

section

variable {σ : Type} [FileSystem σ] {bundling : Bundling} {words : List Text} {files : σ}
  {input text : Text}

theorem Arguments.gives_standard
    (unconfigured : FileSystem.isFile files ({ input } : Arguments).configPath = .ok false) :
    ({ input } : Arguments).Gives files (.standard input) :=
  ⟨[], .missing unconfigured, rfl⟩

theorem Options.reads_saved {options : Options}
    (saved : FileSystem.read files options.input = .ok (encodeUtf8 text)) :
    options.Reads files (unifyNewlines text) :=
  ⟨_, text, saved, decodeUtf8_encodeUtf8 text, rfl⟩

end

/-- A document whose second line has an offence; the line above ends in a carriage return and a line
feed. -/
def returnedText : Text :=
  "(a \"é\"\r\n @)".toList

end LispLex
