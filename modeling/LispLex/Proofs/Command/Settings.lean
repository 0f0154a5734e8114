-- SUMMARY: Invariants of options that passed their checks.
import LispLex.Proofs.Command.Merging
import LispLex.Proofs.Run.LineGrammar

/-!
# What options can be

Options are checked when they are made: the table has standard rules only, and both the ceiling and
the snippet length are positive. With such a lexer every fault of a run has a report, unless the
ceiling is too long to be shown.
-/

namespace LispLex

/-! ## Options -/

namespace Options

/-- What all options have that are made from the arguments. -/
structure MadeFrom (arguments : Arguments) (options : Options) : Prop where
  input_eq : options.input = .ofText arguments.input
  output_eq : options.output = (arguments.output.filter (· ≠ [])).map .ofText
  watch_eq : options.watch = arguments.watch
  debug_eq : options.debug = arguments.debug
  verbose_eq : options.verbose = arguments.verbose
  rules : ∃ kinds : List Kind, options.lexer.rules = kinds.map .standard
  ceiling : ∃ m, options.lexer.ceiling = some m ∧ 0 < m
  ceiling_given : ∀ m ∈ arguments.maxInt, options.lexer.ceiling = some m
  snippetLength : 0 < options.lexer.snippetLength

theorem madeFrom_of_ofConfig {arguments : Arguments} {config : TomlTable} {options : Options}
    (h : ofConfig arguments config = .ok options) : options.MadeFrom arguments := by
  have merges := merges_of_ofConfig h
  obtain ⟨m, hceiling, hpos, chosen⟩ := merges.ceiling
  exact {
    input_eq := merges.input_eq
    output_eq := merges.output_eq
    watch_eq := merges.watch_eq
    debug_eq := merges.debug_eq
    verbose_eq := merges.verbose_eq
    rules := by
      apply merges.rules.holds (P := fun rules => ∃ kinds : List Kind, rules = kinds.map .standard)
      · rintro _ ⟨⟩
      · rintro _ _ ⟨kinds, -, -, rfl⟩
        exact ⟨kinds, rfl⟩
      · exact ⟨Kind.all, rfl⟩
    ceiling := ⟨m, hceiling, hpos⟩
    ceiling_given := by
      intro n hn
      rw [hceiling]
      cases chosen with
      | given given_eq => exact given_eq.symm.trans hn
      | configured given_eq => cases given_eq.symm.trans hn
      | default given_eq => cases given_eq.symm.trans hn
    snippetLength := merges.snippetLength_pos }

end Options

/-! ## Reports -/

/-- The lexer of options that are made has a report for each of its faults. -/
theorem Options.MadeFrom.exists_report {arguments : Arguments} {options : Options} {source : Text}
    {fault : Fault} (h : options.MadeFrom arguments) (moderate : IsModerate options.lexer.ceiling)
    (hrun : options.lexer.run source = .error fault) :
    ∃ report, fault.report source = .ok report := by
  obtain ⟨kinds, hrules⟩ := h.rules
  obtain ⟨m, hceiling, hpos⟩ := h.ceiling
  rw [hceiling] at moderate
  exact Lexer.exists_report hrules hceiling hpos moderate hrun

end LispLex
