-- SUMMARY: Exact classification of the command's exit statuses and escaping faults, with what is printed on standard error.
import LispLex.File.Tree
import LispLex.Proofs.Command.Launch

/-!
# How the command ends

The number that the command returns says what went wrong: 2 if there are no options or no source, 1 if
the source does not lex, 0 if the listing was delivered. Any other end is a fault at the output file,
at standard output or at the configuration file; no text makes the command fail in another way.
-/

namespace LispLex

variable {σ : Type} [FileSystem σ]

namespace Arguments

variable {arguments : Arguments} {files after : σ} {options : Options} {result : Result}
  {bundling : Bundling} {words : List Text}

/-! ## Runs without a watch -/

/-- What the arguments come to if there is no watch. -/
inductive Finishes (arguments : Arguments) (files : σ) : Result → σ → Prop where
  | noConfig {fault : FileFault} (fails : arguments.ConfigFails files fault) :
    Finishes arguments files ⟨[], [], .escapes (.config fault)⟩ files
  | refused {problem : Problem} (refused : arguments.Refused files problem) :
    Finishes arguments files ⟨[], [.problem problem], .returns 2⟩ files
  | once {options : Options} {result : Result} {after : σ}
    (gives : arguments.Gives files options) (runs : options.RunsOnce files result after) :
    Finishes arguments files result after

theorem exists_finishes (arguments : Arguments) (files : σ) :
    ∃ result after, arguments.Finishes files result after := by
  obtain ⟨options, hgives⟩ | ⟨problem, hrefused⟩ | ⟨fault, hfails⟩ :=
    arguments.gives_or_refused_or_configFails files
  · obtain ⟨result, after, hruns⟩ := options.exists_runsOnce files
    exact ⟨result, after, .once hgives hruns⟩
  · exact ⟨_, _, .refused hrefused⟩
  · exact ⟨_, _, .noConfig hfails⟩

theorem Finishes.launched (h : arguments.Finishes files result after)
    (accepted : Arguments.ofTexts bundling words = .ok arguments) (unwatched : arguments.watch = false) :
    Launched bundling words files (.finished result) after := by
  cases h with
  | noConfig fails => exact .noConfig accepted fails
  | refused refused => exact .refused accepted refused
  | once gives runs => exact .once accepted gives (gives.madeFrom.watch_eq.trans unwatched) runs

/-! ## What decides -/

/-- There is nothing to tokenize: no options, or no source. -/
def Unready (arguments : Arguments) (files : σ) (problem : Problem) : Prop :=
  arguments.Refused files problem ∨
    ∃ options, arguments.Gives files options ∧ options.CannotRead files problem

/-- The source does not lex. -/
def Faulty (arguments : Arguments) (files : σ) (options : Options) (source : Text)
    (fault : Fault) : Prop :=
  arguments.Gives files options ∧ options.Reads files source ∧
    options.lexer.run source = .error fault

/-- The input is tokenized. -/
def Listed (arguments : Arguments) (files : σ) (options : Options) (tokens : List Token) : Prop :=
  arguments.Gives files options ∧ options.Tokenizes files tokens

/-- What the command leaves to its caller: the configuration file cannot be looked for or opened, or the
listing cannot be brought to its place. -/
inductive Hindered (arguments : Arguments) (files : σ) : Escape → Prop where
  | config {fault : FileFault} (fails : arguments.ConfigFails files fault) :
    Hindered arguments files (.config fault)
  | output {options : Options} {tokens : List Token} {fault : DeliveryFault}
    (listed : arguments.Listed files options tokens)
    (resists : options.Resists files (options.format.list tokens) fault) :
    Hindered arguments files (.delivery fault)

theorem Unready.finishes {problem : Problem} (h : arguments.Unready files problem) :
    arguments.Finishes files ⟨[], [.problem problem], .returns 2⟩ files := by
  obtain hrefused | ⟨options, hgives, hcannot⟩ := h
  · exact .refused hrefused
  · exact .once hgives (.unreadable hcannot)

theorem Faulty.exists_report {source : Text} {fault : Fault}
    (h : arguments.Faulty files options source fault) (moderate : IsModerate options.lexer.ceiling) :
    ∃ report, fault.report source = .ok report :=
  h.1.madeFrom.exists_report moderate h.2.2

theorem Faulty.finishes {source : Text} {fault : Fault} {report : Report}
    (h : arguments.Faulty files options source fault) (reported : fault.report source = .ok report) :
    arguments.Finishes files
      ⟨[], options.logs (.error fault) ++ options.faultNotices report, .returns 1⟩ files :=
  .once h.1 (.faulty h.2.1 h.2.2 reported)

theorem Hindered.finishes {escape : Escape} (h : arguments.Hindered files escape) :
    ∃ stdout stderr after, arguments.Finishes files ⟨stdout, stderr, .escapes escape⟩ after := by
  cases h with
  | config fails => exact ⟨_, _, _, .noConfig fails⟩
  | output listed resists =>
    obtain ⟨stdout, after, hdelivers⟩ := resists
    exact ⟨_, _, _, .once listed.1 (.listed listed.2 hdelivers)⟩

theorem Listed.finishes {tokens : List Token} (h : arguments.Listed files options tokens)
    (takes : options.Takes files (options.format.list tokens)) :
    ∃ stdout stderr after, arguments.Finishes files ⟨stdout, stderr, .returns 0⟩ after := by
  obtain ⟨stdout, after, hdelivers⟩ := takes
  exact ⟨_, _, _, .once h.1 (.listed h.2 hdelivers)⟩

/-! ## Endings -/

/-- How the arguments end, by what decides. -/
inductive Ends (arguments : Arguments) (files : σ) : Ending → Prop where
  | unready {problem : Problem} (unready : arguments.Unready files problem) :
    Ends arguments files (.returns 2)
  | faulty {options : Options} {source : Text} {fault : Fault}
    (faulty : arguments.Faulty files options source fault) : Ends arguments files (.returns 1)
  | delivered {options : Options} {tokens : List Token}
    (listed : arguments.Listed files options tokens)
    (takes : options.Takes files (options.format.list tokens)) : Ends arguments files (.returns 0)
  | hindered {escape : Escape} (hindered : arguments.Hindered files escape) :
    Ends arguments files (.escapes escape)

theorem Finishes.ends (h : arguments.Finishes files result after)
    (moderate : ∀ options, arguments.Gives files options → IsModerate options.lexer.ceiling) :
    arguments.Ends files result.ending := by
  cases h with
  | noConfig fails => exact .hindered (.config fails)
  | refused refused => exact .unready (.inl refused)
  | once gives runs =>
    cases runs with
    | unreadable cannot => exact .unready (.inr ⟨_, gives, cannot⟩)
    | faulty reads fails _ => exact .faulty ⟨gives, reads, fails⟩
    | invalid reads fails unreported =>
      -- no value is invalid for options that are made: rules are standard, ceilings positive
      obtain ⟨report, hreport⟩ := gives.madeFrom.exists_report (moderate _ gives) fails
      cases hreport.symm.trans unreported
    | @listed tokens delivery after tokenizes delivers =>
      obtain ⟨stdout, fault⟩ := delivery
      cases fault with
      | none => exact .delivered ⟨gives, tokenizes⟩ ⟨stdout, after, delivers⟩
      | some fault => exact .hindered (.output ⟨gives, tokenizes⟩ ⟨stdout, after, delivers⟩)

theorem Ends.exists_finishes {ending : Ending} (h : arguments.Ends files ending)
    (moderate : ∀ options, arguments.Gives files options → IsModerate options.lexer.ceiling) :
    ∃ result after, arguments.Finishes files result after ∧ result.ending = ending := by
  cases h with
  | unready unready => exact ⟨_, _, unready.finishes, rfl⟩
  | @faulty options _ _ faulty =>
    obtain ⟨report, hreport⟩ := faulty.exists_report (moderate options faulty.1)
    exact ⟨_, _, faulty.finishes hreport, rfl⟩
  | delivered listed takes =>
    obtain ⟨stdout, stderr, after, hfinishes⟩ := listed.finishes takes
    exact ⟨_, _, hfinishes, rfl⟩
  | hindered hindered =>
    obtain ⟨stdout, stderr, after, hfinishes⟩ := hindered.finishes
    exact ⟨_, _, hfinishes, rfl⟩

theorem ends_two_iff :
    arguments.Ends files (.returns 2) ↔ ∃ problem, arguments.Unready files problem := by
  refine ⟨fun h => ?_, fun ⟨_, h⟩ => .unready h⟩
  cases h with
  | unready h => exact ⟨_, h⟩

theorem ends_one_iff :
    arguments.Ends files (.returns 1) ↔
      ∃ options source fault, arguments.Faulty files options source fault := by
  refine ⟨fun h => ?_, fun ⟨_, _, _, h⟩ => .faulty h⟩
  cases h with
  | faulty h => exact ⟨_, _, _, h⟩

theorem ends_zero_iff :
    arguments.Ends files (.returns 0) ↔
      ∃ options tokens, arguments.Listed files options tokens ∧
        options.Takes files (options.format.list tokens) := by
  refine ⟨fun h => ?_, fun ⟨_, _, h, takes⟩ => .delivered h takes⟩
  cases h with
  | delivered h takes => exact ⟨_, _, h, takes⟩

theorem ends_escapes_iff {escape : Escape} :
    arguments.Ends files (.escapes escape) ↔ arguments.Hindered files escape := by
  refine ⟨fun h => ?_, .hindered⟩
  cases h with
  | hindered h => exact h

theorem Ends.returns_or_escapes {ending : Ending} (h : arguments.Ends files ending) :
    (∃ code ≤ 2, ending = .returns code) ∨ ∃ escape, ending = .escapes escape := by
  cases h with
  | unready => exact .inl ⟨2, by decide, rfl⟩
  | faulty => exact .inl ⟨1, by decide, rfl⟩
  | delivered => exact .inl ⟨0, by decide, rfl⟩
  | hindered => exact .inr ⟨_, rfl⟩

/-! ## The numbers returned -/

/-- What a result says about the arguments and the files, and what it tells on standard error. -/
structure Decides (arguments : Arguments) (files : σ) (result : Result) : Prop where
  returns_two_iff :
    result.ending = .returns 2 ↔ ∃ problem, arguments.Unready files problem
  problem_told : ∀ problem, arguments.Unready files problem →
    result = ⟨[], [.problem problem], .returns 2⟩ ∧
      result.stderr.flatMap Notice.text = "error: ".toList ++ problem.message ++ ['\n']
  returns_one_iff :
    result.ending = .returns 1 ↔
      ∃ options source fault, arguments.Faulty files options source fault
  /-- The report is the last that is told, and all if nothing is to be logged. -/
  report_told : ∀ options source fault, arguments.Faulty files options source fault →
    ∃ report logged, fault.report source = .ok report ∧ result.stdout = [] ∧
      result.stderr.filter Notice.isDiagnostic = [.report report options.file] ∧
      result.stderr.flatMap Notice.text = logged ++ report.render options.file ++ ['\n'] ∧
      (options.verbose = false → logged = [])
  returns_zero_iff :
    result.ending = .returns 0 ↔
      ∃ options tokens, arguments.Listed files options tokens ∧
        options.Takes files (options.format.list tokens)
  /-- No fault but one of the file system or of standard output is left to the caller. -/
  escapes_iff : ∀ escape, result.ending = .escapes escape ↔ arguments.Hindered files escape
  returns_or_escapes :
    (∃ code ≤ 2, result.ending = .returns code) ∨ ∃ escape, result.ending = .escapes escape

theorem Finishes.decides (h : arguments.Finishes files result after)
    (moderate : ∀ options, arguments.Gives files options → IsModerate options.lexer.ceiling)
    (unique : ∀ {other : Result} {left : σ}, arguments.Finishes files other left → other = result) :
    arguments.Decides files result := by
  have ending_eq_iff (ending : Ending) : result.ending = ending ↔ arguments.Ends files ending := by
    refine ⟨fun heq => heq ▸ h.ends moderate, fun hends => ?_⟩
    obtain ⟨other, left, hother, hending⟩ := hends.exists_finishes moderate
    rw [← unique hother, hending]
  constructor
  case returns_two_iff => exact (ending_eq_iff _).trans ends_two_iff
  case problem_told =>
    intro problem hunready
    cases unique hunready.finishes
    exact ⟨rfl, by simp⟩
  case returns_one_iff => exact (ending_eq_iff _).trans ends_one_iff
  case report_told =>
    intro options source fault hfaulty
    obtain ⟨report, hreport⟩ := hfaulty.exists_report (moderate options hfaulty.1)
    cases unique (hfaulty.finishes hreport)
    obtain ⟨logged, htext, hquiet⟩ := options.exists_text_of_faulty fault report
    exact ⟨report, logged, hreport, rfl, by simp, htext, hquiet⟩
  case returns_zero_iff => exact (ending_eq_iff _).trans ends_zero_iff
  case escapes_iff => exact fun escape => (ending_eq_iff _).trans ends_escapes_iff
  case returns_or_escapes => exact (h.ends moderate).returns_or_escapes

end Arguments

/-- A command line without a watch returns 2 if there is nothing to tokenize, 1 if the source does
not lex and 0 if the listing is delivered; only files and standard output can end it in another way. -/
theorem launch_decides {bundling : Bundling} {words : List Text} {arguments : Arguments} {files : σ}
    (accepted : Arguments.ofTexts bundling words = .ok arguments) (unwatched : arguments.watch = false)
    (moderate : ∀ options, arguments.Gives files options → IsModerate options.lexer.ceiling) :
    ∃ result after, (launch bundling words : StateM σ Launch).run files = (.finished result, after) ∧
      arguments.Decides files result := by
  obtain ⟨result, after, hfinishes⟩ := arguments.exists_finishes files
  have hlaunched := hfinishes.launched accepted unwatched
  refine ⟨result, after, hlaunched.launch_eq, hfinishes.decides moderate fun hother => ?_⟩
  cases (hlaunched.unique (hother.launched accepted unwatched)).1
  rfl

/-- A working directory with a configuration and an input. -/
def configuredTree : FileTree :=
  ((FileTree.empty 0).store ["minilisp.toml".toList]
    (.file (encodeUtf8 "[lexer]\nrules = [\"NUM_LITERAL\"]\nmax-int = 100".toList))).store
    ["p.lisp".toList] (.file (encodeUtf8 "7 10".toList))

/-- What is seen of a run that is over: both streams, and how it ended. -/
def Launch.seen? : Launch → Option (Text × Text × Ending)
  | .finished result => some (result.stdout, result.stderr.flatMap Notice.text, result.ending)
  | .watching _ => none

/-- The command line overrides the ceiling of the configuration, and the second number is above it. -/
theorem launch_decides_configured :
    let words := ["p.lisp".toList, "--max-int".toList, ['9']]
    let arguments : Arguments := { input := "p.lisp".toList, maxInt := some 9 }
    Arguments.ofTexts .separating words = .ok arguments ∧ arguments.watch = false ∧
      (∀ options, arguments.Gives configuredTree options → IsModerate options.lexer.ceiling) ∧
      ∃ result after,
        (launch .separating words : StateM FileTree Launch).run configuredTree =
          (.finished result, after) ∧
        arguments.Decides configuredTree result ∧ result.stdout = [] ∧
        result.stderr.flatMap Notice.text =
          ("error: number literal 10 exceeds maximum 9\n  --> p.lisp:1:3\n  |\n" ++
            "1 | 7 10\n  |   ^^\n").toList ∧
        result.ending = .returns 1 := by
  intro words arguments
  have accepted : Arguments.ofTexts .separating words = .ok arguments := by decide +kernel
  have moderate (options : Options) (h : arguments.Gives configuredTree options) :
      IsModerate options.lexer.ceiling := by
    rw [h.madeFrom.ceiling_given 9 rfl]
    exact isModerate_of_lt_pow (show 1 ≤ digitLimit by decide) (by decide)
  obtain ⟨result, after, hlaunch, hdecides⟩ := launch_decides accepted rfl moderate
  have hseen : ((launch .separating words : StateM FileTree Launch).run configuredTree).1.seen? =
      some ([], ("error: number literal 10 exceeds maximum 9\n  --> p.lisp:1:3\n  |\n" ++
        "1 | 7 10\n  |   ^^\n").toList, .returns 1) := by
    decide +kernel
  rw [hlaunch] at hseen
  simp only [Launch.seen?, Option.some.injEq, Prod.mk.injEq] at hseen
  exact ⟨accepted, rfl, moderate, result, after, hlaunch, hdecides, hseen⟩

/-- An input below a name that is too long cannot be opened, and neither can the configuration file
beside it be looked for; the command fails over the latter. -/
theorem launch_below_long_name :
    let input := List.replicate 256 'a' ++ "/p.lisp".toList
    let config := List.replicate 256 'a' ++ "/minilisp.toml".toList
    FileSystem.read (FileTree.empty 0) (.ofText input) =
        .error ⟨.nameTooLong, some (.ofText input)⟩ ∧
      (launch .separating [input] : StateM FileTree Launch).run (.empty 0) =
        (.finished ⟨[], [], .escapes (.config ⟨.nameTooLong, some (.ofText config)⟩)⟩, .empty 0) := by
  intro input config
  have accepted : Arguments.ofTexts .separating [input] = .ok { input } := by decide +kernel
  have look : FileSystem.isFile (FileTree.empty 0) ({ input } : Arguments).configPath =
      .error ⟨.nameTooLong, some (.ofText config)⟩ := by decide +kernel
  exact ⟨by decide +kernel, (Launched.noConfig accepted (.unknown look)).launch_eq⟩

end LispLex
