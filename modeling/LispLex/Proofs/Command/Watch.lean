-- SUMMARY: Correspondence between the attempts of a watch and single runs on the same files.
import LispLex.Proofs.Command.Looks
import LispLex.Proofs.Command.Output

/-!
# What a watch repeats

An attempt of a watch does what a single run would do on the same files: it prints the same listing and
leaves the same files. What is different is what is told. An attempt says that it succeeded, and it tells
of a fault of the system like of any other problem, so that the watch goes on; only a character that
standard output has no bytes for ends the watch as it ends the run.
-/

namespace LispLex

variable {σ : Type} [FileSystem σ]

namespace Options

variable {options : Options} {files after : σ} {result : Result} {poll : Poll}

/-! ## Telling -/

/-- What is told of an input that gives no tokens. -/
inductive TellsOf (options : Options) (files : σ) : Text → Prop where
  | unreadable {problem : Problem} (cannot : options.CannotRead files problem) :
    TellsOf options files ("error: ".toList ++ problem.message ++ ['\n'])
  | faulty {source : Text} {fault : Fault} {report : Report} (reads : options.Reads files source)
    (fails : options.lexer.run source = .error fault) (reported : fault.report source = .ok report) :
    TellsOf options files (report.render options.file ++ ['\n'])

/-- What an attempt tells, and whether the watch goes on, where a single run comes to the result. -/
inductive Retells (options : Options) (files : σ) : Result → Poll → Prop where
  | unreadable {problem : Problem} (cannot : options.CannotRead files problem) :
    Retells options files ⟨[], [.problem problem], .returns 2⟩ ⟨[], [.problem problem], none⟩
  | faulty {source : Text} {fault : Fault} {report : Report} (reads : options.Reads files source)
    (fails : options.lexer.run source = .error fault) (reported : fault.report source = .ok report) :
    Retells options files
      ⟨[], options.logs (.error fault) ++ options.faultNotices report, .returns 1⟩
      ⟨[], options.logs (.error fault) ++ [.report report options.file], none⟩
  | delivered {tokens : List Token} {stdout : Text} :
    Retells options files ⟨stdout, options.tokensNotices tokens, .returns 0⟩
      ⟨stdout, options.tokensNotices tokens ++ [.tokenized options.file], none⟩
  | failed {tokens : List Token} {stdout : Text} {fault : FileFault} :
    Retells options files
      ⟨stdout, options.tokensNotices tokens, .escapes (.delivery (.file fault))⟩
      ⟨stdout, options.tokensNotices tokens ++ [.problem (.file fault)], none⟩
  | unencodable {tokens : List Token} {text reason : Text} (output : options.output = none)
    (print : FileSystem.print files text = .error (.unencodable reason)) :
    Retells options files
      ⟨[], options.tokensNotices tokens, .escapes (.delivery (.unencodable reason))⟩
      ⟨[], options.tokensNotices tokens, some (.delivery (.unencodable reason))⟩

/-- An attempt of a watch is one run, told differently. -/
theorem RunsOnce.exists_retells {arguments : Arguments} (h : options.RunsOnce files result after)
    (made : options.MadeFrom arguments) (moderate : IsModerate options.lexer.ceiling) :
    ∃ poll, (options.retokenize : StateM σ Poll).run files = (poll, after) ∧
      options.Retells files result poll := by
  simp only [retokenize, StateT.run_bind, FileSystem.run_read, pure_bind]
  cases h with
  | unreadable cannot =>
    rw [attempt_of_cannotRead cannot]
    exact ⟨_, rfl, .unreadable cannot⟩
  | faulty reads fails reported =>
    rw [attempt_of_fault reads fails, reported]
    exact ⟨_, rfl, .faulty reads fails reported⟩
  | invalid reads fails unreported =>
    obtain ⟨report, hreport⟩ := made.exists_report moderate fails
    cases hreport.symm.trans unreported
  | listed tokenizes delivers =>
    simp only [attempt_of_tokenizes tokenizes, StateT.run_bind, delivers.run_eq]
    cases delivers with
    | printed | written => exact ⟨_, rfl, .delivered⟩
    | brokenOff | unopened => exact ⟨_, rfl, .failed⟩
    | @unprinted fault output print =>
      cases fault with
      | unencodable reason => exact ⟨_, rfl, .unencodable output print⟩
      | broken cause taken => exact ⟨_, rfl, .failed⟩

theorem tokenized_notMem_logs (options : Options) (outcome : Outcome) (file : Text) :
    .tokenized file ∉ options.logs outcome := by
  unfold logs
  split <;> simp

theorem tokenized_notMem_tokensNotices (options : Options) (tokens : List Token) (file : Text) :
    .tokenized file ∉ options.tokensNotices tokens := by
  rw [tokensNotices, List.mem_append, not_or]
  refine ⟨options.tokenized_notMem_logs _ file, ?_⟩
  split <;> simp

namespace Retells

theorem stdout_eq (h : options.Retells files result poll) : poll.stdout = result.stdout := by
  cases h <;> rfl

theorem succeeds_iff (h : options.Retells files result poll) :
    .tokenized options.file ∈ poll.stderr ↔ result.ending = .returns 0 := by
  cases h with
  | unreadable => simp
  | faulty => simp [options.tokenized_notMem_logs]
  | delivered => simp
  | failed | unencodable => simp [options.tokenized_notMem_tokensNotices]

theorem text_of_success (h : options.Retells files result poll) (ending : result.ending = .returns 0) :
    poll.stderr.flatMap Notice.text =
      result.stderr.flatMap Notice.text ++ "Tokenized ".toList ++ options.file ++ ['\n'] := by
  cases h with
  | unreadable | faulty | failed | unencodable => cases ending
  | delivered =>
    rw [List.flatMap_append, List.flatMap_singleton, Notice.text_tokenized]
    simp only [List.append_assoc]

/-- Of an input without tokens the same is told, without what a run logs about it at the end. -/
theorem exists_text (h : options.Retells files result poll) {code : Nat} (hcode : code ≠ 0)
    (ending : result.ending = .returns code) :
    ∃ logged more told, options.TellsOf files told ∧
      result.stderr.flatMap Notice.text = logged ++ more ++ told ∧
      poll.stderr.flatMap Notice.text = logged ++ told ∧
      (options.verbose = false → logged = [] ∧ more = []) := by
  cases h with
  | unreadable cannot => exact ⟨[], [], _, .unreadable cannot, by simp, by simp, fun _ => ⟨rfl, rfl⟩⟩
  | @faulty source fault report reads fails reported =>
    refine ⟨(options.logs (.error fault)).flatMap Notice.text,
      (options.faultLog report).flatMap Notice.text, _, .faulty reads fails reported, ?_, ?_,
      fun hverbose => ?_⟩
    · rw [faultNotices, List.flatMap_append, List.flatMap_append, List.flatMap_singleton,
        Notice.text_report, List.append_assoc]
    · rw [List.flatMap_append, List.flatMap_singleton, Notice.text_report]
    · rw [logs_of_not_verbose hverbose, faultLog_of_not_verbose hverbose]
      exact ⟨rfl, rfl⟩
  | delivered =>
    cases ending
    exact absurd rfl hcode
  | failed | unencodable => cases ending

/-- Where the run leaves a fault of the system to its caller, the attempt tells it. -/
theorem text_of_failure (h : options.Retells files result poll) {fault : FileFault}
    (ending : result.ending = .escapes (.delivery (.file fault))) :
    poll.stderr.flatMap Notice.text =
      result.stderr.flatMap Notice.text ++ "error: ".toList ++ fault.message ++ ['\n'] := by
  cases h with
  | unreadable | faulty | delivered | unencodable => cases ending
  | failed =>
    cases ending
    rw [List.flatMap_append, List.flatMap_singleton, Notice.text_problem, Problem.message]
    simp only [List.append_assoc]

theorem escape_iff (h : options.Retells files result poll) (escape : Escape) :
    poll.escape = some escape ↔
      ∃ reason, escape = .delivery (.unencodable reason) ∧ result.ending = .escapes escape := by
  cases h with
  | unreadable | faulty | delivered => simp
  | failed => simp +contextual [eq_comm]
  | unencodable => simp +contextual [eq_comm]

theorem of_unencodable (h : options.Retells files result poll) {reason : Text}
    (ending : result.ending = .escapes (.delivery (.unencodable reason))) :
    poll.stderr = result.stderr ∧ options.output = none ∧
      ∃ text, FileSystem.print files text = .error (.unencodable reason) := by
  cases h with
  | unreadable | faulty | delivered | failed => cases ending
  | unencodable output print =>
    cases ending
    exact ⟨rfl, output, _, print⟩

end Retells

/-! ## Attempts -/

variable [LawfulFileSystem σ]

/-- An attempt does what a single run with this result does on the same files. -/
structure Repeats (options : Options) (look : Look σ) (result : Result) (after : σ) : Prop where
  stdout_eq : look.poll.stdout = result.stdout
  after_eq : look.after = after
  succeeds_iff : .tokenized options.file ∈ look.poll.stderr ↔ result.ending = .returns 0
  success : result.ending = .returns 0 →
    look.poll.stderr.flatMap Notice.text =
      result.stderr.flatMap Notice.text ++ "Tokenized ".toList ++ options.file ++ ['\n'] ∧
    ∃ tokens text, options.Tokenizes look.before tokens ∧ options.format.Renders tokens text ∧
      Delivered options.output options.input look.before text look.poll.stdout look.after
  /-- Nothing is printed and no file changes, unless the listing was broken off on its way. -/
  failure : result.ending ≠ .returns 0 →
    look.poll.stdout = [] ∧ look.after = look.before ∨
      ∃ tokens text, options.Tokenizes look.before tokens ∧ options.format.Renders tokens text ∧
        BrokenOff options.output look.before text look.poll.stdout look.after
  /-- The attempt tells of the input what the run tells. -/
  told : ∀ code ≠ 0, result.ending = .returns code →
    look.poll.stdout = [] ∧ look.after = look.before ∧
    ∃ logged more told, options.TellsOf look.before told ∧
      result.stderr.flatMap Notice.text = logged ++ more ++ told ∧
      look.poll.stderr.flatMap Notice.text = logged ++ told ∧
      (options.verbose = false → logged = [] ∧ more = [])
  /-- The attempt tells of a fault at the place of the listing, which the run leaves to its caller. -/
  told_fault : ∀ fault, result.ending = .escapes (.delivery (.file fault)) →
    look.poll.stderr.flatMap Notice.text =
      result.stderr.flatMap Notice.text ++ "error: ".toList ++ fault.message ++ ['\n']
  /-- A watch ends only over a character that cannot be printed, and then so does the run. -/
  escape_iff : ∀ escape, look.poll.escape = some escape ↔
    ∃ reason, escape = .delivery (.unencodable reason) ∧ result.ending = .escapes escape
  unencodable : ∀ reason, result.ending = .escapes (.delivery (.unencodable reason)) →
    look.poll.stderr = result.stderr ∧ options.output = none ∧
      ∃ text, FileSystem.print look.before text = .error (.unencodable reason)

theorem RunsOnce.failure (h : options.RunsOnce files result after)
    (ending : result.ending ≠ .returns 0) :
    result.stdout = [] ∧ after = files ∨
      ∃ tokens text, options.Tokenizes files tokens ∧ options.format.Renders tokens text ∧
        BrokenOff options.output files text result.stdout after := by
  cases hending : result.ending with
  | returns code =>
    refine .inl (h.nothing hending ?_)
    rintro rfl
    exact ending hending
  | leaves code => exact absurd hending h.not_leaves
  | escapes escape => exact h.nothing_or_brokenOff hending

theorem RunsOnce.repeats (h : options.RunsOnce files result after)
    (retells : options.Retells files result poll) :
    options.Repeats ⟨files, poll, after⟩ result after where
  stdout_eq := retells.stdout_eq
  after_eq := rfl
  succeeds_iff := retells.succeeds_iff
  success ending := ⟨retells.text_of_success ending, by
    simpa only [retells.stdout_eq] using h.delivered ending⟩
  failure ending := by simpa only [retells.stdout_eq] using h.failure ending
  told code hcode ending := by
    obtain ⟨hstdout, hafter⟩ := h.nothing ending hcode
    exact ⟨retells.stdout_eq.trans hstdout, hafter, retells.exists_text hcode ending⟩
  told_fault fault ending := retells.text_of_failure ending
  escape_iff := retells.escape_iff
  unencodable reason ending := retells.of_unencodable ending

theorem exists_repeats {arguments : Arguments} {look : Look σ} (attempts : look.Attempts options)
    (made : options.MadeFrom arguments) (moderate : IsModerate options.lexer.ceiling) :
    ∃ result after, options.RunsOnce look.before result after ∧
      options.Repeats look result after := by
  obtain ⟨result, after, hruns⟩ := options.exists_runsOnce look.before
  obtain ⟨poll, hretokenize, hretells⟩ := hruns.exists_retells made moderate
  obtain ⟨before, actual, left⟩ := look
  cases hretokenize.symm.trans attempts
  exact ⟨result, _, hruns, hruns.repeats hretells⟩

/-- A look that goes by the looks before it repeats a run if the input is due, and is idle
otherwise. -/
theorem repeats_or_idle {arguments : Arguments} {earlier : List (Look σ)} {look : Look σ}
    (goesBy : look = options.lookAt (options.lastSeen watchStart earlier) look.before)
    (made : options.MadeFrom arguments) (moderate : IsModerate options.lexer.ceiling) :
    (options.IsDue earlier look → ∃ result after,
      options.RunsOnce look.before result after ∧ options.Repeats look result after) ∧
    (¬ options.IsDue earlier look → look.Idle) := by
  rw [goesBy]
  obtain ⟨hunchanged, hidle⟩ | ⟨now, hnow, hchanged, hattempts⟩ :=
    options.lookAt_cases (options.lastSeen watchStart earlier) look.before
  · refine ⟨fun ⟨now, hnow, hchanged⟩ => ?_, fun _ => hidle⟩
    exact absurd (hunchanged now hnow) hchanged
  · exact ⟨fun _ => exists_repeats hattempts made moderate, absurd ⟨now, hnow, hchanged⟩⟩

/-- Only a character that cannot be printed ends a watch. -/
theorem exists_reason_of_escape {arguments : Arguments} {earlier : List (Look σ)} {look : Look σ}
    {escape : Escape}
    (goesBy : look = options.lookAt (options.lastSeen watchStart earlier) look.before)
    (made : options.MadeFrom arguments) (moderate : IsModerate options.lexer.ceiling)
    (hescape : look.poll.escape = some escape) :
    ∃ reason, escape = .delivery (.unencodable reason) := by
  obtain ⟨hdue, hidle⟩ := repeats_or_idle goesBy made moderate
  by_cases h : options.IsDue earlier look
  · obtain ⟨result, after, -, hrepeats⟩ := hdue h
    obtain ⟨reason, hreason, -⟩ := (hrepeats.escape_iff escape).1 hescape
    exact ⟨reason, hreason⟩
  · rw [(hidle h).1] at hescape
    cases hescape

/-! ## Watches -/

/-- What the single run with the options, but without a watch, comes to on these files. So does every
command line that gives those options. -/
def ComesTo (options : Options) (files : σ) (result : Result) (after : σ) : Prop :=
  ({ options with watch := false }.runOnce : StateM σ Result).run files = (result, after) ∧
    ∀ bundling words arguments, Arguments.ofTexts bundling words = .ok arguments →
      arguments.Gives files { options with watch := false } →
        (launch bundling words : StateM σ Launch).run files = (.finished result, after)

omit [LawfulFileSystem σ] in
theorem RunsOnce.comesTo (h : options.RunsOnce files result after) :
    options.ComesTo files result after :=
  ⟨h.run_eq, fun _ _ _ accepted gives => launch_of_gives accepted gives rfl h.run_eq⟩

/-- A watch through some changes, by what its looks print and leave: each look does what the single
run on the files of that moment would do if the input is due, and nothing if it is not. The watch meets
all of the changes, unless a listing has a character that cannot be printed. -/
def RepeatsRuns (options : Options) (files : σ) (changes : List (StateM σ Unit))
    (polls : List (Poll × σ)) : Prop :=
  ∃ first later met unmet,
    polls = (first.announcing options.watchNotice).seen :: later.map Look.seen ∧
    changes = met ++ unmet ∧ Look.Linked files met (first :: later) ∧
    (unmet = [] ∨ ∃ look reason, (first :: later).getLast? = some look ∧
      look.poll.escape = some (.delivery (.unencodable reason))) ∧
    ∀ earlier look rest, first :: later = earlier ++ look :: rest →
      (options.IsDue earlier look → ∃ result after,
        options.ComesTo look.before result after ∧ options.Repeats look result after) ∧
      (¬ options.IsDue earlier look → look.poll = .quiet ∧ look.after = look.before)

/-- A listing that cannot be printed ends the watch before the change behind it. -/
example :
    let options : Options :=
      { input := .ofText "p.lisp".toList, output := none, format := .plain, lexer := {}, watch := true,
        debug := false, verbose := false }
    let files := (FileTree.empty 0).store ["p.lisp".toList] (.file (encodeUtf8 "\"é\"".toList))
    let polls := ((options.watchThrough get [modify (·.remove ["p.lisp".toList])] :
      StateM FileTree _).run { files with printsAscii := true }).1
    polls.map (fun (poll, _) => (poll.stdout, poll.escape)) =
      [([], some (.delivery (.unencodable "ordinal not in range(128)".toList)))] := by
  decide +kernel

end Options

end LispLex
