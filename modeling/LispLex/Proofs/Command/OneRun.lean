-- SUMMARY: Inversion of a single run: reading, lexing, delivering, and the notices of each ending.
import LispLex.Command
import LispLex.File.System

/-!
# One run of the command

What a single run comes to, by what reading, lexing and writing give. Each way to end is a constructor
of `RunsOnce`, with everything the run prints and the file system it leaves; there is exactly one for
each options and files. `Delivers` does the same for what a run does with its listing.
-/

namespace LispLex

@[simp] theorem Notice.text_problem (problem : Problem) :
    (Notice.problem problem).text = "error: ".toList ++ problem.message ++ ['\n'] := by
  simp [text, unlines]

@[simp] theorem Notice.text_report (report : Report) (file : Text) :
    (Notice.report report file).text = report.render file ++ ['\n'] := by
  simp [text, unlines]

@[simp] theorem Notice.text_tokenized (file : Text) :
    (Notice.tokenized file).text = "Tokenized ".toList ++ file ++ ['\n'] := by
  simp [text, unlines]

/-- What is told that is wrong with the input, the output or the command line. -/
def Notice.isDiagnostic : Notice → Bool
  | .problem _ | .report _ _ => true
  | _ => false

variable {σ : Type} [FileSystem σ]

/-- What comes of printing a text. -/
def Delivery.ofPrint (files : σ) (text : Text) : Delivery :=
  match FileSystem.print files text with
  | .ok () => ⟨text, none⟩
  | .error fault => ⟨text.take fault.taken, some fault.delivery⟩

theorem run_printText (files : σ) (text : Text) :
    (printText text : StateM σ Delivery).run files = (.ofPrint files text, files) := by
  simp only [printText, Delivery.ofPrint, StateT.run_bind, FileSystem.run_print, pure_bind]
  cases FileSystem.print files text <;> rfl

theorem Delivery.eq_zero_of_returns {delivery : Delivery} {code : Nat}
    (h : delivery.ending = .returns code) : code = 0 := by
  unfold ending at h
  split at h <;> cases h
  rfl

theorem Delivery.ending_ofPrint_iff {files : σ} {text : Text} :
    (Delivery.ofPrint files text).ending = .returns 0 ↔ FileSystem.print files text = .ok () := by
  unfold ofPrint
  cases FileSystem.print files text <;> simp [ending]

namespace Options

variable {options : Options} {files after : σ} {source : Text} {result : Result}

/-! ## Reading and writing -/

/-- The source of a run: the text of the input, with all line ends as line feeds. -/
def Reads (options : Options) (files : σ) (source : Text) : Prop :=
  ∃ bytes text, FileSystem.read files options.input = .ok bytes ∧ decodeUtf8 bytes = .ok text ∧
    source = unifyNewlines text

/-- Why there is no source: the input cannot be opened, or it is no UTF-8 text. -/
inductive CannotRead (options : Options) (files : σ) : Problem → Prop where
  | file {fault : FileFault} (closed : FileSystem.read files options.input = .error fault) :
    CannotRead options files (.file fault)
  | encoding {bytes : Bytes} {fault : Utf8Fault}
    (opened : FileSystem.read files options.input = .ok bytes)
    (undecodable : decodeUtf8 bytes = .error fault) : CannotRead options files (.encoding fault)

/-- The tokens of the whole input. -/
def Tokenizes (options : Options) (files : σ) (tokens : List Token) : Prop :=
  ∃ source, options.Reads files source ∧ options.lexer.run source = .ok tokens

theorem attempt_of_reads (h : options.Reads files source) :
    options.attempt (FileSystem.read files options.input) = options.attemptText source := by
  obtain ⟨bytes, text, hread, hdecode, rfl⟩ := h
  simp only [attempt, hread, hdecode]

theorem attempt_of_cannotRead {problem : Problem} (h : options.CannotRead files problem) :
    options.attempt (FileSystem.read files options.input) = ⟨[], .unreadable problem⟩ := by
  cases h with
  | file closed => simp only [attempt, closed]
  | encoding opened undecodable => simp only [attempt, opened, undecodable]

theorem reads_or_cannotRead (options : Options) (files : σ) :
    (∃ source, options.Reads files source) ∨ ∃ problem, options.CannotRead files problem := by
  cases hread : FileSystem.read files options.input with
  | error fault => exact .inr ⟨_, .file hread⟩
  | ok bytes =>
    cases hdecode : decodeUtf8 bytes with
    | error fault => exact .inr ⟨_, .encoding hread hdecode⟩
    | ok text => exact .inl ⟨_, bytes, text, hread, hdecode, rfl⟩

/-! ## Notices -/

/-- What the lexer logs, if it is asked to. -/
def logs (options : Options) (outcome : Outcome) : List Notice :=
  if options.verbose then (outcome.log options.file).map .log else []

/-- The notices of a run that tokenizes its input. -/
def tokensNotices (options : Options) (tokens : List Token) : List Notice :=
  options.logs (.ok tokens) ++ if options.debug then [.listing tokens] else []

@[simp] theorem diagnostics_logs (options : Options) (outcome : Outcome) :
    (options.logs outcome).filter Notice.isDiagnostic = [] := by
  unfold logs
  split <;> simp [Notice.isDiagnostic]

@[simp] theorem diagnostics_faultNotices (options : Options) (report : Report) :
    (options.faultNotices report).filter Notice.isDiagnostic = [.report report options.file] := by
  unfold faultNotices faultLog
  split <;> rfl

theorem logs_of_not_verbose (h : options.verbose = false) (outcome : Outcome) :
    options.logs outcome = [] :=
  if_neg (by simp [h])

theorem faultLog_of_not_verbose (h : options.verbose = false) (report : Report) :
    options.faultLog report = [] :=
  if_neg (by simp [h])

/-- The text of the notices about a source that does not lex ends with the report. -/
theorem exists_text_of_faulty (options : Options) (fault : Fault) (report : Report) :
    ∃ logged,
      (options.logs (.error fault) ++ options.faultNotices report).flatMap Notice.text =
        logged ++ report.render options.file ++ ['\n'] ∧
      (options.verbose = false → logged = []) := by
  refine ⟨(options.logs (.error fault)).flatMap Notice.text ++
    (options.faultLog report).flatMap Notice.text, ?_, fun hverbose => ?_⟩
  · rw [faultNotices, List.flatMap_append, List.flatMap_append, List.flatMap_singleton,
      Notice.text_report]
    simp only [List.append_assoc]
  · rw [logs_of_not_verbose hverbose, faultLog_of_not_verbose hverbose]
    rfl

/-! ## Delivery -/

/-- What comes of bringing a text to its place, with the files that are left. -/
inductive Delivers (options : Options) (files : σ) (text : Text) : Delivery → σ → Prop where
  | printed (output : options.output = none) (print : FileSystem.print files text = .ok ()) :
    Delivers options files text ⟨text, none⟩ files
  | unprinted {fault : StreamFault} (output : options.output = none)
    (print : FileSystem.print files text = .error fault) :
    Delivers options files text ⟨text.take fault.taken, some fault.delivery⟩ files
  | written {path : Path} {after : σ} (output : options.output = some path)
    (write : FileSystem.write files path (encodeUtf8 text) = .opened after none) :
    Delivers options files text ⟨[], none⟩ after
  | brokenOff {path : Path} {after : σ} {fault : FileFault} (output : options.output = some path)
    (write : FileSystem.write files path (encodeUtf8 text) = .opened after (some fault)) :
    Delivers options files text ⟨[], some (.file fault)⟩ after
  | unopened {path : Path} {fault : FileFault} (output : options.output = some path)
    (write : FileSystem.write files path (encodeUtf8 text) = .unopened fault) :
    Delivers options files text ⟨[], some (.file fault)⟩ files

theorem Delivers.run_eq {text : Text} {delivery : Delivery}
    (h : options.Delivers files text delivery after) :
    (options.deliver text : StateM σ Delivery).run files = (delivery, after) := by
  cases h with
  | printed output print | unprinted output print =>
    simp only [deliver, output, run_printText, Delivery.ofPrint, print]
  | written output write | brokenOff output write | unopened output write =>
    simp only [deliver, output, StateT.run_bind, FileSystem.run_write, write, pure_bind]
    rfl

theorem delivers_ofPrint (output : options.output = none) (files : σ) (text : Text) :
    options.Delivers files text (.ofPrint files text) files := by
  unfold Delivery.ofPrint
  cases hprint : FileSystem.print files text with
  | ok => exact .printed output hprint
  | error fault => exact .unprinted output hprint

theorem exists_delivers (options : Options) (files : σ) (text : Text) :
    ∃ delivery after, options.Delivers files text delivery after := by
  cases houtput : options.output with
  | none => exact ⟨_, _, delivers_ofPrint houtput files text⟩
  | some path =>
    cases hwrite : FileSystem.write files path (encodeUtf8 text) with
    | unopened fault => exact ⟨_, _, .unopened houtput hwrite⟩
    | opened after fault =>
      cases fault with
      | none => exact ⟨_, _, .written houtput hwrite⟩
      | some fault => exact ⟨_, _, .brokenOff houtput hwrite⟩

/-- The text can be brought to its place. -/
def Takes (options : Options) (files : σ) (text : Text) : Prop :=
  ∃ stdout after, options.Delivers files text ⟨stdout, none⟩ after

/-- The text cannot be brought to its place, or not all of it. -/
def Resists (options : Options) (files : σ) (text : Text) (fault : DeliveryFault) : Prop :=
  ∃ stdout after, options.Delivers files text ⟨stdout, some fault⟩ after

/-! ## Ending -/

/-- How a run ends, with the files it leaves. -/
inductive RunsOnce (options : Options) (files : σ) : Result → σ → Prop where
  | unreadable {problem : Problem} (cannot : options.CannotRead files problem) :
    RunsOnce options files ⟨[], [.problem problem], .returns 2⟩ files
  | faulty {source : Text} {fault : Fault} {report : Report} (reads : options.Reads files source)
    (fails : options.lexer.run source = .error fault) (reported : fault.report source = .ok report) :
    RunsOnce options files
      ⟨[], options.logs (.error fault) ++ options.faultNotices report, .returns 1⟩ files
  | invalid {source : Text} {fault : Fault} {cause : InvalidValue}
    (reads : options.Reads files source) (fails : options.lexer.run source = .error fault)
    (unreported : fault.report source = .error cause) :
    RunsOnce options files ⟨[], options.logs (.error fault), .escapes (.invalid cause)⟩ files
  | listed {tokens : List Token} {delivery : Delivery} {after : σ}
    (tokenizes : options.Tokenizes files tokens)
    (delivers : options.Delivers files (options.format.list tokens) delivery after) :
    RunsOnce options files
      ⟨delivery.stdout, options.tokensNotices tokens, delivery.ending⟩ after

theorem attempt_of_tokenizes {tokens : List Token} (h : options.Tokenizes files tokens) :
    options.attempt (FileSystem.read files options.input) =
      ⟨options.tokensNotices tokens, .listed (options.format.list tokens)⟩ := by
  obtain ⟨source, hreads, hrun⟩ := h
  simp only [attempt_of_reads hreads, attemptText, hrun]
  rfl

theorem attempt_of_fault {fault : Fault} (hreads : options.Reads files source)
    (hrun : options.lexer.run source = .error fault) :
    options.attempt (FileSystem.read files options.input) =
      ⟨options.logs (.error fault),
        match fault.report source with
        | .ok report => .faulty report
        | .error cause => .invalid cause⟩ := by
  simp only [attempt_of_reads hreads, attemptText, hrun]
  cases fault.report source <;> rfl

/-! ## The run -/

theorem RunsOnce.run_eq (h : options.RunsOnce files result after) :
    (options.runOnce : StateM σ Result).run files = (result, after) := by
  simp only [runOnce, StateT.run_bind, FileSystem.run_read, pure_bind]
  cases h with
  | unreadable cannot =>
    rw [attempt_of_cannotRead cannot]
    rfl
  | faulty reads fails reported =>
    rw [attempt_of_fault reads fails, reported]
    rfl
  | invalid reads fails unreported =>
    rw [attempt_of_fault reads fails, unreported]
    rfl
  | listed tokenizes delivers =>
    simp only [attempt_of_tokenizes tokenizes, StateT.run_bind, delivers.run_eq]
    rfl

theorem exists_runsOnce (options : Options) (files : σ) :
    ∃ result after, options.RunsOnce files result after := by
  obtain ⟨source, hreads⟩ | ⟨problem, hcannot⟩ := options.reads_or_cannotRead files
  · cases hrun : options.lexer.run source with
    | error fault =>
      cases hreport : fault.report source with
      | ok report => exact ⟨_, _, .faulty hreads hrun hreport⟩
      | error cause => exact ⟨_, _, .invalid hreads hrun hreport⟩
    | ok tokens =>
      obtain ⟨delivery, after, hdelivers⟩ :=
        options.exists_delivers files (options.format.list tokens)
      exact ⟨_, _, .listed ⟨source, hreads, hrun⟩ hdelivers⟩
  · exact ⟨_, _, .unreadable hcannot⟩

end Options

end LispLex
