-- SUMMARY: Inversion of a launch: finding the configuration, making the options, running.
import LispLex.Proofs.Command.OneRun
import LispLex.Proofs.Command.Settings

/-!
# Launching the command

What a command line comes to: first what is found of the configuration file, then the options or what
is wrong with them, then the run. As for a single run, each way to end is a constructor, and there is
exactly one for each command line and file system.
-/

namespace LispLex

variable {σ : Type} [FileSystem σ] {arguments : Arguments} {files after : σ} {options : Options}

/-! ## Configuration -/

namespace Arguments

/-- The configuration file is there and holds these bytes. -/
def ConfigHolds (arguments : Arguments) (files : σ) (bytes : Bytes) : Prop :=
  FileSystem.isFile files arguments.configPath = .ok true ∧
    FileSystem.read files arguments.configPath = .ok bytes

/-- What is found of the configuration: its entries, of which there are none if there is no file, or
what is wrong with the file. -/
inductive Configured (arguments : Arguments) (files : σ) : Except Problem TomlTable → Prop where
  | unknown {fault : FileFault}
    (look : FileSystem.isFile files arguments.configPath = .error fault) :
    Configured arguments files (.error (.file fault))
  | missing (look : FileSystem.isFile files arguments.configPath = .ok false) :
    Configured arguments files (.ok [])
  | closed {fault : FileFault} (look : FileSystem.isFile files arguments.configPath = .ok true)
    (opening : FileSystem.read files arguments.configPath = .error fault) :
    Configured arguments files (.error (.file fault))
  | undecodable {bytes : Bytes} {fault : Utf8Fault} (holds : arguments.ConfigHolds files bytes)
    (decode : decodeUtf8 bytes = .error fault) : Configured arguments files (.error (.encoding fault))
  | malformed {bytes : Bytes} {text : Text} {fault : TomlFault}
    (holds : arguments.ConfigHolds files bytes) (decode : decodeUtf8 bytes = .ok text)
    (parse : TomlTable.read text = .error fault) : Configured arguments files (.error (.toml fault))
  | found {bytes : Bytes} {text : Text} {config : TomlTable}
    (holds : arguments.ConfigHolds files bytes) (decode : decodeUtf8 bytes = .ok text)
    (parse : TomlTable.read text = .ok config) : Configured arguments files (.ok config)

theorem exists_configured (arguments : Arguments) (files : σ) :
    ∃ found, arguments.Configured files found := by
  cases hlook : FileSystem.isFile files arguments.configPath with
  | error fault => exact ⟨_, .unknown hlook⟩
  | ok isFile =>
    cases isFile with
    | false => exact ⟨_, .missing hlook⟩
    | true =>
      cases hread : FileSystem.read files arguments.configPath with
      | error fault => exact ⟨_, .closed hlook hread⟩
      | ok bytes =>
        cases hdecode : decodeUtf8 bytes with
        | error fault => exact ⟨_, .undecodable ⟨hlook, hread⟩ hdecode⟩
        | ok text =>
          cases hparse : TomlTable.read text with
          | error fault => exact ⟨_, .malformed ⟨hlook, hread⟩ hdecode hparse⟩
          | ok config => exact ⟨_, .found ⟨hlook, hread⟩ hdecode hparse⟩

theorem ConfigHolds.load_eq {bytes : Bytes} (h : arguments.ConfigHolds files bytes) :
    (Options.load arguments : StateM σ _).run files = (Options.ofBytes arguments bytes, files) := by
  simp only [Options.load, StateT.run_bind, FileSystem.run_isFile, h.1, FileSystem.run_read, h.2,
    pure_bind]
  rfl

theorem Configured.load_eq {found : Except Problem TomlTable}
    (h : arguments.Configured files found) :
    (Options.load arguments : StateM σ _).run files =
      (found.bind fun config => (Options.ofConfig arguments config).mapError .config, files) := by
  cases h with
  | unknown look =>
    simp only [Options.load, StateT.run_bind, FileSystem.run_isFile, pure_bind, look]
    rfl
  | missing look =>
    simp only [Options.load, StateT.run_bind, FileSystem.run_isFile, pure_bind, look]
    rfl
  | closed look opening =>
    simp only [Options.load, StateT.run_bind, FileSystem.run_isFile, pure_bind, look,
      FileSystem.run_read, opening]
    rfl
  | undecodable holds decode =>
    rw [holds.load_eq, Options.ofBytes, decode]
    rfl
  | malformed holds decode parse =>
    simp only [holds.load_eq, Options.ofBytes, decode, Except.mapError, bind, Except.bind, parse]
  | found holds decode parse =>
    simp only [holds.load_eq, Options.ofBytes, decode, Except.mapError, bind, Except.bind, parse]

/-! ## Options -/

/-- The options of a command line. -/
def Gives (arguments : Arguments) (files : σ) (options : Options) : Prop :=
  ∃ config, arguments.Configured files (.ok config) ∧
    Options.ofConfig arguments config = .ok options

/-- Why a command line has no options: the configuration file is no UTF-8 text or no configuration,
or a value is not what it should be. -/
inductive Refused (arguments : Arguments) (files : σ) : Problem → Prop where
  | encoding {fault : Utf8Fault} (config : arguments.Configured files (.error (.encoding fault))) :
    Refused arguments files (.encoding fault)
  | toml {fault : TomlFault} (config : arguments.Configured files (.error (.toml fault))) :
    Refused arguments files (.toml fault)
  | value {config : TomlTable} {fault : ConfigFault}
    (configured : arguments.Configured files (.ok config))
    (refused : Options.ofConfig arguments config = .error fault) :
    Refused arguments files (.config fault)

/-- The file system cannot tell whether there is a configuration file, or does not open it. -/
def ConfigFails (arguments : Arguments) (files : σ) (fault : FileFault) : Prop :=
  arguments.Configured files (.error (.file fault))

theorem gives_or_refused_or_configFails (arguments : Arguments) (files : σ) :
    (∃ options, arguments.Gives files options) ∨ (∃ problem, arguments.Refused files problem) ∨
      ∃ fault, arguments.ConfigFails files fault := by
  obtain ⟨found, h⟩ := arguments.exists_configured files
  cases h with
  | unknown look => exact .inr (.inr ⟨_, .unknown look⟩)
  | closed look opening => exact .inr (.inr ⟨_, .closed look opening⟩)
  | undecodable holds decode => exact .inr (.inl ⟨_, .encoding (.undecodable holds decode)⟩)
  | malformed holds decode parse => exact .inr (.inl ⟨_, .toml (.malformed holds decode parse)⟩)
  | missing look => exact (made (.missing look)).imp_right .inl
  | found holds decode parse => exact (made (.found holds decode parse)).imp_right .inl
where
  made {config : TomlTable} (h : arguments.Configured files (.ok config)) :
      (∃ options, arguments.Gives files options) ∨ ∃ problem, arguments.Refused files problem := by
    cases hoptions : Options.ofConfig arguments config with
    | ok options => exact .inl ⟨options, config, h, hoptions⟩
    | error fault => exact .inr ⟨_, .value h hoptions⟩

theorem Gives.load_eq (h : arguments.Gives files options) :
    (Options.load arguments : StateM σ _).run files = (.ok options, files) := by
  obtain ⟨config, hconfig, hoptions⟩ := h
  rw [hconfig.load_eq, Except.bind, hoptions]
  rfl

theorem ConfigFails.load_eq {fault : FileFault} (h : arguments.ConfigFails files fault) :
    (Options.load arguments : StateM σ _).run files = (.error (.file fault), files) :=
  Configured.load_eq h

theorem Refused.load_eq {problem : Problem} (h : arguments.Refused files problem) :
    (Options.load arguments : StateM σ _).run files = (.error problem, files) := by
  cases h with
  | encoding config => exact config.load_eq
  | toml config => exact config.load_eq
  | value configured refused =>
    rw [configured.load_eq, Except.bind, refused]
    rfl

theorem Gives.madeFrom (h : arguments.Gives files options) : options.MadeFrom arguments :=
  Options.madeFrom_of_ofConfig h.choose_spec.2

end Arguments

/-! ## The launch -/

/-- What a command line comes to, with the files it leaves. -/
inductive Launched (bundling : Bundling) (words : List Text) (files : σ) : Launch → σ → Prop where
  | help (early : Arguments.ofTexts bundling words = .error .help) :
    Launched bundling words files
      (.finished (helpResult (.ofPrint files helpText))) files
  | misuse {fault : UsageFault} (early : Arguments.ofTexts bundling words = .error (.misuse fault)) :
    Launched bundling words files (.finished ⟨[], [.usage fault], .leaves 2⟩) files
  | noConfig {arguments : Arguments} {fault : FileFault}
    (accepted : Arguments.ofTexts bundling words = .ok arguments)
    (fails : arguments.ConfigFails files fault) :
    Launched bundling words files (.finished ⟨[], [], .escapes (.config fault)⟩) files
  | refused {arguments : Arguments} {problem : Problem}
    (accepted : Arguments.ofTexts bundling words = .ok arguments)
    (refused : arguments.Refused files problem) :
    Launched bundling words files (.finished ⟨[], [.problem problem], .returns 2⟩) files
  | watching {arguments : Arguments} {options : Options}
    (accepted : Arguments.ofTexts bundling words = .ok arguments)
    (gives : arguments.Gives files options) (watch : options.watch = true) :
    Launched bundling words files (.watching options) files
  | once {arguments : Arguments} {options : Options} {result : Result} {after : σ}
    (accepted : Arguments.ofTexts bundling words = .ok arguments)
    (gives : arguments.Gives files options) (once : options.watch = false)
    (runs : options.RunsOnce files result after) :
    Launched bundling words files (.finished result) after

variable {bundling : Bundling} {words : List Text} {outcome : Launch}

/-- A command line that gives options without a watch comes to their single run. -/
theorem launch_of_gives {arguments : Arguments}
    (accepted : Arguments.ofTexts bundling words = .ok arguments)
    (gives : arguments.Gives files options) (once : options.watch = false) {result : Result}
    (run_eq : (options.runOnce : StateM σ Result).run files = (result, after)) :
    (launch bundling words : StateM σ Launch).run files = (.finished result, after) := by
  simp only [launch, accepted, StateT.run_bind, gives.load_eq]
  change StateT.run (m := Id) (if _ then _ else _) files = _
  rw [once, if_neg Bool.false_ne_true, StateT.run_bind, run_eq]
  rfl

theorem Launched.launch_eq (h : Launched bundling words files outcome after) :
    (launch bundling words : StateM σ Launch).run files = (outcome, after) := by
  cases h with
  | help early =>
    simp only [launch, early, StateT.run_bind, run_printText]
    rfl
  | misuse early =>
    simp only [launch, early]
    rfl
  | noConfig accepted fails =>
    simp only [launch, accepted, StateT.run_bind, fails.load_eq]
    rfl
  | refused accepted refused =>
    simp only [launch, accepted, StateT.run_bind, refused.load_eq]
    cases refused <;> rfl
  | watching accepted gives watch =>
    simp only [launch, accepted, StateT.run_bind, gives.load_eq]
    change StateT.run (m := Id) (if _ then _ else _) files = _
    rw [if_pos watch]
    rfl
  | once accepted gives once runs => exact launch_of_gives accepted gives once runs.run_eq

theorem exists_launched (bundling : Bundling) (words : List Text) (files : σ) :
    ∃ outcome after, Launched bundling words files outcome after := by
  cases haccepted : Arguments.ofTexts bundling words with
  | error interruption =>
    cases interruption with
    | help => exact ⟨_, _, .help haccepted⟩
    | misuse fault => exact ⟨_, _, .misuse haccepted⟩
  | ok arguments =>
    obtain ⟨options, hgives⟩ | ⟨problem, hrefused⟩ | ⟨fault, hfails⟩ :=
      arguments.gives_or_refused_or_configFails files
    · cases hwatch : options.watch with
      | true => exact ⟨_, _, .watching haccepted hgives hwatch⟩
      | false =>
        obtain ⟨result, after, hruns⟩ := options.exists_runsOnce files
        exact ⟨_, _, .once haccepted hgives hwatch hruns⟩
    · exact ⟨_, _, .refused haccepted hrefused⟩
    · exact ⟨_, _, .noConfig haccepted hfails⟩

/-- A command line comes to one thing. -/
theorem Launched.unique {other : Launch} {left : σ} (h : Launched bundling words files outcome after)
    (hother : Launched bundling words files other left) : outcome = other ∧ after = left := by
  cases h.launch_eq.symm.trans hother.launch_eq
  exact ⟨rfl, rfl⟩

end LispLex
