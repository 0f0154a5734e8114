-- SUMMARY: The command: reading and lexing one file, delivering the listing of its tokens, and the exit status, in any monad with access to files.
import LispLex.Command.Options
import LispLex.Run.Log
import LispLex.Listing.Plain
import LispLex.Listing.Structured

/-!
# The command

Tokenizes one file and delivers the listing of its tokens. A listing is delivered only once it is
complete: when the file cannot be read or lexed, nothing but notices comes out.
-/

namespace LispLex

-- ---------------------------------------------------------------------------
-- Notices
-- ---------------------------------------------------------------------------

/-- What is told on standard error. -/
inductive Notice where
  | usage (fault : UsageFault)
  | problem (problem : Problem)
  | log (line : Text)
  /-- Where a logged fault comes from. -/
  | trace (report : Report)
  | report (report : Report) (file : Text)
  | listing (tokens : List Token)
  | watching (file : Text)
  | tokenized (file : Text)

def Notice.text : Notice → Text
  | .usage fault => fault.text
  | .problem cause => unlines ["error: ".toList ++ cause.message]
  | .log line => unlines [line]
  | .trace cause => unlines ["  caused by: ".toList ++ cause.message]
  | .report fault file => unlines [fault.render file]
  | .listing tokens => plainListing tokens
  | .watching file => unlines ["Watching ".toList ++ file ++ " for changes...".toList]
  | .tokenized file => unlines ["Tokenized ".toList ++ file]

-- ---------------------------------------------------------------------------
-- Attempts
-- ---------------------------------------------------------------------------

/-- What comes of a source: its listing, or what is wrong. -/
inductive Verdict where
  | listed (text : Text)
  | unreadable (problem : Problem)
  | faulty (report : Report)
  | invalid (cause : InvalidValue)

/-- A verdict with the notices on the way to it. -/
structure Attempt where
  notices : List Notice
  verdict : Verdict

/-- The listing of some tokens in the given format. -/
def Format.list : Format → List Token → Text
  | .plain => plainListing
  | .structured => structuredListing

namespace Options

/-- The input as messages show it. -/
def file (options : Options) : Text :=
  options.input.toText

/-- Tokenizes a source. -/
def attemptText (options : Options) (source : Text) : Attempt :=
  let outcome := options.lexer.run source
  let logged := if options.verbose then (outcome.log options.file).map .log else []
  match outcome with
  | .ok tokens =>
    let listed := if options.debug then [.listing tokens] else []
    ⟨logged ++ listed, .listed (options.format.list tokens)⟩
  | .error fault =>
    match fault.report source with
    | .ok report => ⟨logged, .faulty report⟩
    | .error cause => ⟨logged, .invalid cause⟩

/-- Tokenizes what reading the input gave. All line ends are taken as line feeds. -/
def attempt (options : Options) (read : Except FileFault Bytes) : Attempt :=
  match read with
  | .error fault => ⟨[], .unreadable (.file fault)⟩
  | .ok bytes =>
    match decodeUtf8 bytes with
    | .error fault => ⟨[], .unreadable (.encoding fault)⟩
    | .ok text => options.attemptText (unifyNewlines text)

end Options

-- ---------------------------------------------------------------------------
-- Delivery
-- ---------------------------------------------------------------------------

/-- A fault at the place that a text is brought to. -/
inductive DeliveryFault where
  | file (fault : FileFault)
  /-- Standard output has no bytes for a character. -/
  | unencodable (reason : Text)
  deriving DecidableEq, Repr

def StreamFault.delivery : StreamFault → DeliveryFault
  | .unencodable reason => .unencodable reason
  | .broken cause _ => .file ⟨cause, none⟩

/-- What comes of bringing a text to its place: what standard output took of it, and the fault that
ended it. -/
structure Delivery where
  stdout : Text
  fault : Option DeliveryFault
  deriving DecidableEq, Repr

/-- Brings a text to standard output. -/
def printText [Monad m] [FileAccess m] (text : Text) : m Delivery := do
  match ← FileAccess.print text with
  | .ok () => return ⟨text, none⟩
  | .error fault => return ⟨text.take fault.taken, some fault.delivery⟩

/-- Brings a listing to the output file, or to standard output if there is none. -/
def Options.deliver [Monad m] [FileAccess m] (options : Options) (text : Text) : m Delivery := do
  match options.output with
  | none => printText text
  | some path =>
    match ← FileAccess.write path (encodeUtf8 text) with
    | .ok () => return ⟨[], none⟩
    | .error fault => return ⟨[], some (.file fault)⟩

-- ---------------------------------------------------------------------------
-- One run
-- ---------------------------------------------------------------------------

/-- A fault that the command does not handle. -/
inductive Escape where
  | delivery (fault : DeliveryFault)
  /-- The configuration file cannot be looked for, or not be opened. -/
  | config (fault : FileFault)
  | invalid (cause : InvalidValue)
  deriving DecidableEq, Repr

inductive Ending where
  | returns (code : Nat)
  /-- The command line itself ends the program. -/
  | leaves (code : Nat)
  | escapes (escape : Escape)
  deriving DecidableEq, Repr

/-- How a run ends that has brought its listing to its place, or failed to. -/
def Delivery.ending (delivery : Delivery) : Ending :=
  match delivery.fault with
  | none => .returns 0
  | some fault => .escapes (.delivery fault)

structure Result where
  /-- What standard output took. -/
  stdout : Text
  stderr : List Notice
  ending : Ending

/-- What is logged of a source that does not lex, besides what the lexer logs. -/
def Options.faultLog (options : Options) (report : Report) : List Notice :=
  if options.verbose then
    [.log (debugLine "cli" ("tokenizing ".toList ++ options.file ++ " failed".toList)), .trace report]
  else []

/-- The notices about a source that does not lex. -/
def Options.faultNotices (options : Options) (report : Report) : List Notice :=
  options.faultLog report ++ [.report report options.file]

/-- Tokenizes the input once. -/
def Options.runOnce [Monad m] [FileAccess m] (options : Options) : m Result := do
  let attempt := options.attempt (← FileAccess.read options.input)
  match attempt.verdict with
  | .listed text =>
    let delivery ← options.deliver text
    return ⟨delivery.stdout, attempt.notices, delivery.ending⟩
  | .unreadable problem => return ⟨[], attempt.notices ++ [.problem problem], .returns 2⟩
  | .faulty report =>
    return ⟨[], attempt.notices ++ options.faultNotices report, .returns 1⟩
  | .invalid cause => return ⟨[], attempt.notices, .escapes (.invalid cause)⟩

/-- What a command line comes to. -/
inductive Launch where
  | finished (result : Result)
  /-- The input is to be watched. -/
  | watching (options : Options)

/-- What the command comes to that is asked for help. A fault of the system is passed over. -/
def helpResult (delivery : Delivery) : Result :=
  match delivery.fault with
  | some (.unencodable reason) =>
    ⟨delivery.stdout, [], .escapes (.delivery (.unencodable reason))⟩
  | _ => ⟨delivery.stdout, [], .leaves 0⟩

/-- Runs the command with the given words, up to where watching would start. -/
def launch [Monad m] [FileAccess m] (bundling : Bundling) (words : List Text) : m Launch := do
  match Arguments.ofTexts bundling words with
  | .error .help => return .finished (helpResult (← printText helpText))
  | .error (.misuse fault) => return .finished ⟨[], [.usage fault], .leaves 2⟩
  | .ok arguments =>
    match ← Options.load arguments with
    | .error (.file fault) => return .finished ⟨[], [], .escapes (.config fault)⟩
    | .error problem => return .finished ⟨[], [.problem problem], .returns 2⟩
    | .ok options =>
      if options.watch then return .watching options
      else return .finished (← options.runOnce)

end LispLex
