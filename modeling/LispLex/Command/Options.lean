-- SUMMARY: Options put together from defaults, a configuration file and the command line, and the checks of their values.
import LispLex.Command.Arguments
import LispLex.File.Access
import LispLex.Run
import LispLex.Toml.Reader

/-!
# Options

What a run of the command does, put together from the defaults, a configuration file and the command
line, each overriding the one before. Every value in the configuration is checked, also one that the
command line overrides; the first fault decides.
-/

namespace LispLex

structure Options where
  input : Path
  /-- Where the listing goes; standard output if there is none. -/
  output : Option Path
  format : Format
  lexer : Lexer
  watch : Bool
  debug : Bool
  verbose : Bool
  deriving DecidableEq, Repr

-- ---------------------------------------------------------------------------
-- Faults
-- ---------------------------------------------------------------------------

inductive ConfigFault where
  | format (value : Toml)
  /-- The rules are not an array. -/
  | rules (value : Toml)
  | table (fault : TableFault)
  /-- The name of a rule is a number beyond the digit limit. -/
  | unwritableName
  | maxInt (value : Toml)
  | snippetLength (value : Toml)
  /-- The ceiling on the command line is not positive. -/
  | givenMaxInt (n : Int)

/-- A message with the text of the value it is about. -/
def aboutValue (message : String) (value : Toml) : Text :=
  match value.shown? with
  | some shown => message.toList ++ [':', ' '] ++ shown
  | none => unwritableMessage

def ConfigFault.message : ConfigFault → Text
  | .format value => aboutValue "invalid output format in config" value
  | .rules value => aboutValue "invalid rules in config (expected a list of names)" value
  | .table fault => fault.message
  | .unwritableName => unwritableMessage
  | .maxInt value => aboutValue "invalid max-int in config (expected a positive integer)" value
  | .snippetLength value =>
    aboutValue "invalid snippet-length in config (expected a positive integer)" value
  | .givenMaxInt n => aboutValue "invalid --max-int (expected a positive integer)" (.integer n)

def TomlFault.message : TomlFault → Text
  | .malformed => "malformed configuration file".toList
  | .longNumber digits => unreadableMessage digits

/-- Why there are no options, or no source to tokenize. -/
inductive Problem where
  | file (fault : FileFault)
  | encoding (fault : Utf8Fault)
  | toml (fault : TomlFault)
  | config (fault : ConfigFault)

def Problem.message : Problem → Text
  | .file fault => fault.message
  | .encoding fault => fault.message
  | .toml fault => fault.message
  | .config fault => fault.message

-- ---------------------------------------------------------------------------
-- Configuration
-- ---------------------------------------------------------------------------

/-- The entries of the table with the given name; none if it is no table. -/
def TomlTable.section (config : TomlTable) (name : String) : TomlTable :=
  match config.get? name.toList with
  | some (.table entries) => entries
  | _ => []

/-- The value of an entry, checked by `check`, if there is one. -/
def TomlTable.checked (entries : TomlTable) (name : String)
    (check : Toml → Except ConfigFault α) : Except ConfigFault (Option α) :=
  match entries.get? name.toList with
  | none => .ok none
  | some value => (check value).map some

def checkFormat (value : Toml) : Except ConfigFault Format :=
  match value with
  | .text name =>
    match Format.ofName? name with
    | some format => .ok format
    | none => .error (.format value)
  | _ => .error (.format value)

/-- The standard rules that an array names; an item that is no text is taken by its text. -/
def checkRules (value : Toml) : Except ConfigFault (List Rule) :=
  match value with
  | .array items =>
    let names := items.map Toml.name?
    match rulesNamed ((names.takeWhile Option.isSome).filterMap id) with
    | .error fault => .error (.table fault)
    | .ok rules => if names.all Option.isSome then .ok rules else .error .unwritableName
  | _ => .error (.rules value)

/-- A positive integer; booleans are none. -/
def checkPositive (fault : Toml → ConfigFault) (value : Toml) : Except ConfigFault Int :=
  match value with
  | .integer n => if 0 < n then .ok n else .error (fault value)
  | _ => .error (fault value)

/-- The options that a command line and a configuration give. -/
def Options.ofConfig (arguments : Arguments) (config : TomlTable) : Except ConfigFault Options := do
  let format ← (config.section "output").checked "format" checkFormat
  let lexer := config.section "lexer"
  let rules ← lexer.checked "rules" checkRules
  let ceiling ← lexer.checked "max-int" (checkPositive .maxInt)
  let snippetLength ← lexer.checked "snippet-length" (checkPositive .snippetLength)
  if arguments.maxInt.any (· ≤ 0) then throw (.givenMaxInt (arguments.maxInt.getD 0))
  return {
    input := .ofText arguments.input
    output := (arguments.output.filter (· ≠ [])).map .ofText
    format := (arguments.format.or format).getD .plain
    lexer := {
      rules := rules.getD standardRules
      ceiling := some ((arguments.maxInt.or ceiling).getD standardCeiling)
      snippetLength := snippetLength.getD 20 }
    watch := arguments.watch
    debug := arguments.debug
    verbose := arguments.verbose }

/-- The configuration file: the one that is named, or the one beside the input. -/
def Arguments.configPath (arguments : Arguments) : Path :=
  match arguments.config.filter (· ≠ []) with
  | some path => .ofText path
  | none => (Path.ofText arguments.input).parent.child "minilisp.toml".toList

/-- The options that a command line and the text of a configuration file give. -/
def Options.ofBytes (arguments : Arguments) (bytes : Bytes) : Except Problem Options := do
  let text ← (decodeUtf8 bytes).mapError .encoding
  let config ← (TomlTable.read text).mapError .toml
  (Options.ofConfig arguments config).mapError .config

/-- The options that a command line gives; a configuration file that is missing is empty. -/
def Options.load [Monad m] [FileAccess m] (arguments : Arguments) : m (Except Problem Options) := do
  let path := arguments.configPath
  match ← FileAccess.isFile path with
  | .error fault => return .error (.file fault)
  | .ok false => return (Options.ofConfig arguments []).mapError .config
  | .ok true =>
    match ← FileAccess.read path with
    | .error fault => return .error (.file fault)
    | .ok bytes => return Options.ofBytes arguments bytes

end LispLex
