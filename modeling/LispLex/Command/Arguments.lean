-- SUMMARY: Parsing of command lines: flags with and without values, shortened and bundled flags, usage and help texts.
import LispLex.Text.Numeral
import LispLex.Text.Quoted

/-!
# Command line arguments

The words of a command line: one input, and flags with or without values. Long flags may be shortened
as long as they stay unambiguous, short flags may be bundled, and after a double dash every word is
an operand. Words are first sorted into flags and operands, then taken in order; the first fault
decides.
-/

namespace LispLex

-- ---------------------------------------------------------------------------
-- Flags
-- ---------------------------------------------------------------------------

inductive Flag where
  | help
  | output
  | format
  | config
  | maxInt
  | watch
  | debug
  | verbose
  deriving DecidableEq, Repr

namespace Flag

def all : List Flag :=
  [help, output, format, config, maxInt, watch, debug, verbose]

def long : Flag → Text
  | help => "--help".toList
  | output => "--output".toList
  | format => "--format".toList
  | config => "--config".toList
  | maxInt => "--max-int".toList
  | watch => "--watch".toList
  | debug => "--debug".toList
  | verbose => "--verbose".toList

def short? : Flag → Option Char
  | help => some 'h'
  | output => some 'o'
  | format => some 'f'
  | verbose => some 'v'
  | config | maxInt | watch | debug => none

def takesValue : Flag → Bool
  | output | format | config | maxInt => true
  | help | watch | debug | verbose => false

/-- How messages name the flag. -/
def label (flag : Flag) : Text :=
  match flag.short? with
  | some letter => ['-', letter, '/'] ++ flag.long
  | none => flag.long

def ofLong? (text : Text) : Option Flag :=
  all.find? (·.long == text)

def ofShort? (letter : Char) : Option Flag :=
  all.find? (·.short? == some letter)

end Flag

/-- How the tokens are listed. -/
inductive Format where
  | plain
  | structured
  deriving DecidableEq, Repr

def Format.name : Format → Text
  | .plain => "text".toList
  | .structured => "json".toList

def Format.all : List Format :=
  [.plain, .structured]

def Format.ofName? (name : Text) : Option Format :=
  all.find? (·.name == name)

/-- What a command line asks for. -/
structure Arguments where
  input : Text
  output : Option Text := none
  format : Option Format := none
  config : Option Text := none
  maxInt : Option Int := none
  watch : Bool := false
  debug : Bool := false
  verbose : Bool := false
  deriving DecidableEq, Repr

-- ---------------------------------------------------------------------------
-- Faults
-- ---------------------------------------------------------------------------

inductive UsageFault where
  | ambiguous (word : Text) (flags : List Flag)
  | missingValue (flag : Flag)
  /-- A value stands with a flag that takes none. -/
  | unwantedValue (flag : Flag) (value : Text)
  | unknownFormat (value : Text)
  | noInteger (value : Text)
  | missingInput
  | unrecognized (words : List Text)
  deriving DecidableEq, Repr

/-- Items separated by commas. -/
def commaSeparated (items : List Text) : Text :=
  [',', ' '].intercalate items

/-- A message about a flag. -/
def aboutFlag (flag : Flag) (message : Text) : Text :=
  "argument ".toList ++ flag.label ++ [':', ' '] ++ message

def UsageFault.message : UsageFault → Text
  | .ambiguous word flags =>
    "ambiguous option: ".toList ++ word ++ " could match ".toList ++
      commaSeparated (flags.map Flag.long)
  | .missingValue flag => aboutFlag flag "expected one argument".toList
  | .unwantedValue flag value =>
    aboutFlag flag ("ignored explicit argument ".toList ++ quoted value)
  | .unknownFormat value =>
    aboutFlag .format ("invalid choice: ".toList ++ quoted value ++ " (choose from ".toList ++
      commaSeparated (Format.all.map (quoted ·.name)) ++ [')'])
  | .noInteger value => aboutFlag .maxInt ("invalid int value: ".toList ++ quoted value)
  | .missingInput => "the following arguments are required: input".toList
  | .unrecognized words => "unrecognized arguments: ".toList ++ [' '].intercalate words

-- ---------------------------------------------------------------------------
-- Sorting words
-- ---------------------------------------------------------------------------

/-- A value in one word with its flag. -/
structure Attached where
  /-- An equals sign sets it off from the flag. -/
  setOff : Bool
  text : Text
  deriving DecidableEq, Repr

inductive Word where
  | operand (text : Text)
  /-- The double dash after which every word is an operand. -/
  | separator
  /-- A flag, written with its short letter or its long name, and the value that stands with it. -/
  | flagged (flag : Flag) (short : Bool) (value : Option Attached)
  /-- A word that looks like a flag but is none. -/
  | unknown (text : Text)
  deriving DecidableEq, Repr

/-- The text is made of digits, or of a point with digits after it and perhaps before it. -/
def isUnsignedNumber (text : Text) : Bool :=
  let isDigit := fun c => (decimalDigit? c).isSome
  match text.dropWhile isDigit with
  | [] => !text.isEmpty
  | '.' :: fraction => !fraction.isEmpty && fraction.all isDigit
  | _ => false

/-- A minus sign with a number, and perhaps a line feed at the end. -/
def isNegativeNumber : Text → Bool
  | '-' :: rest =>
    isUnsignedNumber (if rest.getLast? = some '\n' then rest.dropLast else rest)
  | _ => false

/-- The flag that a whole text names, and whether by its letter. -/
def exactFlag? : Text → Option (Flag × Bool)
  | ['-', letter] => (Flag.ofShort? letter).map (·, true)
  | text => (Flag.ofLong? text).map (·, false)

/-- The text before the first equals sign, and the value after it if there is one. -/
def splitValue (text : Text) : Text × Option Attached :=
  match text.dropWhile (· != '=') with
  | [] => (text, none)
  | _ :: value => (text.takeWhile (· != '='), some ⟨true, value⟩)

/-- The flags that a text may stand for if it names none in full: a shortened long name, or a letter
with more behind it. -/
def possibleFlags (text : Text) : List (Flag × Bool × Option Attached) :=
  match text with
  | '-' :: '-' :: _ =>
    let (start, value) := splitValue text
    (Flag.all.filter (start.isPrefixOf ·.long)).map fun flag => (flag, false, value)
  | '-' :: letter :: more =>
    ((Flag.ofShort? letter).map fun flag => (flag, true, some ⟨false, more⟩)).toList
  | _ => []

/-- The word that a text is before the double dash. -/
def Word.ofText (text : Text) : Except UsageFault Word :=
  if text.head? ≠ some '-' ∨ text.length = 1 then .ok (.operand text)
  else
    let (start, value) := splitValue text
    match exactFlag? text, if value.isSome then exactFlag? start else none with
    | some (flag, short), _ => .ok (.flagged flag short none)
    | none, some (flag, short) => .ok (.flagged flag short value)
    | none, none =>
      match possibleFlags text with
      | [(flag, short, value)] => .ok (.flagged flag short value)
      | [] =>
        if isNegativeNumber text ∨ text.contains ' ' then .ok (.operand text)
        else .ok (.unknown text)
      | flags => .error (.ambiguous text (flags.map (·.1)))

/-- The words of a command line. -/
def sortWords : List Text → Except UsageFault (List Word)
  | [] => .ok []
  | ['-', '-'] :: texts => .ok (.separator :: texts.map .operand)
  | text :: texts => do return (← Word.ofText text) :: (← sortWords texts)

-- ---------------------------------------------------------------------------
-- Bundled flags
-- ---------------------------------------------------------------------------

/-- How the letters behind a short flag are taken, in which argument parsers differ. -/
inductive Bundling where
  /-- All that is behind a letter is its value, or more letters. Each of them has to be a flag. -/
  | verbatim
  /-- An equals sign behind a letter sets off its value. What starts with a letter that is no flag is
  left over. -/
  | separating
  deriving DecidableEq, Repr

inductive BundleEnd where
  /-- A flag, and the value that stands with it. -/
  | flag (flag : Flag) (value : Option Text)
  /-- What nothing takes. -/
  | leftover (text : Text)
  deriving DecidableEq, Repr

/-- What is in one word: flags without a value, and what comes after them. -/
structure Bundle where
  flags : List Flag
  last : BundleEnd
  deriving DecidableEq, Repr

def Bundle.behind (flag : Flag) (bundle : Bundle) : Bundle :=
  { bundle with flags := flag :: bundle.flags }

/-- A flag with a value. -/
def Flag.withValue (flag : Flag) (value : Text) : Except UsageFault Bundle :=
  if flag.takesValue then .ok ⟨[], .flag flag (some value)⟩ else .error (.unwantedValue flag value)

/-- A flag with something behind it that does not start with the letter of a flag. -/
def Bundling.stray (bundling : Bundling) (flag : Flag) (text : Text) : Except UsageFault Bundle :=
  match bundling with
  | .verbatim => .error (.unwantedValue flag text)
  | .separating =>
    if text.head? = some '-' then .error (.unwantedValue flag text)
    else .ok ⟨[flag], .leftover ('-' :: text)⟩

/-- A flag with a text right behind it, which is its value if it takes one, and otherwise the letters of
more flags. -/
def Flag.withLetters (bundling : Bundling) (flag : Flag) : Text → Except UsageFault Bundle
  | [] => flag.withValue []
  | letter :: more =>
    if flag.takesValue then flag.withValue (letter :: more)
    else
      match Flag.ofShort? letter with
      | none => bundling.stray flag (letter :: more)
      | some next =>
        if more.isEmpty then .ok ⟨[flag], .flag next none⟩
        else if bundling = .separating ∧ more.head? = some '=' then
          (next.withValue more.tail).map (.behind flag)
        else (next.withLetters bundling more).map (.behind flag)

/-- What is in the word of a flag. -/
def unbundle (bundling : Bundling) (flag : Flag) (short : Bool) :
    Option Attached → Except UsageFault Bundle
  | none => .ok ⟨[], .flag flag none⟩
  | some ⟨setOff, text⟩ =>
    if short && !(setOff && bundling = .separating) then flag.withLetters bundling text
    else flag.withValue text

-- ---------------------------------------------------------------------------
-- Taking words
-- ---------------------------------------------------------------------------

/-- A command line taken so far. -/
structure ArgumentsTaken where
  input : Option Text := none
  /-- All but the input. -/
  others : Arguments := { input := [] }
  /-- Words that nothing takes. -/
  extra : List Text := []

/-- Why taking words ends early. -/
inductive Interruption where
  | help
  | misuse (fault : UsageFault)
  deriving DecidableEq, Repr

/-- What a flag does, with its value if it takes one. -/
def ArgumentsTaken.apply (taken : ArgumentsTaken) (flag : Flag) (value : Text) :
    Except Interruption ArgumentsTaken :=
  let others := taken.others
  match flag with
  | .help => .error .help
  | .output => .ok { taken with others := { others with output := some value } }
  | .format =>
    match Format.ofName? value with
    | some format => .ok { taken with others := { others with format := some format } }
    | none => .error (.misuse (.unknownFormat value))
  | .config => .ok { taken with others := { others with config := some value } }
  | .maxInt =>
    match lenientInteger? value with
    | some n => .ok { taken with others := { others with maxInt := some n } }
    | none => .error (.misuse (.noInteger value))
  | .watch => .ok { taken with others := { others with watch := true } }
  | .debug => .ok { taken with others := { others with debug := true } }
  | .verbose => .ok { taken with others := { others with verbose := true } }

def ArgumentsTaken.addExtra (taken : ArgumentsTaken) (text : Text) : ArgumentsTaken :=
  { taken with extra := taken.extra ++ [text] }

/-- Takes the words in order. The first operand is the input, and a double dash just before or after
it belongs to it. -/
def takeWords (bundling : Bundling) (taken : ArgumentsTaken) :
    List Word → Except Interruption ArgumentsTaken
  | [] => .ok taken
  | .unknown text :: words => takeWords bundling (taken.addExtra text) words
  | .operand text :: words =>
    if taken.input.isSome then takeWords bundling (taken.addExtra text) words
    else
      let taken := { taken with input := some text }
      match words with
      | .separator :: words => takeWords bundling taken words
      | words => takeWords bundling taken words
  | .separator :: words =>
    match taken.input, words with
    | none, .operand text :: words => takeWords bundling { taken with input := some text } words
    | _, words => takeWords bundling (taken.addExtra ['-', '-']) words
  | .flagged flag short value :: words => do
    let ⟨flags, last⟩ ← (unbundle bundling flag short value).mapError .misuse
    match last with
    | .leftover text =>
      let taken ← flags.foldlM (·.apply · []) taken
      takeWords bundling (taken.addExtra text) words
    | .flag last value =>
      match last.takesValue, value, words with
      | true, none, .operand value :: words =>
        let taken ← flags.foldlM (·.apply · []) taken
        takeWords bundling (← taken.apply last value) words
      | true, none, _ => .error (.misuse (.missingValue last))
      | _, value, words =>
        let taken ← flags.foldlM (·.apply · []) taken
        takeWords bundling (← taken.apply last (value.getD [])) words

/-- The arguments of a command line. -/
def Arguments.ofTexts (bundling : Bundling) (texts : List Text) :
    Except Interruption Arguments := do
  let words ← (sortWords texts).mapError .misuse
  let taken ← takeWords bundling {} words
  match taken.input, taken.extra with
  | none, _ => .error (.misuse .missingInput)
  | some input, [] => return { taken.others with input }
  | some _, extra => .error (.misuse (.unrecognized extra))

-- ---------------------------------------------------------------------------
-- Help
-- ---------------------------------------------------------------------------

def usageLines : List String :=
  ["usage: minilisp [-h] [-o OUTPUT] [-f \x7btext,json\x7d] [--config FILE]",
   "                [--max-int N] [--watch] [--debug] [-v]",
   "                input"]

def helpLines : List String :=
  usageLines ++
    ["",
     "MiniLisp tokenizer",
     "",
     "positional arguments:",
     "  input                 Input source file",
     "",
     "options:",
     "  -h, --help            show this help message and exit",
     "  -o OUTPUT, --output OUTPUT",
     "                        Output file (default: stdout)",
     "  -f \x7btext,json\x7d, --format \x7btext,json\x7d",
     "                        Output format (default: text)",
     "  --config FILE         Config file (default: auto-discover minilisp.toml)",
     "  --max-int N           Largest accepted number literal (default: 2**63 - 1)",
     "  --watch               Watch for changes and re-tokenize",
     "  --debug               Dump tokens to stderr",
     "  -v, --verbose         Enable debug logging"]

def helpText : Text :=
  unlines (helpLines.map String.toList)

/-- What is printed about a fault. -/
def UsageFault.text (fault : UsageFault) : Text :=
  unlines (usageLines.map String.toList ++ ["minilisp: error: ".toList ++ fault.message])

end LispLex
