-- SUMMARY: Reader for the written form of patterns, with its faults.
import LispLex.Pattern.Basic
import LispLex.Text.Numeral
import LispLex.Text.Reader

/-!
# Reading patterns

The written form of patterns. `Pattern.read` turns a text into an expression or says what is wrong
with it. Groups are numbered by their opening parentheses from 1.
-/

namespace LispLex

/-- What can be wrong with a written pattern. -/
inductive PatternFault where
  | unterminatedClass
  | reversedRange
  | badEscape
  | badReference
  | missingParenthesis
  | unbalancedParenthesis
  | unknownGroupKind
  | nothingToRepeat
  | repeatedRepeat
  | reversedBounds
  | unboundedBehind
  deriving DecidableEq, Repr

-- ---------------------------------------------------------------------------
-- Widths
-- ---------------------------------------------------------------------------

/-- The least number of characters something matches, and the greatest if there is one. -/
structure Width where
  least : Nat
  most : Option Nat
  deriving DecidableEq, Repr

namespace Width

def zero : Width := ⟨0, some 0⟩

def add (a b : Width) : Width :=
  ⟨a.least + b.least, do return (← a.most) + (← b.most)⟩

def join (a b : Width) : Width :=
  ⟨min a.least b.least, do return max (← a.most) (← b.most)⟩

/-- The width of between `least` and `most` copies. -/
def repeated (a : Width) (least : Nat) (most : Option Nat) : Width :=
  ⟨a.least * least, if a.most = some 0 then some 0 else do return (← a.most) * (← most)⟩

/-- The number of characters, if there is only one possibility. -/
def fixed? (a : Width) : Option Nat :=
  a.most.filter (· == a.least)

end Width

/-- The width of an expression, given that of the groups it refers to. -/
def Expr.width (groupWidth : Nat → Width) : Expr → Width
  | .one _ => ⟨1, some 1⟩
  | .seq first second => (first.width groupWidth).add (second.width groupWidth)
  | .alt first second => (first.width groupWidth).join (second.width groupWidth)
  | .rep body least most _ => (body.width groupWidth).repeated least most
  | .group _ body => body.width groupWidth
  | .again index _ => groupWidth index
  | .empty | .anchor _ | .ahead _ _ | .behind _ _ _ => .zero

-- ---------------------------------------------------------------------------
-- The state of a reading
-- ---------------------------------------------------------------------------

/-- The groups met so far. -/
structure PatternGroups where
  /-- How many groups have been opened. -/
  opened : Nat
  /-- The groups closed so far, with their widths. -/
  closed : List (Nat × Width)

/-- The width of a closed group. -/
def PatternGroups.width (groups : PatternGroups) (index : Nat) : Width :=
  (groups.closed.lookup index).getD .zero

abbrev PatternReader := TextReader PatternFault PatternGroups

namespace PatternReader

open TextReader

-- ---------------------------------------------------------------------------
-- Escapes
-- ---------------------------------------------------------------------------

/-- What a backslash and the characters after it stand for. -/
inductive Escape where
  | char (c : Char)
  | named (category : Category) (negated : Bool)
  | anchor (anchor : Anchor)
  | reference (index : Nat)
  deriving DecidableEq, Repr

/-- The control characters written with a letter. -/
def controlEscapes : List (Char × Char) :=
  [('a', '\x07'), ('f', '\x0c'), ('n', '\n'), ('r', '\r'), ('t', '\t'), ('v', '\x0b')]

def categoryEscapes : List (Char × Category × Bool) :=
  [('d', .digit, false), ('D', .digit, true), ('s', .space, false), ('S', .space, true),
   ('w', .word, false), ('W', .word, true)]

def anchorEscapes : List (Char × Anchor) :=
  [('A', .textStart), ('b', .wordEdge), ('B', .wordInside), ('Z', .textEnd)]

/-- How many hexadecimal digits follow each letter that announces a character by its number. -/
def hexadecimalEscapes : List (Char × Nat) :=
  [('x', 2), ('u', 4), ('U', 8)]

/-- The character with exactly `count` hexadecimal digits coming next as its number. -/
def readCharNumber (count : Nat) : PatternReader Char := do
  let digits := (← takeUpTo count fun c => (hexadecimalDigit? c).isSome).filterMap hexadecimalDigit?
  let number := ofDigits 16 digits
  if digits.length = count ∧ number.isValidChar then return Char.ofNat number
  throw .badEscape

/-- The escape after a backslash that means the same inside and outside of classes. -/
def readCommonEscape (c : Char) : PatternReader Escape := do
  if let some control := controlEscapes.lookup c then return .char control
  if let some (category, negated) := categoryEscapes.lookup c then return .named category negated
  if let some count := hexadecimalEscapes.lookup c then return .char (← readCharNumber count)
  if c = '0' then return .char '\x00'
  if c.isAlphanum then throw .badEscape
  return .char c

/-- The escape after a backslash inside a class, where `b` is the backspace. -/
def readClassEscape : PatternReader Escape := do
  match ← take? with
  | none => throw .badEscape
  | some 'b' => return .char '\x08'
  | some c => readCommonEscape c

/-- The escape after a backslash outside of classes, where numbers of one or two digits refer to
groups. -/
def readEscape : PatternReader Escape := do
  match ← take? with
  | none => throw .badEscape
  | some c =>
    if let some anchor := anchorEscapes.lookup c then return .anchor anchor
    match asciiDigit? c with
    | none | some 0 => readCommonEscape c
    | some digit =>
      let more ← takeUpTo 1 fun c => (asciiDigit? c).isSome
      return .reference (ofDigits 10 (digit :: more.filterMap asciiDigit?))

-- ---------------------------------------------------------------------------
-- Classes
-- ---------------------------------------------------------------------------

/-- One end of a range in a class, or a named class. -/
def readClassMember (c : Char) : PatternReader Escape :=
  if c = '\\' then readClassEscape else return .char c

def Escape.toItems : Escape → List ClassItem
  | .char c => [.range c c]
  | .named category negated => [.named category negated]
  | .anchor _ | .reference _ => []

/-- The entry of a class that starts with `c`, and whether the closing bracket was taken with it: a
hyphen just before that bracket stands for itself. -/
def readClassEntry (c : Char) : PatternReader (List ClassItem × Bool) := do
  let first ← readClassMember c
  unless ← accept ['-'] do return (first.toItems, false)
  match ← take? with
  | none => throw .unterminatedClass
  | some ']' => return (first.toItems ++ [.range '-' '-'], true)
  | some c =>
    match first, ← readClassMember c with
    | .char first, .char last =>
      if last < first then throw .reversedRange
      return ([.range first last], false)
    | _, _ => throw .reversedRange

/-- The items of a class up to its closing bracket, which is an item itself where it comes first;
`budget` bounds their number. -/
def readClassItems : (budget : Nat) → List ClassItem → PatternReader (List ClassItem)
  | 0, _ => throw .unterminatedClass
  | budget + 1, items => do
    match ← take? with
    | none => throw .unterminatedClass
    | some c =>
      if c = ']' ∧ items ≠ [] then return items
      let (more, closed) ← readClassEntry c
      if closed then return items ++ more
      readClassItems budget (items ++ more)

-- ---------------------------------------------------------------------------
-- Expressions
-- ---------------------------------------------------------------------------

/-- Which repetition may follow a part of a sequence: any for an ordinary part, none for an anchor or
for a repetition. -/
inductive PartKind where
  | ordinary
  | anchor
  | repetition
  deriving DecidableEq, Repr

/-- The parts of a sequence, last part first, as one expression. -/
def sequenceOf (parts : List (PartKind × Expr)) : Expr :=
  match parts with
  | [] => .empty
  | (_, last) :: earlier => earlier.foldl (fun expr part => .seq part.2 expr) last

/-- The bounds of a repetition between braces, with the text after them; none if the brace stands
for itself. -/
def bracedBounds? (text : Text) : Option ((Nat × Option Nat) × Text) :=
  let isDigit := fun c => (asciiDigit? c).isSome
  let low := text.takeWhile isDigit
  let number? := fun digits : Text =>
    if digits.isEmpty then none else some (ofDigits 10 (digits.filterMap asciiDigit?))
  match text.dropWhile isDigit with
  | ',' :: rest =>
    match rest.dropWhile isDigit with
    | '}' :: after => some (((number? low).getD 0, number? (rest.takeWhile isDigit)), after)
    | _ => none
  | '}' :: after => (number? low).map fun count => ((count, some count), after)
  | _ => none

/-- The bounds that the repetition sign `c` announces; none if `c` is no such sign here. -/
def readBounds? (c : Char) : PatternReader (Option (Nat × Option Nat)) := do
  match c with
  | '?' => return some (0, some 1)
  | '*' => return some (0, none)
  | '+' => return some (1, none)
  | '\x7b' =>
    match bracedBounds? (← rest) with
    | none => return none
    | some (bounds, after) =>
      setRest after
      return some bounds
  | _ => return none

/-- Puts a repetition on the last part of a sequence. -/
def repeatLast (parts : List (PartKind × Expr)) (bounds : Nat × Option Nat) (greedy : Bool) :
    Except PatternFault (List (PartKind × Expr)) :=
  match parts with
  | [] | (.anchor, _) :: _ => throw .nothingToRepeat
  | (.repetition, _) :: _ => throw .repeatedRepeat
  | (.ordinary, body) :: earlier =>
    if bounds.2.any (· < bounds.1) then throw .reversedBounds
    else return (.repetition, .rep body bounds.1 bounds.2 greedy) :: earlier

/-- What surrounds the expression being read. -/
structure Context where
  flags : PatternFlags
  /-- Inside an assertion about the text behind: how many groups were open when it began. -/
  behindFrom : Option Nat

/-- A reference to a closed group; inside an assertion about the text behind only to a group from
before it. -/
def readReference (context : Context) (index : Nat) : PatternReader Expr := do
  if ((← state).closed.lookup index).isSome ∧ context.behindFrom.all (index ≤ ·) then
    return .again index context.flags.ignoreCase
  throw .badReference

/-- The part that a character outside of classes and groups stands for. -/
def readSimplePart (context : Context) (c : Char) : PatternReader (PartKind × Expr) := do
  let flags := context.flags
  match c with
  | '.' =>
    let excluded := if flags.dotAll then [] else [.range '\n' '\n']
    return (.ordinary, .one ⟨excluded, true, false⟩)
  | '^' => return (.anchor, .anchor (if flags.multiline then .lineStart else .textStart))
  | '$' => return (.anchor, .anchor (if flags.multiline then .lineEnd else .finalEnd))
  | '[' =>
    let negated ← accept ['^']
    let items ← readClassItems ((← rest).length + 1) []
    return (.ordinary, .one ⟨items, negated, flags.ignoreCase⟩)
  | '\\' =>
    match ← readEscape with
    | .char c => return (.ordinary, .one (.single c flags.ignoreCase))
    | .named category negated => return (.ordinary, .one ⟨[.named category negated], false, false⟩)
    | .anchor anchor => return (.anchor, .anchor anchor)
    | .reference index => return (.ordinary, ← readReference context index)
  | c => return (.ordinary, .one (.single c flags.ignoreCase))

mutual

/-- A choice of sequences, up to a closing parenthesis or the end. -/
def readChoice : (budget : Nat) → Context → PatternReader Expr
  | 0, _ => throw .missingParenthesis
  | budget + 1, context => do
    let first ← readSequence budget context []
    if ← accept ['|'] then return .alt first (← readChoice budget context)
    return first

/-- The rest of a sequence after the given parts, last part first. -/
def readSequence : (budget : Nat) → Context → List (PartKind × Expr) → PatternReader Expr
  | 0, _, _ => throw .missingParenthesis
  | budget + 1, context, parts => do
    match ← peek? with
    | none | some '|' | some ')' => return sequenceOf parts
    | some c =>
      skip 1
      if c = '(' then
        return ← readSequence budget context ((.ordinary, ← readGroup budget context) :: parts)
      match ← readBounds? c with
      | some bounds =>
        let greedy := !(← accept ['?'])
        readSequence budget context (← repeatLast parts bounds greedy)
      | none => readSequence budget context ((← readSimplePart context c) :: parts)

/-- A group or an assertion, after its opening parenthesis. -/
def readGroup : (budget : Nat) → Context → PatternReader Expr
  | 0, _ => throw .missingParenthesis
  | budget + 1, context => do
    if !(← accept ['?']) then
      let before ← state
      let index := before.opened + 1
      setState { before with opened := index }
      let body ← readClosed budget context
      let after ← state
      setState { after with closed := (index, body.width after.width) :: after.closed }
      return .group index body
    else if ← accept [':'] then readClosed budget context
    else if ← accept ['='] then return .ahead (← readClosed budget context) false
    else if ← accept ['!'] then return .ahead (← readClosed budget context) true
    else if ← accept ['<', '='] then readBehind budget context false
    else if ← accept ['<', '!'] then readBehind budget context true
    else throw .unknownGroupKind

/-- An assertion about the text behind; its body must have one width only. -/
def readBehind : (budget : Nat) → Context → (negated : Bool) → PatternReader Expr
  | 0, _, _ => throw .missingParenthesis
  | budget + 1, context, negated => do
    let opened := (← state).opened
    let body ← readClosed budget { context with behindFrom := context.behindFrom.or (some opened) }
    match (body.width (← state).width).fixed? with
    | some width => return .behind body width negated
    | none => throw .unboundedBehind

/-- A choice with the parenthesis that closes it. -/
def readClosed : (budget : Nat) → Context → PatternReader Expr
  | 0, _ => throw .missingParenthesis
  | budget + 1, context => do
    let body ← readChoice budget context
    if ← accept [')'] then return body
    throw .missingParenthesis

end

/-- A whole pattern; a parenthesis that closes nothing is left over. -/
def readWhole (flags : PatternFlags) : PatternReader Expr := do
  let expr ← readChoice (4 * (← rest).length + 4) ⟨flags, none⟩
  if (← peek?).isSome then throw .unbalancedParenthesis
  return expr

end PatternReader

/-- The pattern that a text writes under the given flags. -/
def Pattern.read (flags : PatternFlags) (source : Text) : Except PatternFault Pattern := do
  let (expr, _) ← (PatternReader.readWhole flags).run ⟨source, 0, []⟩
  return ⟨source, expr⟩

end LispLex
