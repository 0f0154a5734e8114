-- SUMMARY: Lexical rules, tables by order or by names, and the first rule that matches.
import LispLex.Pattern.Reader
import LispLex.Text.Quoted
import LispLex.Token.Kind

/-!
# Lexical rules

A rule pairs a kind with the pattern that recognises it. A table is a list of rules; the first rule
that matches wins, however short its match. Tables are made of the standard rules or picked from
them by the names of their kinds.
-/

namespace LispLex

structure Rule where
  kind : Kind
  pattern : Pattern
  deriving DecidableEq, Repr

/-- The text that the rule takes from the start of the remaining source. -/
def Rule.match? (rule : Rule) (rest : Text) : Option Text :=
  rule.pattern.match? rest

/-- The kind and the text of the first rule that matches. -/
def firstMatch? (rules : List Rule) (rest : Text) : Option (Kind × Text) :=
  rules.findSome? fun rule => (rule.match? rest).map (rule.kind, ·)

def Rule.standard (kind : Kind) : Rule :=
  ⟨kind, kind.pattern⟩

def standardRules : List Rule :=
  Kind.all.map .standard

/-- The standard pattern is the reading of its written form. -/
theorem Kind.read_patternSource (kind : Kind) :
    Pattern.read {} kind.patternSource.toList = .ok kind.pattern := by
  cases kind <;> rfl

-- ---------------------------------------------------------------------------
-- Tables by name
-- ---------------------------------------------------------------------------

/-- Why a list of names is no table. -/
inductive TableFault where
  | unknownKind (name : Text)
  | duplicateKind (name : Text)
  deriving DecidableEq, Repr

def TableFault.message : TableFault → Text
  | .unknownKind name => "unknown token kind ".toList ++ quoted name
  | .duplicateKind name => "duplicate token kind ".toList ++ quoted name

/-- The kinds with the given names, none twice and none of those `seen` before. -/
def kindsNamed (seen : List Kind) : List Text → Except TableFault (List Kind)
  | [] => .ok []
  | name :: names =>
    match Kind.ofName? name with
    | none => .error (.unknownKind name)
    | some kind =>
      if kind ∈ seen then .error (.duplicateKind name)
      else (kindsNamed (kind :: seen) names).map (kind :: ·)

/-- The standard rules of the kinds with the given names, in the order of the names. -/
def rulesNamed (names : List Text) : Except TableFault (List Rule) :=
  (kindsNamed [] names).map (·.map .standard)

end LispLex
