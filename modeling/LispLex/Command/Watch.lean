-- SUMMARY: Watching an input: when it is tokenized anew and what a change of it is.
import LispLex.Command

/-!
# Watching

A watched input is looked at again and again. Whenever the time of its latest change differs from the
one seen before, it is tokenized anew; while it is missing nothing happens.
-/

namespace LispLex

/-- What one look at the input gives. -/
structure Poll where
  /-- What standard output took. -/
  stdout : Text
  stderr : List Notice
  /-- The fault that ends the watch, if there is one. -/
  escape : Option Escape

/-- A look that has nothing to tell. -/
def Poll.quiet : Poll :=
  ⟨[], [], none⟩

/-- The time before the first look. -/
def watchStart : Time := 0

namespace Options

/-- Tokenizes the input for a watch, which goes on after most faults. -/
def retokenize [Monad m] [FileAccess m] (options : Options) : m Poll := do
  let attempt := options.attempt (← FileAccess.read options.input)
  match attempt.verdict with
  | .listed text =>
    let delivery ← options.deliver text
    match delivery.fault with
    | none => return ⟨delivery.stdout, attempt.notices ++ [.tokenized options.file], none⟩
    | some (.file fault) =>
      return ⟨delivery.stdout, attempt.notices ++ [.problem (.file fault)], none⟩
    | some (.unencodable reason) =>
      return ⟨delivery.stdout, attempt.notices, some (.delivery (.unencodable reason))⟩
  | .unreadable problem => return ⟨[], attempt.notices ++ [.problem problem], none⟩
  | .faulty report => return ⟨[], attempt.notices ++ [.report report options.file], none⟩
  | .invalid cause => return ⟨[], attempt.notices, some (.invalid cause)⟩

/-- Looks at the input, and tokenizes it if it has changed since the time `last`. The new time is
returned with what came of it. -/
def poll [Monad m] [FileAccess m] (options : Options) (last : Time) : m (Poll × Time) := do
  match ← FileAccess.modified? options.input with
  | none => return (.quiet, last)
  | some modified =>
    if modified = last then return (.quiet, last)
    else return (← options.retokenize, modified)

/-- Looks at the input once and then after each of the changes, until a fault ends the watch. Each
look is returned with what `observe` sees after it. -/
def watchFrom [Monad m] [FileAccess m] (options : Options) (observe : m α) (last : Time) :
    (changes : List (m Unit)) → m (List (Poll × α))
  | [] => do
    let (poll, _) ← options.poll last
    return [(poll, ← observe)]
  | change :: changes => do
    let (poll, last) ← options.poll last
    let seen ← observe
    if poll.escape.isSome then return [(poll, seen)]
    change
    return (poll, seen) :: (← options.watchFrom observe last changes)

/-- What is told when watching begins. -/
def watchNotice (options : Options) : Notice :=
  .watching options.file

/-- Watches the input through some changes. The first look comes with the notice that watching
begins. -/
def watchThrough [Monad m] [FileAccess m] (options : Options) (observe : m α)
    (changes : List (m Unit)) : m (List (Poll × α)) := do
  match ← options.watchFrom observe watchStart changes with
  | [] => return []
  | (poll, seen) :: polls =>
    return ({ poll with stderr := options.watchNotice :: poll.stderr }, seen) :: polls

end Options

end LispLex
