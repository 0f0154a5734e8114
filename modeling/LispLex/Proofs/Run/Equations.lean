-- SUMMARY: Equations of a run at a cursor.
import LispLex.Proofs.Pattern.Prefix
import LispLex.Proofs.Text
import LispLex.Run

/-!
# Equations of a run

What a run does at a cursor, one equation for each thing that can stand there: blanks, the end of
the source, a text that the first matching rule takes, or a fault. Everything else about runs follows
from these equations; the loop itself is not unfolded again.
-/

namespace LispLex

/-! ## The first rule that matches -/

/-- The first rule of the table that takes something from the start of `rest` is one for `kind`, and
it takes `raw`. -/
def FirstRule (rules : List Rule) (rest : Text) (kind : Kind) (raw : Text) : Prop :=
  ∃ earlier rule later, rules = earlier ++ rule :: later ∧
    (∀ other ∈ earlier, other.match? rest = none) ∧
    rule.kind = kind ∧ rule.match? rest = some raw

theorem firstMatch?_eq_some_iff {rules : List Rule} {rest raw : Text} {kind : Kind} :
    firstMatch? rules rest = some (kind, raw) ↔ FirstRule rules rest kind raw := by
  simp only [firstMatch?, List.findSome?_eq_some_iff, Option.map_eq_some_iff, Prod.mk.injEq,
    Option.map_eq_none_iff, FirstRule]
  constructor
  · rintro ⟨earlier, rule, later, rfl, ⟨_, hmatch, hkind, rfl⟩, hearlier⟩
    exact ⟨earlier, rule, later, rfl, hearlier, hkind, hmatch⟩
  · rintro ⟨earlier, rule, later, rfl, hearlier, hkind, hmatch⟩
    exact ⟨earlier, rule, later, rfl, ⟨raw, hmatch, hkind, rfl⟩, hearlier⟩

theorem firstMatch?_eq_none_iff {rules : List Rule} {rest : Text} :
    firstMatch? rules rest = none ↔ ∀ rule ∈ rules, rule.match? rest = none := by
  simp [firstMatch?, List.findSome?_eq_none_iff]

theorem FirstRule.ne_nil {rules : List Rule} {rest raw : Text} {kind : Kind}
    (h : FirstRule rules rest kind raw) : raw ≠ [] :=
  firstMatch?_ne_nil (firstMatch?_eq_some_iff.2 h)

theorem FirstRule.isPrefix {rules : List Rule} {rest raw : Text} {kind : Kind}
    (h : FirstRule rules rest kind raw) : raw <+: rest := by
  obtain ⟨-, rule, -, -, -, -, hmatch⟩ := h
  exact Pattern.match?_prefix hmatch

/-! ## Outcomes behind several tokens -/

namespace Outcome

/-- The outcome of a run that went on from here, with the tokens before it. -/
def afterAll (tokens : List Token) (outcome : Outcome) : Outcome :=
  tokens.foldr Outcome.after outcome

@[simp] theorem afterAll_nil (outcome : Outcome) : outcome.afterAll [] = outcome := rfl

@[simp] theorem afterAll_cons (token : Token) (tokens : List Token) (outcome : Outcome) :
    outcome.afterAll (token :: tokens) = (outcome.afterAll tokens).after token := rfl

theorem afterAll_append (first second : List Token) (outcome : Outcome) :
    outcome.afterAll (first ++ second) = (outcome.afterAll second).afterAll first :=
  List.foldr_append

@[simp] theorem afterAll_ok (first second : List Token) :
    Outcome.afterAll first (.ok second) = .ok (first ++ second) := by
  induction first with
  | nil => rfl
  | cons token first ih => simp [ih, after]

@[simp] theorem afterAll_unmatched (tokens committed : List Token) (position : Position)
    (snippet : Text) :
    Outcome.afterAll tokens (.error (.unmatched position snippet committed)) =
      .error (.unmatched position snippet (tokens ++ committed)) := by
  induction tokens with
  | nil => rfl
  | cons token tokens ih => simp [ih, after]

@[simp] theorem afterAll_overflow (tokens : List Token) (position : Position) (literal : Text)
    (ceiling : Option Int) :
    Outcome.afterAll tokens (.error (.overflow position literal ceiling)) =
      .error (.overflow position literal ceiling) := by
  induction tokens with
  | nil => rfl
  | cons token tokens ih => simp [ih, after]

@[simp] theorem afterAll_invalid (tokens : List Token) (cause : InvalidValue) :
    Outcome.afterAll tokens (.error (.invalid cause)) = .error (.invalid cause) := by
  induction tokens with
  | nil => rfl
  | cons token tokens ih => simp [ih, after]

end Outcome

/-! ## Blanks -/

theorem isBlank_iff {c : Char} : isBlank c = true ↔ c = '\t' ∨ c = '\n' ∨ c = '\r' ∨ c = ' ' := by
  simp [isBlank, blankCharacters]

theorem ne_of_not_blank {c blank : Char} (hblank : isBlank blank = true) (h : isBlank c = false) :
    c ≠ blank := by
  rintro rfl
  cases hblank.symm.trans h

/-- A run of blanks that the text behind it does not extend. -/
structure BlankRun (blanks rest : Text) : Prop where
  all_blank : ∀ c ∈ blanks, isBlank c = true
  ends : ∀ c ∈ rest.head?, isBlank c = false

theorem BlankRun.of_takeWhile (text : Text) :
    BlankRun (text.takeWhile isBlank) (text.dropWhile isBlank) where
  all_blank := List.all_eq_true.1 List.all_takeWhile
  ends := head_dropWhile_not isBlank text

theorem BlankRun.takeWhile_eq {blanks rest : Text} (h : BlankRun blanks rest) :
    (blanks ++ rest).takeWhile isBlank = blanks :=
  takeWhile_append_of_head h.all_blank h.ends

theorem BlankRun.append {blanks rest : Text} (h : BlankRun blanks rest) (hne : rest ≠ [])
    (more : Text) : BlankRun blanks (rest ++ more) where
  all_blank := h.all_blank
  ends c hc := by
    rw [List.head?_append_of_ne_nil rest hne] at hc
    exact h.ends c hc

/-- The first blanks of a run, with nothing behind them. -/
theorem BlankRun.left {first second rest : Text} (h : BlankRun (first ++ second) rest) :
    BlankRun first [] where
  all_blank c hc := h.all_blank c (List.mem_append_left second hc)
  ends := by simp

/-- More blanks among the blanks of a run. -/
theorem BlankRun.insert {first second rest inserted : Text} (h : BlankRun (first ++ second) rest)
    (hinserted : ∀ c ∈ inserted, isBlank c = true) :
    BlankRun (first ++ inserted ++ second) rest where
  all_blank := by
    obtain ⟨hfirst, hsecond⟩ := List.forall_mem_append.1 h.all_blank
    exact List.forall_mem_append.2 ⟨List.forall_mem_append.2 ⟨hfirst, hinserted⟩, hsecond⟩
  ends := h.ends

/-- A text that does not start with a blank has an empty run of blanks before it. -/
theorem BlankRun.of_head {c : Char} (rest : Text) (h : isBlank c = false) : BlankRun [] (c :: rest)
    where
  all_blank := by simp
  ends := by simpa using h

theorem Cursor.skipBlanks_eq {position : Position} {blanks rest : Text} (h : BlankRun blanks rest) :
    Cursor.skipBlanks ⟨position, blanks ++ rest⟩ = ⟨position.advance blanks, rest⟩ := by
  simp [Cursor.skipBlanks, Cursor.blanks, Cursor.advance, h.takeWhile_eq]

/-- The fault of a value that cannot be taken, at the place of its text. -/
def ValueFault.faultAt (position : Position) : ValueFault → Fault
  | .overflow literal ceiling => .overflow position literal ceiling
  | .invalid cause => .invalid cause

namespace Lexer

variable {lexer : Lexer} {position : Position}

/-- A run depends on its first step only. -/
theorem runFrom_congr {first second : Cursor} (h : lexer.step first = lexer.step second) :
    lexer.runFrom first = lexer.runFrom second := by
  rw [runFrom.eq_def lexer first, runFrom.eq_def lexer second, h]

/-- A step skips a longest run of blanks first. -/
theorem step_blanks {blanks rest : Text} (h : BlankRun blanks rest) :
    lexer.step ⟨position, blanks ++ rest⟩ = lexer.step ⟨position.advance blanks, rest⟩ := by
  have hskip : Cursor.skipBlanks ⟨position.advance blanks, rest⟩ =
      ⟨position.advance blanks, rest⟩ :=
    Cursor.skipBlanks_eq (show BlankRun [] rest from ⟨by simp, h.ends⟩)
  simp only [step, Cursor.skipBlanks_eq h, hskip]

/-- Blanks move the cursor and leave nothing in the outcome. -/
theorem runFrom_blanks {blanks rest : Text} (h : BlankRun blanks rest) :
    lexer.runFrom ⟨position, blanks ++ rest⟩ =
      lexer.runFrom ⟨position.advance blanks, rest⟩ :=
  runFrom_congr (step_blanks h)

/-- Blanks are skipped even where more of them follow. -/
theorem runFrom_skip {blanks : Text} (h : ∀ c ∈ blanks, isBlank c = true) (rest : Text) :
    lexer.runFrom ⟨position, blanks ++ rest⟩ = lexer.runFrom ⟨position.advance blanks, rest⟩ := by
  have hrest := BlankRun.of_takeWhile rest
  have htext : rest.takeWhile isBlank ++ rest.dropWhile isBlank = rest :=
    List.takeWhile_append_dropWhile
  have hall : BlankRun (blanks ++ rest.takeWhile isBlank) (rest.dropWhile isBlank) :=
    ⟨fun c hc => (List.mem_append.1 hc).elim (h c) (hrest.all_blank c), hrest.ends⟩
  calc lexer.runFrom ⟨position, blanks ++ rest⟩
      = lexer.runFrom ⟨position,
          (blanks ++ rest.takeWhile isBlank) ++ rest.dropWhile isBlank⟩ := by
        rw [List.append_assoc, htext]
    _ = lexer.runFrom ⟨(position.advance blanks).advance (rest.takeWhile isBlank),
          rest.dropWhile isBlank⟩ := by
        rw [runFrom_blanks hall, Position.advance_append]
    _ = lexer.runFrom ⟨position.advance blanks, rest⟩ := by
        rw [← runFrom_blanks hrest, htext]

/-! ## The four things a run can come to -/

theorem runFrom_nil : lexer.runFrom ⟨position, []⟩ = .ok [] := by
  have hstep : lexer.step ⟨position, []⟩ = .finished := rfl
  rw [runFrom]
  split <;> simp_all

/-- At a character that is no blank, the step is what the first matching rule makes of it. -/
theorem step_cons {c : Char} {rest : Text} (hc : isBlank c = false) :
    lexer.step ⟨position, c :: rest⟩ =
      match firstMatch? lexer.rules (c :: rest) with
      | none => .failed (.unmatched position
          (Cursor.snippet ⟨position, c :: rest⟩ lexer.snippetLength) [])
      | some (kind, raw) => lexer.take ⟨position, c :: rest⟩ kind raw := by
  have hskip : Cursor.skipBlanks ⟨position, c :: rest⟩ = ⟨position, c :: rest⟩ :=
    Cursor.skipBlanks_eq (.of_head rest hc)
  have hmore : Cursor.atEnd ⟨position, c :: rest⟩ = false := rfl
  cases hmatch : firstMatch? lexer.rules (c :: rest) <;>
    simp only [step, hskip, hmore, hmatch, Bool.false_eq_true, if_false]

theorem runFrom_failed {cursor : Cursor} {fault : Fault} (h : lexer.step cursor = .failed fault) :
    lexer.runFrom cursor = .error fault := by
  rw [runFrom]
  split <;> simp_all

theorem runFrom_unmatched {c : Char} {rest : Text} (hc : isBlank c = false)
    (hrules : ∀ rule ∈ lexer.rules, rule.match? (c :: rest) = none) :
    lexer.runFrom ⟨position, c :: rest⟩ =
      .error (.unmatched position (Cursor.snippet ⟨position, c :: rest⟩ lexer.snippetLength) []) := by
  apply runFrom_failed
  rw [step_cons hc, firstMatch?_eq_none_iff.2 hrules]

theorem runFrom_token {raw rest : Text} {kind : Kind} {value : Option Value}
    (hhead : ∀ c ∈ raw.head?, isBlank c = false)
    (hfirst : FirstRule lexer.rules (raw ++ rest) kind raw)
    (hvalue : kind.value? lexer.ceiling raw = .ok value) :
    lexer.runFrom ⟨position, raw ++ rest⟩ =
      (lexer.runFrom ⟨position.advance raw, rest⟩).after
        ⟨kind, value, raw, some ⟨position, position.advance raw⟩⟩ := by
  have hstep : lexer.step ⟨position, raw ++ rest⟩ =
      .token ⟨kind, value, raw, some ⟨position, position.advance raw⟩⟩
        ⟨position.advance raw, rest⟩ := by
    cases raw with
    | nil => exact absurd rfl hfirst.ne_nil
    | cons c raw =>
      rw [List.cons_append, step_cons (hhead c rfl), ← List.cons_append,
        firstMatch?_eq_some_iff.2 hfirst]
      simp [take, hvalue, Cursor.advance]
  rw [runFrom]
  split <;> simp_all

theorem runFrom_refused {c : Char} {rest raw : Text} {kind : Kind} {fault : ValueFault}
    (hc : isBlank c = false) (hfirst : FirstRule lexer.rules (c :: rest) kind raw)
    (hvalue : kind.value? lexer.ceiling raw = .error fault) :
    lexer.runFrom ⟨position, c :: rest⟩ = .error (fault.faultAt position) := by
  apply runFrom_failed
  rw [step_cons hc, firstMatch?_eq_some_iff.2 hfirst]
  cases fault <;> simp [take, hvalue, ValueFault.faultAt]

end Lexer

end LispLex
