-- SUMMARY: Progress, number and end of the rounds of a run.
import LispLex.Proofs.Run.Extension

/-!
# The rounds of a run

A run goes round after round: each round takes one token, or it is the last one. Where the rounds
start is said here without any bound on their number. Every round that goes on moves the cursor
forward, and none starts beyond the end of the source; so there is a last one. This does not depend
on the patterns, as a rule that finds the empty text is passed over.
-/

namespace LispLex

/-! ## Empty matches -/

/-- What the rule finds at the start of the remaining source, be it empty. -/
def Rule.found? (rule : Rule) (rest : Text) : Option Text :=
  (rule.pattern.expr.run (.ofText rest) some).map (·.passed.reverse)

/-- What a rule takes is what it finds, unless this is empty. -/
theorem Rule.match?_eq_filter (rule : Rule) (rest : Text) :
    rule.match? rest = (rule.found? rest).filter (· ≠ []) := by
  rw [match?, Pattern.match?, found?]
  cases rule.pattern.expr.run (.ofText rest) some with
  | none => rfl
  | some found => cases hpassed : found.passed <;> simp [hpassed, Option.filter]

theorem Rule.match?_eq_some_iff {rule : Rule} {rest raw : Text} :
    rule.match? rest = some raw ↔ rule.found? rest = some raw ∧ raw ≠ [] := by
  simp [match?_eq_filter, Option.filter_eq_some_iff]

theorem Rule.match?_eq_none_iff {rule : Rule} {rest : Text} :
    rule.match? rest = none ↔ rule.found? rest = none ∨ rule.found? rest = some [] := by
  rw [match?_eq_filter]
  cases rule.found? rest <;> simp

theorem firstMatch?_without {earlier later : List Rule} {rule : Rule} {rest : Text}
    (h : rule.match? rest = none) :
    firstMatch? (earlier ++ rule :: later) rest = firstMatch? (earlier ++ later) rest := by
  simp [firstMatch?, List.findSome?_append, h]

/-- The cursor of the next round, if there is one. -/
def Step.next? : Step → Option Cursor
  | .token _ next => some next
  | .finished | .failed _ => none

theorem Step.next?_eq_some_iff {step : Step} {next : Cursor} :
    step.next? = some next ↔ ∃ token, step = .token token next := by
  cases step <;> simp [next?]

namespace Lexer

variable {lexer : Lexer} {cursor : Cursor}

/-- A rule that finds nothing, or the empty text, might as well not be there. -/
theorem step_without {earlier later : List Rule} {rule : Rule}
    (h : rule.match? cursor.skipBlanks.rest = none) :
    (lexer.withRules (earlier ++ rule :: later)).step cursor =
      (lexer.withRules (earlier ++ later)).step cursor := by
  simp only [step, withRules, firstMatch?_without h]
  rfl

/-- A token is what the first rule finds that finds something, and it is not empty. -/
theorem exists_rule_of_step {token : Token} {next : Cursor}
    (h : lexer.step cursor = .token token next) :
    token.raw ≠ [] ∧ ∃ earlier rule later, lexer.rules = earlier ++ rule :: later ∧
      (∀ other ∈ earlier, other.found? cursor.skipBlanks.rest = none ∨
        other.found? cursor.skipBlanks.rest = some []) ∧
      rule.kind = token.kind ∧ rule.found? cursor.skipBlanks.rest = some token.raw := by
  cases StepsTo.of_step_eq h with
  | token skipped first value_eq =>
    rw [Cursor.skipBlanks_eq skipped]
    obtain ⟨earlier, rule, later, hrules, hearlier, hkind, hmatch⟩ := first
    obtain ⟨hfound, hne⟩ := Rule.match?_eq_some_iff.1 hmatch
    exact ⟨hne, earlier, rule, later, hrules,
      fun other hother => Rule.match?_eq_none_iff.1 (hearlier other hother), hkind, hfound⟩

/-! ## Rounds -/

/-- Where the round starts that many rounds after the one at the cursor; nowhere if the run has ended
before. -/
def roundStart? (lexer : Lexer) (cursor : Cursor) : Nat → Option Cursor
  | 0 => some cursor
  | round + 1 => (lexer.step cursor).next?.bind fun next => lexer.roundStart? next round

theorem roundStart?_succ_of_token {token : Token} {next : Cursor}
    (h : lexer.step cursor = .token token next) (round : Nat) :
    lexer.roundStart? cursor (round + 1) = lexer.roundStart? next round := by
  simp [roundStart?, h, Step.next?]

theorem roundStart?_succ_of_last (h : (lexer.step cursor).next? = none) (round : Nat) :
    lexer.roundStart? cursor (round + 1) = none := by
  simp [roundStart?, h]

/-- A round starts where the round before it leaves the cursor. -/
theorem roundStart?_succ (lexer : Lexer) (cursor : Cursor) (round : Nat) :
    lexer.roundStart? cursor (round + 1) =
      (lexer.roundStart? cursor round).bind fun start => (lexer.step start).next? := by
  induction round generalizing cursor with
  | zero => cases h : (lexer.step cursor).next? <;> simp [roundStart?, h]
  | succ round ih =>
    cases hstep : lexer.step cursor with
    | token token next =>
      rw [roundStart?_succ_of_token hstep, roundStart?_succ_of_token hstep, ih]
    | finished | failed fault =>
      have hlast : (lexer.step cursor).next? = none := by rw [hstep]; rfl
      rw [roundStart?_succ_of_last hlast, roundStart?_succ_of_last hlast, Option.bind_none]

/-- The rounds up to here have passed a text, each at least one character of it. -/
theorem exists_passed_of_roundStart? {start : Cursor} {round : Nat}
    (h : lexer.roundStart? cursor round = some start) :
    ∃ text, cursor.rest = text ++ start.rest ∧ start.position = cursor.position.advance text ∧
      round ≤ text.length := by
  induction round generalizing start with
  | zero =>
    cases h
    exact ⟨[], rfl, rfl, Nat.zero_le _⟩
  | succ round ih =>
    rw [roundStart?_succ, Option.bind_eq_some_iff] at h
    obtain ⟨before, hbefore, hnext⟩ := h
    obtain ⟨token, hstep⟩ := Step.next?_eq_some_iff.1 hnext
    obtain ⟨earlier, hrest, hposition, hround⟩ := ih hbefore
    obtain ⟨text, hne, htext, hmoved, -⟩ := step_passes hstep
    have hpos := List.length_pos_iff.2 hne
    refine ⟨earlier ++ text, ?_, ?_, ?_⟩
    · rw [hrest, htext, List.append_assoc]
    · rw [hmoved, hposition, Position.advance_append]
    · rw [List.length_append]
      omega

/-- Every round starts in the source, and at an offset of at least its number. -/
theorem roundStart?_in_source {source : Text} {round : Nat}
    (h : lexer.roundStart? (.ofText source) round = some cursor) :
    round ≤ cursor.position.offset ∧ cursor.position.offset ≤ source.length ∧
      cursor.rest = source.drop cursor.position.offset := by
  obtain ⟨text, hsource, hposition, hround⟩ := exists_passed_of_roundStart? h
  have htext : source = text ++ cursor.rest := hsource
  have hoffset : cursor.position.offset = text.length := by
    rw [hposition, Position.advance_offset]
    exact Nat.zero_add _
  rw [hoffset, htext, List.drop_left, List.length_append]
  exact ⟨hround, Nat.le_add_right _ _, rfl⟩

/-- The rounds end, after as many as there are tokens, and the last one decides the outcome. -/
theorem exists_lastRound (lexer : Lexer) (cursor : Cursor) :
    ∃ start, lexer.roundStart? cursor (lexer.takenFrom cursor).length = some start ∧
      (lexer.step start = .finished ∧ lexer.runFrom cursor = .ok (lexer.takenFrom cursor) ∨
        ∃ fault, lexer.step start = .failed fault ∧
          lexer.runFrom cursor = Outcome.afterAll (lexer.takenFrom cursor) (.error fault)) := by
  induction cursor using runFrom.induct lexer with
  | case1 cursor hstep =>
    rw [takenFrom_of_finished hstep]
    exact ⟨cursor, rfl, .inl ⟨hstep, runFrom_of_finished hstep⟩⟩
  | case2 cursor token next hstep ih =>
    rw [takenFrom_of_token hstep, List.length_cons, roundStart?_succ_of_token hstep,
      runFrom_of_token hstep]
    obtain ⟨start, hstart, ⟨hend, hrun⟩ | ⟨fault, hend, hrun⟩⟩ := ih
    · exact ⟨start, hstart, .inl ⟨hend, by rw [hrun]; rfl⟩⟩
    · exact ⟨start, hstart, .inr ⟨fault, hend, by rw [hrun]; rfl⟩⟩
  | case3 cursor fault hstep =>
    rw [takenFrom_of_failed hstep]
    exact ⟨cursor, rfl, .inr ⟨fault, hstep, runFrom_failed hstep⟩⟩

/-- No round comes after the last one, and none before it is left out. -/
theorem isSome_roundStart?_iff {start : Cursor} {last : Nat}
    (h : lexer.roundStart? cursor last = some start) (hlast : (lexer.step start).next? = none)
    (round : Nat) : (lexer.roundStart? cursor round).isSome ↔ round ≤ last := by
  induction last generalizing cursor round with
  | zero =>
    cases h
    cases round with
    | zero => simp [roundStart?]
    | succ round => simp [roundStart?_succ_of_last hlast]
  | succ last ih =>
    obtain ⟨next, hnext, hstart⟩ := Option.bind_eq_some_iff.1 h
    cases round with
    | zero => simp [roundStart?]
    | succ round => simp [roundStart?, hnext, ih hstart]

/-- The rounds of a run go forward in the source and end. The cursor stands in the source at the
start of each, and a round that takes a token moves it on. The number of the last round is the number
of tokens taken, and it is at most the length of the source. A rule that finds the empty text changes
nothing, and no token is empty. -/
theorem run_rounds (lexer : Lexer) (source : Text) :
    (∀ round cursor, lexer.roundStart? (.ofText source) round = some cursor →
      cursor.position.offset ≤ source.length ∧
      cursor.rest = source.drop cursor.position.offset ∧
      ∀ token next, lexer.step cursor = .token token next →
        lexer.roundStart? (.ofText source) (round + 1) = some next ∧
        cursor.position.offset < next.position.offset ∧
        next.position.offset ≤ source.length) ∧
    (∃ last cursor, last ≤ source.length ∧
      (∀ round, (lexer.roundStart? (.ofText source) round).isSome ↔ round ≤ last) ∧
      lexer.roundStart? (.ofText source) last = some cursor ∧
      (lexer.taken source).length = last ∧
      (lexer.step cursor = .finished ∧ lexer.run source = .ok (lexer.taken source) ∨
        ∃ fault, lexer.step cursor = .failed fault ∧
          lexer.run source = Outcome.afterAll (lexer.taken source) (.error fault))) ∧
    (∀ cursor earlier rule later, rule.found? cursor.skipBlanks.rest = some [] →
      (lexer.withRules (earlier ++ rule :: later)).step cursor =
        (lexer.withRules (earlier ++ later)).step cursor) ∧
    (∀ cursor token next, lexer.step cursor = .token token next →
      token.raw ≠ [] ∧ ∃ earlier rule later, lexer.rules = earlier ++ rule :: later ∧
        (∀ other ∈ earlier, other.found? cursor.skipBlanks.rest = none ∨
          other.found? cursor.skipBlanks.rest = some []) ∧
        rule.kind = token.kind ∧ rule.found? cursor.skipBlanks.rest = some token.raw) := by
  refine ⟨?_, ?_, fun cursor earlier rule later hempty => ?_, fun _ _ _ => exists_rule_of_step⟩
  · intro round cursor h
    obtain ⟨-, hle, hrest⟩ := roundStart?_in_source h
    refine ⟨hle, hrest, ?_⟩
    intro token next hstep
    have hnext : lexer.roundStart? (.ofText source) (round + 1) = some next := by
      rw [roundStart?_succ, h, Option.bind_some, hstep]
      rfl
    exact ⟨hnext, offset_lt_of_step hstep, (roundStart?_in_source hnext).2.1⟩
  · obtain ⟨cursor, hcursor, hends⟩ := lexer.exists_lastRound (.ofText source)
    obtain ⟨hround, hle, -⟩ := roundStart?_in_source hcursor
    have hlast : (lexer.step cursor).next? = none := by
      obtain ⟨hend, -⟩ | ⟨fault, hend, -⟩ := hends <;> rw [hend] <;> rfl
    exact ⟨_, cursor, hround.trans hle, isSome_roundStart?_iff hcursor hlast, hcursor, rfl, hends⟩
  · exact step_without (Rule.match?_eq_none_iff.2 (.inr hempty))

/-- A rule that finds the empty text everywhere takes nothing, and the run ends where it starts. -/
example :
    (({} : Lexer).withRules [⟨.comma, "x*".toList, .rep (Kind.charExpr 'x') 0 none true⟩]).roundStart?
      (.ofText ['a']) 1 = none := by
  decide +kernel

end Lexer

end LispLex
