-- SUMMARY: Runs over a source cut at a line feed.
import LispLex.Proofs.Rule.Table
import LispLex.Proofs.Run.Relocation
import LispLex.Proofs.Token.Scanner

/-!
# Runs line by line

Standard rules do not look beyond a line feed, so a run does not see what stands below the line it
is on. A source cut at a line feed is run over in two parts: the upper part has the run it has on its
own, and if it comes through, the lower part follows with its lines counted on.
-/

namespace LispLex

/-! ## Texts below -/

/-- The cursor, with a line feed and a text below what is left. -/
def Cursor.above (below : Text) (cursor : Cursor) : Cursor :=
  ⟨cursor.position, cursor.rest ++ '\n' :: below⟩

/-- The step of a cursor that has a text below. -/
def Step.above (below : Text) : Step → Step
  | .token found next => .token found (next.above below)
  | .finished => .finished
  | .failed fault => .failed fault

/-- A snippet ends with its line. -/
theorem Cursor.snippet_above {length : Int} (h : 0 ≤ length) (below : Text) (position : Position)
    (rest : Text) :
    Cursor.snippet ⟨position, rest ++ '\n' :: below⟩ length =
      Cursor.snippet ⟨position, rest⟩ length := by
  rw [snippet_eq h, snippet_eq h]
  generalize length.toNat = count
  rcases Nat.lt_or_ge rest.length count with hlt | hle
  · obtain ⟨more, rfl⟩ : ∃ more, count = rest.length + (more + 1) :=
      ⟨count - rest.length - 1, by omega⟩
    rw [List.take_length_add_append, List.take_of_length_le (Nat.le_add_right _ _),
      List.take_succ_cons, takeWhile_append_of_stop rfl]
  · rw [List.take_append_of_le_length hle]

/-- The outcome of a run over a source cut in two: what is wrong in the first part is the end of it,
and otherwise its tokens come before the outcome of the second part. -/
def Outcome.andThen : (first second : Outcome) → Outcome
  | .ok tokens, second => second.afterAll tokens
  | .error fault, _ => .error fault

theorem Outcome.after_andThen (token : Token) (first second : Outcome) :
    (first.after token).andThen second = (first.andThen second).after token := by
  cases first with
  | ok => rfl
  | error fault => cases fault <;> rfl

namespace Lexer

variable {lexer : Lexer} {kinds : List Kind} {cursor : Cursor}

theorem firstRule_above (hrules : lexer.rules = kinds.map .standard) (below : Text)
    {rest raw : Text} {kind : Kind} (h : FirstRule lexer.rules rest kind raw) :
    FirstRule lexer.rules (rest ++ '\n' :: below) kind raw := by
  rw [hrules] at h ⊢
  rwa [← firstMatch?_eq_some_iff, firstMatch?_append_feed, firstMatch?_eq_some_iff]

theorem noRule_above (hrules : lexer.rules = kinds.map .standard) (below : Text) {rest : Text}
    (h : ∀ rule ∈ lexer.rules, rule.match? rest = none) :
    ∀ rule ∈ lexer.rules, rule.match? (rest ++ '\n' :: below) = none := by
  rw [hrules] at h ⊢
  rwa [← firstMatch?_eq_none_iff, firstMatch?_append_feed, firstMatch?_eq_none_iff]

/-- A step that does not come to the end does not see the text below. -/
theorem StepsTo.above (hrules : lexer.rules = kinds.map .standard)
    (hsnippet : 0 ≤ lexer.snippetLength) (below : Text) {step : Step}
    (h : lexer.StepsTo cursor step) (hmore : step ≠ .finished) :
    lexer.StepsTo (cursor.above below) (step.above below) := by
  cases h with
  | finished => exact absurd rfl hmore
  | @token position blanks raw rest kind value skipped first value_eq =>
    have hskipped := skipped.append (by simp [first.ne_nil]) ('\n' :: below)
    have hfirst := firstRule_above hrules below first
    rw [List.append_assoc] at hskipped hfirst
    have hstep : lexer.StepsTo ⟨position, blanks ++ (raw ++ (rest ++ '\n' :: below))⟩ _ :=
      .token hskipped hfirst value_eq
    simpa [Cursor.above, Step.above] using hstep
  | @unmatched position blanks rest c skipped norule =>
    have hskipped := skipped.append (by simp) ('\n' :: below)
    have hstep : lexer.StepsTo ⟨position, blanks ++ c :: (rest ++ '\n' :: below)⟩ _ :=
      .unmatched hskipped (noRule_above hrules below norule)
    have hsnip := Cursor.snippet_above hsnippet below (position.advance blanks) (c :: rest)
    rw [List.cons_append] at hsnip
    rw [hsnip] at hstep
    simpa [Cursor.above, Step.above] using hstep
  | @refused position blanks rest raw c kind fault skipped first value_eq =>
    have hskipped := skipped.append (by simp) ('\n' :: below)
    have hstep : lexer.StepsTo ⟨position, blanks ++ c :: (rest ++ '\n' :: below)⟩ _ :=
      .refused hskipped (firstRule_above hrules below first) value_eq
    simpa [Cursor.above, Step.above] using hstep

/-- A run goes on to the text below exactly if it comes through. -/
theorem runFrom_above (hrules : lexer.rules = kinds.map .standard)
    (hsnippet : 0 ≤ lexer.snippetLength) (below : Text) (cursor : Cursor) :
    lexer.runFrom (cursor.above below) =
      (lexer.runFrom cursor).andThen
        (lexer.runFrom ⟨cursor.position.advance (cursor.rest ++ ['\n']), below⟩) := by
  induction cursor using runFrom.induct lexer with
  | case1 cursor hstep =>
    rw [runFrom_of_finished hstep]
    cases StepsTo.of_step_eq hstep with
    | @finished position blanks skipped =>
      have hblank : ∀ c ∈ blanks ++ ['\n'], isBlank c = true := by
        intro c hc
        rcases List.mem_append.1 hc with hc | hc
        · exact skipped.all_blank c hc
        · rw [List.mem_singleton] at hc
          rw [hc]
          rfl
      have hskip : lexer.runFrom ⟨position, (blanks ++ ['\n']) ++ below⟩ = _ :=
        runFrom_skip hblank below
      simpa [Cursor.above, Outcome.andThen] using hskip
  | case2 cursor token next hstep ih =>
    have habove := ((StepsTo.of_step_eq hstep).above hrules hsnippet below (by simp)).step_eq
    obtain ⟨text, -, hrest, hposition, -⟩ := step_passes hstep
    have hend : next.position.advance (next.rest ++ ['\n']) =
        cursor.position.advance (cursor.rest ++ ['\n']) := by
      rw [hposition, hrest, List.append_assoc, ← Position.advance_append]
    rw [runFrom_of_token hstep, runFrom_of_token habove, ih, hend, Outcome.after_andThen]
  | case3 cursor fault hstep =>
    have habove := ((StepsTo.of_step_eq hstep).above hrules hsnippet below (by simp)).step_eq
    rw [runFrom_failed hstep, runFrom_failed habove]
    rfl

/-- With standard rules, what is wrong in the upper lines of a source is wrong in the whole, in the
same way and at the same place. Upper lines that come through leave their tokens before the outcome
of the lower ones, whose lines and offsets are counted on and whose columns stay. -/
theorem run_append_feed (lexer : Lexer) {names : List Text}
    (hnames : rulesNamed names = .ok lexer.rules) (hsnippet : 0 ≤ lexer.snippetLength)
    (upper lower : Text) :
    (∀ fault, lexer.run upper = .error fault →
      lexer.run (upper ++ '\n' :: lower) = .error fault) ∧
    (∀ tokens, lexer.run upper = .ok tokens →
      lexer.run (upper ++ '\n' :: lower) =
        ((lexer.run lower).relocate (Position.below upper)).afterAll tokens) := by
  obtain ⟨-, hrules⟩ := rulesNamed_eq_ok_iff.1 hnames
  have hrun : lexer.run (upper ++ '\n' :: lower) =
      (lexer.run upper).andThen ((lexer.run lower).relocate (Position.below upper)) := by
    have hlower := runFrom_eq_relocate_run (Position.countsAlike_below upper) hsnippet lower
    rw [Position.below_start, ← Position.start_advance] at hlower
    rw [← hlower]
    exact runFrom_above hrules hsnippet lower (.ofText upper)
  refine ⟨fun fault hfault => ?_, fun tokens htokens => ?_⟩
  · rw [hrun, hfault]
    rfl
  · rw [hrun, htokens]
    rfl

def stringsAndNames : Lexer where
  rules := [.standard .string, .standard .identifier]

/-- Two quotes on different lines do not make a string, whether the first or the second is at
fault. -/
theorem run_append_feed_quotes :
    rulesNamed ["STRING_LITERAL".toList, "IDENTIFIER".toList] = .ok stringsAndNames.rules ∧
    0 ≤ stringsAndNames.snippetLength ∧
    stringsAndNames.run ("\"a".toList ++ '\n' :: "b\"".toList) =
      .error (.unmatched .start "\"a".toList []) ∧
    stringsAndNames.run ("ab".toList ++ '\n' :: "\"".toList) =
      .error (.unmatched ⟨2, 1, 3⟩ "\"".toList
        [⟨.identifier, some (.text "ab".toList), "ab".toList, some ⟨.start, ⟨1, 3, 2⟩⟩⟩]) := by
  have hnames : rulesNamed ["STRING_LITERAL".toList, "IDENTIFIER".toList] =
      .ok stringsAndNames.rules := rfl
  have hsnippet : 0 ≤ stringsAndNames.snippetLength := by decide
  have hlone : stringsAndNames.run "\"a".toList = .error (.unmatched .start "\"a".toList []) := by
    decide +kernel
  have hname : stringsAndNames.run "ab".toList =
      .ok [⟨.identifier, some (.text "ab".toList), "ab".toList, some ⟨.start, ⟨1, 3, 2⟩⟩⟩] := by
    decide +kernel
  have hquote : stringsAndNames.run "\"".toList = .error (.unmatched .start "\"".toList []) := by
    decide +kernel
  refine ⟨hnames, hsnippet, ?_, ?_⟩
  · exact (run_append_feed stringsAndNames hnames hsnippet _ _).1 _ hlone
  · have hrun := (run_append_feed stringsAndNames hnames hsnippet _ "\"".toList).2 _ hname
    rwa [hquote] at hrun

end Lexer

end LispLex
