-- SUMMARY: Sources with and without carriage returns before their line feeds.
import LispLex.Proofs.Rule.Table
import LispLex.Proofs.Run.Respelling

/-!
# Carriage returns before line feeds

With standard rules, a carriage return before a line feed is never seen: it is a blank outside of
strings, and no string has a line end in it. A source with them has the same run as without, at the
same lines and columns; only the offsets are larger.
-/

namespace LispLex

/-- The text with a carriage return before every line feed. -/
def withReturns (text : Text) : Text :=
  text.flatMap fun c => if c = '\n' then ['\r', '\n'] else [c]

@[simp] theorem withReturns_nil : withReturns [] = [] := rfl

@[simp] theorem withReturns_feed (text : Text) :
    withReturns ('\n' :: text) = '\r' :: '\n' :: withReturns text := rfl

theorem withReturns_cons {c : Char} (h : c ≠ '\n') (text : Text) :
    withReturns (c :: text) = c :: withReturns text := by
  simp [withReturns, h]

theorem withReturns_append (first second : Text) :
    withReturns (first ++ second) = withReturns first ++ withReturns second :=
  List.flatMap_append

theorem withReturns_of_not_mem {text : Text} (h : '\n' ∉ text) : withReturns text = text := by
  refine flatMap_eq_self fun c hc => if_neg ?_
  rintro rfl
  exact h hc

/-! ## What is scanned -/

/-- A line keeps its characters, and has a carriage return behind them if a line feed ends it. -/
theorem line_withReturns (text : Text) :
    (withReturns text).takeWhile (· != '\n') = text.takeWhile (· != '\n') ∨
      (withReturns text).takeWhile (· != '\n') = text.takeWhile (· != '\n') ++ ['\r'] := by
  induction text with
  | nil => exact .inl rfl
  | cons c text ih =>
    by_cases hc : c = '\n'
    · subst hc
      exact .inr rfl
    · simpa [withReturns_cons hc, hc] using ih

theorem Kind.scan?_withReturns (kind : Kind) (text : Text) :
    kind.scan? (withReturns text) = kind.scan? text :=
  kind.scan?_of_line_return (line_withReturns text)

/-! ## Positions -/

/-- Where the position goes when carriage returns are put before the line feeds of its source. -/
def Position.addReturns (source : Text) (position : Position) : Position :=
  ⟨position.line, position.column, position.offset + (source.take position.offset).count '\n'⟩

theorem Position.after_withReturns (text : Text) :
    Position.after (withReturns text) =
      ⟨(after text).line, (after text).column, text.length + text.count '\n'⟩ := by
  induction text using List.reverseRecOn with
  | nil => rfl
  | append_singleton text c ih =>
    rw [withReturns_append, after_append, ih, after_concat]
    by_cases hc : c = '\n'
    · subst hc
      simp [step]
      omega
    · simp [withReturns_cons hc, step, hc]
      omega

/-- What stands behind a part of a source comes to stand behind that part with its carriage returns. -/
theorem Position.addReturns_after (passed rest : Text) :
    (after passed).addReturns (passed ++ rest) = after (withReturns passed) := by
  rw [after_withReturns, addReturns, after_offset, List.take_left]

/-! ## Runs -/

/-- Carriage returns lie among the blanks, as no kind takes a line feed. -/
theorem respells_withReturns (source : Text) :
    Respells (fun c => if c = '\n' then ['\r', '\n'] else [c]) (Position.addReturns source)
      source where
  blank c hc d hd := by
    split at hd
    · simp only [List.mem_cons, List.not_mem_nil, or_false] at hd
      rcases hd with rfl | rfl <;> rfl
    · obtain rfl := List.mem_singleton.1 hd
      exact hc
  other c hc := if_neg (ne_of_not_blank rfl hc)
  scan _ rest _ kind := kind.scan?_withReturns rest
  raw _ _ _ _ _ hscan := withReturns_of_not_mem (Kind.feed_not_mem_of_scan? hscan)
  place passed rest hsource := by
    rw [hsource]
    exact Position.addReturns_after passed rest

namespace Lexer

/-- With a carriage return before every line feed, a source has the same tokens, or the same fault
behind the same tokens, at the same lines and columns. Every offset grows by the number of line feeds
before it. -/
theorem run_withReturns (lexer : Lexer) {names : List Text}
    (hnames : rulesNamed names = .ok lexer.rules) (source : Text) :
    (∀ returned, lexer.run (withReturns source) = .ok returned ↔
      ∃ tokens, lexer.run source = .ok tokens ∧
        returned = tokens.map (Token.relocate (Position.addReturns source))) ∧
    (∀ place committed,
      (∃ snippet, lexer.run (withReturns source) = .error (.unmatched place snippet committed)) ↔
        ∃ position snippet before,
          lexer.run source = .error (.unmatched position snippet before) ∧
          place = position.addReturns source ∧
          committed = before.map (Token.relocate (Position.addReturns source))) ∧
    (∀ place literal ceiling,
      lexer.run (withReturns source) = .error (.overflow place literal ceiling) ↔
        ∃ position, lexer.run source = .error (.overflow position literal ceiling) ∧
          place = position.addReturns source) ∧
    (∀ cause, lexer.run (withReturns source) = .error (.invalid cause) ↔
      lexer.run source = .error (.invalid cause)) := by
  obtain ⟨-, hrules⟩ := rulesNamed_eq_ok_iff.1 hnames
  have hadded : Respelled _ _ (lexer.run (withReturns source)) :=
    respelled_run hrules (respells_withReturns source)
  generalize lexer.run source = plain, lexer.run (withReturns source) = returned at hadded
  cases hadded with
  | finished tokens => simp [eq_comm]
  | unmatched position snippet shown committed => simp [eq_comm]
  | overflow position literal ceiling => simp [eq_comm, and_comm]
  | invalid cause => simp

/-- A string at the end of a line, a name at the end of another one, and then unmatched input. -/
theorem run_withReturns_lines :
    ∃ snippet, ({} : Lexer).run "\"a\"\r\nb\r\n@".toList =
      .error (.unmatched ⟨3, 1, 8⟩ snippet
        [⟨.string, some (.text ['a']), "\"a\"".toList, some ⟨.start, ⟨1, 4, 3⟩⟩⟩,
          ⟨.identifier, some (.text ['b']), ['b'], some ⟨⟨2, 1, 5⟩, ⟨2, 2, 6⟩⟩⟩]) := by
  have hrun : ({} : Lexer).run "\"a\"\nb\n@".toList = .error (.unmatched ⟨3, 1, 6⟩ ['@']
      [⟨.string, some (.text ['a']), "\"a\"".toList, some ⟨.start, ⟨1, 4, 3⟩⟩⟩,
        ⟨.identifier, some (.text ['b']), ['b'], some ⟨⟨2, 1, 4⟩, ⟨2, 2, 5⟩⟩⟩]) := by
    decide +kernel
  obtain ⟨-, hunmatched, -⟩ := run_withReturns {} rulesNamed_all "\"a\"\nb\n@".toList
  exact (hunmatched _ _).2 ⟨_, _, _, hrun, rfl, rfl⟩

end Lexer

end LispLex
