-- SUMMARY: Runs before and after line ends are taken as line feeds.
import LispLex.Proofs.Run.Respelling

/-!
# Line ends taken as line feeds

A source in which every carriage return belongs to a line end may be lexed as it stands, or with its
line ends taken as line feeds first. Both runs come to the same: the same tokens, or faults of the same
sort at the same line and column.
-/

namespace LispLex

/-- Every carriage return stands directly before a line feed. -/
def PairedReturns : Text → Prop
  | [] => True
  | c :: rest => (c = '\r' → rest.head? = some '\n') ∧ PairedReturns rest

instance decidablePairedReturns : DecidablePred PairedReturns
  | [] => isTrue trivial
  | c :: rest =>
    have := decidablePairedReturns rest
    inferInstanceAs (Decidable ((c = '\r' → rest.head? = some '\n') ∧ PairedReturns rest))

/-- The text without its carriage returns. -/
def withoutReturns (text : Text) : Text :=
  text.flatMap fun c => if c = '\r' then [] else [c]

@[simp] theorem withoutReturns_nil : withoutReturns [] = [] := rfl

@[simp] theorem withoutReturns_return (text : Text) :
    withoutReturns ('\r' :: text) = withoutReturns text := rfl

theorem withoutReturns_cons {c : Char} (h : c ≠ '\r') (text : Text) :
    withoutReturns (c :: text) = c :: withoutReturns text := by
  simp [withoutReturns, h]

theorem withoutReturns_append (first second : Text) :
    withoutReturns (first ++ second) = withoutReturns first ++ withoutReturns second :=
  List.flatMap_append

theorem return_not_mem_withoutReturns (text : Text) : '\r' ∉ withoutReturns text := by
  intro hmem
  obtain ⟨c, -, hc⟩ := List.mem_flatMap.1 hmem
  split at hc
  · cases hc
  · next hne => exact hne (List.mem_singleton.1 hc).symm

theorem withoutReturns_of_not_mem {text : Text} (h : '\r' ∉ text) : withoutReturns text = text := by
  refine flatMap_eq_self fun c hc => if_neg ?_
  rintro rfl
  exact h hc

namespace PairedReturns

variable {text first second : Text}

theorem left (h : PairedReturns (first ++ second)) (hhead : second.head? ≠ some '\n') :
    PairedReturns first := by
  induction first with
  | nil => trivial
  | cons c first ih =>
    refine ⟨fun hc => ?_, ih h.2⟩
    have hnext := h.1 hc
    cases first with
    | nil => exact absurd hnext hhead
    | cons d first => exact hnext

theorem right (h : PairedReturns (first ++ second)) : PairedReturns second := by
  induction first with
  | nil => exact h
  | cons c first ih => exact ih h.2

theorem of_not_mem (h : '\r' ∉ text) : PairedReturns text := by
  induction text with
  | nil => trivial
  | cons c text ih =>
    obtain ⟨hc, htext⟩ := not_or.1 (mt List.mem_cons.2 h)
    exact ⟨fun heq => absurd heq.symm hc, ih htext⟩

theorem append (hfirst : PairedReturns first) (hsecond : PairedReturns second) :
    PairedReturns (first ++ second) := by
  induction first with
  | nil => exact hsecond
  | cons c first ih =>
    refine ⟨fun hc => ?_, ih hfirst.2⟩
    have hnext := hfirst.1 hc
    cases first with
    | nil => cases hnext
    | cons d first => exact hnext

/-- Taking the line ends as line feeds leaves out the carriage returns. -/
theorem unifyNewlines_eq (h : PairedReturns text) : unifyNewlines text = withoutReturns text := by
  fun_induction unifyNewlines text with
  | case1 => rfl
  | case2 rest ih => rw [ih h.2.2, withoutReturns_return, withoutReturns_cons (by decide)]
  | case3 rest hrest =>
    obtain ⟨rest', rfl⟩ := List.head?_eq_some_iff.1 (h.1 rfl)
    exact absurd rfl (hrest rest')
  | case4 c rest _ hc ih => rw [ih h.2, withoutReturns_cons hc]

/-! ## What is scanned -/

/-- Of a line only the carriage return before its line feed is left out. -/
theorem line_withoutReturns (h : PairedReturns text) :
    text.takeWhile (· != '\n') = (withoutReturns text).takeWhile (· != '\n') ∨
      text.takeWhile (· != '\n') = (withoutReturns text).takeWhile (· != '\n') ++ ['\r'] := by
  induction text with
  | nil => exact .inl rfl
  | cons c text ih =>
    by_cases hc : c = '\r'
    · subst hc
      obtain ⟨rest, rfl⟩ := List.head?_eq_some_iff.1 (h.1 rfl)
      exact .inr rfl
    · rw [withoutReturns_cons hc]
      by_cases hfeed : c = '\n'
      · subst hfeed
        exact .inl rfl
      · simpa [hfeed] using ih h.2

theorem scan?_withoutReturns (h : PairedReturns text) (kind : Kind) :
    kind.scan? (withoutReturns text) = kind.scan? text :=
  (kind.scan?_of_line_return h.line_withoutReturns).symm

end PairedReturns

/-! ## Positions -/

theorem Position.line_after_withoutReturns (text : Text) :
    (after (withoutReturns text)).line = (after text).line := by
  induction text using List.reverseRecOn with
  | nil => rfl
  | append_singleton text c ih =>
    rw [withoutReturns_append, after_concat]
    by_cases hc : c = '\r'
    · subst hc
      simpa [step] using ih
    · rw [withoutReturns_cons hc, withoutReturns_nil, after_concat]
      unfold step
      split <;> simp [ih]

/-- A line end is not counted in columns, so a source has the same ones without carriage returns. -/
theorem PairedReturns.column_after {text : Text} (h : PairedReturns text) :
    (Position.after (withoutReturns text)).column = (Position.after text).column := by
  induction text using List.reverseRecOn with
  | nil => rfl
  | append_singleton text c ih =>
    have hc : c ≠ '\r' := fun hc => by cases h.right.1 hc
    rw [withoutReturns_append, withoutReturns_cons hc, withoutReturns_nil, Position.after_concat,
      Position.after_concat]
    by_cases hfeed : c = '\n'
    · simp [Position.step, hfeed]
    · have htext := h.left (by simpa using hfeed)
      simp [Position.step, hfeed, ih htext]

/-- Where the position goes when the carriage returns of its source are left out. -/
def Position.dropReturns (source : Text) (position : Position) : Position :=
  .after (withoutReturns (source.take position.offset))

/-! ## Runs -/

theorem PairedReturns.respells {source : Text} (h : PairedReturns source) :
    Respells (fun c => if c = '\r' then [] else [c]) (Position.dropReturns source) source where
  blank c hc d hd := by
    split at hd
    · cases hd
    · obtain rfl := List.mem_singleton.1 hd
      exact hc
  other c hc := if_neg (ne_of_not_blank rfl hc)
  scan passed rest hsource kind := by
    rw [hsource] at h
    exact h.right.scan?_withoutReturns kind
  raw passed rest hsource kind raw hscan := by
    -- the kind takes the same text where no carriage return is left
    rw [hsource] at h
    rw [← h.right.scan?_withoutReturns kind] at hscan
    have hbegins := Kind.scan?_isPrefix hscan
    exact withoutReturns_of_not_mem fun hmem =>
      return_not_mem_withoutReturns rest (hbegins.subset hmem)
  place passed rest hsource := by
    rw [Position.dropReturns, hsource, Position.after_offset, List.take_left]
    rfl

/-- The faults are of one sort, at the same line and column. -/
inductive Fault.Alike : Fault → Fault → Prop
  | unmatched {position other : Position} {snippet shown : Text} {committed before : List Token}
      (line : other.line = position.line) (column : other.column = position.column) :
      Alike (.unmatched position snippet committed) (.unmatched other shown before)
  | overflow {position other : Position} {literal : Text} {ceiling : Option Int}
      (line : other.line = position.line) (column : other.column = position.column) :
      Alike (.overflow position literal ceiling) (.overflow other literal ceiling)
  | invalid (cause : InvalidValue) : Alike (.invalid cause) (.invalid cause)

namespace Lexer

variable {lexer : Lexer} {kinds : List Kind} {source : Text}

theorem Reaches.dropReturns_alike {passed rest : Text} {c : Char} {tokens : List Token}
    (h : lexer.Reaches source passed c rest tokens) (paired : PairedReturns source) :
    ((Position.after passed).dropReturns source).line = (Position.after passed).line ∧
      ((Position.after passed).dropReturns source).column = (Position.after passed).column := by
  have hplace := paired.respells.place _ _ h.source_eq
  rw [h.source_eq] at paired
  have hpassed := paired.left (by simpa using ne_of_not_blank rfl h.notBlank)
  rw [hplace]
  exact ⟨Position.line_after_withoutReturns passed, hpassed.column_after⟩

/-- Whether the line ends of a source are taken as line feeds does not matter to its run. -/
theorem run_unifyNewlines (hrules : lexer.rules = kinds.map .standard)
    (paired : PairedReturns source) :
    (∀ tokens, lexer.run source = .ok tokens →
      lexer.run (unifyNewlines source) =
        .ok (tokens.map (Token.relocate (Position.dropReturns source)))) ∧
    (∀ fault, lexer.run source = .error fault →
      ∃ other, lexer.run (unifyNewlines source) = .error other ∧ fault.Alike other) := by
  have hrespelled : Respelled _ (lexer.run source) (lexer.run (withoutReturns source)) :=
    respelled_run hrules paired.respells
  have hends := lexer.run_ends source
  rw [paired.unifyNewlines_eq]
  generalize lexer.run source = plain, lexer.run (withoutReturns source) = unified at hrespelled hends
  refine ⟨?_, ?_⟩
  · rintro tokens rfl
    cases hrespelled
    rfl
  · rintro fault rfl
    obtain ⟨passed, c, rest, tokens, hreaches, hfault⟩ := hends.fault_cases
    obtain ⟨hline, hcolumn⟩ := hreaches.dropReturns_alike paired
    rcases hfault with ⟨-, rfl⟩ | ⟨kind, raw, valueFault, -, -, rfl⟩
    · cases hrespelled
      exact ⟨_, rfl, .unmatched hline hcolumn⟩
    · cases valueFault with
      | overflow =>
        cases hrespelled
        exact ⟨_, rfl, .overflow hline hcolumn⟩
      | invalid cause =>
        cases hrespelled
        exact ⟨_, rfl, .invalid cause⟩

end Lexer

end LispLex
