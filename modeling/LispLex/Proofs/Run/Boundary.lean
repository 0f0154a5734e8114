-- SUMMARY: Sources cut off at a boundary, and blanks inserted there.
import LispLex.Proofs.Rule.Table
import LispLex.Proofs.Run.Resumption
import LispLex.Proofs.Token.Stop

/-!
# Runs around a boundary

With standard rules, what a run takes before a boundary, a place that is not inside a token, does not
depend on what follows. So a source can be ended there, and then has exactly the tokens before that
place; and blanks can be put there, and then the tokens behind it move on and nothing else happens.
-/

namespace LispLex

/-- The offset is not strictly inside the token. -/
def Token.Avoids (offset : Nat) (token : Token) : Prop :=
  ∀ span, token.span = some span → offset ≤ span.start.offset ∨ span.stop.offset ≤ offset

theorem Token.Avoids.of_endsBy {token : Token} {offset : Nat} (h : token.endsBy offset = true) :
    token.Avoids offset := by
  intro span hspan
  right
  simpa [Token.endsBy, Token.endOffset?, hspan] using h

/-- What becomes of a token when `count` characters are put in at the offset: it stays where it is if
it ends there or before, and moves on otherwise. -/
structure Token.MovesTo (offset count : Nat) (token moved : Token) : Prop where
  alike : moved.alike token = true
  kept : token.endsBy offset = true → moved = token
  raised : token.endsBy offset = false → ∃ span movedSpan, token.span = some span ∧
    moved.span = some movedSpan ∧ movedSpan.start.offset = span.start.offset + count ∧
    movedSpan.stop.offset = span.stop.offset + count

theorem Token.MovesTo.of_endsBy {token : Token} {offset : Nat} (h : token.endsBy offset = true)
    (count : Nat) : token.MovesTo offset count token where
  alike := by simp [Token.alike]
  kept _ := rfl
  raised hbehind := by
    rw [h] at hbehind
    cases hbehind

namespace Lexer

variable {lexer : Lexer} {kinds : List Kind} {source passed rest other first second : Text}
  {tokens : List Token}

/-! ## What follows a part that is cut off -/

theorem Cut.head_exchange {raw : Text} (h : lexer.Cut passed (raw ++ rest) tokens) (hne : raw ≠ [])
    (other : Text) : ∀ c ∈ (raw ++ other).head?, isBlank c = false := by
  intro c hc
  rw [List.head?_append_of_ne_nil raw hne] at hc
  exact h.head_not_blank c (by rwa [List.head?_append_of_ne_nil raw hne])

/-- What follows the tokens cut off can be exchanged, as long as the last of them still stops there
and no blank goes on. -/
theorem Cut.exchange (hrules : lexer.rules = kinds.map .standard) (h : lexer.Cut passed rest tokens)
    (hstops : StopsLike rest other) (hhead : ∀ c ∈ other.head?, isBlank c = false) :
    lexer.Cut passed other tokens := by
  induction h generalizing other with
  | blanks ends => exact .blanks ⟨ends.all_blank, hhead⟩
  | @token passed raw blanks rest tokens kind value before first nonempty value_eq ends ih =>
    have hblanks := hstops.append_left blanks
    have hbefore := ih (hblanks.append_left raw) (before.head_exchange nonempty _)
    rw [hrules] at first
    refine .token hbefore ?_ nonempty value_eq ⟨ends.all_blank, hhead⟩
    rw [hrules]
    exact first.exchange hblanks

/-- The blanks behind the last token can be exchanged together with what follows them. -/
theorem Cut.token_exchange (hrules : lexer.rules = kinds.map .standard) {raw blanks : Text}
    {kind : Kind} {value : Option Value} (before : lexer.Cut passed (raw ++ rest) tokens)
    (first : FirstRule lexer.rules (raw ++ rest) kind raw)
    (value_eq : kind.value? lexer.ceiling raw = .ok value) (ends : BlankRun blanks other)
    (hstops : StopsLike rest (blanks ++ other)) :
    lexer.Cut (passed ++ raw ++ blanks) other
      (tokens ++ [⟨kind, value, raw, some ⟨.after passed, .after (passed ++ raw)⟩⟩]) := by
  have hne := first.ne_nil
  have hbefore := before.exchange hrules (hstops.append_left raw) (before.head_exchange hne _)
  rw [hrules] at first
  refine .token hbefore ?_ hne value_eq ends
  rw [hrules]
  exact first.exchange hstops

/-! ## Boundaries and tokens -/

section Boundary

variable {raw blanks : Text} {kind : Kind} {value : Option Value} {offset : Nat}

/-- A token cut from a part of the source lies in that part. -/
theorem Cut.exists_span (h : lexer.Cut passed rest tokens) {token : Token} (hmem : token ∈ tokens) :
    ∃ span, token.span = some span ∧ span.start.offset ≤ span.stop.offset ∧
      span.stop.offset ≤ passed.length := by
  obtain ⟨before, after, hpassed, hspan⟩ := h.token_place token hmem
  have hlength := congrArg List.length hpassed
  simp only [List.length_append] at hlength
  refine ⟨_, hspan, by simp, ?_⟩
  simp only [Position.after_offset, List.length_append]
  omega

theorem Cut.endsBy (h : lexer.Cut passed rest tokens) (hoffset : passed.length ≤ offset) :
    ∀ token ∈ tokens, token.endsBy offset = true := by
  intro token hmem
  obtain ⟨span, hspan, -, hstop⟩ := h.exists_span hmem
  simpa [Token.endsBy, Token.endOffset?, hspan] using hstop.trans hoffset

/-- The tokens cut from a part of the source, and one more behind it, end where that one ends or
before. -/
theorem Cut.concat_endsBy (h : lexer.Cut passed rest tokens)
    (hoffset : (passed ++ raw).length ≤ offset) :
    ∀ token ∈ tokens ++ [⟨kind, value, raw, some ⟨.after passed, .after (passed ++ raw)⟩⟩],
      token.endsBy offset = true := by
  rw [List.length_append] at hoffset
  refine List.forall_mem_append.2 ⟨h.endsBy (by omega), List.forall_mem_singleton.2 ?_⟩
  simpa [Token.endsBy, Token.endOffset?] using hoffset

/-- A token ends behind every place up to its start. -/
theorem endsBy_eq_false (hne : raw ≠ []) (hoffset : offset ≤ passed.length) :
    Token.endsBy offset ⟨kind, value, raw, some ⟨.after passed, .after (passed ++ raw)⟩⟩ = false := by
  have hpos := List.length_pos_iff.2 hne
  simp [Token.endsBy, Token.endOffset?]
  omega

/-- A boundary in a source with one more token and blanks behind it is either before that token or
among the blanks. -/
theorem boundary_cases (hsplit : passed ++ raw ++ blanks = first ++ second)
    (havoids : Token.Avoids first.length
      ⟨kind, value, raw, some ⟨.after passed, .after (passed ++ raw)⟩⟩) :
    (∃ further, passed = first ++ further ∧ second = further ++ raw ++ blanks) ∨
      ∃ skipped, first = passed ++ raw ++ skipped ∧ blanks = skipped ++ second := by
  rcases havoids _ rfl with hbefore | hbehind
  · left
    rw [List.append_assoc] at hsplit
    obtain ⟨further, hpassed⟩ :=
      List.prefix_of_prefix_length_le ⟨second, hsplit.symm⟩ ⟨raw ++ blanks, rfl⟩ hbefore
    refine ⟨further, hpassed.symm, ?_⟩
    rw [← hpassed, List.append_assoc, List.append_cancel_left_eq] at hsplit
    rw [← hsplit, List.append_assoc]
  · right
    obtain ⟨skipped, hfirst⟩ :=
      List.prefix_of_prefix_length_le ⟨blanks, rfl⟩ ⟨second, hsplit.symm⟩ hbehind
    refine ⟨skipped, hfirst.symm, ?_⟩
    rwa [← hfirst, List.append_assoc (passed ++ raw), List.append_cancel_left_eq] at hsplit

end Boundary

/-! ## Ending a source at a boundary -/

/-- A part that is cut off can be ended at a boundary, and is cut into the tokens before it. -/
theorem Cut.truncate (hrules : lexer.rules = kinds.map .standard)
    (h : lexer.Cut passed rest tokens) (hpassed : passed = first ++ second)
    (havoids : ∀ token ∈ tokens, token.Avoids first.length) :
    lexer.Cut first [] (tokens.filter (Token.endsBy first.length)) := by
  induction h generalizing second with
  | blanks ends =>
    subst hpassed
    exact .blanks ends.left
  | @token passed raw blanks rest tokens kind value before taken nonempty value_eq ends ih =>
    obtain ⟨hearlier, hlast⟩ := List.forall_mem_append.1 havoids
    rcases boundary_cases hpassed (List.forall_mem_singleton.1 hlast) with
      ⟨further, rfl, -⟩ | ⟨skipped, rfl, rfl⟩
    · rw [List.filter_append, List.filter_singleton, endsBy_eq_false nonempty (by simp)]
      simpa using ih rfl hearlier
    · have hstops : StopsLike (skipped ++ second ++ rest) (skipped ++ []) := by
        rw [List.append_assoc]
        exact (StopsLike.nil _).append_left skipped
      rw [List.filter_eq_self.2 (before.concat_endsBy (by simp))]
      exact before.token_exchange hrules taken value_eq ends.left hstops

/-! ## Putting blanks in at a boundary -/

/-- A token behind the place moves on by as many characters as are put in. -/
theorem movesTo_behind {raw further inserted : Text} {kind : Kind} {value : Option Value}
    (hne : raw ≠ []) :
    Token.MovesTo first.length inserted.length
      ⟨kind, value, raw, some ⟨.after (first ++ further), .after (first ++ further ++ raw)⟩⟩
      ⟨kind, value, raw, some ⟨.after (first ++ inserted ++ further),
        .after (first ++ inserted ++ further ++ raw)⟩⟩ where
  alike := by simp [Token.alike]
  kept hends := by
    rw [endsBy_eq_false hne (by simp)] at hends
    cases hends
  raised _ := by
    refine ⟨_, _, rfl, rfl, ?_, ?_⟩
    · simp only [Position.after_offset, List.length_append]
      omega
    · simp only [Position.after_offset, List.length_append]
      omega

/-- Blanks can be put in at a boundary of a part that is cut off. -/
theorem Cut.insert (hrules : lexer.rules = kinds.map .standard) {inserted : Text}
    (hinserted : ∀ c ∈ inserted, isBlank c = true) (h : lexer.Cut passed rest tokens)
    (hpassed : passed = first ++ second) (havoids : ∀ token ∈ tokens, token.Avoids first.length) :
    ∃ moved, lexer.Cut (first ++ inserted ++ second) rest moved ∧
      List.Forall₂ (Token.MovesTo first.length inserted.length) tokens moved := by
  induction h generalizing second with
  | blanks ends =>
    subst hpassed
    exact ⟨[], .blanks (ends.insert hinserted), .nil⟩
  | @token passed raw blanks rest tokens kind value before taken nonempty value_eq ends ih =>
    obtain ⟨hearlier, hlast⟩ := List.forall_mem_append.1 havoids
    rcases boundary_cases hpassed (List.forall_mem_singleton.1 hlast) with
      ⟨further, rfl, rfl⟩ | ⟨skipped, rfl, rfl⟩
    · -- the blanks come before the token, which moves on by as many places
      obtain ⟨moved, hmoved, halike⟩ := ih rfl hearlier
      have hcut := hmoved.token taken nonempty value_eq ends
      have htext : first ++ inserted ++ further ++ raw ++ blanks =
          first ++ inserted ++ (further ++ raw ++ blanks) := by
        simp only [List.append_assoc]
      rw [htext] at hcut
      exact ⟨_, hcut, List.rel_append halike (.cons (movesTo_behind nonempty) .nil)⟩
    · -- the blanks come among those behind the token, and no token moves
      have hstops : StopsLike (skipped ++ second ++ rest)
          (skipped ++ inserted ++ second ++ rest) := by
        simp only [List.append_assoc]
        exact (StopsLike.of_blanks hinserted _).append_left skipped
      have hcut := before.token_exchange hrules taken value_eq (ends.insert hinserted) hstops
      refine ⟨_, by simpa only [List.append_assoc] using hcut, List.forall₂_same.2 ?_⟩
      exact fun token hmem => .of_endsBy (before.concat_endsBy (by simp) token hmem) _

/-! ## The boundaries of a run -/

/-- Where a token starts or ends, no token is cut in two. -/
theorem Cut.avoids (h : lexer.Cut passed rest tokens) {token : Token} (hmem : token ∈ tokens)
    {span : Span} (hspan : token.span = some span) {offset : Nat}
    (hoffset : offset = span.start.offset ∨ offset = span.stop.offset) :
    offset ≤ passed.length ∧ ∀ other ∈ tokens, other.Avoids offset := by
  obtain ⟨place, hplace, hle, hstop⟩ := h.exists_span hmem
  cases hspan.symm.trans hplace
  refine ⟨by omega, ?_⟩
  -- of two tokens, either one ends before the other one starts, or they are the same
  have hapart : ∀ ⦃first⦄, first ∈ tokens → ∀ ⦃second⦄, second ∈ tokens →
      first = second ∨ first.Precedes second ∨ second.Precedes first :=
    List.Pairwise.forall_of_forall_of_flip (fun _ _ => .inl rfl)
      (h.precedes.imp fun hprecedes => .inr (.inl hprecedes))
      (h.precedes.imp fun hprecedes => .inr (.inr hprecedes))
  intro other hother otherSpan hotherSpan
  rcases hapart hmem hother with rfl | ⟨first, second, hfirst, hsecond, hbefore⟩ |
    ⟨first, second, hfirst, hsecond, hbefore⟩
  · cases hspan.symm.trans hotherSpan
    omega
  · cases hspan.symm.trans hfirst
    cases hotherSpan.symm.trans hsecond
    omega
  · cases hotherSpan.symm.trans hfirst
    cases hspan.symm.trans hsecond
    omega

/-- Ended at a boundary up to which its tokens are cut off, a source has the tokens before it. -/
theorem Cut.run_take (hrules : lexer.rules = kinds.map .standard)
    (h : lexer.Cut passed rest tokens) {offset : Nat} (hoffset : offset ≤ passed.length)
    (havoids : ∀ token ∈ tokens, token.Avoids offset) :
    lexer.run ((passed ++ rest).take offset) = .ok (tokens.filter (Token.endsBy offset)) := by
  have hlength : (passed.take offset).length = offset := List.length_take_of_le hoffset
  have hcut := h.truncate hrules (List.take_append_drop offset passed).symm (by rwa [hlength])
  rw [List.take_append_of_le_length hoffset]
  rw [hlength] at hcut
  exact (Ends.finished hcut).run_eq

/-- Ended where one of its tokens starts or ends, or where a fault stands, a source has just the
tokens that the run takes up to there, at the same places. So the tokens before unmatched input are
those of the source before that place. -/
theorem run_take_boundary (lexer : Lexer) {names : List Text}
    (hnames : rulesNamed names = .ok lexer.rules) (source : Text) :
    (∀ token ∈ lexer.taken source, ∀ span, token.span = some span →
      ∀ offset, offset = span.start.offset ∨ offset = span.stop.offset →
        lexer.run (source.take offset) =
          .ok ((lexer.taken source).filter (Token.endsBy offset))) ∧
    (∀ fault position, lexer.run source = .error fault → fault.position? = some position →
      lexer.run (source.take position.offset) =
        .ok ((lexer.taken source).filter (Token.endsBy position.offset))) ∧
    (∀ position snippet committed, lexer.run source = .error (.unmatched position snippet committed) →
      lexer.run (source.take position.offset) = .ok committed) := by
  obtain ⟨-, hrules⟩ := rulesNamed_eq_ok_iff.1 hnames
  obtain ⟨passed, rest, hsource, hcut, hplace⟩ := lexer.exists_cut_taken source
  have hfault : ∀ fault position, lexer.run source = .error fault → fault.position? = some position →
      lexer.run (source.take position.offset) =
        .ok ((lexer.taken source).filter (Token.endsBy position.offset)) := by
    intro fault position hrun hposition
    obtain rfl := hplace fault position hrun hposition
    have hkept := hcut.run_take hrules (Nat.le_refl _) fun token hmem =>
      .of_endsBy (hcut.endsBy (Nat.le_refl _) token hmem)
    rwa [← hsource] at hkept
  refine ⟨?_, hfault, ?_⟩
  · intro token hmem span hspan offset hoffset
    obtain ⟨hle, havoids⟩ := hcut.avoids hmem hspan hoffset
    have hkept := hcut.run_take hrules hle havoids
    rwa [← hsource] at hkept
  · intro position snippet committed hrun
    obtain rfl := hplace _ position hrun rfl
    have hkept := hfault _ _ hrun rfl
    have hends : ∀ token ∈ lexer.taken source, token.endsBy passed.length = true :=
      hcut.endsBy (Nat.le_refl _)
    rwa [Position.after_offset, List.filter_eq_self.2 hends, taken_of_unmatched hrun] at hkept

/-- The tokens of `"a" b"c`: a string up to the last quote of the line, and a name right behind it. -/
def stringThenName : List Token :=
  [⟨.string, some (.text "a\" b".toList), "\"a\" b\"".toList, some ⟨.start, ⟨1, 7, 6⟩⟩⟩,
    ⟨.identifier, some (.text ['c']), ['c'], some ⟨⟨1, 7, 6⟩, ⟨1, 8, 7⟩⟩⟩]

/-- The source is ended behind the string and before a character that no rule matches. -/
theorem run_take_boundary_quotes :
    ({} : Lexer).run "\"a\" b\"".toList = .ok (stringThenName.take 1) ∧
    ({} : Lexer).run "\"a\" b\"c ".toList = .ok stringThenName := by
  have hrun : ({} : Lexer).run "\"a\" b\"c @".toList =
      .error (.unmatched ⟨1, 9, 8⟩ ['@'] stringThenName) := by
    decide +kernel
  obtain ⟨hboundary, -, hunmatched⟩ :=
    run_take_boundary {} rulesNamed_all "\"a\" b\"c @".toList
  rw [taken_of_unmatched hrun] at hboundary
  exact ⟨hboundary _ List.mem_cons_self _ rfl 6 (.inr rfl), hunmatched _ _ _ hrun⟩

/-- Blanks put in where no token is cut in two change nothing but the places of the tokens behind
them. -/
theorem run_insert_blanks (lexer : Lexer) {names : List Text}
    (hnames : rulesNamed names = .ok lexer.rules) {tokens : List Token}
    (hrun : lexer.run source = .ok tokens) {offset : Nat} (hoffset : offset ≤ source.length)
    (havoids : ∀ token ∈ tokens, token.Avoids offset) {blanks : Text}
    (hblanks : ∀ c ∈ blanks, isBlank c = true) :
    ∃ moved, lexer.run (source.take offset ++ blanks ++ source.drop offset) = .ok moved ∧
      List.Forall₂ (Token.MovesTo offset blanks.length) tokens moved := by
  obtain ⟨-, hrules⟩ := rulesNamed_eq_ok_iff.1 hnames
  have hends := lexer.run_ends source
  rw [hrun] at hends
  cases hends with
  | finished cut =>
    have hlength : (source.take offset).length = offset := List.length_take_of_le hoffset
    obtain ⟨moved, hcut, hmoved⟩ := cut.insert hrules hblanks
      (List.take_append_drop offset source).symm (by rwa [hlength])
    rw [hlength] at hmoved
    exact ⟨moved, (Ends.finished hcut).run_eq, hmoved⟩

/-- A line feed right behind the last quote of a line. -/
theorem run_insert_blanks_quotes :
    ∃ moved, ({} : Lexer).run "\"a\" b\"\n\tc".toList = .ok moved ∧
      List.Forall₂ (Token.MovesTo 6 2) stringThenName moved := by
  have hrun : ({} : Lexer).run "\"a\" b\"c".toList = .ok stringThenName := by
    decide +kernel
  have hoffset : 6 ≤ "\"a\" b\"c".toList.length := by decide
  have havoids : ∀ token ∈ stringThenName, token.Avoids 6 := by
    intro token hmem span hspan
    simp only [stringThenName, List.mem_cons, List.not_mem_nil, or_false] at hmem
    rcases hmem with rfl | rfl
    · cases hspan
      exact .inr (Nat.le_refl _)
    · cases hspan
      exact .inl (Nat.le_refl _)
  have hblanks : ∀ c ∈ "\n\t".toList, isBlank c = true := List.all_eq_true.1 rfl
  exact run_insert_blanks {} rulesNamed_all hrun hoffset havoids hblanks

end Lexer

end LispLex
