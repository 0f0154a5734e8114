-- SUMMARY: Inversion of one step, and invariants of whole runs from it.
import LispLex.Proofs.Run.Equations
import LispLex.Proofs.Run.Located

/-!
# Runs step by step

What one step can do, said once: it passes a longest run of blanks, and then the source ends, the
first matching rule takes a text, or something is wrong there. What every step keeps, whole runs
keep, by induction over the steps of a run.
-/

namespace LispLex

/-- The offset where the token ends, if its place is known. -/
def Token.endOffset? (token : Token) : Option Nat :=
  token.span.map (·.stop.offset)

theorem Position.advance_offset (position : Position) (text : Text) :
    (position.advance text).offset = position.offset + text.length := by
  induction text generalizing position with
  | nil => rfl
  | cons c text ih =>
    have hstep : (position.step c).offset = position.offset + 1 := by
      unfold Position.step
      split <;> rfl
    rw [advance_cons, ih, hstep, List.length_cons]
    omega

/-- Where a fault points, if it has a place. -/
def Fault.position? : Fault → Option Position
  | .unmatched position _ _ => some position
  | .overflow position _ _ => some position
  | .invalid _ => none

/-- Tokens before a fault do not move it. -/
theorem Outcome.afterAll_eq_error {tokens : List Token} {outcome : Outcome} {fault : Fault}
    (h : outcome.afterAll tokens = .error fault) :
    ∃ inner, outcome = .error inner ∧ inner.position? = fault.position? := by
  cases outcome with
  | ok => simp at h
  | error inner =>
    refine ⟨inner, rfl, ?_⟩
    cases inner with
    | unmatched =>
      rw [afterAll_unmatched] at h
      cases h
      rfl
    | overflow =>
      rw [afterAll_overflow] at h
      cases h
      rfl
    | invalid =>
      rw [afterAll_invalid] at h
      cases h
      rfl

theorem ValueFault.position?_faultAt {fault : ValueFault} {position place : Position}
    (h : (fault.faultAt position).position? = some place) : place = position := by
  cases fault <;> cases h
  rfl

namespace Lexer

variable {lexer : Lexer}

/-! ## What a step does -/

/-- What the step at a cursor comes to. -/
inductive StepsTo (lexer : Lexer) : Cursor → Step → Prop
  | finished {position : Position} {blanks : Text} (skipped : BlankRun blanks []) :
      StepsTo lexer ⟨position, blanks⟩ .finished
  | token {position : Position} {blanks raw rest : Text} {kind : Kind} {value : Option Value}
      (skipped : BlankRun blanks (raw ++ rest))
      (first : FirstRule lexer.rules (raw ++ rest) kind raw)
      (value_eq : kind.value? lexer.ceiling raw = .ok value) :
      StepsTo lexer ⟨position, blanks ++ (raw ++ rest)⟩
        (.token ⟨kind, value, raw,
            some ⟨position.advance blanks, (position.advance blanks).advance raw⟩⟩
          ⟨(position.advance blanks).advance raw, rest⟩)
  | unmatched {position : Position} {blanks rest : Text} {c : Char}
      (skipped : BlankRun blanks (c :: rest))
      (norule : ∀ rule ∈ lexer.rules, rule.match? (c :: rest) = none) :
      StepsTo lexer ⟨position, blanks ++ c :: rest⟩
        (.failed (.unmatched (position.advance blanks)
          (Cursor.snippet ⟨position.advance blanks, c :: rest⟩ lexer.snippetLength) []))
  | refused {position : Position} {blanks rest raw : Text} {c : Char} {kind : Kind}
      {fault : ValueFault} (skipped : BlankRun blanks (c :: rest))
      (first : FirstRule lexer.rules (c :: rest) kind raw)
      (value_eq : kind.value? lexer.ceiling raw = .error fault) :
      StepsTo lexer ⟨position, blanks ++ c :: rest⟩
        (.failed (fault.faultAt (position.advance blanks)))

theorem StepsTo.step_eq {cursor : Cursor} {step : Step} (h : lexer.StepsTo cursor step) :
    lexer.step cursor = step := by
  cases h with
  | @finished position blanks skipped =>
    have hskip : Cursor.skipBlanks ⟨position, blanks ++ []⟩ = ⟨position.advance blanks, []⟩ :=
      Cursor.skipBlanks_eq skipped
    rw [List.append_nil] at hskip
    simp [Lexer.step, hskip, Cursor.atEnd]
  | @token position blanks raw rest kind value skipped first value_eq =>
    cases raw with
    | nil => exact absurd rfl first.ne_nil
    | cons c raw =>
      rw [List.cons_append] at skipped first ⊢
      rw [step_blanks skipped, step_cons (skipped.ends c rfl), firstMatch?_eq_some_iff.2 first]
      simp [take, value_eq, Cursor.advance]
  | @unmatched position blanks rest c skipped norule =>
    rw [step_blanks skipped, step_cons (skipped.ends c rfl), firstMatch?_eq_none_iff.2 norule]
  | @refused position blanks rest raw c kind fault skipped first value_eq =>
    rw [step_blanks skipped, step_cons (skipped.ends c rfl), firstMatch?_eq_some_iff.2 first]
    cases fault <;> simp [take, value_eq, ValueFault.faultAt]

/-- Every step comes to one of these. -/
theorem stepsTo_step (lexer : Lexer) (cursor : Cursor) :
    lexer.StepsTo cursor (lexer.step cursor) := by
  obtain ⟨position, text⟩ := cursor
  have hblanks := BlankRun.of_takeWhile text
  have htext : text.takeWhile isBlank ++ text.dropWhile isBlank = text :=
    List.takeWhile_append_dropWhile
  generalize text.takeWhile isBlank = blanks at hblanks htext
  generalize text.dropWhile isBlank = left at hblanks htext
  subst htext
  suffices h : ∃ step, lexer.StepsTo ⟨position, blanks ++ left⟩ step by
    obtain ⟨step, h⟩ := h
    rwa [h.step_eq]
  cases left with
  | nil => exact ⟨_, by simpa using StepsTo.finished hblanks⟩
  | cons c rest =>
    cases hmatch : firstMatch? lexer.rules (c :: rest) with
    | none => exact ⟨_, .unmatched hblanks (firstMatch?_eq_none_iff.1 hmatch)⟩
    | some found =>
      obtain ⟨kind, raw⟩ := found
      have hfirst := firstMatch?_eq_some_iff.1 hmatch
      cases hvalue : kind.value? lexer.ceiling raw with
      | error fault => exact ⟨_, .refused hblanks hfirst hvalue⟩
      | ok value =>
        obtain ⟨after, hafter⟩ := hfirst.isPrefix
        rw [← hafter] at hblanks hfirst ⊢
        exact ⟨_, .token hblanks hfirst hvalue⟩

theorem StepsTo.of_step_eq {cursor : Cursor} {step : Step} (h : lexer.step cursor = step) :
    lexer.StepsTo cursor step :=
  h ▸ lexer.stepsTo_step cursor

/-! ## What a run makes of its steps -/

theorem runFrom_of_finished {cursor : Cursor} (h : lexer.step cursor = .finished) :
    lexer.runFrom cursor = .ok [] := by
  rw [runFrom]
  split <;> simp_all

theorem runFrom_of_token {cursor next : Cursor} {token : Token}
    (h : lexer.step cursor = .token token next) :
    lexer.runFrom cursor = (lexer.runFrom next).after token := by
  rw [runFrom]
  split <;> simp_all

/-! ## The tokens that a run takes -/

/-- The tokens that the run from a cursor takes, however it ends. -/
def takenFrom (lexer : Lexer) (cursor : Cursor) : List Token :=
  match _h : lexer.step cursor with
  | .token token next => token :: lexer.takenFrom next
  | .finished | .failed _ => []
termination_by cursor.rest.length
decreasing_by exact step_shorter _h

/-- The tokens that a run over the source takes, however it ends. -/
def taken (lexer : Lexer) (source : Text) : List Token :=
  lexer.takenFrom (.ofText source)

theorem takenFrom_of_token {cursor next : Cursor} {token : Token}
    (h : lexer.step cursor = .token token next) :
    lexer.takenFrom cursor = token :: lexer.takenFrom next := by
  rw [takenFrom]
  split <;> simp_all

theorem takenFrom_of_finished {cursor : Cursor} (h : lexer.step cursor = .finished) :
    lexer.takenFrom cursor = [] := by
  rw [takenFrom]
  split <;> simp_all

theorem takenFrom_of_failed {cursor : Cursor} {fault : Fault} (h : lexer.step cursor = .failed fault) :
    lexer.takenFrom cursor = [] := by
  rw [takenFrom]
  split <;> simp_all

theorem takenFrom_congr {cursor same : Cursor} (h : lexer.step cursor = lexer.step same) :
    lexer.takenFrom cursor = lexer.takenFrom same := by
  rw [takenFrom.eq_def lexer cursor, takenFrom.eq_def lexer same, h]

/-- A run over a source that starts with a cut part takes the tokens of that part first. -/
theorem Cut.taken_eq {passed rest : Text} {tokens : List Token} (h : lexer.Cut passed rest tokens) :
    lexer.taken (passed ++ rest) = tokens ++ lexer.takenFrom ⟨.after passed, rest⟩ := by
  induction h with
  | blanks ends =>
    rw [List.nil_append, ← Position.start_advance]
    exact takenFrom_congr (step_blanks ends)
  | @token passed raw blanks rest tokens kind value before first nonempty value_eq ends ih =>
    have hstep : lexer.step ⟨.after passed, raw ++ (blanks ++ rest)⟩ =
        .token ⟨kind, value, raw, some ⟨.after passed, .after (passed ++ raw)⟩⟩
          ⟨.after (passed ++ raw), blanks ++ rest⟩ := by
      have hblanks : BlankRun [] (raw ++ (blanks ++ rest)) := ⟨by simp, before.head_not_blank⟩
      rw [Position.after_append]
      exact (StepsTo.token hblanks first value_eq).step_eq
    have hnext : lexer.takenFrom ⟨.after (passed ++ raw), blanks ++ rest⟩ =
        lexer.takenFrom ⟨.after (passed ++ raw ++ blanks), rest⟩ := by
      rw [Position.after_append (passed ++ raw)]
      exact takenFrom_congr (step_blanks ends)
    calc lexer.taken (passed ++ raw ++ blanks ++ rest)
        = lexer.taken (passed ++ (raw ++ (blanks ++ rest))) := by simp only [List.append_assoc]
      _ = tokens ++ lexer.takenFrom ⟨.after passed, raw ++ (blanks ++ rest)⟩ := ih
      _ = _ := by rw [takenFrom_of_token hstep, hnext, List.append_cons]

/-- Where a step fails, the run has taken the tokens cut off before and takes no more. -/
theorem Reaches.taken_eq {source passed rest : Text} {c : Char} {tokens : List Token}
    {fault : Fault} (h : lexer.Reaches source passed c rest tokens)
    (hstep : lexer.StepsTo ⟨.after passed, c :: rest⟩ (.failed fault)) :
    lexer.taken source = tokens := by
  rw [h.source_eq, h.cut.taken_eq, takenFrom_of_failed hstep.step_eq, List.append_nil]

/-- The tokens that a run takes are cut from a part of the source, and a fault stands behind it. -/
theorem exists_cut_taken (lexer : Lexer) (source : Text) :
    ∃ passed rest, source = passed ++ rest ∧ lexer.Cut passed rest (lexer.taken source) ∧
      ∀ fault position, lexer.run source = .error fault → fault.position? = some position →
        position = .after passed := by
  have hends := lexer.run_ends source
  generalize lexer.run source = outcome at hends
  cases hends with
  | @finished tokens cut =>
    have htaken := cut.taken_eq
    rw [takenFrom_of_finished rfl, List.append_nil, List.append_nil] at htaken
    refine ⟨source, [], (List.append_nil source).symm, htaken ▸ cut, ?_⟩
    intro fault position hfault
    cases hfault
  | @unmatched passed rest c tokens reaches norule =>
    have hstep : lexer.StepsTo ⟨.after passed, c :: rest⟩ _ :=
      .unmatched (.of_head rest reaches.notBlank) norule
    refine ⟨_, _, reaches.source_eq, (reaches.taken_eq hstep).symm ▸ reaches.cut, ?_⟩
    intro fault position hfault hposition
    cases hfault
    exact (Option.some.inj hposition).symm
  | @refused passed rest raw c tokens kind fault reaches first value_eq =>
    have hstep : lexer.StepsTo ⟨.after passed, c :: rest⟩ _ :=
      .refused (.of_head rest reaches.notBlank) first value_eq
    refine ⟨_, _, reaches.source_eq, (reaches.taken_eq hstep).symm ▸ reaches.cut, ?_⟩
    intro fault position hfault hposition
    cases hfault
    exact ValueFault.position?_faultAt hposition

/-- An outcome is what the last step makes of it, behind the tokens taken before. -/
theorem runFrom_eq_afterAll_takenFrom (lexer : Lexer) (cursor : Cursor) :
    ∃ last : Outcome, last.tokens = [] ∧
      lexer.runFrom cursor = last.afterAll (lexer.takenFrom cursor) := by
  induction cursor using runFrom.induct lexer with
  | case1 cursor hstep =>
    refine ⟨.ok [], rfl, ?_⟩
    rw [takenFrom_of_finished hstep, runFrom_of_finished hstep, Outcome.afterAll_nil]
  | case2 cursor token next hstep ih =>
    obtain ⟨last, hlast, hrun⟩ := ih
    refine ⟨last, hlast, ?_⟩
    rw [takenFrom_of_token hstep, runFrom_of_token hstep, hrun, Outcome.afterAll_cons]
  | case3 cursor fault hstep =>
    refine ⟨.error fault, ?_, ?_⟩
    · cases StepsTo.of_step_eq hstep with
      | unmatched => rfl
      | @refused _ _ _ _ _ _ fault => cases fault <;> rfl
    · rw [takenFrom_of_failed hstep, runFrom_failed hstep, Outcome.afterAll_nil]

/-- The tokens before unmatched input are all that the run takes. -/
theorem taken_of_unmatched {source : Text} {position : Position} {snippet : Text}
    {committed : List Token}
    (h : lexer.run source = .error (.unmatched position snippet committed)) :
    lexer.taken source = committed := by
  obtain ⟨last, hlast, hrun⟩ := lexer.runFrom_eq_afterAll_takenFrom (.ofText source)
  have houtcome : last.afterAll (lexer.taken source) =
      .error (.unmatched position snippet committed) := hrun.symm.trans h
  cases last with
  | ok others => simp at houtcome
  | error fault =>
    cases fault with
    | unmatched place shown inner =>
      obtain rfl : inner = [] := hlast
      simp only [Outcome.afterAll_unmatched, List.append_nil] at houtcome
      cases houtcome
      rfl
    | overflow => simp at houtcome
    | invalid => simp at houtcome

/-! ## Steps go forward -/

/-- A step that takes a token passes a text, and the token ends behind that text. -/
theorem step_passes {cursor next : Cursor} {token : Token}
    (h : lexer.step cursor = .token token next) :
    ∃ text, text ≠ [] ∧ cursor.rest = text ++ next.rest ∧
      next.position = cursor.position.advance text ∧
      token.endOffset? = some next.position.offset := by
  cases StepsTo.of_step_eq h with
  | @token position blanks raw rest kind value skipped first value_eq =>
    refine ⟨blanks ++ raw, ?_, (List.append_assoc _ _ _).symm, ?_, rfl⟩
    · simp [first.ne_nil]
    · exact (Position.advance_append _ _ _).symm

theorem offset_lt_of_step {cursor next : Cursor} {token : Token}
    (h : lexer.step cursor = .token token next) :
    cursor.position.offset < next.position.offset := by
  obtain ⟨text, hne, -, hposition, -⟩ := step_passes h
  rw [hposition, Position.advance_offset]
  exact Nat.lt_add_of_pos_right (List.length_pos_iff.2 hne)

/-- Every token taken from a cursor on ends behind it. -/
theorem lt_endOffset_of_mem_takenFrom {cursor : Cursor} {token : Token}
    (h : token ∈ lexer.takenFrom cursor) :
    ∃ stop, token.endOffset? = some stop ∧ cursor.position.offset < stop := by
  induction cursor using runFrom.induct lexer with
  | case1 cursor hstep =>
    rw [takenFrom_of_finished hstep] at h
    cases h
  | case2 cursor first next hstep ih =>
    have hlt := offset_lt_of_step hstep
    rw [takenFrom_of_token hstep] at h
    rcases List.mem_cons.1 h with rfl | hlater
    · obtain ⟨-, -, -, -, hstop⟩ := step_passes hstep
      exact ⟨_, hstop, hlt⟩
    · obtain ⟨stop, hstop, hnext⟩ := ih hlater
      exact ⟨stop, hstop, hlt.trans hnext⟩
  | case3 cursor fault hstep =>
    rw [takenFrom_of_failed hstep] at h
    cases h

/-- No fault stands before the place where the run starts. -/
theorem runFrom_fault_offset {cursor : Cursor} {fault : Fault} {place : Position}
    (h : lexer.runFrom cursor = .error fault) (hplace : fault.position? = some place) :
    cursor.position.offset ≤ place.offset := by
  induction cursor using runFrom.induct lexer generalizing fault with
  | case1 cursor hstep =>
    rw [runFrom_of_finished hstep] at h
    cases h
  | case2 cursor token next hstep ih =>
    rw [runFrom_of_token hstep] at h
    change (lexer.runFrom next).afterAll [token] = .error fault at h
    obtain ⟨inner, hinner, hposition⟩ := Outcome.afterAll_eq_error h
    exact (offset_lt_of_step hstep).le.trans (ih hinner (hposition.trans hplace))
  | case3 cursor failure hstep =>
    rw [runFrom_failed hstep] at h
    cases h
    cases StepsTo.of_step_eq hstep with
    | unmatched =>
      cases hplace
      simp [Position.advance_offset]
    | refused =>
      rw [ValueFault.position?_faultAt hplace]
      simp [Position.advance_offset]

end Lexer

end LispLex
