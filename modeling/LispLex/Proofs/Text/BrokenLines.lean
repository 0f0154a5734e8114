-- SUMMARY: Lines as an editor breaks them, compared with those between line feeds.
import LispLex.Proofs.Text

/-!
# Lines as an editor breaks them

An editor breaks a line at more characters than the line feed. So it finds at least as many lines as
there are line feeds, and no more exactly if nothing else breaks a line.
-/

namespace LispLex

/-- A line is broken between the character and what follows. -/
def BreaksBetween (c : Char) (rest : Text) : Prop :=
  isLineBreak c = true ∧ ¬(c = '\r' ∧ rest.head? = some '\n')

/-- Lines are broken at line feeds only, with or without a carriage return before them. -/
def BreaksAtFeeds : Text → Prop
  | [] => True
  | c :: rest =>
    (isLineBreak c = true → c = '\n' ∨ c = '\r' ∧ rest.head? = some '\n') ∧ BreaksAtFeeds rest

instance decidableBreaksAtFeeds : (text : Text) → Decidable (BreaksAtFeeds text)
  | [] => .isTrue trivial
  | _ :: rest =>
    have := decidableBreaksAtFeeds rest
    inferInstanceAs (Decidable (_ ∧ _))

/-- The text is made of whole lines: if it is not empty, a line feed ends it. -/
inductive WholeLines : Text → Prop
  | nil : WholeLines []
  | feed (text : Text) : WholeLines (text ++ ['\n'])

/-- No character of these breaks a line. -/
def Unbroken (text : Text) : Prop :=
  ∀ c ∈ text, isLineBreak c = false

instance (text : Text) : Decidable (Unbroken text) :=
  List.decidableBAll _ text

/-- The first line, with the break that ends it; empty if the text is. -/
def firstLine (text : Text) : Text :=
  (brokenLines text).headD []

variable {c : Char} {text rest : Text}

theorem breaksBetween_feed (rest : Text) : BreaksBetween '\n' rest :=
  ⟨rfl, fun hreturn => absurd hreturn.1 (by decide)⟩

theorem ne_feed_of_no_break (h : ¬BreaksBetween c rest) : c ≠ '\n' := by
  rintro rfl
  exact h (breaksBetween_feed rest)

theorem not_breaksBetween (hc : isLineBreak c = false) : ¬BreaksBetween c rest := by
  rintro ⟨hbreak, -⟩
  rw [hc] at hbreak
  cases hbreak

theorem breaksBetween_iff :
    BreaksBetween c rest ↔ (isLineBreak c && !(c == '\r' && rest.head? == some '\n')) = true := by
  simp [BreaksBetween, imp_iff_not_or]

/-! ## Unbroken texts -/

theorem Unbroken.nil : Unbroken [] := by
  simp [Unbroken]

theorem Unbroken.feed_not_mem {text : Text} (h : Unbroken text) : '\n' ∉ text := by
  intro hmem
  cases h '\n' hmem

theorem Unbroken.append {first second : Text} (h : Unbroken first) (hsecond : Unbroken second) :
    Unbroken (first ++ second) :=
  List.forall_mem_append.2 ⟨h, hsecond⟩

theorem Unbroken.cons {c : Char} {text : Text} (hc : isLineBreak c = false) (h : Unbroken text) :
    Unbroken (c :: text) :=
  List.forall_mem_cons.2 ⟨hc, h⟩

/-! ## One character -/

theorem brokenLines_of_break (h : BreaksBetween c rest) :
    brokenLines (c :: rest) = [c] :: brokenLines rest := by
  rw [brokenLines, if_pos (breaksBetween_iff.1 h)]

theorem brokenLines_of_no_break (h : ¬BreaksBetween c rest) :
    brokenLines (c :: rest) = (c :: firstLine rest) :: (brokenLines rest).tail := by
  rw [brokenLines, if_neg (mt breaksBetween_iff.2 h), firstLine]
  cases brokenLines rest with
  | nil => rfl
  | cons line lines => rfl

@[simp] theorem firstLine_nil : firstLine [] = [] := rfl

theorem firstLine_of_break (h : BreaksBetween c rest) : firstLine (c :: rest) = [c] := by
  rw [firstLine, brokenLines_of_break h, List.headD_cons]

theorem firstLine_of_no_break (h : ¬BreaksBetween c rest) :
    firstLine (c :: rest) = c :: firstLine rest := by
  rw [firstLine, brokenLines_of_no_break h, List.headD_cons]

theorem brokenLines_ne_nil (h : text ≠ []) : brokenLines text ≠ [] := by
  cases text with
  | nil => exact absurd rfl h
  | cons c rest =>
    by_cases hbreak : BreaksBetween c rest
    · simp [brokenLines_of_break hbreak]
    · simp [brokenLines_of_no_break hbreak]

theorem length_brokenLines_of_no_break (h : ¬BreaksBetween c rest) (hrest : rest ≠ []) :
    (brokenLines (c :: rest)).length = (brokenLines rest).length := by
  have hpos := List.length_pos_iff.2 (brokenLines_ne_nil hrest)
  rw [brokenLines_of_no_break h, List.length_cons, List.length_tail]
  omega

/-! ## All lines -/

/-- Nothing of the text is lost between its lines. -/
theorem flatten_brokenLines (text : Text) : (brokenLines text).flatten = text := by
  induction text with
  | nil => rfl
  | cons c rest ih =>
    by_cases hbreak : BreaksBetween c rest
    · rw [brokenLines_of_break hbreak, List.flatten_cons, ih, List.singleton_append]
    · rw [brokenLines_of_no_break hbreak, List.flatten_cons, firstLine]
      cases hlines : brokenLines rest with
      | nil => simpa [hlines] using ih
      | cons line lines => simpa [hlines] using ih

/-- A line feed breaks a text in two, whatever follows. -/
theorem brokenLines_append_feed (text rest : Text) :
    brokenLines (text ++ '\n' :: rest) = brokenLines (text ++ ['\n']) ++ brokenLines rest := by
  induction text with
  | nil => exact brokenLines_of_break (breaksBetween_feed rest)
  | cons c text ih =>
    have hhead : (text ++ '\n' :: rest).head? = (text ++ ['\n']).head? := by
      cases text <;> rfl
    have hiff : BreaksBetween c (text ++ '\n' :: rest) ↔ BreaksBetween c (text ++ ['\n']) := by
      rw [BreaksBetween, BreaksBetween, hhead]
    rw [List.cons_append, List.cons_append]
    by_cases hbreak : BreaksBetween c (text ++ ['\n'])
    · rw [brokenLines_of_break hbreak, brokenLines_of_break (hiff.2 hbreak), ih, List.cons_append]
    · obtain ⟨line, lines, hlines⟩ :=
        List.exists_cons_of_ne_nil (brokenLines_ne_nil (text.concat_ne_nil '\n'))
      rw [brokenLines_of_no_break hbreak, brokenLines_of_no_break (mt hiff.1 hbreak), firstLine,
        firstLine, ih, hlines]
      rfl

theorem WholeLines.brokenLines_append (h : WholeLines text) (rest : Text) :
    brokenLines (text ++ rest) = brokenLines text ++ brokenLines rest := by
  cases h with
  | nil => rfl
  | feed text =>
    rw [List.append_assoc, List.singleton_append]
    exact brokenLines_append_feed text rest

/-- Every line is a part of the text. -/
theorem infix_of_mem_brokenLines {line : Text} (h : line ∈ brokenLines text) : line <:+: text := by
  have hinfix := List.infix_of_mem_flatten h
  rwa [flatten_brokenLines] at hinfix

/-! ## Line feeds and lines -/

theorem length_brokenLines_feed (h : BreaksAtFeeds (text ++ ['\n'])) :
    (brokenLines (text ++ ['\n'])).length = (text ++ ['\n']).count '\n' := by
  induction text with
  | nil => rfl
  | cons c text ih =>
    obtain ⟨hfeed, htext⟩ := h
    rw [List.cons_append]
    by_cases hbreak : BreaksBetween c (text ++ ['\n'])
    · obtain rfl : c = '\n' := (hfeed hbreak.1).resolve_right hbreak.2
      rw [brokenLines_of_break hbreak, List.length_cons, ih htext, List.count_cons_self]
    · rw [length_brokenLines_of_no_break hbreak (text.concat_ne_nil '\n'), ih htext,
        List.count_cons_of_ne (ne_feed_of_no_break hbreak)]

theorem count_lt_length_brokenLines_feed (h : ¬BreaksAtFeeds (text ++ ['\n'])) :
    (text ++ ['\n']).count '\n' < (brokenLines (text ++ ['\n'])).length := by
  induction text with
  | nil => exact absurd ⟨fun _ => .inl rfl, trivial⟩ h
  | cons c text ih =>
    rw [List.cons_append]
    by_cases htext : BreaksAtFeeds (text ++ ['\n'])
    · -- the one break that is none of a line feed is at the first character
      have hfirst : ¬(isLineBreak c = true → c = '\n' ∨ c = '\r' ∧ (text ++ ['\n']).head? = some '\n') :=
        fun hfeed => h ⟨hfeed, htext⟩
      obtain ⟨hbreak, hnot⟩ := Classical.not_imp.1 hfirst
      obtain ⟨hc, hreturn⟩ := not_or.1 hnot
      rw [brokenLines_of_break ⟨hbreak, hreturn⟩, List.length_cons,
        length_brokenLines_feed htext, List.count_cons_of_ne hc]
      exact Nat.lt_succ_self _
    · have hlt := ih htext
      by_cases hbreak : BreaksBetween c (text ++ ['\n'])
      · rw [brokenLines_of_break hbreak, List.length_cons, List.count_cons]
        split <;> omega
      · rwa [length_brokenLines_of_no_break hbreak (text.concat_ne_nil '\n'),
          List.count_cons_of_ne (ne_feed_of_no_break hbreak)]

/-- If nothing but line feeds breaks whole lines, there are as many lines as line feeds. -/
theorem WholeLines.length_brokenLines (h : WholeLines text) (hbreaks : BreaksAtFeeds text) :
    (brokenLines text).length = text.count '\n' := by
  cases h with
  | nil => rfl
  | feed text => exact length_brokenLines_feed hbreaks

/-- If something else breaks them too, there are more lines than line feeds. -/
theorem WholeLines.count_lt_length_brokenLines (h : WholeLines text)
    (hbreaks : ¬BreaksAtFeeds text) : text.count '\n' < (brokenLines text).length := by
  cases h with
  | nil => exact absurd trivial hbreaks
  | feed text => exact count_lt_length_brokenLines_feed hbreaks

/-! ## Parts of a text that breaks at line feeds -/

theorem BreaksAtFeeds.right {first second : Text} (h : BreaksAtFeeds (first ++ second)) :
    BreaksAtFeeds second := by
  induction first with
  | nil => exact h
  | cons c first ih => exact ih h.2

theorem WholeLines.breaksAtFeeds (hwhole : WholeLines text) (h : BreaksAtFeeds (text ++ rest)) :
    BreaksAtFeeds text := by
  cases hwhole with
  | nil => trivial
  | feed text =>
    induction text with
    | nil => exact ⟨fun _ => .inl rfl, trivial⟩
    | cons c text ih =>
      obtain ⟨hbreak, htext⟩ := h
      have hhead : (text ++ ['\n'] ++ rest).head? = (text ++ ['\n']).head? :=
        List.head?_append_of_ne_nil _ (text.concat_ne_nil '\n')
      refine ⟨fun hc => (hbreak hc).imp_right ?_, ih htext⟩
      exact fun ⟨hreturn, hnext⟩ => ⟨hreturn, hhead.symm.trans hnext⟩

/-- Inside of a line only its last character can be a break: a carriage return before the feed. -/
theorem BreaksAtFeeds.unbroken_dropLast {body : Text} (h : BreaksAtFeeds (body ++ rest))
    (hfeed : '\n' ∉ body) : Unbroken body.dropLast := by
  induction body with
  | nil => exact .nil
  | cons c body ih =>
    obtain ⟨hbreak, hbody⟩ := h
    obtain ⟨hc, hfeed⟩ := not_or.1 (mt List.mem_cons.2 hfeed)
    cases body with
    | nil => exact .nil
    | cons d body =>
      refine .cons ?_ (ih hbody hfeed)
      cases hcbreak : isLineBreak c with
      | false => rfl
      | true =>
        rcases hbreak hcbreak with rfl | ⟨-, hnext⟩
        · exact absurd rfl hc
        · cases hnext
          exact absurd List.mem_cons_self hfeed

/-! ## The first line -/

theorem firstLine_append {stretch : Text} (h : Unbroken stretch) (rest : Text) :
    firstLine (stretch ++ rest) = stretch ++ firstLine rest := by
  induction stretch with
  | nil => rfl
  | cons c stretch ih =>
    obtain ⟨hc, hstretch⟩ := List.forall_mem_cons.1 h
    rw [List.cons_append, firstLine_of_no_break (not_breaksBetween hc), ih hstretch,
      List.cons_append]

/-- The first line does not go beyond a break. -/
theorem length_firstLine_le (text : Text) (h : BreaksBetween c rest) :
    (firstLine (text ++ c :: rest)).length ≤ text.length + 1 := by
  induction text with
  | nil => simp [firstLine_of_break h]
  | cons d text ih =>
    rw [List.cons_append]
    by_cases hbreak : BreaksBetween d (text ++ c :: rest)
    · simp [firstLine_of_break hbreak]
    · simpa [firstLine_of_no_break hbreak] using ih

/-! ## Bare lines -/

/-- The lines of a text without the breaks that end them. -/
def bareLines (text : Text) : List Text :=
  (brokenLines text).map (·.takeWhile fun c => !isLineBreak c)

/-- A line feed that nothing breaks before it ends one line. -/
theorem Unbroken.brokenLines_feed {line : Text} (h : Unbroken line) :
    brokenLines (line ++ ['\n']) = [line ++ ['\n']] := by
  induction line with
  | nil => rfl
  | cons c line ih =>
    obtain ⟨hc, hline⟩ := List.forall_mem_cons.1 h
    rw [List.cons_append, brokenLines_of_no_break (not_breaksBetween hc), firstLine, ih hline]
    rfl

/-- Lines that nothing breaks are found again. -/
theorem bareLines_unlines {lines : List Text} (h : ∀ line ∈ lines, Unbroken line) :
    bareLines (unlines lines) = lines := by
  induction lines with
  | nil => rfl
  | cons line lines ih =>
    obtain ⟨hline, hlines⟩ := List.forall_mem_cons.1 h
    have hbare : (line ++ ['\n']).takeWhile (fun c => !isLineBreak c) = line :=
      takeWhile_append_of_head (fun c hc => by simp [hline c hc]) (by simp [isLineBreak])
    rw [unlines, List.flatMap_cons, List.append_assoc, List.singleton_append, bareLines,
      brokenLines_append_feed, hline.brokenLines_feed, List.map_append, List.map_singleton, hbare,
      List.singleton_append]
    exact congrArg (line :: ·) (ih hlines)

end LispLex
