-- SUMMARY: Lines between line feeds, and the line of a place.
import LispLex.Proofs.Text

/-!
# Lines between line feeds

A text cut at its line feeds. The line feeds before a place count the lines above it; its own line is
what stands around it up to the next line feed on either side.
-/

namespace LispLex

theorem feedLines_feed (rest : Text) : feedLines ('\n' :: rest) = [] :: feedLines rest := by
  rw [feedLines, if_pos rfl]

theorem feedLines_ne_nil (text : Text) : feedLines text ≠ [] := by
  cases text with
  | nil => simp [feedLines]
  | cons c rest =>
    rw [feedLines]
    split
    · simp
    · split <;> simp

theorem feedLines_cons {c : Char} (hc : c ≠ '\n') {rest line : Text} {lines : List Text}
    (h : feedLines rest = line :: lines) : feedLines (c :: rest) = (c :: line) :: lines := by
  rw [feedLines, if_neg hc, h]

/-- A line feed cuts a text in two. -/
theorem feedLines_append_feed (text rest : Text) :
    feedLines (text ++ '\n' :: rest) = feedLines text ++ feedLines rest := by
  induction text with
  | nil => exact feedLines_feed rest
  | cons c text ih =>
    rw [List.cons_append]
    by_cases hc : c = '\n'
    · subst hc
      rw [feedLines_feed, feedLines_feed, ih, List.cons_append]
    · obtain ⟨line, lines, hlines⟩ := List.exists_cons_of_ne_nil (feedLines_ne_nil text)
      rw [hlines, List.cons_append] at ih
      rw [feedLines_cons hc hlines, feedLines_cons hc ih, List.cons_append]

theorem feedLines_of_not_mem {text : Text} (h : '\n' ∉ text) : feedLines text = [text] := by
  induction text with
  | nil => rfl
  | cons c text ih =>
    obtain ⟨hc, htext⟩ := not_or.1 (mt List.mem_cons.2 h)
    exact feedLines_cons (Ne.symm hc) (ih htext)

/-- Rows with line feeds between them are found again if they have none themselves. -/
theorem feedLines_intercalate {rows : List Text} (hne : rows ≠ [])
    (hrows : ∀ row ∈ rows, '\n' ∉ row) : feedLines (['\n'].intercalate rows) = rows := by
  induction rows with
  | nil => exact absurd rfl hne
  | cons row rows ih =>
    obtain ⟨hrow, hrows⟩ := List.forall_mem_cons.1 hrows
    cases rows with
    | nil => rw [List.intercalate_singleton, feedLines_of_not_mem hrow]
    | cons next rows =>
      rw [List.intercalate_cons_cons, List.append_assoc, List.singleton_append,
        feedLines_append_feed, feedLines_of_not_mem hrow, ih (List.cons_ne_nil next rows) hrows,
        List.singleton_append]

/-- There is one line more than there are line feeds. -/
theorem length_feedLines (text : Text) : (feedLines text).length = text.count '\n' + 1 := by
  induction text with
  | nil => rfl
  | cons c text ih =>
    by_cases hc : c = '\n'
    · subst hc
      rw [feedLines_feed, List.length_cons, ih, List.count_cons_self]
    · obtain ⟨line, lines, hlines⟩ := List.exists_cons_of_ne_nil (feedLines_ne_nil text)
      rw [hlines] at ih
      rw [feedLines_cons hc hlines, List.count_cons_of_ne hc, ← ih]
      rfl

theorem head?_feedLines (text : Text) :
    (feedLines text).head? = some (text.takeWhile (· != '\n')) := by
  induction text with
  | nil => rfl
  | cons c text ih =>
    by_cases hc : c = '\n'
    · subst hc
      rw [feedLines_feed]
      rfl
    · obtain ⟨line, lines, hlines⟩ := List.exists_cons_of_ne_nil (feedLines_ne_nil text)
      rw [hlines, List.head?_cons] at ih
      rw [feedLines_cons hc hlines, List.head?_cons, Option.some.inj ih,
        List.takeWhile_cons_of_pos (by simpa using hc)]

/-- The line around a place. -/
theorem feedLines_getElem?_count (before after : Text) :
    (feedLines (before ++ after))[before.count '\n']? =
      some (before.rtakeWhile (· != '\n') ++ after.takeWhile (· != '\n')) := by
  by_cases hfeed : '\n' ∈ before
  · obtain ⟨above, line, rfl, hline⟩ := exists_last_occurrence hfeed
    have hcount : (above ++ '\n' :: line).count '\n' = (feedLines above).length := by
      rw [length_feedLines, List.count_append, List.count_cons_self,
        List.count_eq_zero_of_not_mem hline]
    have hbefore : (above ++ '\n' :: line).rtakeWhile (· != '\n') = line := by
      rw [List.append_cons, rtakeWhile_append _ hline]
      simp
    rw [hcount, hbefore, List.append_assoc, List.cons_append, feedLines_append_feed,
      List.getElem?_append_right (Nat.le_refl _), Nat.sub_self, ← List.head?_eq_getElem?,
      head?_feedLines, List.takeWhile_append_of_pos (bne_of_not_mem hline)]
  · have hbefore : before.rtakeWhile (· != '\n') = before :=
      List.rtakeWhile_eq_self_iff.2 (bne_of_not_mem hfeed)
    rw [List.count_eq_zero_of_not_mem hfeed, hbefore, ← List.head?_eq_getElem?, head?_feedLines,
      List.takeWhile_append_of_pos (bne_of_not_mem hfeed)]

end LispLex
