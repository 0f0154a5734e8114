-- SUMMARY: Lemmas on longest stretches of characters and last occurrences.
import LispLex.Text
import Mathlib.Data.List.DropRight

/-!
# Stretches of texts

How far a run of characters of one sort goes, and where a character stands for the last time.
-/

namespace LispLex

variable {test : Char → Bool}

/-- A stretch is taken whole, and nothing else, if what follows does not continue it. -/
theorem takeWhile_append_of_head {stretch rest : Text} (hall : ∀ c ∈ stretch, test c = true)
    (hends : ∀ c ∈ rest.head?, test c = false) : (stretch ++ rest).takeWhile test = stretch := by
  rw [List.takeWhile_append_of_pos hall]
  cases rest with
  | nil => simp
  | cons c rest => simp [hends c rfl]

/-- A stretch at the start of a text is taken, and more if it goes on. -/
theorem isPrefix_takeWhile {stretch text : Text} (hpart : stretch <+: text)
    (hall : ∀ c ∈ stretch, test c = true) : stretch <+: text.takeWhile test := by
  obtain ⟨more, rfl⟩ := hpart
  rw [List.takeWhile_append_of_pos hall]
  exact List.prefix_append _ _

/-- Where a stretch ends can be told from the text alone. -/
theorem append_inj_of_stretch {stretch rest stretch' rest' : Text}
    (hall : ∀ c ∈ stretch, test c = true) (hends : ∀ c ∈ rest.head?, test c = false)
    (hall' : ∀ c ∈ stretch', test c = true) (hends' : ∀ c ∈ rest'.head?, test c = false)
    (heq : stretch ++ rest = stretch' ++ rest') : stretch = stretch' ∧ rest = rest' := by
  have hstretch := congrArg (List.takeWhile test) heq
  rw [takeWhile_append_of_head hall hends, takeWhile_append_of_head hall' hends'] at hstretch
  subst hstretch
  exact ⟨rfl, List.append_cancel_left heq⟩

/-- A stretch does not go beyond a character that fails the test. -/
theorem takeWhile_append_of_stop {c : Char} (hc : test c = false) (text rest : Text) :
    (text ++ c :: rest).takeWhile test = text.takeWhile test := by
  induction text with
  | nil => simp [hc]
  | cons d text ih =>
    cases hd : test d with
    | false => simp [hd]
    | true => simp [hd, ih]

/-- A stretch over two texts takes of the second one only if it takes the first one whole. -/
theorem mem_takeWhile_append {c : Char} {first second : Text} :
    c ∈ (first ++ second).takeWhile test ↔
      c ∈ first.takeWhile test ∨ (∀ d ∈ first, test d = true) ∧ c ∈ second.takeWhile test := by
  induction first with
  | nil => simp
  | cons d first ih =>
    cases hd : test d with
    | false => simp [hd]
    | true => simp [hd, ih, or_assoc]

theorem head_dropWhile_not (test : Char → Bool) (text : Text) :
    ∀ c ∈ (text.dropWhile test).head?, test c = false := by
  intro c hc
  have := List.head?_dropWhile_not test text
  rwa [Option.mem_def.1 hc] at this

theorem bne_of_not_mem {c : Char} {text : Text} (h : c ∉ text) : ∀ d ∈ text, (d != c) = true := by
  intro d hd
  rw [bne_iff_ne]
  exact fun heq => h (heq ▸ hd)

/-! ## Joined texts -/

/-- Joined texts are the first one and then every other one behind a separator. -/
theorem intercalate_cons (separator first : Text) (others : List Text) :
    separator.intercalate (first :: others) = first ++ others.flatMap (separator ++ ·) := by
  induction others generalizing first with
  | nil => simp
  | cons next others ih =>
    rw [List.intercalate_cons_cons, ih next, List.flatMap_cons, List.append_assoc, List.append_assoc]

/-! ## Last occurrences -/

/-- A text that has a character can be cut at its last occurrence. -/
theorem exists_last_occurrence {c : Char} {text : Text} (h : c ∈ text) :
    ∃ before after, text = before ++ c :: after ∧ c ∉ after := by
  obtain ⟨after, before, hreverse, hnot⟩ := List.eq_append_cons_of_mem (List.mem_reverse.2 h)
  refine ⟨before.reverse, after.reverse, ?_, by simpa using hnot⟩
  rw [← List.reverse_reverse text, hreverse]
  simp

theorem rdropWhile_append_last {c : Char} (before : Text) {after : Text} (h : c ∉ after) :
    (before ++ c :: after).rdropWhile (· != c) = before ++ [c] := by
  have hall := bne_of_not_mem (mt List.mem_reverse.1 h)
  simp [List.rdropWhile, List.dropWhile_append_of_pos hall]

theorem rtakeWhile_append {c : Char} (first : Text) {second : Text} (h : c ∉ second) :
    (first ++ second).rtakeWhile (· != c) = first.rtakeWhile (· != c) ++ second := by
  have hall := bne_of_not_mem (mt List.mem_reverse.1 h)
  simp [List.rtakeWhile, List.takeWhile_append_of_pos hall]

theorem rtakeWhile_append_of_mem {c : Char} (first : Text) {second : Text} (h : c ∈ second) :
    (first ++ second).rtakeWhile (· != c) = second.rtakeWhile (· != c) := by
  obtain ⟨before, after, rfl, hafter⟩ := exists_last_occurrence h
  have hall := bne_of_not_mem (mt List.mem_reverse.1 hafter)
  simp [List.rtakeWhile, List.takeWhile_append_of_pos hall]

end LispLex
