-- SUMMARY: The snippet of unmatched input for every length.
import LispLex.Proofs.Run.Relocation

/-!
# Snippets of unmatched input

What a fault shows of the input that no rule matches: the longest part of the line from there that is
not too long. With a negative length its end is counted from the ends of the source, and all that is
left of this is that it starts at the place and does not go beyond the line.
-/

namespace LispLex

namespace Cursor

variable {position : Position} {rest : Text} {length : Int}

theorem snippet_isPrefix (cursor : Cursor) (length : Int) : cursor.snippet length <+: cursor.rest :=
  (List.takeWhile_prefix _).trans (List.take_prefix _ _)

theorem feed_not_mem_snippet (cursor : Cursor) (length : Int) : '\n' ∉ cursor.snippet length := by
  intro hfeed
  have htest := List.all_eq_true.1 List.all_takeWhile _ hfeed
  simp at htest

theorem length_snippet_le (h : 0 ≤ length) : (snippet ⟨position, rest⟩ length).length ≤ length := by
  have hpart : snippet ⟨position, rest⟩ length <+: rest.take length.toNat := by
    rw [snippet_eq h]
    exact List.takeWhile_prefix _
  have hle := hpart.length_le.trans (List.length_take_le _ _)
  omega

/-- No other part of the line from here goes further without being too long. -/
theorem isPrefix_snippet {part : Text} (h : 0 ≤ length) (hpart : part <+: rest)
    (hfeed : '\n' ∉ part) (hlength : part.length ≤ length) :
    part <+: snippet ⟨position, rest⟩ length := by
  have htake : part <+: rest.take length.toNat :=
    List.prefix_take_iff.2 ⟨hpart, by omega⟩
  rw [snippet_eq h]
  exact isPrefix_takeWhile htake (bne_of_not_mem hfeed)

theorem head?_snippet {c : Char} (h : 1 ≤ length) (hc : isBlank c = false) :
    (snippet ⟨position, c :: rest⟩ length).head? = some c := by
  have hfeed : '\n' ≠ c := (ne_of_not_blank rfl hc).symm
  have hfirst : [c] <+: snippet ⟨position, c :: rest⟩ length := by
    apply isPrefix_snippet (by omega)
    · exact List.prefix_append [c] rest
    · simpa using hfeed
    · exact h
  obtain ⟨more, hmore⟩ := hfirst
  rw [← hmore]
  rfl

end Cursor

namespace Lexer

/-- The snippet of unmatched input is a part of the source from the place of the fault, without a line
feed. Up to a length that is not negative it is the longest such part; if it may be as long as one
character it starts with the one at the place, which is no blank. -/
theorem run_snippet {lexer : Lexer} {source snippet : Text} {position : Position}
    {committed : List Token}
    (h : lexer.run source = .error (.unmatched position snippet committed)) :
    snippet <+: source.drop position.offset ∧ '\n' ∉ snippet ∧
    (0 ≤ lexer.snippetLength →
      snippet.length ≤ lexer.snippetLength ∧
      ∀ part, part <+: source.drop position.offset → '\n' ∉ part →
        part.length ≤ lexer.snippetLength → part <+: snippet) ∧
    (1 ≤ lexer.snippetLength →
      ∃ c, source[position.offset]? = some c ∧ isBlank c = false ∧ snippet.head? = some c) := by
  have hends := lexer.run_ends source
  rw [h] at hends
  obtain ⟨passed, c, rest, tokens, hreaches, ⟨-, heq⟩ | ⟨_, _, fault, _, _, heq⟩⟩ :=
    hends.fault_cases
  · cases heq
    have hdrop : source.drop (Position.after passed).offset = c :: rest := by
      rw [hreaches.source_eq, Position.after_offset, List.drop_left]
    have hchar : source[(Position.after passed).offset]? = some c := by
      rw [← List.head?_drop, hdrop]
      rfl
    rw [hdrop]
    refine ⟨Cursor.snippet_isPrefix _ _, Cursor.feed_not_mem_snippet _ _, fun hlength => ?_,
      fun hlength => ?_⟩
    · exact ⟨Cursor.length_snippet_le hlength, fun _ => Cursor.isPrefix_snippet hlength⟩
    · exact ⟨c, hchar, hreaches.notBlank, Cursor.head?_snippet hlength hreaches.notBlank⟩
  · cases fault <;> cases heq

/-- Input that goes on behind its line: the snippet ends before the line feed. -/
theorem run_snippet_line :
    ({} : Lexer).run "a @b\nc".toList =
      .error (.unmatched ⟨1, 3, 2⟩ "@b".toList
        [⟨.identifier, some (.text ['a']), ['a'], some ⟨⟨1, 1, 0⟩, ⟨1, 2, 1⟩⟩⟩]) ∧
    "@b".toList <+: "@b\nc".toList ∧
    ∃ c, "a @b\nc".toList[2]? = some c ∧ isBlank c = false ∧ "@b".toList.head? = some c := by
  have hrun : ({} : Lexer).run "a @b\nc".toList =
      .error (.unmatched ⟨1, 3, 2⟩ "@b".toList
        [⟨.identifier, some (.text ['a']), ['a'], some ⟨⟨1, 1, 0⟩, ⟨1, 2, 1⟩⟩⟩]) := by
    decide +kernel
  obtain ⟨hpart, -, -, hfirst⟩ := run_snippet hrun
  exact ⟨hrun, hpart, hfirst (by decide)⟩

end Lexer

end LispLex
