-- SUMMARY: Runs of sources that differ in their blanks.
import LispLex.Proofs.Run.Relocation
import LispLex.Proofs.Token.Scanner

/-!
# Blanks spelled otherwise

Where blanks are rewritten in a way that no standard rule notices, a run takes the same tokens and
fails in the same way as before, at the places that the rewriting moves everything to.
-/

namespace LispLex

theorem flatMap_eq_self {spell : Char → Text} {text : Text} (h : ∀ c ∈ text, spell c = [c]) :
    text.flatMap spell = text := by
  induction text with
  | nil => rfl
  | cons c text ih =>
    obtain ⟨hc, htext⟩ := List.forall_mem_cons.1 h
    rw [List.flatMap_cons, hc, ih htext, List.singleton_append]

/-- In the source `spell` rewrites blanks only, every kind takes the same as before, and `move` says
where the places of the source come to stand. -/
structure Respells (spell : Char → Text) (move : Position → Position) (source : Text) : Prop where
  blank : ∀ c, isBlank c = true → ∀ d ∈ spell c, isBlank d = true
  other : ∀ c, isBlank c = false → spell c = [c]
  scan : ∀ passed rest, source = passed ++ rest → ∀ kind : Kind,
    kind.scan? (rest.flatMap spell) = kind.scan? rest
  raw : ∀ passed rest, source = passed ++ rest → ∀ (kind : Kind) raw, kind.scan? rest = some raw →
    raw.flatMap spell = raw
  place : ∀ passed rest, source = passed ++ rest →
    move (.after passed) = .after (passed.flatMap spell)

namespace Respells

variable {spell : Char → Text} {move : Position → Position} {source passed rest : Text}

theorem cons (h : Respells spell move source) {c : Char} (hc : isBlank c = false) (text : Text) :
    (c :: text).flatMap spell = c :: text.flatMap spell := by
  rw [List.flatMap_cons, h.other c hc, List.singleton_append]

theorem blankRun {blanks : Text} (h : Respells spell move source) (hrun : BlankRun blanks rest) :
    BlankRun (blanks.flatMap spell) (rest.flatMap spell) where
  all_blank c hc := by
    obtain ⟨d, hd, hc⟩ := List.mem_flatMap.1 hc
    exact h.blank d (hrun.all_blank d hd) c hc
  ends := by
    cases rest with
    | nil => simp
    | cons c rest =>
      rw [h.cons (hrun.ends c rfl)]
      exact hrun.ends

/-- A table of standard rules decides as before. -/
theorem firstMatch? (h : Respells spell move source) (hsource : source = passed ++ rest)
    (kinds : List Kind) :
    firstMatch? (kinds.map .standard) (rest.flatMap spell) =
      LispLex.firstMatch? (kinds.map .standard) rest :=
  firstMatch?_standard_congr kinds (h.scan passed rest hsource)

theorem firstRule {kinds : List Kind} {kind : Kind} {raw : Text} (h : Respells spell move source)
    (hsource : source = passed ++ rest) (hfirst : FirstRule (kinds.map .standard) rest kind raw) :
    FirstRule (kinds.map .standard) (rest.flatMap spell) kind raw := by
  rw [← firstMatch?_eq_some_iff, h.firstMatch? hsource]
  exact firstMatch?_eq_some_iff.2 hfirst

theorem noRule {kinds : List Kind} (h : Respells spell move source)
    (hsource : source = passed ++ rest)
    (hnone : ∀ rule ∈ kinds.map Rule.standard, rule.match? rest = none) :
    ∀ rule ∈ kinds.map Rule.standard, rule.match? (rest.flatMap spell) = none := by
  rw [← firstMatch?_eq_none_iff, h.firstMatch? hsource]
  exact firstMatch?_eq_none_iff.2 hnone

end Respells

namespace Lexer

variable {lexer : Lexer} {kinds : List Kind} {spell : Char → Text} {move : Position → Position}
  {source passed rest : Text} {tokens : List Token}

/-- What is cut into tokens is cut into the same ones. What is rewritten lies among the blanks. -/
theorem Cut.respell (hrules : lexer.rules = kinds.map .standard)
    (hspells : Respells spell move source) (h : lexer.Cut passed rest tokens)
    (hsource : source = passed ++ rest) :
    lexer.Cut (passed.flatMap spell) (rest.flatMap spell) (tokens.map (Token.relocate move)) := by
  induction h with
  | blanks ends => exact .blanks (hspells.blankRun ends)
  | @token passed raw blanks rest tokens kind value before first nonempty value_eq ends ih =>
    have hstart : source = passed ++ (raw ++ (blanks ++ rest)) := by
      rw [hsource]
      simp only [List.append_assoc]
    have hstop : source = (passed ++ raw) ++ (blanks ++ rest) := by
      rw [hsource]
      simp only [List.append_assoc]
    rw [hrules] at first
    have hraw := hspells.raw _ _ hstart kind raw first.of_standard.2
    have hfirst := hspells.firstRule hstart first
    have hcut := ih hstart
    rw [List.flatMap_append, hraw, List.flatMap_append] at hfirst hcut
    rw [← hrules] at hfirst
    have hlast := hcut.token hfirst nonempty value_eq (hspells.blankRun ends)
    have hbefore := hspells.place _ _ hstart
    have hbehind := hspells.place _ _ hstop
    rw [List.flatMap_append, hraw] at hbehind
    simpa only [List.flatMap_append, hraw, List.map_append, List.map_cons, List.map_nil,
      Token.relocate, Option.map_some, Span.relocate, hbefore, hbehind] using hlast

theorem Reaches.respell (hrules : lexer.rules = kinds.map .standard)
    (hspells : Respells spell move source) {c : Char}
    (h : lexer.Reaches source passed c rest tokens) :
    lexer.Reaches (source.flatMap spell) (passed.flatMap spell) c (rest.flatMap spell)
      (tokens.map (Token.relocate move)) where
  source_eq := by rw [h.source_eq, List.flatMap_append, hspells.cons h.notBlank]
  cut := by
    rw [← hspells.cons h.notBlank]
    exact h.cut.respell hrules hspells h.source_eq
  notBlank := h.notBlank

/-- How an outcome compares to the one before the rewriting. Of a fault, only what is shown of the
input may differ. -/
inductive Respelled (move : Position → Position) : (plain respelled : Outcome) → Prop
  | finished (tokens : List Token) :
      Respelled move (.ok tokens) (.ok (tokens.map (Token.relocate move)))
  | unmatched (position : Position) (snippet shown : Text) (committed : List Token) :
      Respelled move (.error (.unmatched position snippet committed))
        (.error (.unmatched (move position) shown (committed.map (Token.relocate move))))
  | overflow (position : Position) (literal : Text) (ceiling : Option Int) :
      Respelled move (.error (.overflow position literal ceiling))
        (.error (.overflow (move position) literal ceiling))
  | invalid (cause : InvalidValue) :
      Respelled move (.error (.invalid cause)) (.error (.invalid cause))

theorem respelled_run (hrules : lexer.rules = kinds.map .standard)
    (hspells : Respells spell move source) :
    Respelled move (lexer.run source) (lexer.run (source.flatMap spell)) := by
  have hends := lexer.run_ends source
  generalize lexer.run source = outcome at hends
  cases hends with
  | @finished tokens cut =>
    have hcut := cut.respell hrules hspells (List.append_nil source).symm
    rw [(Ends.finished hcut).run_eq]
    exact .finished tokens
  | @unmatched passed rest c tokens reaches norule =>
    have hreaches := reaches.respell hrules hspells
    rw [hrules] at norule
    have hnorule := hspells.noRule reaches.source_eq norule
    rw [← hrules, hspells.cons reaches.notBlank] at hnorule
    rw [(Ends.unmatched hreaches hnorule).run_eq, ← hspells.place _ _ reaches.source_eq]
    exact .unmatched _ _ _ _
  | @refused passed rest raw c tokens kind fault reaches first value_eq =>
    have hreaches := reaches.respell hrules hspells
    rw [hrules] at first
    have hfirst := hspells.firstRule reaches.source_eq first
    rw [← hrules, hspells.cons reaches.notBlank] at hfirst
    rw [(Ends.refused hreaches hfirst value_eq).run_eq, ← hspells.place _ _ reaches.source_eq]
    cases fault with
    | overflow => exact .overflow _ _ _
    | invalid => exact .invalid _

end Lexer

end LispLex
