-- SUMMARY: Whatever a pattern takes is a first part of the text.
import LispLex.Run

/-!
# Matches are prefixes

Matching moves characters from the text ahead to the text passed and back, but it never changes the
text as a whole. So whatever a pattern takes, lookbehind and back-references included, is a
non-empty prefix of the text it was run on.
-/

namespace LispLex

namespace Place

/-- The text being matched: what is passed and what is left. -/
def whole (place : Place) : Text :=
  place.passed.reverse ++ place.rest

@[simp] theorem whole_ofText (text : Text) : (Place.ofText text).whole = text := rfl

@[simp] theorem whole_remember (place : Place) (index : Nat) (text : Text) :
    (place.remember index text).whole = place.whole := rfl

@[simp] theorem whole_groups (place : Place) (groups : List (Nat × Text)) :
    { place with groups := groups }.whole = place.whole := rfl

theorem whole_next? {place after : Place} {test : Char → Bool}
    (h : place.next? test = some after) : after.whole = place.whole := by
  simp only [next?] at h
  split at h
  · cases h
  · next c rest heq =>
    split at h <;> cases h
    simp [whole, heq]

theorem whole_pass? {place after : Place} {same : Char → Char → Bool} {text : Text}
    (h : place.pass? same text = some after) : after.whole = place.whole := by
  induction text generalizing place with
  | nil =>
    cases h
    rfl
  | cons c text ih =>
    simp only [pass?, Option.bind_eq_some_iff] at h
    obtain ⟨next, hnext, hpass⟩ := h
    exact (ih hpass).trans (whole_next? hnext)

end Place

/-! ## Continuations that keep the text -/

/-- From any place in `text` the continuation ends at a place in `text`. -/
def Continuation.Keeps (text : Text) (k : Continuation) : Prop :=
  ∀ place found, place.whole = text → k place = some found → found.whole = text

namespace Continuation

theorem keeps_some (text : Text) : Keeps text some := by
  intro place found hwhole h
  cases h
  exact hwhole

theorem Keeps.orElse {text : Text} {first second : Continuation}
    (hfirst : first.Keeps text) (hsecond : second.Keeps text) :
    Keeps text fun place => (first place).orElse fun _ => second place := by
  intro place found hwhole h
  cases hrun : first place with
  | some other =>
    simp only [hrun, Option.orElse_some, Option.some.injEq] at h
    subst h
    exact hfirst place other hwhole hrun
  | none =>
    simp only [hrun, Option.orElse_none] at h
    exact hsecond place found hwhole h

/-- Repetition keeps the text if its body does, whatever follows it. -/
theorem Keeps.repeatRounds {text : Text} {body : Place → Continuation → Option Place}
    {most : Option Nat} {greedy : Bool}
    (hbody : ∀ {k : Continuation}, k.Keeps text → Keeps text (body · k))
    (budget least done : Nat) (lastStart : Option Nat) {k : Continuation} (hk : k.Keeps text) :
    Keeps text (LispLex.repeatRounds body most greedy budget least done lastStart · k) := by
  induction budget generalizing least done lastStart with
  | zero => exact hk
  | succ budget ih =>
    cases least with
    | succ least => exact hbody (ih least (done + 1) lastStart)
    | zero =>
      -- an optional round remembers where it starts, so the round itself is taken place by place
      have hround : Keeps text fun place =>
          if most.all (done < ·) && lastStart != some place.passed.length then
            body place fun after => LispLex.repeatRounds body most greedy budget 0 (done + 1)
              (some place.passed.length) after k
          else none := by
        intro place found hwhole h
        dsimp only at h
        split at h
        · exact hbody (ih 0 (done + 1) (some place.passed.length)) place found hwhole h
        · cases h
      cases greedy with
      | true => exact hround.orElse hk
      | false => exact hk.orElse hround

end Continuation

/-! ## Expressions and patterns -/

open Continuation in
theorem Expr.run_keeps {text : Text} (expr : Expr) {k : Continuation} (hk : k.Keeps text) :
    Keeps text (expr.run · k) := by
  induction expr generalizing k with
  | empty => exact hk
  | one cls =>
    intro place found hwhole h
    simp only [Expr.run, Option.bind_eq_some_iff] at h
    obtain ⟨after, hnext, hrest⟩ := h
    exact hk after found ((Place.whole_next? hnext).trans hwhole) hrest
  | seq first second ihFirst ihSecond => exact ihFirst (ihSecond hk)
  | alt first second ihFirst ihSecond => exact (ihFirst hk).orElse (ihSecond hk)
  | rep body least most greedy ih =>
    intro place
    exact Keeps.repeatRounds ih (least + place.rest.length + 1) least 0 none hk place
  | group index body ih =>
    intro place found hwhole h
    refine ih (k := fun after => k (after.remember index (after.textSince place))) ?_
      place found hwhole h
    intro after found hafter hrest
    exact hk (after.remember index (after.textSince place)) found hafter hrest
  | again index ignoreCase =>
    intro place found hwhole h
    simp only [Expr.run, Option.bind_eq_some_iff] at h
    obtain ⟨remembered, -, after, hpass, hrest⟩ := h
    exact hk after found ((Place.whole_pass? hpass).trans hwhole) hrest
  | anchor condition =>
    intro place found hwhole h
    simp only [Expr.run] at h
    split at h
    · exact hk place found hwhole h
    · cases h
  | ahead body negated ih =>
    intro place found hwhole h
    simp only [Expr.run] at h
    split at h
    · next inner _ => exact hk { place with groups := inner.groups } found hwhole h
    · exact hk place found hwhole h
    · cases h
  | behind body width negated ih =>
    intro place found hwhole h
    simp only [Expr.run] at h
    split at h
    · next inner _ => exact hk { place with groups := inner.groups } found hwhole h
    · exact hk place found hwhole h
    · cases h

/-- What a pattern takes stands at the start of the text. -/
theorem Pattern.match?_prefix {pattern : Pattern} {rest text : Text}
    (h : pattern.match? rest = some text) : text <+: rest := by
  simp only [Pattern.match?, Option.bind_eq_some_iff] at h
  obtain ⟨found, hrun, hfound⟩ := h
  have hwhole : found.whole = rest :=
    Expr.run_keeps pattern.expr (Continuation.keeps_some rest) _ found (Place.whole_ofText rest) hrun
  split at hfound
  · cases hfound
  · cases hfound
    exact ⟨found.rest, hwhole⟩

end LispLex
