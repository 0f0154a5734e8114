-- SUMMARY: Greedy repetition of a class as a plain scan.
import LispLex.Pattern.Match
import Mathlib.Data.List.DropRight

/-!
# Greedy repetition of a class

Greedy repetition of one character class passes all it can and then gives back one character at a
time until the rest of the pattern matches. The bound on the rounds never shows, and for the two
continuations that the standard patterns need the result is a plain scan.
-/

namespace LispLex

/-! ## Single characters -/

theorem CharClass.single_contains (c : Char) : (CharClass.single c false).contains = (· == c) := by
  funext other
  have heq : other = c ↔ c ≤ other ∧ other ≤ c :=
    ⟨fun h => by simp [h], fun h => Char.le_antisymm h.2 h.1⟩
  simp [contains, single, ClassItem.contains, Bool.beq_eq_decide_eq, heq]

theorem CharClass.other_contains (c : Char) :
    CharClass.contains ⟨[.range c c], true, false⟩ = (· != c) := by
  funext other
  have hsingle : (CharClass.single c false).contains other = (other == c) :=
    congrFun (single_contains c) other
  rw [show (other != c) = !(other == c) from rfl, ← hsingle]
  simp [contains, single]

theorem Place.next?_nil (passed : Text) (groups : List (Nat × Text)) (test : Char → Bool) :
    Place.next? ⟨passed, [], groups⟩ test = none := rfl

theorem Place.next?_cons (passed rest : Text) (groups : List (Nat × Text)) (c : Char)
    (test : Char → Bool) :
    Place.next? ⟨passed, c :: rest, groups⟩ test =
      if test c then some ⟨c :: passed, rest, groups⟩ else none := rfl

/-! ## Repetition -/

/-- Passes what satisfies `test`, then gives back one character at a time until `k` accepts. -/
def greedily (test : Char → Bool) (k : Continuation) (groups : List (Nat × Text)) :
    (passed rest : Text) → Option Place
  | passed, [] => k ⟨passed, [], groups⟩
  | passed, c :: rest =>
    if test c then
      (greedily test k groups (c :: passed) rest).orElse fun _ => k ⟨passed, c :: rest, groups⟩
    else k ⟨passed, c :: rest, groups⟩

theorem repeatRounds_greedily {test : Char → Bool} {k : Continuation} {groups : List (Nat × Text)}
    {passed rest : Text} {budget : Nat} (done : Nat) {lastStart : Option Nat}
    (hbudget : rest.length < budget) (hstart : lastStart ≠ some passed.length) :
    repeatRounds (fun place k => (place.next? test).bind k) none true budget 0 done lastStart
        ⟨passed, rest, groups⟩ k =
      greedily test k groups passed rest := by
  induction rest generalizing passed budget done lastStart with
  | nil =>
    cases budget with
    | zero => simp at hbudget
    | succ budget => simp [repeatRounds, greedily, Place.next?_nil, hstart]
  | cons c rest ih =>
    cases budget with
    | zero => simp at hbudget
    | succ budget =>
      have hrounds : repeatRounds (fun place k => (place.next? test).bind k) none true budget 0
          (done + 1) (some passed.length) ⟨c :: passed, rest, groups⟩ k =
            greedily test k groups (c :: passed) rest :=
        ih (done + 1) (by simpa using hbudget) (by simp)
      by_cases hc : test c
      · simp [repeatRounds, greedily, Place.next?_cons, hstart, hc, hrounds]
      · simp [repeatRounds, greedily, Place.next?_cons, hstart, hc]

theorem Expr.run_any (cls : CharClass) (k : Continuation) (groups : List (Nat × Text))
    (passed rest : Text) :
    (Expr.rep (.one cls) 0 none true).run ⟨passed, rest, groups⟩ k =
      greedily cls.contains k groups passed rest :=
  repeatRounds_greedily 0 (by simp) (by simp)

theorem Expr.run_some (cls : CharClass) (k : Continuation) (groups : List (Nat × Text)) (c : Char)
    (passed rest : Text) :
    (Expr.rep (.one cls) 1 none true).run ⟨passed, c :: rest, groups⟩ k =
      if cls.contains c then greedily cls.contains k groups (c :: passed) rest else none := by
  change (Place.next? ⟨passed, c :: rest, groups⟩ cls.contains).bind (fun after =>
    repeatRounds (Expr.one cls).run none true (1 + (rest.length + 1)) 0 1 none after k) = _
  by_cases hc : cls.contains c
  · simp only [Place.next?_cons, hc, if_true, Option.bind_some]
    exact repeatRounds_greedily 1 (by omega) (by simp)
  · simp [Place.next?_cons, hc]

/-- Nothing is given back if everything is accepted. -/
theorem greedily_some (test : Char → Bool) (groups : List (Nat × Text)) (passed rest : Text) :
    greedily test some groups passed rest =
      some ⟨(rest.takeWhile test).reverse ++ passed, rest.dropWhile test, groups⟩ := by
  induction rest generalizing passed with
  | nil => rfl
  | cons c rest ih =>
    by_cases hc : test c
    · simp [greedily, hc, ih]
    · simp [greedily, hc]

private theorem rdropWhile_cons (c last : Char) (text : Text) :
    (c :: text).rdropWhile (· != last) =
      if last ∈ text then c :: text.rdropWhile (· != last) else if c = last then [c] else [] := by
  have hempty : (text.reverse.dropWhile (· != last)).isEmpty = true ↔ last ∉ text := by
    simp only [List.isEmpty_iff, List.dropWhile_eq_nil_iff, List.mem_reverse, bne_iff_ne]
    exact ⟨fun h hmem => h last hmem rfl, fun h c hc heq => h (heq ▸ hc)⟩
  simp only [List.rdropWhile, List.reverse_cons, List.dropWhile_append, hempty]
  by_cases hmem : last ∈ text
  · simp [hmem]
  · by_cases hc : c = last
    · simp [hmem, hc]
    · simp [hmem, hc]

/-- If one certain character has to follow, all behind its last occurrence is given back. -/
theorem greedily_char {test : Char → Bool} {last : Char} (hlast : test last = true)
    (groups : List (Nat × Text)) (passed rest : Text) :
    (greedily test (fun place => place.next? (· == last)) groups passed rest).map (·.passed) =
      if last ∈ rest.takeWhile test then
        some (((rest.takeWhile test).rdropWhile (· != last)).reverse ++ passed)
      else none := by
  induction rest generalizing passed with
  | nil => simp [greedily, Place.next?_nil]
  | cons c rest ih =>
    by_cases hc : test c
    · have ih := ih (c :: passed)
      by_cases hmem : last ∈ rest.takeWhile test
      · simp only [hmem, if_true] at ih
        obtain ⟨found, hfound, hpassed⟩ := Option.map_eq_some_iff.1 ih
        simp [greedily, hc, hfound, hmem, rdropWhile_cons, hpassed]
      · simp only [hmem, if_false, Option.map_eq_none_iff] at ih
        by_cases heq : c = last
        · subst heq
          simp [greedily, Place.next?_cons, hc, ih, hmem, rdropWhile_cons]
        · simp [greedily, Place.next?_cons, hc, ih, hmem, heq, Ne.symm heq]
    · have hne : c ≠ last := fun heq => hc (heq ▸ hlast)
      simp [greedily, Place.next?_cons, hc, hne]

end LispLex
