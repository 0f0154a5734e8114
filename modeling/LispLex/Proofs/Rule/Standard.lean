-- SUMMARY: What the standard rules take, without patterns, and that no two of them match.
import LispLex.Proofs.Run.Standard

/-!
# What the standard rules take

What each standard rule takes from the start of a text, said without the pattern and without a
scanner: the longest run of ASCII digits or letters, all up to the last quote on the line, or one
fixed character. No text is of interest to two of them.
-/

namespace LispLex

/-! ## Longest runs -/

/-- The longest start of the text whose characters all satisfy the condition, if it is not empty. -/
structure IsLongestStart (condition : Char → Prop) (rest raw : Text) : Prop where
  isPrefix : raw <+: rest
  ne_nil : raw ≠ []
  holds : ∀ c ∈ raw, condition c
  longest : ∀ other, other <+: rest → (∀ c ∈ other, condition c) → other.length ≤ raw.length

theorem leading?_eq_some_iff {test : Char → Bool} {condition : Char → Prop}
    (htest : ∀ c, test c = true ↔ condition c) {rest raw : Text} :
    leading? test rest = some raw ↔ IsLongestStart condition rest raw := by
  simp only [← funext fun c => propext (htest c)]
  constructor
  · intro h
    have hall := leading?_all h
    obtain ⟨rfl, hne⟩ := leading?_eq_some h
    refine ⟨List.takeWhile_prefix _, hne, hall, ?_⟩
    intro other hpart hother
    exact (isPrefix_takeWhile hpart hother).length_le
  · intro h
    have hle : (rest.takeWhile test).length ≤ raw.length :=
      h.longest _ (List.takeWhile_prefix _) (List.all_eq_true.1 List.all_takeWhile)
    obtain rfl := (isPrefix_takeWhile h.isPrefix h.holds).eq_of_length_le hle
    rw [leading?, if_neg h.ne_nil]

theorem leading?_eq_none_iff {test : Char → Bool} {condition : Char → Prop}
    (htest : ∀ c, test c = true ↔ condition c) {rest : Text} :
    leading? test rest = none ↔ ¬ ∃ c ∈ rest.head?, condition c := by
  cases rest with
  | nil => simp [leading?]
  | cons c rest => by_cases hc : test c = true <;> simp [leading?, hc, ← htest]

/-! ## Quoted stretches -/

theorem line_eq_quote_cons_iff {c : Char} {rest more : Text} :
    (c :: rest).takeWhile (· != '\n') = '"' :: more ↔
      c = '"' ∧ rest.takeWhile (· != '\n') = more := by
  by_cases hfeed : c = '\n'
  · simp [hfeed]
  · simp [hfeed]

theorem quotedStretch?_eq_some_iff {rest raw : Text} :
    quotedStretch? rest = some raw ↔
      ∃ body after, rest.takeWhile (· != '\n') = '"' :: (body ++ '"' :: after) ∧ '"' ∉ after ∧
        raw = '"' :: (body ++ ['"']) := by
  cases rest with
  | nil => simp [quotedStretch?]
  | cons c rest =>
    simp only [line_eq_quote_cons_iff, quotedStretch?]
    constructor
    · intro h
      split at h
      · next hquotes =>
        obtain ⟨rfl, hmem⟩ := hquotes
        obtain ⟨body, after, hline, hafter⟩ := exists_last_occurrence hmem
        rw [hline, rdropWhile_append_last body hafter] at h
        exact ⟨body, after, ⟨rfl, hline⟩, hafter, (Option.some.inj h).symm⟩
      · cases h
    · rintro ⟨body, after, ⟨rfl, hline⟩, hafter, rfl⟩
      simp [hline, rdropWhile_append_last body hafter]

theorem quotedStretch?_eq_none_iff {rest : Text} :
    quotedStretch? rest = none ↔
      ¬ ∃ more, rest.takeWhile (· != '\n') = '"' :: more ∧ '"' ∈ more := by
  cases rest with
  | nil => simp [quotedStretch?]
  | cons c rest => simp [line_eq_quote_cons_iff, quotedStretch?, and_assoc]

/-! ## Kinds -/

namespace Kind

/-- `raw` is what a token of the kind takes from the start of `rest`. The line of `rest` ends before
its first line feed. -/
def Takes : Kind → (rest raw : Text) → Prop
  | number, rest, raw => IsLongestStart (fun c => '0' ≤ c ∧ c ≤ '9') rest raw
  | identifier, rest, raw =>
    IsLongestStart (fun c => 'A' ≤ c ∧ c ≤ 'Z' ∨ 'a' ≤ c ∧ c ≤ 'z') rest raw
  | string, rest, raw =>
    ∃ body after, rest.takeWhile (· != '\n') = '"' :: (body ++ '"' :: after) ∧ '"' ∉ after ∧
      raw = '"' :: (body ++ ['"'])
  | kind, rest, raw => ∃ c, kind.mark? = some c ∧ rest.head? = some c ∧ raw = [c]

/-- A token of the kind stands at the start of `rest`. -/
def Starts : Kind → (rest : Text) → Prop
  | number, rest => ∃ c ∈ rest.head?, '0' ≤ c ∧ c ≤ '9'
  | identifier, rest => ∃ c ∈ rest.head?, 'A' ≤ c ∧ c ≤ 'Z' ∨ 'a' ≤ c ∧ c ≤ 'z'
  | string, rest => ∃ more, rest.takeWhile (· != '\n') = '"' :: more ∧ '"' ∈ more
  | kind, rest => ∃ c ∈ rest.head?, kind.mark? = some c

theorem scan?_eq_some_iff {kind : Kind} {rest raw : Text} :
    kind.scan? rest = some raw ↔ kind.Takes rest raw := by
  cases kind with
  | number => exact leading?_eq_some_iff isAsciiDigit_iff
  | identifier => exact leading?_eq_some_iff isAlpha_iff
  | string => exact quotedStretch?_eq_some_iff
  | leftParen | rightParen | leftBracket | rightBracket | comma | add | divide =>
    rw [scan?_mark_iff rfl]
    simp [Takes, mark?]

theorem scan?_eq_none_iff {kind : Kind} {rest : Text} :
    kind.scan? rest = none ↔ ¬ kind.Starts rest := by
  cases kind with
  | number => exact leading?_eq_none_iff isAsciiDigit_iff
  | identifier => exact leading?_eq_none_iff isAlpha_iff
  | string => exact quotedStretch?_eq_none_iff
  | leftParen | rightParen | leftBracket | rightBracket | comma | add | divide =>
    simp [scan?, Starts, mark?]

end Kind

/-! ## Rules -/

/-- The standard rules have the patterns that their written forms are read as. A rule takes exactly
what a token of its kind takes from the start of the text, and nothing exactly if no such token
stands there. At most one of them takes something. -/
theorem standardRules_take (rest : Text) :
    (∀ kind : Kind, Pattern.read {} kind.patternSource.toList = .ok (Rule.standard kind).pattern) ∧
    (∀ (kind : Kind) raw, (Rule.standard kind).match? rest = some raw ↔ kind.Takes rest raw) ∧
    (∀ kind : Kind, (Rule.standard kind).match? rest = none ↔ ¬ kind.Starts rest) ∧
    (∀ first ∈ standardRules, ∀ second ∈ standardRules,
      (first.match? rest).isSome → (second.match? rest).isSome → first = second) := by
  simp only [standardRules, List.forall_mem_map, Rule.match?_standard, Option.isSome_iff_exists]
  refine ⟨Kind.read_patternSource, fun _ _ => Kind.scan?_eq_some_iff,
    fun _ => Kind.scan?_eq_none_iff, ?_⟩
  rintro first - second - ⟨raw, hfirst⟩ ⟨other, hsecond⟩
  rw [Kind.scan?_unique hfirst hsecond]

/-- A string goes on behind a quote if another one is on the line. -/
example :
    (Rule.standard .string).match? "\"a\" b\" c\n\"".toList = some "\"a\" b\"".toList := by
  decide +kernel

end LispLex
