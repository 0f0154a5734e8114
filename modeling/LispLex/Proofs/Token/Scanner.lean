-- SUMMARY: Scanners for the standard patterns and their agreement with the matcher.
import LispLex.Proofs.Pattern.Greedy
import LispLex.Proofs.Run.Equations

/-!
# Direct scanners for the standard patterns

What the standard patterns compute, without a matcher: one fixed character, the longest run of
digits or letters, or all from a quote to the last quote on the line. The first character decides
which kind it can be, so in a table of standard rules the order does not matter.
-/

namespace LispLex

/-- The text from the start on that satisfies `test`, if there is any. -/
def leading? (test : Char → Bool) (rest : Text) : Option Text :=
  if rest.takeWhile test = [] then none else some (rest.takeWhile test)

/-- From a quote at the start to the last quote on the line, if there is another one on it. -/
def quotedStretch? : Text → Option Text
  | [] => none
  | c :: rest =>
    let line := rest.takeWhile (· != '\n')
    if c = '"' ∧ '"' ∈ line then some (c :: line.rdropWhile (· != '"')) else none

/-! ## What is scanned -/

theorem leading?_append {test : Char → Bool} {raw rest : Text} (hne : raw ≠ [])
    (hall : ∀ c ∈ raw, test c = true) (hends : ∀ c ∈ rest.head?, test c = false) :
    leading? test (raw ++ rest) = some raw := by
  rw [leading?, takeWhile_append_of_head hall hends]
  exact if_neg hne

theorem leading?_eq_some {test : Char → Bool} {text raw : Text}
    (h : leading? test text = some raw) : raw = text.takeWhile test ∧ raw ≠ [] := by
  unfold leading? at h
  split at h
  · cases h
  · next hne =>
    cases h
    exact ⟨rfl, hne⟩

theorem leading?_all {test : Char → Bool} {text raw : Text} (h : leading? test text = some raw) :
    ∀ c ∈ raw, test c = true := by
  obtain ⟨rfl, -⟩ := leading?_eq_some h
  exact List.all_eq_true.1 List.all_takeWhile

theorem leading?_ends {test : Char → Bool} {raw rest : Text}
    (h : leading? test (raw ++ rest) = some raw) : ∀ c ∈ rest.head?, test c = false := by
  obtain ⟨hraw, -⟩ := leading?_eq_some h
  rw [List.takeWhile_append_of_pos (leading?_all h), List.self_eq_append_right] at hraw
  intro c hc
  cases rest with
  | nil => cases hc
  | cons d rest =>
    cases hc
    by_contra htest
    rw [List.takeWhile_cons_of_pos (by simpa using htest)] at hraw
    cases hraw

theorem leading?_first {test : Char → Bool} {c : Char} {rest raw : Text}
    (h : leading? test (c :: rest) = some raw) : test c = true := by
  obtain ⟨rfl, hne⟩ := leading?_eq_some h
  by_contra hc
  exact hne (List.takeWhile_cons_of_neg hc)

theorem leading?_append_of_stop {test : Char → Bool} {c : Char} (hc : test c = false)
    (text rest : Text) : leading? test (text ++ c :: rest) = leading? test text := by
  rw [leading?, leading?, takeWhile_append_of_stop hc]

theorem quotedStretch?_append_feed (text rest : Text) :
    quotedStretch? (text ++ '\n' :: rest) = quotedStretch? text := by
  cases text with
  | nil => rfl
  | cons c text =>
    have hline : (text ++ '\n' :: rest).takeWhile (· != '\n') = text.takeWhile (· != '\n') :=
      takeWhile_append_of_stop rfl text rest
    simp only [List.cons_append, quotedStretch?, hline]

theorem quotedStretch?_append {body rest : Text} (hbody : '\n' ∉ body)
    (hrest : '"' ∉ rest.takeWhile (· != '\n')) :
    quotedStretch? ('"' :: (body ++ '"' :: rest)) = some ('"' :: (body ++ ['"'])) := by
  have hline : (body ++ '"' :: rest).takeWhile (· != '\n') =
      body ++ '"' :: rest.takeWhile (· != '\n') := by
    rw [List.takeWhile_append_of_pos (bne_of_not_mem hbody)]
    rfl
  simp [quotedStretch?, hline, rdropWhile_append_last body hrest]

theorem quotedStretch?_eq_some {text raw : Text} (h : quotedStretch? text = some raw) :
    ∃ body rest, text = '"' :: (body ++ '"' :: rest) ∧ raw = '"' :: (body ++ ['"']) ∧
      '\n' ∉ body ∧ '"' ∉ rest.takeWhile (· != '\n') := by
  cases text with
  | nil => cases h
  | cons c text =>
    simp only [quotedStretch?] at h
    split at h
    · next hquote =>
      obtain ⟨rfl, hmem⟩ := hquote
      obtain ⟨body, after, hline, hafter⟩ := exists_last_occurrence hmem
      have hfeeds : ∀ d ∈ body ++ '"' :: after, (d != '\n') = true := by
        rw [← hline]
        exact List.all_eq_true.1 List.all_takeWhile
      have hrest : (after ++ text.dropWhile (· != '\n')).takeWhile (· != '\n') = after :=
        takeWhile_append_of_head (fun d hd => hfeeds d (by simp [hd])) (head_dropWhile_not _ text)
      refine ⟨body, after ++ text.dropWhile (· != '\n'), ?_, ?_, ?_, by rwa [hrest]⟩
      · have htext : (body ++ '"' :: after) ++ text.dropWhile (· != '\n') = text := by
          rw [← hline, List.takeWhile_append_dropWhile]
        rw [List.append_assoc, List.cons_append] at htext
        rw [htext]
      · rw [hline, rdropWhile_append_last body hafter] at h
        exact (Option.some.inj h).symm
      · intro hfeed
        have := hfeeds '\n' (by simp [hfeed])
        simp at this
    · cases h

theorem quotedStretch?_append_return {line : Text} (h : '\n' ∉ line) :
    quotedStretch? (line ++ ['\r']) = quotedStretch? line := by
  cases line with
  | nil => rfl
  | cons c line =>
    have hfeeds := bne_of_not_mem (mt (List.mem_cons_of_mem c) h)
    have hline : line.takeWhile (· != '\n') = line := List.takeWhile_eq_self_iff.2 hfeeds
    have hreturn : (line ++ ['\r']).takeWhile (· != '\n') = line ++ ['\r'] := by
      rw [List.takeWhile_append_of_pos hfeeds]
      rfl
    simp [quotedStretch?, hline, hreturn]

theorem lone_of_quotedStretch? {rest : Text} (h : quotedStretch? ('"' :: rest) = none) :
    '"' ∉ rest.takeWhile (· != '\n') := by
  intro hmem
  simp only [quotedStretch?, hmem, and_self, if_true] at h
  cases h

namespace Kind

/-- The one character of a kind that has only one text. -/
def mark? : Kind → Option Char
  | leftParen => some '('
  | rightParen => some ')'
  | leftBracket => some '['
  | rightBracket => some ']'
  | comma => some ','
  | add => some '+'
  | divide => some '/'
  | number | string | identifier => none

/-- What a token of the kind takes from the start of a text. -/
def scan? : Kind → Text → Option Text
  | number, rest => leading? isAsciiDigit rest
  | identifier, rest => leading? Char.isAlpha rest
  | string, rest => quotedStretch? rest
  | kind, rest => kind.mark?.bind fun c => if rest.head? = some c then some [c] else none

theorem scan?_mark_iff {kind : Kind} {c : Char} (hmark : kind.mark? = some c) {text raw : Text} :
    kind.scan? text = some raw ↔ text.head? = some c ∧ raw = [c] := by
  have hscan : kind.scan? text = if text.head? = some c then some [c] else none := by
    cases kind <;> cases hmark <;> rfl
  rw [hscan]
  by_cases hhead : text.head? = some c
  · simp [hhead, eq_comm]
  · simp [hhead]

/-! ## The standard patterns -/

theorem match?_charExpr (source : Text) (c : Char) (rest : Text) :
    Pattern.match? ⟨source, charExpr c⟩ rest = if rest.head? = some c then some [c] else none := by
  cases rest with
  | nil => rfl
  | cons d rest =>
    by_cases hd : d = c
    · subst hd
      simp [Pattern.match?, charExpr, Expr.run, Place.ofText, Place.next?_cons,
        CharClass.single_contains]
    · simp [Pattern.match?, charExpr, Expr.run, Place.ofText, Place.next?_cons,
        CharClass.single_contains, hd]

theorem match?_leading (source : Text) (cls : CharClass) (rest : Text) :
    Pattern.match? ⟨source, .rep (.one cls) 1 none true⟩ rest = leading? cls.contains rest := by
  cases rest with
  | nil => rfl
  | cons c rest =>
    by_cases hc : cls.contains c
    · simp [Pattern.match?, Place.ofText, Expr.run_some, greedily_some, leading?, hc]
    · simp [Pattern.match?, Place.ofText, Expr.run_some, leading?, hc]

theorem match?_quotedStretch (source : Text) (cls : CharClass)
    (hcls : cls.contains = (· != '\n')) (rest : Text) :
    Pattern.match? ⟨source, .seq (charExpr '"') (.seq (.rep (.one cls) 0 none true) (charExpr '"'))⟩
      rest = quotedStretch? rest := by
  cases rest with
  | nil => rfl
  | cons c rest =>
    have hrun : (Expr.seq (charExpr '"')
        (.seq (.rep (.one cls) 0 none true) (charExpr '"'))).run (.ofText (c :: rest)) some =
          if c = '"' then
            greedily (· != '\n') (fun place => place.next? (· == '"')) [] [c] rest
          else none := by
      change (Place.next? ⟨[], c :: rest, []⟩ (CharClass.single '"' false).contains).bind
        (fun after => (Expr.rep (.one cls) 0 none true).run after
          fun last => (last.next? (CharClass.single '"' false).contains).bind some) = _
      simp only [CharClass.single_contains, Place.next?_cons]
      by_cases hc : c = '"'
      · simp [hc, Expr.run_any, hcls]
      · simp [hc]
    simp only [Pattern.match?, hrun, quotedStretch?]
    by_cases hc : c = '"'
    · subst hc
      have hlast : Option.map _ (greedily (· != '\n') (fun place => place.next? (· == '"')) []
          ['"'] rest) = _ := greedily_char rfl [] ['"'] rest
      by_cases hmem : '"' ∈ rest.takeWhile (· != '\n')
      · simp only [hmem, if_true] at hlast
        obtain ⟨found, hfound, hpassed⟩ := Option.map_eq_some_iff.1 hlast
        simp [hmem, hfound, hpassed]
      · simp only [hmem, if_false, Option.map_eq_none_iff] at hlast
        simp [hmem, hlast]
    · simp [hc]

theorem isAsciiDigit_iff (c : Char) : isAsciiDigit c = true ↔ '0' ≤ c ∧ c ≤ '9' := by
  simp only [isAsciiDigit, asciiDigit?]
  split <;> simp_all

theorem isAsciiDigit_eq : (⟨[.range '0' '9'], false, false⟩ : CharClass).contains = isAsciiDigit := by
  funext c
  rw [Bool.eq_iff_iff, isAsciiDigit_iff]
  simp [CharClass.contains, ClassItem.contains]

theorem isAlpha_iff (c : Char) :
    c.isAlpha = true ↔ 'A' ≤ c ∧ c ≤ 'Z' ∨ 'a' ≤ c ∧ c ≤ 'z' := by
  have hcases : c.isAlpha = (decide ('A' ≤ c ∧ c ≤ 'Z') || (decide ('a' ≤ c) && decide (c ≤ 'z'))) :=
    rfl
  simp only [hcases, Bool.or_eq_true, Bool.and_eq_true, decide_eq_true_eq]

theorem isAlpha_eq :
    (⟨[.range 'A' 'Z', .range 'a' 'z'], false, false⟩ : CharClass).contains = Char.isAlpha := by
  funext c
  rw [Bool.eq_iff_iff, isAlpha_iff]
  simp [CharClass.contains, ClassItem.contains]

/-- Matching with the standard pattern of a kind is scanning for it. -/
theorem match?_pattern (kind : Kind) (rest : Text) : kind.pattern.match? rest = kind.scan? rest := by
  cases kind with
  | number => exact (match?_leading _ _ rest).trans (by rw [isAsciiDigit_eq]; rfl)
  | identifier => exact (match?_leading _ _ rest).trans (by rw [isAlpha_eq]; rfl)
  | string => exact match?_quotedStretch _ _ (CharClass.other_contains '\n') rest
  | leftParen | rightParen | leftBracket | rightBracket | comma | add | divide =>
    exact match?_charExpr _ _ rest

theorem scan?_isPrefix {kind : Kind} {rest raw : Text} (h : kind.scan? rest = some raw) :
    raw <+: rest := by
  rw [← match?_pattern] at h
  exact Pattern.match?_prefix h

/-! ## The first character decides -/

/-- The kind whose tokens start with the character. -/
def ofFirst? (c : Char) : Option Kind :=
  match c with
  | '(' => some leftParen
  | ')' => some rightParen
  | '[' => some leftBracket
  | ']' => some rightBracket
  | ',' => some comma
  | '+' => some add
  | '/' => some divide
  | '"' => some string
  | c => if isAsciiDigit c then some number else if c.isAlpha then some identifier else none

theorem ofFirst?_digit {c : Char} (hc : isAsciiDigit c = true) : ofFirst? c = some number := by
  unfold ofFirst?
  split <;> simp_all +decide

theorem isAlpha_not_digit {c : Char} (hc : c.isAlpha = true) : isAsciiDigit c = false := by
  rw [isAlpha_iff] at hc
  rw [Bool.eq_false_iff, ne_eq, isAsciiDigit_iff]
  simp only [Char.le_def, UInt32.le_iff_toNat_le] at hc ⊢
  have h9 : '9'.val.toNat = 57 := rfl
  have hA : 'A'.val.toNat = 65 := rfl
  have ha : 'a'.val.toNat = 97 := rfl
  omega

theorem ofFirst?_letter {c : Char} (hc : c.isAlpha = true) : ofFirst? c = some identifier := by
  have hdigit := isAlpha_not_digit hc
  unfold ofFirst?
  split <;> simp_all +decide

theorem ofFirst?_of_scan? {kind : Kind} {c : Char} {rest raw : Text}
    (h : kind.scan? (c :: rest) = some raw) : ofFirst? c = some kind := by
  cases kind with
  | number => exact ofFirst?_digit (leading?_first h)
  | identifier => exact ofFirst?_letter (leading?_first h)
  | string =>
    simp only [scan?, quotedStretch?] at h
    split at h
    · next hquote => exact hquote.1 ▸ rfl
    · cases h
  | leftParen | rightParen | leftBracket | rightBracket | comma | add | divide =>
    obtain ⟨hc, -⟩ := (scan?_mark_iff rfl).1 h
    cases hc
    rfl

@[simp] theorem scan?_nil (kind : Kind) : kind.scan? [] = none := by
  cases kind <;> rfl

/-- At most one kind takes something from a text. -/
theorem scan?_unique {kind other : Kind} {rest raw otherRaw : Text}
    (h : kind.scan? rest = some raw) (hother : other.scan? rest = some otherRaw) : kind = other := by
  cases rest with
  | nil => simp at h
  | cons c rest =>
    have hkind := (ofFirst?_of_scan? h).symm.trans (ofFirst?_of_scan? hother)
    exact Option.some.inj hkind

/-- No kind looks beyond a line feed. -/
theorem scan?_append_feed (kind : Kind) (text rest : Text) :
    kind.scan? (text ++ '\n' :: rest) = kind.scan? text := by
  cases kind with
  | number => exact leading?_append_of_stop rfl text rest
  | identifier => exact leading?_append_of_stop rfl text rest
  | string => exact quotedStretch?_append_feed text rest
  | leftParen | rightParen | leftBracket | rightBracket | comma | add | divide =>
    cases text <;> rfl

theorem scan?_line (kind : Kind) (text : Text) :
    kind.scan? (text.takeWhile (· != '\n')) = kind.scan? text := by
  have htext : text.takeWhile (· != '\n') ++ text.dropWhile (· != '\n') = text :=
    List.takeWhile_append_dropWhile
  cases hrest : text.dropWhile (· != '\n') with
  | nil =>
    rw [hrest, List.append_nil] at htext
    rw [htext]
  | cons c rest =>
    have hfeed := head_dropWhile_not (· != '\n') text c (by rw [hrest]; rfl)
    obtain rfl : c = '\n' := by simpa using hfeed
    rw [hrest] at htext
    rw [← htext, scan?_append_feed, htext]

theorem scan?_append_return (kind : Kind) {line : Text} (h : '\n' ∉ line) :
    kind.scan? (line ++ ['\r']) = kind.scan? line := by
  cases kind with
  | number => exact leading?_append_of_stop rfl line []
  | identifier => exact leading?_append_of_stop rfl line []
  | string => exact quotedStretch?_append_return h
  | leftParen | rightParen | leftBracket | rightBracket | comma | add | divide =>
    cases line <;> rfl

/-- No kind takes a carriage return at the end of a line, so it makes no difference. -/
theorem scan?_of_line_return (kind : Kind) {text other : Text}
    (h : text.takeWhile (· != '\n') = other.takeWhile (· != '\n') ∨
      text.takeWhile (· != '\n') = other.takeWhile (· != '\n') ++ ['\r']) :
    kind.scan? text = kind.scan? other := by
  rw [← scan?_line kind text, ← scan?_line kind other]
  rcases h with h | h
  · rw [h]
  · have hfeed : '\n' ∉ other.takeWhile (· != '\n') := fun hmem => by
      simpa using List.mem_takeWhile_imp hmem
    rw [h, scan?_append_return kind hfeed]

/-- No kind takes a line feed. -/
theorem feed_not_mem_of_scan? {kind : Kind} {text raw : Text} (h : kind.scan? text = some raw) :
    '\n' ∉ raw := by
  intro hfeed
  cases kind with
  | number => cases leading?_all h _ hfeed
  | identifier => cases leading?_all h _ hfeed
  | string =>
    obtain ⟨body, rest, -, rfl, hbody, -⟩ := quotedStretch?_eq_some h
    simp [hbody] at hfeed
  | leftParen | rightParen | leftBracket | rightBracket | comma | add | divide =>
    obtain ⟨-, rfl⟩ := (scan?_mark_iff rfl).1 h
    simp at hfeed

end Kind

/-! ## Tables of standard rules -/

theorem Rule.match?_standard (kind : Kind) (rest : Text) :
    (standard kind).match? rest = kind.scan? rest :=
  Kind.match?_pattern kind rest

theorem noRule_standard_iff {kinds : List Kind} {rest : Text} :
    (∀ rule ∈ kinds.map Rule.standard, rule.match? rest = none) ↔
      ∀ kind ∈ kinds, kind.scan? rest = none := by
  simp [Rule.match?_standard]

theorem FirstRule.of_standard {kinds : List Kind} {rest raw : Text} {kind : Kind}
    (h : FirstRule (kinds.map Rule.standard) rest kind raw) :
    kind ∈ kinds ∧ kind.scan? rest = some raw := by
  obtain ⟨earlier, rule, later, hrules, -, hkind, hmatch⟩ := h
  have hmem : rule ∈ kinds.map Rule.standard := by simp [hrules]
  obtain ⟨found, hfound, rfl⟩ := List.mem_map.1 hmem
  cases hkind
  exact ⟨hfound, (Rule.match?_standard found rest).symm.trans hmatch⟩

/-- In a table of standard rules a text goes to the one kind that it can be of. -/
theorem firstRule_standard_iff {kinds : List Kind} {rest raw : Text} {kind : Kind} :
    FirstRule (kinds.map Rule.standard) rest kind raw ↔
      kind ∈ kinds ∧ kind.scan? rest = some raw := by
  refine ⟨FirstRule.of_standard, ?_⟩
  rintro ⟨hmem, hscan⟩
  cases hmatch : firstMatch? (kinds.map Rule.standard) rest with
  | none =>
    have hnone := noRule_standard_iff.1 (firstMatch?_eq_none_iff.1 hmatch) kind hmem
    rw [hscan] at hnone
    cases hnone
  | some found =>
    -- whichever rule is the first to match, its kind and its text are the only ones possible
    obtain ⟨other, otherRaw⟩ := found
    have hfirst := firstMatch?_eq_some_iff.1 hmatch
    obtain ⟨-, hother⟩ := hfirst.of_standard
    cases Kind.scan?_unique hscan hother
    cases hscan.symm.trans hother
    exact hfirst

/-- A table of standard rules decides alike on texts of which every kind takes the same. -/
theorem firstMatch?_standard_congr (kinds : List Kind) {text other : Text}
    (h : ∀ kind : Kind, kind.scan? text = kind.scan? other) :
    firstMatch? (kinds.map .standard) text = firstMatch? (kinds.map .standard) other := by
  simp only [firstMatch?, List.findSome?_map, Function.comp_def, Rule.match?_standard, h]

/-- What a table of standard rules decides on a line does not depend on the lines below. -/
theorem firstMatch?_append_feed (kinds : List Kind) (text rest : Text) :
    firstMatch? (kinds.map .standard) (text ++ '\n' :: rest) =
      firstMatch? (kinds.map .standard) text :=
  firstMatch?_standard_congr kinds fun kind => kind.scan?_append_feed text rest

end LispLex
