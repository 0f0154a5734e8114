-- SUMMARY: JSON values are read back from their texts.
import LispLex.Proofs.Json.Scalars
import Mathlib.Algebra.BigOperators.Group.List.Basic
import Mathlib.Algebra.Order.BigOperators.Group.List

/-!
# Reading JSON texts back

Every value is read back from its text, whatever the level of indentation: the items between brackets
one after the other, up to the closing bracket, and in them values that are nested less deep.
-/

namespace LispLex.Json

/-! ## Texts with commas between them -/

theorem sum_length_le_intercalate (texts : List Text) :
    (texts.map List.length).sum ≤ ([','].intercalate texts).length := by
  induction texts with
  | nil => exact Nat.zero_le _
  | cons first texts ih =>
    cases texts with
    | nil => simp
    | cons next texts =>
      rw [List.intercalate_cons_cons, List.map_cons, List.sum_cons]
      simp only [List.length_append]
      omega

theorem length_le_intercalate {text : Text} {texts : List Text} (h : text ∈ texts) :
    text.length ≤ ([','].intercalate texts).length :=
  (List.le_sum_of_mem (List.mem_map_of_mem h)).trans (sum_length_le_intercalate texts)

theorem count_le_intercalate {texts : List Text} (h : ∀ text ∈ texts, text ≠ []) :
    texts.length ≤ ([','].intercalate texts).length := by
  have hone : ∀ length ∈ texts.map List.length, 1 ≤ length :=
    List.forall_mem_map.2 fun text hmem => List.length_pos_iff.2 (h text hmem)
  have hcount := List.length_le_sum_of_one_le _ hone
  rw [List.length_map] at hcount
  exact hcount.trans (sum_length_le_intercalate texts)

/-! ## Arrays and objects -/

/-- The brackets that end an array or an object. -/
def closingBrackets : Text :=
  [']', '\x7d']

/-- The text starts with neither layout nor a closing bracket. -/
def StartsItem (form : Text) : Prop :=
  ∃ c rest, form = c :: rest ∧ isLayout c = false ∧ c ∉ closingBrackets

/-- The item is read back from its text, whatever follows, as long as that does not go on with a
number. -/
structure ReadsBack {α : Type} (readItem? : Text → Option (α × Text)) (item : α) (form : Text) :
    Prop where
  starts : StartsItem form
  read : ∀ rest, EndsNumber rest → readItem? (form ++ rest) = some (item, rest)

theorem StartsItem.skipLayout_append {layout form : Text} (h : StartsItem form)
    (hlayout : ∀ c ∈ layout, isLayout c = true) (rest : Text) :
    skipLayout (layout ++ (form ++ rest)) = form ++ rest := by
  obtain ⟨c, tail, rfl, hc, -⟩ := h
  exact Json.skipLayout_append hlayout hc (tail ++ rest)

/-- What stands before an item, or before a closing bracket, on its own line. -/
def indentation (level : Nat) : Text :=
  '\n' :: spaces (2 * level)

theorem isLayout_of_mem_indentation (level : Nat) : ∀ c ∈ indentation level, isLayout c = true := by
  refine List.forall_mem_cons.2 ⟨rfl, fun c hc => ?_⟩
  rw [List.eq_of_mem_replicate hc]
  rfl

theorem endsNumber_indentation (level : Nat) (rest : Text) :
    EndsNumber (indentation level ++ rest) := by
  intro c hc
  cases hc
  decide

theorem block_of_ne_nil {texts : List Text} (h : texts ≠ []) (opening closing : Char)
    (depth : Nat) :
    block opening closing depth texts =
      opening :: ([','].intercalate (texts.map (indentation (depth + 1) ++ ·)) ++
        (indentation depth ++ [closing])) := by
  rw [block, if_neg (by simpa using h)]
  simp [indentation]

section Block

variable {α : Type} {readItem? : Text → Option (α × Text)} {form : α → Text} {closing : Char}

theorem readItems?_last {indent after rest : Text} {item : α} {budget : Nat}
    (hindent : ∀ c ∈ indent, isLayout c = true) (hitem : ReadsBack readItem? item (form item))
    (hends : EndsNumber after) (hafter : skipLayout after = closing :: rest) :
    readItems? readItem? closing (budget + 1) (indent ++ (form item ++ after)) =
      some ([item], rest) := by
  rw [readItems?, hitem.starts.skipLayout_append hindent, hitem.read after hends]
  simp [hafter]

theorem readItems?_more {indent rest : Text} {item : α} {items : List α} {budget : Nat}
    (hclosing : closing ≠ ',') (hindent : ∀ c ∈ indent, isLayout c = true)
    (hitem : ReadsBack readItem? item (form item)) {after : Text}
    (hmore : readItems? readItem? closing budget after = some (items, rest)) :
    readItems? readItem? closing (budget + 1) (indent ++ (form item ++ ',' :: after)) =
      some (item :: items, rest) := by
  have hcomma : skipLayout (',' :: after) = ',' :: after := rfl
  have hends : EndsNumber (',' :: after) := by
    intro c hc
    cases hc
    decide
  rw [readItems?, hitem.starts.skipLayout_append hindent, hitem.read _ hends]
  simp [hcomma, hclosing.symm, hmore]

theorem readItems?_intercalate {indent outdent rest : Text} {items : List α} {budget : Nat}
    (hclosing : closing ≠ ',') (hindent : ∀ c ∈ indent, isLayout c = true)
    (hitems : ∀ item ∈ items, ReadsBack readItem? item (form item)) (hne : items ≠ [])
    (hends : EndsNumber outdent) (hafter : skipLayout outdent = closing :: rest)
    (hbudget : items.length ≤ budget) :
    readItems? readItem? closing budget
      ([','].intercalate (items.map fun item => indent ++ form item) ++ outdent) =
        some (items, rest) := by
  induction items generalizing budget with
  | nil => exact absurd rfl hne
  | cons item items ih =>
    obtain ⟨hitem, hitems⟩ := List.forall_mem_cons.1 hitems
    cases budget with
    | zero => cases hbudget
    | succ budget =>
      cases items with
      | nil =>
        rw [List.map_singleton, List.intercalate_singleton, List.append_assoc]
        exact readItems?_last hindent hitem hends hafter
      | cons next items =>
        have hmore := ih hitems (List.cons_ne_nil next items) (Nat.le_of_succ_le_succ hbudget)
        rw [List.map_cons, List.map_cons, List.intercalate_cons_cons]
        simp only [List.append_assoc, List.singleton_append]
        exact readItems?_more hclosing hindent hitem hmore

theorem length_lt_block {opening : Char} {depth : Nat} {text : Text} {texts : List Text}
    (h : text ∈ texts) : text.length < (block opening closing depth texts).length := by
  have hmem : indentation (depth + 1) ++ text ∈ texts.map (indentation (depth + 1) ++ ·) :=
    List.mem_map_of_mem h
  have hle := length_le_intercalate hmem
  rw [List.length_append] at hle
  rw [block_of_ne_nil (List.ne_nil_of_mem h), List.length_cons, List.length_append]
  exact Nat.lt_succ_of_le ((Nat.le_of_add_left_le hle).trans (Nat.le_add_right _ _))

theorem closingBracket_cases (h : closing ∈ closingBrackets) :
    closing ≠ ',' ∧ isLayout closing = false := by
  simp only [closingBrackets, List.mem_cons, List.not_mem_nil, or_false] at h
  rcases h with rfl | rfl <;> decide

theorem readBlock?_nil (hclosing : closing ∈ closingBrackets) (rest : Text) :
    readBlock? readItem? closing (closing :: rest) = some ([], rest) := by
  have hnone : ∀ c ∈ ([] : Text), isLayout c = true := by simp
  have hskip : skipLayout (closing :: rest) = closing :: rest :=
    skipLayout_append hnone (closingBracket_cases hclosing).2 rest
  simp [readBlock?, hskip]

/-- Where an item starts, the block is not empty. -/
theorem readBlock?_of_starts {indent item : Text} (hclosing : closing ∈ closingBrackets)
    (hindent : ∀ c ∈ indent, isLayout c = true) (hitem : StartsItem item) (rest : Text) :
    readBlock? readItem? closing (indent ++ (item ++ rest)) =
      readItems? readItem? closing (indent ++ (item ++ rest)).length (indent ++ (item ++ rest)) := by
  have hskip := hitem.skipLayout_append hindent rest
  obtain ⟨c, tail, rfl, -, hc⟩ := hitem
  have hne : c ≠ closing := fun heq => hc (heq ▸ hclosing)
  rw [readBlock?, hskip]
  exact if_neg hne

theorem StartsItem.ne_nil {form : Text} (h : StartsItem form) : form ≠ [] := by
  obtain ⟨c, tail, rfl, -⟩ := h
  exact List.cons_ne_nil c tail

theorem readBlock?_intercalate {indent outdent rest : Text} {items : List α}
    (hclosing : closing ∈ closingBrackets) (hindent : ∀ c ∈ indent, isLayout c = true)
    (hitems : ∀ item ∈ items, ReadsBack readItem? item (form item)) (hne : items ≠ [])
    (hends : EndsNumber outdent) (hafter : skipLayout outdent = closing :: rest) :
    readBlock? readItem? closing
      ([','].intercalate (items.map fun item => indent ++ form item) ++ outdent) =
        some (items, rest) := by
  have hforms : ∀ text ∈ items.map fun item => indent ++ form item, text ≠ [] :=
    List.forall_mem_map.2 fun item hmem =>
      List.append_ne_nil_of_right_ne_nil _ (hitems item hmem).starts.ne_nil
  have hcount := count_le_intercalate hforms
  rw [List.length_map] at hcount
  have hread := readItems?_intercalate (closingBracket_cases hclosing).1 hindent hitems hne hends
    hafter ((hcount.trans (Nat.le_add_right _ outdent.length)).trans_eq List.length_append.symm)
  obtain ⟨first, items, rfl⟩ := List.exists_cons_of_ne_nil hne
  rw [List.map_cons, intercalate_cons, List.append_assoc, List.append_assoc] at hread ⊢
  rwa [readBlock?_of_starts hclosing hindent (hitems first List.mem_cons_self).starts]

/-- An array or object is read back if its items are. -/
theorem readBlock?_block {opening : Char} {items : List α} (hclosing : closing ∈ closingBrackets)
    (hitems : ∀ item ∈ items, ReadsBack readItem? item (form item)) (depth : Nat) (rest : Text) :
    ∃ body, block opening closing depth (items.map form) ++ rest = opening :: body ∧
      readBlock? readItem? closing body = some (items, rest) := by
  by_cases hne : items = []
  · subst hne
    exact ⟨closing :: rest, rfl, readBlock?_nil hclosing rest⟩
  · have hafter : skipLayout (indentation depth ++ closing :: rest) = closing :: rest :=
      skipLayout_append (isLayout_of_mem_indentation depth) (closingBracket_cases hclosing).2 rest
    refine ⟨_, ?_, readBlock?_intercalate hclosing (isLayout_of_mem_indentation (depth + 1)) hitems
      hne (endsNumber_indentation depth _) hafter⟩
    rw [block_of_ne_nil (by simpa using hne), List.map_map]
    simp [Function.comp_def]

end Block

theorem readsBack_entry {readValue? : Text → Option (Json × Text)} {value : Json} {form : Text}
    (h : ReadsBack readValue? value form) (key : Text) :
    ReadsBack (readMember? readValue?) (key, value) (string key ++ [':', ' '] ++ form) := by
  refine ⟨⟨'"', _, rfl, by decide⟩, fun rest hrest => ?_⟩
  have hcolon : skipLayout (':' :: ' ' :: (form ++ rest)) = ':' :: ' ' :: (form ++ rest) := rfl
  have hblank : ∀ c ∈ [' '], isLayout c = true := List.forall_mem_singleton.2 rfl
  have hvalue : skipLayout (' ' :: (form ++ rest)) = form ++ rest :=
    h.starts.skipLayout_append hblank rest
  have hform : string key ++ [':', ' '] ++ form ++ rest =
      string key ++ ':' :: ' ' :: (form ++ rest) := by
    simp
  rw [hform, readMember?, readString?_string]
  simp [hcolon, hvalue, h.read rest hrest]

/-! ## Values -/

theorem renderItems_eq_map (depth : Nat) (items : List Json) :
    renderItems depth items = items.map (renderAt depth) := by
  induction items with
  | nil => rfl
  | cons item items ih => rw [renderItems, ih, List.map_cons]

theorem renderEntries_eq_map (depth : Nat) (entries : List (Text × Json)) :
    renderEntries depth entries =
      entries.map fun entry => string entry.1 ++ [':', ' '] ++ renderAt depth entry.2 := by
  induction entries with
  | nil => rfl
  | cons entry entries ih => rw [renderEntries, ih, List.map_cons]

/-- Numbers start with such a character. -/
def startsNumber (c : Char) : Bool :=
  c == '-' || isAsciiDigit c

theorem exists_signedDecimal_cons (n : Int) :
    ∃ c rest, signedDecimal n = c :: rest ∧ startsNumber c = true := by
  cases n with
  | ofNat n =>
    have hrun := isDigitRun_decimal n
    obtain ⟨c, rest, hdecimal⟩ := List.exists_cons_of_ne_nil hrun.ne_nil
    have hc := hrun.all_digit c (by simp [hdecimal])
    exact ⟨c, rest, hdecimal, by simp [startsNumber, hc]⟩
  | negSucc n => exact ⟨'-', _, rfl, rfl⟩

theorem exists_block_cons (opening closing : Char) (depth : Nat) (texts : List Text) :
    ∃ rest, block opening closing depth texts = opening :: rest := by
  by_cases hne : texts = []
  · subst hne
    exact ⟨_, rfl⟩
  · exact ⟨_, block_of_ne_nil hne opening closing depth⟩

theorem isLayout_of_startsNumber {c : Char} (hc : startsNumber c = true) : isLayout c = false := by
  cases hlayout : isLayout c with
  | false => rfl
  | true =>
    simp only [isLayout, List.mem_cons, List.not_mem_nil, or_false, decide_eq_true_eq] at hlayout
    rcases hlayout with rfl | rfl | rfl | rfl <;> cases hc

/-- A number starts like none of the other values, and not like a closing bracket. -/
theorem ne_of_startsNumber {c : Char} (hc : startsNumber c = true) :
    ∀ d ∈ ['n', '[', '\x7b', '"', ']', '\x7d'], c ≠ d := by
  rintro d hd rfl
  simp only [List.mem_cons, List.not_mem_nil, or_false] at hd
  rcases hd with rfl | rfl | rfl | rfl | rfl | rfl <;> cases hc

theorem startsItem_renderAt (level : Nat) (value : Json) : StartsItem (renderAt level value) := by
  cases value with
  | null => exact ⟨'n', _, rfl, by decide⟩
  | number n =>
    obtain ⟨c, rest, hform, hc⟩ := exists_signedDecimal_cons n
    have hdistinct := ne_of_startsNumber hc
    refine ⟨c, rest, by rw [renderAt, hform], isLayout_of_startsNumber hc, fun hclosing => ?_⟩
    exact hdistinct c (List.mem_append_right ['n', '[', '\x7b', '"'] hclosing) rfl
  | text content => exact ⟨'"', _, rfl, by decide⟩
  | array items =>
    obtain ⟨rest, hform⟩ := exists_block_cons '[' ']' level (renderItems (level + 1) items)
    exact ⟨'[', rest, by rw [renderAt, hform], by decide⟩
  | object entries =>
    obtain ⟨rest, hform⟩ :=
      exists_block_cons '\x7b' '\x7d' level (renderEntries (level + 1) entries)
    exact ⟨'\x7b', rest, by rw [renderAt, hform], by decide⟩

theorem readNested?_of_startsNumber {c : Char} (hc : startsNumber c = true) (nesting : Nat)
    (rest : Text) :
    readNested? (nesting + 1) (c :: rest) =
      (readNumber? (c :: rest)).map fun (n, rest) => (.number n, rest) := by
  have hdistinct := ne_of_startsNumber hc
  simp only [List.forall_mem_cons] at hdistinct
  obtain ⟨hnull, harray, hobject, htext, -⟩ := hdistinct
  rw [readNested?]
  · exact fun _ heq => hnull (List.cons.inj heq).1
  · exact fun _ heq => harray (List.cons.inj heq).1
  · exact fun _ heq => hobject (List.cons.inj heq).1
  · exact fun _ heq => htext (List.cons.inj heq).1

/-- Every value is read back from its text, at any level of indentation. -/
theorem readsBack_renderAt {value : Json} {level nesting : Nat}
    (h : (renderAt level value).length ≤ nesting) :
    ReadsBack (readNested? nesting) value (renderAt level value) := by
  refine ⟨startsItem_renderAt level value, fun rest hrest => ?_⟩
  -- on the depth of nesting, which each pair of brackets in the text uses up by one
  induction nesting generalizing value level rest with
  | zero =>
    have hnil := List.length_eq_zero_iff.1 (Nat.le_zero.1 h)
    exact absurd hnil (startsItem_renderAt level value).ne_nil
  | succ nesting ih =>
    cases value with
    | null => rfl
    | number n =>
      obtain ⟨c, tail, hform, hc⟩ := exists_signedDecimal_cons n
      have hread := readNumber?_signedDecimal n hrest
      rw [hform, List.cons_append] at hread
      rw [renderAt, hform, List.cons_append, readNested?_of_startsNumber hc, hread]
      rfl
    | text content =>
      obtain ⟨tail, hform⟩ : ∃ tail, string content = '"' :: tail := ⟨_, rfl⟩
      have hread := readString?_string content rest
      rw [hform, List.cons_append] at hread
      rw [renderAt, hform, List.cons_append, readNested?, hread]
      rfl
    | array items =>
      rw [renderAt, renderItems_eq_map] at h ⊢
      have hitems : ∀ item ∈ items,
          ReadsBack (readNested? nesting) item (renderAt (level + 1) item) := by
        intro item hmem
        have hlt := (length_lt_block (List.mem_map_of_mem hmem)).trans_le h
        exact ⟨startsItem_renderAt _ _, fun rest hrest => ih (Nat.le_of_lt_succ hlt) rest hrest⟩
      obtain ⟨body, hform, hread⟩ :=
        readBlock?_block (show ']' ∈ closingBrackets by decide) hitems level rest
      rw [hform, readNested?, hread]
      rfl
    | object entries =>
      rw [renderAt, renderEntries_eq_map] at h ⊢
      have hentries : ∀ entry ∈ entries, ReadsBack (readMember? (readNested? nesting)) entry
          (string entry.1 ++ [':', ' '] ++ renderAt (level + 1) entry.2) := by
        intro (key, value) hmem
        have hlt := (length_lt_block (List.mem_map_of_mem hmem)).trans_le h
        have hvalue : (renderAt (level + 1) value).length ≤ nesting := by
          simp only [List.length_append] at hlt
          omega
        exact readsBack_entry ⟨startsItem_renderAt _ _, fun rest hrest => ih hvalue rest hrest⟩ key
      obtain ⟨body, hform, hread⟩ :=
        readBlock?_block (show '\x7d' ∈ closingBrackets by decide) hentries level rest
      rw [hform, readNested?, hread]
      rfl

/-- A value is read back from its text, up to what follows. -/
theorem read?_render (value : Json) {rest : Text} (hrest : EndsNumber rest) :
    read? (value.render ++ rest) = some (value, rest) := by
  have hlength : (renderAt 0 value).length ≤ (renderAt 0 value ++ rest).length := by
    rw [List.length_append]
    exact Nat.le_add_right _ _
  have hback := readsBack_renderAt hlength
  have hnone : ∀ c ∈ ([] : Text), isLayout c = true := by simp
  have hskip := hback.starts.skipLayout_append hnone rest
  rw [List.nil_append] at hskip
  rw [read?, render, hskip, hback.read rest hrest]

end LispLex.Json
