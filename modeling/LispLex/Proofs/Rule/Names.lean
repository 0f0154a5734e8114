-- SUMMARY: Exact acceptance of tables by name, with the first name that is refused.
import LispLex.Proofs.Rule.Table
import Mathlib.Data.Nat.Find
import Mathlib.Data.Set.List
import Mathlib.Order.Basic

/-!
# The first name that cannot stand where it does

The names of different kinds make a table that can be read back: its rules are the standard rules of
these kinds, in their order. Any other list has a first name that is no kind's or stands there for
the second time. This name alone is reported, whatever comes behind it.
-/

namespace LispLex

/-- The name at the index cannot stand there: it is the name of no kind, or it stands at an earlier
index too. The text says which. -/
inductive Misplaced (names : List Text) (index : Nat) : (message : Text) → Prop
  | unknown {name : Text} (name_eq : names[index]? = some name)
      (noKind : ∀ kind : Kind, name ≠ kind.name.toList) :
      Misplaced names index ("unknown token kind ".toList ++ quoted name)
  | duplicate {name : Text} {earlier : Nat} (name_eq : names[index]? = some name)
      (lt : earlier < index) (earlier_eq : names[earlier]? = some name) :
      Misplaced names index ("duplicate token kind ".toList ++ quoted name)

/-- The name at the index cannot stand there, and those before it can. -/
structure FirstMisplaced (names : List Text) (index : Nat) (message : Text) : Prop where
  misplaced : Misplaced names index message
  placed : ∀ earlier < index, ∀ other, ¬ Misplaced names earlier other

/-- The table is refused with this message. -/
def Refuses (names : List Text) (message : Text) : Prop :=
  ∃ fault, rulesNamed names = .error fault ∧ fault.message = message

/-! ## Names of different kinds -/

theorem exists_kinds_iff {names : List Text} :
    (∃ kinds : List Kind, kinds.Nodup ∧ names = kinds.map (·.name.toList)) ↔
      (∀ name ∈ names, ∃ kind : Kind, name = kind.name.toList) ∧ names.Nodup := by
  constructor
  · rintro ⟨kinds, hnodup, rfl⟩
    refine ⟨?_, hnodup.map Kind.name_injective⟩
    intro name hname
    obtain ⟨kind, -, rfl⟩ := List.mem_map.1 hname
    exact ⟨kind, rfl⟩
  · rintro ⟨hknown, hnodup⟩
    obtain ⟨kinds, rfl⟩ : names ∈ Set.range (List.map fun kind : Kind => kind.name.toList) := by
      rw [Set.range_list_map]
      intro name hname
      obtain ⟨kind, rfl⟩ := hknown name hname
      exact ⟨kind, rfl⟩
    exact ⟨kinds, hnodup.of_map _, rfl⟩

/-- As long as every name can stand where it does, they are the names of different kinds. -/
theorem exists_kinds_of_placed {names : List Text} {index : Nat}
    (h : ∀ earlier < index, ∀ message, ¬ Misplaced names earlier message) :
    ∃ kinds : List Kind, kinds.Nodup ∧ names.take index = kinds.map (·.name.toList) := by
  rw [exists_kinds_iff]
  constructor
  · intro name hname
    obtain ⟨i, hi⟩ := List.mem_iff_getElem?.1 hname
    rw [List.getElem?_take] at hi
    split at hi
    · next hlt =>
      by_contra hknown
      exact h i hlt _ (.unknown hi (not_exists.1 hknown))
    · cases hi
  · rw [List.nodup_iff_getElem?_ne_getElem?]
    intro i j hij hj heq
    have hlt : j < index := hj.trans_le (List.length_take_le _ _)
    have hname := List.getElem?_eq_getElem hj
    have hearlier := heq.trans hname
    rw [List.getElem?_take, if_pos (hij.trans hlt)] at hearlier
    rw [List.getElem?_take, if_pos hlt] at hname
    exact h j hlt _ (.duplicate hname hij hearlier)

/-! ## The first name that is misplaced -/

/-- What stands behind the first misplaced name does not matter. -/
theorem FirstMisplaced.refuses {names : List Text} {index : Nat} {message : Text}
    (h : FirstMisplaced names index message) (later : List Text) :
    Refuses (names.take (index + 1) ++ later) message := by
  obtain ⟨kinds, hnodup, htake⟩ := exists_kinds_of_placed h.placed
  have hparts {name : Text} (hname : names[index]? = some name) :
      names.take (index + 1) ++ later = kinds.map (·.name.toList) ++ name :: later := by
    rw [List.take_add_one, hname, htake, Option.toList_some, List.append_assoc,
      List.singleton_append]
  cases h.misplaced with
  | @unknown name name_eq noKind =>
    rw [hparts name_eq]
    refine ⟨_, rulesNamed_of_unknown hnodup ?_ later, rfl⟩
    cases hkind : Kind.ofName? name with
    | none => rfl
    | some kind => exact absurd (Kind.eq_name_of_ofName? hkind) (noKind kind)
  | @duplicate name earlier name_eq lt earlier_eq =>
    have hmem : name ∈ kinds.map (·.name.toList) := by
      rw [← htake]
      exact List.mem_iff_getElem?.2 ⟨earlier, by rwa [List.getElem?_take, if_pos lt]⟩
    obtain ⟨kind, hkind, rfl⟩ := List.mem_map.1 hmem
    rw [hparts name_eq]
    exact ⟨_, rulesNamed_of_duplicate hnodup hkind later, rfl⟩

theorem exists_kinds_or_firstMisplaced (names : List Text) :
    (∃ kinds : List Kind, kinds.Nodup ∧ names = kinds.map (·.name.toList)) ∨
      ∃ index message, FirstMisplaced names index message := by
  classical
  by_cases h : ∃ index message, Misplaced names index message
  · obtain ⟨message, hmessage⟩ := Nat.find_spec h
    refine .inr ⟨Nat.find h, message, hmessage, ?_⟩
    intro earlier hlt other hother
    exact Nat.find_min h hlt ⟨other, hother⟩
  · have hplaced : ∀ index < names.length, ∀ message, ¬ Misplaced names index message :=
      fun index _ message hmessage => h ⟨index, message, hmessage⟩
    obtain ⟨kinds, hnodup, hnames⟩ := exists_kinds_of_placed hplaced
    rw [List.take_length] at hnames
    exact .inl ⟨kinds, hnodup, hnames⟩

theorem FirstMisplaced.refuses_self {names : List Text} {index : Nat} {message : Text}
    (h : FirstMisplaced names index message) : Refuses names message := by
  have hall := h.refuses (names.drop (index + 1))
  rwa [List.take_append_drop] at hall

/-! ## Tables and refusals -/

theorem rulesNamed_eq_ok_iff_kinds {names : List Text} {rules : List Rule} :
    rulesNamed names = .ok rules ↔
      ∃ kinds : List Kind, kinds.Nodup ∧ names = kinds.map (·.name.toList) ∧
        rules = kinds.map .standard := by
  constructor
  · intro hrules
    obtain ⟨kinds, hnodup, rfl⟩ | ⟨index, message, h⟩ := exists_kinds_or_firstMisplaced names
    · exact ⟨kinds, hnodup, rfl, Except.ok.inj (hrules.symm.trans (rulesNamed_names hnodup))⟩
    · obtain ⟨fault, hfault, -⟩ := h.refuses_self
      cases hrules.symm.trans hfault
  · rintro ⟨kinds, hnodup, rfl, rfl⟩
    exact rulesNamed_names hnodup

theorem refuses_iff {names : List Text} {message : Text} :
    Refuses names message ↔ ∃ index, FirstMisplaced names index message := by
  constructor
  · rintro ⟨fault, hfault, rfl⟩
    obtain ⟨kinds, hnodup, rfl⟩ | ⟨index, message, h⟩ := exists_kinds_or_firstMisplaced names
    · cases (rulesNamed_names hnodup).symm.trans hfault
    · obtain ⟨other, hother, rfl⟩ := h.refuses_self
      cases hother.symm.trans hfault
      exact ⟨index, h⟩
  · rintro ⟨index, h⟩
    exact h.refuses_self

/-- Names make a table exactly if they are the names of different kinds. The table has one rule for
each name, the standard rule of its kind, so the names can be read off it. Other names are refused,
for the first one that cannot stand where it does and whatever comes behind it. -/
theorem rulesNamed_readsBack_or_refuses (names : List Text) :
    ((∃ rules, rulesNamed names = .ok rules) ↔
      (∀ name ∈ names, ∃ kind : Kind, name = kind.name.toList) ∧ names.Nodup) ∧
    (∀ rules, rulesNamed names = .ok rules →
      rules.length = names.length ∧
      (∀ (index : Nat) name, names[index]? = some name → ∃ kind : Kind, name = kind.name.toList ∧
        rules[index]? = some ⟨kind, kind.pattern⟩) ∧
      rules.map (·.kind.name.toList) = names) ∧
    (∀ message, Refuses names message ↔ ∃ index, FirstMisplaced names index message) ∧
    (∀ index message, FirstMisplaced names index message →
      ∀ later, Refuses (names.take (index + 1) ++ later) message) := by
  refine ⟨?_, ?_, fun _ => refuses_iff, fun _ _ h => h.refuses⟩
  · simp only [rulesNamed_eq_ok_iff_kinds, ← exists_kinds_iff]
    constructor
    · rintro ⟨-, kinds, hnodup, hnames, -⟩
      exact ⟨kinds, hnodup, hnames⟩
    · rintro ⟨kinds, hnodup, hnames⟩
      exact ⟨_, kinds, hnodup, hnames, rfl⟩
  · intro rules hrules
    obtain ⟨kinds, -, rfl, rfl⟩ := rulesNamed_eq_ok_iff_kinds.1 hrules
    refine ⟨by simp, ?_, by simp [Rule.standard]⟩
    intro index name hname
    rw [List.getElem?_map, Option.map_eq_some_iff] at hname
    obtain ⟨kind, hkind, rfl⟩ := hname
    exact ⟨kind, rfl, by rw [List.getElem?_map, hkind]; rfl⟩

/-- The unknown name comes before the one that is there twice. -/
example :
    Refuses ["ADD".toList, "Add".toList, "ADD".toList]
      ("unknown token kind ".toList ++ quoted "Add".toList) :=
  ⟨_, rfl, rfl⟩

end LispLex
