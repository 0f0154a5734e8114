-- SUMMARY: Tables made by name and the rules in them.
import LispLex.Rule
import Mathlib.Data.List.Basic
import Mathlib.Data.List.Nodup
import Mathlib.Data.List.Perm.Basic

/-!
# Tables by name

A list of names makes a table exactly if every name is that of a kind and no kind is named twice.
The table has the standard rules of these kinds, in the order of the names.
-/

namespace LispLex

/-! ## Names of kinds -/

theorem Kind.ofName?_name (kind : Kind) : ofName? kind.name.toList = some kind := by
  cases kind <;> rfl

theorem Kind.name_injective : Function.Injective fun kind : Kind => kind.name.toList := by
  intro a b h
  exact Option.some.inj (a.ofName?_name.symm.trans ((congrArg ofName? h).trans b.ofName?_name))

theorem Kind.eq_name_of_ofName? {name : Text} {kind : Kind} (h : ofName? name = some kind) :
    name = kind.name.toList := by
  have hfound := List.find?_some h
  exact (eq_of_beq hfound).symm

/-! ## Tables -/

/-- The kinds that the names are names of. -/
def kindsOf (names : List Text) : List Kind :=
  names.filterMap Kind.ofName?

theorem kindsOf_cons {name : Text} {kind : Kind} (h : Kind.ofName? name = some kind)
    (names : List Text) : kindsOf (name :: names) = kind :: kindsOf names :=
  List.filterMap_cons_some h

theorem kindsOf_subset {names more : List Text} (h : names ⊆ more) :
    kindsOf names ⊆ kindsOf more :=
  List.filterMap_subset _ h

/-- The names are names of kinds, and of different ones that are not among those `seen` before. -/
structure NamesKinds (seen : List Kind) (names : List Text) : Prop where
  known : ∀ name ∈ names, (Kind.ofName? name).isSome
  nodup : (kindsOf names).Nodup
  unseen : ∀ kind ∈ kindsOf names, kind ∉ seen

theorem namesKinds_cons_iff {seen : List Kind} {name : Text} {kind : Kind} {names : List Text}
    (hname : Kind.ofName? name = some kind) :
    NamesKinds seen (name :: names) ↔ kind ∉ seen ∧ NamesKinds (kind :: seen) names := by
  constructor
  · rintro ⟨hknown, hnodup, hunseen⟩
    rw [kindsOf_cons hname] at hnodup hunseen
    obtain ⟨hfresh, hnodup⟩ := List.nodup_cons.1 hnodup
    refine ⟨hunseen kind (by simp), fun other h => hknown other (by simp [h]), hnodup, ?_⟩
    intro other hother hseen
    rcases List.mem_cons.1 hseen with rfl | hseen
    · exact hfresh hother
    · exact hunseen other (by simp [hother]) hseen
  · rintro ⟨hkind, hknown, hnodup, hunseen⟩
    refine ⟨?_, ?_, ?_⟩
    · intro other hother
      rcases List.mem_cons.1 hother with rfl | hother
      · simp [hname]
      · exact hknown other hother
    · rw [kindsOf_cons hname]
      exact List.nodup_cons.2 ⟨fun h => hunseen kind h (by simp), hnodup⟩
    · rw [kindsOf_cons hname]
      intro other hother
      rcases List.mem_cons.1 hother with rfl | hother
      · exact hkind
      · exact fun hseen => hunseen other hother (by simp [hseen])

theorem kindsNamed_eq_ok_iff {seen kinds : List Kind} {names : List Text} :
    kindsNamed seen names = .ok kinds ↔ NamesKinds seen names ∧ kinds = kindsOf names := by
  induction names generalizing seen kinds with
  | nil =>
    constructor
    · rintro ⟨⟩
      exact ⟨⟨by simp, .nil, by simp [kindsOf]⟩, rfl⟩
    · rintro ⟨-, rfl⟩
      rfl
  | cons name names ih =>
    cases hname : Kind.ofName? name with
    | none =>
      simp only [kindsNamed, hname, reduceCtorEq, false_iff, not_and]
      intro h
      simpa [hname] using h.known name (by simp)
    | some kind =>
      rw [namesKinds_cons_iff hname, kindsOf_cons hname]
      simp only [kindsNamed, hname]
      by_cases hseen : kind ∈ seen
      · simp [hseen]
      · cases hrest : kindsNamed (kind :: seen) names with
        | error fault =>
          have hnot : ¬ NamesKinds (kind :: seen) names := by
            intro h
            rw [ih.2 ⟨h, rfl⟩] at hrest
            cases hrest
          simp [hseen, hnot, Except.map]
        | ok found =>
          obtain ⟨hnames, rfl⟩ := ih.1 hrest
          simp [hseen, hnames, Except.map, eq_comm]

/-- A table by name has the standard rules of the kinds named. -/
theorem rulesNamed_eq_ok_iff {names : List Text} {rules : List Rule} :
    rulesNamed names = .ok rules ↔
      NamesKinds [] names ∧ rules = (kindsOf names).map .standard := by
  cases hkinds : kindsNamed [] names with
  | error fault =>
    have hnot : ¬ NamesKinds [] names := by
      intro h
      rw [kindsNamed_eq_ok_iff.2 ⟨h, rfl⟩] at hkinds
      cases hkinds
    simp [rulesNamed, hkinds, hnot, Except.map]
  | ok kinds =>
    obtain ⟨hnames, rfl⟩ := kindsNamed_eq_ok_iff.1 hkinds
    simp [rulesNamed, hkinds, hnames, Except.map, eq_comm]

theorem map_kind_map_standard (kinds : List Kind) :
    (kinds.map Rule.standard).map Rule.kind = kinds := by
  rw [List.map_map, show Rule.kind ∘ Rule.standard = id from rfl, List.map_id]

/-- The names of all kinds make the standard table. -/
theorem rulesNamed_all : rulesNamed (Kind.all.map (·.name.toList)) = .ok standardRules := by
  rfl

/-! ## Names that cannot stand where they do -/

/-- Behind the names of some kinds the others may not name these again. -/
theorem kindsNamed_names_append {seen kinds : List Kind} (hnodup : kinds.Nodup)
    (hunseen : ∀ kind ∈ kinds, kind ∉ seen) (names : List Text) :
    kindsNamed seen (kinds.map (·.name.toList) ++ names) =
      (kindsNamed (kinds.reverse ++ seen) names).map (kinds ++ ·) := by
  induction kinds generalizing seen with
  | nil => cases h : kindsNamed seen names <;> simp [h, Except.map]
  | cons kind kinds ih =>
    obtain ⟨hfresh, hnodup⟩ := List.nodup_cons.1 hnodup
    obtain ⟨hkind, hkinds⟩ := List.forall_mem_cons.1 hunseen
    have hothers : ∀ other ∈ kinds, other ∉ kind :: seen := by
      intro other hother hmem
      rcases List.mem_cons.1 hmem with rfl | hseen
      · exact hfresh hother
      · exact hkinds other hother hseen
    simp only [List.map_cons, List.cons_append, kindsNamed, Kind.ofName?_name, if_neg hkind,
      ih hnodup hothers, List.reverse_cons, List.append_assoc, List.nil_append]
    cases kindsNamed (kinds.reverse ++ kind :: seen) names <;> rfl

theorem rulesNamed_names {kinds : List Kind} (hnodup : kinds.Nodup) :
    rulesNamed (kinds.map (·.name.toList)) = .ok (kinds.map .standard) := by
  have hkinds : kindsNamed [] (kinds.map (·.name.toList) ++ []) = _ :=
    kindsNamed_names_append hnodup (by simp) []
  rw [List.append_nil] at hkinds
  rw [rulesNamed, hkinds]
  simp [kindsNamed, Except.map]

/-- A name that is no kind's is at fault if those before it are the names of different kinds. -/
theorem rulesNamed_of_unknown {kinds : List Kind} (hnodup : kinds.Nodup) {name : Text}
    (hname : Kind.ofName? name = none) (later : List Text) :
    rulesNamed (kinds.map (·.name.toList) ++ name :: later) = .error (.unknownKind name) := by
  rw [rulesNamed, kindsNamed_names_append hnodup (by simp)]
  simp [kindsNamed, hname, Except.map]

/-- A kind's name is at fault if those before it are the names of different kinds, one of them the
same kind. -/
theorem rulesNamed_of_duplicate {kinds : List Kind} (hnodup : kinds.Nodup) {kind : Kind}
    (hmem : kind ∈ kinds) (later : List Text) :
    rulesNamed (kinds.map (·.name.toList) ++ kind.name.toList :: later) =
      .error (.duplicateKind kind.name.toList) := by
  rw [rulesNamed, kindsNamed_names_append hnodup (by simp)]
  simp [kindsNamed, Kind.ofName?_name, hmem, Except.map]

/-- The order of the names does not matter for whether they make a table. -/
theorem NamesKinds.of_perm {seen : List Kind} {names reordered : List Text}
    (hperm : reordered.Perm names) (h : NamesKinds seen names) : NamesKinds seen reordered where
  known name hmem := h.known name (hperm.mem_iff.1 hmem)
  nodup := (hperm.filterMap Kind.ofName?).nodup_iff.2 h.nodup
  unseen kind hmem := h.unseen kind ((hperm.filterMap Kind.ofName?).mem_iff.1 hmem)

end LispLex
