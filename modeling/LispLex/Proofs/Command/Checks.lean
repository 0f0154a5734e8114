-- SUMMARY: Specifications of the single checks of a configuration, their faults included.
import LispLex.Command.Options
import LispLex.Proofs.Rule.Table
import LispLex.Proofs.Toml.Shown

/-!
# Checks of a configuration

When a value of a configuration passes its check, what it then stands for, and which fault it has
otherwise. The checks are made in a fixed order, and the first one that fails decides.
-/

namespace LispLex

/-- A sequence succeeds only if each of its parts does. -/
theorem bind_eq_ok {ε α β : Type} {x : Except ε α} {f : α → Except ε β} {b : β}
    (h : (x >>= f) = .ok b) : ∃ a, x = .ok a ∧ f a = .ok b := by
  cases x with
  | error fault => cases h
  | ok a => exact ⟨a, rfl, h⟩

/-- A result with one possible fault has it unless it has a value. -/
theorem eq_error_iff_forall_ne_ok {ε α : Type} {x : Except ε α} {only fault : ε}
    (h : ∀ other, x = .error other → other = only) :
    x = .error fault ↔ (∀ a, x ≠ .ok a) ∧ fault = only := by
  cases x with
  | error other =>
    obtain rfl := h other rfl
    simp [eq_comm]
  | ok a => exact iff_of_false (fun herror => by cases herror) fun hand => hand.1 a rfl

/-! ## Entries -/

namespace TomlTable

variable {α : Type} {config entries : TomlTable} {name key : String} {value : Toml}
  {check : Toml → Except ConfigFault α}

/-- The configuration has a table with the given name, and in that an entry with this value. -/
def Has (config : TomlTable) (name key : String) (value : Toml) : Prop :=
  ∃ entries, config.get? name.toList = some (.table entries) ∧
    TomlTable.get? entries key.toList = some value

theorem get?_section : (config.section name).get? key.toList = some value ↔
    config.Has name key value := by
  unfold «section» Has
  split
  · next entries hentries =>
    simp only [hentries, Option.some.injEq, Toml.table.injEq, exists_eq_left']
  · next hother =>
    refine iff_of_false (fun h => by cases h) ?_
    rintro ⟨entries, hentries, -⟩
    exact hother entries hentries

theorem checked_eq_error_iff {fault : ConfigFault} :
    (config.section name).checked key check = .error fault ↔
      ∃ value, config.Has name key value ∧ check value = .error fault := by
  simp only [← get?_section, checked]
  cases (config.section name).get? key.toList with
  | none => simp
  | some value => cases hcheck : check value <;> simp [hcheck, Except.map]

theorem checked_eq_ok_iff {found : Option α} :
    (config.section name).checked key check = .ok found ↔
      (∃ value a, config.Has name key value ∧ check value = .ok a ∧ found = some a) ∨
        (∀ value, ¬config.Has name key value) ∧ found = none := by
  simp only [← get?_section, checked]
  cases (config.section name).get? key.toList with
  | none => simp [eq_comm]
  | some value => cases hcheck : check value <;> simp [hcheck, Except.map, eq_comm]

end TomlTable

/-! ## Formats and numbers -/

theorem Format.ofName?_eq_some_iff {name : Text} {format : Format} :
    ofName? name = some format ↔ name = format.name := by
  constructor
  · intro h
    have hfound := List.find?_some h
    exact (eq_of_beq hfound).symm
  · rintro rfl
    cases format <;> rfl

theorem checkFormat_eq_ok_iff {value : Toml} {format : Format} :
    checkFormat value = .ok format ↔ value = .text format.name := by
  cases value with
  | text name =>
    rw [Toml.text.injEq, ← Format.ofName?_eq_some_iff, checkFormat]
    cases Format.ofName? name <;> simp
  | _ => simp [checkFormat]

theorem checkFormat_eq_error_iff {value : Toml} {fault : ConfigFault} :
    checkFormat value = .error fault ↔
      (∀ format : Format, value ≠ .text format.name) ∧ fault = .format value := by
  have honly (other : ConfigFault) (h : checkFormat value = .error other) :
      other = .format value := by
    unfold checkFormat at h
    split at h
    · split at h <;> cases h
      rfl
    · cases h
      rfl
  rw [eq_error_iff_forall_ne_ok honly]
  simp only [ne_eq, checkFormat_eq_ok_iff]

theorem checkPositive_eq_ok_iff {fault : Toml → ConfigFault} {value : Toml} {n : Int} :
    checkPositive fault value = .ok n ↔ value = .integer n ∧ 0 < n := by
  cases value with
  | integer m =>
    rw [checkPositive, Toml.integer.injEq]
    split
    · next hpos =>
      rw [Except.ok.injEq]
      exact ⟨fun h => ⟨h, h ▸ hpos⟩, And.left⟩
    · next hnot =>
      refine iff_of_false (fun h => by cases h) ?_
      rintro ⟨rfl, hpos⟩
      exact hnot hpos
  | _ => simp [checkPositive]

theorem checkPositive_eq_error_iff {fault : Toml → ConfigFault} {value : Toml}
    {other : ConfigFault} :
    checkPositive fault value = .error other ↔
      (∀ n, 0 < n → value ≠ .integer n) ∧ other = fault value := by
  have honly (found : ConfigFault) (h : checkPositive fault value = .error found) :
      found = fault value := by
    unfold checkPositive at h
    split at h
    · split at h <;> cases h
      rfl
    · cases h
      rfl
  rw [eq_error_iff_forall_ne_ok honly]
  simp only [ne_eq, checkPositive_eq_ok_iff, not_and']

/-! ## Rules -/

/-- The item of a list of rules that names a kind. -/
def Toml.ofKind (kind : Kind) : Toml :=
  .text kind.name.toList

theorem Toml.ofKind_injective : Function.Injective ofKind := fun _ _ h =>
  Kind.name_injective (Toml.text.inj h)

/-- The item cannot stand behind the names of these kinds: it names no kind, or one of them again. -/
inductive BadItem (kinds : List Kind) : Toml → ConfigFault → Prop where
  | unknown {item : Toml} {shown : Text} (noKind : ∀ kind : Kind, item ≠ Toml.ofKind kind)
    (name_eq : item.name? = some shown) : BadItem kinds item (.table (.unknownKind shown))
  | unwritable {item : Toml} (name_eq : item.name? = none) : BadItem kinds item .unwritableName
  | duplicate {kind : Kind} (mem : kind ∈ kinds) :
    BadItem kinds (.ofKind kind) (.table (.duplicateKind kind.name.toList))

/-- The first item of the list that cannot stand where it does, as those before it are the names of
different kinds. -/
def FirstBadItem (items : List Toml) (fault : ConfigFault) : Prop :=
  ∃ kinds item later, items = kinds.map .ofKind ++ item :: later ∧ kinds.Nodup ∧
    BadItem kinds item fault

/-- The names of the items before the first one that has none. -/
def leadingNames (items : List Toml) : List Text :=
  ((items.map Toml.name?).takeWhile Option.isSome).filterMap id

theorem leadingNames_cons_some {item : Toml} {shown : Text} (h : item.name? = some shown)
    (later : List Toml) : leadingNames (item :: later) = shown :: leadingNames later := by
  simp [leadingNames, h]

theorem leadingNames_cons_none {item : Toml} (h : item.name? = none) (later : List Toml) :
    leadingNames (item :: later) = [] := by
  simp [leadingNames, h]

theorem leadingNames_items_append (kinds : List Kind) (later : List Toml) :
    leadingNames (kinds.map .ofKind ++ later) = kinds.map (·.name.toList) ++ leadingNames later := by
  induction kinds with
  | nil => rfl
  | cons kind kinds ih =>
    rw [List.map_cons, List.cons_append, leadingNames_cons_some (show (Toml.ofKind kind).name? = _ from rfl),
      ih, List.map_cons, List.cons_append]

theorem rulesNamed_leadingNames {kinds : List Kind} {later : List Toml} (hnodup : kinds.Nodup)
    (h : leadingNames later = []) :
    rulesNamed (leadingNames (kinds.map .ofKind ++ later)) = .ok (kinds.map .standard) := by
  rw [leadingNames_items_append, h, List.append_nil]
  exact rulesNamed_names hnodup

theorem checkRules_array_of_error {items : List Toml} {fault : TableFault}
    (h : rulesNamed (leadingNames items) = .error fault) :
    checkRules (.array items) = .error (.table fault) := by
  unfold leadingNames at h
  simp only [checkRules, h]

/-- The names of different kinds pass. -/
theorem checkRules_items {kinds : List Kind} (h : kinds.Nodup) :
    checkRules (.array (kinds.map .ofKind)) = .ok (kinds.map .standard) := by
  have hrules := rulesNamed_leadingNames h (show leadingNames [] = [] from rfl)
  rw [List.append_nil, leadingNames] at hrules
  have hall : ((kinds.map Toml.ofKind).map Toml.name?).all Option.isSome = true := by
    simp [Toml.ofKind, Toml.name?]
  simp only [checkRules, hrules, hall, if_true]

theorem FirstBadItem.checkRules_eq {items : List Toml} {fault : ConfigFault}
    (h : FirstBadItem items fault) : checkRules (.array items) = .error fault := by
  obtain ⟨kinds, item, later, rfl, hnodup, bad⟩ := h
  cases bad with
  | @unknown item shown noKind name_eq =>
    apply checkRules_array_of_error
    rw [leadingNames_items_append, leadingNames_cons_some name_eq]
    apply rulesNamed_of_unknown hnodup
    cases hkind : Kind.ofName? shown with
    | none => rfl
    | some kind =>
      obtain rfl := Kind.eq_name_of_ofName? hkind
      exact absurd (Toml.eq_text_of_name? name_eq) (noKind kind)
  | unwritable name_eq =>
    have hrules := rulesNamed_leadingNames hnodup (leadingNames_cons_none name_eq later)
    rw [leadingNames] at hrules
    simp only [checkRules, hrules]
    simp [name_eq]
  | @duplicate kind mem =>
    apply checkRules_array_of_error
    rw [leadingNames_items_append, leadingNames_cons_some (show (Toml.ofKind kind).name? = _ from rfl)]
    exact rulesNamed_of_duplicate hnodup mem _

theorem FirstBadItem.append {items : List Toml} {fault : ConfigFault} (h : FirstBadItem items fault)
    (more : List Toml) : FirstBadItem (items ++ more) fault := by
  obtain ⟨kinds, item, later, rfl, hnodup, bad⟩ := h
  exact ⟨kinds, item, later ++ more, by simp, hnodup, bad⟩

/-- Behind the names of different kinds an item is one more such name, or it is bad. -/
theorem exists_ofKind_or_badItem (kinds : List Kind) (item : Toml) :
    (∃ kind ∉ kinds, item = Toml.ofKind kind) ∨ ∃ fault, BadItem kinds item fault := by
  by_cases hitem : ∃ kind, item = Toml.ofKind kind
  · obtain ⟨kind, rfl⟩ := hitem
    by_cases hmem : kind ∈ kinds
    · exact .inr ⟨_, .duplicate hmem⟩
    · exact .inl ⟨kind, hmem, rfl⟩
  · cases hname : item.name? with
    | none => exact .inr ⟨_, .unwritable hname⟩
    | some shown => exact .inr ⟨_, .unknown (not_exists.1 hitem) hname⟩

theorem exists_kinds_or_firstBadItem (items : List Toml) :
    (∃ kinds : List Kind, kinds.Nodup ∧ items = kinds.map .ofKind) ∨
      ∃ fault, FirstBadItem items fault := by
  -- on the items from the last one on: those before it decide first
  induction items using List.reverseRecOn with
  | nil => exact .inl ⟨[], .nil, rfl⟩
  | append_singleton items item ih =>
    obtain ⟨kinds, hnodup, rfl⟩ | ⟨fault, hfault⟩ := ih
    · obtain ⟨kind, hfresh, rfl⟩ | ⟨fault, bad⟩ := exists_ofKind_or_badItem kinds item
      · refine .inl ⟨kinds ++ [kind], ?_, by simp⟩
        exact List.nodup_append_comm.1 (List.nodup_cons.2 ⟨hfresh, hnodup⟩)
      · exact .inr ⟨fault, kinds, item, [], rfl, hnodup, bad⟩
    · exact .inr ⟨fault, hfault.append [item]⟩

theorem checkRules_array_eq_error_iff {items : List Toml} {fault : ConfigFault} :
    checkRules (.array items) = .error fault ↔ FirstBadItem items fault := by
  refine ⟨fun h => ?_, FirstBadItem.checkRules_eq⟩
  obtain ⟨kinds, hnodup, rfl⟩ | ⟨other, hother⟩ := exists_kinds_or_firstBadItem items
  · cases (checkRules_items hnodup).symm.trans h
  · cases hother.checkRules_eq.symm.trans h
    exact hother

theorem checkRules_eq_error_iff {value : Toml} {fault : ConfigFault} :
    checkRules value = .error fault ↔
      (∃ items, value = .array items ∧ FirstBadItem items fault) ∨
        (∀ items, value ≠ .array items) ∧ fault = .rules value := by
  cases value with
  | array items => simp [checkRules_array_eq_error_iff]
  | _ => simp [checkRules, eq_comm]

theorem checkRules_eq_ok_iff {value : Toml} {rules : List Rule} :
    checkRules value = .ok rules ↔
      ∃ kinds : List Kind, kinds.Nodup ∧ value = .array (kinds.map .ofKind) ∧
        rules = kinds.map .standard := by
  constructor
  · intro h
    cases value with
    | array items =>
      obtain ⟨kinds, hnodup, rfl⟩ | ⟨fault, hfault⟩ := exists_kinds_or_firstBadItem items
      · exact ⟨kinds, hnodup, rfl, Except.ok.inj (h.symm.trans (checkRules_items hnodup))⟩
      · cases h.symm.trans hfault.checkRules_eq
    | _ => cases h
  · rintro ⟨kinds, hnodup, rfl, rfl⟩
    exact checkRules_items hnodup

end LispLex
