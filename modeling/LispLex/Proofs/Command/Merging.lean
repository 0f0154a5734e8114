-- SUMMARY: The first failing check of the options, its message, and the value of each option if none fails.
import LispLex.Proofs.Command.Checks

/-!
# How options are put together

There are options unless one of five checks fails: four on a configuration, whether or not the command
line overrides what they check, and one on the command line. The first one that fails decides the
fault. Otherwise each option is what the command line gives, else what the configuration has, else a
default, whatever the others are.
-/

namespace LispLex

variable {arguments : Arguments} {config : TomlTable} {fault : ConfigFault}

/-! ## The checks in their order -/

inductive SettingCheck where
  | format
  | rules
  | maxInt
  | snippetLength
  /-- The ceiling on the command line. -/
  | givenMaxInt

namespace SettingCheck

/-- The checks in the order they are made. -/
def all : List SettingCheck :=
  [.format, .rules, .maxInt, .snippetLength, .givenMaxInt]

/-- A check fails with a fault; whether it does is independent of the other checks. -/
def Fails (arguments : Arguments) (config : TomlTable) (fault : ConfigFault) : SettingCheck → Prop
  | .format => ∃ value, config.Has "output" "format" value ∧
      (∀ format : Format, value ≠ .text format.name) ∧ fault = .format value
  | .rules => ∃ value, config.Has "lexer" "rules" value ∧
      ((∃ items, value = .array items ∧ FirstBadItem items fault) ∨
        (∀ items, value ≠ .array items) ∧ fault = .rules value)
  | .maxInt => ∃ value, config.Has "lexer" "max-int" value ∧
      (∀ n, 0 < n → value ≠ .integer n) ∧ fault = .maxInt value
  | .snippetLength => ∃ value, config.Has "lexer" "snippet-length" value ∧
      (∀ n, 0 < n → value ≠ .integer n) ∧ fault = .snippetLength value
  | .givenMaxInt => ∃ n, arguments.maxInt = some n ∧ n ≤ 0 ∧ fault = .givenMaxInt n

/-- The first of the checks that fails does so with this fault. -/
inductive FirstFails (arguments : Arguments) (config : TomlTable) (fault : ConfigFault) :
    List SettingCheck → Prop where
  | here {check : SettingCheck} {later : List SettingCheck} (fails : Fails arguments config fault check) :
    FirstFails arguments config fault (check :: later)
  | later {check : SettingCheck} {later : List SettingCheck}
    (passes : ∀ other, ¬Fails arguments config other check)
    (first : FirstFails arguments config fault later) :
    FirstFails arguments config fault (check :: later)

theorem exists_firstFails_iff {checks : List SettingCheck} :
    (∃ fault, FirstFails arguments config fault checks) ↔
      ∃ check ∈ checks, ∃ fault, Fails arguments config fault check := by
  induction checks with
  | nil => simpa using fun fault h => by cases h
  | cons check checks ih =>
    rw [List.exists_mem_cons_iff, ← ih]
    constructor
    · rintro ⟨fault, fails | ⟨-, first⟩⟩
      · exact .inl ⟨fault, fails⟩
      · exact .inr ⟨fault, first⟩
    · intro h
      by_cases hfails : ∃ fault, Fails arguments config fault check
      · exact hfails.imp fun _ => .here
      · obtain ⟨fault, first⟩ := h.resolve_left hfails
        exact ⟨fault, .later (not_exists.1 hfails) first⟩

theorem firstFails_singleton {check : SettingCheck} :
    FirstFails arguments config fault [check] ↔ Fails arguments config fault check := by
  constructor
  · rintro (fails | ⟨-, ⟨⟩⟩)
    exact fails
  · exact .here

/-- What one check adds to those after it, when the result of the check is handed on to them. -/
theorem bind_eq_error_iff_firstFails {α β : Type} {check : SettingCheck} {later : List SettingCheck}
    {x : Except ConfigFault α} {rest : α → Except ConfigFault β}
    (hcheck : ∀ fault, x = .error fault ↔ Fails arguments config fault check)
    (hlater : ∀ a, rest a = .error fault ↔ FirstFails arguments config fault later) :
    x >>= rest = .error fault ↔ FirstFails arguments config fault (check :: later) := by
  cases x with
  | error other =>
    have fails := (hcheck other).1 rfl
    constructor
    · intro h
      cases h
      exact .here fails
    · rintro (here | ⟨passes, -⟩)
      · cases (hcheck fault).2 here
        rfl
      · exact absurd fails (passes other)
  | ok a =>
    have passes (other : ConfigFault) : ¬Fails arguments config other check := fun fails => by
      cases (hcheck other).2 fails
    refine (hlater a).trans ⟨.later passes, ?_⟩
    rintro (here | ⟨-, first⟩)
    · exact absurd here (passes fault)
    · exact first

end SettingCheck

open SettingCheck

/-- The first check that fails decides the fault. -/
theorem Options.ofConfig_eq_error_iff :
    ofConfig arguments config = .error fault ↔ FirstFails arguments config fault SettingCheck.all := by
  unfold ofConfig
  refine bind_eq_error_iff_firstFails (fun _ => ?_) fun format => ?_
  · simp only [TomlTable.checked_eq_error_iff, checkFormat_eq_error_iff, Fails]
  refine bind_eq_error_iff_firstFails (fun _ => ?_) fun rules => ?_
  · simp only [TomlTable.checked_eq_error_iff, checkRules_eq_error_iff, Fails]
  refine bind_eq_error_iff_firstFails (fun _ => ?_) fun ceiling => ?_
  · simp only [TomlTable.checked_eq_error_iff, checkPositive_eq_error_iff, Fails]
  refine bind_eq_error_iff_firstFails (fun _ => ?_) fun snippetLength => ?_
  · simp only [TomlTable.checked_eq_error_iff, checkPositive_eq_error_iff, Fails]
  rw [firstFails_singleton, Fails]
  cases hgiven : arguments.maxInt with
  | none =>
    refine iff_of_false (fun h => by cases h) ?_
    rintro ⟨n, hn, -⟩
    cases hn
  | some n =>
    by_cases hn : n ≤ 0
    · simp [hn, throw, throwThe, MonadExceptOf.throw, eq_comm]
    · simp [hn, pure, Except.pure]

/-! ## Messages -/

/-- The fault is about a value, or a part of one, that has no text. -/
def ConfigFault.IsUnwritable : ConfigFault → Prop
  | .format value | .rules value | .maxInt value | .snippetLength value => value.shown? = none
  | .givenMaxInt n => (Toml.integer n).shown? = none
  | .unwritableName => True
  | .table _ => False

/-- What a fault says: what is wrong, and the text of the value it is about, if that can be written. -/
inductive ConfigFault.Says : ConfigFault → Text → Prop where
  | format {value : Toml} {shown : Text} (shown_eq : value.shown? = some shown) :
    Says (.format value) ("invalid output format in config".toList ++ [':', ' '] ++ shown)
  | rules {value : Toml} {shown : Text} (shown_eq : value.shown? = some shown) :
    Says (.rules value)
      ("invalid rules in config (expected a list of names)".toList ++ [':', ' '] ++ shown)
  | unknownKind {name : Text} :
    Says (.table (.unknownKind name)) ("unknown token kind ".toList ++ quoted name)
  | duplicateKind {name : Text} :
    Says (.table (.duplicateKind name)) ("duplicate token kind ".toList ++ quoted name)
  | maxInt {value : Toml} {shown : Text} (shown_eq : value.shown? = some shown) :
    Says (.maxInt value)
      ("invalid max-int in config (expected a positive integer)".toList ++ [':', ' '] ++ shown)
  | snippetLength {value : Toml} {shown : Text} (shown_eq : value.shown? = some shown) :
    Says (.snippetLength value)
      ("invalid snippet-length in config (expected a positive integer)".toList ++ [':', ' '] ++ shown)
  | givenMaxInt {n : Int} {shown : Text} (shown_eq : (Toml.integer n).shown? = some shown) :
    Says (.givenMaxInt n)
      ("invalid --max-int (expected a positive integer)".toList ++ [':', ' '] ++ shown)
  | unwritable {fault : ConfigFault} (isUnwritable : fault.IsUnwritable) :
    Says fault ("Exceeds the limit (4300 digits) for integer string conversion".toList ++
      "; use sys.set_int_max_str_digits() to increase the limit".toList)

theorem ConfigFault.says_unwritableMessage {fault : ConfigFault} (h : fault.IsUnwritable) :
    fault.Says unwritableMessage := by
  have hmessage : unwritableMessage =
      "Exceeds the limit (4300 digits) for integer string conversion".toList ++
        "; use sys.set_int_max_str_digits() to increase the limit".toList := by
    decide +kernel
  rw [hmessage]
  exact .unwritable h

theorem ConfigFault.says_aboutValue {fault : ConfigFault} {message : String} {value : Toml}
    (hsome : ∀ shown, value.shown? = some shown →
      fault.Says (message.toList ++ [':', ' '] ++ shown))
    (hnone : value.shown? = none → fault.IsUnwritable) : fault.Says (aboutValue message value) := by
  unfold aboutValue
  cases hshown : value.shown? with
  | none => exact says_unwritableMessage (hnone hshown)
  | some shown => exact hsome shown hshown

theorem ConfigFault.says_message (fault : ConfigFault) : fault.Says fault.message := by
  cases fault with
  | format value => exact says_aboutValue (fun _ => .format) id
  | rules value => exact says_aboutValue (fun _ => .rules) id
  | table fault =>
    cases fault with
    | unknownKind name => exact .unknownKind
    | duplicateKind name => exact .duplicateKind
  | unwritableName => exact says_unwritableMessage trivial
  | maxInt value => exact says_aboutValue (fun _ => .maxInt) id
  | snippetLength value => exact says_aboutValue (fun _ => .snippetLength) id
  | givenMaxInt n =>
    rw [message]
    exact says_aboutValue (fun _ hshown => .givenMaxInt hshown) fun hnone => hnone

/-! ## What is wrong with a configuration -/

/-- An array is bad if some item of it names no kind, or two of them name the same. -/
theorem exists_firstBadItem_iff {items : List Toml} :
    (∃ fault, FirstBadItem items fault) ↔
      (∃ item ∈ items, ∀ kind, item ≠ Toml.ofKind kind) ∨
        ∃ kind, List.Sublist [Toml.ofKind kind, .ofKind kind] items := by
  constructor
  · rintro ⟨fault, kinds, item, later, rfl, -, bad⟩
    cases bad with
    | unknown noKind => exact .inl ⟨item, by simp, noKind⟩
    | unwritable name_eq =>
      refine .inl ⟨item, by simp, ?_⟩
      rintro kind rfl
      cases name_eq
    | @duplicate kind mem =>
      have hbefore : List.Sublist [Toml.ofKind kind] (kinds.map .ofKind) :=
        List.singleton_sublist.2 (List.mem_map_of_mem mem)
      exact .inr ⟨kind, hbefore.append (List.singleton_sublist.2 List.mem_cons_self)⟩
  · intro h
    obtain ⟨kinds, hnodup, rfl⟩ | hbad := exists_kinds_or_firstBadItem items
    · obtain ⟨item, hitem, noKind⟩ | ⟨kind, htwice⟩ := h
      · obtain ⟨kind, -, rfl⟩ := List.mem_map.1 hitem
        exact absurd rfl (noKind kind)
      · exact absurd htwice (List.nodup_iff_sublist.1 (hnodup.map Toml.ofKind_injective) _)
    · exact hbad

theorem exists_fails_format_iff :
    (∃ fault, Fails arguments config fault .format) ↔
      ∃ value, config.Has "output" "format" value ∧
        value ≠ .text "text".toList ∧ value ≠ .text "json".toList := by
  have hformats (value : Toml) : (∀ format : Format, value ≠ .text format.name) ↔
      value ≠ .text "text".toList ∧ value ≠ .text "json".toList :=
    ⟨fun h => ⟨h .plain, h .structured⟩, fun h format => by cases format; exacts [h.1, h.2]⟩
  simp only [Fails, hformats]
  exact ⟨fun ⟨_, value, has, h, _⟩ => ⟨value, has, h⟩, fun ⟨value, has, h⟩ => ⟨_, value, has, h, rfl⟩⟩

theorem exists_fails_rules_iff :
    (∃ fault, Fails arguments config fault .rules) ↔
      (∃ value, config.Has "lexer" "rules" value ∧ ∀ items, value ≠ .array items) ∨
        ∃ items, config.Has "lexer" "rules" (.array items) ∧
          ((∃ item ∈ items, ∀ kind, item ≠ Toml.ofKind kind) ∨
            ∃ kind, List.Sublist [Toml.ofKind kind, .ofKind kind] items) := by
  simp only [Fails, ← exists_firstBadItem_iff]
  constructor
  · rintro ⟨fault, value, has, ⟨items, rfl, first⟩ | ⟨noArray, -⟩⟩
    · exact .inr ⟨items, has, fault, first⟩
    · exact .inl ⟨value, has, noArray⟩
  · rintro (⟨value, has, noArray⟩ | ⟨items, has, fault, first⟩)
    · exact ⟨_, value, has, .inr ⟨noArray, rfl⟩⟩
    · exact ⟨fault, _, has, .inl ⟨items, rfl, first⟩⟩

/-! ## Overriding -/

/-- What an option is: given on the command line, or read from a value the configuration has if none is
given, or the default if there is no such value either. -/
inductive Chosen {α : Type} (given : Option α) (has : Toml → Prop) (reads : Toml → α → Prop)
    (default : α) : α → Prop where
  | given {a : α} (given_eq : given = some a) : Chosen given has reads default a
  | configured {a : α} {value : Toml} (given_eq : given = none) (hvalue : has value)
    (hreads : reads value a) : Chosen given has reads default a
  | default (given_eq : given = none) (absent : ∀ value, ¬has value) :
    Chosen given has reads default default

section

variable {α : Type} {reads : Toml → α → Prop}

theorem Chosen.holds {given : Option α} {has : Toml → Prop} {default a : α} {P : α → Prop}
    (h : Chosen given has reads default a)
    (hgiven : ∀ a, given = some a → P a) (hreads : ∀ value a, reads value a → P a)
    (hdefault : P default) : P a := by
  cases h with
  | given given_eq => exact hgiven a given_eq
  | configured _ _ hvalue => exact hreads _ a hvalue
  | default => exact hdefault

theorem Chosen.of_checked {name key : String} {check : Toml → Except ConfigFault α} {found : Option α}
    (h : (config.section name).checked key check = .ok found)
    (hreads : ∀ value a, check value = .ok a → reads value a) (given : Option α) (default : α) :
    Chosen given (config.Has name key) reads default ((given.or found).getD default) := by
  cases given with
  | some a => exact .given rfl
  | none =>
    obtain ⟨value, a, has, hcheck, rfl⟩ | ⟨absent, rfl⟩ := TomlTable.checked_eq_ok_iff.1 h
    · exact .configured rfl has (hreads value a hcheck)
    · exact .default rfl absent

end

/-- The value is an array of the names of different kinds, and the rules are their standard ones. -/
def Toml.IsRules (value : Toml) (rules : List Rule) : Prop :=
  ∃ kinds : List Kind, kinds.Nodup ∧ value = .array (kinds.map .ofKind) ∧ rules = kinds.map .standard

def Toml.IsPositive (value : Toml) (n : Int) : Prop :=
  value = .integer n ∧ 0 < n

/-- Each option that a configuration can set is chosen on its own, and what is chosen can be used; the
others are taken from the command line. -/
structure Options.Merges (arguments : Arguments) (config : TomlTable) (options : Options) : Prop where
  input_eq : options.input = .ofText arguments.input
  output_eq : options.output = (arguments.output.filter (· ≠ [])).map .ofText
  watch_eq : options.watch = arguments.watch
  debug_eq : options.debug = arguments.debug
  verbose_eq : options.verbose = arguments.verbose
  format : Chosen arguments.format (config.Has "output" "format")
    (fun value format => value = .text format.name) .plain options.format
  rules : Chosen none (config.Has "lexer" "rules") Toml.IsRules standardRules
    options.lexer.rules
  rules_nodup : (options.lexer.rules.map Rule.kind).Nodup
  ceiling : ∃ m, options.lexer.ceiling = some m ∧ 0 < m ∧
    Chosen arguments.maxInt (config.Has "lexer" "max-int") Toml.IsPositive standardCeiling m
  snippetLength : Chosen none (config.Has "lexer" "snippet-length") Toml.IsPositive 20
    options.lexer.snippetLength
  snippetLength_pos : 0 < options.lexer.snippetLength

theorem Options.merges_of_ofConfig {options : Options} (h : ofConfig arguments config = .ok options) :
    options.Merges arguments config := by
  unfold ofConfig at h
  obtain ⟨format, hformat, h⟩ := bind_eq_ok h
  obtain ⟨rules, hrules, h⟩ := bind_eq_ok h
  obtain ⟨ceiling, hceiling, h⟩ := bind_eq_ok h
  obtain ⟨snippetLength, hsnippet, h⟩ := bind_eq_ok h
  split at h
  · cases h
  next hgiven =>
  cases h
  have hpos (fault : Toml → ConfigFault) (value : Toml) (n : Int) :
      checkPositive fault value = .ok n → value.IsPositive n := checkPositive_eq_ok_iff.1
  have rules_chosen :=
    Chosen.of_checked hrules (fun _ _ => checkRules_eq_ok_iff.1) none standardRules
  have ceiling_chosen := Chosen.of_checked hceiling (hpos _) arguments.maxInt standardCeiling
  have snippetLength_chosen := Chosen.of_checked hsnippet (hpos _) none 20
  exact {
    input_eq := rfl
    output_eq := rfl
    watch_eq := rfl
    debug_eq := rfl
    verbose_eq := rfl
    format := Chosen.of_checked hformat (fun _ _ => checkFormat_eq_ok_iff.1) arguments.format .plain
    rules := rules_chosen
    rules_nodup := by
      apply rules_chosen.holds (P := fun rules => (rules.map Rule.kind).Nodup)
      · rintro _ ⟨⟩
      · rintro _ _ ⟨kinds, hnodup, -, rfl⟩
        rw [map_kind_map_standard]
        exact hnodup
      · rw [standardRules, map_kind_map_standard]
        decide
    ceiling := by
      refine ⟨_, rfl, ?_, ceiling_chosen⟩
      apply ceiling_chosen.holds (P := (0 < ·))
      · intro n hn
        simpa [hn] using hgiven
      · exact fun _ _ h => h.2
      · decide
    snippetLength := snippetLength_chosen
    snippetLength_pos := by
      apply snippetLength_chosen.holds (P := (0 < ·))
      · rintro _ ⟨⟩
      · exact fun _ _ h => h.2
      · decide }

/-- There are no options exactly if the configuration has a format that is not one of the two, rules
that are no array of names of different kinds, or a number that is not positive, or if the ceiling that
is given is not positive. The first check that fails decides the fault, and if none does, each option is
chosen on its own. -/
theorem Options.ofConfig_fails_or_merges (arguments : Arguments) (config : TomlTable) :
    ((∃ fault, ofConfig arguments config = .error fault) ↔
      (∃ value, config.Has "output" "format" value ∧
        value ≠ .text "text".toList ∧ value ≠ .text "json".toList) ∨
      ((∃ value, config.Has "lexer" "rules" value ∧ ∀ items, value ≠ .array items) ∨
        ∃ items, config.Has "lexer" "rules" (.array items) ∧
          ((∃ item ∈ items, ∀ kind, item ≠ Toml.ofKind kind) ∨
            ∃ kind, List.Sublist [Toml.ofKind kind, .ofKind kind] items)) ∨
      (∃ value, config.Has "lexer" "max-int" value ∧ ∀ n, 0 < n → value ≠ .integer n) ∨
      (∃ value, config.Has "lexer" "snippet-length" value ∧ ∀ n, 0 < n → value ≠ .integer n) ∨
      ∃ n, arguments.maxInt = some n ∧ n ≤ 0) ∧
    (∀ fault, ofConfig arguments config = .error fault ↔
      FirstFails arguments config fault SettingCheck.all) ∧
    (∀ fault, FirstFails arguments config fault SettingCheck.all → fault.Says fault.message) ∧
    ∀ options, ofConfig arguments config = .ok options → options.Merges arguments config := by
  refine ⟨?_, fun _ => ofConfig_eq_error_iff, fun fault _ => fault.says_message,
    fun _ => merges_of_ofConfig⟩
  simp only [ofConfig_eq_error_iff, exists_firstFails_iff, SettingCheck.all,
    List.exists_mem_cons_iff, List.not_mem_nil, false_and, exists_false, or_false]
  rw [exists_fails_format_iff, exists_fails_rules_iff]
  -- the other checks have one fault for a value
  simp only [Fails, exists_comm (α := ConfigFault), exists_and_left, exists_eq, and_true]

end LispLex
