import ConfigTemplate.Settings.Basic
import Mathlib.Data.List.Basic

/-!
# Access to settings

A key is made of names with dots between them, and these lead through mappings to the value that is
stored there, or to none. The ways to read a key agree on it: a key is contained exactly if there is
a value, the item of the key is that value, and reading the key with a default gives it unless it is
null. The default is given where the key is not set, that is, where the way breaks off or meets
null.
-/

namespace ConfigTemplate

/-! ### Separated texts -/

namespace Text

theorem not_mem_of_mem_splitOn {mark : Char} {cs part : List Char}
    (mem : part ∈ cs.splitOn mark) : mark ∉ part := by
  induction cs generalizing part with
  | nil =>
    rw [List.splitOn_nil, List.mem_singleton] at mem
    exact mem ▸ List.not_mem_nil
  | cons c cs ih =>
    rw [List.splitOn_cons_eq_if_modifyHead] at mem
    by_cases same : c = mark
    · rw [if_pos (beq_iff_eq.2 same)] at mem
      obtain rfl | later := List.mem_cons.1 mem
      · exact List.not_mem_nil
      · exact ih later
    · rw [if_neg (mt beq_iff_eq.1 same)] at mem
      obtain ⟨first, rest, split⟩ := List.exists_cons_of_ne_nil (List.splitOn_ne_nil mark cs)
      rw [split] at ih mem
      obtain rfl | later := List.mem_cons.1 mem
      · rw [List.mem_cons, not_or]
        exact ⟨Ne.symm same, ih List.mem_cons_self⟩
      · exact ih (List.mem_cons_of_mem _ later)

/-- Texts that were put together with marks between them are found again between the marks. -/
theorem splitOn_intercalate {mark : Char} {texts : List String} (some : texts ≠ [])
    (each : ∀ text ∈ texts, mark ∉ text.toList) :
    (((String.singleton mark).intercalate texts).toList.splitOn mark).map String.ofList =
      texts := by
  have apart : ∀ cs ∈ texts.map String.toList, mark ∉ cs := by
    intro cs mem
    obtain ⟨text, inside, rfl⟩ := List.mem_map.1 mem
    exact each text inside
  rw [String.toList_intercalate, String.toList_singleton,
    List.splitOn_intercalate mark apart (by simpa using some), List.map_map]
  exact List.map_id'' (fun text => String.ofList_toList) texts

/-- A text is put together from what it has between its marks. -/
theorem intercalate_splitOn (mark : Char) (text : String) :
    (String.singleton mark).intercalate ((text.toList.splitOn mark).map String.ofList) = text := by
  have chars : ((text.toList.splitOn mark).map String.ofList).map String.toList =
      text.toList.splitOn mark := by
    rw [List.map_map]
    exact List.map_id'' (fun cs => String.toList_ofList) _
  rw [← String.toList_inj, String.toList_intercalate, String.toList_singleton, chars,
    List.intercalate_splitOn]

end Text

namespace Settings

open Yaml (Key Value Mapping)

/-! ### Keys -/

/-- Whether a key is made of names with dots between them. -/
def Spells (names : List String) (key : String) : Prop :=
  names ≠ [] ∧ (∀ name ∈ names, '.' ∉ name.toList) ∧ ".".intercalate names = key

/-- A key is made of one list of names. -/
theorem spells_iff {others : List String} {key : String} :
    Spells others key ↔ others = names key := by
  constructor
  · rintro ⟨some, apart, rfl⟩
    exact (Text.splitOn_intercalate some apart).symm
  · rintro rfl
    refine ⟨by simp [names, List.splitOn_ne_nil], ?_, Text.intercalate_splitOn '.' key⟩
    intro name mem
    obtain ⟨part, inside, rfl⟩ := List.mem_map.1 mem
    rw [String.toList_ofList]
    exact Text.not_mem_of_mem_splitOn inside

/-! ### Values at paths -/

/-- The value that keys lead to through mappings. -/
def reach : List Key → Value → Option Value
  | [], value => some value
  | key :: rest, .map entries =>
    match Mapping.get? key entries with
    | some value => reach rest value
    | none => none
  | _ :: _, _ => none

@[simp] theorem reach_nil (value : Value) : reach [] value = some value := by
  cases value <;> rfl

theorem reach_cons_map (key : Key) (rest : List Key) (entries : Mapping) :
    reach (key :: rest) (.map entries) = (Mapping.get? key entries).bind (reach rest) := by
  rw [reach]
  cases Mapping.get? key entries <;> rfl

theorem reach_cons_of_mapping?_eq_none {value : Value} (h : value.mapping? = none) (key : Key)
    (rest : List Key) : reach (key :: rest) value = none := by
  cases value with
  | map entries => cases h
  | _ => rfl

/-- Whether names lead to no value but null. -/
inductive Unset : List String → Value → Prop
  /-- A mapping does not have the next name. -/
  | absent {name : String} {rest : List String} {entries : Mapping}
      (missing : Mapping.get? (.str name) entries = none) : Unset (name :: rest) (.map entries)
  /-- A value on the way, or the last one, is null. -/
  | null {names : List String} : Unset names .null
  /-- A value on the way is no mapping. -/
  | blocked {name : String} {rest : List String} {value : Value} (other : value.mapping? = none) :
      Unset (name :: rest) value
  | inside {name : String} {rest : List String} {entries : Mapping} {next : Value}
      (found : Mapping.get? (.str name) entries = some next) (further : Unset rest next) :
      Unset (name :: rest) (.map entries)

/-- Names that lead to no value but null do so in one of these ways. -/
theorem unset_iff {names : List String} {value : Value} :
    Unset names value ↔ ∀ found, reach (names.map .str) value = some found → found = .null := by
  constructor
  · intro unset found leads
    induction unset with
    | absent missing =>
      rw [List.map_cons, reach_cons_map, missing] at leads
      cases leads
    | @null names =>
      cases names with
      | nil => exact (Option.some.inj ((reach_nil _).symm.trans leads)).symm
      | cons name rest => cases leads
    | blocked other =>
      rw [List.map_cons, reach_cons_of_mapping?_eq_none other] at leads
      cases leads
    | inside there _ ih =>
      rw [List.map_cons, reach_cons_map, there] at leads
      exact ih leads
  · intro onlyNull
    induction names generalizing value with
    | nil =>
      obtain rfl := onlyNull value (reach_nil value)
      exact .null
    | cons name rest ih =>
      cases value with
      | map entries =>
        cases there : Mapping.get? (.str name) entries with
        | none => exact .absent there
        | some next =>
          refine .inside there (ih fun found leads => onlyNull found ?_)
          rw [List.map_cons, reach_cons_map, there]
          exact leads
      | _ => exact .blocked rfl

/-! ### Ways to read a key -/

/-- The value that names lead to. -/
def stored? (settings : Settings) (names : List String) : Option Value :=
  reach (names.map .str) (.map settings.data)

theorem hasAt_eq (names : List String) (value : Value) :
    hasAt names value = (reach (names.map .str) value).isSome := by
  induction names generalizing value with
  | nil => rw [hasAt, List.map_nil, reach_nil, Option.isSome_some]
  | cons name rest ih =>
    cases value with
    | map entries =>
      rw [hasAt, List.map_cons, reach_cons_map]
      cases Mapping.get? (.str name) entries with
      | none => rfl
      | some next => exact ih next
    | _ => rfl

theorem setAt?_eq (names : List String) {value : Value} (notNull : value.isNull = false) :
    setAt? names value = (reach (names.map .str) value).filter (!·.isNull) := by
  induction names generalizing value with
  | nil =>
    rw [setAt?, List.map_nil, reach_nil, Option.filter_some, notNull]
    rfl
  | cons name rest ih =>
    cases value with
    | map entries =>
      rw [setAt?, List.map_cons, reach_cons_map]
      cases Mapping.get? (.str name) entries with
      | none => rfl
      | some next =>
        cases next with
        | null => cases rest <;> rfl
        | _ => exact ih rfl
    | _ => rfl

variable {settings : Settings} {key : String}

theorem contains_eq : settings.contains key = (settings.stored? (names key)).isSome :=
  hasAt_eq _ _

theorem set?_eq : settings.set? key = (settings.stored? (names key)).filter (!·.isNull) :=
  setAt?_eq _ rfl

theorem get_null_eq : settings.get key .null = (settings.stored? (names key)).getD .null := by
  rw [get, set?_eq]
  cases settings.stored? (names key) with
  | none => rfl
  | some value => cases value <;> rfl

theorem item?_eq : settings.item? key = settings.stored? (names key) := by
  rw [item?, contains_eq, get_null_eq]
  cases settings.stored? (names key) <;> rfl

theorem get_of_stored? {value : Value} (found : settings.stored? (names key) = some value)
    (notNull : value ≠ .null) (default : Value) : settings.get key default = value := by
  have kept : value.isNull = false := by
    cases value with
    | null => exact absurd rfl notNull
    | _ => rfl
  rw [get, set?_eq, found, Option.filter_some, kept]
  rfl

theorem get_of_unset (unset : Unset (names key) (.map settings.data)) (default : Value) :
    settings.get key default = default := by
  rw [get, set?_eq]
  cases found : settings.stored? (names key) with
  | none => rfl
  | some value =>
    obtain rfl := unset_iff.1 unset value found
    rfl

/-- All ways to read a key agree on the value that is stored under its names. -/
theorem accessors_agree (settings : Settings) (key : String) (default : Value) :
    ∃ names, (∀ others, Spells others key ↔ others = names) ∧
      (settings.contains key = true ↔ ∃ value, settings.item? key = some value) ∧
      settings.item? key = settings.stored? names ∧
      (∀ value, settings.stored? names = some value → value ≠ .null →
        settings.get key default = value) ∧
      (Unset names (.map settings.data) → settings.get key default = default) ∧
      (Unset names (.map settings.data) ↔
        ∀ value, settings.stored? names = some value → value = .null) := by
  refine ⟨names key, fun others => spells_iff, contains_iff, item?_eq, ?_, ?_, unset_iff⟩
  · intro value found notNull
    exact get_of_stored? found notNull default
  · intro unset
    exact get_of_unset unset default

end Settings

end ConfigTemplate
