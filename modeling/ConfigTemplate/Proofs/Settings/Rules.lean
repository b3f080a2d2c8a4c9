import ConfigTemplate.Proofs.Json.Scalar
import ConfigTemplate.Proofs.Settings.Access
import ConfigTemplate.Settings.Load

/-!
# Rules of settings

What settings have to be, as a table of rules. A rule is about the value of one key and says in
words what that value has to be. Settings that violate no rule have values of the types that their
uses need. The message about other settings has one line for each rule that they violate, since no
value is shown on more than one line. There is no message where it would have to show an integer
with too many digits.
-/

namespace ConfigTemplate

/-! ### Lines -/

namespace Text

/-- Whether a text has no line break. -/
def IsLine (text : String) : Prop := '\n' ∉ text.toList

instance (text : String) : Decidable (IsLine text) := inferInstanceAs (Decidable (_ ∉ _))

/-- The lines of a text. -/
def lines (text : String) : List String := (text.toList.splitOn '\n').map String.ofList

theorem isLine_ofList {cs : List Char} : IsLine (String.ofList cs) ↔ '\n' ∉ cs := by
  rw [IsLine, String.toList_ofList]

theorem IsLine.append {first second : String} (one : IsLine first) (other : IsLine second) :
    IsLine (first ++ second) := by
  rw [IsLine, String.toList_append, List.mem_append, not_or]
  exact ⟨one, other⟩

theorem IsLine.intercalate {separator : String} {texts : List String} (between : IsLine separator)
    (each : ∀ text ∈ texts, IsLine text) : IsLine (separator.intercalate texts) := by
  rw [IsLine, String.toList_intercalate]
  induction texts with
  | nil => exact List.not_mem_nil
  | cons text rest ih =>
    rw [List.forall_mem_cons] at each
    cases rest with
    | nil => simpa [IsLine] using each.1
    | cons next rest =>
      rw [List.map_cons, List.map_cons, List.intercalate_cons_cons, List.append_assoc,
        List.mem_append, List.mem_append, not_or, not_or]
      exact ⟨each.1, between, ih each.2⟩

/-- The lines of texts that were put on a line each. -/
theorem lines_intercalate {texts : List String} (some : texts ≠ [])
    (each : ∀ text ∈ texts, IsLine text) : lines (String.intercalate "\n" texts) = texts :=
  splitOn_intercalate some each

theorem lineBreak_not_mem_hexDigits (width n : Nat) : '\n' ∉ hexDigits width n := by
  have digit : ∀ m < 16, '\n' ≠ Nat.digitChar m := by decide
  induction width generalizing n with
  | zero => exact List.not_mem_nil
  | succ width ih =>
    rw [hexDigits, List.mem_append, List.mem_singleton, not_or]
    exact ⟨ih _, digit _ (Nat.mod_lt _ (by omega))⟩

theorem Quoted.lineBreak_ne_delimiter (cs : List Char) : '\n' ≠ delimiter cs := by
  unfold delimiter
  split <;> decide

theorem Quoted.lineBreak_not_mem_escape {quote : Char} (other : '\n' ≠ quote) (c : Char) :
    '\n' ∉ escape quote c := by
  have digits := lineBreak_not_mem_hexDigits
  unfold escape
  split
  next marked =>
    have : '\n' ≠ c := by
      rintro rfl
      simp [other] at marked
    simpa using this
  · split
    · decide
    next unmarked =>
      have plain : '\n' ≠ c := fun same => unmarked same.symm
      repeat' split
      all_goals simp [digits, plain]

theorem isLine_quoted (text : String) : IsLine (quoted text) := by
  have quote := Quoted.lineBreak_ne_delimiter text.toList
  rw [quoted, isLine_ofList]
  simp only [List.mem_cons, List.mem_append, List.mem_flatMap, List.not_mem_nil, or_false, not_or,
    not_exists, not_and]
  exact ⟨⟨quote, fun c _ => Quoted.lineBreak_not_mem_escape quote c⟩, quote⟩

end Text

open Text (IsLine isLine_ofList)

namespace Decimal

theorem isLine_nat (n : Nat) : IsLine n.repr := by
  rw [Nat.repr, isLine_ofList]
  exact fun mem => absurd (isNumeric_of_mem_toDigits mem) (by decide)

theorem isLine_int (n : Int) : IsLine n.repr :=
  fun mem => absurd (isNumeric_of_mem_int mem) (by decide)

theorem isLine_float (x : Float) : IsLine (Style.message.float x) :=
  fun mem => absurd (mem_float mem) (by decide)

end Decimal

/-! ### Shown values -/

namespace Yaml

open Decimal (isLine_nat isLine_int isLine_float)
open Text (isLine_quoted)

theorem isLine_shownParts {name : String} {parts : List String} (named : IsLine name)
    (each : ∀ part ∈ parts, IsLine part) : IsLine (shownParts name parts) :=
  ((named.append (by decide)).append (.intercalate (by decide) each)).append (by decide)

theorem Date.isLine_shown (d : Date) : IsLine d.shown :=
  isLine_shownParts (by decide) (by simp [isLine_nat])

theorem isLine_shownDuration (seconds : Int) : IsLine (shownDuration seconds) := by
  have part (name : String) (named : IsLine name) (n : Int) : IsLine (name ++ n.repr) :=
    named.append (isLine_int n)
  refine isLine_shownParts (by decide) ?_
  simp only [List.forall_mem_append]
  constructor <;> split
  · simp
  · exact List.forall_mem_singleton.2 (part "days=" (by decide) _)
  · simp
  · exact List.forall_mem_singleton.2 (part "seconds=" (by decide) _)

theorem isLine_shownOffset (seconds : Int) : IsLine (shownOffset seconds) := by
  unfold shownOffset
  split
  · decide
  · exact isLine_shownParts (by decide) (by simp [isLine_shownDuration])

theorem Time.isLine_shown (t : Time) : IsLine t.shown := by
  have zone (seconds : Int) : IsLine ("tzinfo=" ++ shownOffset seconds) :=
    .append (by decide) (isLine_shownOffset seconds)
  refine isLine_shownParts (by decide) ?_
  simp only [List.forall_mem_append]
  refine ⟨⟨by simp [isLine_nat], ?_⟩, ?_⟩
  · repeat' split
    all_goals simp [isLine_nat]
  · split <;> simp [zone]

theorem lineBreak_not_mem_escapeByte {quote : Char} (other : '\n' ≠ quote) (b : UInt8) :
    '\n' ∉ escapeByte quote b := by
  have digits := Text.lineBreak_not_mem_hexDigits
  unfold escapeByte
  dsimp only
  split
  next marked =>
    have : '\n' ≠ Char.ofNat b.toNat := by
      intro same
      simp [← same, other] at marked
    simpa using this
  · split
    · decide
    next unmarked =>
      have plain : '\n' ≠ Char.ofNat b.toNat := fun same => unmarked same.symm
      repeat' split
      all_goals simp [digits, plain]

theorem isLine_shownBytes (content : List UInt8) : IsLine (shownBytes content) := by
  have quote := Text.Quoted.lineBreak_ne_delimiter (content.map fun b => Char.ofNat b.toNat)
  rw [shownBytes, isLine_ofList]
  simp only [List.mem_cons, List.mem_append, List.mem_flatMap, List.not_mem_nil, or_false, not_or,
    not_exists, not_and]
  exact ⟨⟨by decide, quote, fun b _ => lineBreak_not_mem_escapeByte quote b⟩, quote⟩

theorem Key.isLine_shown (key : Key) : IsLine key.shown := by
  match key with
  | .null | .bool true | .bool false => decide
  | .int n => exact isLine_int n
  | .float bits => exact isLine_float _
  | .str s => exact isLine_quoted s
  | .bytes content => exact isLine_shownBytes content
  | .date d => exact d.isLine_shown
  | .time t => exact t.isLine_shown

namespace Value

mutual

/-- A value is shown on one line. -/
theorem isLine_shown : ∀ value : Value, IsLine value.shown
  | .null | .bool true | .bool false | .set [] | .again true | .again false => by
    simp only [shown]
    decide
  | .int n => by
    rw [shown]
    exact isLine_int n
  | .float x => by
    rw [shown]
    exact isLine_float x
  | .str s => by
    rw [shown]
    exact isLine_quoted s
  | .bytes content => by
    rw [shown]
    exact isLine_shownBytes content
  | .date d => by
    rw [shown]
    exact d.isLine_shown
  | .time t => by
    rw [shown]
    exact t.isLine_shown
  | .seq items => by
    rw [shown]
    exact .append (.append (by decide) (.intercalate (by decide) (isLine_shownItems items)))
      (by decide)
  | .map entries => by
    rw [shown]
    exact .append (.append (by decide) (.intercalate (by decide) (isLine_shownEntries entries)))
      (by decide)
  | .set (key :: keys) => by
    have each : ∀ text ∈ (key :: keys).map Key.shown, IsLine text := by
      intro text mem
      obtain ⟨key, -, rfl⟩ := List.mem_map.1 mem
      exact key.isLine_shown
    rw [shown]
    · exact .append (.append (by decide) (.intercalate (by decide) each)) (by decide)
    · exact List.cons_ne_nil _ _
  | .pair first second => by
    rw [shown]
    exact ((((IsLine.append (by decide) (isLine_shown first)).append (by decide)).append
      (isLine_shown second))).append (by decide)

theorem isLine_shownItems : ∀ items : List Value, ∀ text ∈ shownItems items, IsLine text
  | [] => by simp [shownItems]
  | item :: rest => by
    rw [shownItems, List.forall_mem_cons]
    exact ⟨isLine_shown item, isLine_shownItems rest⟩

theorem isLine_shownEntries :
    ∀ entries : List (Key × Value), ∀ text ∈ shownEntries entries, IsLine text
  | [] => by simp [shownEntries]
  | (key, value) :: rest => by
    rw [shownEntries, List.forall_mem_cons]
    exact ⟨(key.isLine_shown.append (by decide)).append (isLine_shown value),
      isLine_shownEntries rest⟩

end

theorem isLine_typeName (value : Value) : IsLine value.typeName := by
  match value with
  | .null | .bool _ | .int _ | .float _ | .str _ | .bytes _ | .date _ | .time _ | .seq _ | .map _
  | .set _ | .pair .. | .again true | .again false => simp only [typeName]; decide

end Value

end Yaml

/-! ### The table of rules -/

namespace Settings

open Yaml (Value Mapping)

/-- A rule of settings. -/
structure Rule where
  /-- The key whose value the rule is about. -/
  key : String
  /-- What the value has to be, in words. -/
  demand : String
  /-- Whether a value, null where there is none, is what it has to be. -/
  isMet : Value → Bool
  /-- How a value that is something else is shown. -/
  shown : Value → String
  /-- Whether it has too many digits to be shown. -/
  isTooLong : Value → Bool

/-- The line of a message about a value that a rule forbids. -/
def Rule.line (rule : Rule) (value : Value) : String :=
  s!"Setting '{rule.key}' must be {rule.demand}, got {rule.shown value}"

/-- A rule that shows the value that it forbids. -/
def valueRule (key demand : String) (isMet : Value → Bool) : Rule :=
  ⟨key, demand, isMet, Value.shown, Value.isTooLong⟩

/-- Null, or a value with a property. -/
def orNull (test : Value → Bool) (value : Value) : Bool := value.isNull || test value

/-- The rule about a section. -/
def sectionRule (key : String) : Rule :=
  ⟨key, "a mapping", orNull fun value => value.mapping?.isSome, Value.typeName, fun _ => false⟩

/-- The rules about sections. -/
def sectionRules : List Rule := documented.map sectionRule

/-- The rules about values in sections. -/
def valueRules : List Rule :=
  [valueRule "resolver.unique_match" "true or false" isTruthValue,
    valueRule "resolver.external" "true or false" isTruthValue,
    valueRule "resolver.max_substitutions" "a positive integer" (orNull isPositive),
    valueRule "shell.executable" "a string" (orNull isText),
    valueRule "output.indent" "a non-negative integer" (orNull isNatural),
    valueRule "logging.console_type" "'rich' or 'plain'" (orNull isConsole)]

variable (settings : Settings)

/-- The value that a rule is about; null where there is none. -/
def subject (rule : Rule) : Value := settings.get rule.key .null

/-- The rules of a stage that settings violate. -/
def violated (stage : List Rule) : List Rule :=
  stage.filter fun rule => !rule.isMet (settings.subject rule)

/-- The rules that settings violate: those about sections, or else those about values. -/
def broken : List Rule :=
  if settings.violated sectionRules = [] then settings.violated valueRules
  else settings.violated sectionRules

/-- The line of the message about a rule that settings violate. -/
def complaint (rule : Rule) : String := rule.line (settings.subject rule)

/-- The rules that settings violate with values that have too many digits to be shown. -/
def unspoken : List Rule :=
  settings.broken.filter fun rule => rule.isTooLong (settings.subject rule)

/-- What a violation contributes to a message: its line, and whether there are too many digits to
show in it. -/
def Violation.account (violation : Violation) : String × Bool :=
  (violation.line, violation.isTooLong)

/-- What a rule that settings violate contributes to a message. -/
def account (rule : Rule) : String × Bool :=
  (settings.complaint rule, rule.isTooLong (settings.subject rule))

/-- Settings whose values have the types that their uses need. -/
structure Usable : Prop where
  /-- A documented section is a mapping, unless it is null or absent. -/
  sections : ∀ name ∈ documented, ∀ value,
    Mapping.get? (.str name) settings.data = some value →
      value = .null ∨ ∃ entries, value = .map entries
  uniqueMatch : settings.item? "resolver.unique_match" = some (.bool settings.uniqueMatch)
  external : settings.item? "resolver.external" = some (.bool settings.external)
  maxSubstitutions : ∃ n : Int, settings.maxSubstitutions = .int n ∧ 1 ≤ n
  shellExecutable : settings.shellExecutable = .null ∨ ∃ text, settings.shellExecutable = .str text
  indent : ∃ n : Int, settings.indent = .int n ∧ 0 ≤ n

/-! ### What is checked -/

variable {settings}

theorem isNull_of_set? {key : String} {value : Value} (h : settings.set? key = some value) :
    value.isNull = false := by
  rw [set?_eq, Option.filter_eq_some_iff] at h
  simpa using h.2

theorem get_null (key : String) : settings.get key .null = (settings.item? key).getD .null := by
  rw [get_null_eq, item?_eq]

theorem violated_cons (rule next : Rule) (rest : List Rule) :
    settings.violated (rule :: next :: rest) =
      settings.violated [rule] ++ settings.violated (next :: rest) :=
  List.filter_append [rule] (next :: rest)

theorem violated_singleton (rule : Rule) : settings.violated [rule] =
    if rule.isMet (settings.subject rule) then [] else [rule] := by
  cases met : rule.isMet (settings.subject rule) <;> simp [violated, met]

section

variable {key demand : String} {test : Value → Bool} {violation : String → Value → Violation}

theorem map_account_checkPresent
    (worded : ∀ value,
      (violation key value).account = ((valueRule key demand test).line value, value.isTooLong)) :
    (settings.checkPresent key test violation).map Violation.account =
      (settings.violated [valueRule key demand test]).map settings.account := by
  by_cases met : test (settings.get key .null) = true
  · simp [violated_singleton, checkPresent, subject, valueRule, met]
  · simp [violated_singleton, checkPresent, account, complaint, subject, valueRule, met, worded]

theorem map_account_checkSet
    (worded : ∀ value, (violation key value).account =
      ((valueRule key demand (orNull test)).line value, value.isTooLong)) :
    (settings.checkSet key test violation).map Violation.account =
      (settings.violated [valueRule key demand (orNull test)]).map settings.account := by
  cases set : settings.set? key with
  | none => simp [violated_singleton, checkSet, subject, get, set, valueRule, orNull, Value.isNull]
  | some value =>
    have present := isNull_of_set? set
    by_cases met : test value = true
    · simp [violated_singleton, checkSet, subject, get, set, valueRule, orNull, met]
    · simp [violated_singleton, checkSet, account, complaint, subject, get, set, valueRule, orNull,
        present, met, worded]

end

/-- Each violation of a rule about values contributes what the rule contributes. -/
theorem map_account_valueViolations : settings.valueViolations.map Violation.account =
    (settings.violated valueRules).map settings.account := by
  simp only [valueViolations, valueRules, violated_cons, List.map_append, List.append_assoc]
  refine congrArg₂ (· ++ ·) (map_account_checkPresent ?_) <|
    congrArg₂ (· ++ ·) (map_account_checkPresent ?_) <|
    congrArg₂ (· ++ ·) (map_account_checkSet ?_) <|
    congrArg₂ (· ++ ·) (map_account_checkSet ?_) <|
    congrArg₂ (· ++ ·) (map_account_checkSet ?_) (map_account_checkSet ?_)
  all_goals
    simp [Violation.account, Violation.line, Violation.isTooLong, Rule.line, valueRule, toString]

theorem item?_of_documented {name : String} (h : name ∈ documented) :
    settings.item? name = Mapping.get? (.str name) settings.data := by
  have single : names name = [name] := by
    revert name
    decide
  rw [item?_eq, single, stored?, List.map_singleton, reach_cons_map]
  cases Mapping.get? (.str name) settings.data with
  | none => rfl
  | some value => exact reach_nil value

theorem map_account_violated (stage : List Rule) :
    (settings.violated stage).map settings.account = stage.filterMap fun rule =>
      if rule.isMet (settings.subject rule) then none else some (settings.account rule) := by
  induction stage with
  | nil => rfl
  | cons rule rest ih =>
    rw [List.filterMap_cons, ← ih, violated, List.filter_cons]
    cases rule.isMet (settings.subject rule) <;> rfl

/-- Each violation of a rule about sections contributes what the rule contributes. -/
theorem map_account_sectionViolations : settings.sectionViolations.map Violation.account =
    (settings.violated sectionRules).map settings.account := by
  rw [map_account_violated, sectionViolations, sectionRules, List.map_filterMap,
    List.filterMap_map]
  refine List.filterMap_congr fun name mem => ?_
  have worded (value : Value) :
      (Violation.notMapping name value).account = ((sectionRule name).line value, false) := by
    simp [Violation.account, Violation.line, Violation.isTooLong, Rule.line, sectionRule, toString,
      String.append_assoc]
  have subject : settings.subject (sectionRule name) =
      (Mapping.get? (.str name) settings.data).getD .null := by
    rw [subject, get_null, sectionRule, item?_of_documented mem]
  rw [Function.comp_apply, account, complaint, subject]
  cases Mapping.get? (.str name) settings.data with
  | none => rfl
  | some value =>
    have told := worded value
    rw [Option.getD_some]
    cases value with
    | null | map => rfl
    | _ => exact congrArg some told

theorem map_account_violations : settings.violations.map Violation.account =
    settings.broken.map settings.account := by
  have stage : settings.sectionViolations.isEmpty = true ↔
      settings.violated sectionRules = [] := by
    rw [List.isEmpty_iff, ← List.map_eq_nil_iff, map_account_sectionViolations,
      List.map_eq_nil_iff]
  rw [violations, broken]
  by_cases passed : settings.violated sectionRules = []
  · rw [if_pos (stage.2 passed), if_pos passed, map_account_valueViolations]
  · rw [if_neg (mt stage.1 passed), if_neg passed, map_account_sectionViolations]

/-- The lines of a message are those of the violated rules. -/
theorem map_line_violations :
    settings.violations.map Violation.line = settings.broken.map settings.complaint := by
  have lines := congrArg (List.map Prod.fst) (@map_account_violations settings)
  rwa [List.map_map, List.map_map] at lines

theorem violations_eq_nil_iff : settings.violations = [] ↔ settings.broken = [] := by
  rw [← List.map_eq_nil_iff, map_line_violations, List.map_eq_nil_iff]

/-- A message breaks off where a violated rule would show too many digits. -/
theorem any_isTooLong_violations :
    settings.violations.any Violation.isTooLong = true ↔ settings.unspoken ≠ [] := by
  have flags := congrArg (List.map Prod.snd) (@map_account_violations settings)
  rw [List.map_map, List.map_map] at flags
  have same := congrArg (List.any · id) flags
  rw [List.any_map, List.any_map] at same
  rw [unspoken, ne_eq, List.filter_eq_nil_iff, ← not_iff_not, not_not, Bool.not_eq_true,
    show settings.violations.any Violation.isTooLong = _ from same, List.any_eq_false]
  rfl

theorem Rule.isLine_line {rule : Rule} (key : IsLine rule.key) (demand : IsLine rule.demand)
    (shown : ∀ value, IsLine (rule.shown value)) (value : Value) : IsLine (rule.line value) :=
  ((((IsLine.append (by decide) key).append (by decide)).append demand).append
    (by decide)).append (shown value)

theorem isLine_of_mem_valueRules :
    ∀ rule ∈ valueRules, IsLine rule.key ∧ IsLine rule.demand ∧ rule.shown = Value.shown := by
  simp only [valueRules, valueRule, List.forall_mem_cons, and_true]
  exact ⟨by decide, by decide, by decide, by decide, by decide, by decide, by simp⟩

theorem isLine_complaint {rule : Rule} (mem : rule ∈ settings.broken) :
    IsLine (settings.complaint rule) := by
  have known : rule ∈ valueRules ∨ rule ∈ sectionRules := by
    rw [broken] at mem
    split at mem
    · exact .inl (List.mem_filter.1 mem).1
    · exact .inr (List.mem_filter.1 mem).1
  obtain known | known := known
  · obtain ⟨key, demand, shown⟩ := isLine_of_mem_valueRules rule known
    exact Rule.isLine_line key demand (shown ▸ Value.isLine_shown) _
  · obtain ⟨name, isSection, rfl⟩ := List.mem_map.1 known
    have key : ∀ name ∈ documented, IsLine name := by decide
    have demand : IsLine "a mapping" := by decide
    exact Rule.isLine_line (key name isSection) demand Value.isLine_typeName _

/-! ### Settings that pass -/

theorem violated_eq_nil_iff {stage : List Rule} : settings.violated stage = [] ↔
    ∀ rule ∈ stage, rule.isMet (settings.subject rule) = true := by
  simp [violated, List.filter_eq_nil_iff]

theorem get_eq (key : String) (default : Value) : settings.get key default =
    if (settings.get key .null).isNull then default else settings.get key .null := by
  rw [get, get]
  cases set : settings.set? key with
  | none => rfl
  | some value => rw [Option.getD_some, Option.getD_some, isNull_of_set? set]; rfl

/-- A truth value that is checked is the stored one, whatever the default. -/
theorem item?_of_isTruthValue {key : String} (h : isTruthValue (settings.get key .null) = true)
    (default : Value) :
    settings.item? key = some (.bool (settings.get key default).isTruthy) := by
  rw [get_eq]
  rw [get_null] at h ⊢
  cases item : settings.item? key with
  | none => rw [item] at h; cases h
  | some value =>
    rw [item] at h
    cases value with
    | bool => rfl
    | _ => cases h

theorem get_of_orNull {key : String} {test : Value → Bool}
    (h : orNull test (settings.get key .null) = true) {default : Value}
    (holds : test default = true) : test (settings.get key default) = true := by
  rw [get_eq]
  split
  · exact holds
  next present => simpa [orNull, present] using h

theorem usable_of_broken_eq_nil (passed : settings.broken = []) : settings.Usable := by
  have sections : settings.violated sectionRules = [] := by
    by_contra failed
    rw [broken, if_neg failed] at passed
    exact failed passed
  rw [broken, if_pos sections, violated_eq_nil_iff] at passed
  simp only [valueRules, valueRule, List.forall_mem_cons, subject] at passed
  obtain ⟨uniqueMatch, external, limit, shell, indent, -⟩ := passed
  refine ⟨?_, item?_of_isTruthValue uniqueMatch _, item?_of_isTruthValue external _, ?_, ?_, ?_⟩
  · intro name mem value found
    have met := violated_eq_nil_iff.1 sections _ (List.mem_map_of_mem mem)
    rw [subject, get_null, sectionRule, item?_of_documented mem, found, Option.getD_some] at met
    cases value with
    | null => exact .inl rfl
    | map entries => exact .inr ⟨entries, rfl⟩
    | _ => cases met
  · have positive : isPositive settings.maxSubstitutions = true := get_of_orNull limit rfl
    cases value : settings.maxSubstitutions with
    | int n => exact ⟨n, rfl, by simpa [value, isPositive] using positive⟩
    | _ => rw [value] at positive; cases positive
  · rw [shellExecutable]
    cases value : settings.get "shell.executable" .null with
    | null => exact .inl rfl
    | str text => exact .inr ⟨text, rfl⟩
    | _ => rw [value] at shell; cases shell
  · have natural : isNatural settings.indent = true := get_of_orNull indent rfl
    cases value : settings.indent with
    | int n => exact ⟨n, rfl, by simpa [value, isNatural] using natural⟩
    | _ => rw [value] at natural; cases natural

theorem lines_message (failed : settings.broken ≠ []) :
    Text.lines (Fault.invalid settings.violations).message =
      settings.broken.map settings.complaint := by
  have each : ∀ text ∈ settings.broken.map settings.complaint, IsLine text := by
    intro text mem
    obtain ⟨rule, isBroken, rfl⟩ := List.mem_map.1 mem
    exact isLine_complaint isBroken
  have message : (Fault.invalid settings.violations).message =
      String.intercalate "\n" (settings.violations.map Violation.line) := rfl
  rw [message, map_line_violations]
  exact Text.lines_intercalate (by simpa using failed) each

theorem validate_of_unspoken (unspoken : settings.unspoken ≠ []) :
    settings.validate = .error (.mishap (.digits .written)) := by
  have failed : settings.violations ≠ [] := by
    rw [ne_eq, violations_eq_nil_iff]
    intro none
    rw [Settings.unspoken, none] at unspoken
    exact unspoken rfl
  rw [validate, if_neg (by simpa using failed), if_pos (any_isTooLong_violations.2 unspoken)]

theorem validate_of_broken (failed : settings.broken ≠ []) (spoken : settings.unspoken = []) :
    settings.validate = .error (.failure (.configuration (.invalid settings.violations))) := by
  have violated : settings.violations ≠ [] := mt violations_eq_nil_iff.1 failed
  have told : ¬ settings.violations.any Violation.isTooLong = true :=
    mt any_isTooLong_violations.1 (not_not.2 spoken)
  rw [validate, if_neg (by simpa using violated), if_neg told]

/-- Checked settings are usable, or the message about them has one line for each rule of the failing
stage that they violate, unless too many digits would have to be shown in it. -/
theorem validate_usable (settings : Settings) :
    (settings.validate = .ok () ∧ settings.broken = [] ∧ settings.Usable) ∨
      (settings.validate = .error (.mishap (.digits .written)) ∧ settings.unspoken ≠ []) ∨
      ∃ fault, settings.validate = .error (.failure (.configuration fault)) ∧
        settings.broken ≠ [] ∧ settings.unspoken = [] ∧
        Text.lines fault.message = settings.broken.map settings.complaint := by
  by_cases passed : settings.broken = []
  · exact .inl ⟨validate_eq_ok_iff.2 (violations_eq_nil_iff.2 passed), passed,
      usable_of_broken_eq_nil passed⟩
  · by_cases spoken : settings.unspoken = []
    · exact .inr (.inr ⟨_, validate_of_broken passed spoken, passed, spoken, lines_message passed⟩)
    · exact .inr (.inl ⟨validate_of_unspoken spoken, spoken⟩)

/-- An integer where a truth value should be. -/
theorem violations_of_int (n : Int) : Settings.violations ⟨[(.str "resolver", .map
    [(.str "unique_match", .int n), (.str "external", .bool true)])]⟩ =
      [.notTruthValue "resolver.unique_match" (.int n)] := rfl

/-- An integer with too many digits where a truth value should be. -/
theorem validate_of_long {n : Int} (long : Decimal.isTooLong n = true) :
    Settings.validate ⟨[(.str "resolver", .map
      [(.str "unique_match", .int n), (.str "external", .bool true)])]⟩ =
        .error (.mishap (.digits .written)) := by
  rw [validate, violations_of_int, List.isEmpty_cons, if_neg Bool.false_ne_true, List.any_cons,
    Violation.isTooLong, Value.isTooLong, long, Bool.true_or, if_pos rfl]

theorem isTooLong_pow : Decimal.isTooLong (Nat.pow 10 Decimal.digitLimit : Nat) = true := by
  simp only [Decimal.isTooLong, Int.natAbs_natCast, le_refl, decide_true]

/-- A truth value was asked for, and the integer that was given has too many digits for the message
to show it. -/
theorem validate_of_digits :
    let settings : Settings := ⟨[(.str "resolver", .map
      [(.str "unique_match", .int (Nat.pow 10 Decimal.digitLimit : Nat)),
        (.str "external", .bool true)])]⟩
    settings.validate ≠ .ok () ∧
      ∀ fault, settings.validate ≠ .error (.failure (.configuration fault)) := by
  intro settings
  have stopped : settings.validate = .error (.mishap (.digits .written)) :=
    validate_of_long isTooLong_pow
  rw [stopped]
  exact ⟨nofun, nofun⟩

end Settings

end ConfigTemplate
